import Ghostport.Tui.Wizards

/-!
# The links of the peers

A peer lists the ids of the links that it may use. The TUI edits links and peers separately: a
link that is renamed or removed stays in the lists of the peers.

Results:
* `checked_step`: what is ticked in the peer wizard is defined.
* `intact_step`: exactly which steps leave all listed ids defined.
* `references_iff`: over whole runs.
-/

namespace Ghostport.Core.Config

open Ghostport.Lib

/-- Every id in the list of a peer is that of a link. -/
def Intact (c : Config) : Prop := Resolved PeerConfig.links c.peers (c.links.map LinkConfig.id)

instance (c : Config) : Decidable c.Intact :=
  inferInstanceAs
    (Decidable (∀ peer ∈ c.peers, ∀ id ∈ peer.links, id ∈ c.links.map LinkConfig.id))

/-- Some peer lists the id. -/
def Lists (c : Config) (id : String) : Prop := ∃ peer ∈ c.peers, id ∈ peer.links

theorem intact_of_valid {c : Config} {base64 : Base64} (h : c.validate base64 = []) :
    c.Intact := by
  have hrules := validate_eq_nil_iff.mp h
  intro peer hpeer id hid
  cases hrole : c.role with
  | server =>
    obtain ⟨link, hlink, rfl⟩ := (hrules.server hrole).peers.links peer hpeer id hid
    exact List.mem_map_of_mem hlink
  | client =>
    rw [(hrules.client hrole).peers] at hpeer
    cases hpeer

end Ghostport.Core.Config

namespace Ghostport.Tui

open Ghostport.Core Ghostport.Lib Ghostport.Net

/-! ## The steps that change the ids -/

/-- The key completes the link wizard, and the link `old` becomes `id`. -/
structure Renames (app : App) (input : Input) (old id : String) : Prop
    extends CompletesLink app input where
  editing : app.editingOriginalId = some old
  pendingId : app.pendingLinkId = some id
  pendingMode : app.pendingLinkMode.isSome

/-- The key removes the link. -/
structure Removes (app : App) (input : Input) (link : LinkConfig) : Prop where
  yes : ∃ code answers, input = .key code answers ∧ code.isYes
  mode : app.mode = .confirmRemoveLink
  selected : app.selectedLink = some link

/-- No link whose id a peer lists is removed or renamed. -/
structure KeepsListed (s : State) (input : Input) : Prop where
  removed : ∀ link, Removes s.app input link → ¬ s.app.config.Lists link.id
  renamed : ∀ old id, Renames s.app input old id → old ≠ id → ¬ s.app.config.Lists old

section

variable {crates : Crates} {s s' s₀ : State} {input : Input} {es tr : List Event}
  {inputs : List Input}

theorem step_removes {link : LinkConfig} (h : Removes s.app input link)
    (hst : step crates s input = some (s', es)) :
    s'.app.config =
      { s.app.config with links := s.app.config.links.eraseIdx s.app.linksSelected } := by
  obtain ⟨code, answers, rfl, hyes⟩ := h.yes
  have hkey := step_key hst
  have hsome : (cleared s.app).config.links[(cleared s.app).linksSelected]? = some link :=
    h.selected
  have hmode : (cleared s.app).mode = .confirmRemoveLink := h.mode
  simp only [handleKey, hmode, handleConfirmRemoveLink, hyes, if_true] at hkey
  obtain ⟨rfl, -⟩ := Prod.mk.inj hkey
  unfold App.removeSelectedLink
  rw [hsome]
  rfl

theorem step_renames {old id : String} (h : Renames s.app input old id)
    (hst : step crates s input = some (s', es)) : ∃ link : LinkConfig, link.id = id ∧
      s'.app.config =
        { s.app.config with
          links := upsert LinkConfig.id (some old) link s.app.config.links } := by
  obtain ⟨mode, hmode⟩ := Option.isSome_iff_exists.mp h.pendingMode
  have hconfig := (linkCompleted h.toCompletesLink h.pendingId hmode hst).1
  rw [h.editing] at hconfig
  exact ⟨_, newLink_id _ _ _ _, hconfig⟩

/-! ## What is ticked -/

/-- The ids are distinct, and what is ticked in the peer wizard is defined. -/
structure Checked (app : App) : Prop where
  ids : (app.config.links.map LinkConfig.id).Nodup
  ticked : app.mode.isPeerWizard → ∀ id ∈ app.pendingPeerLinks,
    id ∈ app.config.links.map LinkConfig.id

theorem ids_step (hids : (s.app.config.links.map LinkConfig.id).Nodup)
    (hst : step crates s input = some (s', es)) :
    (s'.app.config.links.map LinkConfig.id).Nodup := by
  cases step_effect hst with
  | kept hkept _ => rwa [hkept.config]
  | linkPut _ _ _ hconfig _ _ _ =>
    rw [hconfig]
    exact nodup_upsert hids
  | linkTaken _ _ _ _ hconfig _ _ _ =>
    rw [hconfig]
    exact nodup_eraseIdx hids _
  | peerPut _ _ _ _ hconfig _ _ _ | peerTaken _ _ _ _ hconfig _ _ _ => rwa [hconfig]
  | saved _ _ heq =>
    rw [heq, (saveConfig_app _ _ _).1]
    exact hids

/-- The config does not change where a peer wizard goes on. -/
theorem config_of_peerWizard (hst : step crates s input = some (s', es))
    (hin : s'.app.mode.isPeerWizard) : s'.app.config = s.app.config := by
  cases step_effect hst with
  | kept hkept _ => exact hkept.config
  | linkPut _ _ _ _ _ hmode _ | linkTaken _ _ _ _ _ _ hmode _ | peerPut _ _ _ _ _ _ hmode _
  | peerTaken _ _ _ _ _ _ hmode _ =>
    rw [hmode] at hin
    cases hin
  | saved _ _ heq =>
    rw [heq, (saveConfig_app _ _ _).1]
    rfl

theorem ticked_key {code : KeyCode} {answers : Answers} (hchecked : Checked s.app)
    (hintact : s.app.config.Intact)
    (hc : KeyCase crates answers (cleared s.app) s.file code s' es)
    (hin : s'.app.mode.isPeerWizard) :
    ∀ id ∈ s'.app.pendingPeerLinks, id ∈ s.app.config.links.map LinkConfig.id := by
  by_cases hpeer : (cleared s.app).mode.isPeerWizard
  · intro id hid
    rcases (peerKey_of_case hpeer hc).1.ticked id hid with hid | hid
    · exact hchecked.ticked hpeer id hid
    · exact hid
  · have hlink : ¬ (cleared s.app).mode.isLinkWizard := by
      intro hlink
      have hmode := (linkKey_of_case hlink hc).1.mode_cases hlink
      revert hin hmode
      cases s'.app.mode <;> simp [Mode.isPeerWizard, Mode.isLinkWizard]
    obtain ⟨-, hbegins⟩ := begins_of_case hc (not_or.mpr ⟨hlink, hpeer⟩) (.inr hin)
    generalize s'.app = app' at hbegins hin ⊢
    cases hbegins with
    | linkAdded _ | linkEdited _ _ => cases hin
    | peerAdded _ _ =>
      intro id hid
      cases hid
    | peerEdited _ hsel => exact hintact _ (List.mem_of_getElem? hsel)

theorem checked_step (hchecked : Checked s.app) (hintact : s.app.config.Intact)
    (hst : step crates s input = some (s', es)) : Checked s'.app := by
  refine ⟨ids_step hchecked.ids hst, fun hin => ?_⟩
  rw [config_of_peerWizard hst hin]
  cases step_cases hst with
  | other => exact hchecked.ticked hin
  | @idle answers =>
    have hr := refreshed_idleTick s.app answers
    simp only at hin ⊢
    generalize idleTick s.app answers = app' at hr hin ⊢
    cases hr
    exact hchecked.ticked hin
  | key hc => exact ticked_key hchecked hintact hc hin

/-! ## References -/

theorem intact_removes {link : LinkConfig} (hids : (s.app.config.links.map LinkConfig.id).Nodup)
    (hintact : s.app.config.Intact) (h : Removes s.app input link)
    (hst : step crates s input = some (s', es)) :
    s'.app.config.Intact ↔ ¬ s.app.config.Lists link.id := by
  obtain ⟨hlt, hget⟩ := List.getElem?_eq_some_iff.mp h.selected
  have herase := Resolved.eraseIdx_iff hintact hids hlt
  rw [hget] at herase
  rw [step_removes h hst]
  refine herase.trans ⟨?_, ?_⟩
  · rintro hall ⟨peer, hpeer, hid⟩
    exact hall peer hpeer hid
  · intro hnot peer hpeer hid
    exact hnot ⟨peer, hpeer, hid⟩

theorem intact_renames {old id : String} (hintact : s.app.config.Intact)
    (h : Renames s.app input old id) (hst : step crates s input = some (s', es)) :
    s'.app.config.Intact ↔ (old ≠ id → ¬ s.app.config.Lists old) := by
  obtain ⟨link, rfl, hconfig⟩ := step_renames h hst
  rw [hconfig]
  refine (Resolved.upsert_iff hintact).trans ⟨?_, ?_⟩
  · rintro hall hne ⟨peer, hpeer, hid⟩
    exact hne (hall peer hpeer old hid rfl)
  · intro hnot peer hpeer id hid hold
    obtain rfl := Option.some.inj hold
    by_contra hne
    exact hnot hne ⟨peer, hpeer, hid⟩

/-- A step that neither removes nor renames a link. -/
theorem intact_other (hchecked : Checked s.app) (hintact : s.app.config.Intact)
    (hremoves : ∀ link, ¬ Removes s.app input link)
    (hrenames : ∀ old id, ¬ Renames s.app input old id)
    (hst : step crates s input = some (s', es)) : s'.app.config.Intact := by
  cases step_effect hst with
  | kept hkept _ => rwa [hkept.config]
  | @linkPut answers link hinput hmode hconfirms hconfig _ _ _ =>
    rw [hconfig]
    refine (Resolved.upsert_iff hintact).mpr ?_
    intro peer hpeer id hid hold
    obtain ⟨id', mode, hid', hmode', -⟩ := hconfirms.entry
    exact absurd ⟨⟨⟨_, hinput⟩, hmode, hconfirms.nonempty, hconfirms.parses⟩, hold.symm, hid',
      by rw [hmode']; rfl⟩ (hrenames id id')
  | linkTaken hinput hyes hmode hsel _ _ _ _ =>
    exact absurd ⟨⟨_, _, hinput, hyes⟩, hmode, hsel⟩ (hremoves _)
  | peerPut _ hmode _ _ hconfig _ _ _ =>
    rw [hconfig]
    exact Resolved.upsert_refs hintact (hchecked.ticked (by rw [hmode]; rfl))
  | peerTaken _ _ _ _ hconfig _ _ _ =>
    rw [hconfig]
    exact Resolved.eraseIdx_refs hintact _
  | saved _ _ heq =>
    rw [heq, (saveConfig_app _ _ _).1]
    exact hintact

/-- A step keeps all listed ids defined exactly if it removes and renames no listed link. -/
theorem intact_step (hchecked : Checked s.app) (hintact : s.app.config.Intact)
    (hst : step crates s input = some (s', es)) :
    s'.app.config.Intact ↔ KeepsListed s input := by
  constructor
  · intro hintact'
    exact ⟨fun link h => (intact_removes hchecked.ids hintact h hst).mp hintact',
      fun old id h => (intact_renames hintact h hst).mp hintact'⟩
  · intro hkeeps
    by_cases hremoves : ∃ link, Removes s.app input link
    · obtain ⟨link, h⟩ := hremoves
      exact (intact_removes hchecked.ids hintact h hst).mpr (hkeeps.removed link h)
    · by_cases hrenames : ∃ old id, Renames s.app input old id
      · obtain ⟨old, id, h⟩ := hrenames
        exact (intact_renames hintact h hst).mpr (hkeeps.renamed old id h)
      · exact intact_other hchecked hintact (not_exists.mp hremoves)
          (fun old id h => hrenames ⟨old, id, h⟩) hst

/-- In every run from a valid config: the listed ids are defined in every state exactly if no
    step removes or renames a link whose id a peer lists. -/
theorem references_iff {configPath : String} {file : File} {answers : Answers}
    (hstart : start crates configPath file answers = .ok s₀)
    (hvalid : s₀.app.config.validate crates.base64 = [])
    (hrun : Run (step crates) Free s₀ inputs s tr) :
    Always (step crates) s₀ (fun t => t.app.config.Intact) inputs ↔
      Run (step crates) KeepsListed s₀ inputs s tr := by
  have hnormal := (start_idle hstart).1
  have hchecked : Checked s₀.app := by
    refine ⟨Config.ids_nodup hvalid, fun hin => ?_⟩
    rw [hnormal] at hin
    cases hin
  exact @Run.always_iff _ _ _ (step crates) KeepsListed s₀ s inputs tr (fun t => Checked t.app)
    (fun t => t.app.config.Intact) hchecked (Config.intact_of_valid hvalid)
    (fun _ _ _ _ hchecked hintact hst => checked_step hchecked hintact hst)
    (fun _ _ _ _ hchecked hintact hst => intact_step hchecked hintact hst) hrun

end

/-! ### The link that the peer lists, and the one that it does not -/

theorem exampleConfig_valid : exampleConfig.validate .standard = [] := by
  decide +kernel

/-- The link of the peer is removed, or renamed, and the config cannot be saved any more. -/
theorem listed_undefined :
    start exampleCrates "/etc/ghostport/config.toml" (some (utf8 exampleText.toList))
      exampleAnswers = .ok exampleStart ∧
    exampleStart.app.config.validate .standard = [] ∧ exampleStart.app.config.role = .server ∧
    (∃ s, Run (step exampleCrates) Free exampleStart (press "2dy") s [] ∧
      ¬ s.app.config.Intact ∧ s.app.config.validate .standard ≠ []) ∧
    ∃ s, Run (step exampleCrates) Free exampleStart (press "2ex\nf\n") s [] ∧
      ¬ s.app.config.Intact ∧ s.app.config.validate .standard ≠ [] :=
  ⟨start_example, exampleConfig_valid, rfl, exists_exampleRun (by decide +kernel),
    exists_exampleRun (by decide +kernel)⟩

/-- The other link is removed. -/
theorem references_iff_unlisted : ∃ s,
    Run (step exampleCrates) KeepsListed exampleStart (press "2jdy") s [] ∧
      s.app.config = exampleSmaller := by
  obtain ⟨s, hrun, hconfig⟩ : ∃ s, Run (step exampleCrates)
      (fun s input => ∀ r ∈ step exampleCrates s input, r.1.app.config.Intact) exampleStart
      (press "2jdy") s [] ∧ s.app.config = exampleSmaller :=
    exists_exampleRun (by decide +kernel)
  have halways : Always (step exampleCrates) exampleStart (fun t => t.app.config.Intact)
      (press "2jdy") := hrun.always (by decide +kernel)
  exact ⟨s, (references_iff start_example exampleConfig_valid hrun.free).mp halways, hconfig⟩

end Ghostport.Tui
