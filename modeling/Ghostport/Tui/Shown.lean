import Ghostport.Tui.Effects
import Ghostport.Tui.Screen

/-!
# What is on the screen

Results:
* `shown_run`: where the cursors are, and what has been entered in each mode.
* `screen_truthful`: what is on the screen in every reachable state.
-/

namespace Ghostport.Tui

open Ghostport.Core Ghostport.Lib

/-! ## What holds in each mode -/

/-- The tab that is shown, and what has been entered so far. -/
def InMode (base64 : Base64) (app : App) : Prop :=
  match app.mode with
  | .normal => True
  | .chooseTemplate | .addLinkId => app.tab = .links
  | .addLinkDirection => app.tab = .links ∧ app.pendingLinkId.isSome
  | .addLinkAddress => app.tab = .links ∧ app.pendingLinkId.isSome ∧ app.pendingLinkMode.isSome
  | .confirmRemoveLink => app.tab = .links ∧ app.message = none ∧ app.selectedLink.isSome
  | .confirmServiceAction =>
    app.tab = .service ∧ app.message = none ∧ app.pendingServiceAction.isSome
  | .addPeerName => app.tab = .peers ∧ app.config.role = .server
  | .addPeerPublicKey =>
    app.tab = .peers ∧ app.config.role = .server ∧ app.pendingPeerName.isSome
  | .addPeerLinks =>
    app.tab = .peers ∧ app.config.role = .server ∧ app.pendingPeerName.isSome ∧
      (∃ text, app.pendingPeerPublicKey = some text ∧ (decodePublicKey base64 text).isOk) ∧
      app.peerLinksCursor ≤ app.config.links.length - 1
  | .confirmRemovePeer => app.tab = .peers ∧ app.message = none ∧ app.selectedPeer.isSome

/-- Moreover the cursors are on an entry, if there is one. -/
structure Shown (base64 : Base64) (app : App) : Prop where
  links : app.linksSelected ≤ app.config.links.length - 1
  peers : app.peersSelected ≤ app.config.peers.length - 1
  mode : InMode base64 app

section

variable {crates : Crates} {base64 : Base64} {app app' : App} {s s' : State} {code : KeyCode}
  {answers : Answers}

theorem inMode_normal (h : app.mode = .normal) : InMode base64 app := by
  unfold InMode
  rw [h]
  trivial

theorem linkTab_of_inMode (h : InMode base64 app) (hwizard : app.mode.isLinkWizard) :
    app.tab = .links := by
  unfold InMode at h
  cases hmode : app.mode with
  | chooseTemplate | addLinkId =>
    rw [hmode] at h
    exact h
  | addLinkDirection | addLinkAddress =>
    rw [hmode] at h
    exact h.1
  | normal | confirmRemoveLink | confirmServiceAction | addPeerName | addPeerPublicKey
  | addPeerLinks | confirmRemovePeer =>
    rw [hmode] at hwizard
    cases hwizard

theorem peerTab_of_inMode (h : InMode base64 app) (hwizard : app.mode.isPeerWizard) :
    app.tab = .peers ∧ app.config.role = .server := by
  unfold InMode at h
  cases hmode : app.mode with
  | addPeerName =>
    rw [hmode] at h
    exact h
  | addPeerPublicKey | addPeerLinks =>
    rw [hmode] at h
    exact ⟨h.1, h.2.1⟩
  | normal | chooseTemplate | addLinkId | addLinkDirection | addLinkAddress | confirmRemoveLink
  | confirmServiceAction | confirmRemovePeer =>
    rw [hmode] at hwizard
    cases hwizard

/-- Only in the prompts it matters that there is no message. -/
theorem shown_message (h : Shown base64 app) {message : Option String}
    (hmessage : app.mode.isPrompt = true → message = none) :
    Shown base64 { app with message := message } := by
  refine ⟨h.links, h.peers, ?_⟩
  have hin := h.mode
  unfold InMode at hin ⊢
  cases hmode : app.mode with
  | confirmRemoveLink | confirmServiceAction | confirmRemovePeer =>
    rw [hmode] at hin hmessage
    obtain ⟨htab, -, hsome⟩ := hin
    exact ⟨htab, hmessage rfl, hsome⟩
  | normal | chooseTemplate | addLinkId | addLinkDirection | addLinkAddress | addPeerName
  | addPeerPublicKey | addPeerLinks =>
    rw [hmode] at hin
    exact hin

/-! ### Operations -/

theorem shown_refreshed (h : Shown base64 app) (hr : Refreshed app app') : Shown base64 app' := by
  cases hr
  exact ⟨h.links, h.peers, h.mode⟩

/-- A cursor that is moved stays on an entry. -/
theorem moved_le {α : Type} {entries : List α} (h : ¬ entries.isEmpty) (selected : ℕ)
    (delta : ℤ) : App.moved entries.length selected delta ≤ entries.length - 1 := by
  have hlen : 0 < entries.length := by
    rw [List.length_pos_iff]
    simpa using h
  have hlt := App.moved_lt hlen selected delta
  omega

theorem shown_moveLinkSelection (h : Shown base64 app) (hmode : app.mode = .normal) (delta : ℤ) :
    Shown base64 (app.moveLinkSelection delta) := by
  unfold App.moveLinkSelection
  split
  · exact h
  · rename_i hempty
    exact ⟨moved_le hempty _ _, h.peers, inMode_normal hmode⟩

theorem shown_movePeerSelection (h : Shown base64 app) (hmode : app.mode = .normal) (delta : ℤ) :
    Shown base64 (app.movePeerSelection delta) := by
  unfold App.movePeerSelection
  split
  · exact h
  · rename_i hempty
    exact ⟨h.links, moved_le hempty _ _, inMode_normal hmode⟩

theorem shown_beginEditLink (h : Shown base64 app) (htab : app.tab = .links) :
    Shown base64 app.beginEditLink := by
  unfold App.beginEditLink
  split
  · exact h
  · exact ⟨h.links, h.peers, htab⟩

theorem shown_confirmTemplateChoice (h : Shown base64 app) (htab : app.tab = .links) :
    Shown base64 app.confirmTemplateChoice := by
  unfold App.confirmTemplateChoice
  split
  · exact ⟨h.links, h.peers, htab⟩
  · split <;> exact ⟨h.links, h.peers, htab⟩

theorem shown_confirmLinkId (h : Shown base64 app) (htab : app.tab = .links) :
    Shown base64 app.confirmLinkId := by
  unfold App.confirmLinkId
  simp only
  split
  · exact ⟨h.links, h.peers, inMode_normal rfl⟩
  · split
    · rename_i hmode
      exact ⟨h.links, h.peers, htab, rfl, hmode⟩
    · exact ⟨h.links, h.peers, htab, rfl⟩

/-- The position of the entry that has been put in. -/
theorem findIdx_getD_le {α : Type} (p : α → Bool) (l : List α) :
    (l.findIdx? p).getD 0 ≤ l.length - 1 := by
  cases hfind : l.findIdx? p with
  | none => exact Nat.zero_le _
  | some i =>
    obtain ⟨hlt, -⟩ := List.findIdx?_eq_some_iff_getElem.mp hfind
    show i ≤ l.length - 1
    omega

theorem shown_confirmLinkAddress (h : Shown base64 app) (hmode : app.mode = .addLinkAddress) :
    Shown base64 app.confirmLinkAddress := by
  unfold App.confirmLinkAddress
  split
  · simp only
    split
    · exact ⟨h.links, h.peers, inMode_normal rfl⟩
    · split
      · exact shown_message h (by rw [hmode]; nofun)
      · exact ⟨findIdx_getD_le _ _, h.peers, inMode_normal rfl⟩
  · exact ⟨h.links, h.peers, inMode_normal rfl⟩

theorem shown_removeSelectedLink (h : Shown base64 app) :
    Shown base64 app.removeSelectedLink := by
  unfold App.removeSelectedLink
  split
  · rename_i hsel
    obtain ⟨hlt, -⟩ := List.getElem?_eq_some_iff.mp hsel
    have hlen := List.length_eraseIdx_of_lt hlt
    have hle : app.linksSelected - 1 ≤
        (app.config.links.eraseIdx app.linksSelected).length - 1 := by omega
    exact ⟨hle, h.peers, inMode_normal rfl⟩
  · exact ⟨h.links, h.peers, inMode_normal rfl⟩

theorem shown_removeSelectedPeer (h : Shown base64 app) :
    Shown base64 app.removeSelectedPeer := by
  unfold App.removeSelectedPeer
  split
  · rename_i hsel
    obtain ⟨hlt, -⟩ := List.getElem?_eq_some_iff.mp hsel
    have hlen := List.length_eraseIdx_of_lt hlt
    have hle : app.peersSelected - 1 ≤
        (app.config.peers.eraseIdx app.peersSelected).length - 1 := by omega
    exact ⟨h.links, hle, inMode_normal rfl⟩
  · exact ⟨h.links, h.peers, inMode_normal rfl⟩

theorem shown_saveConfig (h : Shown base64 s.app) (hmode : s.app.mode = .normal) :
    Shown base64 (saveConfig crates s answers).app := by
  unfold saveConfig
  cases s.app.config.save crates.base64 crates.toml s.app.configPath s.file answers.write with
  | mk result file =>
    cases result <;> exact ⟨h.links, h.peers, inMode_normal hmode⟩

theorem shown_beginAddPeer (h : Shown base64 app) (hmode : app.mode = .normal)
    (htab : app.tab = .peers) : Shown base64 app.beginAddPeer := by
  unfold App.beginAddPeer
  split
  · exact ⟨h.links, h.peers, inMode_normal hmode⟩
  · rename_i hrole
    exact ⟨h.links, h.peers, htab, not_not.mp hrole⟩

theorem shown_beginEditPeer (h : Shown base64 app) (htab : app.tab = .peers) :
    Shown base64 app.beginEditPeer := by
  unfold App.beginEditPeer
  split
  · exact h
  · rename_i hrole
    split
    · exact h
    · exact ⟨h.links, h.peers, htab, not_not.mp hrole⟩

theorem shown_confirmPeerName (h : Shown base64 app) (htab : app.tab = .peers)
    (hrole : app.config.role = .server) : Shown base64 app.confirmPeerName := by
  unfold App.confirmPeerName
  simp only
  split
  · exact ⟨h.links, h.peers, inMode_normal rfl⟩
  · exact ⟨h.links, h.peers, htab, hrole, rfl⟩

theorem shown_confirmPeerPublicKey (h : Shown base64 app) (htab : app.tab = .peers)
    (hrole : app.config.role = .server) (hname : app.pendingPeerName.isSome)
    (hmode : app.mode = .addPeerPublicKey) : Shown base64 (app.confirmPeerPublicKey base64) := by
  have hc := confirmPeerPublicKey_cases base64 app
  generalize app.confirmPeerPublicKey base64 = app' at hc
  cases hc with
  | missing _ | emptied _ => exact ⟨h.links, h.peers, inMode_normal rfl⟩
  | rejected => exact shown_message h (by rw [hmode]; nofun)
  | confirmed hkey =>
    exact ⟨h.links, h.peers, htab, hrole, hname, ⟨_, rfl, by rw [hkey]; rfl⟩, Nat.zero_le _⟩

theorem shown_confirmPeerLinks (h : Shown base64 app) : Shown base64 app.confirmPeerLinks := by
  unfold App.confirmPeerLinks
  split
  · exact ⟨h.links, findIdx_getD_le _ _, inMode_normal rfl⟩
  · exact ⟨h.links, h.peers, inMode_normal rfl⟩

theorem shown_movePeerLinksCursor (h : Shown base64 app) (hmode : app.mode = .addPeerLinks)
    (delta : ℤ) : Shown base64 (app.movePeerLinksCursor delta) := by
  unfold App.movePeerLinksCursor
  split
  · exact h
  · rename_i hempty
    have hin := h.mode
    unfold InMode at hin
    rw [hmode] at hin
    obtain ⟨htab, hrole, hname, hkey, -⟩ := hin
    refine ⟨h.links, h.peers, ?_⟩
    unfold InMode
    simp only [hmode]
    exact ⟨htab, hrole, hname, hkey, moved_le hempty _ _⟩

theorem shown_togglePeerLink (h : Shown base64 app) : Shown base64 app.togglePeerLink := by
  unfold App.togglePeerLink
  split
  · exact h
  · exact ⟨h.links, h.peers, h.mode⟩

theorem shown_runPendingServiceAction (h : Shown base64 app) (hmode : app.mode = .normal) :
    Shown base64 (runPendingServiceAction app answers).1 := by
  have hidle : Shown base64 { app with pendingServiceAction := none } :=
    ⟨h.links, h.peers, inMode_normal hmode⟩
  exact shown_refreshed hidle (runPendingServiceAction_app app answers)

theorem shown_typed (h : Shown base64 app) : Shown base64 (typed app code) := by
  cases code with
  | backspace | char c => exact ⟨h.links, h.peers, h.mode⟩
  | enter | esc | tab | up | down | other => exact h

theorem shown_cancelLinkWizard (h : Shown base64 app) : Shown base64 app.cancelLinkWizard :=
  ⟨h.links, h.peers, inMode_normal rfl⟩

theorem shown_cancelPeerWizard (h : Shown base64 app) : Shown base64 app.cancelPeerWizard :=
  ⟨h.links, h.peers, inMode_normal rfl⟩

/-! ### Keys -/

theorem shown_handleLinksTab (h : Shown base64 s.app) (hmode : s.app.mode = .normal)
    (htab : s.app.tab = .links) (hmessage : s.app.message = none) :
    Shown base64 (handleLinksTab crates s code answers).app := by
  unfold handleLinksTab
  split
  · exact shown_moveLinkSelection h hmode 1
  · split
    · exact shown_moveLinkSelection h hmode (-1)
    · split
      · exact ⟨h.links, h.peers, htab⟩
      · split
        · split
          · exact shown_beginEditLink h htab
          · exact h
        · split
          · split
            · rename_i hsel
              exact ⟨h.links, h.peers, htab, hmessage, hsel⟩
            · exact h
          · split
            · exact shown_saveConfig h hmode
            · exact h

theorem shown_handlePeersTab (h : Shown base64 s.app) (hmode : s.app.mode = .normal)
    (htab : s.app.tab = .peers) (hmessage : s.app.message = none) :
    Shown base64 (handlePeersTab crates s code answers).app := by
  unfold handlePeersTab
  split
  · exact shown_movePeerSelection h hmode 1
  · split
    · exact shown_movePeerSelection h hmode (-1)
    · split
      · exact shown_beginAddPeer h hmode htab
      · split
        · split
          · exact shown_beginEditPeer h htab
          · exact h
        · split
          · split
            · rename_i hsel
              exact ⟨h.links, h.peers, htab, hmessage, hsel⟩
            · exact h
          · split
            · exact shown_saveConfig h hmode
            · exact h

theorem shown_handleServiceTab (h : Shown base64 app) (hmode : app.mode = .normal)
    (htab : app.tab = .service) (hmessage : app.message = none) :
    Shown base64 (handleServiceTab app code answers).1 := by
  unfold handleServiceTab
  split
  · exact ⟨h.links, h.peers, inMode_normal hmode⟩
  · split
    · exact ⟨h.links, h.peers, inMode_normal hmode⟩
    · split
      · by_cases hlogs : app.selectedServiceAction = .viewLogs
        · rw [activate_viewLogs hlogs]
          have hnormal : ({ app with pendingServiceAction := some .viewLogs } : App).mode =
              .normal := hmode
          rw [if_pos hnormal]
          exact shown_runPendingServiceAction ⟨h.links, h.peers, inMode_normal hmode⟩ hmode
        · rw [activate_confirm hlogs]
          have hprompt : ¬ Mode.confirmServiceAction = .normal := by decide
          rw [if_neg hprompt]
          exact ⟨h.links, h.peers, htab, hmessage, rfl⟩
      · exact h

theorem shown_handleNormal (h : Shown base64 s.app) (hmode : s.app.mode = .normal)
    (hmessage : s.app.message = none) :
    Shown base64 (handleNormal crates s code answers).1.app := by
  unfold handleNormal
  split
  · exact ⟨h.links, h.peers, inMode_normal hmode⟩
  · split
    · exact ⟨h.links, h.peers, inMode_normal hmode⟩
    · split
      · exact ⟨h.links, h.peers, inMode_normal hmode⟩
      · split
        · exact ⟨h.links, h.peers, inMode_normal hmode⟩
        · split
          · exact ⟨h.links, h.peers, inMode_normal hmode⟩
          · split
            · exact ⟨h.links, h.peers, inMode_normal hmode⟩
            · cases htab : s.app.tab with
              | links => exact shown_handleLinksTab h hmode htab hmessage
              | service => exact shown_handleServiceTab h hmode htab hmessage
              | peers => exact shown_handlePeersTab h hmode htab hmessage
              | status =>
                simp only
                split
                · exact shown_refreshed h (refreshed_applyStatus _ _ _)
                · exact h

theorem shown_handleChooseTemplate (h : Shown base64 app) (hmode : app.mode = .chooseTemplate) :
    Shown base64 (handleChooseTemplate app code) := by
  have htab := h.mode
  unfold InMode at htab
  rw [hmode] at htab
  unfold handleChooseTemplate
  split
  · exact shown_cancelLinkWizard h
  · split
    · exact ⟨h.links, h.peers, h.mode⟩
    · split
      · exact ⟨h.links, h.peers, h.mode⟩
      · split
        · exact shown_confirmTemplateChoice h htab
        · exact h

theorem shown_handleLinkTextInput (h : Shown base64 app) :
    Shown base64 (handleLinkTextInput app code) := by
  unfold handleLinkTextInput
  split
  · exact shown_cancelLinkWizard h
  · split
    · split
      · rename_i hmode
        have htab := h.mode
        unfold InMode at htab
        rw [hmode] at htab
        exact shown_confirmLinkId h htab
      · rename_i hmode
        exact shown_confirmLinkAddress h hmode
      · exact h
    · exact shown_typed h

theorem shown_handleLinkModeChoice (h : Shown base64 app) (hmode : app.mode = .addLinkDirection) :
    Shown base64 (handleLinkModeChoice app code) := by
  have hin := h.mode
  unfold InMode at hin
  rw [hmode] at hin
  unfold handleLinkModeChoice
  split
  · exact shown_cancelLinkWizard h
  · split
    · exact ⟨h.links, h.peers, hin.1, hin.2, rfl⟩
    · split
      · exact ⟨h.links, h.peers, hin.1, hin.2, rfl⟩
      · exact h

theorem shown_handlePeerTextInput (h : Shown base64 app) :
    Shown base64 (handlePeerTextInput base64 app code) := by
  have hin := h.mode
  unfold InMode at hin
  unfold handlePeerTextInput
  split
  · exact shown_cancelPeerWizard h
  · split
    · split
      · rename_i hmode
        rw [hmode] at hin
        exact shown_confirmPeerName h hin.1 hin.2
      · rename_i hmode
        rw [hmode] at hin
        exact shown_confirmPeerPublicKey h hin.1 hin.2.1 hin.2.2 hmode
      · exact h
    · exact shown_typed h

theorem shown_handlePeerLinksChecklist (h : Shown base64 app) (hmode : app.mode = .addPeerLinks) :
    Shown base64 (handlePeerLinksChecklist app code) := by
  unfold handlePeerLinksChecklist
  split
  · exact shown_cancelPeerWizard h
  · split
    · exact shown_movePeerLinksCursor h hmode 1
    · split
      · exact shown_movePeerLinksCursor h hmode (-1)
      · split
        · exact shown_togglePeerLink h
        · split
          · exact shown_confirmPeerLinks h
          · exact h

theorem shown_handleKey (h : Shown crates.base64 s.app) (hmessage : s.app.message = none) :
    Shown crates.base64 (handleKey crates s code answers).1.app := by
  have dismissed : Shown crates.base64 { s.app with mode := .normal } :=
    ⟨h.links, h.peers, inMode_normal rfl⟩
  unfold handleKey
  cases hmode : s.app.mode with
  | normal => exact shown_handleNormal h hmode hmessage
  | chooseTemplate => exact shown_handleChooseTemplate h hmode
  | addLinkId | addLinkAddress => exact shown_handleLinkTextInput h
  | addLinkDirection => exact shown_handleLinkModeChoice h hmode
  | addPeerName | addPeerPublicKey => exact shown_handlePeerTextInput h
  | addPeerLinks => exact shown_handlePeerLinksChecklist h hmode
  | confirmRemoveLink =>
    simp only [handleConfirmRemoveLink]
    split
    · exact shown_removeSelectedLink h
    · exact dismissed
  | confirmRemovePeer =>
    simp only [handleConfirmRemovePeer]
    split
    · exact shown_removeSelectedPeer h
    · exact dismissed
  | confirmServiceAction =>
    simp only [handleConfirmServiceAction]
    split
    · exact shown_runPendingServiceAction dismissed rfl
    · exact ⟨h.links, h.peers, inMode_normal rfl⟩

/-! ### Runs -/

theorem shown_step {input : Input} {es : List Event} (h : Shown crates.base64 s.app)
    (hst : step crates s input = some (s', es)) : Shown crates.base64 s'.app := by
  unfold step at hst
  split at hst
  · cases hst
  · cases input with
    | key code answers =>
      have hcleared : Shown crates.base64 (cleared s.app) := shown_message h fun _ => rfl
      have hkey := @shown_handleKey crates { s with app := cleared s.app } code answers hcleared rfl
      obtain ⟨rfl, -⟩ := Prod.mk.inj (Option.some.inj hst)
      exact hkey
    | idle answers =>
      cases hst
      exact shown_refreshed h (refreshed_idleTick _ _)
    | other =>
      cases hst
      exact h

theorem shown_start {configPath : String} {file : File}
    (h : start crates configPath file answers = .ok s) : Shown base64 s.app := by
  unfold start at h
  cases hload : Config.load crates.toml configPath file with
  | error e =>
    rw [hload] at h
    cases h
  | ok config =>
    rw [hload] at h
    obtain rfl := Except.ok.inj h
    have hnew : Shown base64 (refreshServiceInfo (App.new configPath config) answers) :=
      ⟨Nat.zero_le _, Nat.zero_le _, inMode_normal rfl⟩
    exact shown_refreshed hnew (refreshed_applyStatus _ _ _)

theorem shown_run {inputs : List Input} {tr : List Event}
    (h : TuiRun crates Free inputs s tr) : Shown crates.base64 s.app := by
  obtain ⟨configPath, file, answers, s₀, hstart, hrun⟩ := h
  exact hrun.invariant (I := fun s _ => Shown crates.base64 s.app) (shown_start hstart)
    fun _ _ _ _ _ hshown _ hst => shown_step hshown hst

/-! ## Rows -/

/-- Of the rows that are drawn only that of the cursor is highlighted. -/
theorem filter_mapIdx {α β : Type} (row : Bool → α → β) {selected : β → Bool}
    (hselected : ∀ b a, selected (row b a) = b) (entries : List α) (i : ℕ) :
    (entries.mapIdx fun j a => row (j = i) a).filter selected =
      (entries[i]?.map (row true)).toList := by
  induction entries generalizing i with
  | nil => rfl
  | cons a entries ih =>
    rw [List.mapIdx_cons]
    cases i with
    | zero =>
      have hrest : (entries.mapIdx fun j a => row (decide (j + 1 = 0)) a).filter selected = [] := by
        rw [List.filter_eq_nil_iff]
        intro b hb
        obtain ⟨j, hj, rfl⟩ := List.mem_mapIdx.mp hb
        rw [hselected]
        simp
      rw [List.filter_cons_of_pos (by rw [hselected]; rfl), hrest]
      rfl
    | succ i =>
      rw [List.filter_cons_of_neg (by rw [hselected]; simp)]
      simpa using ih i

theorem exists_getElem {α : Type} {entries : List α} {i : ℕ} (hne : entries ≠ [])
    (hle : i ≤ entries.length - 1) : ∃ a, entries[i]? = some a := by
  have hlen := List.length_pos_iff.mpr hne
  exact ⟨_, List.getElem?_eq_getElem (by omega)⟩

/-! ## Results -/

/-- What is on the screen. -/
structure ScreenTruthful (sha256 : List UInt8 → List UInt8) (base64 : Base64) (app : App) :
    Prop where
  /-- One row of the links is highlighted, that of the link which the keys work on. -/
  links : app.tab = .links → app.config.links ≠ [] →
    ∃ link rows, app.selectedLink = some link ∧
      (draw sha256 base64 app).body = .links (linksTitle app.dirty) rows ∧
      rows.filter LinkRow.selected = [linkRow true link]
  /-- The same for the peers. -/
  peers : app.tab = .peers → app.config.role = .server → app.config.peers ≠ [] →
    ∃ peer rows, app.selectedPeer = some peer ∧
      (draw sha256 base64 app).body = .peers (peersTitle app.dirty) rows ∧
      rows.filter PeerRow.selected = [peerRow sha256 base64 true peer]
  /-- The same for the checklist of a peer. -/
  checklist : app.mode = .addPeerLinks → app.config.links ≠ [] →
    ∃ link title rows, app.config.links[app.peerLinksCursor]? = some link ∧
      (draw sha256 base64 app).inputLine = some (.checklist title rows) ∧
      rows.filter CheckRow.selected = [checkRow app true link]
  /-- A wizard runs over the tab of its entries. -/
  linkWizard : app.mode.isLinkWizard → (draw sha256 base64 app).body = drawLinks app
  peerWizard : app.mode.isPeerWizard → ∃ title rows,
    (draw sha256 base64 app).body = .peers title rows
  /-- The last step of the link wizard says which address it asks for. -/
  label : app.mode = .addLinkAddress → ∃ needsListen,
    app.pendingLinkNeedsListen = some needsListen ∧
    (draw sha256 base64 app).inputLine = some (.text
      (addressTitle app.isEditing (some needsListen)) app.inputBuffer
      (addressHint app.linkAddressInputStatus))
  /-- While a removal waits for its answer the question is shown, over the tab of the entry. -/
  removesLink : app.mode = .confirmRemoveLink → app.selectedLink.isSome ∧
    (draw sha256 base64 app).footer = .question "remove this port? y/n" ∧
    (draw sha256 base64 app).body = drawLinks app
  removesPeer : app.mode = .confirmRemovePeer → app.selectedPeer.isSome ∧
    (draw sha256 base64 app).footer = .question "remove this peer? y/n" ∧
    (draw sha256 base64 app).body = drawPeers sha256 base64 app
  /-- While an action waits its question names it. -/
  asksService : app.mode = .confirmServiceAction → ∃ action,
    app.pendingServiceAction = some action ∧
    (draw sha256 base64 app).footer = .question "confirm? y/n" ∧
    (draw sha256 base64 app).body = .question (action.label ++ "? this needs sudo — y/n")

theorem peers_of_role {sha256 : List UInt8 → List UInt8} (h : app.config.role = .server) :
    drawPeers sha256 base64 app = .peers (peersTitle app.dirty)
      (app.config.peers.mapIdx fun i p => peerRow sha256 base64 (i = app.peersSelected) p) :=
  if_neg (not_not.mpr h)

theorem screenTruthful_of_shown (sha256 : List UInt8 → List UInt8) (h : Shown base64 app) :
    ScreenTruthful sha256 base64 app := by
  have hin := h.mode
  unfold InMode at hin
  constructor
  case links =>
    intro htab hne
    obtain ⟨link, hlink⟩ := exists_getElem hne h.links
    refine ⟨link, _, hlink, by unfold draw; rw [htab]; rfl, ?_⟩
    rw [filter_mapIdx linkRow (fun _ _ => rfl), hlink]
    rfl
  case peers =>
    intro htab hrole hne
    obtain ⟨peer, hpeer⟩ := exists_getElem hne h.peers
    refine ⟨peer, _, hpeer, by unfold draw; rw [htab]; exact peers_of_role hrole, ?_⟩
    rw [filter_mapIdx (peerRow sha256 base64) (fun _ _ => rfl), hpeer]
    rfl
  case checklist =>
    intro hmode hne
    rw [hmode] at hin
    obtain ⟨-, -, -, -, hcursor⟩ := hin
    obtain ⟨link, hlink⟩ := exists_getElem hne hcursor
    have hempty : app.config.links.isEmpty = false := by simpa using hne
    refine ⟨link, verb app.isEditingPeer ++ " peer — links this peer may use", checkRows app, hlink,
      ?_, ?_⟩
    · unfold draw drawInputLine
      rw [hmode]
      simp [hempty]
    · unfold checkRows
      rw [filter_mapIdx (checkRow app) (fun _ _ => rfl), hlink]
      rfl
  case linkWizard =>
    intro hwizard
    unfold draw
    rw [linkTab_of_inMode h.mode hwizard]
  case peerWizard =>
    intro hwizard
    obtain ⟨htab, hrole⟩ := peerTab_of_inMode h.mode hwizard
    have hbody : (draw sha256 base64 app).body = drawPeers sha256 base64 app := by
      unfold draw
      rw [htab]
    exact ⟨_, _, hbody.trans (peers_of_role hrole)⟩
  case label =>
    intro hmode
    rw [hmode] at hin
    obtain ⟨mode, hlink⟩ := Option.isSome_iff_exists.mp hin.2.2
    have hneeds : app.pendingLinkNeedsListen = some (app.config.linkNeedsListen mode) := by
      rw [App.pendingLinkNeedsListen, hlink]
      rfl
    refine ⟨_, hneeds, ?_⟩
    unfold draw drawInputLine
    rw [hmode, hneeds]
  case removesLink =>
    intro hmode
    rw [hmode] at hin
    obtain ⟨htab, hmessage, hsome⟩ := hin
    refine ⟨hsome, ?_, ?_⟩
    · unfold draw drawFooter
      rw [hmessage, hmode]
      rfl
    · unfold draw
      rw [htab]
  case removesPeer =>
    intro hmode
    rw [hmode] at hin
    obtain ⟨htab, hmessage, hsome⟩ := hin
    refine ⟨hsome, ?_, ?_⟩
    · unfold draw drawFooter
      rw [hmessage, hmode]
      rfl
    · unfold draw
      rw [htab]
  case asksService =>
    intro hmode
    rw [hmode] at hin
    obtain ⟨htab, hmessage, hsome⟩ := hin
    obtain ⟨action, haction⟩ := Option.isSome_iff_exists.mp hsome
    refine ⟨action, haction, ?_, ?_⟩
    · unfold draw drawFooter
      rw [hmessage, hmode]
      rfl
    · unfold draw drawService
      rw [htab, haction, if_pos hmode]

end

end Ghostport.Tui
