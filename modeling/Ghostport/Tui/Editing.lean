import Mathlib.Data.List.Perm.Basic
import Ghostport.Core.Validation
import Ghostport.Tui.Wizards

/-!
# Editing a link

The wizard that edits a link is the one that adds a link. It asks for an id, a mode and an
address, and builds an entry from them alone, whose transport is TCP. What else has the old id or
the new one is removed.

Results:
* `validate_exchanged`: a valid config with another address in one link.
* `editPreserves_iff`: exactly when the rest of the config, the transport included, is preserved.
* `udpLink_lost`: a UDP link whose address is confirmed becomes a TCP link.
-/

namespace Ghostport.Core.Config

/-- A link in a valid config exchanged for one with the same id, mode and transport. -/
theorem validate_exchanged {c : Config} {base64 : Base64} {link entry : LinkConfig}
    {rest : List LinkConfig} (hvalid : c.validate base64 = [])
    (hlinks : c.links.Perm (rest ++ [link])) (hid : entry.id = link.id)
    (hmode : entry.mode = link.mode) (htransport : entry.transport = link.transport)
    (hentry : c.validateLink entry = []) :
    ({ c with links := rest ++ [entry] } : Config).validate base64 = [] := by
  have hrules := validate_eq_nil_iff.mp hvalid
  have hexists : ∀ P : LinkConfig → Prop, (P entry ↔ P link) →
      ((∃ l ∈ rest ++ [entry], P l) ↔ ∃ l ∈ c.links, P l) := by
    intro P hP
    simp only [hlinks.mem_iff, List.mem_append, List.mem_singleton, or_and_right, exists_or,
      exists_eq_left, hP]
  have hforall : ∀ P : LinkConfig → Prop, P entry → (∀ l ∈ c.links, P l) →
      ∀ l ∈ rest ++ [entry], P l := by
    intro P hP hall l hl
    rcases List.mem_append.mp hl with hl | hl
    · exact hall l (hlinks.mem_iff.mpr (List.mem_append_left _ hl))
    · rw [List.mem_singleton.mp hl]
      exact hP
  have hids : ((rest ++ [entry]).map LinkConfig.id).Nodup := by
    have hsame : (rest ++ [entry]).map LinkConfig.id = (rest ++ [link]).map LinkConfig.id := by
      simp [hid]
    rw [hsame]
    exact (hlinks.map LinkConfig.id).nodup_iff.mp hrules.links.ids
  have hnoReverse : ¬ (entry.mode = .reverse ∧ entry.transport = .udp) := by
    rw [hmode, htransport]
    exact hrules.links.noReverseUdp link (hlinks.mem_iff.mpr (by simp))
  have hlinkRules : ({ c with links := rest ++ [entry] } : Config).LinkRules :=
    ⟨hids, hforall c.LinkFields (validateLink_eq_nil.mp hentry) hrules.links.fields,
      hforall _ hnoReverse hrules.links.noReverseUdp,
      hrules.links.ownUdpAddr.trans (hexists _ (by rw [htransport])).symm⟩
  refine validate_eq_nil_iff.mpr ⟨fun hrole => ?_, fun hrole => ?_, hlinkRules⟩
  · obtain ⟨hcontrol, hdata, hcontrolAddr, hdataAddr, hkey, hpeers⟩ := hrules.server hrole
    refine ⟨hcontrol, hdata, hcontrolAddr, hdataAddr, hkey, hpeers.nonempty, hpeers.names,
      hpeers.keys, hpeers.distinct, fun p hp id hlisted => ?_⟩
    exact (hexists (fun l => l.id = id) (by rw [hid])).mpr (hpeers.links p hp id hlisted)
  · obtain ⟨hcontrol, hdata, hkey, hlistenControl, hlistenData, hpeers⟩ := hrules.client hrole
    exact ⟨hcontrol, hdata, hkey, hlistenControl, hlistenData, hpeers⟩

end Ghostport.Core.Config

namespace Ghostport.Tui

open Ghostport.Core Ghostport.Lib Ghostport.Net

/-- The link with what has been typed and chosen in the wizard. -/
def App.edited (app : App) (link : LinkConfig) (id : String) (mode : LinkMode) : LinkConfig :=
  { App.newLink app.config id mode (String.ofList (trim app.inputBuffer)) with
    transport := link.transport }

/-- The selected link of `app₀` has been edited in a wizard that was completed in `app`. In `app'`
    nothing else has changed, but for the order of the links. -/
structure EditPreserves (base64 : Base64) (app₀ : App) (link : LinkConfig) (app app' : App) :
    Prop where
  config : app'.config = { app₀.config with links := app'.config.links }
  links : ∃ id mode, app.pendingLinkId = some id ∧ app.pendingLinkMode = some mode ∧
    app'.config.links.Perm
      (app₀.config.links.eraseIdx app₀.linksSelected ++ [app.edited link id mode])
  valid : app.pendingLinkId = some link.id → app.pendingLinkMode = some link.mode →
    app₀.config.validate base64 = [] → app'.config.validate base64 = []

section

variable {crates : Crates} {s s' t : State} {link : LinkConfig} {inputs : List Input}
  {answers : Answers} {last : Input}

theorem newLink_mode (c : Config) (id : String) (mode : LinkMode) (addr : String) :
    (App.newLink c id mode addr).mode = mode := by
  unfold App.newLink
  split <;> rfl

theorem newLink_transport (c : Config) (id : String) (mode : LinkMode) (addr : String) :
    (App.newLink c id mode addr).transport = .tcp := by
  unfold App.newLink
  split <;> rfl

theorem edited_eq_newLink_iff (app : App) (link : LinkConfig) (id : String) (mode : LinkMode) :
    App.newLink app.config id mode (String.ofList (trim app.inputBuffer)) =
      app.edited link id mode ↔ link.transport = .tcp := by
  constructor
  · intro heq
    have htransport := congrArg LinkConfig.transport heq
    rw [newLink_transport] at htransport
    exact htransport.symm
  · intro htcp
    unfold App.edited
    rw [htcp, ← newLink_transport app.config id mode (String.ofList (trim app.inputBuffer))]

theorem filter_concat_perm_iff {α : Type} {p : α → Bool} {l : List α} {x y : α} :
    (l.filter p ++ [x]).Perm (l ++ [y]) ↔ (∀ z ∈ l, p z) ∧ x = y := by
  constructor
  · intro h
    have hlen := h.length_eq
    simp only [List.length_append, List.length_singleton, Nat.add_right_cancel_iff] at hlen
    have hfilter : l.filter p = l := List.filter_sublist.eq_of_length hlen
    rw [hfilter, List.perm_append_left_iff, List.perm_singleton, List.singleton_inj] at h
    exact ⟨List.filter_eq_self.mp hfilter, h⟩
  · rintro ⟨hall, rfl⟩
    rw [List.filter_eq_self.mpr hall]

/-- The links after a completed wizard. -/
theorem edited_links (hmode : s.app.mode = .normal) (hsel : s.app.selectedLink = some link)
    (hrun : WizardRun crates Mode.isLinkWizard s (.key (.char 'e') answers) inputs t last s')
    (hcompletes : CompletesLink t.app last) : ∃ id mode entry,
      t.app.pendingLinkId = some id ∧ t.app.pendingLinkMode = some mode ∧
      entry = App.newLink t.app.config id mode (String.ofList (trim t.app.inputBuffer)) ∧
      s.app.config.validateLink entry = [] ∧ s'.app.config =
        { s.app.config with
          links := (s.app.config.links.eraseIdx s.app.linksSelected).filter
            (fun other => other.id ≠ link.id ∧ other.id ≠ id) ++ [entry] } := by
  obtain ⟨-, hframed⟩ := linkFramed_of_run hmode hrun
  obtain ⟨entry, hconfirms, hvalid, hconfig, -, -⟩ := hframed.completed hcompletes
  obtain ⟨id, mode, hid, hmode', hentry⟩ := hconfirms.entry
  have hedits : editedLink s.app (.key (.char 'e') answers) = some link.id := by
    show s.app.selectedLink.map LinkConfig.id = some link.id
    rw [hsel, Option.map_some]
  have hentryId : entry.id = id := by
    rw [hentry, newLink_id]
  rw [hedits, upsert_getElem hsel, hentryId] at hconfig
  exact ⟨id, mode, entry, hid, hmode', hentry, hvalid, hconfig⟩

/-- An edit preserves the rest of the config exactly if the link is a TCP link, and no other link
    has its id, before or after. -/
theorem editPreserves_iff (hmode : s.app.mode = .normal) (hsel : s.app.selectedLink = some link)
    (hrun : WizardRun crates Mode.isLinkWizard s (.key (.char 'e') answers) inputs t last s')
    (hcompletes : CompletesLink t.app last) :
    EditPreserves crates.base64 s.app link t.app s'.app ↔ link.transport = .tcp ∧
      ∀ other ∈ s.app.config.links.eraseIdx s.app.linksSelected,
        other.id ≠ link.id ∧ some other.id ≠ t.app.pendingLinkId := by
  obtain ⟨id, mode, entry, hid, hmode', hentry, hvalid, hconfig⟩ :=
    edited_links hmode hsel hrun hcompletes
  have hkept : ∀ other : LinkConfig, some other.id ≠ t.app.pendingLinkId ↔ other.id ≠ id := by
    intro other
    rw [hid, Ne, Option.some_inj]
  have hperm : s'.app.config.links.Perm
      (s.app.config.links.eraseIdx s.app.linksSelected ++ [t.app.edited link id mode]) ↔
        (∀ other ∈ s.app.config.links.eraseIdx s.app.linksSelected,
          other.id ≠ link.id ∧ some other.id ≠ t.app.pendingLinkId) ∧ link.transport = .tcp := by
    rw [hconfig]
    simp only [filter_concat_perm_iff, hentry, edited_eq_newLink_iff, hkept, decide_eq_true_eq]
  constructor
  · intro h
    obtain ⟨id', mode'', hid', hmode'', hlinks⟩ := h.links
    obtain rfl := Option.some.inj (hid.symm.trans hid')
    obtain rfl := Option.some.inj (hmode'.symm.trans hmode'')
    exact and_comm.mp (hperm.mp hlinks)
  · rintro ⟨htcp, hothers⟩
    refine ⟨by rw [hconfig], ⟨id, mode, hid, hmode', hperm.mpr ⟨hothers, htcp⟩⟩, ?_⟩
    intro hsameId hsameMode hstart
    obtain rfl := Option.some.inj (hid.symm.trans hsameId)
    obtain rfl := Option.some.inj (hmode'.symm.trans hsameMode)
    have hfilter : (s.app.config.links.eraseIdx s.app.linksSelected).filter
        (fun other => other.id ≠ link.id ∧ other.id ≠ link.id) =
          s.app.config.links.eraseIdx s.app.linksSelected := by
      refine List.filter_eq_self.mpr fun other hother => ?_
      simpa using (hothers other hother).1
    obtain ⟨hi, hget⟩ := List.getElem?_eq_some_iff.mp hsel
    have hlinks : s.app.config.links.Perm
        (s.app.config.links.eraseIdx s.app.linksSelected ++ [link]) := by
      rw [← hget]
      exact (List.getElem_cons_eraseIdx_perm hi).symm.trans (List.perm_append_singleton _ _).symm
    rw [hconfig, hfilter]
    exact Config.validate_exchanged hstart hlinks (by rw [hentry, newLink_id])
      (by rw [hentry, newLink_mode]) (by rw [hentry, newLink_transport, htcp]) hvalid

end

/-! ### A server with a link of each transport -/

def tunnelLink : LinkConfig := ⟨"wg", .forward, .udp, none, some "127.0.0.1:51820"⟩

def tunnelConfig : Config :=
  { exampleConfig with
    listenUdp := some "0.0.0.0:9002", links := exampleConfig.links ++ [tunnelLink] }

def tunnelText : String :=
  "listen_udp = \"0.0.0.0:9002\"\n" ++ exampleText ++
  "\n[[links]]\nid = \"wg\"\nmode = \"forward\"\ntransport = \"udp\"\n" ++
  "target = \"127.0.0.1:51820\"\n"

def tunnelCrates : Crates := ⟨.standard, .among [(tunnelConfig, tunnelText)]⟩

def tunnelStart : State :=
  ⟨(refreshServiceInfo (App.new "/etc/ghostport/config.toml" tunnelConfig)
    exampleAnswers).applyStatus exampleAnswers.now exampleAnswers.status,
    some (utf8 tunnelText.toList)⟩

theorem start_tunnel : start tunnelCrates "/etc/ghostport/config.toml"
    (some (utf8 tunnelText.toList)) exampleAnswers = .ok tunnelStart := by
  unfold start
  rw [Config.load_utf8 (c := tunnelConfig) (by decide +kernel)]
  rfl

/-- Each step of the wizard is confirmed as it is proposed. -/
theorem udpLink_lost :
    start tunnelCrates "/etc/ghostport/config.toml" (some (utf8 tunnelText.toList))
      exampleAnswers = .ok tunnelStart ∧
    tunnelConfig.validate .standard = [] ∧
    ∃ s t s', Run (step tunnelCrates) Free tunnelStart (press "2jj") s [] ∧
      s.app.config = tunnelConfig ∧ s.app.selectedLink = some tunnelLink ∧
      WizardRun tunnelCrates Mode.isLinkWizard s (.key (.char 'e') exampleAnswers) (press "\nf") t
        (.key .enter exampleAnswers) s' ∧
      CompletesLink t.app (.key .enter exampleAnswers) ∧
      s'.app.config.links = exampleConfig.links ++ [{ tunnelLink with transport := .tcp }] ∧
      s'.app.config.validate .standard =
        ["`listen_udp` must not be set when no link uses transport = \"udp\""] ∧
      ¬ EditPreserves .standard s.app tunnelLink t.app s'.app := by
  have hvalid : tunnelConfig.validate .standard = [] := by decide +kernel
  obtain ⟨s, t, s', hrun, hconfig, hsel, hwizard, hcompletes, hid, hmode, hlinks, herrors⟩ :
      ∃ s t s', Run (step tunnelCrates) Free tunnelStart (press "2jj") s [] ∧
      s.app.config = tunnelConfig ∧ s.app.selectedLink = some tunnelLink ∧
      WizardRun tunnelCrates Mode.isLinkWizard s (.key (.char 'e') exampleAnswers) (press "\nf") t
        (.key .enter exampleAnswers) s' ∧
      CompletesLink t.app (.key .enter exampleAnswers) ∧
      t.app.pendingLinkId = some tunnelLink.id ∧ t.app.pendingLinkMode = some tunnelLink.mode ∧
      s'.app.config.links = exampleConfig.links ++ [{ tunnelLink with transport := .tcp }] ∧
      s'.app.config.validate .standard =
        ["`listen_udp` must not be set when no link uses transport = \"udp\""] := by
    refine ⟨_, _, _, run_of_exec rfl, rfl, rfl,
      ⟨⟨_, _, _, rfl, Run.of_guarded (run_of_exec rfl)⟩, ?_, _, rfl⟩, ⟨⟨_, rfl⟩, ?_, ?_, ?_⟩,
      rfl, rfl, rfl, ?_⟩
    all_goals decide +kernel
  refine ⟨start_tunnel, hvalid, s, t, s', hrun, hconfig, hsel, hwizard, hcompletes, hlinks,
    herrors, fun h => ?_⟩
  have hstill := h.valid hid hmode (by rw [hconfig]; exact hvalid)
  rw [herrors] at hstill
  cases hstill

/-- The first link of the example is edited, and its address confirmed. -/
theorem editPreserves_iff_db : ∃ s t s',
    Run (step exampleCrates) Free exampleStart (press "2") s [] ∧
    WizardRun exampleCrates Mode.isLinkWizard s (.key (.char 'e') exampleAnswers) (press "\nf") t
      (.key .enter exampleAnswers) s' ∧
    EditPreserves .standard s.app ⟨"db", .forward, .tcp, none, some "127.0.0.1:5432"⟩ t.app
      s'.app := by
  obtain ⟨s, t, s', hrun, hmode, hsel, hwizard, hcompletes, hothers⟩ : ∃ s t s',
      Run (step exampleCrates) Free exampleStart (press "2") s [] ∧ s.app.mode = .normal ∧
      s.app.selectedLink = some ⟨"db", .forward, .tcp, none, some "127.0.0.1:5432"⟩ ∧
      WizardRun exampleCrates Mode.isLinkWizard s (.key (.char 'e') exampleAnswers) (press "\nf") t
        (.key .enter exampleAnswers) s' ∧
      CompletesLink t.app (.key .enter exampleAnswers) ∧
      ∀ other ∈ s.app.config.links.eraseIdx s.app.linksSelected,
        other.id ≠ "db" ∧ some other.id ≠ t.app.pendingLinkId := by
    refine ⟨_, _, _, run_of_exec rfl, rfl, rfl,
      ⟨⟨_, _, _, rfl, Run.of_guarded (run_of_exec rfl)⟩, ?_, _, rfl⟩, ⟨⟨_, rfl⟩, ?_, ?_, ?_⟩, ?_⟩
    all_goals decide +kernel
  exact ⟨s, t, s', hrun, hwizard,
    (editPreserves_iff hmode hsel hwizard hcompletes).mpr ⟨rfl, hothers⟩⟩

end Ghostport.Tui
