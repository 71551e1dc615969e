import Ghostport.Tui.Prompts
import Ghostport.Tui.Shown
import Ghostport.Tui.Wizards

/-!
# What the screen foretells

The hints after the typed text and the boxes of the checklist say what the next key does.

Results:
* `selectedLink_put`, `selectedPeer_put`: a wizard ends on the entry that it has put in.
* `next_key_foretold`: the keys that end a wizard, in every reachable state.
* `template_taken`: a template can be taken as it is.
-/

namespace Ghostport.Tui

open Ghostport.Core Ghostport.Lib Ghostport.Net

/-! ## The ends of the steps -/

/-- How the last step of the link wizard ends, for the hint that is drawn (`addressHint`). -/
inductive AddressEnd (app app' : App) : Option Bool → Prop
  | cancelled : app'.mode = .normal → Kept app app' → AddressEnd app app' none
  | rejected {message : String} : app' = { app with message := some message } →
    AddressEnd app app' (some false)
  -- the new link is highlighted, and has the address in the field that the title names
  | completed {link : LinkConfig} {needsListen : Bool} : app'.mode = .normal →
    app'.selectedLink = some link → app.pendingLinkNeedsListen = some needsListen →
    some link.id = app.pendingLinkId → some link.mode = app.pendingLinkMode →
    (if needsListen then link.listen else link.target) =
      some (String.ofList (trim app.inputBuffer)) →
    app'.config.validateLink link = [] → AddressEnd app app' (some true)

/-- The same for the step of the public key (`publicKeyHint`). -/
inductive PublicKeyEnd (app app' : App) : Option Bool → Prop
  | cancelled : app'.mode = .normal → Kept app app' → PublicKeyEnd app app' none
  | rejected {message : String} : app' = { app with message := some message } →
    PublicKeyEnd app app' (some false)
  -- the checklist is next
  | confirmed : app'.mode = .addPeerLinks → Kept app app' →
    app'.pendingPeerPublicKey = some (String.ofList (trim app.inputBuffer)) →
    app'.pendingPeerLinks = app.pendingPeerLinks → PublicKeyEnd app app' (some true)

section

variable {crates : Crates} {base64 : Base64} {app app' : App} {s s' : State} {code : KeyCode}
  {answers : Answers} {es : List Event}

/-- After the link wizard the new link is selected. -/
theorem selectedLink_put {id : String} {mode : LinkMode} (hid : app.pendingLinkId = some id)
    (hmode : app.pendingLinkMode = some mode) (hempty : trim app.inputBuffer ≠ [])
    (hparses : (SocketAddr.parse (trim app.inputBuffer)).isSome) :
    app.confirmLinkAddress.mode = .normal ∧
      app.confirmLinkAddress.config =
        { app.config with links := app.confirmLinkAddress.config.links } ∧
      app.confirmLinkAddress.selectedLink =
        some (App.newLink app.config id mode (String.ofList (trim app.inputBuffer))) := by
  have hnone : ¬ (SocketAddr.parse (trim app.inputBuffer)).isNone := by
    simpa [Option.isNone_iff_eq_none, Option.isSome_iff_ne_none] using hparses
  have hput := @getElem?_findIdx?_upsert _ _ LinkConfig.id app.config.links _
    app.editingOriginalId (App.newLink app.config id mode (String.ofList (trim app.inputBuffer)))
  rw [newLink_id] at hput
  unfold App.confirmLinkAddress
  rw [hid, hmode]
  simp only
  rw [if_neg hempty, if_neg hnone, replaced_eq]
  exact ⟨rfl, rfl, hput⟩

/-- After the peer wizard the new peer is selected. -/
theorem selectedPeer_put {name publicKey : String} (hname : app.pendingPeerName = some name)
    (hkey : app.pendingPeerPublicKey = some publicKey) :
    app.confirmPeerLinks.mode = .normal ∧ app.confirmPeerLinks.tab = app.tab ∧
      app.confirmPeerLinks.config.role = app.config.role ∧
      app.confirmPeerLinks.selectedPeer = some ⟨name, publicKey, app.pendingPeerLinks⟩ := by
  have hput := @getElem?_findIdx?_upsert _ _ PeerConfig.name app.config.peers _
    app.editingOriginalPeerName ⟨name, publicKey, app.pendingPeerLinks⟩
  unfold App.confirmPeerLinks
  rw [hname, hkey]
  dsimp only
  rw [replaced_eq]
  exact ⟨rfl, rfl, rfl, hput⟩

theorem newLink_field (c : Config) (id : String) (mode : LinkMode) (addr : String) :
    (if c.linkNeedsListen mode then (App.newLink c id mode addr).listen
      else (App.newLink c id mode addr).target) = some addr := by
  unfold App.newLink
  cases c.linkNeedsListen mode <;> rfl

theorem addressEnd_confirm (hid : app.pendingLinkId.isSome) (hmode : app.pendingLinkMode.isSome) :
    AddressEnd app app.confirmLinkAddress app.linkAddressInputStatus := by
  obtain ⟨id, hid⟩ := Option.isSome_iff_exists.mp hid
  obtain ⟨mode, hmode⟩ := Option.isSome_iff_exists.mp hmode
  unfold App.linkAddressInputStatus
  by_cases hempty : trim app.inputBuffer = []
  · unfold App.confirmLinkAddress
    simp only [hid, hmode, hempty, if_true]
    exact .cancelled rfl ⟨rfl, rfl⟩
  · simp only [hempty, if_false]
    cases hparse : SocketAddr.parse (trim app.inputBuffer) with
    | none =>
      have hc := confirmLinkAddress_cases app
      generalize app.confirmLinkAddress = app' at hc
      cases hc with
      | missing hnone => simp [hid, hmode] at hnone
      | emptied hnil => exact absurd hnil hempty
      | rejected _ => exact .rejected rfl
      | completed hconfirms =>
        have hparses := hconfirms.parses
        rw [hparse] at hparses
        cases hparses
    | some addr =>
      have hparses : (SocketAddr.parse (trim app.inputBuffer)).isSome := by rw [hparse]; rfl
      obtain ⟨hnormal, hconfig, hsel⟩ := selectedLink_put hid hmode hempty hparses
      have hneeds : app.pendingLinkNeedsListen = some (app.config.linkNeedsListen mode) := by
        rw [App.pendingLinkNeedsListen, hmode]
        rfl
      have hmode' : some (App.newLink app.config id mode
          (String.ofList (trim app.inputBuffer))).mode = app.pendingLinkMode := by
        rw [hmode]
        unfold App.newLink
        split <;> rfl
      refine .completed hnormal hsel hneeds ?_ hmode' (newLink_field _ _ _ _) ?_
      · rw [newLink_id, hid]
      · have hvalid := validateLink_newLink app.config id mode hparses
        rw [hconfig]
        exact hvalid

theorem publicKeyEnd_confirm (hname : app.pendingPeerName.isSome) :
    PublicKeyEnd app (app.confirmPeerPublicKey base64) (app.peerPublicKeyInputStatus base64) := by
  have hsome : ¬ app.pendingPeerName.isNone := by
    simpa [Option.isNone_iff_eq_none, Option.isSome_iff_ne_none] using hname
  unfold App.peerPublicKeyInputStatus App.confirmPeerPublicKey
  rw [if_neg hsome]
  dsimp only
  by_cases hempty : trim app.inputBuffer = []
  · rw [if_pos hempty, if_pos hempty]
    exact .cancelled rfl ⟨rfl, rfl⟩
  · rw [if_neg hempty, if_neg hempty]
    cases decodePublicKey base64 (String.ofList (trim app.inputBuffer)) with
    | error e => exact .rejected rfl
    | ok key => exact .confirmed rfl ⟨rfl, rfl⟩ rfl rfl

/-! ## The checklist -/

theorem peerLinkIsChecked_iff (app : App) (id : String) :
    app.peerLinkIsChecked id = true ↔ 0 < app.pendingPeerLinks.count id := by
  unfold App.peerLinkIsChecked
  rw [List.count_pos_iff]
  simp

/-- What the space takes off or puts on the list. -/
theorem pendingPeerLinks_toggle {link : LinkConfig}
    (hlink : app.config.links[app.peerLinksCursor]? = some link) :
    app.togglePeerLink.pendingPeerLinks =
      if link.id ∈ app.pendingPeerLinks then app.pendingPeerLinks.erase link.id
      else app.pendingPeerLinks ++ [link.id] := by
  unfold App.togglePeerLink
  rw [hlink]
  dsimp only
  have heq : (fun l => decide (l = link.id)) = (· == link.id) := rfl
  rw [List.erase_eq_eraseP', List.eraseP_eq_eraseIdx, heq]
  cases hfind : app.pendingPeerLinks.findIdx? (· == link.id) with
  | none =>
    have hnone := List.findIdx?_eq_none_iff.mp hfind
    have hmem : link.id ∉ app.pendingPeerLinks := by
      intro hmem
      simpa using hnone _ hmem
    rw [if_neg hmem]
  | some pos =>
    obtain ⟨hlt, hget, -⟩ := List.findIdx?_eq_some_iff_getElem.mp hfind
    have hmem : link.id ∈ app.pendingPeerLinks := by
      rw [← beq_iff_eq.mp hget]
      exact List.getElem_mem hlt
    rw [if_pos hmem]

/-- The box of the highlighted row flips, unless its id is listed twice, and no other box does. -/
theorem peerLinkIsChecked_toggle {link : LinkConfig}
    (hlink : app.config.links[app.peerLinksCursor]? = some link) (id : String) :
    app.togglePeerLink.peerLinkIsChecked id =
      if id = link.id ∧ app.pendingPeerLinks.count id ≤ 1 then !app.peerLinkIsChecked id
      else app.peerLinkIsChecked id := by
  have hbefore := peerLinkIsChecked_iff app id
  have hafter := peerLinkIsChecked_iff app.togglePeerLink id
  rw [pendingPeerLinks_toggle hlink] at hafter
  have hmem : link.id ∈ app.pendingPeerLinks ↔ 0 < app.pendingPeerLinks.count link.id :=
    List.count_pos_iff.symm
  by_cases hid : id = link.id
  · subst hid
    split at hafter
    · rw [List.count_erase_self] at hafter
      cases hold : app.peerLinkIsChecked link.id <;>
        cases hnew : app.togglePeerLink.peerLinkIsChecked link.id <;> grind
    · rw [List.count_append, List.count_singleton_self] at hafter
      cases hold : app.peerLinkIsChecked link.id <;>
        cases hnew : app.togglePeerLink.peerLinkIsChecked link.id <;> grind
  · have hcount : (if link.id ∈ app.pendingPeerLinks then app.pendingPeerLinks.erase link.id
        else app.pendingPeerLinks ++ [link.id]).count id = app.pendingPeerLinks.count id := by
      split
      · exact List.count_erase_of_ne hid
      · rw [List.count_append, List.count_singleton, if_neg (by simpa using Ne.symm hid)]
        rfl
    rw [if_neg fun h => hid h.1, Bool.eq_iff_iff, hbefore, hafter, hcount]

/-! ## Results -/

/-- What a key does in the state `s`, as the screen has said before. -/
structure KeyForetold (base64 : Base64) (s : State) (code : KeyCode) (s' : State) : Prop where
  /-- The hint after the address says how the wizard goes on. -/
  address : s.app.mode = .addLinkAddress → code = .enter →
    AddressEnd (cleared s.app) s'.app s.app.linkAddressInputStatus
  /-- The same for the public key. -/
  publicKey : s.app.mode = .addPeerPublicKey → code = .enter →
    PublicKeyEnd (cleared s.app) s'.app (s.app.peerPublicKeyInputStatus base64)
  /-- A space flips the box of the highlighted row, unless its id is listed twice. The boxes of
      the other links stay. -/
  toggle : s.app.mode = .addPeerLinks → code = .char ' ' →
    ∀ link, s.app.config.links[s.app.peerLinksCursor]? = some link → ∀ id,
      s'.app.peerLinkIsChecked id =
        if id = link.id ∧ s.app.pendingPeerLinks.count id ≤ 1 then !s.app.peerLinkIsChecked id
        else s.app.peerLinkIsChecked id
  /-- The peer that is put in is highlighted, its key is valid, and of the links in the checklist
      it may use those whose boxes are ticked. -/
  grants : s.app.mode = .addPeerLinks → code = .enter → ∃ peer,
    s'.app.mode = .normal ∧ s'.app.tab = .peers ∧ s'.app.config.role = .server ∧
    s'.app.selectedPeer = some peer ∧ some peer.name = s.app.pendingPeerName ∧
    (decodePublicKey base64 peer.publicKey).isOk ∧
    ∀ row ∈ checkRows s.app, row.checked = true ↔ row.id ∈ peer.links

theorem handleKey_of_step (h : step crates s (.key code answers) = some (s', es)) :
    s' = (handleKey crates { s with app := cleared s.app } code answers).1 := by
  rw [step_key h]

theorem checkRows_checked {app : App} {row : CheckRow} (h : row ∈ checkRows app) :
    row.checked = true ↔ row.id ∈ app.pendingPeerLinks := by
  unfold checkRows at h
  obtain ⟨i, hi, rfl⟩ := List.mem_mapIdx.mp h
  show app.peerLinkIsChecked _ = true ↔ _
  rw [peerLinkIsChecked_iff, List.count_pos_iff]
  rfl

/-- In every reachable state: the hint after an address or a public key says what `Enter` does,
    and the boxes of the checklist say what a space changes and which links `Enter` grants. -/
theorem next_key_foretold {inputs : List Input} {tr : List Event}
    (hrun : TuiRun crates Free inputs s tr)
    (hst : step crates s (.key code answers) = some (s', es)) :
    KeyForetold crates.base64 s code s' := by
  have hin := (shown_run hrun).mode
  unfold InMode at hin
  obtain rfl := handleKey_of_step hst
  constructor
  case address =>
    rintro hmode rfl
    rw [hmode] at hin
    have hclear : (cleared s.app).mode = .addLinkAddress := hmode
    have happ : (handleKey crates { s with app := cleared s.app } .enter answers).1.app =
        (cleared s.app).confirmLinkAddress := by
      simp only [handleKey, handleLinkTextInput, hclear]
      rfl
    rw [happ]
    exact addressEnd_confirm hin.2.1 hin.2.2
  case publicKey =>
    rintro hmode rfl
    rw [hmode] at hin
    have hclear : (cleared s.app).mode = .addPeerPublicKey := hmode
    have happ : (handleKey crates { s with app := cleared s.app } .enter answers).1.app =
        (cleared s.app).confirmPeerPublicKey crates.base64 := by
      simp only [handleKey, handlePeerTextInput, hclear]
      rfl
    rw [happ]
    exact publicKeyEnd_confirm hin.2.2
  case toggle =>
    rintro hmode rfl link hlink id
    have hclear : (cleared s.app).mode = .addPeerLinks := hmode
    have happ : (handleKey crates { s with app := cleared s.app } (.char ' ') answers).1.app =
        (cleared s.app).togglePeerLink := by
      simp only [handleKey, handlePeerLinksChecklist, hclear]
      rfl
    rw [happ]
    exact @peerLinkIsChecked_toggle (cleared s.app) link hlink id
  case grants =>
    rintro hmode rfl
    rw [hmode] at hin
    obtain ⟨htab, hrole, hname, ⟨key, hkey, hok⟩, -⟩ := hin
    obtain ⟨name, hname⟩ := Option.isSome_iff_exists.mp hname
    have hclear : (cleared s.app).mode = .addPeerLinks := hmode
    have happ : (handleKey crates { s with app := cleared s.app } .enter answers).1.app =
        (cleared s.app).confirmPeerLinks := by
      simp only [handleKey, handlePeerLinksChecklist, hclear]
      rfl
    rw [happ]
    obtain ⟨hnormal, htab', hrole', hsel⟩ := @selectedPeer_put (cleared s.app) name key hname hkey
    exact ⟨_, hnormal, htab'.trans htab, hrole'.trans hrole, hsel, hname.symm, hok,
      fun row hrow => checkRows_checked hrow⟩

end

/-- The address that the template suggests is valid, so `Enter` puts the link in. -/
theorem next_key_foretold_ssh : ∃ s s' link, TuiRun exampleCrates Free (press "2a\n\n") s [] ∧
    step exampleCrates s (.key .enter exampleAnswers) = some (s', []) ∧
    s'.app.selectedLink = some link ∧ link.target = some "127.0.0.1:22" := by
  obtain ⟨s, hrun, hmode, hneeds, hstatus, hbuffer, s', hst⟩ : ∃ s,
      Run (step exampleCrates) Free exampleStart (press "2a\n\n") s [] ∧
        s.app.mode = .addLinkAddress ∧ s.app.pendingLinkNeedsListen = some false ∧
        s.app.linkAddressInputStatus = some true ∧
        trim s.app.inputBuffer = "127.0.0.1:22".toList ∧
        ∃ s', step exampleCrates s (.key .enter exampleAnswers) = some (s', []) :=
    ⟨_, run_of_exec rfl, rfl, rfl, by decide +kernel, by decide +kernel, _, rfl⟩
  have htui : TuiRun exampleCrates Free (press "2a\n\n") s [] :=
    ⟨_, _, _, _, start_example, hrun⟩
  have hend := (next_key_foretold htui hst).address hmode rfl
  rw [hstatus] at hend
  cases hend with
  | @completed link needsListen _ hsel hlabel _ _ hfield _ =>
    obtain rfl : needsListen = false := Option.some.inj (hlabel.symm.trans hneeds)
    have htarget : link.target = some (String.ofList (trim s.app.inputBuffer)) := hfield
    rw [hbuffer, String.ofList_toList] at htarget
    exact ⟨s, s', link, htui, hst, hsel, htarget⟩

section

variable {crates : Crates} {app app' : App} {s s' : State} {answers : Answers} {es : List Event}

/-! ## Templates -/

/-- The address that a template suggests. -/
def LinkTemplate.defaultAddress (t : LinkTemplate) : String :=
  "127.0.0.1:" ++ toString t.defaultPort

/-- The defaults of a template are accepted as they are. -/
structure LinkTemplate.Accepted (t : LinkTemplate) : Prop where
  id : trim t.defaultId.toList = t.defaultId.toList
  nonempty : t.defaultId.toList ≠ []
  addr : trim t.defaultAddress.toList = t.defaultAddress.toList
  parses : (SocketAddr.parse t.defaultAddress.toList).isSome

theorem templates_accepted : ∀ t ∈ templates, t.Accepted := by
  have h : ∀ t ∈ templates, trim t.defaultId.toList = t.defaultId.toList ∧
      t.defaultId.toList ≠ [] ∧ trim t.defaultAddress.toList = t.defaultAddress.toList ∧
      (SocketAddr.parse t.defaultAddress.toList).isSome := by decide +kernel
  intro t ht
  obtain ⟨hid, hne, haddr, hparses⟩ := h t ht
  exact ⟨hid, hne, haddr, hparses⟩

/-- The wizard after `n` keys, each of them `Enter`, on a template. -/
def AfterEnters (t : LinkTemplate) : ℕ → App → Prop
  | 0, app => app.mode = .chooseTemplate ∧ templates[app.templateSelected.val]? = some t
  | 1, app =>
    app.mode = .addLinkId ∧ app.inputBuffer = t.defaultId.toList ∧
      app.pendingLinkMode = some t.mode ∧ app.pendingDefaultAddress = some t.defaultAddress
  | 2, app =>
    app.mode = .addLinkAddress ∧ app.inputBuffer = t.defaultAddress.toList ∧
      app.pendingLinkMode = some t.mode ∧ app.pendingLinkId = some t.defaultId
  | _ + 3, app =>
    app.mode = .normal ∧ ∃ link, app.selectedLink = some link ∧
      link = App.newLink app.config t.defaultId t.mode t.defaultAddress ∧
      app.config.validateLink link = []

theorem AfterEnters.refreshed {t : LinkTemplate} {n : ℕ} (h : AfterEnters t n app)
    (hr : Refreshed app app') : AfterEnters t n app' := by
  cases hr
  match n with
  | 0 | 1 | 2 | _ + 3 => exact h

theorem AfterEnters.enter {t : LinkTemplate} {n : ℕ} (h : AfterEnters t n s.app) (hn : n < 3)
    (ht : t.Accepted) (hst : step crates s (.key .enter answers) = some (s', es)) :
    AfterEnters t (n + 1) s'.app := by
  obtain rfl := handleKey_of_step hst
  match n, hn with
  | 0, _ =>
    obtain ⟨hmode, hget⟩ := h
    have hclear : (cleared s.app).mode = .chooseTemplate := hmode
    have happ : (handleKey crates { s with app := cleared s.app } .enter answers).1.app =
        (cleared s.app).confirmTemplateChoice := by
      simp only [handleKey, handleChooseTemplate, hclear]
      rfl
    rw [happ]
    have hcustom : (cleared s.app).templateSelected.val ≠ customIndex := by
      intro heq
      obtain ⟨hlt, -⟩ := List.getElem?_eq_some_iff.mp hget
      exact absurd (heq ▸ hlt : customIndex < templates.length) (lt_irrefl _)
    have hget' : templates[(cleared s.app).templateSelected.val]? = some t := hget
    unfold App.confirmTemplateChoice
    rw [if_neg hcustom, hget']
    exact ⟨rfl, rfl, rfl, rfl⟩
  | 1, _ =>
    obtain ⟨hmode, hbuffer, hlink, haddr⟩ := h
    have hclear : (cleared s.app).mode = .addLinkId := hmode
    have happ : (handleKey crates { s with app := cleared s.app } .enter answers).1.app =
        (cleared s.app).confirmLinkId := by
      simp only [handleKey, handleLinkTextInput, hclear]
      rfl
    rw [happ]
    have hid : trim (cleared s.app).inputBuffer = t.defaultId.toList := by
      rw [← ht.id, ← hbuffer]
      rfl
    have hsome : (cleared s.app).pendingLinkMode.isSome := by
      show s.app.pendingLinkMode.isSome
      rw [hlink]
      rfl
    unfold App.confirmLinkId
    dsimp only
    rw [hid, if_neg ht.nonempty, if_pos hsome]
    refine ⟨rfl, ?_, hlink, ?_⟩
    · show (s.app.pendingDefaultAddress.getD "").toList = _
      rw [haddr]
      rfl
    · show some (String.ofList t.defaultId.toList) = _
      rw [String.ofList_toList]
  | 2, _ =>
    obtain ⟨hmode, hbuffer, hlink, hid⟩ := h
    have hclear : (cleared s.app).mode = .addLinkAddress := hmode
    have happ : (handleKey crates { s with app := cleared s.app } .enter answers).1.app =
        (cleared s.app).confirmLinkAddress := by
      simp only [handleKey, handleLinkTextInput, hclear]
      rfl
    rw [happ]
    have haddr : trim (cleared s.app).inputBuffer = t.defaultAddress.toList := by
      rw [← ht.addr, ← hbuffer]
      rfl
    have hempty : trim (cleared s.app).inputBuffer ≠ [] := by
      intro hnil
      have hparses := ht.parses
      rw [← haddr, hnil] at hparses
      cases hparses
    have hparses : (SocketAddr.parse (trim (cleared s.app).inputBuffer)).isSome := by
      rw [haddr]
      exact ht.parses
    obtain ⟨hnormal, hconfig, hsel⟩ :=
      @selectedLink_put (cleared s.app) t.defaultId t.mode hid hlink hempty hparses
    rw [haddr, String.ofList_toList] at hsel
    have hvalid := validateLink_newLink s.app.config t.defaultId t.mode ht.parses
    rw [String.ofList_toList] at hvalid
    refine ⟨hnormal, _, hsel, ?_, ?_⟩
    · rw [hconfig]
      rfl
    · rw [hconfig]
      exact hvalid

theorem afterEnters_run {t : LinkTemplate} {inputs : List Input} {s₀ : State} {tr : List Event}
    (h : AfterEnters t 0 s₀.app) (ht : t.Accepted) (hrun : Run (step crates) Free s₀ inputs s tr)
    (honly : ∀ input ∈ inputs, input.isKey → ∃ answers, input = .key .enter answers)
    (hle : inputs.countP Input.isKey ≤ 3) :
    AfterEnters t (inputs.countP Input.isKey) s.app := by
  induction hrun with
  | nil => exact h
  | @snoc as s s' tr es input _ _ hst ih =>
    have hlast := honly input (by simp)
    replace ih := ih fun i hi => honly i (List.mem_append_left _ hi)
    rw [List.countP_append] at hle ⊢
    cases input with
    | key code answers =>
      have hone : [Input.key code answers].countP Input.isKey = 1 := rfl
      obtain ⟨answers', henter⟩ := hlast rfl
      rw [henter] at hst
      rw [hone] at hle ⊢
      exact (ih (by omega)).enter (by omega) ht hst
    | idle answers =>
      have hnone : [Input.idle answers].countP Input.isKey = 0 := rfl
      rw [hnone] at hle ⊢
      cases step_cases hst
      exact (ih hle).refreshed (refreshed_idleTick _ _)
    | other =>
      have hnone : [Input.other].countP Input.isKey = 0 := rfl
      rw [hnone] at hle ⊢
      cases step_cases hst
      exact ih hle

/-- From every state with the cursor on a template: three times `Enter`, whatever happens between
    the keys, puts in a valid link with the defaults of the template, and selects it. -/
theorem template_taken {t : LinkTemplate} {inputs : List Input} {tr : List Event}
    (hmode : s.app.mode = .chooseTemplate)
    (htemplate : templates[s.app.templateSelected.val]? = some t)
    (hrun : Run (step crates) Free s inputs s' tr)
    (honly : ∀ input ∈ inputs, input.isKey → ∃ answers, input = .key .enter answers)
    (hthree : inputs.countP Input.isKey = 3) :
    s'.app.mode = .normal ∧ ∃ link, s'.app.selectedLink = some link ∧
      link = App.newLink s'.app.config t.defaultId t.mode t.defaultAddress ∧
      s'.app.config.validateLink link = [] := by
  have ht := templates_accepted t (List.mem_of_getElem? htemplate)
  have hafter := afterEnters_run ⟨hmode, htemplate⟩ ht hrun honly hthree.le
  rw [hthree] at hafter
  exact hafter

end

/-- SSH, with its defaults. -/
theorem template_taken_ssh : ∃ s s' link, TuiRun exampleCrates Free (press "2a") s [] ∧
    Run (step exampleCrates) Free s (press "\n\n\n") s' [] ∧
    s'.app.selectedLink = some link ∧ link.id = "ssh" := by
  obtain ⟨s, s', hrun, hmode, htemplate, hrun'⟩ : ∃ s s',
      Run (step exampleCrates) Free exampleStart (press "2a") s [] ∧
        s.app.mode = .chooseTemplate ∧
        templates[s.app.templateSelected.val]? = some ⟨.forward, "ssh", 22⟩ ∧
        Run (step exampleCrates) Free s (press "\n\n\n") s' [] :=
    ⟨_, _, run_of_exec rfl, rfl, rfl, run_of_exec rfl⟩
  have honly : ∀ input ∈ press "\n\n\n", input.isKey → ∃ answers, input = .key .enter answers := by
    intro input hinput _
    obtain ⟨c, hc, rfl⟩ := List.mem_map.mp hinput
    obtain rfl : c = '\n' := by simpa using hc
    exact ⟨_, rfl⟩
  obtain ⟨-, link, hsel, hlink, -⟩ := template_taken hmode htemplate hrun' honly rfl
  exact ⟨s, s', link, ⟨_, _, _, _, start_example, hrun⟩, hrun', hsel, by rw [hlink, newLink_id]⟩

end Ghostport.Tui
