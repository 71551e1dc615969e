import Ghostport.Core.Validation
import Ghostport.Tui.Effects

/-!
# The wizards

What a key does in a wizard, and what a whole wizard does to the config: nothing until its last
step, and there it puts exactly one entry in.

Results:
* `linkKey_of_case`, `peerKey_of_case`: the keys in the wizards.
* `linkRunning_run`, `peerRunning_run`: what holds while a wizard runs.
* `linkFramed`, `peerFramed`: how a wizard can end.
-/

namespace Ghostport.Tui

open Ghostport.Core Ghostport.Lib Ghostport.Net

/-! ## Keys -/

/-- A key in the link wizard. -/
inductive LinkKey (app : App) (code : KeyCode) : App → Prop
  | moved {text : List Char} {links peers cursor : ℕ} {template : Fin menuLen}
      {service : Fin serviceMenu.length} :
    LinkKey app code
      { app with
        inputBuffer := text, linksSelected := links, peersSelected := peers
        peerLinksCursor := cursor, templateSelected := template, serviceMenuSelected := service }
  | cancelled : LinkKey app code app.cancelLinkWizard
  | template : app.mode = .chooseTemplate → LinkKey app code app.confirmTemplateChoice
  | id : app.mode = .addLinkId → LinkKey app code app.confirmLinkId
  | mode {mode : LinkMode} : app.mode = .addLinkDirection →
    LinkKey app code (app.chooseLinkMode mode)
  | address : app.mode = .addLinkAddress → code = .enter →
    LinkKey app code app.confirmLinkAddress

/-- A key in the peer wizard. -/
inductive PeerKey (base64 : Base64) (app : App) (code : KeyCode) : App → Prop
  | moved {text : List Char} {links peers cursor : ℕ} {template : Fin menuLen}
      {service : Fin serviceMenu.length} :
    PeerKey base64 app code
      { app with
        inputBuffer := text, linksSelected := links, peersSelected := peers
        peerLinksCursor := cursor, templateSelected := template, serviceMenuSelected := service }
  | cancelled : PeerKey base64 app code app.cancelPeerWizard
  | name : app.mode = .addPeerName → PeerKey base64 app code app.confirmPeerName
  | publicKey : app.mode = .addPeerPublicKey →
    PeerKey base64 app code (app.confirmPeerPublicKey base64)
  | toggled : app.mode = .addPeerLinks → PeerKey base64 app code app.togglePeerLink
  | links : app.mode = .addPeerLinks → code = .enter → PeerKey base64 app code app.confirmPeerLinks

section

variable {crates : Crates} {answers : Answers} {app : App} {file : File} {code : KeyCode}
  {s' : State} {es : List Event}

theorem linkKey_of_case (hwizard : app.mode.isLinkWizard)
    (hc : KeyCase crates answers app file code s' es) :
    LinkKey app code s'.app ∧ s'.file = file ∧ es = [] := by
  have other : ∀ {mode : Mode}, app.mode = mode → mode.isLinkWizard = false → False := by
    rintro mode rfl hmode
    rw [hwizard] at hmode
    cases hmode
  cases hc with
  | ignored _ | cursor _ | typed _ => exact ⟨.moved, rfl, rfl⟩
  | linkCancelled _ => exact ⟨.cancelled, rfl, rfl⟩
  | templateConfirmed hmode => exact ⟨.template hmode, rfl, rfl⟩
  | linkIdConfirmed hmode _ => exact ⟨.id hmode, rfl, rfl⟩
  | modeChosen hmode => exact ⟨.mode hmode, rfl, rfl⟩
  | addressConfirmed hmode hcode => exact ⟨.address hmode hcode, rfl, rfl⟩
  | peerCancelled hpeer =>
    revert hwizard hpeer
    cases app.mode <;> simp [Mode.isLinkWizard, Mode.isPeerWizard]
  | dismissed hmode _ =>
    rcases hmode with hmode | hmode <;> exact (other hmode rfl).elim
  | quit hmode | switched hmode | refreshed hmode | toggled hmode => exact (other hmode rfl).elim
  | saved hmode _ | linkAdded hmode _ | peerAdded hmode _ | logsViewed hmode _
  | nameConfirmed hmode _ | publicKeyConfirmed hmode _ | linksConfirmed hmode _
  | linkRemoved hmode _ | peerRemoved hmode _ | serviceConfirmed hmode _
  | serviceCancelled hmode _ => exact (other hmode rfl).elim
  | linkEdited hmode _ _ | peerEdited hmode _ _ => exact (other hmode rfl).elim
  | askedLink hmode _ _ _ | askedPeer hmode _ _ _ | askedService hmode _ _ _ =>
    exact (other hmode rfl).elim

theorem peerKey_of_case (hwizard : app.mode.isPeerWizard)
    (hc : KeyCase crates answers app file code s' es) :
    PeerKey crates.base64 app code s'.app ∧ s'.file = file ∧ es = [] := by
  have other : ∀ {mode : Mode}, app.mode = mode → mode.isPeerWizard = false → False := by
    rintro mode rfl hmode
    rw [hwizard] at hmode
    cases hmode
  cases hc with
  | ignored _ | cursor _ | typed _ => exact ⟨.moved, rfl, rfl⟩
  | peerCancelled _ => exact ⟨.cancelled, rfl, rfl⟩
  | nameConfirmed hmode _ => exact ⟨.name hmode, rfl, rfl⟩
  | publicKeyConfirmed hmode _ => exact ⟨.publicKey hmode, rfl, rfl⟩
  | toggled hmode => exact ⟨.toggled hmode, rfl, rfl⟩
  | linksConfirmed hmode hcode => exact ⟨.links hmode hcode, rfl, rfl⟩
  | linkCancelled hlink =>
    revert hwizard hlink
    cases app.mode <;> simp [Mode.isLinkWizard, Mode.isPeerWizard]
  | dismissed hmode _ =>
    rcases hmode with hmode | hmode <;> exact (other hmode rfl).elim
  | quit hmode | switched hmode | refreshed hmode | templateConfirmed hmode | modeChosen hmode =>
    exact (other hmode rfl).elim
  | saved hmode _ | linkAdded hmode _ | peerAdded hmode _ | logsViewed hmode _
  | linkIdConfirmed hmode _ | addressConfirmed hmode _ | linkRemoved hmode _ | peerRemoved hmode _
  | serviceConfirmed hmode _ | serviceCancelled hmode _ => exact (other hmode rfl).elim
  | linkEdited hmode _ _ | peerEdited hmode _ _ => exact (other hmode rfl).elim
  | askedLink hmode _ _ _ | askedPeer hmode _ _ _ | askedService hmode _ _ _ =>
    exact (other hmode rfl).elim

/-! ## How a wizard is entered -/

theorem LinkKey.mode_cases {app' : App} (h : LinkKey app code app')
    (hwizard : app.mode.isLinkWizard) : app'.mode = .normal ∨ app'.mode.isLinkWizard := by
  cases h with
  | moved => exact .inr hwizard
  | cancelled => exact .inl rfl
  | template _ =>
    unfold App.confirmTemplateChoice
    split
    · exact .inr rfl
    · split <;> exact .inr rfl
  | id _ =>
    unfold App.confirmLinkId
    simp only
    split
    · exact .inl rfl
    · split <;> exact .inr rfl
  | mode _ => exact .inr rfl
  | address _ _ =>
    have hc := confirmLinkAddress_cases app
    generalize app.confirmLinkAddress = app' at hc
    cases hc with
    | missing _ | emptied _ | completed _ => exact .inl rfl
    | rejected _ => exact .inr hwizard

theorem PeerKey.mode_cases {base64 : Base64} {app' : App} (h : PeerKey base64 app code app')
    (hwizard : app.mode.isPeerWizard) : app'.mode = .normal ∨ app'.mode.isPeerWizard := by
  cases h with
  | moved => exact .inr hwizard
  | cancelled => exact .inl rfl
  | name _ =>
    unfold App.confirmPeerName
    simp only
    split
    · exact .inl rfl
    · exact .inr rfl
  | publicKey _ =>
    have hc := confirmPeerPublicKey_cases base64 app
    generalize app.confirmPeerPublicKey base64 = app' at hc
    cases hc with
    | missing _ | emptied _ => exact .inl rfl
    | rejected => exact .inr hwizard
    | confirmed _ => exact .inr rfl
  | toggled _ =>
    unfold App.togglePeerLink
    split <;> exact .inr hwizard
  | links _ _ =>
    have hc := confirmPeerLinks_cases app
    generalize app.confirmPeerLinks = app' at hc
    cases hc <;> exact .inl rfl

/-- What a key in normal mode opens. -/
inductive Begins (app : App) (code : KeyCode) : App → Prop
  | linkAdded : code = .char 'a' → Begins app code app.beginAddLink
  | linkEdited {link : LinkConfig} : code = .char 'e' → app.selectedLink = some link →
    Begins app code
      { app with
        editingOriginalId := some link.id, pendingLinkId := none, pendingLinkMode := none
        pendingDefaultAddress := some ((link.listen.or link.target).getD "")
        inputBuffer := link.id.toList, mode := .addLinkId }
  | peerAdded : code = .char 'a' → app.config.role = .server →
    Begins app code
      { app with
        editingOriginalPeerName := none, pendingPeerName := none, pendingPeerPublicKey := none
        pendingDefaultPeerPublicKey := none, pendingPeerLinks := [], peerLinksCursor := 0
        inputBuffer := [], mode := .addPeerName }
  | peerEdited {peer : PeerConfig} : code = .char 'e' → app.selectedPeer = some peer →
    Begins app code
      { app with
        editingOriginalPeerName := some peer.name, pendingPeerName := none
        pendingPeerPublicKey := none, pendingDefaultPeerPublicKey := some peer.publicKey
        pendingPeerLinks := peer.links, peerLinksCursor := 0
        inputBuffer := peer.name.toList, mode := .addPeerName }

/-- Wizards are entered from normal mode. -/
theorem begins_of_case (hc : KeyCase crates answers app file code s' es)
    (hout : ¬ (app.mode.isLinkWizard ∨ app.mode.isPeerWizard))
    (hin : s'.app.mode.isLinkWizard ∨ s'.app.mode.isPeerWizard) :
    app.mode = .normal ∧ Begins app code s'.app := by
  have normal : ∀ {app' : App}, app'.mode = .normal →
      ¬ (app'.mode.isLinkWizard ∨ app'.mode.isPeerWizard) := by
    intro app' hmode
    rw [hmode]
    simp [Mode.isLinkWizard, Mode.isPeerWizard]
  cases hc with
  | linkAdded hmode hcode => exact ⟨hmode, .linkAdded hcode⟩
  | linkEdited hmode hcode hsel =>
    refine ⟨hmode, ?_⟩
    unfold App.beginEditLink
    rw [hsel]
    exact .linkEdited hcode hsel
  | peerAdded hmode hcode =>
    refine ⟨hmode, ?_⟩
    unfold App.beginAddPeer at hin ⊢
    by_cases hrole : app.config.role = .server
    · rw [if_neg (not_not.mpr hrole)]
      exact .peerAdded hcode hrole
    · rw [if_pos hrole] at hin
      exact absurd hin hout
  | peerEdited hmode hcode hsel =>
    refine ⟨hmode, ?_⟩
    unfold App.beginEditPeer at hin ⊢
    by_cases hrole : app.config.role = .server
    · rw [if_neg (not_not.mpr hrole), hsel]
      exact .peerEdited hcode hsel
    · rw [if_pos hrole] at hin
      exact absurd hin hout
  | ignored _ | cursor _ | typed _ | quit _ | switched _ => exact absurd hin hout
  | refreshed hmode =>
    exact absurd hin (normal ((refreshed_applyStatus _ _ _).mode.trans hmode))
  | logsViewed hmode _ => exact absurd hin (normal ((refreshed_applyStatus _ _ _).mode.trans hmode))
  | saved hmode _ => exact absurd hin (normal ((saveConfig_app _ _ _).2.1.trans hmode))
  | askedLink _ _ _ _ | askedPeer _ _ _ _ | askedService _ _ _ _ =>
    simp [Mode.isLinkWizard, Mode.isPeerWizard] at hin
  | linkRemoved _ _ => exact absurd hin (normal (removeSelectedLink_idle _).1)
  | peerRemoved _ _ => exact absurd hin (normal (removeSelectedPeer_idle _).1)
  | dismissed _ _ | serviceCancelled _ _ => exact absurd hin (normal rfl)
  | serviceConfirmed _ _ => exact absurd hin (normal (runPendingServiceAction_app _ _).mode)
  | linkCancelled hmode => exact absurd (.inl hmode) hout
  | peerCancelled hmode => exact absurd (.inr hmode) hout
  | templateConfirmed hmode | modeChosen hmode => exact absurd (.inl (by rw [hmode]; rfl)) hout
  | linkIdConfirmed hmode _ | addressConfirmed hmode _ =>
    exact absurd (.inl (by rw [hmode]; rfl)) hout
  | toggled hmode => exact absurd (.inr (by rw [hmode]; rfl)) hout
  | nameConfirmed hmode _ | publicKeyConfirmed hmode _ | linksConfirmed hmode _ =>
    exact absurd (.inr (by rw [hmode]; rfl)) hout

end

/-! ## The link wizard -/

/-- `Enter` ends the link wizard: what has been typed is an address. -/
structure CompletesLink (app : App) (input : Input) : Prop where
  enter : ∃ answers, input = .key .enter answers
  mode : app.mode = .addLinkAddress
  nonempty : trim app.inputBuffer ≠ []
  parses : (SocketAddr.parse (trim app.inputBuffer)).isSome

/-- The id of the link that is edited, if the key does not add one. -/
def editedLink (app : App) : Input → Option String
  | .key (.char 'e') _ => app.selectedLink.map LinkConfig.id
  | _ => none

/-- While the link wizard runs that has been opened in `app₀` to edit `original`. -/
structure LinkRunning (app₀ : App) (original : Option String) (app : App) : Prop
    extends Kept app₀ app where
  editing : app.editingOriginalId = original
  id : app.mode = .addLinkDirection ∨ app.mode = .addLinkAddress → app.pendingLinkId.isSome
  mode : app.mode = .addLinkAddress → app.pendingLinkMode.isSome

section

variable {crates : Crates} {s s' s₀ : State} {input : Input} {es tr : List Event}
  {inputs : List Input} {code : KeyCode} {answers : Answers} {app app' app₀ : App}
  {original : Option String}

theorem linkRunning_begins (hb : Begins app code app') (hin : app'.mode.isLinkWizard) :
    LinkRunning app (editedLink app (.key code answers)) app' := by
  cases hb with
  | linkAdded hcode =>
    subst hcode
    exact ⟨⟨rfl, rfl⟩, rfl, (by rintro (h | h) <;> cases h), (by rintro ⟨⟩)⟩
  | @linkEdited link hcode hsel =>
    subst hcode
    have hedit : some link.id = editedLink app (.key (.char 'e') answers) := by
      show some link.id = app.selectedLink.map LinkConfig.id
      rw [hsel]
      rfl
    exact ⟨⟨rfl, rfl⟩, hedit, (by rintro (h | h) <;> cases h), (by rintro ⟨⟩)⟩
  | peerAdded _ _ | peerEdited _ _ => cases hin

theorem LinkRunning.key (h : LinkRunning app₀ original app) (hk : LinkKey app code app')
    (hin : app'.mode.isLinkWizard) : LinkRunning app₀ original app' := by
  cases hk with
  | moved => exact ⟨⟨h.config, h.dirty⟩, h.editing, h.id, h.mode⟩
  | cancelled => cases hin
  | template _ =>
    unfold App.confirmTemplateChoice
    split
    · exact ⟨⟨h.config, h.dirty⟩, h.editing, (by rintro (h | h) <;> cases h), (by rintro ⟨⟩)⟩
    · split <;>
      exact ⟨⟨h.config, h.dirty⟩, h.editing, (by rintro (h | h) <;> cases h), (by rintro ⟨⟩)⟩
  | id _ =>
    unfold App.confirmLinkId at hin ⊢
    simp only at hin ⊢
    split at hin
    · cases hin
    · rename_i hid
      rw [if_neg hid]
      split
      · rename_i hpending
        exact ⟨⟨h.config, h.dirty⟩, h.editing, fun _ => rfl, fun _ => hpending⟩
      · exact ⟨⟨h.config, h.dirty⟩, h.editing, fun _ => rfl, (by rintro ⟨⟩)⟩
  | mode hmode =>
    exact ⟨⟨h.config, h.dirty⟩, h.editing, fun _ => h.id (.inl hmode), fun _ => rfl⟩
  | address _ _ =>
    have hc := confirmLinkAddress_cases app
    generalize app.confirmLinkAddress = app' at hc hin
    cases hc with
    | missing _ | emptied _ | completed _ => cases hin
    | rejected _ => exact ⟨⟨h.config, h.dirty⟩, h.editing, h.id, h.mode⟩

theorem LinkRunning.refreshed (h : LinkRunning app₀ original app) (hr : Refreshed app app') :
    LinkRunning app₀ original app' := by
  cases hr
  exact ⟨⟨h.config, h.dirty⟩, h.editing, h.id, h.mode⟩

theorem linkRunning_step (h : LinkRunning app₀ original s.app) (hwizard : s.app.mode.isLinkWizard)
    (hst : step crates s input = some (s', es)) (hin : s'.app.mode.isLinkWizard) :
    LinkRunning app₀ original s'.app := by
  cases step_cases hst with
  | other => exact h
  | idle => exact h.refreshed (refreshed_idleTick _ _)
  | key hc =>
    have hcleared : LinkRunning app₀ original (cleared s.app) :=
      ⟨⟨h.config, h.dirty⟩, h.editing, h.id, h.mode⟩
    have hmode : (cleared s.app).mode.isLinkWizard := hwizard
    exact hcleared.key (linkKey_of_case hmode hc).1 hin

/-- While a link wizard runs. -/
theorem linkRunning_run (h : LinkRunning app₀ original s₀.app)
    (hrun : Run (step crates) (fun s _ => s.app.mode.isLinkWizard) s₀ inputs s tr)
    (hin : s.app.mode.isLinkWizard) : LinkRunning app₀ original s.app := by
  induction hrun with
  | nil => exact h
  | snoc _ hwizard hst ih => exact linkRunning_step (ih hwizard) hwizard hst hin

theorem step_key (h : step crates s (.key code answers) = some (s', es)) :
    handleKey crates { s with app := cleared s.app } code answers = (s', es) := by
  unfold step at h
  split at h
  · cases h
  · exact Option.some.inj h

/-- The last step of the link wizard. -/
theorem linkCompleted {id : String} {mode : LinkMode} (h : CompletesLink s.app input)
    (hid : s.app.pendingLinkId = some id) (hmode : s.app.pendingLinkMode = some mode)
    (hst : step crates s input = some (s', es)) :
    let entry := App.newLink s.app.config id mode (String.ofList (trim s.app.inputBuffer))
    s'.app.config =
      { s.app.config with
        links := upsert LinkConfig.id s.app.editingOriginalId entry s.app.config.links } ∧
    s'.app.dirty = true ∧ s'.app.mode = .normal := by
  intro entry
  obtain ⟨answers, rfl⟩ := h.enter
  have hkey := step_key hst
  have haddress : (cleared s.app).mode = .addLinkAddress := h.mode
  have hconfirm : handleLinkTextInput (cleared s.app) .enter =
      (cleared s.app).confirmLinkAddress := by
    unfold handleLinkTextInput
    rw [if_neg (by decide), if_pos rfl, haddress]
  simp only [handleKey, haddress, hconfirm] at hkey
  obtain ⟨rfl, -⟩ := Prod.mk.inj hkey
  have hc := confirmLinkAddress_cases (cleared s.app)
  simp only
  generalize (cleared s.app).confirmLinkAddress = app' at hc
  cases hc with
  | missing hnone =>
    rcases hnone with hnone | hnone
    · exact absurd (hid.symm.trans hnone) (by simp)
    · exact absurd (hmode.symm.trans hnone) (by simp)
  | emptied hempty => exact absurd hempty h.nonempty
  | rejected hnone =>
    exact absurd (Option.isNone_iff_eq_none.mp hnone) (Option.isSome_iff_ne_none.mp h.parses)
  | @completed link _ _ hconfirms =>
    obtain ⟨id', mode', hid', hmode', heq⟩ := hconfirms.entry
    obtain rfl := Option.some.inj (hid.symm.trans hid')
    obtain rfl := Option.some.inj (hmode.symm.trans hmode')
    rw [heq]
    exact ⟨rfl, rfl, rfl⟩

/-- The new entry is one that `validate_link` accepts. -/
theorem validateLink_newLink (c : Config) (id : String) (mode : LinkMode) {text : List Char}
    (h : (SocketAddr.parse text).isSome) :
    c.validateLink (App.newLink c id mode (String.ofList text)) = [] := by
  obtain ⟨addr, haddr⟩ := Option.isSome_iff_exists.mp h
  have haddress : IsAddress (some (String.ofList text)) :=
    ⟨_, addr, rfl, by rw [String.toList_ofList, haddr]⟩
  rw [Config.validateLink_eq_nil]
  unfold App.newLink Config.linkNeedsListen Config.LinkFields
  cases hrole : c.role <;> cases mode <;> simp [haddress]

/-- How a step of the link wizard can end that has been opened in `app₀`. -/
structure LinkFramed (app₀ : App) (original : Option String) (app : App) (input : Input)
    (app' : App) : Prop where
  /-- The completed wizard has put in one entry. -/
  completed : CompletesLink app input → ∃ entry, Confirms app entry ∧
    app₀.config.validateLink entry = [] ∧
    app'.config =
      { app₀.config with links := upsert LinkConfig.id original entry app₀.config.links } ∧
    app'.dirty = true ∧ app'.mode = .normal
  /-- Every other step leaves the config and the flag alone. -/
  other : ¬ CompletesLink app input → Kept app₀ app'

theorem LinkRunning.framed (h : LinkRunning app₀ original s.app)
    (hwizard : s.app.mode.isLinkWizard) (hst : step crates s input = some (s', es)) :
    LinkFramed app₀ original s.app input s'.app := by
  constructor
  · intro hcompletes
    obtain ⟨id, hid⟩ := Option.isSome_iff_exists.mp (h.id (.inr hcompletes.mode))
    obtain ⟨mode, hmode⟩ := Option.isSome_iff_exists.mp (h.mode hcompletes.mode)
    obtain ⟨hconfig, hdirty, hnormal⟩ := linkCompleted hcompletes hid hmode hst
    refine ⟨_, ⟨⟨id, mode, hid, hmode, rfl⟩, hcompletes.nonempty, hcompletes.parses⟩, ?_, ?_,
      hdirty, hnormal⟩
    · rw [← h.config]
      exact validateLink_newLink _ _ _ hcompletes.parses
    · rw [hconfig, h.config, h.editing]
  · intro hother
    cases step_effect hst with
    | kept hkept _ => exact ⟨hkept.config.trans h.config, hkept.dirty.trans h.dirty⟩
    | linkPut hinput hmode hconfirms _ _ _ _ =>
      exact absurd ⟨⟨_, hinput⟩, hmode, hconfirms.nonempty, hconfirms.parses⟩ hother
    | linkTaken _ _ hmode _ _ _ _ _ | peerPut _ hmode _ _ _ _ _ _
    | peerTaken _ _ hmode _ _ _ _ _ | saved _ hmode _ =>
      rw [hmode] at hwizard
      cases hwizard

end

/-! ## The peer wizard -/

/-- `Enter` ends the peer wizard. -/
structure CompletesPeer (app : App) (input : Input) : Prop where
  enter : ∃ answers, input = .key .enter answers
  mode : app.mode = .addPeerLinks

/-- The peer that is edited, if the key does not add one. -/
def editedPeer (app : App) : Input → Option PeerConfig
  | .key (.char 'e') _ => app.selectedPeer
  | _ => none

/-- While the peer wizard runs that has been opened in `app₀` to edit `original`. -/
structure PeerRunning (base64 : Base64) (app₀ : App) (original : Option PeerConfig) (app : App) :
    Prop extends Kept app₀ app where
  editing : app.editingOriginalPeerName = original.map PeerConfig.name
  name : app.mode = .addPeerPublicKey ∨ app.mode = .addPeerLinks → app.pendingPeerName.isSome
  publicKey : app.mode = .addPeerLinks → ∃ publicKey key,
    app.pendingPeerPublicKey = some publicKey ∧ decodePublicKey base64 publicKey = .ok key
  links : ∀ id ∈ app.pendingPeerLinks,
    id ∈ app₀.config.links.map LinkConfig.id ∨ ∃ peer, original = some peer ∧ id ∈ peer.links

section

variable {crates : Crates} {s s' s₀ : State} {input : Input} {es tr : List Event}
  {inputs : List Input} {code : KeyCode} {answers : Answers} {app app' app₀ : App}
  {base64 : Base64} {original : Option PeerConfig}

/-- What a key ticks is a link. -/
theorem PeerKey.ticked (hk : PeerKey base64 app code app') : ∀ id ∈ app'.pendingPeerLinks,
    id ∈ app.pendingPeerLinks ∨ id ∈ app.config.links.map LinkConfig.id := by
  cases hk with
  | moved => exact fun id => .inl
  | cancelled =>
    intro id hid
    cases hid
  | name _ =>
    unfold App.confirmPeerName
    simp only
    split
    · intro id hid
      cases hid
    · exact fun id => .inl
  | publicKey _ =>
    have hc := confirmPeerPublicKey_cases base64 app
    generalize app.confirmPeerPublicKey base64 = app' at hc
    cases hc <;> exact fun id => .inl
  | toggled _ =>
    unfold App.togglePeerLink
    split
    · exact fun id => .inl
    · rename_i link hlink
      have hmem : link.id ∈ app.config.links.map LinkConfig.id :=
        List.mem_map_of_mem (List.mem_of_getElem? hlink)
      intro id hid
      simp only at hid
      split at hid
      · exact .inl (List.mem_of_mem_eraseIdx hid)
      · rcases List.mem_append.mp hid with hid | hid
        · exact .inl hid
        · rw [List.mem_singleton.mp hid]
          exact .inr hmem
  | links _ _ =>
    have hc := confirmPeerLinks_cases app
    generalize app.confirmPeerLinks = app' at hc
    cases hc with
    | missing _ => exact fun id => .inl
    | completed _ _ =>
      intro id hid
      cases hid

theorem peerRunning_begins (hb : Begins app code app') (hin : app'.mode.isPeerWizard) :
    PeerRunning base64 app (editedPeer app (.key code answers)) app' := by
  cases hb with
  | peerAdded hcode _ =>
    subst hcode
    exact ⟨⟨rfl, rfl⟩, rfl, (by rintro (h | h) <;> cases h), (by rintro ⟨⟩), (by rintro _ ⟨⟩)⟩
  | @peerEdited peer hcode hsel =>
    subst hcode
    have hedit : editedPeer app (.key (.char 'e') answers) = some peer := hsel
    rw [hedit]
    exact ⟨⟨rfl, rfl⟩, rfl, (by rintro (h | h) <;> cases h), (by rintro ⟨⟩),
      fun id hid => .inr ⟨peer, rfl, hid⟩⟩
  | linkAdded _ | linkEdited _ _ => cases hin

theorem PeerRunning.key (h : PeerRunning base64 app₀ original app)
    (hk : PeerKey base64 app code app') (hin : app'.mode.isPeerWizard) :
    PeerRunning base64 app₀ original app' := by
  have hlinks : ∀ id ∈ app'.pendingPeerLinks, id ∈ app₀.config.links.map LinkConfig.id ∨
      ∃ peer, original = some peer ∧ id ∈ peer.links := by
    intro id hid
    rcases hk.ticked id hid with hid | hid
    · exact h.links id hid
    · rw [h.config] at hid
      exact .inl hid
  cases hk with
  | moved => exact ⟨⟨h.config, h.dirty⟩, h.editing, h.name, h.publicKey, hlinks⟩
  | cancelled => cases hin
  | name _ =>
    unfold App.confirmPeerName at hin hlinks ⊢
    simp only at hin hlinks ⊢
    split at hin
    · cases hin
    · rename_i hname
      rw [if_neg hname] at hlinks ⊢
      exact ⟨⟨h.config, h.dirty⟩, h.editing, fun _ => rfl, (by rintro ⟨⟩), hlinks⟩
  | publicKey hmode =>
    have hc := confirmPeerPublicKey_cases base64 app
    generalize app.confirmPeerPublicKey base64 = app' at hc hin hlinks
    cases hc with
    | missing _ | emptied _ => cases hin
    | rejected => exact ⟨⟨h.config, h.dirty⟩, h.editing, h.name, h.publicKey, hlinks⟩
    | confirmed hkey =>
      exact ⟨⟨h.config, h.dirty⟩, h.editing, fun _ => h.name (.inl hmode),
        fun _ => ⟨_, _, rfl, hkey⟩, hlinks⟩
  | toggled _ =>
    unfold App.togglePeerLink at hlinks ⊢
    split
    · exact h
    · rename_i link hlink
      rw [hlink] at hlinks
      exact ⟨⟨h.config, h.dirty⟩, h.editing, h.name, h.publicKey, hlinks⟩
  | links _ _ =>
    have hc := confirmPeerLinks_cases app
    generalize app.confirmPeerLinks = app' at hc hin
    cases hc <;> cases hin

theorem PeerRunning.refreshed (h : PeerRunning base64 app₀ original app)
    (hr : Refreshed app app') : PeerRunning base64 app₀ original app' := by
  cases hr
  exact ⟨⟨h.config, h.dirty⟩, h.editing, h.name, h.publicKey, h.links⟩

theorem peerRunning_step (h : PeerRunning crates.base64 app₀ original s.app)
    (hwizard : s.app.mode.isPeerWizard) (hst : step crates s input = some (s', es))
    (hin : s'.app.mode.isPeerWizard) : PeerRunning crates.base64 app₀ original s'.app := by
  cases step_cases hst with
  | other => exact h
  | idle => exact h.refreshed (refreshed_idleTick _ _)
  | key hc =>
    have hcleared : PeerRunning crates.base64 app₀ original (cleared s.app) :=
      ⟨⟨h.config, h.dirty⟩, h.editing, h.name, h.publicKey, h.links⟩
    have hmode : (cleared s.app).mode.isPeerWizard := hwizard
    exact hcleared.key (peerKey_of_case hmode hc).1 hin

/-- While a peer wizard runs. -/
theorem peerRunning_run (h : PeerRunning crates.base64 app₀ original s₀.app)
    (hrun : Run (step crates) (fun s _ => s.app.mode.isPeerWizard) s₀ inputs s tr)
    (hin : s.app.mode.isPeerWizard) : PeerRunning crates.base64 app₀ original s.app := by
  induction hrun with
  | nil => exact h
  | snoc _ hwizard hst ih => exact peerRunning_step (ih hwizard) hwizard hst hin

/-- The last step of the peer wizard. -/
theorem peerCompleted {name publicKey : String} (h : CompletesPeer s.app input)
    (hname : s.app.pendingPeerName = some name)
    (hkey : s.app.pendingPeerPublicKey = some publicKey)
    (hst : step crates s input = some (s', es)) :
    s'.app.config =
      { s.app.config with
        peers := upsert PeerConfig.name s.app.editingOriginalPeerName
          ⟨name, publicKey, s.app.pendingPeerLinks⟩ s.app.config.peers } ∧
    s'.app.dirty = true ∧ s'.app.mode = .normal := by
  obtain ⟨answers, rfl⟩ := h.enter
  have hkeys := step_key hst
  have hmode : (cleared s.app).mode = .addPeerLinks := h.mode
  have hconfirm : handlePeerLinksChecklist (cleared s.app) .enter =
      (cleared s.app).confirmPeerLinks := by
    unfold handlePeerLinksChecklist
    rw [if_neg (by decide), if_neg (by decide), if_neg (by decide), if_neg (by decide), if_pos rfl]
  simp only [handleKey, hmode, hconfirm] at hkeys
  obtain ⟨rfl, -⟩ := Prod.mk.inj hkeys
  have hc := confirmPeerLinks_cases (cleared s.app)
  simp only
  generalize (cleared s.app).confirmPeerLinks = app' at hc
  cases hc with
  | missing hnone =>
    rcases hnone with hnone | hnone
    · exact absurd (hname.symm.trans hnone) (by simp)
    · exact absurd (hkey.symm.trans hnone) (by simp)
  | completed hname' hkey' =>
    obtain rfl := Option.some.inj (hname.symm.trans hname')
    obtain rfl := Option.some.inj (hkey.symm.trans hkey')
    exact ⟨rfl, rfl, rfl⟩

/-- How a step of the peer wizard can end that has been opened in `app₀`. -/
structure PeerFramed (base64 : Base64) (app₀ : App) (original : Option PeerConfig) (app : App)
    (input : Input) (app' : App) : Prop where
  /-- The completed wizard has put in one entry, with a key that decodes and links that are
      defined or were the peer's before. -/
  completed : CompletesPeer app input → ∃ entry key, app.pendingPeerName = some entry.name ∧
    decodePublicKey base64 entry.publicKey = .ok key ∧
    (∀ id ∈ entry.links, id ∈ app₀.config.links.map LinkConfig.id ∨
      ∃ peer, original = some peer ∧ id ∈ peer.links) ∧
    app'.config =
      { app₀.config with
        peers := upsert PeerConfig.name (original.map PeerConfig.name) entry app₀.config.peers } ∧
    app'.dirty = true ∧ app'.mode = .normal
  /-- Every other step leaves the config and the flag alone. -/
  other : ¬ CompletesPeer app input → Kept app₀ app'

theorem PeerRunning.framed (h : PeerRunning crates.base64 app₀ original s.app)
    (hwizard : s.app.mode.isPeerWizard) (hst : step crates s input = some (s', es)) :
    PeerFramed crates.base64 app₀ original s.app input s'.app := by
  constructor
  · intro hcompletes
    obtain ⟨name, hname⟩ := Option.isSome_iff_exists.mp (h.name (.inr hcompletes.mode))
    obtain ⟨publicKey, key, hkey, hdecode⟩ := h.publicKey hcompletes.mode
    obtain ⟨hconfig, hdirty, hnormal⟩ := peerCompleted hcompletes hname hkey hst
    rw [h.config, h.editing] at hconfig
    exact ⟨⟨name, publicKey, s.app.pendingPeerLinks⟩, key, hname, hdecode, h.links, hconfig, hdirty,
      hnormal⟩
  · intro hother
    cases step_effect hst with
    | kept hkept _ => exact ⟨hkept.config.trans h.config, hkept.dirty.trans h.dirty⟩
    | peerPut hinput hmode _ _ _ _ _ _ => exact absurd ⟨⟨_, hinput⟩, hmode⟩ hother
    | linkTaken _ _ hmode _ _ _ _ _ | linkPut _ hmode _ _ _ _ _
    | peerTaken _ _ hmode _ _ _ _ _ | saved _ hmode _ =>
      rw [hmode] at hwizard
      cases hwizard

end

/-! ## Whole wizards -/

/-- A wizard is opened in `s` by the key `first`, goes on with `inputs`, and ends, or goes on
    again, with the step `last` from `t`. -/
structure WizardRun (crates : Crates) (wizard : Mode → Bool) (s : State) (first : Input)
    (inputs : List Input) (t : State) (last : Input) (s' : State) : Prop where
  opened : ∃ s₁ es tr, step crates s first = some (s₁, es) ∧
    Run (step crates) (fun t _ => wizard t.app.mode) s₁ inputs t tr
  inside : wizard t.app.mode
  ends : ∃ es, step crates t last = some (s', es)

section

variable {crates : Crates} {s s₁ s' t : State} {first last : Input} {inputs : List Input}
  {es tr : List Event} {wizard : Mode → Bool}

theorem first_inside (hrun : Run (step crates) (fun t _ => wizard t.app.mode) s₁ inputs t tr)
    (hinside : wizard t.app.mode) : wizard s₁.app.mode := by
  induction hrun with
  | nil => exact hinside
  | snoc _ hmode _ ih => exact ih hmode

theorem begins_of_step (hmode : s.app.mode = .normal) (hst : step crates s first = some (s₁, es))
    (hin : s₁.app.mode.isLinkWizard ∨ s₁.app.mode.isPeerWizard) :
    ∃ code answers, first = .key code answers ∧ Begins (cleared s.app) code s₁.app := by
  have hout : ¬ (s.app.mode.isLinkWizard ∨ s.app.mode.isPeerWizard) := by
    rw [hmode]
    simp [Mode.isLinkWizard, Mode.isPeerWizard]
  cases step_cases hst with
  | other => exact absurd hin hout
  | @idle answers =>
    rw [(refreshed_idleTick s.app answers).mode] at hin
    exact absurd hin hout
  | @key code answers _ _ hc => exact ⟨code, answers, rfl, (begins_of_case hc hout hin).2⟩

theorem linkFramed_of_run (hmode : s.app.mode = .normal)
    (h : WizardRun crates Mode.isLinkWizard s first inputs t last s') :
    Kept s.app t.app ∧ LinkFramed s.app (editedLink s.app first) t.app last s'.app := by
  obtain ⟨s₁, es, tr, hfirst, hrun⟩ := h.opened
  obtain ⟨es', hlast⟩ := h.ends
  have hin := first_inside hrun h.inside
  obtain ⟨code, answers, rfl, hbegins⟩ := begins_of_step hmode hfirst (.inl hin)
  have hbegun := @linkRunning_begins code answers _ _ hbegins hin
  have hrunning : LinkRunning s.app (editedLink s.app (.key code answers)) s₁.app :=
    ⟨⟨hbegun.config, hbegun.dirty⟩, hbegun.editing, hbegun.id, hbegun.mode⟩
  have ht := linkRunning_run hrunning hrun h.inside
  exact ⟨ht.toKept, ht.framed h.inside hlast⟩

theorem peerFramed_of_run (hmode : s.app.mode = .normal)
    (h : WizardRun crates Mode.isPeerWizard s first inputs t last s') :
    Kept s.app t.app ∧
      PeerFramed crates.base64 s.app (editedPeer s.app first) t.app last s'.app := by
  obtain ⟨s₁, es, tr, hfirst, hrun⟩ := h.opened
  obtain ⟨es', hlast⟩ := h.ends
  have hin := first_inside hrun h.inside
  obtain ⟨code, answers, rfl, hbegins⟩ := begins_of_step hmode hfirst (.inr hin)
  have hbegun := @peerRunning_begins code answers _ _ crates.base64 hbegins hin
  have hrunning : PeerRunning crates.base64 s.app (editedPeer s.app (.key code answers)) s₁.app :=
    ⟨⟨hbegun.config, hbegun.dirty⟩, hbegun.editing, hbegun.name, hbegun.publicKey, hbegun.links⟩
  have ht := peerRunning_run hrunning hrun h.inside
  exact ⟨ht.toKept, ht.framed h.inside hlast⟩

end

end Ghostport.Tui
