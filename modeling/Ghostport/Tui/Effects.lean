import Ghostport.Lib.Keyed
import Ghostport.Tui.Cases

/-!
# What a step of the TUI does to the config

Six things can happen to the config, the dirty flag and the file: nothing, a link or a peer is
put in, a link or a peer is taken out, or the config is saved.

Results:
* `confirmLinkAddress_cases`, `confirmPeerLinks_cases`: how the last step of a wizard can end.
* `step_effect`: what a step does to the config, in which mode, and for which key.
-/

namespace Ghostport.Tui

open Ghostport.Core Ghostport.Lib Ghostport.Net

/-- The last step of both wizards is an update of a keyed list. -/
theorem replaced_eq {α : Type} (key : α → String) (original : Option String) (entry : α)
    (entries : List α) : App.replaced key original entry entries =
      upsert key original entry entries := by
  unfold App.replaced upsert
  cases original with
  | none => simp
  | some old =>
    simp only
    split
    · rename_i hne
      rw [List.filter_filter]
      congr 2
      funext e
      simp [Bool.and_comm]
    · rename_i heq
      obtain rfl := not_not.mp heq
      simp

theorem newLink_id (c : Config) (id : String) (mode : LinkMode) (addr : String) :
    (App.newLink c id mode addr).id = id := by
  unfold App.newLink
  split <;> rfl

/-! ## The ends of the wizards -/

/-- What has been typed is an address, and it completes this entry. -/
structure Confirms (app : App) (link : LinkConfig) : Prop where
  entry : ∃ id mode, app.pendingLinkId = some id ∧ app.pendingLinkMode = some mode ∧
    link = App.newLink app.config id mode (String.ofList (trim app.inputBuffer))
  nonempty : trim app.inputBuffer ≠ []
  parses : (SocketAddr.parse (trim app.inputBuffer)).isSome

/-- How `confirm_link_address` ends. -/
inductive AddressCase (app : App) : App → Prop
  | missing : app.pendingLinkId = none ∨ app.pendingLinkMode = none →
    AddressCase app { app with pendingLinkId := none, pendingLinkMode := none, mode := .normal }
  | emptied {message : String} : trim app.inputBuffer = [] →
    AddressCase app
      { app with
        pendingLinkId := none, pendingLinkMode := none, inputBuffer := [], mode := .normal
        editingOriginalId := none, pendingDefaultAddress := none, message := some message }
  | rejected {message : String} : (SocketAddr.parse (trim app.inputBuffer)).isNone →
    AddressCase app { app with message := some message }
  | completed {link : LinkConfig} {selected : ℕ} {message : String} : Confirms app link →
    AddressCase app
      { app with
        pendingLinkId := none, pendingLinkMode := none, inputBuffer := [], mode := .normal
        editingOriginalId := none, pendingDefaultAddress := none, message := some message
        linksSelected := selected, dirty := true
        config :=
          { app.config with
            links := upsert LinkConfig.id app.editingOriginalId link app.config.links } }

theorem confirmLinkAddress_cases (app : App) : AddressCase app app.confirmLinkAddress := by
  unfold App.confirmLinkAddress
  split
  · rename_i id mode hid hmode
    by_cases hempty : trim app.inputBuffer = []
    · simp only [hempty, if_true]
      exact .emptied hempty
    · simp only [hempty, if_false]
      split
      · rename_i hnone
        exact .rejected hnone
      · rename_i hsome
        have hparses := Option.isSome_iff_ne_none.mpr (Option.isNone_iff_eq_none.not.mp hsome)
        rw [replaced_eq]
        exact .completed ⟨⟨id, mode, hid, hmode, rfl⟩, hempty, hparses⟩
  · rename_i hnone
    refine .missing ?_
    cases hid : app.pendingLinkId with
    | none => exact .inl rfl
    | some id =>
      cases hmode : app.pendingLinkMode with
      | none => exact .inr rfl
      | some mode => exact absurd hmode (hnone id mode hid)

/-- How `confirm_peer_public_key` ends. -/
inductive PublicKeyCase (base64 : Base64) (app : App) : App → Prop
  | missing : app.pendingPeerName = none → PublicKeyCase base64 app { app with mode := .normal }
  | emptied {message : String} : trim app.inputBuffer = [] →
    PublicKeyCase base64 app
      { app with
        inputBuffer := [], mode := .normal, editingOriginalPeerName := none
        pendingPeerName := none, pendingDefaultPeerPublicKey := none, message := some message }
  | rejected {message : String} : PublicKeyCase base64 app { app with message := some message }
  | confirmed {key : List UInt8} :
    decodePublicKey base64 (String.ofList (trim app.inputBuffer)) = .ok key →
    PublicKeyCase base64 app
      { app with
        pendingPeerPublicKey := some (String.ofList (trim app.inputBuffer))
        peerLinksCursor := 0, mode := .addPeerLinks }

theorem confirmPeerPublicKey_cases (base64 : Base64) (app : App) :
    PublicKeyCase base64 app (app.confirmPeerPublicKey base64) := by
  unfold App.confirmPeerPublicKey
  by_cases hname : app.pendingPeerName.isNone
  · rw [if_pos hname]
    exact .missing (Option.isNone_iff_eq_none.mp hname)
  · rw [if_neg hname]
    by_cases hempty : trim app.inputBuffer = []
    · simp only [hempty, if_true]
      exact .emptied hempty
    · simp only [hempty, if_false]
      split
      · exact .rejected
      · rename_i key hkey
        exact .confirmed hkey

/-- How `confirm_peer_links` ends. -/
inductive PeerLinksCase (app : App) : App → Prop
  | missing : app.pendingPeerName = none ∨ app.pendingPeerPublicKey = none →
    PeerLinksCase app
      { app with pendingPeerName := none, pendingPeerPublicKey := none, mode := .normal }
  | completed {name publicKey message : String} {selected : ℕ} :
    app.pendingPeerName = some name → app.pendingPeerPublicKey = some publicKey →
    PeerLinksCase app
      { app with
        pendingPeerName := none, pendingPeerPublicKey := none, pendingPeerLinks := []
        pendingDefaultPeerPublicKey := none, inputBuffer := [], mode := .normal
        editingOriginalPeerName := none, message := some message, peersSelected := selected
        dirty := true
        config :=
          { app.config with
            peers := upsert PeerConfig.name app.editingOriginalPeerName
              ⟨name, publicKey, app.pendingPeerLinks⟩ app.config.peers } }

theorem confirmPeerLinks_cases (app : App) : PeerLinksCase app app.confirmPeerLinks := by
  unfold App.confirmPeerLinks
  split
  · rename_i name publicKey hname hkey
    simp only [replaced_eq]
    exact .completed hname hkey
  · rename_i hnone
    refine .missing ?_
    cases hname : app.pendingPeerName with
    | none => exact .inl rfl
    | some name =>
      cases hkey : app.pendingPeerPublicKey with
      | none => exact .inr rfl
      | some publicKey => exact absurd hkey (hnone name publicKey hname)

/-! ## The operations that leave the config alone -/

/-- Nothing differs but what the daemon and `systemctl` have answered. -/
inductive Refreshed (app : App) : App → Prop
  | intro {snapshot : Option StatusSnapshot} {error : Option String}
      {previous : Option (Instant × StatusSnapshot)} {captured : Option Instant}
      {service enabled : Option String} :
    Refreshed app
      { app with
        statusSnapshot := snapshot, statusError := error, previousSnapshot := previous
        statusCapturedAt := captured, serviceState := service, enabledState := enabled }

theorem Refreshed.mode {app app' : App} (h : Refreshed app app') : app'.mode = app.mode := by
  cases h
  rfl

theorem refreshed_applyStatus (app : App) (now : Instant)
    (result : Except String StatusSnapshot) : Refreshed app (app.applyStatus now result) := by
  cases result <;> exact .intro

theorem refreshed_idleTick (app : App) (answers : Answers) :
    Refreshed app (idleTick app answers) := by
  unfold idleTick
  cases app.tab with
  | status => exact refreshed_applyStatus app _ _
  | service | links | peers => exact .intro

/-- The config and the dirty flag are as they were. -/
structure Kept (app app' : App) : Prop where
  config : app'.config = app.config
  dirty : app'.dirty = app.dirty

/-- Moreover no prompt has been opened, and no action waits that did not wait before. -/
structure Plain (app app' : App) : Prop extends Kept app app' where
  prompt : app'.mode.isPrompt = true → app.mode.isPrompt = true
  pending : app'.pendingServiceAction = app.pendingServiceAction

section

variable (app : App)

theorem Refreshed.plain {app app' : App} (h : Refreshed app app') : Plain app app' := by
  cases h
  exact ⟨⟨rfl, rfl⟩, id, rfl⟩

theorem plain_applyStatus (now : Instant) (result : Except String StatusSnapshot) :
    Plain app (app.applyStatus now result) :=
  (refreshed_applyStatus app now result).plain

theorem plain_idleTick (answers : Answers) : Plain app (idleTick app answers) :=
  (refreshed_idleTick app answers).plain

theorem plain_beginEditLink : Plain app app.beginEditLink := by
  unfold App.beginEditLink
  split
  · exact ⟨⟨rfl, rfl⟩, id, rfl⟩
  · exact ⟨⟨rfl, rfl⟩, (by cases ·), rfl⟩

theorem plain_confirmTemplateChoice : Plain app app.confirmTemplateChoice := by
  unfold App.confirmTemplateChoice
  split
  · exact ⟨⟨rfl, rfl⟩, (by cases ·), rfl⟩
  · split <;> exact ⟨⟨rfl, rfl⟩, (by cases ·), rfl⟩

theorem plain_confirmLinkId : Plain app app.confirmLinkId := by
  unfold App.confirmLinkId
  simp only
  split
  · exact ⟨⟨rfl, rfl⟩, (by cases ·), rfl⟩
  · split <;> exact ⟨⟨rfl, rfl⟩, (by cases ·), rfl⟩

theorem plain_beginAddPeer : Plain app app.beginAddPeer := by
  unfold App.beginAddPeer
  split
  · exact ⟨⟨rfl, rfl⟩, id, rfl⟩
  · exact ⟨⟨rfl, rfl⟩, (by cases ·), rfl⟩

theorem plain_beginEditPeer : Plain app app.beginEditPeer := by
  unfold App.beginEditPeer
  split
  · exact ⟨⟨rfl, rfl⟩, id, rfl⟩
  · split
    · exact ⟨⟨rfl, rfl⟩, id, rfl⟩
    · exact ⟨⟨rfl, rfl⟩, (by cases ·), rfl⟩

theorem plain_confirmPeerName : Plain app app.confirmPeerName := by
  unfold App.confirmPeerName
  simp only
  split <;> exact ⟨⟨rfl, rfl⟩, (by cases ·), rfl⟩

theorem plain_confirmPeerPublicKey (base64 : Base64) :
    Plain app (app.confirmPeerPublicKey base64) := by
  have hc := confirmPeerPublicKey_cases base64 app
  generalize app.confirmPeerPublicKey base64 = app' at hc
  cases hc with
  | missing _ | emptied _ | confirmed _ => exact ⟨⟨rfl, rfl⟩, (by cases ·), rfl⟩
  | rejected => exact ⟨⟨rfl, rfl⟩, id, rfl⟩

theorem plain_togglePeerLink : Plain app app.togglePeerLink := by
  unfold App.togglePeerLink
  split <;> exact ⟨⟨rfl, rfl⟩, id, rfl⟩

end

/-- `run_pending_service_action` leaves no action waiting. -/
theorem runPendingServiceAction_app (app : App) (answers : Answers) :
    Refreshed { app with pendingServiceAction := none }
      (runPendingServiceAction app answers).1 := by
  unfold runPendingServiceAction
  split
  · rename_i hnone
    have heq : app = { app with pendingServiceAction := none } := by rw [← hnone]
    rw [← heq]
    exact .intro
  · unfold App.applyStatus
    cases answers.status <;> exact .intro

theorem kept_runPendingServiceAction (app : App) (answers : Answers) :
    Kept app (runPendingServiceAction app answers).1 := by
  have h := (runPendingServiceAction_app app answers).plain
  exact ⟨h.config, h.dirty⟩

theorem removeSelectedLink_idle (app : App) :
    app.removeSelectedLink.mode = .normal ∧
      app.removeSelectedLink.pendingServiceAction = app.pendingServiceAction := by
  unfold App.removeSelectedLink
  split <;> exact ⟨rfl, rfl⟩

theorem removeSelectedPeer_idle (app : App) :
    app.removeSelectedPeer.mode = .normal ∧
      app.removeSelectedPeer.pendingServiceAction = app.pendingServiceAction := by
  unfold App.removeSelectedPeer
  split <;> exact ⟨rfl, rfl⟩

/-- A save changes neither the config in memory nor what waits. -/
theorem saveConfig_app (crates : Crates) (s : State) (answers : Answers) :
    (saveConfig crates s answers).app.config = s.app.config ∧
      (saveConfig crates s answers).app.mode = s.app.mode ∧
      (saveConfig crates s answers).app.pendingServiceAction = s.app.pendingServiceAction := by
  unfold saveConfig
  cases s.app.config.save crates.base64 crates.toml s.app.configPath s.file answers.write with
  | mk result file => cases result <;> exact ⟨rfl, rfl, rfl⟩

/-! ## The start -/

theorem start_idle {crates : Crates} {configPath : String} {file : File} {answers : Answers}
    {s : State} (h : start crates configPath file answers = .ok s) :
    s.app.mode = .normal ∧ s.app.pendingServiceAction = none := by
  unfold start at h
  cases hload : Config.load crates.toml configPath file with
  | error e =>
    rw [hload] at h
    cases h
  | ok config =>
    rw [hload] at h
    obtain rfl := Except.ok.inj h
    unfold App.applyStatus
    cases answers.status <;> exact ⟨rfl, rfl⟩

/-! ## The config -/

/-- What a step does to the config, the dirty flag and the file. -/
inductive Effect (crates : Crates) (s : State) (input : Input) (s' : State) : Prop
  | kept : Kept s.app s'.app → s'.file = s.file → Effect crates s input s'
  | linkPut {answers : Answers} {link : LinkConfig} :
    input = .key .enter answers → s.app.mode = .addLinkAddress → Confirms s.app link →
    s'.app.config =
      { s.app.config with
        links := upsert LinkConfig.id s.app.editingOriginalId link s.app.config.links } →
    s'.app.dirty = true → s'.app.mode = .normal → s'.file = s.file → Effect crates s input s'
  | linkTaken {code : KeyCode} {answers : Answers} {link : LinkConfig} :
    input = .key code answers → code.isYes → s.app.mode = .confirmRemoveLink →
    s.app.selectedLink = some link →
    s'.app.config =
      { s.app.config with links := s.app.config.links.eraseIdx s.app.linksSelected } →
    s'.app.dirty = true → s'.app.mode = .normal → s'.file = s.file → Effect crates s input s'
  | peerPut {answers : Answers} {name publicKey : String} :
    input = .key .enter answers → s.app.mode = .addPeerLinks →
    s.app.pendingPeerName = some name → s.app.pendingPeerPublicKey = some publicKey →
    s'.app.config =
      { s.app.config with
        peers := upsert PeerConfig.name s.app.editingOriginalPeerName
          ⟨name, publicKey, s.app.pendingPeerLinks⟩ s.app.config.peers } →
    s'.app.dirty = true → s'.app.mode = .normal → s'.file = s.file → Effect crates s input s'
  | peerTaken {code : KeyCode} {answers : Answers} {peer : PeerConfig} :
    input = .key code answers → code.isYes → s.app.mode = .confirmRemovePeer →
    s.app.selectedPeer = some peer →
    s'.app.config =
      { s.app.config with peers := s.app.config.peers.eraseIdx s.app.peersSelected } →
    s'.app.dirty = true → s'.app.mode = .normal → s'.file = s.file → Effect crates s input s'
  | saved {answers : Answers} :
    input = .key (.char 's') answers → s.app.mode = .normal →
    s' = saveConfig crates { s with app := cleared s.app } answers → Effect crates s input s'

theorem step_effect {crates : Crates} {s s' : State} {input : Input} {es : List Event}
    (h : step crates s input = some (s', es)) : Effect crates s input s' := by
  cases step_cases h with
  | other => exact .kept ⟨rfl, rfl⟩ rfl
  | idle => exact .kept (plain_idleTick _ _).toKept rfl
  | @key code answers s' es hc =>
    have kept : ∀ {app' : App}, Kept (cleared s.app) app' →
        Effect crates s (.key code answers) ⟨app', s.file⟩ :=
      fun h => .kept ⟨h.config, h.dirty⟩ rfl
    cases hc with
    | ignored _ | cursor _ | typed _ | quit _ | switched _ | linkAdded _ _ | askedLink _ _ _ _
    | askedPeer _ _ _ _ | askedService _ _ _ _ | linkCancelled _ | modeChosen _ | peerCancelled _
    | dismissed _ _ | serviceCancelled _ _ => exact kept ⟨rfl, rfl⟩
    | refreshed _ => exact kept (plain_applyStatus _ _ _).toKept
    | logsViewed _ _ =>
      have h := plain_applyStatus
        (refreshServiceInfo { cleared s.app with pendingServiceAction := none } answers)
        answers.now answers.status
      exact kept ⟨h.config, h.dirty⟩
    | serviceConfirmed _ _ =>
      have h := kept_runPendingServiceAction { cleared s.app with mode := .normal } answers
      exact kept ⟨h.config, h.dirty⟩
    | saved hmode hcode =>
      subst hcode
      exact .saved rfl hmode rfl
    | linkEdited _ _ _ => exact kept (plain_beginEditLink _).toKept
    | peerAdded _ _ => exact kept (plain_beginAddPeer _).toKept
    | peerEdited _ _ _ => exact kept (plain_beginEditPeer _).toKept
    | templateConfirmed _ => exact kept (plain_confirmTemplateChoice _).toKept
    | linkIdConfirmed _ _ => exact kept (plain_confirmLinkId _).toKept
    | nameConfirmed _ _ => exact kept (plain_confirmPeerName _).toKept
    | publicKeyConfirmed _ _ => exact kept (plain_confirmPeerPublicKey _ _).toKept
    | toggled _ => exact kept (plain_togglePeerLink _).toKept
    | addressConfirmed hmode hcode =>
      subst hcode
      have hc := confirmLinkAddress_cases (cleared s.app)
      generalize (cleared s.app).confirmLinkAddress = app' at hc
      cases hc with
      | missing _ | emptied _ | rejected _ => exact kept ⟨rfl, rfl⟩
      | completed h => exact .linkPut rfl hmode ⟨h.entry, h.nonempty, h.parses⟩ rfl rfl rfl rfl
    | linksConfirmed hmode hcode =>
      subst hcode
      have hc := confirmPeerLinks_cases (cleared s.app)
      generalize (cleared s.app).confirmPeerLinks = app' at hc
      cases hc with
      | missing _ => exact kept ⟨rfl, rfl⟩
      | completed hname hkey => exact .peerPut rfl hmode hname hkey rfl rfl rfl rfl
    | linkRemoved hmode hyes =>
      cases hsel : s.app.selectedLink with
      | none =>
        refine kept ?_
        have hnone : (cleared s.app).config.links[(cleared s.app).linksSelected]? = none := hsel
        unfold App.removeSelectedLink
        rw [hnone]
        exact ⟨rfl, rfl⟩
      | some link =>
        have hsome : (cleared s.app).config.links[(cleared s.app).linksSelected]? = some link :=
          hsel
        unfold App.removeSelectedLink
        rw [hsome]
        exact .linkTaken rfl hyes hmode hsel rfl rfl rfl rfl
    | peerRemoved hmode hyes =>
      cases hsel : s.app.selectedPeer with
      | none =>
        refine kept ?_
        have hnone : (cleared s.app).config.peers[(cleared s.app).peersSelected]? = none := hsel
        unfold App.removeSelectedPeer
        rw [hnone]
        exact ⟨rfl, rfl⟩
      | some peer =>
        have hsome : (cleared s.app).config.peers[(cleared s.app).peersSelected]? = some peer :=
          hsel
        unfold App.removeSelectedPeer
        rw [hsome]
        exact .peerTaken rfl hyes hmode hsel rfl rfl rfl rfl

end Ghostport.Tui
