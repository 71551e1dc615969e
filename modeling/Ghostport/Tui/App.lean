import Ghostport.Core.Ratelimit
import Ghostport.Core.Save
import Ghostport.Core.Stats

/-!
# The state of the TUI (`src/tui/app.rs`, `src/tui/templates.rs`)

`App` and its operations. The text that is being typed is a list of characters. The cursors of
the two fixed menus are never outside of them.
-/

namespace Ghostport.Tui

open Ghostport.Core Ghostport.Net

/-! ## Templates -/

/-- `LinkTemplate`, without the name that only the menu shows. -/
structure LinkTemplate where
  mode : LinkMode
  defaultId : String
  defaultPort : UInt16

/-- `TEMPLATES` (templates.rs, lines 16-65). -/
def templates : List LinkTemplate :=
  [⟨.forward, "ssh", 22⟩, ⟨.forward, "http", 80⟩, ⟨.forward, "https", 443⟩,
    ⟨.forward, "postgres", 5432⟩, ⟨.forward, "mysql", 3306⟩, ⟨.forward, "redis", 6379⟩,
    ⟨.reverse, "dev", 3000⟩, ⟨.reverse, "web", 8080⟩]

/-- `custom_index`. -/
def customIndex : ℕ := templates.length

/-- `menu_len`. -/
def menuLen : ℕ := templates.length + 1

theorem menuLen_pos : 0 < menuLen := by decide

/-! ## State -/

inductive Tab where
  | status
  | links
  | service
  | peers
  deriving DecidableEq, Repr

inductive ServiceAction where
  | start
  | stop
  | restart
  | enable
  | disable
  | installUnit
  | viewLogs
  deriving DecidableEq, Repr

/-- `SERVICE_MENU`. -/
def serviceMenu : List ServiceAction :=
  [.start, .stop, .restart, .enable, .disable, .installUnit, .viewLogs]

/-- `needs_confirm`. -/
def ServiceAction.needsConfirm (action : ServiceAction) : Bool := action ≠ .viewLogs

inductive Mode where
  | normal
  | chooseTemplate
  | addLinkId
  | addLinkDirection
  | addLinkAddress
  | confirmRemoveLink
  | confirmServiceAction
  | addPeerName
  | addPeerPublicKey
  | addPeerLinks
  | confirmRemovePeer
  deriving DecidableEq, Repr

/-- `App` (lines 98-153). -/
structure App where
  configPath : String
  config : Config
  dirty : Bool
  tab : Tab
  mode : Mode
  inputBuffer : List Char
  linksSelected : ℕ
  templateSelected : Fin menuLen
  serviceMenuSelected : Fin serviceMenu.length
  statusSnapshot : Option StatusSnapshot
  statusError : Option String
  previousSnapshot : Option (Instant × StatusSnapshot)
  statusCapturedAt : Option Instant
  serviceState : Option String
  enabledState : Option String
  pendingServiceAction : Option ServiceAction
  message : Option String
  shouldQuit : Bool
  pendingLinkId : Option String
  pendingLinkMode : Option LinkMode
  pendingDefaultAddress : Option String
  editingOriginalId : Option String
  peersSelected : ℕ
  pendingPeerName : Option String
  pendingPeerPublicKey : Option String
  pendingDefaultPeerPublicKey : Option String
  pendingPeerLinks : List String
  peerLinksCursor : ℕ
  editingOriginalPeerName : Option String
  deriving DecidableEq, Repr

namespace App

/-- `new` (lines 156-190), with the config that was loaded. -/
def new (configPath : String) (config : Config) : App where
  configPath := configPath
  config := config
  dirty := false
  tab := .status
  mode := .normal
  inputBuffer := []
  linksSelected := 0
  templateSelected := ⟨0, by decide⟩
  serviceMenuSelected := ⟨0, by decide⟩
  statusSnapshot := none
  statusError := none
  previousSnapshot := none
  statusCapturedAt := none
  serviceState := none
  enabledState := none
  pendingServiceAction := none
  message := none
  shouldQuit := false
  pendingLinkId := none
  pendingLinkMode := none
  pendingDefaultAddress := none
  editingOriginalId := none
  peersSelected := 0
  pendingPeerName := none
  pendingPeerPublicKey := none
  pendingDefaultPeerPublicKey := none
  pendingPeerLinks := []
  peerLinksCursor := 0
  editingOriginalPeerName := none

/-- `apply_status` (lines 192-209). -/
def applyStatus (app : App) (now : Instant) : Except String StatusSnapshot → App
  | .ok snap =>
    { app with
      previousSnapshot :=
        match app.statusSnapshot with
        | some current => some (app.statusCapturedAt.getD now, current)
        | none => app.previousSnapshot
      statusCapturedAt := some now
      statusSnapshot := some snap
      statusError := none }
  | .error e => { app with statusSnapshot := none, statusError := some e }

/-- `next_tab`. -/
def nextTab (app : App) : App :=
  { app with
    tab :=
      match app.tab with
      | .status => .links
      | .links => .service
      | .service => .peers
      | .peers => .status }

/-- `(selected as isize + delta).rem_euclid(len)`, in all the menus. -/
def moved (len selected : ℕ) (delta : ℤ) : ℕ := ((selected + delta) % len).toNat

theorem moved_lt {len : ℕ} (h : 0 < len) (selected : ℕ) (delta : ℤ) :
    moved len selected delta < len := by
  have hpos : (0 : ℤ) < len := by exact_mod_cast h
  have hlt := Int.emod_lt_of_pos ((selected : ℤ) + delta) hpos
  have hle := Int.emod_nonneg ((selected : ℤ) + delta) hpos.ne'
  unfold moved
  omega

/-- The two `retain`s and the `push` at the end of a wizard (lines 406-412 and 629-635). -/
def replaced {α : Type} (key : α → String) (original : Option String) (entry : α)
    (entries : List α) : List α :=
  let entries :=
    match original with
    | some old => if old ≠ key entry then entries.filter (fun e => key e ≠ old) else entries
    | none => entries
  entries.filter (fun e => key e ≠ key entry) ++ [entry]

/-! ### Links tab -/

/-- `selected_link`. -/
def selectedLink (app : App) : Option LinkConfig := app.config.links[app.linksSelected]?

/-- `move_link_selection`. -/
def moveLinkSelection (app : App) (delta : ℤ) : App :=
  if app.config.links.isEmpty then app
  else { app with linksSelected := moved app.config.links.length app.linksSelected delta }

/-- `begin_add_link`. -/
def beginAddLink (app : App) : App :=
  { app with
    editingOriginalId := none
    pendingLinkId := none
    pendingLinkMode := none
    pendingDefaultAddress := none
    templateSelected := ⟨0, by decide⟩
    inputBuffer := []
    mode := .chooseTemplate }

/-- `begin_edit_link`. -/
def beginEditLink (app : App) : App :=
  match app.selectedLink with
  | none => app
  | some link =>
    { app with
      editingOriginalId := some link.id
      pendingLinkId := none
      pendingLinkMode := none
      pendingDefaultAddress := some ((link.listen.or link.target).getD "")
      inputBuffer := link.id.toList
      mode := .addLinkId }

/-- `move_template_selection`. -/
def moveTemplateSelection (app : App) (delta : ℤ) : App :=
  { app with
    templateSelected := ⟨moved menuLen app.templateSelected delta, moved_lt (by decide) _ _⟩ }

/-- `confirm_template_choice`. -/
def confirmTemplateChoice (app : App) : App :=
  if app.templateSelected.val = customIndex then { app with inputBuffer := [], mode := .addLinkId }
  else
    match templates[app.templateSelected.val]? with
    | some t =>
      { app with
        pendingLinkMode := some t.mode
        pendingDefaultAddress := some ("127.0.0.1:" ++ toString t.defaultPort)
        inputBuffer := t.defaultId.toList
        mode := .addLinkId }
    | none => { app with mode := .addLinkId }

/-- `cancel_link_wizard`. -/
def cancelLinkWizard (app : App) : App :=
  { app with
    pendingLinkId := none
    pendingLinkMode := none
    pendingDefaultAddress := none
    editingOriginalId := none
    inputBuffer := []
    mode := .normal }

/-- `confirm_link_id`. -/
def confirmLinkId (app : App) : App :=
  let id := trim app.inputBuffer
  if id = [] then app.cancelLinkWizard
  else
    let app := { app with pendingLinkId := some (String.ofList id) }
    if app.pendingLinkMode.isSome then
      { app with
        inputBuffer := (app.pendingDefaultAddress.getD "").toList, mode := .addLinkAddress }
    else { app with inputBuffer := [], mode := .addLinkDirection }

/-- `choose_link_mode`. -/
def chooseLinkMode (app : App) (mode : LinkMode) : App :=
  { app with
    pendingLinkMode := some mode
    inputBuffer := (app.pendingDefaultAddress.getD "").toList
    mode := .addLinkAddress }

/-- The entry that `confirm_link_address` builds (lines 386-403). -/
def newLink (c : Config) (id : String) (mode : LinkMode) (addr : String) : LinkConfig :=
  if c.linkNeedsListen mode then ⟨id, mode, .tcp, some addr, none⟩
  else ⟨id, mode, .tcp, none, some addr⟩

/-- `confirm_link_address` (lines 357-423). -/
def confirmLinkAddress (app : App) : App :=
  match app.pendingLinkId, app.pendingLinkMode with
  | some id, some mode =>
    let addr := trim app.inputBuffer
    if addr = [] then
      { app with
        pendingLinkId := none
        pendingLinkMode := none
        inputBuffer := []
        mode := .normal
        editingOriginalId := none
        pendingDefaultAddress := none
        message := some "cancelled: address can't be empty" }
    else if (SocketAddr.parse addr).isNone then
      { app with
        message := some ("\"" ++ String.ofList addr ++ "\" isn't a valid host:port " ++
          "(e.g. 127.0.0.1:5432) — fix it and press enter") }
    else
      let link := newLink app.config id mode (String.ofList addr)
      let links := replaced LinkConfig.id app.editingOriginalId link app.config.links
      let verb := if app.editingOriginalId.isSome then "updated" else "added"
      { app with
        pendingLinkId := none
        pendingLinkMode := none
        inputBuffer := []
        mode := .normal
        editingOriginalId := none
        config := { app.config with links := links }
        dirty := true
        linksSelected := (links.findIdx? fun l => l.id = id).getD 0
        pendingDefaultAddress := none
        message := some (verb ++ " \"" ++ id ++
          "\" (unsaved — press s to write, or the daemon won't see it until restart)") }
  | _, _ => { app with pendingLinkId := none, pendingLinkMode := none, mode := .normal }

/-- `remove_selected_link`. -/
def removeSelectedLink (app : App) : App :=
  match app.config.links[app.linksSelected]? with
  | some removed =>
    { app with
      config := { app.config with links := app.config.links.eraseIdx app.linksSelected }
      linksSelected := app.linksSelected - 1
      dirty := true
      message := some ("removed \"" ++ removed.id ++ "\" (unsaved — press s to write)")
      mode := .normal }
  | none => { app with mode := .normal }

/-- `save_config`, after `Config::save` has returned. -/
def saved (app : App) : Except (List String) Unit → App
  | .ok () => { app with dirty := false, message := some ("saved " ++ app.configPath) }
  | .error errors =>
    { app with
      message := some ("refused to save — " ++ toString errors.length ++ " problem(s): " ++
        "; ".intercalate errors) }

/-! ### Peers tab -/

/-- `selected_peer`. -/
def selectedPeer (app : App) : Option PeerConfig := app.config.peers[app.peersSelected]?

/-- `move_peer_selection`. -/
def movePeerSelection (app : App) (delta : ℤ) : App :=
  if app.config.peers.isEmpty then app
  else { app with peersSelected := moved app.config.peers.length app.peersSelected delta }

/-- `begin_add_peer`. -/
def beginAddPeer (app : App) : App :=
  if app.config.role ≠ .server then
    { app with
      message := some "peers are a server-role feature — this config's role is client" }
  else
    { app with
      editingOriginalPeerName := none
      pendingPeerName := none
      pendingPeerPublicKey := none
      pendingDefaultPeerPublicKey := none
      pendingPeerLinks := []
      peerLinksCursor := 0
      inputBuffer := []
      mode := .addPeerName }

/-- `begin_edit_peer`. -/
def beginEditPeer (app : App) : App :=
  if app.config.role ≠ .server then app
  else
    match app.selectedPeer with
    | none => app
    | some peer =>
      { app with
        editingOriginalPeerName := some peer.name
        pendingPeerName := none
        pendingPeerPublicKey := none
        pendingDefaultPeerPublicKey := some peer.publicKey
        pendingPeerLinks := peer.links
        peerLinksCursor := 0
        inputBuffer := peer.name.toList
        mode := .addPeerName }

/-- `cancel_peer_wizard`. -/
def cancelPeerWizard (app : App) : App :=
  { app with
    pendingPeerName := none
    pendingPeerPublicKey := none
    pendingDefaultPeerPublicKey := none
    pendingPeerLinks := []
    editingOriginalPeerName := none
    inputBuffer := []
    mode := .normal }

/-- `confirm_peer_name`. -/
def confirmPeerName (app : App) : App :=
  let name := trim app.inputBuffer
  if name = [] then app.cancelPeerWizard
  else
    { app with
      pendingPeerName := some (String.ofList name)
      inputBuffer := (app.pendingDefaultPeerPublicKey.getD "").toList
      mode := .addPeerPublicKey }

/-- `confirm_peer_public_key`. -/
def confirmPeerPublicKey (base64 : Base64) (app : App) : App :=
  if app.pendingPeerName.isNone then { app with mode := .normal }
  else
    let key := trim app.inputBuffer
    if key = [] then
      { app with
        inputBuffer := []
        mode := .normal
        editingOriginalPeerName := none
        pendingPeerName := none
        pendingDefaultPeerPublicKey := none
        message := some "cancelled: public key can't be empty" }
    else
      match decodePublicKey base64 (String.ofList key) with
      | .error _ =>
        { app with
          message := some "not a valid base64-encoded 32-byte key — fix it and press enter" }
      | .ok _ =>
        { app with
          pendingPeerPublicKey := some (String.ofList key)
          peerLinksCursor := 0
          mode := .addPeerLinks }

/-- `move_peer_links_cursor`. -/
def movePeerLinksCursor (app : App) (delta : ℤ) : App :=
  if app.config.links.isEmpty then app
  else { app with peerLinksCursor := moved app.config.links.length app.peerLinksCursor delta }

/-- `toggle_peer_link`. -/
def togglePeerLink (app : App) : App :=
  match app.config.links[app.peerLinksCursor]? with
  | none => app
  | some link =>
    { app with
      pendingPeerLinks :=
        match app.pendingPeerLinks.findIdx? fun l => l = link.id with
        | some pos => app.pendingPeerLinks.eraseIdx pos
        | none => app.pendingPeerLinks ++ [link.id] }

/-- `confirm_peer_links` (lines 609-647). -/
def confirmPeerLinks (app : App) : App :=
  match app.pendingPeerName, app.pendingPeerPublicKey with
  | some name, some publicKey =>
    let peer : PeerConfig := ⟨name, publicKey, app.pendingPeerLinks⟩
    let peers := replaced PeerConfig.name app.editingOriginalPeerName peer app.config.peers
    let verb := if app.editingOriginalPeerName.isSome then "updated" else "added"
    { app with
      pendingPeerName := none
      pendingPeerPublicKey := none
      pendingPeerLinks := []
      pendingDefaultPeerPublicKey := none
      inputBuffer := []
      mode := .normal
      editingOriginalPeerName := none
      config := { app.config with peers := peers }
      dirty := true
      peersSelected := (peers.findIdx? fun p => p.name = name).getD 0
      message := some (verb ++ " peer \"" ++ name ++
        "\" (unsaved — press s to write, or the daemon won't see it until restart)") }
  | _, _ => { app with pendingPeerName := none, pendingPeerPublicKey := none, mode := .normal }

/-- `remove_selected_peer`. -/
def removeSelectedPeer (app : App) : App :=
  match app.config.peers[app.peersSelected]? with
  | some removed =>
    { app with
      config := { app.config with peers := app.config.peers.eraseIdx app.peersSelected }
      peersSelected := app.peersSelected - 1
      dirty := true
      message := some ("removed peer \"" ++ removed.name ++ "\" (unsaved — press s to write)")
      mode := .normal }
  | none => { app with mode := .normal }

/-! ### Service tab -/

/-- `move_service_selection`. -/
def moveServiceSelection (app : App) (delta : ℤ) : App :=
  { app with
    serviceMenuSelected :=
      ⟨moved serviceMenu.length app.serviceMenuSelected delta, moved_lt (by decide) _ _⟩ }

/-- `selected_service_action`. -/
def selectedServiceAction (app : App) : ServiceAction := serviceMenu[app.serviceMenuSelected]

/-- `activate_selected_service_action`. -/
def activateSelectedServiceAction (app : App) : App :=
  let action := app.selectedServiceAction
  if action.needsConfirm then
    { app with pendingServiceAction := some action, mode := .confirmServiceAction }
  else { app with pendingServiceAction := some action }

/-- `cancel_service_action`. -/
def cancelServiceAction (app : App) : App :=
  { app with pendingServiceAction := none, mode := .normal }

end App

end Ghostport.Tui
