import Ghostport.Core.Keygen
import Ghostport.Tui.App

/-!
# The screen of the TUI (`src/tui/ui.rs`)

The texts and the rows that are drawn, without their colours, their layout, the Status tab and
the line with the names of the tabs. The blanks around a title are left out.
-/

namespace Ghostport.Tui

open Ghostport.Core Ghostport.Net

/-! ## Queries (`src/tui/app.rs`) -/

namespace App

/-- `pending_link_needs_listen`. -/
def pendingLinkNeedsListen (app : App) : Option Bool :=
  app.pendingLinkMode.map app.config.linkNeedsListen

/-- `is_editing`. -/
def isEditing (app : App) : Bool := app.editingOriginalId.isSome

/-- `is_editing_peer`. -/
def isEditingPeer (app : App) : Bool := app.editingOriginalPeerName.isSome

/-- `link_address_input_status`. -/
def linkAddressInputStatus (app : App) : Option Bool :=
  let trimmed := trim app.inputBuffer
  if trimmed = [] then none else some (SocketAddr.parse trimmed).isSome

/-- `peer_public_key_input_status`. -/
def peerPublicKeyInputStatus (base64 : Base64) (app : App) : Option Bool :=
  let trimmed := trim app.inputBuffer
  if trimmed = [] then none
  else some (decodePublicKey base64 (String.ofList trimmed)).isOk

/-- `peer_link_is_checked`. -/
def peerLinkIsChecked (app : App) (linkId : String) : Bool :=
  app.pendingPeerLinks.any fun l => l = linkId

end App

/-- `label`. -/
def ServiceAction.label : ServiceAction → String
  | .start => "Start"
  | .stop => "Stop"
  | .restart => "Restart"
  | .enable => "Enable at boot"
  | .disable => "Disable at boot"
  | .installUnit => "Install systemd unit"
  | .viewLogs => "View recent logs"

/-! ## Drawing -/

/-- A row of the Links tab. -/
structure LinkRow where
  selected : Bool
  id : String
  mode : LinkMode
  field : String
  addr : String
  deriving DecidableEq, Repr

def linkRow (selected : Bool) (l : LinkConfig) : LinkRow where
  selected := selected
  id := l.id
  mode := l.mode
  field := if l.listen.isSome then "listen" else "target"
  addr := (l.listen.or l.target).getD ""

/-- A row of the Peers tab. -/
structure PeerRow where
  selected : Bool
  name : String
  fingerprint : List Char
  links : String
  deriving DecidableEq, Repr

def peerRow (sha256 : List UInt8 → List UInt8) (base64 : Base64) (selected : Bool)
    (p : PeerConfig) : PeerRow where
  selected := selected
  name := p.name
  fingerprint :=
    match decodePublicKey base64 p.publicKey with
    | .ok key => (fingerprint sha256 key).take 23 ++ ['…']
    | .error _ => "invalid key".toList
  links := if p.links.isEmpty then "(none)" else ", ".intercalate p.links

/-- A row of the checklist of a peer. -/
structure CheckRow where
  selected : Bool
  checked : Bool
  id : String
  mode : LinkMode
  deriving DecidableEq, Repr

def checkRow (app : App) (selected : Bool) (l : LinkConfig) : CheckRow where
  selected := selected
  checked := app.peerLinkIsChecked l.id
  id := l.id
  mode := l.mode

/-- What is drawn above the tab while a wizard runs. -/
inductive InputLine where
  | templates (selected : ℕ)
  | text (title : String) (buffer : List Char) (hint : Option String)
  | direction (title : String)
  | noLinks (title : String)
  | checklist (title : String) (rows : List CheckRow)
  deriving DecidableEq, Repr

inductive Body where
  | status
  | links (title : String) (rows : List LinkRow)
  | question (text : String)
  | menu (selected : ℕ)
  /-- The Peers tab of a client. -/
  | noPeers (title : String)
  | peers (title : String) (rows : List PeerRow)
  deriving DecidableEq, Repr

inductive Footer where
  | message (text : String)
  | question (text : String)
  | hints (keys : List (String × String))
  deriving DecidableEq, Repr

structure Screen where
  inputLine : Option InputLine
  body : Body
  footer : Footer
  deriving DecidableEq, Repr

def verb (editing : Bool) : String := if editing then "edit" else "new"

/-- The hint after an address. -/
def addressHint : Option Bool → Option String
  | none => none
  | some true => some "  ✓ valid"
  | some false => some "  ✗ needs host:port, e.g. 127.0.0.1:5432"

/-- The hint after a public key. -/
def publicKeyHint : Option Bool → Option String
  | none => none
  | some true => some "  ✓ valid"
  | some false => some "  ✗ not a valid base64-encoded 32-byte key"

/-- What is asked for in the last step of the link wizard. -/
def fieldLabel : Option Bool → String
  | some true => "listen address"
  | some false => "target address"
  | none => "address"

def addressTitle (editing : Bool) (needsListen : Option Bool) : String :=
  verb editing ++ " encrypted port — " ++ fieldLabel needsListen ++ " (host:port)"

/-- The rows of `draw_peer_links_checklist`. -/
def checkRows (app : App) : List CheckRow :=
  app.config.links.mapIdx fun i l => checkRow app (i = app.peerLinksCursor) l

/-- `draw_input_line` (lines 130-208), where the line has a height (lines 64-71). -/
def drawInputLine (base64 : Base64) (app : App) : Option InputLine :=
  match app.mode with
  | .chooseTemplate => some (.templates app.templateSelected)
  | .addLinkId =>
    some (.text (verb app.isEditing ++ " encrypted port — id") app.inputBuffer none)
  | .addLinkAddress =>
    some (.text (addressTitle app.isEditing app.pendingLinkNeedsListen) app.inputBuffer
      (addressHint app.linkAddressInputStatus))
  | .addLinkDirection => some (.direction (verb app.isEditing ++ " encrypted port — direction"))
  | .addPeerName => some (.text (verb app.isEditingPeer ++ " peer — name") app.inputBuffer none)
  | .addPeerPublicKey =>
    some (.text (verb app.isEditingPeer ++ " peer — public key (from its own `ghostport keygen`)")
      app.inputBuffer (publicKeyHint (app.peerPublicKeyInputStatus base64)))
  | .addPeerLinks =>
    let title := verb app.isEditingPeer ++ " peer — links this peer may use"
    some (if app.config.links.isEmpty then .noLinks title else .checklist title (checkRows app))
  | .normal | .confirmRemoveLink | .confirmServiceAction | .confirmRemovePeer => none

def linksTitle (dirty : Bool) : String := if dirty then "links (unsaved changes)" else "links"

def peersTitle (dirty : Bool) : String := if dirty then "peers (unsaved changes)" else "peers"

/-- `draw_links`. -/
def drawLinks (app : App) : Body :=
  .links (linksTitle app.dirty)
    (app.config.links.mapIdx fun i l => linkRow (i = app.linksSelected) l)

/-- `draw_service`. -/
def drawService (app : App) : Body :=
  if app.mode = .confirmServiceAction then
    match app.pendingServiceAction with
    | some action => .question (action.label ++ "? this needs sudo — y/n")
    | none => .menu app.serviceMenuSelected
  else .menu app.serviceMenuSelected

/-- `draw_peers`. -/
def drawPeers (sha256 : List UInt8 → List UInt8) (base64 : Base64) (app : App) : Body :=
  if app.config.role ≠ .server then .noPeers (peersTitle app.dirty)
  else
    .peers (peersTitle app.dirty)
      (app.config.peers.mapIdx fun i p => peerRow sha256 base64 (i = app.peersSelected) p)

/-- The hints of the footer, and the questions (lines 810-885). -/
def footerFor (tab : Tab) : Mode → Footer
  | .chooseTemplate => .hints [("j/k", "move"), ("enter", "select"), ("esc", "cancel")]
  | .addLinkId | .addLinkAddress | .addPeerName | .addPeerPublicKey =>
    .hints [("enter", "confirm"), ("esc", "cancel")]
  | .addLinkDirection => .hints [("f", "forward"), ("r", "reverse"), ("esc", "cancel")]
  | .confirmRemoveLink => .question "remove this port? y/n"
  | .confirmServiceAction => .question "confirm? y/n"
  | .addPeerLinks =>
    .hints [("j/k", "move"), ("space", "toggle"), ("enter", "confirm"), ("esc", "cancel")]
  | .confirmRemovePeer => .question "remove this peer? y/n"
  | .normal =>
    match tab with
    | .status => .hints [("r", "refresh"), ("tab/1-4", "switch"), ("q", "quit")]
    | .links =>
      .hints [("j/k", "move"), ("a", "add port"), ("e", "edit"), ("d", "delete"), ("s", "save"),
        ("tab/1-4", "switch"), ("q", "quit")]
    | .service =>
      .hints [("j/k", "move"), ("enter", "select"), ("tab/1-4", "switch"), ("q", "quit")]
    | .peers =>
      .hints [("j/k", "move"), ("a", "add peer"), ("e", "edit"), ("d", "delete"), ("s", "save"),
        ("tab/1-4", "switch"), ("q", "quit")]

/-- `draw_footer`. -/
def drawFooter (app : App) : Footer :=
  match app.message with
  | some msg => .message msg
  | none => footerFor app.tab app.mode

/-- `draw` (lines 62-96). -/
def draw (sha256 : List UInt8 → List UInt8) (base64 : Base64) (app : App) : Screen where
  inputLine := drawInputLine base64 app
  body :=
    match app.tab with
    | .status => .status
    | .links => drawLinks app
    | .service => drawService app
    | .peers => drawPeers sha256 base64 app
  footer := drawFooter app

end Ghostport.Tui
