import Ghostport.Lib.Machine
import Ghostport.Tui.App

/-!
# The event loop of the TUI (`src/tui/mod.rs`)

A step of the loop is a key, an idle tick or another event of the terminal. What the system
answers meanwhile (the status socket, `systemctl`, the file system) comes with it.
-/

namespace Ghostport.Tui

open Ghostport.Core Ghostport.Lib

/-! ## Inputs and events -/

/-- `KeyCode`, as far as a handler looks at it. -/
inductive KeyCode where
  | char (c : Char)
  | enter
  | esc
  | tab
  | backspace
  | up
  | down
  | other
  deriving DecidableEq, Repr

/-- What a handler gets from the system if it asks. -/
structure Answers where
  now : Instant
  status : Except String StatusSnapshot
  serviceState : Option String
  enabledState : Option String
  write : WriteOutcome

inductive Input where
  | key (code : KeyCode) (answers : Answers)
  /-- Nothing happens for 500 ms. -/
  | idle (answers : Answers)
  /-- A resize, or the mouse. -/
  | other

inductive Event where
  /-- `run_service_action_suspended` is called. -/
  | ran (action : ServiceAction)
  deriving DecidableEq, Repr

/-- The crates that the TUI uses. -/
structure Crates where
  base64 : Base64
  toml : Toml

/-- The TUI, and the config file. -/
structure State where
  app : App
  file : File

/-- `j` or the arrow. -/
def KeyCode.isNext (code : KeyCode) : Bool := code = .char 'j' || code = .down

/-- `k` or the arrow. -/
def KeyCode.isPrevious (code : KeyCode) : Bool := code = .char 'k' || code = .up

/-- `y` or `Y`. -/
def KeyCode.isYes (code : KeyCode) : Bool := code = .char 'y' || code = .char 'Y'

/-! ## Handlers -/

/-- `refresh_service_info`. -/
def refreshServiceInfo (app : App) (answers : Answers) : App :=
  { app with serviceState := answers.serviceState, enabledState := answers.enabledState }

/-- `run_pending_service_action` (lines 310-321). -/
def runPendingServiceAction (app : App) (answers : Answers) : App × List Event :=
  match app.pendingServiceAction with
  | none => (app, [])
  | some action =>
    ((refreshServiceInfo { app with pendingServiceAction := none } answers).applyStatus
      answers.now answers.status, [.ran action])

/-- `save_config`. -/
def saveConfig (crates : Crates) (s : State) (answers : Answers) : State :=
  let (result, file) :=
    s.app.config.save crates.base64 crates.toml s.app.configPath s.file answers.write
  ⟨s.app.saved result, file⟩

/-- The keys of the Links tab (lines 148-164). -/
def handleLinksTab (crates : Crates) (s : State) (code : KeyCode) (answers : Answers) : State :=
  if code.isNext then { s with app := s.app.moveLinkSelection 1 }
  else if code.isPrevious then { s with app := s.app.moveLinkSelection (-1) }
  else if code = .char 'a' then { s with app := s.app.beginAddLink }
  else if code = .char 'e' then
    if s.app.selectedLink.isSome then { s with app := s.app.beginEditLink } else s
  else if code = .char 'd' then
    if s.app.selectedLink.isSome then { s with app := { s.app with mode := .confirmRemoveLink } }
    else s
  else if code = .char 's' then saveConfig crates s answers
  else s

/-- The keys of the Service tab (lines 165-177). -/
def handleServiceTab (app : App) (code : KeyCode) (answers : Answers) : App × List Event :=
  if code.isNext then (app.moveServiceSelection 1, [])
  else if code.isPrevious then (app.moveServiceSelection (-1), [])
  else if code = .enter then
    let app := app.activateSelectedServiceAction
    if app.mode = .normal then runPendingServiceAction app answers else (app, [])
  else (app, [])

/-- The keys of the Peers tab (lines 185-202). -/
def handlePeersTab (crates : Crates) (s : State) (code : KeyCode) (answers : Answers) : State :=
  if code.isNext then { s with app := s.app.movePeerSelection 1 }
  else if code.isPrevious then { s with app := s.app.movePeerSelection (-1) }
  else if code = .char 'a' then { s with app := s.app.beginAddPeer }
  else if code = .char 'e' then
    if s.app.selectedPeer.isSome then { s with app := s.app.beginEditPeer } else s
  else if code = .char 'd' then
    if s.app.selectedPeer.isSome then { s with app := { s.app with mode := .confirmRemovePeer } }
    else s
  else if code = .char 's' then saveConfig crates s answers
  else s

/-- `handle_normal` (lines 134-205). -/
def handleNormal (crates : Crates) (s : State) (code : KeyCode) (answers : Answers) :
    State × List Event :=
  if code = .char 'q' ∨ code = .esc then ({ s with app := { s.app with shouldQuit := true } }, [])
  else if code = .tab then ({ s with app := s.app.nextTab }, [])
  else if code = .char '1' then ({ s with app := { s.app with tab := .status } }, [])
  else if code = .char '2' then ({ s with app := { s.app with tab := .links } }, [])
  else if code = .char '3' then ({ s with app := { s.app with tab := .service } }, [])
  else if code = .char '4' then ({ s with app := { s.app with tab := .peers } }, [])
  else
    match s.app.tab with
    | .links => (handleLinksTab crates s code answers, [])
    | .service =>
      let (app, es) := handleServiceTab s.app code answers
      ({ s with app := app }, es)
    | .status =>
      if code = .char 'r' then
        ({ s with app := s.app.applyStatus answers.now answers.status }, [])
      else (s, [])
    | .peers => (handlePeersTab crates s code answers, [])

/-- `handle_choose_template`. -/
def handleChooseTemplate (app : App) (code : KeyCode) : App :=
  if code = .esc then app.cancelLinkWizard
  else if code.isNext then app.moveTemplateSelection 1
  else if code.isPrevious then app.moveTemplateSelection (-1)
  else if code = .enter then app.confirmTemplateChoice
  else app

/-- What `Backspace` and `Char` do to the typed text. -/
def typed (app : App) : KeyCode → App
  | .backspace => { app with inputBuffer := app.inputBuffer.dropLast }
  | .char c => { app with inputBuffer := app.inputBuffer ++ [c] }
  | .enter | .esc | .tab | .up | .down | .other => app

/-- `handle_link_text_input`. -/
def handleLinkTextInput (app : App) (code : KeyCode) : App :=
  if code = .esc then app.cancelLinkWizard
  else if code = .enter then
    match app.mode with
    | .addLinkId => app.confirmLinkId
    | .addLinkAddress => app.confirmLinkAddress
    | _ => app
  else typed app code

/-- `handle_link_mode_choice`. -/
def handleLinkModeChoice (app : App) (code : KeyCode) : App :=
  if code = .esc then app.cancelLinkWizard
  else if code = .char 'f' ∨ code = .char 'F' then app.chooseLinkMode .forward
  else if code = .char 'r' ∨ code = .char 'R' then app.chooseLinkMode .reverse
  else app

/-- `handle_peer_text_input`. -/
def handlePeerTextInput (base64 : Base64) (app : App) (code : KeyCode) : App :=
  if code = .esc then app.cancelPeerWizard
  else if code = .enter then
    match app.mode with
    | .addPeerName => app.confirmPeerName
    | .addPeerPublicKey => app.confirmPeerPublicKey base64
    | _ => app
  else typed app code

/-- `handle_peer_links_checklist`. -/
def handlePeerLinksChecklist (app : App) (code : KeyCode) : App :=
  if code = .esc then app.cancelPeerWizard
  else if code.isNext then app.movePeerLinksCursor 1
  else if code.isPrevious then app.movePeerLinksCursor (-1)
  else if code = .char ' ' then app.togglePeerLink
  else if code = .enter then app.confirmPeerLinks
  else app

/-- `handle_confirm_remove_peer`. -/
def handleConfirmRemovePeer (app : App) (code : KeyCode) : App :=
  if code.isYes then app.removeSelectedPeer else { app with mode := .normal }

/-- `handle_confirm_remove_link`. -/
def handleConfirmRemoveLink (app : App) (code : KeyCode) : App :=
  if code.isYes then app.removeSelectedLink else { app with mode := .normal }

/-- `handle_confirm_service_action`. -/
def handleConfirmServiceAction (app : App) (code : KeyCode) (answers : Answers) :
    App × List Event :=
  if code.isYes then runPendingServiceAction { app with mode := .normal } answers
  else (app.cancelServiceAction, [])

/-- `handle_key` (lines 115-132). -/
def handleKey (crates : Crates) (s : State) (code : KeyCode) (answers : Answers) :
    State × List Event :=
  match s.app.mode with
  | .normal => handleNormal crates s code answers
  | .chooseTemplate => ({ s with app := handleChooseTemplate s.app code }, [])
  | .addLinkId | .addLinkAddress => ({ s with app := handleLinkTextInput s.app code }, [])
  | .addLinkDirection => ({ s with app := handleLinkModeChoice s.app code }, [])
  | .confirmRemoveLink => ({ s with app := handleConfirmRemoveLink s.app code }, [])
  | .confirmServiceAction =>
    let (app, es) := handleConfirmServiceAction s.app code answers
    ({ s with app := app }, es)
  | .addPeerName | .addPeerPublicKey =>
    ({ s with app := handlePeerTextInput crates.base64 s.app code }, [])
  | .addPeerLinks => ({ s with app := handlePeerLinksChecklist s.app code }, [])
  | .confirmRemovePeer => ({ s with app := handleConfirmRemovePeer s.app code }, [])

/-- The idle tick (lines 93-103). -/
def idleTick (app : App) (answers : Answers) : App :=
  match app.tab with
  | .status => app.applyStatus answers.now answers.status
  | .service => refreshServiceInfo app answers
  | .links | .peers => app

/-- The body of `run_event_loop` (lines 82-111). The loop has ended once `should_quit` is
    set. -/
def step (crates : Crates) (s : State) (input : Input) : Option (State × List Event) :=
  if s.app.shouldQuit then none
  else
    match input with
    | .key code answers =>
      some (handleKey crates { s with app := { s.app with message := none } } code answers)
    | .idle answers => some ({ s with app := idleTick s.app answers }, [])
    | .other => some (s, [])

/-- What `run` (lines 29-38) starts with: the loaded config and the first answers. -/
def start (crates : Crates) (configPath : String) (file : File) (answers : Answers) :
    Except String State :=
  (Config.load crates.toml configPath file).map fun config =>
    ⟨(refreshServiceInfo (App.new configPath config) answers).applyStatus answers.now
      answers.status, file⟩

/-- The runs of the TUI whose steps meet `C`. -/
def TuiRun (crates : Crates) (C : State → Input → Prop) (inputs : List Input) (s : State)
    (tr : List Event) : Prop :=
  ∃ configPath file answers s₀, start crates configPath file answers = .ok s₀ ∧
    Run (step crates) C s₀ inputs s tr

/-! ## An example -/

/-- A server with two links, one of which its peer may use. -/
def exampleConfig : Config where
  role := .server
  privateKeyPath := "/etc/ghostport/identity.key"
  peerPublicKey := none
  peers := [⟨"laptop", "AQEBAQEBAQEBAQEBAQEBAQEBAQEBAQEBAQEBAQEBAQE=", ["db"]⟩]
  listenControl := some "0.0.0.0:9000"
  listenData := some "0.0.0.0:9001"
  listenUdp := none
  serverControlAddr := none
  serverDataAddr := none
  serverUdpAddr := none
  links :=
    [⟨"db", .forward, .tcp, none, some "127.0.0.1:5432"⟩,
      ⟨"dev", .reverse, .tcp, some "0.0.0.0:8080", none⟩]

/-- The text of the config up to its second link. -/
def exampleHead : String :=
  "role = \"server\"\nprivate_key_path = \"/etc/ghostport/identity.key\"\n" ++
  "listen_control = \"0.0.0.0:9000\"\nlisten_data = \"0.0.0.0:9001\"\n\n" ++
  "[[peers]]\nname = \"laptop\"\n" ++
  "public_key = \"AQEBAQEBAQEBAQEBAQEBAQEBAQEBAQEBAQEBAQEBAQE=\"\nlinks = [\"db\"]\n\n" ++
  "[[links]]\nid = \"db\"\nmode = \"forward\"\ntransport = \"tcp\"\n" ++
  "target = \"127.0.0.1:5432\"\n"

def exampleText : String :=
  exampleHead ++ "\n[[links]]\nid = \"dev\"\nmode = \"reverse\"\ntransport = \"tcp\"\n" ++
  "listen = \"0.0.0.0:8080\"\n"

/-- The config without its second link. -/
def exampleSmaller : Config := { exampleConfig with links := exampleConfig.links.take 1 }

def exampleCrates : Crates :=
  ⟨.standard, .among [(exampleConfig, exampleText), (exampleSmaller, exampleHead)]⟩

/-- The daemon does not run, and every write succeeds. -/
def exampleAnswers : Answers :=
  ⟨0, .error ("couldn't connect to /run/ghostport/status.sock (No such file or directory " ++
    "(os error 2)) — is the daemon running?"), some "inactive", some "disabled", .written⟩

def exampleStart : State :=
  ⟨(refreshServiceInfo (App.new "/etc/ghostport/config.toml" exampleConfig)
    exampleAnswers).applyStatus exampleAnswers.now exampleAnswers.status,
    some (utf8 exampleText.toList)⟩

theorem start_example : start exampleCrates "/etc/ghostport/config.toml"
    (some (utf8 exampleText.toList)) exampleAnswers = .ok exampleStart := by
  unfold start
  rw [Config.load_utf8 (c := exampleConfig) (by decide +kernel)]
  rfl

/-- The keys of a text, where a new line stands for `Enter`. -/
def press (keys : String) : List Input :=
  keys.toList.map fun c =>
    .key (if c = '\n' then .enter else .char c) exampleAnswers

/-- A computed run of the example, of whose last state `P` is decided. -/
theorem exists_exampleRun {C : State → Input → Prop} [∀ s input, Decidable (C s input)]
    {P : State → Prop} [DecidablePred P] {inputs : List Input} {tr : List Event}
    (h : (exec (fun s input => if C s input then step exampleCrates s input else none)
      exampleStart inputs).map (fun r => decide (P r.1 ∧ r.2 = tr)) = some true) :
    ∃ s, Run (step exampleCrates) C exampleStart inputs s tr ∧ P s := by
  obtain ⟨⟨s, tr'⟩, hexec, heq⟩ := Option.map_eq_some_iff.mp h
  obtain ⟨hP, rfl⟩ := of_decide_eq_true heq
  exact ⟨s, (run_of_exec hexec).of_guarded, hP⟩

end Ghostport.Tui
