import Ghostport.Client.State
import Ghostport.Control.Session
import Ghostport.Lib.Machine
import Ghostport.Server.Step

/-!
# The steps of the TCP client (`crates/ghostport-core/src/client.rs`)

As for the server: a step takes one task from one await to the next, and an action names
the task and says how the await ended. Each group of steps has its cases as an inductive
relation.
-/

namespace Ghostport.Client

open Ghostport.Core Ghostport.Net Ghostport.Lib

/-! ## Actions -/

inductive ListenerAction where
  | bind (result : Except String Unit)
  | accept (result : Except String SocketAddr)

inductive TunnelAction where
  | connect (result : Except String Unit)
  | handshake (result : Except String Unit)
  | timeout
  /-- `send_json` returns. -/
  | sent (result : Except String Unit)
  /-- `copy_bidirectional` returns. -/
  | relayEnd (result : Except String (UInt64 × UInt64))

inductive ControlAction where
  | connect (result : Except String Unit)
  /-- `nowUnix` is the time that `set_connected` reads. -/
  | handshake (result : Except String Unit) (nowUnix : UInt64)
  | timeout
  /-- `ping_interval` ticks. -/
  | tick
  /-- `recv_json` returns to the `select!`. -/
  | incoming (result : Except String ControlMessage)
  | sent (result : Except String Unit)
  | wake

inductive Action where
  | tick (now : Instant)
  | listener (i : ℕ) (a : ListenerAction)
  | opening (i : ℕ) (result : Except String Unit)
  | tunnel (i : ℕ) (a : TunnelAction)
  | control (a : ControlAction)

/-! ## Data tunnels -/

/-- A call of `dial_data_tunnel_and_relay` up to its first await (lines 128-139). -/
def dialDataTunnelAndRelay (ctx : Context) (s : State) (stream : Stream) : State × List Event :=
  match ctx.config.serverDataAddr with
  | none => (s, [.panicked])
  | some serverDataAddr =>
    ({ s with tunnels := s.tunnels ++ [⟨stream, .connecting serverDataAddr⟩] }, [.dialing stream])

/-- The rest of the call at position `i` (lines 139-167), and what its caller prints. -/
def runTunnel (ctx : Context) (s : State) (i : ℕ) (a : TunnelAction) :
    Option (State × List Event) :=
  let fail (stream : Stream) (e : String) :=
    some ({ s with tunnels := s.tunnels.eraseIdx i }, [Event.print (stream.failed e)])
  let move (stream : Stream) (phase : TunnelPhase) (events : List Event) :=
    some ({ s with tunnels := s.tunnels.set i ⟨stream, phase⟩ }, events)
  match s.tunnels[i]?, a with
  | some ⟨stream, .connecting _⟩, .connect (.error e) => fail stream e
  | some ⟨stream, .connecting _⟩, .connect (.ok ()) =>
    match ctx.initiator with
    | .error e => fail stream e
    | .ok () => move stream (.handshaking (s.clock + handshakeTimeout)) []
  | some ⟨stream, .handshaking _⟩, .handshake (.error e) => fail stream e
  | some ⟨stream, .handshaking _⟩, .handshake (.ok ()) => move stream .sendingHello [.hello stream]
  | some ⟨stream, .handshaking deadline⟩, .timeout =>
    if deadline ≤ s.clock then fail stream "handshake timed out" else none
  | some ⟨stream, .sendingHello⟩, .sent (.error e) => fail stream e
  | some ⟨stream, .sendingHello⟩, .sent (.ok ()) =>
    match s.stats stream.linkId with
    | none => some ({ s with tunnels := s.tunnels.eraseIdx i }, [.panicked])
    | some stats =>
      some ({ s with
        tunnels := s.tunnels.set i ⟨stream, .relaying⟩
        stats := Function.update s.stats stream.linkId (some stats.relayStart) },
        [.relayStarted stream])
  | some ⟨stream, .relaying⟩, .relayEnd result =>
    some ({ s with
      tunnels := s.tunnels.eraseIdx i
      stats := Function.update s.stats stream.linkId
        ((s.stats stream.linkId).map fun st => st.relayEnd result) },
      [.relayEnded stream result, .print (.relay (Server.relayLine stream.linkId result))])
  | _, _ => none

/-! ## Forward listeners -/

/-- `run_forward_listener` (lines 79-121), the task at position `i`. -/
def runForwardListener (ctx : Context) (s : State) (i : ℕ) (a : ListenerAction) :
    Option (State × List Event) :=
  match s.listeners[i]?, a with
  | some ⟨linkId, listenAddr, .binding⟩, .bind (.error e) =>
    some ({ s with listeners := s.listeners.set i ⟨linkId, listenAddr, .returned⟩ },
      [.print (.bindFailed linkId listenAddr e)])
  | some ⟨linkId, listenAddr, .binding⟩, .bind (.ok ()) =>
    some ({ s with listeners := s.listeners.set i ⟨linkId, listenAddr, .accepting⟩ },
      [.print (.listening linkId listenAddr)])
  | some ⟨linkId, _, .accepting⟩, .accept (.error e) => some (s, [.print (.acceptFailed linkId e)])
  | some ⟨linkId, _, .accepting⟩, .accept (.ok peerAddr) =>
    some (dialDataTunnelAndRelay ctx s ⟨linkId, .accepted peerAddr⟩)
  | _, _ => none

/-! ## The control loop -/

def State.setControl (s : State) (phase : ControlPhase) : State :=
  { s with control := { s.control with phase := phase } }

/-- `handle_open_stream` up to its first await (lines 276-290). -/
def handleOpenStream (ctx : Context) (s : State) (linkId : String) (streamId : UInt64) :
    State × List Event :=
  match ctx.config.links.find? fun l => l.id = linkId with
  | none => (s, [])
  | some link =>
    match link.target with
    | none => (s, [.print (.noTarget linkId streamId)])
    | some target =>
      let opening : Opening := ⟨linkId, streamId, target⟩
      ({ s with openings := s.openings ++ [opening] }, [.opening opening])

/-- The rest of the call at position `i` (lines 290-307). -/
def runOpening (ctx : Context) (s : State) (i : ℕ) (result : Except String Unit) :
    Option (State × List Event) :=
  match s.openings[i]? with
  | none => none
  | some ⟨linkId, streamId, target⟩ =>
    let s' := { s with openings := s.openings.eraseIdx i }
    match result with
    | .error e => some (s', [.print (.targetFailed linkId target e)])
    | .ok () => some (dialDataTunnelAndRelay ctx s' ⟨linkId, .signalled streamId target⟩)

/-- The loop sleeps (line 217). -/
def State.backOff (s : State) : State := s.setControl (.sleeping (s.clock + s.control.backoff))

/-- `run_control_session` returns (lines 202-206). -/
def endSession (s : State) : State × List Event :=
  ({ s with control := { s.control with status := s.control.status.setDisconnected } }.backOff,
    [.disconnected, .print .controlDisconnected])

/-- `run_control_loop`, `connect_control` and `run_control_session` (lines 179-267). -/
def runControlLoop (ctx : Context) (s : State) (a : ControlAction) : Option (State × List Event) :=
  let addr := s.control.serverControlAddr
  let fail (e : String) := some (s.backOff, [Event.print (.controlFailed addr e)])
  match s.control.phase, a with
  | .connecting, .connect (.error e) => fail e
  | .connecting, .connect (.ok ()) =>
    match ctx.initiator with
    | .error e => fail e
    | .ok () => some (s.setControl (.handshaking (s.clock + handshakeTimeout)), [])
  | .handshaking _, .handshake (.error e) _ => fail e
  | .handshaking _, .handshake (.ok ()) nowUnix =>
    some ({ s with
      control := { s.control with
        phase := .selecting (s.clock + pingPeriod)
        backoff := minBackoff
        status := s.control.status.setConnected nowUnix addr.toList none } },
      [.print (.controlConnected addr), .connected])
  | .handshaking deadline, .timeout =>
    if deadline ≤ s.clock then fail "handshake timed out" else none
  | .selecting nextTick, .tick =>
    if nextTick ≤ s.clock then some (s.setControl (.sending .ping (nextTick + pingPeriod)), [])
    else none
  | .selecting _, .incoming (.ok .pong) => some (s, [.received .pong])
  | .selecting nextTick, .incoming (.ok .ping) =>
    some (s.setControl (.sending .pong nextTick), [.received .ping])
  | .selecting _, .incoming (.ok (.openStream linkId streamId)) =>
    if Control.linkExpectsReverse ctx.config linkId then
      let (s', events) := handleOpenStream ctx s linkId streamId
      some (s', .received (.openStream linkId streamId) :: events)
    else
      some (s, [.received (.openStream linkId streamId), .print (.unknownLink linkId)])
  | .selecting _, .incoming (.error _) => some (endSession s)
  | .sending msg nextTick, .sent (.ok ()) => some (s.setControl (.selecting nextTick), [.wrote msg])
  | .sending _ _, .sent (.error _) => some (endSession s)
  | .sleeping wakeAt, .wake =>
    if wakeAt ≤ s.clock then
      some ({ s with
        control := { s.control with
          phase := .connecting, backoff := min (s.control.backoff * 2) maxBackoff } }, [])
    else none
  | _, _ => none

/-! ## The whole client -/

def step (ctx : Context) (s : State) : Action → Option (State × List Event)
  | .tick now => if s.clock ≤ now then some ({ s with clock := now }, []) else none
  | .listener i a => runForwardListener ctx s i a
  | .opening i result => runOpening ctx s i result
  | .tunnel i a => runTunnel ctx s i a
  | .control a => runControlLoop ctx s a

/-- The runs of the client whose steps all meet `C`. -/
def ClientRun (ctx : Context) (C : State → Action → Prop) (as : List Action) (s : State)
    (tr : List Event) : Prop :=
  ∃ clock s₀, start ctx clock = some s₀ ∧ Run (step ctx) C s₀ as s tr

end Ghostport.Client
