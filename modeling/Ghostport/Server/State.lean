import Mathlib.Data.List.Basic
import Mathlib.Logic.Function.Basic
import Ghostport.Core.Peermatch
import Ghostport.Core.Protocol
import Ghostport.Core.Ratelimit
import Ghostport.Core.Stats
import Ghostport.Server.Log

/-!
# The state of the TCP server (`crates/ghostport-core/src/server.rs`)

`run` starts a listener task for each reverse link, a control accept loop with
its session loop, and a data accept loop; these start a task for each
connection. The state holds what the tasks share (the pending map, the signal
queue, the handshake limiter, the counters) and, for each task that is alive,
where it stands between two awaits.

Some data is not the program's: who opened a connection, the serial number of
an accepted external connection, and the log of recorded attempts. No step
depends on it.
-/

namespace Ghostport.Server

open Ghostport.Core Ghostport.Net

/-- `HANDSHAKE_TIMEOUT` (line 31). -/
def handshakeTimeout : Instant := 10 * 10 ^ 9

/-- `STREAM_HELLO_TIMEOUT` (line 38). -/
def streamHelloTimeout : Instant := 10 * 10 ^ 9

/-- The sleep of the cleanup task (line 200). -/
def cleanupTimeout : Instant := 10 * 10 ^ 9

/-- The capacity of the signal queue (line 88). -/
def openStreamCapacity : ℕ := 32

/-- The capacity of the queue of authenticated control connections (line 254). -/
def authenticatedCapacity : ℕ := 4

/-- `Context` (lines 49-69), with the `snow` crate the program is built with. The
    counters of `state` are part of the server's state. -/
structure Context where
  snow : Snow
  config : Config
  privateKey : List UInt8
  peers : List ResolvedPeer

/-! ## Connections -/

/-- Who opens connections: a party that holds the private key of `publicKey`, or
    one that holds the key of no configured peer. -/
inductive Party where
  | holder (publicKey : List UInt8)
  | adversary
  deriving DecidableEq, Repr

structure TcpStream where
  peerAddr : SocketAddr
  openedBy : Party
  deriving DecidableEq, Repr

/-- A stream whose Noise handshake has completed, and the peer it matched. -/
structure NoiseStream where
  tcp : TcpStream
  peer : ResolvedPeer
  deriving DecidableEq

/-- A connection that the listener of a reverse link accepted; `serial` counts
    the accepts of all listeners. -/
structure ExternalConn where
  listener : String
  peerAddr : SocketAddr
  serial : ℕ
  deriving DecidableEq, Repr

/-! ## Reverse listeners -/

/-- Where a task of `spawn_reverse_listener` stands. -/
inductive ListenerPhase where
  | binding
  | returned
  | accepting
  /-- It has taken a stream id and waits for the pending map. -/
  | inserting (streamId : UInt64) (conn : ExternalConn)
  /-- It waits for room in the signal queue. -/
  | sending (streamId : UInt64) (peerAddr : SocketAddr)
  deriving DecidableEq, Repr

structure ReverseListener where
  linkId : String
  listenAddr : String
  phase : ListenerPhase
  deriving DecidableEq, Repr

/-- A cleanup task (lines 199-210). -/
structure CleanupTimer where
  streamId : UInt64
  linkId : String
  deadline : Instant
  deriving DecidableEq, Repr

structure Reverse where
  listeners : List ReverseListener
  pending : UInt64 → Option ExternalConn
  nextStreamId : UInt64
  accepts : ℕ
  timers : List CleanupTimer

/-! ## Accept loops -/

/-- Where an accept loop stands. -/
inductive AcceptPhase where
  | binding
  | returned
  | accepting
  /-- `try_acquire` has recorded the attempt and not yet asked for a permit; the
      call read the clock at `calledAt`, when the attempts of `prior` had been
      recorded. -/
  | acquiring (tcp : TcpStream) (calledAt : Instant) (prior : AttemptLog)
  deriving DecidableEq

/-- A task that performs a handshake and holds a permit. -/
structure Handshake where
  tcp : TcpStream
  deadline : Instant
  deriving DecidableEq

structure Acceptor where
  listenAddr : String
  phase : AcceptPhase
  handshakes : List Handshake

/-! ## Control sessions -/

/-- Where `run_control_session` stands. -/
inductive SessionPhase where
  | selecting
  | sendingPong
  | writing (msg : ControlMessage)
  deriving DecidableEq, Repr

structure ControlSession where
  stream : NoiseStream
  phase : SessionPhase
  deriving DecidableEq

structure Control where
  /-- Tasks that wait for room in the queue of authenticated connections. -/
  handoffs : List NoiseStream
  authenticated : List NoiseStream
  session : Option ControlSession
  status : ControlStatus

/-! ## Data connections -/

/-- The plaintext end of a relay. -/
inductive Endpoint where
  | target (addr : String)
  | external (conn : ExternalConn)
  deriving DecidableEq, Repr

/-- A relay: the tunnel, the hello it was opened with, the link whose counters it
    updates, and its other end. -/
structure Relay where
  tunnel : NoiseStream
  hello : StreamHello
  linkId : String
  other : Endpoint
  deriving DecidableEq

/-- A tunnel that has not sent its `StreamHello` yet. -/
structure AwaitingHello where
  tunnel : NoiseStream
  deadline : Instant
  deriving DecidableEq

structure Data where
  hellos : List AwaitingHello
  /-- Relays whose target is being connected to. -/
  connecting : List Relay
  relays : List Relay
  stats : String → Option LinkStats

/-! ## The server -/

structure State where
  clock : Instant
  limiter : HandshakeLimiter
  /-- All attempts the limiter has recorded. -/
  attempts : AttemptLog
  reverse : Reverse
  openStream : List ControlMessage
  acceptor : Channel → Acceptor
  control : Control
  data : Data

/-- The listeners that `run` starts (lines 91-112), `none` where an `expect`
    fails. -/
def reverseListeners : List LinkConfig → Option (List ReverseListener)
  | [] => some []
  | link :: links =>
    if link.transport = .tcp ∧ link.mode = .reverse then
      match link.listen with
      | none => none
      | some listenAddr =>
        (reverseListeners links).map (⟨link.id, listenAddr, .binding⟩ :: ·)
    else reverseListeners links

/-- `run` up to the first await (lines 74-131), at time `clock`. -/
def start (ctx : Context) (clock : Instant) : Option State :=
  match ctx.config.listenControl, ctx.config.listenData, reverseListeners ctx.config.links with
  | some listenControl, some listenData, some listeners =>
    some
      { clock := clock
        limiter := HandshakeLimiter.new
        attempts := []
        reverse :=
          { listeners := listeners, pending := fun _ => none, nextStreamId := 1, accepts := 0,
            timers := [] }
        openStream := []
        acceptor := fun
          | .control => { listenAddr := listenControl, phase := .binding, handshakes := [] }
          | .data => { listenAddr := listenData, phase := .binding, handshakes := [] }
        control := { handoffs := [], authenticated := [], session := none, status := .initial }
        data :=
          { hellos := [], connecting := [], relays := [], stats := initialStats ctx.config } }
  | _, _, _ => none

/-- What can be observed of a step. -/
inductive Event where
  | print (line : LogLine)
  /-- The accept loop of `channel` prints the rejection of `tcp`. -/
  | rejected (channel : Channel) (tcp : TcpStream) (calledAt : Instant) (prior : AttemptLog)
  /-- The message that the handshake on `stream` began with. -/
  | matched (channel : Channel) (stream : NoiseStream) (message : List UInt8)
  | accepted (streamId : UInt64) (conn : ExternalConn)
  /-- `old` is what the pending map held under the id before. -/
  | inserted (streamId : UInt64) (conn : ExternalConn) (old : Option ExternalConn)
  | signalled (linkId : String) (streamId : UInt64)
  /-- `conn` leaves the pending map, where it was under `streamId`. -/
  | claimed (relay : Relay) (streamId : UInt64) (conn : ExternalConn)
  | timedOut (timer : CleanupTimer) (streamId : UInt64) (conn : ExternalConn)
  | sendFailed (linkId : String) (streamId : UInt64) (conn : ExternalConn)
  /-- `set_connected` is called for `stream`, and later `set_disconnected`. -/
  | connected (stream : NoiseStream)
  | disconnected (stream : NoiseStream)
  /-- `send_json` is called with `msg`, and returns `Ok`. -/
  | writing (stream : NoiseStream) (msg : ControlMessage)
  | wrote (stream : NoiseStream) (msg : ControlMessage)
  /-- `handle_data_connection` returns an error for this hello. -/
  | refused (tunnel : NoiseStream) (hello : StreamHello)
  | dialed (relay : Relay)
  | relayStarted (relay : Relay)
  | relayEnded (relay : Relay) (result : Except String (UInt64 × UInt64))
  | panicked
  deriving DecidableEq

/-- The line an event prints. -/
def Event.line : Event → Option LogLine
  | .print line => some line
  | .rejected channel tcp _ _ => some (.rejected channel tcp.peerAddr)
  | _ => none

/-- The lines a run prints. -/
def linesOf (tr : List Event) : List LogLine := tr.filterMap Event.line

end Ghostport.Server
