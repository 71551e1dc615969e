import Mathlib.Data.List.Basic
import Mathlib.Logic.Function.Basic
import Ghostport.Core.Protocol
import Ghostport.Core.Ratelimit
import Ghostport.Core.Stats
import Ghostport.Server.Log

/-!
# The state of the TCP client (`crates/ghostport-core/src/client.rs`)

`run` starts a listener task for each forward link and the control loop. An accepted
connection, or a signal of the server, starts a task that dials a data tunnel and relays.
-/

namespace Ghostport.Client

open Ghostport.Core Ghostport.Net

/-- `HANDSHAKE_TIMEOUT` (line 22). -/
def handshakeTimeout : Instant := 10 * 10 ^ 9

/-- The period of `ping_interval` (line 236). -/
def pingPeriod : Instant := 15 * 10 ^ 9

/-- The first `backoff` (line 185). -/
def minBackoff : Instant := 1 * 10 ^ 9

/-- `MAX_BACKOFF` (line 186). -/
def maxBackoff : Instant := 30 * 10 ^ 9

/-- `Context` (lines 26-41), with `snow::Builder::build_initiator`, of which only the error
    is used. The counters of `state` are part of the client's state. -/
structure Context where
  buildInitiator : (localPrivate remotePublic : List UInt8) → Except String Unit
  config : Config
  privateKey : List UInt8
  peerPublicKey : List UInt8

/-- `noise::initiator` (`noise.rs`, lines 25-32). -/
def Context.initiator (ctx : Context) : Except String Unit :=
  (ctx.buildInitiator ctx.privateKey ctx.peerPublicKey).mapError fun e =>
    "failed to build Noise initiator: " ++ e

/-! ## What is printed -/

inductive LogLine where
  /-- Lines 83-87. -/
  | bindFailed (linkId listenAddr e : String)
  /-- Lines 91-95. -/
  | listening (linkId listenAddr : String)
  /-- Lines 101-105. -/
  | acceptFailed (linkId e : String)
  /-- Lines 113-117. -/
  | forwardFailed (linkId : String) (peerAddr : SocketAddr) (e : String)
  /-- Lines 191-196. -/
  | controlConnected (addr : String)
  /-- Lines 203-206. -/
  | controlDisconnected
  /-- Lines 209-214. -/
  | controlFailed (addr e : String)
  /-- Line 256. -/
  | unknownLink (linkId : String)
  /-- Lines 281-287. -/
  | noTarget (linkId : String) (streamId : UInt64)
  /-- Lines 293-297. -/
  | targetFailed (linkId target e : String)
  /-- Lines 302-306. -/
  | streamFailed (linkId : String) (streamId : UInt64) (e : String)
  /-- What `relay` prints at its end. -/
  | relay (line : Server.LogLine)
  deriving DecidableEq, Repr

/-- The printed text, without the newline that ends it. -/
def LogLine.render (p : Palette) : LogLine → List Char
  | .bindFailed linkId listenAddr e =>
    "ghostport: ".toList ++ Server.linkTag p linkId ++ " ".toList ++
      p.err ("failed to bind ".toList ++ listenAddr.toList ++ ": ".toList ++ e.toList)
  | .listening linkId listenAddr =>
    "ghostport: ".toList ++ Server.linkTag p linkId ++ " ".toList ++
      p.ok ("listening on ".toList ++ listenAddr.toList ++ " (forward)".toList)
  | .acceptFailed linkId e =>
    "ghostport: ".toList ++ Server.linkTag p linkId ++ " ".toList ++
      p.err ("accept failed: ".toList ++ e.toList)
  | .forwardFailed linkId peerAddr e =>
    "ghostport: ".toList ++ Server.linkTag p linkId ++ " ".toList ++
      p.err (peerAddr.display ++ ": ".toList ++ e.toList)
  | .controlConnected addr =>
    "ghostport: ".toList ++ p.ok ("control channel connected to ".toList ++ addr.toList)
  | .controlDisconnected =>
    "ghostport: ".toList ++ p.warn "control channel disconnected, reconnecting...".toList
  | .controlFailed addr e =>
    "ghostport: ".toList ++
      p.err ("control channel connect to ".toList ++ addr.toList ++ " failed: ".toList ++ e.toList)
  | .unknownLink linkId =>
    "ghostport: ".toList ++
      p.warn ("received OpenStream for unknown/non-reverse link \"".toList ++ linkId.toList ++
        "\", ignoring".toList)
  | .noTarget linkId streamId =>
    "ghostport: ".toList ++ Server.linkTag p linkId ++ " ".toList ++
      p.err ("reverse link has no target configured, can't fulfill stream ".toList ++
        decimal streamId.toNat)
  | .targetFailed linkId target e =>
    "ghostport: ".toList ++ Server.linkTag p linkId ++ " ".toList ++
      p.err ("failed to connect to target ".toList ++ target.toList ++ ": ".toList ++ e.toList)
  | .streamFailed linkId streamId e =>
    "ghostport: ".toList ++ Server.linkTag p linkId ++ " ".toList ++
      p.err ("stream ".toList ++ decimal streamId.toNat ++ ": ".toList ++ e.toList)
  | .relay line => line.render p

/-! ## Tasks -/

/-- Where a task of `run_forward_listener` stands. -/
inductive ListenerPhase where
  | binding
  | returned
  | accepting
  deriving DecidableEq, Repr

structure ForwardListener where
  linkId : String
  listenAddr : String
  phase : ListenerPhase
  deriving DecidableEq, Repr

/-- What a data tunnel is dialed for, and with it the plain end of the relay: the connection
    of `peerAddr` that a listener accepted, or a connection to `target` that a signal of the
    server asked for. -/
inductive Origin where
  | accepted (peerAddr : SocketAddr)
  | signalled (streamId : UInt64) (target : String)
  deriving DecidableEq, Repr

/-- The argument `stream_id` of `dial_data_tunnel_and_relay`. -/
def Origin.streamId : Origin → Option UInt64
  | .accepted _ => none
  | .signalled streamId _ => some streamId

/-- A call of `dial_data_tunnel_and_relay`. -/
structure Stream where
  linkId : String
  origin : Origin
  deriving DecidableEq, Repr

/-- The hello that it sends (lines 155-158). -/
def Stream.hello (stream : Stream) : StreamHello := ⟨stream.linkId, stream.origin.streamId⟩

/-- What is printed where the call returns an error (lines 112-118 and 301-307). -/
def Stream.failed (stream : Stream) (e : String) : LogLine :=
  match stream.origin with
  | .accepted peerAddr => .forwardFailed stream.linkId peerAddr e
  | .signalled streamId _ => .streamFailed stream.linkId streamId e

/-- Where the call stands. -/
inductive TunnelPhase where
  | connecting (serverDataAddr : String)
  | handshaking (deadline : Instant)
  | sendingHello
  | relaying
  deriving DecidableEq, Repr

structure Tunnel where
  stream : Stream
  phase : TunnelPhase
  deriving DecidableEq, Repr

/-- A call of `handle_open_stream` that connects to the target. -/
structure Opening where
  linkId : String
  streamId : UInt64
  target : String
  deriving DecidableEq, Repr

/-- Where the control loop stands. -/
inductive ControlPhase where
  | connecting
  | handshaking (deadline : Instant)
  /-- In the `select!` of `run_control_session`; `nextTick` is when `ping_interval` ticks. -/
  | selecting (nextTick : Instant)
  | sending (msg : ControlMessage) (nextTick : Instant)
  | sleeping (wakeAt : Instant)
  deriving DecidableEq, Repr

structure Control where
  serverControlAddr : String
  phase : ControlPhase
  backoff : Instant
  status : ControlStatus

structure State where
  clock : Instant
  listeners : List ForwardListener
  openings : List Opening
  tunnels : List Tunnel
  control : Control
  stats : String → Option LinkStats

/-- The listeners that `run` starts (lines 55-73), `none` where an `expect` fails. -/
def forwardListeners : List LinkConfig → Option (List ForwardListener)
  | [] => some []
  | link :: links =>
    if link.transport = .tcp ∧ link.mode = .forward then
      match link.listen with
      | none => none
      | some listenAddr =>
        (forwardListeners links).map (⟨link.id, listenAddr, .binding⟩ :: ·)
    else forwardListeners links

/-- `run` up to the first await of `run_control_loop` (lines 46-185), at time `clock`. -/
def start (ctx : Context) (clock : Instant) : Option State :=
  match forwardListeners ctx.config.links, ctx.config.serverControlAddr with
  | some listeners, some serverControlAddr =>
    some
      { clock := clock
        listeners := listeners
        openings := []
        tunnels := []
        control :=
          { serverControlAddr := serverControlAddr, phase := .connecting, backoff := minBackoff,
            status := .initial }
        stats := initialStats ctx.config }
  | _, _ => none

/-- What can be observed of a step. -/
inductive Event where
  | print (line : LogLine)
  | connected
  | disconnected
  /-- `recv_json` yields `msg` on the control connection. -/
  | received (msg : ControlMessage)
  | wrote (msg : ControlMessage)
  /-- `handle_open_stream` connects to the target. -/
  | opening (opening : Opening)
  | dialing (stream : Stream)
  /-- `send_json` is called for the hello of `stream`. -/
  | hello (stream : Stream)
  | relayStarted (stream : Stream)
  | relayEnded (stream : Stream) (result : Except String (UInt64 × UInt64))
  | panicked
  deriving DecidableEq

end Ghostport.Client
