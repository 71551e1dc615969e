import Mathlib.Logic.Function.Basic
import Ghostport.Core.Peermatch
import Ghostport.Core.Protocol
import Ghostport.Core.Ratelimit
import Ghostport.Lib.Machine

/-!
# The UDP server (`crates/ghostport-udp/src/server.rs`, `poller.rs`)

One task reads the shared socket and hands each datagram to the session of its
source address, or starts one; each session is a task with a queue of datagrams.

A step takes one task from one await to the next, as for the TCP server. The
`snowstorm` crate is a parameter: how a transport datagram decrypts.
-/

namespace Ghostport.Udp

open Ghostport.Core Ghostport.Net Ghostport.Lib

/-! ## Parameters -/

/-- What the session uses of `snowstorm::NoiseSocket`: `recv` decrypts one datagram,
    or fails, with the keys of the session. -/
structure Snowstorm where
  Transport : Type
  decrypt : Transport → List UInt8 → Except String (List UInt8)

/-- `Context` (lines 45-54), with the crates the program is built with. -/
structure Context where
  snow : Snow
  snowstorm : Snowstorm
  json : Json StreamHello
  config : Config
  privateKey : List UInt8
  peers : List ResolvedPeer

/-- `SESSION_IDLE_TIMEOUT` (line 33). -/
def sessionIdleTimeout : Instant := 60 * 10 ^ 9

/-- `STREAM_HELLO_TIMEOUT` (line 42). -/
def streamHelloTimeout : Instant := 10 * 10 ^ 9

/-- The capacity of a session's queue (line 114). -/
def inboundCapacity : ℕ := 16

/-! ## What is printed -/

inductive LogLine where
  /-- Line 75. -/
  | listening (listenAddr : String)
  /-- Line 149. -/
  | handshakeFailed (peerAddr : SocketAddr) (peerName e : String)
  /-- Line 160. -/
  | malformedHello (peerAddr : SocketAddr) (e : String)
  /-- Line 165. -/
  | noHello (peerAddr : SocketAddr) (e : String)
  /-- Lines 169-171. -/
  | helloTimedOut (peerAddr : SocketAddr)
  /-- Lines 177-180. -/
  | unknownLink (peerAddr : SocketAddr) (linkId : String)
  /-- Lines 184-187. -/
  | notUdpForward (peerAddr : SocketAddr) (linkId : String)
  /-- Lines 191-194. -/
  | notAuthorized (peerName linkId : String)
  /-- Line 205. -/
  | bindFailed (peerAddr : SocketAddr) (e : String)
  /-- Line 210. -/
  | connectFailed (peerAddr : SocketAddr) (target e : String)
  /-- Lines 214-217. -/
  | opened (linkId : String) (peerAddr : SocketAddr) (peerName target : String)
  /-- Lines 237-240. -/
  | closed (linkId : String) (peerAddr : SocketAddr)
  deriving DecidableEq, Repr

/-- The printed text, without the newline that ends it. -/
def LogLine.render : LogLine → List Char
  | .listening listenAddr => "ghostport-udp: listening on ".toList ++ listenAddr.toList
  | .handshakeFailed peerAddr peerName e =>
    "ghostport-udp: handshake with ".toList ++ peerAddr.display ++ " (\"".toList ++
      peerName.toList ++ "\") failed: ".toList ++ e.toList
  | .malformedHello peerAddr e =>
    "ghostport-udp: ".toList ++ peerAddr.display ++ ": malformed StreamHello: ".toList ++ e.toList
  | .noHello peerAddr e =>
    "ghostport-udp: ".toList ++ peerAddr.display ++ ": didn't send a StreamHello: ".toList ++
      e.toList
  | .helloTimedOut peerAddr =>
    "ghostport-udp: ".toList ++ peerAddr.display ++
      ": timed out waiting for a StreamHello after the handshake".toList
  | .unknownLink peerAddr linkId =>
    "ghostport-udp: ".toList ++ peerAddr.display ++ ": unknown link id \"".toList ++
      linkId.toList ++ "\"".toList
  | .notUdpForward peerAddr linkId =>
    "ghostport-udp: ".toList ++ peerAddr.display ++ ": link \"".toList ++ linkId.toList ++
      "\" isn't a UDP forward link".toList
  | .notAuthorized peerName linkId =>
    "ghostport-udp: peer \"".toList ++ peerName.toList ++
      "\" is not authorized for link \"".toList ++ linkId.toList ++ "\"".toList
  | .bindFailed peerAddr e =>
    "ghostport-udp: ".toList ++ peerAddr.display ++ ": failed to bind target socket: ".toList ++
      e.toList
  | .connectFailed peerAddr target e =>
    "ghostport-udp: ".toList ++ peerAddr.display ++ ": failed to connect to target ".toList ++
      target.toList ++ ": ".toList ++ e.toList
  | .opened linkId peerAddr peerName target =>
    "ghostport-udp: [".toList ++ linkId.toList ++ "] session with ".toList ++ peerAddr.display ++
      " (\"".toList ++ peerName.toList ++ "\") -> ".toList ++ target.toList
  | .closed linkId peerAddr =>
    "ghostport-udp: [".toList ++ linkId.toList ++ "] session with ".toList ++ peerAddr.display ++
      " closed".toList

/-! ## State -/

/-- Where the demultiplexing loop of `run` stands. -/
inductive DemuxPhase where
  | binding
  | returned
  | receiving
  /-- It has a datagram of an unknown source and calls `try_acquire`. -/
  | acquiring (src : SocketAddr) (datagram : List UInt8)
  /-- It has matched the peer of a first message and waits for the session map. -/
  | inserting (src : SocketAddr) (message : List UInt8) (peer : ResolvedPeer)
  deriving DecidableEq

/-- Who a session is with. `serial` numbers the sessions, and stands for the channel
    that was made for the session; `message` is the first message. -/
structure Party where
  serial : ℕ
  src : SocketAddr
  message : List UInt8
  peer : ResolvedPeer
  deriving DecidableEq

/-- Where `run_session` stands. -/
inductive SessionPhase (T : Type) where
  | handshaking
  | awaitingHello (transport : T) (deadline : Instant)
  | binding (transport : T) (link : LinkConfig) (target : String)
  | connecting (transport : T) (link : LinkConfig) (target : String)
  | relaying (transport : T) (link : LinkConfig) (target : String) (deadline : Instant)
  /-- `run_session` has returned, and the task waits for the session map. -/
  | ended
  /-- The task is gone, and leaves its entry in the session map. -/
  | panicked

structure Session (T : Type) where
  party : Party
  inbound : List (List UInt8)
  phase : SessionPhase T

/-- `sessions` maps a source address to the channel of its session. -/
structure State (T : Type) where
  clock : Instant
  limiter : HandshakeLimiter
  listenAddr : String
  demux : DemuxPhase
  sessions : SocketAddr → Option ℕ
  nextSerial : ℕ
  tasks : List (Session T)

/-- `run` up to its first await (lines 70-74). Where `listen_udp` is not set it
    never does anything. -/
def start (ctx : Context) (clock : Instant) : Option (State ctx.snowstorm.Transport) :=
  ctx.config.listenUdp.map fun listenAddr =>
    { clock := clock, limiter := HandshakeLimiter.new, listenAddr := listenAddr,
      demux := .binding, sessions := fun _ => none, nextSerial := 0, tasks := [] }

inductive Event where
  | print (line : LogLine)
  /-- A session begins. -/
  | matched (party : Party)
  /-- The session connects a socket to `target`, for `link`. -/
  | dialed (party : Party) (link : LinkConfig) (target : String)
  /-- It sends `payload` to `target`, or to its peer what came from there. -/
  | toTarget (party : Party) (link : LinkConfig) (target : String) (payload : List UInt8)
  | toPeer (party : Party) (link : LinkConfig) (target : String) (payload : List UInt8)
  /-- The task removes the entry of its source address, which named `old`. -/
  | removed (party : Party) (old : Option ℕ)
  | panicked
  deriving DecidableEq

/-! ## Actions -/

inductive DemuxAction where
  | bind (result : Except String Unit)
  | recv (result : Except String (SocketAddr × List UInt8))
  /-- `now` and `now'` are the two readings of the clock in `try_acquire`. -/
  | acquire (now now' : Instant)
  | insert

inductive SessionAction (T : Type) where
  /-- The second message of the handshake is written, or fails to be. -/
  | handshake (result : Except String T)
  /-- `noise_socket.recv()` returns. -/
  | recv
  | helloTimeout
  | bind (result : Except String Unit)
  | connect (result : Except String Unit)
  /-- `target_socket.recv` returns. -/
  | target (result : Except String (List UInt8))
  | idle
  | remove

inductive Action (T : Type) where
  | tick (now : Instant)
  | demux (a : DemuxAction)
  | session (i : ℕ) (a : SessionAction T)

/-! ## Steps -/

/-- `try_send` (line 94): a full or closed queue drops the datagram. -/
def Session.trySend {T : Type} (session : Session T) (datagram : List UInt8) : Session T :=
  match session.phase with
  | .ended | .panicked => session
  | _ =>
    if session.inbound.length < inboundCapacity then
      { session with inbound := session.inbound ++ [datagram] }
    else session

/-- The datagram goes to the task whose channel is `serial`. -/
def route {T : Type} (tasks : List (Session T)) (serial : ℕ) (datagram : List UInt8) :
    List (Session T) :=
  tasks.map fun session =>
    if session.party.serial = serial then session.trySend datagram else session

/-- The loop of `run` (lines 74-126). -/
def runDemux (ctx : Context) (s : State ctx.snowstorm.Transport) (a : DemuxAction) :
    Option (State ctx.snowstorm.Transport × List Event) :=
  match s.demux, a with
  | .binding, .bind (.error _) => some ({ s with demux := .returned }, [])
  | .binding, .bind (.ok ()) =>
    some ({ s with demux := .receiving }, [.print (.listening s.listenAddr)])
  | .receiving, .recv (.error _) => some ({ s with demux := .returned }, [])
  | .receiving, .recv (.ok (src, datagram)) =>
    match s.sessions src with
    | some serial => some ({ s with tasks := route s.tasks serial datagram }, [])
    | none => some ({ s with demux := .acquiring src datagram }, [])
  | .acquiring src datagram, .acquire now now' =>
    if s.clock ≤ now ∧ now ≤ now' then
      match s.limiter.tryAcquire src.ip now now' with
      | (none, l) => some ({ s with clock := now', limiter := l, demux := .receiving }, [])
      | (some _, l) =>
        -- the permit is dropped on both paths, before the next await
        let s := { s with clock := now', limiter := l.dropPermit }
        match matchPeerBytes ctx.snow datagram ctx.privateKey ctx.peers with
        | .error _ => some ({ s with demux := .receiving }, [])
        | .ok (peerIndex, _) =>
          match ctx.peers[peerIndex]? with
          | none => some ({ s with demux := .returned }, [.panicked])
          | some peer => some ({ s with demux := .inserting src datagram peer }, [])
    else none
  | .inserting src message peer, .insert =>
    let party : Party := ⟨s.nextSerial, src, message, peer⟩
    some ({ s with
      demux := .receiving
      sessions := Function.update s.sessions src (some s.nextSerial)
      nextSerial := s.nextSerial + 1
      tasks := s.tasks ++ [⟨party, [], .handshaking⟩] }, [.matched party])
  | _, _ => none

/-- What `run_session` makes of a hello (lines 176-201). -/
inductive HelloVerdict where
  | refuse (line : LogLine)
  | bind (link : LinkConfig) (target : String)
  | panic
  deriving DecidableEq, Repr

def checkHello (ctx : Context) (party : Party) (hello : StreamHello) : HelloVerdict :=
  match ctx.config.links.find? fun l => l.id = hello.linkId with
  | none => .refuse (.unknownLink party.src hello.linkId)
  | some link =>
    if link.transport ≠ .udp ∨ link.mode ≠ .forward then
      .refuse (.notUdpForward party.src link.id)
    else if link.id ∉ party.peer.links then
      .refuse (.notAuthorized party.peer.name link.id)
    else
      match link.target with
      | none => .panic
      | some target => .bind link target

/-- `noise_socket.recv()` on the queue of the session. A queue whose sender is gone
    ends once it is empty. -/
def Session.recv {ctx : Context} (session : Session ctx.snowstorm.Transport)
    (transport : ctx.snowstorm.Transport) (senderAlive : Bool) :
    Option (Except String (List UInt8) × List (List UInt8)) :=
  match session.inbound with
  | datagram :: rest => some (ctx.snowstorm.decrypt transport datagram, rest)
  | [] => if senderAlive then none else some (.error "peer session channel closed", [])

/-- `run_session` (lines 130-241). -/
def runSession (ctx : Context) (clock : Instant) (senderAlive : Bool)
    (session : Session ctx.snowstorm.Transport) (a : SessionAction ctx.snowstorm.Transport) :
    Option (Session ctx.snowstorm.Transport × List Event) :=
  let party := session.party
  let stop (events : List Event) := some ({ session with inbound := [], phase := .ended }, events)
  match session.phase, a with
  | .handshaking, .handshake (.error e) =>
    stop [.print (.handshakeFailed party.src party.peer.name e)]
  | .handshaking, .handshake (.ok transport) =>
    some ({ session with phase := .awaitingHello transport (clock + streamHelloTimeout) }, [])
  | .awaitingHello _ deadline, .helloTimeout =>
    if deadline ≤ clock then stop [.print (.helloTimedOut party.src)] else none
  | .awaitingHello transport _, .recv =>
    match session.recv transport senderAlive with
    | none => none
    | some (.error e, _) => stop [.print (.noHello party.src e)]
    | some (.ok bytes, rest) =>
      match ctx.json.fromSlice bytes with
      | .error e => stop [.print (.malformedHello party.src e)]
      | .ok hello =>
        match checkHello ctx party hello with
        | .refuse line => stop [.print line]
        | .panic => some ({ session with inbound := [], phase := .panicked }, [.panicked])
        | .bind link target =>
          some ({ session with inbound := rest, phase := .binding transport link target }, [])
  | .binding _ _ _, .bind (.error e) => stop [.print (.bindFailed party.src e)]
  | .binding transport link target, .bind (.ok ()) =>
    some ({ session with phase := .connecting transport link target },
      [.dialed party link target])
  | .connecting _ _ target, .connect (.error e) =>
    stop [.print (.connectFailed party.src target e)]
  | .connecting transport link target, .connect (.ok ()) =>
    some ({ session with
      phase := .relaying transport link target (clock + sessionIdleTimeout) },
      [.print (.opened link.id party.src party.peer.name target)])
  | .relaying transport link target _, .recv =>
    match session.recv transport senderAlive with
    | none => none
    | some (.error _, _) => stop [.print (.closed link.id party.src)]
    | some (.ok payload, rest) =>
      some ({ session with
        inbound := rest, phase := .relaying transport link target (clock + sessionIdleTimeout) },
        [.toTarget party link target payload])
  | .relaying transport link target _, .target (.ok payload) =>
    some ({ session with
      phase := .relaying transport link target (clock + sessionIdleTimeout) },
      [.toPeer party link target payload])
  | .relaying _ link _ _, .target (.error _) => stop [.print (.closed link.id party.src)]
  | .relaying _ link _ deadline, .idle =>
    if deadline ≤ clock then stop [.print (.closed link.id party.src)] else none
  | _, _ => none

def step (ctx : Context) (s : State ctx.snowstorm.Transport) :
    Action ctx.snowstorm.Transport → Option (State ctx.snowstorm.Transport × List Event)
  | .tick now => if s.clock ≤ now then some ({ s with clock := now }, []) else none
  | .demux a => runDemux ctx s a
  | .session i a =>
    match s.tasks[i]? with
    | none => none
    | some session =>
      match session.phase, a with
      | .ended, .remove =>
        some ({ s with
          sessions := Function.update s.sessions session.party.src none
          tasks := s.tasks.eraseIdx i }, [.removed session.party (s.sessions session.party.src)])
      | _, _ =>
        (runSession ctx s.clock (s.sessions session.party.src = some session.party.serial) session
          a).map fun r => ({ s with tasks := s.tasks.set i r.1 }, r.2)

/-- The runs of the UDP server whose steps all meet `C`. -/
def ServerRun (ctx : Context)
    (C : State ctx.snowstorm.Transport → Action ctx.snowstorm.Transport → Prop)
    (as : List (Action ctx.snowstorm.Transport)) (s : State ctx.snowstorm.Transport)
    (tr : List Event) : Prop :=
  ∃ clock s₀, start ctx clock = some s₀ ∧ Run (step ctx) C s₀ as s tr

end Ghostport.Udp
