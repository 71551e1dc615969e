import Ghostport.Lib.Machine
import Ghostport.Server.State

/-!
# The steps of the TCP server (`crates/ghostport-core/src/server.rs`)

A step takes one task from one await to the next. An action names the task, by
its position among the tasks of its kind, and says how the await ended: which
connection was accepted, what was read, which call failed.

Two awaits are one step where the code between them touches nothing that another
task sees: an accepted connection and the locked block of `try_acquire`, the
arrival of a `StreamHello` and the lookup of its stream, a failed send or the end
of a cleanup task's sleep and the removal from the pending map.

Each group of steps has its cases as an inductive relation: `ListenerCase`,
`AcceptCase`, `HandshakeCase`, `ControlCase`, `DataCase`. Invariants are proved by
cases on these.
-/

namespace Ghostport.Server

open Ghostport.Core Ghostport.Net Ghostport.Lib

/-! ## Actions -/

inductive ListenerAction where
  | bind (result : Except String Unit)
  | accept (result : Except String SocketAddr)
  | insert
  | send

inductive AcceptAction where
  | bind (result : Except String Unit)
  /-- `now` and `now'` are the two readings of the clock in `try_acquire`. -/
  | accept (result : Except String TcpStream) (now now' : Instant)
  | acquire

/-- How the handshake of a task ends. `reply` is the result of writing the second
    message, the last of the responder. -/
inductive HandshakeOutcome where
  | received (incoming : Incoming) (reply : Except String Unit)
  | timedOut

inductive ControlAction where
  /-- Task `i` puts its connection into the queue. -/
  | handoff (i : ℕ)
  /-- The session loop takes the next connection, at `nowUnix`. -/
  | recv (nowUnix : UInt64)
  /-- `recv_json` returns to the `select!`. -/
  | incoming (result : Except String ControlMessage)
  /-- The `select!` takes a message from the signal queue. -/
  | openStream
  /-- `send_json` returns. -/
  | sent (result : Except String Unit)

inductive HelloOutcome where
  | received (hello : StreamHello)
  | failed (e : String)
  | timedOut

inductive DataAction where
  | hello (i : ℕ) (outcome : HelloOutcome)
  /-- `TcpStream::connect` returns. -/
  | connect (i : ℕ) (result : Except String Unit)
  /-- `copy_bidirectional` returns. -/
  | relayEnd (i : ℕ) (result : Except String (UInt64 × UInt64))

inductive Action where
  | tick (now : Instant)
  | listener (i : ℕ) (a : ListenerAction)
  | cleanup (i : ℕ)
  | accept (channel : Channel) (a : AcceptAction)
  | handshake (channel : Channel) (i : ℕ) (outcome : HandshakeOutcome)
  | control (a : ControlAction)
  | data (a : DataAction)

/-! ## Updates -/

namespace State

def setListener (s : State) (i : ℕ) (l : ReverseListener) : State :=
  { s with reverse := { s.reverse with listeners := s.reverse.listeners.set i l } }

def setPending (s : State) (streamId : UInt64) (conn : Option ExternalConn) : State :=
  { s with
    reverse := { s.reverse with pending := Function.update s.reverse.pending streamId conn } }

def setPhase (s : State) (channel : Channel) (phase : AcceptPhase) : State :=
  { s with
    acceptor := Function.update s.acceptor channel { s.acceptor channel with phase := phase } }

def setHandshakes (s : State) (channel : Channel) (handshakes : List Handshake) : State :=
  { s with
    acceptor :=
      Function.update s.acceptor channel { s.acceptor channel with handshakes := handshakes } }

/-- The receiver of the signal queue lives in `run_control_accept_loop`, which
    returns only if it cannot bind. -/
def receiverAlive (s : State) : Prop := (s.acceptor .control).phase ≠ .returned

instance (s : State) : Decidable s.receiverAlive := inferInstanceAs (Decidable (_ ≠ _))

/-- `relay` begins (relay.rs, lines 20-21). -/
def startRelay (s : State) (r : Relay) : State :=
  { s with
    data :=
      { s.data with
        relays := s.data.relays ++ [r]
        stats := Function.update s.data.stats r.linkId
          ((s.data.stats r.linkId).map LinkStats.relayStart) } }

end State

/-! ## Reverse listeners -/

/-- `spawn_reverse_listener` (lines 137-212), the task at position `i`. -/
def spawnReverseListener (s : State) (i : ℕ) (a : ListenerAction) : Option (State × List Event) :=
  match s.reverse.listeners[i]?, a with
  | some ⟨linkId, listenAddr, .binding⟩, .bind (.error e) =>
    some (s.setListener i ⟨linkId, listenAddr, .returned⟩,
      [.print (.reverseBindFailed linkId listenAddr e)])
  | some ⟨linkId, listenAddr, .binding⟩, .bind (.ok ()) =>
    some (s.setListener i ⟨linkId, listenAddr, .accepting⟩,
      [.print (.reverseListening linkId listenAddr)])
  | some ⟨linkId, _, .accepting⟩, .accept (.error e) =>
    some (s, [.print (.reverseAcceptFailed linkId e)])
  | some ⟨linkId, listenAddr, .accepting⟩, .accept (.ok peerAddr) =>
    let streamId := s.reverse.nextStreamId
    let conn : ExternalConn := ⟨linkId, peerAddr, s.reverse.accepts⟩
    let s := s.setListener i ⟨linkId, listenAddr, .inserting streamId conn⟩
    some ({ s with
      reverse := { s.reverse with
        nextStreamId := s.reverse.nextStreamId + 1, accepts := s.reverse.accepts + 1 } },
      [.accepted streamId conn])
  | some ⟨linkId, listenAddr, .inserting streamId conn⟩, .insert =>
    some ((s.setListener i ⟨linkId, listenAddr, .sending streamId conn.peerAddr⟩).setPending
      streamId (some conn), [.inserted streamId conn (s.reverse.pending streamId)])
  | some ⟨linkId, listenAddr, .sending streamId peerAddr⟩, .send =>
    if s.receiverAlive then
      if s.openStream.length < openStreamCapacity then
        let s := s.setListener i ⟨linkId, listenAddr, .accepting⟩
        some ({ s with
          openStream := s.openStream ++ [.openStream linkId streamId]
          reverse := { s.reverse with
            timers := s.reverse.timers ++ [⟨streamId, linkId, s.clock + cleanupTimeout⟩] } },
          [.signalled linkId streamId])
      else none
    else
      some ((s.setListener i ⟨linkId, listenAddr, .accepting⟩).setPending streamId none,
        (match s.reverse.pending streamId with
          | some conn => [.sendFailed linkId streamId conn]
          | none => []) ++ [.print (.controlUnavailable linkId peerAddr)])
  | _, _ => none

/-- The cleanup task at position `i` (lines 199-210). -/
def cleanup (s : State) (i : ℕ) : Option (State × List Event) :=
  match s.reverse.timers[i]? with
  | none => none
  | some timer =>
    if timer.deadline ≤ s.clock then
      let s' := s.setPending timer.streamId none
      some ({ s' with reverse := { s'.reverse with timers := s.reverse.timers.eraseIdx i } },
        match s.reverse.pending timer.streamId with
        | some conn =>
          [.timedOut timer timer.streamId conn,
            .print (.streamTimedOut timer.linkId timer.streamId)]
        | none => [])
    else none

/-! ## Accept loops and handshakes -/

/-- What the two accept loops share: bind, accept, `try_acquire`, and the start of
    a task that holds the permit. -/
def acceptLoop (s : State) (channel : Channel) (a : AcceptAction) :
    Option (State × List Event) :=
  match (s.acceptor channel).phase, a with
  | .binding, .bind (.error e) =>
    some (s.setPhase channel .returned,
      [.print (.bindFailed channel (s.acceptor channel).listenAddr e)])
  | .binding, .bind (.ok ()) =>
    some (s.setPhase channel .accepting,
      [.print (.listening channel (s.acceptor channel).listenAddr)])
  | .accepting, .accept (.error e) _ _ => some (s, [.print (.acceptFailed channel e)])
  | .accepting, .accept (.ok tcp) now now' =>
    if s.clock ≤ now ∧ now ≤ now' then
      let ip := tcp.peerAddr.ip
      match s.limiter.recordAttempt ip now now' with
      | (false, l) =>
        some ({ s with clock := now', limiter := l }, [.rejected channel tcp now s.attempts])
      | (true, l) =>
        some ({ s with
          clock := now', limiter := l,
          attempts := s.attempts ++ [(ip, now')] }.setPhase channel (.acquiring tcp now s.attempts),
          [])
    else none
  | .acquiring tcp calledAt prior, .acquire =>
    match s.limiter.tryAcquireOwned with
    | (none, l) =>
      some ({ s with limiter := l }.setPhase channel .accepting,
        [.rejected channel tcp calledAt prior])
    | (some _, l) =>
      let handshake : Handshake := ⟨tcp, s.clock + handshakeTimeout⟩
      some (({ s with limiter := l }.setPhase channel .accepting).setHandshakes channel
        ((s.acceptor channel).handshakes ++ [handshake]), [])
  | _, _ => none

/-- Lines 225-315 of `run_control_accept_loop`. -/
def runControlAcceptLoop (s : State) := acceptLoop s .control

/-- `run_data_accept_loop` (lines 368-424). -/
def runDataAcceptLoop (s : State) := acceptLoop s .data

/-- The future that both kinds of task run under `HANDSHAKE_TIMEOUT` (lines 285-291
    and 433-439). The responder's last act is to write its reply. -/
def handshakeFuture (ctx : Context) (incoming : Incoming) (reply : Except String Unit) :
    Except String ℕ :=
  match matchPeer ctx.snow incoming ctx.privateKey ctx.peers with
  | .error e => .error e.display
  | .ok (peerIndex, _) => reply.map fun _ => peerIndex

/-- What is printed where the handshake fails (lines 301-306, 444 with 416-421). -/
def Channel.handshakeFailed : Channel → SocketAddr → String → LogLine
  | .control, peerAddr, e => .handshakeFailed peerAddr e
  | .data, peerAddr, e => .dataConnection peerAddr e

/-- Lines 307-312, 445-450 with 416-421. -/
def Channel.handshakeTimedOut : Channel → SocketAddr → LogLine
  | .control, peerAddr => .handshakeTimedOut peerAddr
  | .data, peerAddr => .dataConnection peerAddr "handshake timed out"

/-- Where a connection goes whose handshake has completed. -/
def State.handOver (s : State) (channel : Channel) (stream : NoiseStream) : State :=
  match channel with
  | .control =>
    { s with control := { s.control with handoffs := s.control.handoffs ++ [stream] } }
  | .data =>
    { s with
      data := { s.data with
        hellos := s.data.hellos ++ [⟨stream, s.clock + streamHelloTimeout⟩] } }

/-- The handshake of the task at position `i` ends (lines 282-314 and 432-453). The
    permit is dropped in every case. -/
def endHandshake (ctx : Context) (s : State) (channel : Channel) (i : ℕ)
    (outcome : HandshakeOutcome) : Option (State × List Event) :=
  match (s.acceptor channel).handshakes[i]? with
  | none => none
  | some h =>
    let s' := { s with limiter := s.limiter.dropPermit }.setHandshakes channel
      ((s.acceptor channel).handshakes.eraseIdx i)
    match outcome with
    | .timedOut =>
      if h.deadline ≤ s.clock then
        some (s', [.print (channel.handshakeTimedOut h.tcp.peerAddr)])
      else none
    | .received incoming reply =>
      match handshakeFuture ctx incoming reply with
      | .error e => some (s', [.print (channel.handshakeFailed h.tcp.peerAddr e)])
      | .ok peerIndex =>
        match ctx.peers[peerIndex]? with
        | none => some (s', [.panicked])
        | some peer =>
          some (s'.handOver channel ⟨h.tcp, peer⟩,
            [.matched channel ⟨h.tcp, peer⟩ (incoming.message.getD [])])

/-! ## Control sessions -/

/-- The session loop after `run_control_session` has returned (lines 331-337). -/
def endSession (s : State) (stream : NoiseStream) : State × List Event :=
  ({ s with
    control := { s.control with session := none, status := s.control.status.setDisconnected } },
    [.disconnected stream, .print (.controlDisconnected stream.tcp.peerAddr)])

def State.setSession (s : State) (session : Option ControlSession) : State :=
  { s with control := { s.control with session := session } }

/-- The handshake tasks' sends (lines 297-299), the session loop (lines 318-338)
    and `run_control_session` (lines 341-366). -/
def runControlSession (s : State) (a : ControlAction) : Option (State × List Event) :=
  match s.control.session, a with
  | _, .handoff i =>
    match s.control.handoffs[i]? with
    | none => none
    | some stream =>
      if s.control.authenticated.length < authenticatedCapacity then
        some ({ s with
          control := { s.control with
            handoffs := s.control.handoffs.eraseIdx i
            authenticated := s.control.authenticated ++ [stream] } }, [])
      else none
  | none, .recv nowUnix =>
    match s.control.authenticated with
    | [] => none
    | stream :: rest =>
      some ({ s with
        control := { s.control with
          authenticated := rest
          session := some ⟨stream, .selecting⟩
          status := s.control.status.setConnected nowUnix stream.tcp.peerAddr.display
            (some stream.peer.name) } },
        [.print (.controlConnected stream.tcp.peerAddr stream.peer.name), .connected stream])
  | some ⟨stream, .selecting⟩, .incoming (.ok .ping) =>
    some (s.setSession (some ⟨stream, .sendingPong⟩), [.writing stream .pong])
  | some ⟨_, .selecting⟩, .incoming (.ok _) => some (s, [])
  | some ⟨stream, .selecting⟩, .incoming (.error _) => some (endSession s stream)
  | some ⟨stream, .selecting⟩, .openStream =>
    match s.openStream with
    | [] => none
    | msg :: rest =>
      some ({ s with openStream := rest }.setSession (some ⟨stream, .writing msg⟩),
        [.writing stream msg])
  | some ⟨stream, .sendingPong⟩, .sent (.ok ()) =>
    some (s.setSession (some ⟨stream, .selecting⟩), [.wrote stream .pong])
  | some ⟨stream, .sendingPong⟩, .sent (.error _) => some (endSession s stream)
  | some ⟨stream, .writing msg⟩, .sent (.ok ()) =>
    some (s.setSession (some ⟨stream, .selecting⟩), [.wrote stream msg])
  | some ⟨stream, .writing _⟩, .sent (.error _) => some (endSession s stream)
  | _, _ => none

/-! ## Data connections -/

/-- What `handle_data_connection` makes of a hello before it waits again. -/
inductive HelloVerdict where
  | refuse (e : String)
  | dial (link : LinkConfig) (target : String)
  | claim (link : LinkConfig) (streamId : UInt64)
  | panic
  deriving DecidableEq, Repr

/-- Lines 465-516 of `handle_data_connection`. -/
def checkHello (ctx : Context) (stats : String → Option LinkStats) (matchedPeer : ResolvedPeer)
    (hello : StreamHello) : HelloVerdict :=
  if hello.linkId ∉ matchedPeer.links then
    .refuse ("peer \"" ++ matchedPeer.name ++ "\" is not authorized for link \"" ++
      hello.linkId ++ "\"")
  else
    match ctx.config.links.find? fun l => l.id = hello.linkId with
    | none => .refuse ("unknown link id \"" ++ hello.linkId ++ "\"")
    | some link =>
      if link.transport ≠ .tcp then
        .refuse ("link \"" ++ link.id ++
          "\" isn't a TCP link (nothing should ever dial the TCP data channel for it)")
      else if (stats link.id).isNone then .panic
      else
        match link.mode, hello.streamId with
        | .forward, none =>
          match link.target with
          | none => .panic
          | some target => .dial link target
        | .reverse, some streamId => .claim link streamId
        | _, _ => .refuse ("link \"" ++ link.id ++ "\" mode/stream_id mismatch (protocol error)")

/-- The error of a claim that finds no pending stream (lines 503-508). -/
def unknownStream (streamId : UInt64) (linkId : String) : String :=
  "stream " ++ String.ofList (decimal streamId.toNat) ++ " for link \"" ++ linkId ++
    "\" is unknown or already timed out"

/-- What `relay` prints at its end (relay.rs, lines 26-42). -/
def relayLine (linkId : String) : Except String (UInt64 × UInt64) → LogLine
  | .ok (aToB, bToA) => .streamClosed linkId aToB bToA
  | .error e => .streamError linkId e

/-- `handle_data_connection` from the `StreamHello` on (lines 454-517), and
    `relay`. -/
def handleDataConnection (ctx : Context) (s : State) (a : DataAction) :
    Option (State × List Event) :=
  match a with
  | .hello i outcome =>
    match s.data.hellos[i]? with
    | none => none
    | some ⟨tunnel, deadline⟩ =>
      let s' := { s with data := { s.data with hellos := s.data.hellos.eraseIdx i } }
      match outcome with
      | .timedOut =>
        if deadline ≤ s.clock then
          some (s', [.print (.dataConnection tunnel.tcp.peerAddr
            "peer completed the handshake but never sent a StreamHello")])
        else none
      | .failed e => some (s', [.print (.dataConnection tunnel.tcp.peerAddr e)])
      | .received hello =>
        match checkHello ctx s.data.stats tunnel.peer hello with
        | .refuse e =>
          some (s', [.refused tunnel hello, .print (.dataConnection tunnel.tcp.peerAddr e)])
        | .panic => some (s', [.panicked])
        | .dial link target =>
          let relay : Relay := ⟨tunnel, hello, link.id, .target target⟩
          some ({ s' with data := { s'.data with connecting := s.data.connecting ++ [relay] } },
            [.dialed relay])
        | .claim link streamId =>
          match s.reverse.pending streamId with
          | none =>
            some (s', [.refused tunnel hello,
              .print (.dataConnection tunnel.tcp.peerAddr (unknownStream streamId link.id))])
          | some conn =>
            let relay : Relay := ⟨tunnel, hello, link.id, .external conn⟩
            some ((s'.setPending streamId none).startRelay relay,
              [.claimed relay streamId conn, .relayStarted relay])
  | .connect i result =>
    match s.data.connecting[i]? with
    | none => none
    | some relay =>
      let s' := { s with data := { s.data with connecting := s.data.connecting.eraseIdx i } }
      match result with
      | .error e => some (s', [.print (.dataConnection relay.tunnel.tcp.peerAddr e)])
      | .ok () => some (s'.startRelay relay, [.relayStarted relay])
  | .relayEnd i result =>
    match s.data.relays[i]? with
    | none => none
    | some relay =>
      some ({ s with
        data := { s.data with
          relays := s.data.relays.eraseIdx i
          stats := Function.update s.data.stats relay.linkId
            ((s.data.stats relay.linkId).map fun st => st.relayEnd result) } },
        [.relayEnded relay result, .print (relayLine relay.linkId result)])

/-! ## The whole server -/

def step (ctx : Context) (s : State) : Action → Option (State × List Event)
  | .tick now => if s.clock ≤ now then some ({ s with clock := now }, []) else none
  | .listener i a => spawnReverseListener s i a
  | .cleanup i => cleanup s i
  | .accept .control a => runControlAcceptLoop s a
  | .accept .data a => runDataAcceptLoop s a
  | .handshake channel i outcome => endHandshake ctx s channel i outcome
  | .control a => runControlSession s a
  | .data a => handleDataConnection ctx s a

/-! ## Runs -/

/-- The runs of the server whose steps all meet `C`. -/
def ServerRun (ctx : Context) (C : State → Action → Prop) (as : List Action) (s : State)
    (tr : List Event) : Prop :=
  ∃ clock s₀, start ctx clock = some s₀ ∧ Run (step ctx) C s₀ as s tr

section Runs

variable {ctx : Context} {C : State → Action → Prop} {as : List Action} {s : State}
  {tr : List Event}

theorem ServerRun.free (h : ServerRun ctx C as s tr) : ServerRun ctx Free as s tr := by
  obtain ⟨clock, s₀, hstart, hrun⟩ := h
  exact ⟨clock, s₀, hstart, hrun.free⟩

theorem ServerRun.invariant {I : State → List Event → Prop}
    (hinit : ∀ clock s₀, start ctx clock = some s₀ → I s₀ [])
    (hstep : ∀ s tr a s' es, I s tr → C s a → step ctx s a = some (s', es) →
      I s' (tr ++ es))
    (h : ServerRun ctx C as s tr) : I s tr := by
  obtain ⟨clock, s₀, hstart, hrun⟩ := h
  exact hrun.invariant (hinit clock s₀ hstart) hstep

/-- `Run.exact_state` for runs of the server. -/
theorem ServerRun.exact_state {I Good : State → List Event → Prop}
    (hinv : ∀ {as s tr}, ServerRun ctx Free as s tr → I s tr)
    (hinit : ∀ clock s₀, start ctx clock = some s₀ → Good s₀ [])
    (hstep : ∀ s tr a s' es, I s tr → step ctx s a = some (s', es) →
      (Good s' (tr ++ es) ↔ Good s tr ∧ C s a))
    (h : ServerRun ctx Free as s tr) : Good s tr ↔ ServerRun ctx C as s tr := by
  have key : ∀ {clock s₀ as s tr}, start ctx clock = some s₀ → Run (step ctx) Free s₀ as s tr →
      (Good s tr ↔ Run (step ctx) C s₀ as s tr) := by
    intro clock s₀ as s tr hstart hrun
    exact hrun.exact_state (fun hr => hinv ⟨clock, s₀, hstart, hr⟩) (hinit clock s₀ hstart) hstep
  constructor
  · intro hgood
    obtain ⟨clock, s₀, hstart, hrun⟩ := h
    exact ⟨clock, s₀, hstart, (key hstart hrun).mp hgood⟩
  · rintro ⟨clock, s₀, hstart, hrun⟩
    exact (key hstart hrun.free).mpr hrun

/-- `Run.exact` for runs of the server. -/
theorem ServerRun.exact {I : State → List Event → Prop} {Good : List Event → Prop}
    (hinv : ∀ {as s tr}, ServerRun ctx Free as s tr → I s tr) (hnil : Good [])
    (hstep : ∀ s tr a s' es, I s tr → step ctx s a = some (s', es) →
      (Good (tr ++ es) ↔ Good tr ∧ C s a))
    (h : ServerRun ctx Free as s tr) : Good tr ↔ ServerRun ctx C as s tr := by
  refine h.exact_state hinv ?_ hstep
  exact fun _ _ _ => hnil

/-- The trace of the run of `as` from the start at `clock`, computed. -/
def traceOf (ctx : Context) (clock : Instant) (as : List Action) : Option (List Event) :=
  (start ctx clock).bind fun s₀ => (exec (step ctx) s₀ as).map Prod.snd

/-- A run that is computed, and a property of its trace that is too. -/
theorem exists_run {P : List Event → Prop} (clock : Instant) (h : (traceOf ctx clock as).isSome)
    (hP : P ((traceOf ctx clock as).get h)) : ∃ s tr, ServerRun ctx Free as s tr ∧ P tr := by
  obtain ⟨s₀, hstart, htrace⟩ := Option.bind_eq_some_iff.mp (Option.some_get h).symm
  obtain ⟨s, hrun⟩ := exists_run_of_trace htrace
  exact ⟨s, _, ⟨clock, s₀, hstart, hrun⟩, hP⟩

/-- A run that is computed, and a property of its last state and its trace. -/
theorem exists_run_state {P : State → List Event → Prop} (clock : Instant)
    (h : ((start ctx clock).bind fun s₀ => exec (step ctx) s₀ as).isSome)
    (hP : P (((start ctx clock).bind fun s₀ => exec (step ctx) s₀ as).get h).1
      (((start ctx clock).bind fun s₀ => exec (step ctx) s₀ as).get h).2) :
    ∃ s tr, ServerRun ctx Free as s tr ∧ P s tr := by
  obtain ⟨s₀, hstart, hexec⟩ := Option.bind_eq_some_iff.mp (Option.some_get h).symm
  exact ⟨_, _, ⟨clock, s₀, hstart, run_of_exec hexec⟩, hP⟩

/-- The state that the run of `as` leads to, computed. -/
def stateOf (ctx : Context) (clock : Instant) (as : List Action) : Option State :=
  (start ctx clock).bind fun s₀ => (exec (step ctx) s₀ as).map Prod.fst

theorem run_of_stateOf {clock : Instant} (h : stateOf ctx clock as = some s) :
    ∃ tr, ServerRun ctx Free as s tr := by
  obtain ⟨s₀, hstart, hexec⟩ := Option.bind_eq_some_iff.mp h
  obtain ⟨⟨_, tr⟩, hr, rfl⟩ := Option.map_eq_some_iff.mp hexec
  exact ⟨tr, clock, s₀, hstart, run_of_exec hr⟩

/-- `traceOf`, where every step has to meet `C`. -/
def guardedTraceOf (ctx : Context) (C : State → Action → Prop) [∀ s a, Decidable (C s a)]
    (clock : Instant) (as : List Action) : Option (List Event) :=
  (start ctx clock).bind fun s₀ =>
    (exec (fun s a => if C s a then step ctx s a else none) s₀ as).map Prod.snd

/-- `exists_run` for runs whose steps meet a condition that is decided. -/
theorem exists_guarded_run [∀ s a, Decidable (C s a)] {P : List Event → Prop} (clock : Instant)
    (h : (guardedTraceOf ctx C clock as).isSome) (hP : P ((guardedTraceOf ctx C clock as).get h)) :
    ∃ s tr, ServerRun ctx C as s tr ∧ P tr := by
  obtain ⟨s₀, hstart, htrace⟩ := Option.bind_eq_some_iff.mp (Option.some_get h).symm
  obtain ⟨s, hrun⟩ := exists_run_of_trace htrace
  exact ⟨s, _, ⟨clock, s₀, hstart, hrun.of_guarded⟩, hP⟩

/-- `exists_run_state` for runs whose steps meet a condition that is decided. -/
theorem exists_guarded_run_state [∀ s a, Decidable (C s a)] {P : State → List Event → Prop}
    (clock : Instant)
    (h : ((start ctx clock).bind fun s₀ =>
      exec (fun s a => if C s a then step ctx s a else none) s₀ as).isSome)
    (hP : P (((start ctx clock).bind fun s₀ =>
        exec (fun s a => if C s a then step ctx s a else none) s₀ as).get h).1
      (((start ctx clock).bind fun s₀ =>
        exec (fun s a => if C s a then step ctx s a else none) s₀ as).get h).2) :
    ∃ s tr, ServerRun ctx C as s tr ∧ P s tr := by
  obtain ⟨s₀, hstart, hexec⟩ := Option.bind_eq_some_iff.mp (Option.some_get h).symm
  exact ⟨_, _, ⟨clock, s₀, hstart, (run_of_exec hexec).of_guarded⟩, hP⟩

end Runs

/-! ## An example -/

/-- A config with a reverse link for each of two peers, and a forward link for the
    second. -/
def exampleConfig : Config where
  role := .server
  privateKeyPath := "/etc/ghostport/private.key"
  peerPublicKey := none
  peers :=
    [⟨"alice", "AQEBAQEBAQEBAQEBAQEBAQEBAQEBAQEBAQEBAQEBAQE=", ["db"]⟩,
      ⟨"bob", "AgICAgICAgICAgICAgICAgICAgICAgICAgICAgICAgI=", ["web", "ssh"]⟩]
  listenControl := some "0.0.0.0:7001"
  listenData := some "0.0.0.0:7002"
  listenUdp := none
  serverControlAddr := none
  serverDataAddr := none
  serverUdpAddr := none
  links :=
    [⟨"db", .reverse, .tcp, some "127.0.0.1:5432", none⟩,
      ⟨"web", .reverse, .tcp, some "127.0.0.1:8080", none⟩,
      ⟨"ssh", .forward, .tcp, none, some "127.0.0.1:22"⟩]

def aliceKey : List UInt8 := List.replicate 32 1

def bobKey : List UInt8 := List.replicate 32 2

def exampleContext : Context where
  snow := Snow.symbolic
  config := exampleConfig
  privateKey := List.replicate 32 9
  peers := [⟨"alice", aliceKey, ["db"].toFinset⟩, ⟨"bob", bobKey, ["web", "ssh"].toFinset⟩]

theorem exampleConfig_valid : exampleConfig.validate Base64.standard = [] := by
  decide +kernel

theorem exampleContext_peers :
    resolvePeers Base64.standard exampleConfig.peers = .ok exampleContext.peers := by
  decide +kernel

/-- All listeners of the example bind. -/
def bindAll : List Action :=
  [.listener 0 (.bind (.ok ())), .listener 1 (.bind (.ok ())), .accept .control (.bind (.ok ())),
    .accept .data (.bind (.ok ()))]

/-- A connection is accepted at `now` and its handshake completes, with nothing else
    going on. -/
def connect (channel : Channel) (tcp : TcpStream) (publicKey : List UInt8) (now : Instant) :
    List Action :=
  [.accept channel (.accept (.ok tcp) now now), .accept channel .acquire,
    .handshake channel 0 (.received ⟨32 :: 0 :: publicKey, "early eof"⟩ (.ok ()))]

end Ghostport.Server
