import Ghostport.Udp.Server

/-!
# What a step of the UDP server can do

For each task, its cases: the guard, the state after and the events.
-/

namespace Ghostport.Udp

open Ghostport.Core Ghostport.Net Ghostport.Lib

/-- The task is gone, or about to remove its entry. -/
def SessionPhase.over {T : Type} : SessionPhase T → Bool
  | .ended | .panicked => true
  | _ => false

/-- The keys of a session, once its handshake is done. -/
def SessionPhase.transport {T : Type} : SessionPhase T → Option T
  | .awaitingHello transport _ | .binding transport _ _ | .connecting transport _ _
  | .relaying transport _ _ _ => some transport
  | _ => none

theorem SessionPhase.over_of_transport {T : Type} {phase : SessionPhase T} {transport : T}
    (h : phase.transport = some transport) : phase.over = false := by
  cases phase with
  | awaitingHello _ _ | binding _ _ _ | connecting _ _ _ | relaying _ _ _ _ => rfl
  | handshaking | ended | panicked => cases h

/-- `run_session` returns, which closes its queue. -/
def Session.stop {T : Type} (session : Session T) : Session T :=
  { session with inbound := [], phase := .ended }

section

variable {T : Type} (session : Session T)

@[simp] theorem Session.stop_party : session.stop.party = session.party := rfl

@[simp] theorem Session.stop_inbound : session.stop.inbound = [] := rfl

@[simp] theorem Session.stop_phase : session.stop.phase = .ended := rfl

end

/-- A datagram enters the queue of a task that is not over and has room. -/
theorem Session.trySend_eq {T : Type} (session : Session T) (datagram : List UInt8) :
    session.trySend datagram =
      if session.phase.over = false ∧ session.inbound.length < inboundCapacity then
        { session with inbound := session.inbound ++ [datagram] }
      else session := by
  obtain ⟨party, inbound, phase⟩ := session
  cases phase <;> simp [Session.trySend, SessionPhase.over]

/-- A session after `route`: the datagram may have entered its queue. -/
theorem of_mem_route {T : Type} {tasks : List (Session T)} {serial : ℕ} {datagram : List UInt8}
    {session : Session T} (hm : session ∈ route tasks serial datagram) :
    ∃ session₀ ∈ tasks, session.party = session₀.party ∧ session.phase = session₀.phase ∧
      (session.inbound = session₀.inbound ∨
        session₀.party.serial = serial ∧ session.inbound = session₀.inbound ++ [datagram]) := by
  obtain ⟨session₀, hm₀, rfl⟩ := List.mem_map.mp hm
  refine ⟨session₀, hm₀, ?_⟩
  rw [Session.trySend_eq]
  split
  · rename_i hserial
    split
    · exact ⟨rfl, rfl, .inr ⟨hserial, rfl⟩⟩
    · exact ⟨rfl, rfl, .inl rfl⟩
  · exact ⟨rfl, rfl, .inl rfl⟩

variable {ctx : Context}

/-- What `noise_socket.recv()` returns: the head of the queue, decrypted, or that the
    queue has ended. -/
theorem recv_cases {session : Session ctx.snowstorm.Transport}
    {transport : ctx.snowstorm.Transport} {alive : Bool}
    {result : Except String (List UInt8)} {rest : List (List UInt8)}
    (h : session.recv transport alive = some (result, rest)) :
    (∃ datagram, session.inbound = datagram :: rest ∧
      result = ctx.snowstorm.decrypt transport datagram) ∨
    (session.inbound = [] ∧ alive = false ∧ ∃ e, result = .error e) := by
  unfold Session.recv at h
  split at h
  · rename_i datagram rest' hinbound
    cases h
    exact .inl ⟨datagram, hinbound, rfl⟩
  · rename_i hinbound
    split at h
    · cases h
    · rename_i halive
      cases h
      exact .inr ⟨hinbound, by simpa using halive, _, rfl⟩

theorem recv_ok {session : Session ctx.snowstorm.Transport} {transport : ctx.snowstorm.Transport}
    {alive : Bool} {bytes : List UInt8} {rest : List (List UInt8)}
    (h : session.recv transport alive = some (.ok bytes, rest)) :
    ∃ datagram, session.inbound = datagram :: rest ∧
      ctx.snowstorm.decrypt transport datagram = .ok bytes := by
  obtain ⟨datagram, hinbound, hresult⟩ | ⟨-, -, e, hresult⟩ := recv_cases h
  · exact ⟨datagram, hinbound, hresult.symm⟩
  · cases hresult

/-! ## Sessions -/

section

variable (clock : Instant) (alive : Bool) (session : Session ctx.snowstorm.Transport)

/-- The cases of a session. -/
inductive SessionCase :
    SessionAction ctx.snowstorm.Transport → Session ctx.snowstorm.Transport → List Event → Prop
  /-- It ends, and leaves its queue unread. -/
  | stopped {a : SessionAction ctx.snowstorm.Transport} {line : LogLine} :
    session.phase.over = false → a ≠ .recv → SessionCase a session.stop [.print line]
  | handshaken {transport : ctx.snowstorm.Transport} :
    session.phase = .handshaking →
    SessionCase (.handshake (.ok transport))
      { session with phase := .awaitingHello transport (clock + streamHelloTimeout) } []
  /-- The queue has ended. -/
  | cutOff {transport : ctx.snowstorm.Transport} {line : LogLine} :
    session.phase.transport = some transport → session.inbound = [] → alive = false →
    SessionCase .recv session.stop [.print line]
  /-- It takes a datagram that does not decrypt. -/
  | garbled {transport : ctx.snowstorm.Transport} {datagram : List UInt8}
    {rest : List (List UInt8)} {e : String} {line : LogLine} :
    session.phase.transport = some transport → session.inbound = datagram :: rest →
    ctx.snowstorm.decrypt transport datagram = .error e →
    SessionCase .recv session.stop [.print line]
  /-- It takes a first message that is no hello, or a hello that is refused. -/
  | refused {transport : ctx.snowstorm.Transport} {deadline : Instant}
    {datagram bytes : List UInt8} {rest : List (List UInt8)} {line : LogLine} :
    session.phase = .awaitingHello transport deadline → session.inbound = datagram :: rest →
    ctx.snowstorm.decrypt transport datagram = .ok bytes →
    (∀ hello, ctx.json.fromSlice bytes = .ok hello →
      checkHello ctx session.party hello = .refuse line) →
    SessionCase .recv session.stop [.print line]
  | panicked {transport : ctx.snowstorm.Transport} {deadline : Instant}
    {datagram bytes : List UInt8} {rest : List (List UInt8)} {hello : StreamHello} :
    session.phase = .awaitingHello transport deadline → session.inbound = datagram :: rest →
    ctx.snowstorm.decrypt transport datagram = .ok bytes →
    ctx.json.fromSlice bytes = .ok hello → checkHello ctx session.party hello = .panic →
    SessionCase .recv { session with inbound := [], phase := .panicked } [.panicked]
  /-- It takes the hello of a link. -/
  | bound {transport : ctx.snowstorm.Transport} {deadline : Instant}
    {datagram bytes : List UInt8} {rest : List (List UInt8)} {hello : StreamHello}
    {link : LinkConfig} {target : String} :
    session.phase = .awaitingHello transport deadline → session.inbound = datagram :: rest →
    ctx.snowstorm.decrypt transport datagram = .ok bytes →
    ctx.json.fromSlice bytes = .ok hello →
    checkHello ctx session.party hello = .bind link target →
    SessionCase .recv
      { session with inbound := rest, phase := .binding transport link target } []
  | dialed {transport : ctx.snowstorm.Transport} {link : LinkConfig} {target : String} :
    session.phase = .binding transport link target →
    SessionCase (.bind (.ok ())) { session with phase := .connecting transport link target }
      [.dialed session.party link target]
  | opened {transport : ctx.snowstorm.Transport} {link : LinkConfig} {target : String}
    {line : LogLine} :
    session.phase = .connecting transport link target →
    SessionCase (.connect (.ok ()))
      { session with phase := .relaying transport link target (clock + sessionIdleTimeout) }
      [.print line]
  /-- It takes a datagram and sends it to the target. -/
  | relayed {transport : ctx.snowstorm.Transport} {link : LinkConfig} {target : String}
    {deadline : Instant} {datagram payload : List UInt8} {rest : List (List UInt8)} :
    session.phase = .relaying transport link target deadline →
    session.inbound = datagram :: rest →
    ctx.snowstorm.decrypt transport datagram = .ok payload →
    SessionCase .recv
      { session with
        inbound := rest, phase := .relaying transport link target (clock + sessionIdleTimeout) }
      [.toTarget session.party link target payload]
  | answered {transport : ctx.snowstorm.Transport} {link : LinkConfig} {target : String}
    {deadline : Instant} {payload : List UInt8} :
    session.phase = .relaying transport link target deadline →
    SessionCase (.target (.ok payload))
      { session with phase := .relaying transport link target (clock + sessionIdleTimeout) }
      [.toPeer session.party link target payload]

end

variable {clock : Instant} {alive : Bool} {session session' : Session ctx.snowstorm.Transport}
  {es : List Event}

/-- A failed `recv` ends the session. -/
theorem SessionCase.recvFailed {transport : ctx.snowstorm.Transport} {e : String}
    {rest : List (List UInt8)} {line : LogLine} (hphase : session.phase.transport = some transport)
    (h : session.recv transport alive = some (.error e, rest)) :
    SessionCase clock alive session .recv session.stop [.print line] := by
  obtain ⟨datagram, hinbound, hresult⟩ | ⟨hinbound, halive, -⟩ := recv_cases h
  · exact .garbled hphase hinbound hresult.symm
  · exact .cutOff hphase hinbound halive

theorem runSession_cases {a : SessionAction ctx.snowstorm.Transport}
    (h : runSession ctx clock alive session a = some (session', es)) :
    SessionCase clock alive session a session' es := by
  obtain ⟨party, inbound, phase⟩ := session
  unfold runSession at h
  simp only at h
  split at h
  case h_1 => cases h; exact .stopped rfl (by simp)
  case h_2 => cases h; exact .handshaken rfl
  case h_3 =>
    split at h
    · cases h
      exact .stopped rfl (by simp)
    · cases h
  case h_4 transport deadline =>
    split at h
    · cases h
    · rename_i e rest hrecv
      cases h
      exact .recvFailed rfl hrecv
    · rename_i bytes rest hrecv
      obtain ⟨datagram, hinbound, hdecrypt⟩ := recv_ok hrecv
      split at h
      · rename_i e hjson
        cases h
        exact .refused rfl hinbound hdecrypt fun hello hok => by
          rw [hjson] at hok
          cases hok
      · rename_i hello hjson
        split at h
        · rename_i line hcheck
          cases h
          refine .refused rfl hinbound hdecrypt fun hello' hok => ?_
          rw [hjson] at hok
          cases hok
          exact hcheck
        · rename_i hcheck
          cases h
          exact .panicked rfl hinbound hdecrypt hjson hcheck
        · rename_i link target hcheck
          cases h
          exact .bound rfl hinbound hdecrypt hjson hcheck
  case h_5 => cases h; exact .stopped rfl (by simp)
  case h_6 => cases h; exact .dialed rfl
  case h_7 => cases h; exact .stopped rfl (by simp)
  case h_8 => cases h; exact .opened rfl
  case h_9 transport link target deadline =>
    split at h
    · cases h
    · rename_i e rest hrecv
      cases h
      exact .recvFailed rfl hrecv
    · rename_i payload rest hrecv
      obtain ⟨datagram, hinbound, hdecrypt⟩ := recv_ok hrecv
      cases h
      exact .relayed rfl hinbound hdecrypt
  case h_10 => cases h; exact .answered rfl
  case h_11 => cases h; exact .stopped rfl (by simp)
  case h_12 =>
    split at h
    · cases h
      exact .stopped rfl (by simp)
    · cases h
  case h_13 => cases h

theorem SessionCase.party_eq {a : SessionAction ctx.snowstorm.Transport}
    (h : SessionCase clock alive session a session' es) : session'.party = session.party := by
  cases h <;> rfl

/-- A task that is over does nothing more. -/
theorem SessionCase.not_over {a : SessionAction ctx.snowstorm.Transport}
    (h : SessionCase clock alive session a session' es) : session.phase.over = false := by
  cases h with
  | stopped hover _ => exact hover
  | cutOff htransport _ _ | garbled htransport _ _ =>
    exact SessionPhase.over_of_transport htransport
  | handshaken hphase | refused hphase _ _ _ | panicked hphase _ _ _ _ | bound hphase _ _ _ _
  | dialed hphase | opened hphase | relayed hphase _ _ | answered hphase =>
    rw [hphase]
    rfl

/-! ## The demultiplexing loop -/

variable {s s' : State ctx.snowstorm.Transport}

/-- The cases of the loop of `run`. -/
inductive DemuxCase (s : State ctx.snowstorm.Transport) :
    DemuxAction → State ctx.snowstorm.Transport → List Event → Prop
  | bound {result : Except String Unit} {demux : DemuxPhase} {es : List Event} :
    s.demux = .binding → demux = .returned ∨ demux = .receiving →
    (∀ e ∈ es, ∃ line, e = .print line) → DemuxCase s (.bind result) { s with demux := demux } es
  | failed {e : String} :
    s.demux = .receiving → DemuxCase s (.recv (.error e)) { s with demux := .returned } []
  | routed {src : SocketAddr} {datagram : List UInt8} {serial : ℕ} :
    s.demux = .receiving → s.sessions src = some serial →
    DemuxCase s (.recv (.ok (src, datagram)))
      { s with tasks := route s.tasks serial datagram } []
  | unknown {src : SocketAddr} {datagram : List UInt8} :
    s.demux = .receiving → s.sessions src = none →
    DemuxCase s (.recv (.ok (src, datagram))) { s with demux := .acquiring src datagram } []
  /-- The limiter refuses, or no peer matches. -/
  | dropped {src : SocketAddr} {datagram : List UInt8} {now now' : Instant}
    {limiter : HandshakeLimiter} :
    s.demux = .acquiring src datagram → s.clock ≤ now → now ≤ now' →
    DemuxCase s (.acquire now now')
      { s with clock := now', limiter := limiter, demux := .receiving } []
  | panicked {src : SocketAddr} {datagram : List UInt8} {now now' : Instant}
    {limiter : HandshakeLimiter} {index : ℕ} {state : ctx.snow.HandshakeState} :
    s.demux = .acquiring src datagram →
    matchPeerBytes ctx.snow datagram ctx.privateKey ctx.peers = .ok (index, state) →
    ctx.peers[index]? = none → s.clock ≤ now → now ≤ now' →
    DemuxCase s (.acquire now now')
      { s with clock := now', limiter := limiter, demux := .returned } [.panicked]
  | matched {src : SocketAddr} {datagram : List UInt8} {now now' : Instant}
    {limiter : HandshakeLimiter} {index : ℕ} {state : ctx.snow.HandshakeState}
    {peer : ResolvedPeer} :
    s.demux = .acquiring src datagram →
    matchPeerBytes ctx.snow datagram ctx.privateKey ctx.peers = .ok (index, state) →
    ctx.peers[index]? = some peer → s.clock ≤ now → now ≤ now' →
    DemuxCase s (.acquire now now')
      { s with clock := now', limiter := limiter, demux := .inserting src datagram peer } []
  | inserted {src : SocketAddr} {message : List UInt8} {peer : ResolvedPeer} {party : Party} :
    s.demux = .inserting src message peer → party = ⟨s.nextSerial, src, message, peer⟩ →
    DemuxCase s .insert
      { s with
        demux := .receiving
        sessions := Function.update s.sessions src (some s.nextSerial)
        nextSerial := s.nextSerial + 1
        tasks := s.tasks ++ [⟨party, [], .handshaking⟩] } [.matched party]

theorem runDemux_cases {a : DemuxAction} (h : runDemux ctx s a = some (s', es)) :
    DemuxCase s a s' es := by
  unfold runDemux at h
  split at h
  case h_1 hphase => cases h; exact .bound hphase (.inl rfl) (by simp)
  case h_2 hphase => cases h; exact .bound hphase (.inr rfl) (by simp)
  case h_3 hphase => cases h; exact .failed hphase
  case h_4 src datagram hphase =>
    split at h
    · rename_i serial hentry
      cases h
      exact .routed hphase hentry
    · rename_i hentry
      cases h
      exact .unknown hphase hentry
  case h_5 src datagram now now' hphase =>
    split at h
    · rename_i htimes
      simp only at h
      split at h
      · cases h
        exact .dropped hphase htimes.1 htimes.2
      · split at h
        · cases h
          exact .dropped hphase htimes.1 htimes.2
        · rename_i index state hmatch
          split at h
          · rename_i hnone
            cases h
            exact .panicked hphase hmatch hnone htimes.1 htimes.2
          · rename_i peer hpeer
            cases h
            exact .matched hphase hmatch hpeer htimes.1 htimes.2
    · cases h
  case h_6 src message peer hphase => cases h; exact .inserted hphase rfl
  case h_7 => cases h

/-! ## Steps -/

/-- The cases of a step, by task. -/
inductive StepCase (s : State ctx.snowstorm.Transport) :
    Action ctx.snowstorm.Transport → State ctx.snowstorm.Transport → List Event → Prop
  | tick {now : Instant} : s.clock ≤ now → StepCase s (.tick now) { s with clock := now } []
  | demux {a : DemuxAction} {s' : State ctx.snowstorm.Transport} {es : List Event} :
    DemuxCase s a s' es → StepCase s (.demux a) s' es
  | session {i : ℕ} {a : SessionAction ctx.snowstorm.Transport}
    {session session' : Session ctx.snowstorm.Transport} {es : List Event} :
    s.tasks[i]? = some session →
    SessionCase s.clock (s.sessions session.party.src = some session.party.serial) session a
      session' es →
    StepCase s (.session i a) { s with tasks := s.tasks.set i session' } es
  | removed {i : ℕ} {session : Session ctx.snowstorm.Transport} :
    s.tasks[i]? = some session → session.phase = .ended →
    StepCase s (.session i .remove)
      { s with
        sessions := Function.update s.sessions session.party.src none
        tasks := s.tasks.eraseIdx i }
      [.removed session.party (s.sessions session.party.src)]

theorem step_cases {a : Action ctx.snowstorm.Transport} (h : step ctx s a = some (s', es)) :
    StepCase s a s' es := by
  match a with
  | .tick now =>
    simp only [step] at h
    split at h
    · rename_i hle
      cases h
      exact .tick hle
    · cases h
  | .demux a => exact .demux (runDemux_cases h)
  | .session i a =>
    simp only [step] at h
    split at h
    · cases h
    · rename_i session hi
      split at h
      · rename_i hphase
        cases h
        exact .removed hi hphase
      · obtain ⟨⟨session', es'⟩, hrun, heq⟩ := Option.map_eq_some_iff.mp h
        cases heq
        exact .session hi (runSession_cases hrun)

end Ghostport.Udp
