import Ghostport.Server.Step

/-!
# What a step of the server can do

For each group of steps, its cases: the guard, the state after and the events.
The step functions are unfolded here and nowhere else.
-/

namespace Ghostport.Server

open Ghostport.Core Ghostport.Net Ghostport.Lib

attribute [simp] State.setListener State.setPending State.setPhase State.setHandshakes
  State.startRelay State.setSession

variable {ctx : Context} {s s' : State} {es : List Event}

/-! ## The start -/

theorem reverseListeners_binding {links : List LinkConfig} {ls : List ReverseListener}
    (h : reverseListeners links = some ls) : ∀ l ∈ ls, l.phase = .binding := by
  induction links generalizing ls with
  | nil =>
    cases h
    simp
  | cons link links ih =>
    simp only [reverseListeners] at h
    split at h
    · split at h
      · cases h
      · obtain ⟨rest, hrest, rfl⟩ := Option.map_eq_some_iff.mp h
        intro l hl
        rcases List.mem_cons.mp hl with rfl | hl
        · rfl
        · exact ih hrest l hl
    · exact ih h

/-- What `start` builds. -/
theorem start_spec {clock : Instant} {s₀ : State} (h : start ctx clock = some s₀) :
    s₀.clock = clock ∧ s₀.limiter = HandshakeLimiter.new ∧ s₀.attempts = [] ∧
      reverseListeners ctx.config.links = some s₀.reverse.listeners ∧
      s₀.reverse.pending = (fun _ => none) ∧ s₀.reverse.nextStreamId = 1 ∧
      s₀.reverse.accepts = 0 ∧ s₀.reverse.timers = [] ∧ s₀.openStream = [] ∧
      (∀ channel, (s₀.acceptor channel).phase = .binding ∧
        (s₀.acceptor channel).handshakes = []) ∧
      s₀.control = ⟨[], [], none, .initial⟩ ∧
      s₀.data = ⟨[], [], [], initialStats ctx.config⟩ := by
  unfold start at h
  split at h
  · rename_i hls
    cases h
    refine ⟨rfl, rfl, rfl, hls, rfl, rfl, rfl, rfl, rfl, ?_, rfl, rfl⟩
    intro channel
    cases channel <;> exact ⟨rfl, rfl⟩
  · cases h

/-! ## Reverse listeners -/

/-- The cases of `spawn_reverse_listener`. -/
inductive ListenerCase (s : State) (i : ℕ) : ListenerAction → State → List Event → Prop
  | bindFailed {linkId listenAddr e : String} :
    s.reverse.listeners[i]? = some ⟨linkId, listenAddr, .binding⟩ →
    ListenerCase s i (.bind (.error e)) (s.setListener i ⟨linkId, listenAddr, .returned⟩)
      [.print (.reverseBindFailed linkId listenAddr e)]
  | bound {linkId listenAddr : String} :
    s.reverse.listeners[i]? = some ⟨linkId, listenAddr, .binding⟩ →
    ListenerCase s i (.bind (.ok ())) (s.setListener i ⟨linkId, listenAddr, .accepting⟩)
      [.print (.reverseListening linkId listenAddr)]
  | acceptFailed {linkId listenAddr e : String} :
    s.reverse.listeners[i]? = some ⟨linkId, listenAddr, .accepting⟩ →
    ListenerCase s i (.accept (.error e)) s [.print (.reverseAcceptFailed linkId e)]
  | accepted {linkId listenAddr : String} {peerAddr : SocketAddr} {s₁ : State}
    {conn : ExternalConn} :
    s.reverse.listeners[i]? = some ⟨linkId, listenAddr, .accepting⟩ →
    conn = ⟨linkId, peerAddr, s.reverse.accepts⟩ →
    s₁ = s.setListener i ⟨linkId, listenAddr, .inserting s.reverse.nextStreamId conn⟩ →
    ListenerCase s i (.accept (.ok peerAddr))
      { s₁ with
        reverse := { s₁.reverse with
          nextStreamId := s.reverse.nextStreamId + 1, accepts := s.reverse.accepts + 1 } }
      [.accepted s.reverse.nextStreamId conn]
  | inserted {linkId listenAddr : String} {streamId : UInt64} {conn : ExternalConn} :
    s.reverse.listeners[i]? = some ⟨linkId, listenAddr, .inserting streamId conn⟩ →
    ListenerCase s i .insert
      ((s.setListener i ⟨linkId, listenAddr, .sending streamId conn.peerAddr⟩).setPending streamId
        (some conn))
      [.inserted streamId conn (s.reverse.pending streamId)]
  | signalled {linkId listenAddr : String} {streamId : UInt64} {peerAddr : SocketAddr}
    {s₁ : State} :
    s.reverse.listeners[i]? = some ⟨linkId, listenAddr, .sending streamId peerAddr⟩ →
    s.receiverAlive → s.openStream.length < openStreamCapacity →
    s₁ = s.setListener i ⟨linkId, listenAddr, .accepting⟩ →
    ListenerCase s i .send
      { s₁ with
        openStream := s.openStream ++ [.openStream linkId streamId]
        reverse := { s₁.reverse with
          timers := s.reverse.timers ++ [⟨streamId, linkId, s.clock + cleanupTimeout⟩] } }
      [.signalled linkId streamId]
  | dropped {linkId listenAddr : String} {streamId : UInt64} {peerAddr : SocketAddr}
    {conn : ExternalConn} :
    s.reverse.listeners[i]? = some ⟨linkId, listenAddr, .sending streamId peerAddr⟩ →
    ¬ s.receiverAlive → s.reverse.pending streamId = some conn →
    ListenerCase s i .send
      ((s.setListener i ⟨linkId, listenAddr, .accepting⟩).setPending streamId none)
      [.sendFailed linkId streamId conn, .print (.controlUnavailable linkId peerAddr)]
  | gone {linkId listenAddr : String} {streamId : UInt64} {peerAddr : SocketAddr} :
    s.reverse.listeners[i]? = some ⟨linkId, listenAddr, .sending streamId peerAddr⟩ →
    ¬ s.receiverAlive → s.reverse.pending streamId = none →
    ListenerCase s i .send
      ((s.setListener i ⟨linkId, listenAddr, .accepting⟩).setPending streamId none)
      [.print (.controlUnavailable linkId peerAddr)]

theorem spawnReverseListener_cases {i : ℕ} {a : ListenerAction}
    (h : spawnReverseListener s i a = some (s', es)) : ListenerCase s i a s' es := by
  unfold spawnReverseListener at h
  split at h
  case h_1 hl => cases h; exact .bindFailed hl
  case h_2 hl => cases h; exact .bound hl
  case h_3 hl => cases h; exact .acceptFailed hl
  case h_4 hl => cases h; exact .accepted hl rfl rfl
  case h_5 hl => cases h; exact .inserted hl
  case h_6 hl =>
    split at h
    · rename_i halive
      split at h
      · rename_i hroom
        cases h
        exact .signalled hl halive hroom rfl
      · cases h
    · rename_i halive
      split at h
      · rename_i conn hconn
        cases h
        exact .dropped hl halive hconn
      · rename_i hnone
        cases h
        exact .gone hl halive hnone
  case h_7 => cases h

/-- The cases of a cleanup task. -/
inductive CleanupCase (s : State) (i : ℕ) : State → List Event → Prop
  | timedOut {timer : CleanupTimer} {conn : ExternalConn} {s₁ : State} :
    s.reverse.timers[i]? = some timer → timer.deadline ≤ s.clock →
    s.reverse.pending timer.streamId = some conn → s₁ = s.setPending timer.streamId none →
    CleanupCase s i { s₁ with reverse := { s₁.reverse with timers := s.reverse.timers.eraseIdx i } }
      [.timedOut timer timer.streamId conn, .print (.streamTimedOut timer.linkId timer.streamId)]
  | gone {timer : CleanupTimer} {s₁ : State} :
    s.reverse.timers[i]? = some timer → timer.deadline ≤ s.clock →
    s.reverse.pending timer.streamId = none → s₁ = s.setPending timer.streamId none →
    CleanupCase s i { s₁ with reverse := { s₁.reverse with timers := s.reverse.timers.eraseIdx i } }
      []

theorem cleanup_cases {i : ℕ} (h : cleanup s i = some (s', es)) : CleanupCase s i s' es := by
  unfold cleanup at h
  split at h
  · cases h
  · rename_i timer htimer
    split at h
    · rename_i hdue
      split at h
      · rename_i conn hconn
        cases h
        exact .timedOut htimer hdue hconn rfl
      · rename_i hnone
        cases h
        exact .gone htimer hdue hnone rfl
    · cases h

/-! ## Accept loops and handshakes -/

/-- The cases of an accept loop. -/
inductive AcceptCase (s : State) (channel : Channel) : AcceptAction → State → List Event → Prop
  | bindFailed {e : String} :
    (s.acceptor channel).phase = .binding →
    AcceptCase s channel (.bind (.error e)) (s.setPhase channel .returned)
      [.print (.bindFailed channel (s.acceptor channel).listenAddr e)]
  | bound :
    (s.acceptor channel).phase = .binding →
    AcceptCase s channel (.bind (.ok ())) (s.setPhase channel .accepting)
      [.print (.listening channel (s.acceptor channel).listenAddr)]
  | acceptFailed {e : String} {now now' : Instant} :
    (s.acceptor channel).phase = .accepting →
    AcceptCase s channel (.accept (.error e) now now') s [.print (.acceptFailed channel e)]
  | refused {tcp : TcpStream} {now now' : Instant} {l : HandshakeLimiter} :
    (s.acceptor channel).phase = .accepting → s.clock ≤ now → now ≤ now' →
    s.limiter.recordAttempt tcp.peerAddr.ip now now' = (false, l) →
    AcceptCase s channel (.accept (.ok tcp) now now') { s with clock := now', limiter := l }
      [.rejected channel tcp now s.attempts]
  | recorded {tcp : TcpStream} {now now' : Instant} {l : HandshakeLimiter} :
    (s.acceptor channel).phase = .accepting → s.clock ≤ now → now ≤ now' →
    s.limiter.recordAttempt tcp.peerAddr.ip now now' = (true, l) →
    AcceptCase s channel (.accept (.ok tcp) now now')
      ({ s with
        clock := now', limiter := l,
        attempts := s.attempts ++ [(tcp.peerAddr.ip, now')] }.setPhase channel
          (.acquiring tcp now s.attempts)) []
  | noPermit {tcp : TcpStream} {calledAt : Instant} {prior : AttemptLog} :
    (s.acceptor channel).phase = .acquiring tcp calledAt prior → s.limiter.concurrent = 0 →
    AcceptCase s channel .acquire (s.setPhase channel .accepting)
      [.rejected channel tcp calledAt prior]
  | acquired {tcp : TcpStream} {calledAt : Instant} {prior : AttemptLog} {handshake : Handshake} :
    (s.acceptor channel).phase = .acquiring tcp calledAt prior → s.limiter.concurrent ≠ 0 →
    handshake = ⟨tcp, s.clock + handshakeTimeout⟩ →
    AcceptCase s channel .acquire
      (({ s with
        limiter := { s.limiter with concurrent := s.limiter.concurrent - 1 } }.setPhase channel
          .accepting).setHandshakes channel ((s.acceptor channel).handshakes ++ [handshake])) []

theorem acceptLoop_cases {channel : Channel} {a : AcceptAction}
    (h : acceptLoop s channel a = some (s', es)) : AcceptCase s channel a s' es := by
  unfold acceptLoop at h
  split at h
  case h_1 hp => cases h; exact .bindFailed hp
  case h_2 hp => cases h; exact .bound hp
  case h_3 hp => cases h; exact .acceptFailed hp
  case h_4 hp =>
    split at h
    · rename_i hclock
      simp only at h
      split at h
      · rename_i hr
        cases h
        exact .refused hp hclock.1 hclock.2 hr
      · rename_i hr
        cases h
        exact .recorded hp hclock.1 hclock.2 hr
    · cases h
  case h_5 hp =>
    simp only [HandshakeLimiter.tryAcquireOwned] at h
    split at h
    · rename_i hr
      split at hr
      · rename_i h0
        cases hr
        cases h
        exact .noPermit hp h0
      · cases hr
    · rename_i hr
      split at hr
      · cases hr
      · rename_i h0
        cases hr
        cases h
        exact .acquired hp h0 rfl
  case h_6 => cases h

/-- The cases of a task that performs a handshake. -/
inductive HandshakeCase (ctx : Context) (s : State) (channel : Channel) (i : ℕ) :
    HandshakeOutcome → State → List Event → Prop
  | timedOut {h : Handshake} {s₁ : State} :
    (s.acceptor channel).handshakes[i]? = some h → h.deadline ≤ s.clock →
    s₁ = { s with limiter := s.limiter.dropPermit } →
    HandshakeCase ctx s channel i .timedOut
      (s₁.setHandshakes channel ((s.acceptor channel).handshakes.eraseIdx i))
      [.print (channel.handshakeTimedOut h.tcp.peerAddr)]
  | failed {h : Handshake} {incoming : Incoming} {reply : Except String Unit} {e : String}
    {s₁ : State} :
    (s.acceptor channel).handshakes[i]? = some h →
    handshakeFuture ctx incoming reply = .error e →
    s₁ = { s with limiter := s.limiter.dropPermit } →
    HandshakeCase ctx s channel i (.received incoming reply)
      (s₁.setHandshakes channel ((s.acceptor channel).handshakes.eraseIdx i))
      [.print (channel.handshakeFailed h.tcp.peerAddr e)]
  | matched {h : Handshake} {incoming : Incoming} {reply : Except String Unit} {peerIndex : ℕ}
    {peer : ResolvedPeer} {message : List UInt8} {s₁ : State} :
    (s.acceptor channel).handshakes[i]? = some h →
    handshakeFuture ctx incoming reply = .ok peerIndex → ctx.peers[peerIndex]? = some peer →
    incoming.message = some message →
    s₁ = { s with limiter := s.limiter.dropPermit } →
    HandshakeCase ctx s channel i (.received incoming reply)
      ((s₁.setHandshakes channel ((s.acceptor channel).handshakes.eraseIdx i)).handOver channel
        ⟨h.tcp, peer⟩)
      [.matched channel ⟨h.tcp, peer⟩ message]

/-- A handshake that completes has read a whole message, which one of the peers
    matches. -/
theorem handshakeFuture_ok {incoming : Incoming} {reply : Except String Unit} {peerIndex : ℕ}
    (h : handshakeFuture ctx incoming reply = .ok peerIndex) :
    ∃ message state, incoming.message = some message ∧
      matchPeerBytes ctx.snow message ctx.privateKey ctx.peers = .ok (peerIndex, state) := by
  unfold handshakeFuture at h
  split at h
  · cases h
  · rename_i index state hmatch
    obtain ⟨message, hmessage, hbytes⟩ := matchPeer_ok hmatch
    cases reply with
    | error e => cases h
    | ok u =>
      cases h
      exact ⟨message, state, hmessage, hbytes⟩

theorem endHandshake_cases {channel : Channel} {i : ℕ} {outcome : HandshakeOutcome}
    (h : endHandshake ctx s channel i outcome = some (s', es)) :
    HandshakeCase ctx s channel i outcome s' es := by
  unfold endHandshake at h
  split at h
  · cases h
  · rename_i hs hi
    simp only at h
    split at h
    · split at h
      · rename_i hdue
        cases h
        exact .timedOut hi hdue rfl
      · cases h
    · rename_i incoming reply
      split at h
      · rename_i e he
        cases h
        exact .failed hi he rfl
      · rename_i peerIndex hok
        obtain ⟨message, state, hmessage, hbytes⟩ := handshakeFuture_ok hok
        obtain ⟨peer, -, -, hpeer, -⟩ := matchPeerBytes_ok hbytes
        -- the index of a match is one of the peers'
        rw [hpeer, hmessage] at h
        cases h
        exact .matched hi hok hpeer hmessage rfl

/-! ## Control sessions -/

/-- The cases of the session loop, `run_control_session` and the sends that feed
    them. -/
inductive ControlCase (s : State) : ControlAction → State → List Event → Prop
  | handedOff {i : ℕ} {stream : NoiseStream} :
    s.control.handoffs[i]? = some stream →
    s.control.authenticated.length < authenticatedCapacity →
    ControlCase s (.handoff i)
      { s with
        control := { s.control with
          handoffs := s.control.handoffs.eraseIdx i
          authenticated := s.control.authenticated ++ [stream] } } []
  | connected {nowUnix : UInt64} {stream : NoiseStream} {rest : List NoiseStream} :
    s.control.session = none → s.control.authenticated = stream :: rest →
    ControlCase s (.recv nowUnix)
      { s with
        control := { s.control with
          authenticated := rest
          session := some ⟨stream, .selecting⟩
          status := s.control.status.setConnected nowUnix stream.tcp.peerAddr.display
            (some stream.peer.name) } }
      [.print (.controlConnected stream.tcp.peerAddr stream.peer.name), .connected stream]
  | ping {stream : NoiseStream} :
    s.control.session = some ⟨stream, .selecting⟩ →
    ControlCase s (.incoming (.ok .ping)) (s.setSession (some ⟨stream, .sendingPong⟩))
      [.writing stream .pong]
  | ignored {stream : NoiseStream} {msg : ControlMessage} :
    s.control.session = some ⟨stream, .selecting⟩ → msg ≠ .ping →
    ControlCase s (.incoming (.ok msg)) s []
  | readFailed {stream : NoiseStream} {e : String} :
    s.control.session = some ⟨stream, .selecting⟩ →
    ControlCase s (.incoming (.error e)) (endSession s stream).1 (endSession s stream).2
  | took {stream : NoiseStream} {msg : ControlMessage} {rest : List ControlMessage} :
    s.control.session = some ⟨stream, .selecting⟩ → s.openStream = msg :: rest →
    ControlCase s .openStream
      ({ s with openStream := rest }.setSession (some ⟨stream, .writing msg⟩))
      [.writing stream msg]
  | wrotePong {stream : NoiseStream} :
    s.control.session = some ⟨stream, .sendingPong⟩ →
    ControlCase s (.sent (.ok ())) (s.setSession (some ⟨stream, .selecting⟩)) [.wrote stream .pong]
  | wrote {stream : NoiseStream} {msg : ControlMessage} :
    s.control.session = some ⟨stream, .writing msg⟩ →
    ControlCase s (.sent (.ok ())) (s.setSession (some ⟨stream, .selecting⟩)) [.wrote stream msg]
  | writeFailed {stream : NoiseStream} {phase : SessionPhase} {e : String} :
    s.control.session = some ⟨stream, phase⟩ → phase ≠ .selecting →
    ControlCase s (.sent (.error e)) (endSession s stream).1 (endSession s stream).2

theorem runControlSession_cases {a : ControlAction}
    (h : runControlSession s a = some (s', es)) : ControlCase s a s' es := by
  unfold runControlSession at h
  split at h
  case h_1 =>
    split at h
    · cases h
    · rename_i stream hi
      split at h
      · rename_i hroom
        cases h
        exact .handedOff hi hroom
      · cases h
  case h_2 hs =>
    split at h
    · cases h
    · rename_i stream rest hrest
      cases h
      exact .connected hs hrest
  case h_3 hs => cases h; exact .ping hs
  case h_4 hne hs => cases h; exact .ignored hs fun hp => hne (by rw [hp])
  case h_5 hs => cases h; exact .readFailed hs
  case h_6 hs =>
    split at h
    · cases h
    · rename_i msg rest hrest
      cases h
      exact .took hs hrest
  case h_7 hs => cases h; exact .wrotePong hs
  case h_8 hs => cases h; exact .writeFailed hs (by simp)
  case h_9 hs => cases h; exact .wrote hs
  case h_10 hs => cases h; exact .writeFailed hs (by simp)
  case h_11 => cases h

/-! ## Data connections -/

/-- The hellos that claim a pending stream. -/
theorem checkHello_claim_iff {stats : String → Option LinkStats} {peer : ResolvedPeer}
    {hello : StreamHello} {link : LinkConfig} {streamId : UInt64} :
    checkHello ctx stats peer hello = .claim link streamId ↔
      hello.linkId ∈ peer.links ∧
      ctx.config.links.find? (fun l => l.id = hello.linkId) = some link ∧
      link.transport = .tcp ∧ (stats link.id).isSome ∧ link.mode = .reverse ∧
      hello.streamId = some streamId := by
  unfold checkHello
  constructor
  · intro h
    split at h
    · cases h
    · rename_i hlinks
      split at h
      · cases h
      · rename_i l hfind
        split at h
        · cases h
        · rename_i htcp
          split at h
          · cases h
          · rename_i hstats
            split at h
            · split at h <;> cases h
            · rename_i id hmode hid
              cases h
              refine ⟨by simpa using hlinks, hfind, by simpa using htcp, ?_, hmode, hid⟩
              simpa [Option.isSome_iff_ne_none] using hstats
            · cases h
  · rintro ⟨hlinks, hfind, htcp, hstats, hmode, hid⟩
    simp [hlinks, hfind, htcp, Option.isNone_eq_false_iff.mpr hstats, hmode, hid]

/-- The hellos on which the server connects to a target. -/
theorem checkHello_dial_iff {stats : String → Option LinkStats} {peer : ResolvedPeer}
    {hello : StreamHello} {link : LinkConfig} {target : String} :
    checkHello ctx stats peer hello = .dial link target ↔
      hello.linkId ∈ peer.links ∧
      ctx.config.links.find? (fun l => l.id = hello.linkId) = some link ∧
      link.transport = .tcp ∧ (stats link.id).isSome ∧ link.mode = .forward ∧
      hello.streamId = none ∧ link.target = some target := by
  unfold checkHello
  constructor
  · intro h
    split at h
    · cases h
    · rename_i hlinks
      split at h
      · cases h
      · rename_i l hfind
        split at h
        · cases h
        · rename_i htcp
          split at h
          · cases h
          · rename_i hstats
            split at h
            · rename_i hmode hid
              split at h
              · cases h
              · rename_i target htarget
                cases h
                refine ⟨by simpa using hlinks, hfind, by simpa using htcp, ?_, hmode, hid, htarget⟩
                simpa [Option.isSome_iff_ne_none] using hstats
            · cases h
            · cases h
  · rintro ⟨hlinks, hfind, htcp, hstats, hmode, hid, htarget⟩
    simp [hlinks, hfind, htcp, Option.isNone_eq_false_iff.mpr hstats, hmode, hid, htarget]

/-- The cases of `handle_data_connection` and `relay`. -/
inductive DataCase (ctx : Context) (s : State) : DataAction → State → List Event → Prop
  | helloTimedOut {i : ℕ} {h : AwaitingHello} :
    s.data.hellos[i]? = some h → h.deadline ≤ s.clock →
    DataCase ctx s (.hello i .timedOut)
      { s with data := { s.data with hellos := s.data.hellos.eraseIdx i } }
      [.print (.dataConnection h.tunnel.tcp.peerAddr
        "peer completed the handshake but never sent a StreamHello")]
  | helloFailed {i : ℕ} {h : AwaitingHello} {e : String} :
    s.data.hellos[i]? = some h →
    DataCase ctx s (.hello i (.failed e))
      { s with data := { s.data with hellos := s.data.hellos.eraseIdx i } }
      [.print (.dataConnection h.tunnel.tcp.peerAddr e)]
  | refused {i : ℕ} {h : AwaitingHello} {hello : StreamHello} {e : String} :
    s.data.hellos[i]? = some h →
    checkHello ctx s.data.stats h.tunnel.peer hello = .refuse e →
    DataCase ctx s (.hello i (.received hello))
      { s with data := { s.data with hellos := s.data.hellos.eraseIdx i } }
      [.refused h.tunnel hello, .print (.dataConnection h.tunnel.tcp.peerAddr e)]
  | panicked {i : ℕ} {h : AwaitingHello} {hello : StreamHello} :
    s.data.hellos[i]? = some h →
    checkHello ctx s.data.stats h.tunnel.peer hello = .panic →
    DataCase ctx s (.hello i (.received hello))
      { s with data := { s.data with hellos := s.data.hellos.eraseIdx i } } [.panicked]
  | dialed {i : ℕ} {h : AwaitingHello} {hello : StreamHello} {link : LinkConfig}
    {target : String} {relay : Relay} :
    s.data.hellos[i]? = some h →
    checkHello ctx s.data.stats h.tunnel.peer hello = .dial link target →
    relay = ⟨h.tunnel, hello, link.id, .target target⟩ →
    DataCase ctx s (.hello i (.received hello))
      { s with
        data := { s.data with
          hellos := s.data.hellos.eraseIdx i
          connecting := s.data.connecting ++ [relay] } } [.dialed relay]
  | unknown {i : ℕ} {h : AwaitingHello} {hello : StreamHello} {link : LinkConfig}
    {streamId : UInt64} :
    s.data.hellos[i]? = some h →
    checkHello ctx s.data.stats h.tunnel.peer hello = .claim link streamId →
    s.reverse.pending streamId = none →
    DataCase ctx s (.hello i (.received hello))
      { s with data := { s.data with hellos := s.data.hellos.eraseIdx i } }
      [.refused h.tunnel hello,
        .print (.dataConnection h.tunnel.tcp.peerAddr (unknownStream streamId link.id))]
  | claimed {i : ℕ} {h : AwaitingHello} {hello : StreamHello} {link : LinkConfig}
    {streamId : UInt64} {conn : ExternalConn} {relay : Relay} {s₁ : State} :
    s.data.hellos[i]? = some h →
    checkHello ctx s.data.stats h.tunnel.peer hello = .claim link streamId →
    s.reverse.pending streamId = some conn →
    relay = ⟨h.tunnel, hello, link.id, .external conn⟩ →
    s₁ = { s with data := { s.data with hellos := s.data.hellos.eraseIdx i } } →
    DataCase ctx s (.hello i (.received hello)) ((s₁.setPending streamId none).startRelay relay)
      [.claimed relay streamId conn, .relayStarted relay]
  | connectFailed {i : ℕ} {relay : Relay} {e : String} :
    s.data.connecting[i]? = some relay →
    DataCase ctx s (.connect i (.error e))
      { s with data := { s.data with connecting := s.data.connecting.eraseIdx i } }
      [.print (.dataConnection relay.tunnel.tcp.peerAddr e)]
  | connected {i : ℕ} {relay : Relay} {s₁ : State} :
    s.data.connecting[i]? = some relay →
    s₁ = { s with data := { s.data with connecting := s.data.connecting.eraseIdx i } } →
    DataCase ctx s (.connect i (.ok ())) (s₁.startRelay relay) [.relayStarted relay]
  | relayEnded {i : ℕ} {relay : Relay} {result : Except String (UInt64 × UInt64)} :
    s.data.relays[i]? = some relay →
    DataCase ctx s (.relayEnd i result)
      { s with
        data := { s.data with
          relays := s.data.relays.eraseIdx i
          stats := Function.update s.data.stats relay.linkId
            ((s.data.stats relay.linkId).map fun st => st.relayEnd result) } }
      [.relayEnded relay result, .print (relayLine relay.linkId result)]

theorem handleDataConnection_cases {a : DataAction}
    (h : handleDataConnection ctx s a = some (s', es)) : DataCase ctx s a s' es := by
  unfold handleDataConnection at h
  split at h
  case h_1 i outcome =>
    split at h
    · cases h
    · rename_i tunnel deadline hi
      simp only at h
      split at h
      · split at h
        · rename_i hdue
          cases h
          exact .helloTimedOut hi hdue
        · cases h
      · cases h
        exact .helloFailed hi
      · rename_i hello
        split at h
        · rename_i e he
          cases h
          exact .refused hi he
        · rename_i hpanic
          cases h
          exact .panicked hi hpanic
        · rename_i link target hdial
          cases h
          exact .dialed hi hdial rfl
        · rename_i link streamId hclaim
          split at h
          · rename_i hnone
            cases h
            exact .unknown hi hclaim hnone
          · rename_i conn hconn
            cases h
            exact .claimed hi hclaim hconn rfl rfl
  case h_2 i result =>
    split at h
    · cases h
    · rename_i relay hi
      simp only at h
      split at h
      · cases h
        exact .connectFailed hi
      · cases h
        exact .connected hi rfl
  case h_3 i result =>
    split at h
    · cases h
    · rename_i relay hi
      cases h
      exact .relayEnded hi

/-! ## All steps -/

/-- The cases of a step, by group. -/
inductive StepCase (ctx : Context) (s : State) : Action → State → List Event → Prop
  | tick {now : Instant} : s.clock ≤ now → StepCase ctx s (.tick now) { s with clock := now } []
  | listener {i : ℕ} {a : ListenerAction} {s' : State} {es : List Event} :
    ListenerCase s i a s' es → StepCase ctx s (.listener i a) s' es
  | cleanup {i : ℕ} {s' : State} {es : List Event} :
    CleanupCase s i s' es → StepCase ctx s (.cleanup i) s' es
  | accept {channel : Channel} {a : AcceptAction} {s' : State} {es : List Event} :
    AcceptCase s channel a s' es → StepCase ctx s (.accept channel a) s' es
  | handshake {channel : Channel} {i : ℕ} {outcome : HandshakeOutcome} {s' : State}
    {es : List Event} :
    HandshakeCase ctx s channel i outcome s' es →
    StepCase ctx s (.handshake channel i outcome) s' es
  | control {a : ControlAction} {s' : State} {es : List Event} :
    ControlCase s a s' es → StepCase ctx s (.control a) s' es
  | data {a : DataAction} {s' : State} {es : List Event} :
    DataCase ctx s a s' es → StepCase ctx s (.data a) s' es

theorem step_cases {a : Action} (h : step ctx s a = some (s', es)) : StepCase ctx s a s' es := by
  match a with
  | .tick now =>
    simp only [step] at h
    split at h
    · rename_i hle
      cases h
      exact .tick hle
    · cases h
  | .listener i a => exact .listener (spawnReverseListener_cases h)
  | .cleanup i => exact .cleanup (cleanup_cases h)
  | .accept .control a => exact .accept (acceptLoop_cases h)
  | .accept .data a => exact .accept (acceptLoop_cases h)
  | .handshake channel i outcome => exact .handshake (endHandshake_cases h)
  | .control a => exact .control (runControlSession_cases h)
  | .data a => exact .data (handleDataConnection_cases h)

end Ghostport.Server
