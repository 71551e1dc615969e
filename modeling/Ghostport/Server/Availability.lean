import Mathlib.Tactic.Linarith
import Ghostport.Lib.Progress
import Ghostport.Server.Access
import Ghostport.Server.Limits

/-!
# A data connection can always be served

Handshakes, hellos and attempts of others may be in the server's way, but not for long: a
handshake ends at its deadline, and an attempt is forgotten after `WINDOW`.

Results:
* `deadlineInv_run`: no handshake lasts longer than `HANDSHAKE_TIMEOUT`.
* `rests`: wherever the data channel accepts connections, the limiter refuses nobody after
  `WINDOW` has passed and the handshakes have timed out.
* `canReach_relay`: a peer that connects then is relayed to the target of its link, whatever
  the server has been through.
-/

namespace Ghostport.Server

open Ghostport.Core Ghostport.Net Ghostport.Lib

variable {ctx : Context} {s s' : State} {es : List Event}

/-! ## Deadlines -/

/-- A handshake ends within `HANDSHAKE_TIMEOUT`. -/
def State.DeadlineInv (s : State) : Prop :=
  ∀ channel, ∀ h ∈ (s.acceptor channel).handshakes, h.deadline ≤ s.clock + handshakeTimeout

namespace State.DeadlineInv

theorem frame (h : s.DeadlineInv) (hclock : s.clock ≤ s'.clock)
    (hhandshakes : ∀ channel, (s'.acceptor channel).handshakes ⊆ (s.acceptor channel).handshakes) :
    s'.DeadlineInv := by
  intro channel hs hmem
  have hle := h channel hs (hhandshakes channel hmem)
  exact hle.trans (add_le_add_left hclock handshakeTimeout)

theorem setPhase (h : s.DeadlineInv) (channel : Channel) (phase : AcceptPhase) :
    (s.setPhase channel phase).DeadlineInv := by
  refine h.frame le_rfl fun ch => ?_
  by_cases hch : ch = channel
  · subst hch
    simp
  · simp [hch]

theorem setHandshakes (h : s.DeadlineInv) {channel : Channel} {handshakes : List Handshake}
    (hnew : ∀ hs ∈ handshakes, hs ∈ (s.acceptor channel).handshakes ∨
      hs.deadline ≤ s.clock + handshakeTimeout) :
    (s.setHandshakes channel handshakes).DeadlineInv := by
  intro ch hs hmem
  by_cases hch : ch = channel
  · subst hch
    rcases hnew hs (by simpa using hmem) with hold | hle
    · exact h ch hs hold
    · exact hle
  · exact h ch hs (by simpa [hch] using hmem)

theorem accept (h : s.DeadlineInv) {channel : Channel} {a : AcceptAction}
    (hc : AcceptCase s channel a s' es) : s'.DeadlineInv := by
  cases hc with
  | bindFailed _ | bound _ | noPermit _ _ => exact h.setPhase _ _
  | acceptFailed _ => exact h
  | refused _ hnow hnow' _ => exact h.frame (hnow.trans hnow') fun _ => List.Subset.refl _
  | @recorded tcp now now' l _ hnow hnow' _ =>
    have hlater : State.DeadlineInv { s with
        clock := now', limiter := l, attempts := s.attempts ++ [(tcp.peerAddr.ip, now')] } :=
      h.frame (hnow.trans hnow') fun _ => List.Subset.refl _
    exact hlater.setPhase channel _
  | @acquired tcp calledAt prior hs _ _ hhs =>
    have hspent : State.DeadlineInv
        { s with limiter := { s.limiter with concurrent := s.limiter.concurrent - 1 } } :=
      h.frame le_rfl fun _ => List.Subset.refl _
    refine (hspent.setPhase channel .accepting).setHandshakes fun hs' hmem => ?_
    rcases List.mem_append.mp hmem with hmem | hmem
    · exact .inl (by simpa using hmem)
    · rw [List.mem_singleton.mp hmem, hhs]
      exact .inr le_rfl

theorem handshake (h : s.DeadlineInv) {channel : Channel} {i : ℕ} {outcome : HandshakeOutcome}
    (hc : HandshakeCase ctx s channel i outcome s' es) : s'.DeadlineInv := by
  have ended : ∀ {s₁ : State}, s₁ = { s with limiter := s.limiter.dropPermit } →
      (s₁.setHandshakes channel ((s.acceptor channel).handshakes.eraseIdx i)).DeadlineInv := by
    rintro s₁ rfl
    refine setHandshakes (h.frame le_rfl fun _ => List.Subset.refl _) fun hs hmem => ?_
    exact .inl (List.mem_of_mem_eraseIdx hmem)
  cases hc with
  | timedOut _ _ hs | failed _ _ hs => exact ended hs
  | matched _ _ _ _ hs =>
    cases channel <;> exact (ended hs).frame le_rfl fun _ => List.Subset.refl _

theorem step (h : s.DeadlineInv) {a : Action} (hst : Server.step ctx s a = some (s', es)) :
    s'.DeadlineInv := by
  have same : s'.clock = s.clock → s'.acceptor = s.acceptor → s'.DeadlineInv := by
    intro hclock hacceptor
    refine h.frame hclock.ge fun _ => ?_
    rw [hacceptor]
    exact List.Subset.refl _
  cases step_cases hst with
  | tick hle => exact h.frame hle fun _ => List.Subset.refl _
  | listener hc => cases hc <;> (subst_vars; exact same rfl rfl)
  | cleanup hc => cases hc <;> (subst_vars; exact same rfl rfl)
  | accept hc => exact h.accept hc
  | handshake hc => exact h.handshake hc
  | control hc => cases hc <;> exact same rfl rfl
  | data hc => cases hc <;> (subst_vars; exact same rfl rfl)

end State.DeadlineInv

theorem deadlineInv_run {C : State → Action → Prop} {as : List Action} {tr : List Event}
    (h : ServerRun ctx C as s tr) : s.DeadlineInv := by
  refine h.invariant (I := fun s _ => s.DeadlineInv) ?_ fun _ _ _ _ _ hi _ hst => hi.step hst
  intro clock s₀ hstart channel hs hmem
  obtain ⟨-, -, -, -, -, -, -, -, -, hacceptor, -⟩ := start_spec hstart
  rw [(hacceptor channel).2] at hmem
  cases hmem

/-! ## Who takes part -/

/-- What happens by itself. -/
inductive Rests : Action → Prop
  | tick {now : Instant} : Rests (.tick now)
  | timedOut {channel : Channel} {i : ℕ} : Rests (.handshake channel i .timedOut)
  | acquire : Rests (.accept .data .acquire)

/-- What happens by itself, and what the connection of `tunnel` does: it connects, its handshake
    completes, it sends `hello`, and the target that it is for accepts. -/
inductive Unaided (tunnel : NoiseStream) (hello : StreamHello) (s : State) : Action → Prop
  | tick {now : Instant} : Unaided tunnel hello s (.tick now)
  | timedOut {channel : Channel} {i : ℕ} : Unaided tunnel hello s (.handshake channel i .timedOut)
  | acquire : Unaided tunnel hello s (.accept .data .acquire)
  | accept {now now' : Instant} :
    Unaided tunnel hello s (.accept .data (.accept (.ok tunnel.tcp) now now'))
  | handshake {i : ℕ} {deadline : Instant} {incoming : Incoming} :
    (s.acceptor .data).handshakes[i]? = some ⟨tunnel.tcp, deadline⟩ →
    Unaided tunnel hello s (.handshake .data i (.received incoming (.ok ())))
  | hello {i : ℕ} {deadline : Instant} : s.data.hellos[i]? = some ⟨tunnel, deadline⟩ →
    Unaided tunnel hello s (.data (.hello i (.received hello)))
  | connect {i : ℕ} {relay : Relay} : s.data.connecting[i]? = some relay →
    relay.tunnel = tunnel → Unaided tunnel hello s (.data (.connect i (.ok ())))

variable {tunnel : NoiseStream} {hello : StreamHello}

/-- The data channel is bound: its loop accepts a connection, or asks for the permit of one. -/
def State.Accepts (s : State) : Prop :=
  (s.acceptor .data).phase ≠ .binding ∧ (s.acceptor .data).phase ≠ .returned

theorem Rests.unaided {a : Action} (h : Rests a) : Unaided tunnel hello s a := by
  cases h with
  | tick => exact .tick
  | timedOut => exact .timedOut
  | acquire => exact .acquire

/-! ## Rest -/

/-- What stays as it is while no connection comes in. -/
structure Kept (s t : State) : Prop where
  data : t.data = s.data
  reverse : t.reverse = s.reverse
  openStream : t.openStream = s.openStream
  control : t.control = s.control
  receiver : t.receiverAlive ↔ s.receiverAlive

theorem Kept.refl (s : State) : Kept s s := ⟨rfl, rfl, rfl, rfl, .rfl⟩

theorem Kept.trans {t u : State} (h : Kept s t) (h' : Kept t u) : Kept s u where
  data := h'.data.trans h.data
  reverse := h'.reverse.trans h.reverse
  openStream := h'.openStream.trans h.openStream
  control := h'.control.trans h.control
  receiver := h'.receiver.trans h.receiver

/-- `t` is `s` after a while in which no connection came in, and the data channel accepts. -/
structure Waited (s t : State) : Prop extends Kept s t where
  accepting : (t.acceptor .data).phase = .accepting
  attempts : t.attempts = s.attempts
  limits : LimitInv t
  deadlines : t.DeadlineInv

/-- The call that asks for a permit returns. -/
theorem acquire_step (ctx : Context) {tcp : TcpStream} {calledAt : Instant} {prior : AttemptLog}
    (hphase : (s.acceptor .data).phase = .acquiring tcp calledAt prior) :
    ∃ s' es, step ctx s (.accept .data .acquire) = some (s', es) ∧ Kept s s' ∧
      (s'.acceptor .data).phase = .accepting ∧ s'.clock = s.clock ∧ s'.attempts = s.attempts ∧
      (s.limiter.concurrent ≠ 0 → (s'.acceptor .data).handshakes =
        (s.acceptor .data).handshakes ++ [⟨tcp, s.clock + handshakeTimeout⟩]) := by
  simp only [step, runDataAcceptLoop, acceptLoop, hphase, HandshakeLimiter.tryAcquireOwned]
  by_cases hfree : s.limiter.concurrent = 0
  · simp only [hfree, if_true]
    refine ⟨_, _, rfl, ⟨rfl, rfl, rfl, rfl, ?_⟩, by simp, rfl, rfl, by simp⟩
    simp [State.receiverAlive]
  · simp only [hfree, if_false]
    refine ⟨_, _, rfl, ⟨rfl, rfl, rfl, rfl, ?_⟩, by simp, rfl, rfl, by simp⟩
    simp [State.receiverAlive]

/-- A connection that waits for its permit gets it or is rejected. -/
theorem accepts_again (hlimits : LimitInv s) (hdeadlines : s.DeadlineInv) (haccepts : s.Accepts) :
    CanReach (step ctx) (fun _ => Rests) s fun t _ => Waited s t ∧ t.clock = s.clock := by
  cases hphase : (s.acceptor .data).phase with
  | binding => exact absurd hphase haccepts.1
  | returned => exact absurd hphase haccepts.2
  | accepting => exact .now ⟨⟨.refl s, hphase, rfl, hlimits, hdeadlines⟩, rfl⟩
  | acquiring other calledAt prior =>
    obtain ⟨s', es, hst, hkept, haccepting, hclock, hattempts, -⟩ := acquire_step ctx hphase
    exact .next .acquire hst
      (.now ⟨⟨hkept, haccepting, hattempts, hlimits.step hst, hdeadlines.step hst⟩, hclock⟩)

/-- `WINDOW` passes. -/
theorem waits {t : State} (h : Waited s t) :
    CanReach (step ctx) (fun _ => Rests) t fun u _ => Waited s u ∧
      u.clock = t.clock + window + 1 ∧
      ∀ channel, ∀ hs ∈ (u.acceptor channel).handshakes, hs.deadline ≤ u.clock := by
  have hlater : t.clock + handshakeTimeout ≤ t.clock + window + 1 := by
    have hshort : handshakeTimeout ≤ window + 1 := by decide
    linarith
  have hle : t.clock ≤ t.clock + window + 1 := (le_add_of_nonneg_right (by decide)).trans hlater
  have hst : step ctx t (.tick (t.clock + window + 1)) =
      some ({ t with clock := t.clock + window + 1 }, []) := if_pos hle
  have hkept : Kept s { t with clock := t.clock + window + 1 } :=
    h.toKept.trans ⟨rfl, rfl, rfl, rfl, .rfl⟩
  refine .next .tick hst (.now ⟨⟨hkept, h.accepting, h.attempts, h.limits.step hst,
    h.deadlines.step hst⟩, rfl, fun channel hs hmem => ?_⟩)
  exact (h.deadlines channel hs hmem).trans hlater

/-- A handshake times out. -/
theorem timeout_step (ctx : Context) {channel : Channel} {hs : Handshake} {rest : List Handshake}
    (hhandshakes : (s.acceptor channel).handshakes = hs :: rest) (hdue : hs.deadline ≤ s.clock) :
    ∃ s' es, step ctx s (.handshake channel 0 .timedOut) = some (s', es) ∧
      s' = { s with limiter := s.limiter.dropPermit }.setHandshakes channel rest := by
  simp only [step, endHandshake, hhandshakes]
  exact ⟨_, _, if_pos hdue, rfl⟩

/-- All handshakes that have reached their deadlines time out. -/
theorem drains {t : State} (h : Waited s t)
    (hdue : ∀ channel, ∀ hs ∈ (t.acceptor channel).handshakes, hs.deadline ≤ t.clock) :
    CanReach (step ctx) (fun _ => Rests) t fun u _ =>
      (Waited s u ∧ u.clock = t.clock ∧
        ∀ channel, ∀ hs ∈ (u.acceptor channel).handshakes, hs.deadline ≤ u.clock) ∧
      u.inFlight = 0 := by
  refine CanReach.drain (m := State.inFlight) ?_ ⟨h, rfl, hdue⟩
  rintro u ⟨hu, hclock, hdue⟩ hbusy
  obtain ⟨channel, hs, rest, hhandshakes⟩ : ∃ channel hs rest,
      (u.acceptor channel).handshakes = hs :: rest := by
    by_contra hnone
    have hempty : ∀ channel, (u.acceptor channel).handshakes = [] := by
      intro channel
      cases hlist : (u.acceptor channel).handshakes with
      | nil => rfl
      | cons hs rest => exact absurd ⟨channel, hs, rest, hlist⟩ hnone
    exact hbusy (by simp [State.inFlight, hempty])
  obtain ⟨u', es, hst, rfl⟩ := timeout_step ctx hhandshakes
    (hdue channel hs (by simp [hhandshakes]))
  have hlength := LimitInv.inFlight_setHandshakes { u with limiter := u.limiter.dropPermit }
    channel rest
  have hkept : Kept s ({ u with limiter := u.limiter.dropPermit }.setHandshakes channel rest) := by
    refine hu.toKept.trans ⟨rfl, rfl, rfl, rfl, ?_⟩
    cases channel <;> simp [State.receiverAlive]
  refine ⟨_, _, _, .timedOut, hst, ⟨⟨hkept, ?_, hu.attempts, hu.limits.step hst,
    hu.deadlines.step hst⟩, hclock, fun ch hs' hmem => ?_⟩, ?_⟩
  · cases channel <;> simpa using hu.accepting
  · by_cases hch : ch = channel
    · subst hch
      exact hdue ch hs' (by simpa [hhandshakes] using Or.inr (by simpa using hmem))
    · exact hdue ch hs' (by simpa [hch] using hmem)
  · change _ + (u.acceptor channel).handshakes.length = u.inFlight + rest.length at hlength
    rw [hhandshakes, List.length_cons] at hlength
    omega

/-- The data channel accepts, no handshake is in flight, and no attempt is remembered. -/
structure AtRest (t : State) : Prop where
  accepting : (t.acceptor .data).phase = .accepting
  limits : LimitInv t
  inFlight : t.inFlight = 0
  forgotten : ∀ ip, t.attempts.recent ip t.clock = 0

/-- A server at rest stays at rest while only streams, signals and sessions move. -/
theorem AtRest.frame {t : State} (h : AtRest s) (hclock : t.clock = s.clock)
    (hlimiter : t.limiter = s.limiter) (hattempts : t.attempts = s.attempts)
    (hacceptor : t.acceptor = s.acceptor) : AtRest t where
  accepting := by rw [hacceptor]; exact h.accepting
  limits := h.limits.frame hlimiter hattempts hclock hacceptor
  inFlight := by rw [State.inFlight, hacceptor]; exact h.inFlight
  forgotten := by rw [hattempts, hclock]; exact h.forgotten

/-- Wherever the data channel is bound, it comes to rest. -/
theorem rests (hlimits : LimitInv s) (hdeadlines : s.DeadlineInv) (haccepts : s.Accepts) :
    CanReach (step ctx) (fun _ => Rests) s fun t _ =>
      Kept s t ∧ AtRest t ∧ t.clock = s.clock + window + 1 := by
  refine (accepts_again hlimits hdeadlines haccepts).bind fun t _ ⟨ht, htclock⟩ => ?_
  refine (waits ht).bind fun u _ ⟨hu, huclock, hdue⟩ => ?_
  refine (drains hu hdue).mono fun v _ ⟨⟨hv, hvclock, _⟩, hnone⟩ => ?_
  have hclock : v.clock = s.clock + window + 1 := by rw [hvclock, huclock, htclock]
  refine ⟨hv.toKept, ⟨hv.accepting, hv.limits, hnone, fun ip => ?_⟩, hclock⟩
  have hold : ∀ time ∈ v.attempts.of ip, ¬ v.clock - window ≤ time := by
    intro time hmem hle
    rw [hv.attempts] at hmem
    have hbefore := hlimits.tracks.le_clock ip time hmem
    rw [hclock] at hle
    linarith
  rw [AttemptLog.recent, since, List.filter_eq_nil_iff.mpr (by simpa using hold)]
  rfl

/-! ## Service -/

/-- A connection comes in that is not refused. -/
theorem accept_step (ctx : Context) {t : State} (h : AtRest t) (tcp : TcpStream) :
    ∃ u, step ctx t (.accept .data (.accept (.ok tcp) t.clock t.clock)) = some (u, []) ∧
      Kept t u ∧ (u.acceptor .data).phase = .acquiring tcp t.clock t.attempts ∧
      (u.acceptor .data).handshakes = [] ∧ u.limiter.concurrent ≠ 0 ∧ u.clock = t.clock := by
  have hpasses : (t.limiter.recordAttempt tcp.peerAddr.ip t.clock t.clock).1 = true := by
    rw [h.limits.tracks.passes_iff le_rfl, h.forgotten]
    decide
  obtain ⟨l, hrecorded⟩ : ∃ l, t.limiter.recordAttempt tcp.peerAddr.ip t.clock t.clock =
      (true, l) := ⟨_, Prod.ext hpasses rfl⟩
  have hconcurrent : l.concurrent = t.limiter.concurrent := by
    rw [← HandshakeLimiter.concurrent_recordAttempt t.limiter tcp.peerAddr.ip t.clock t.clock,
      hrecorded]
  have hpermits := h.limits.permits
  have hflight := h.inFlight
  have hst : step ctx t (.accept .data (.accept (.ok tcp) t.clock t.clock)) =
      some ({ t with
        limiter := l, attempts := t.attempts ++ [(tcp.peerAddr.ip, t.clock)] }.setPhase .data
          (.acquiring tcp t.clock t.attempts), []) := by
    simp only [step, runDataAcceptLoop, acceptLoop, h.accepting, hrecorded]
    exact if_pos ⟨le_rfl, le_rfl⟩
  have hnone : (t.acceptor .data).handshakes = [] := by
    rw [← List.length_eq_zero_iff]
    unfold State.inFlight at hflight
    omega
  refine ⟨_, hst, ⟨rfl, rfl, rfl, rfl, ?_⟩, by simp, by simpa using hnone, ?_, rfl⟩
  · simp [State.receiverAlive]
  · show l.concurrent ≠ 0
    unfold maxConcurrentHandshakes at hpermits
    omega

/-- The handshake of a peer succeeds. -/
theorem handshake_step {incoming : Incoming} {i : ℕ} {state : ctx.snow.HandshakeState}
    {deadline : Instant} (hmatch : matchPeer ctx.snow incoming ctx.privateKey ctx.peers =
      .ok (i, state)) (hpeer : ctx.peers[i]? = some tunnel.peer)
    (hhandshake : (s.acceptor .data).handshakes[0]? = some ⟨tunnel.tcp, deadline⟩) :
    ∃ s' es, step ctx s (.handshake .data 0 (.received incoming (.ok ()))) = some (s', es) ∧
      s'.data = { s.data with
        hellos := s.data.hellos ++ [⟨tunnel, s.clock + streamHelloTimeout⟩] } ∧
      s'.reverse = s.reverse ∧ s'.clock = s.clock := by
  have hfuture : handshakeFuture ctx incoming (.ok ()) = .ok i := by
    rw [handshakeFuture, hmatch]
    rfl
  simp only [step, endHandshake, hhandshake, hfuture, hpeer]
  exact ⟨_, _, rfl, rfl, rfl, rfl⟩

/-- A peer that connects to a server at rest gets to the point where its hello is awaited. -/
theorem connects {t : State} (h : AtRest t) {incoming : Incoming} {i : ℕ}
    {state : ctx.snow.HandshakeState}
    (hmatch : matchPeer ctx.snow incoming ctx.privateKey ctx.peers = .ok (i, state))
    (hpeer : ctx.peers[i]? = some tunnel.peer) :
    CanReach (step ctx) (Unaided tunnel hello) t fun u _ =>
      u.data = { t.data with
        hellos := t.data.hellos ++ [⟨tunnel, t.clock + streamHelloTimeout⟩] } ∧
      u.reverse = t.reverse ∧ u.clock = t.clock := by
  obtain ⟨t₁, hst₁, hkept₁, hphase, hnone, hfree, hclock₁⟩ := accept_step ctx h tunnel.tcp
  obtain ⟨t₂, es₂, hst₂, hkept₂, -, hclock₂, -, hhandshakes⟩ := acquire_step ctx hphase
  have hhandshake : (t₂.acceptor .data).handshakes[0]? =
      some ⟨tunnel.tcp, t₁.clock + handshakeTimeout⟩ := by
    rw [hhandshakes hfree, hnone]
    rfl
  obtain ⟨t₃, es₃, hst₃, hdata, hreverse, hclock₃⟩ := handshake_step hmatch hpeer hhandshake
  have hkept := hkept₁.trans hkept₂
  refine .next .accept hst₁ (.next .acquire hst₂ (.next (.handshake hhandshake) hst₃ (.now ?_)))
  refine ⟨?_, hreverse.trans hkept.reverse, ?_⟩
  · rw [hdata, hkept.data, hclock₂, hclock₁]
  · rw [hclock₃, hclock₂, hclock₁]

/-- The hello of the last tunnel names a forward link, whose target accepts. -/
theorem dial_steps {link : LinkConfig} {target : String} {hellos : List AwaitingHello}
    {deadline : Instant} (hhellos : s.data.hellos = hellos ++ [⟨tunnel, deadline⟩])
    (hcheck : checkHello ctx s.data.stats tunnel.peer hello = .dial link target) :
    CanReach (step ctx) (Unaided tunnel hello) s fun t tr =>
      .relayStarted ⟨tunnel, hello, link.id, .target target⟩ ∈ tr ∧ t.clock = s.clock := by
  have hlast : s.data.hellos[hellos.length]? = some ⟨tunnel, deadline⟩ := by simp [hhellos]
  obtain ⟨t, hst, hconnecting, hclock⟩ : ∃ t,
      step ctx s (.data (.hello hellos.length (.received hello))) =
        some (t, [.dialed ⟨tunnel, hello, link.id, .target target⟩]) ∧
      t.data.connecting = s.data.connecting ++ [⟨tunnel, hello, link.id, .target target⟩] ∧
      t.clock = s.clock := by
    simp only [step, handleDataConnection, hlast, hcheck]
    exact ⟨_, rfl, rfl, rfl⟩
  have hrelay : t.data.connecting[s.data.connecting.length]? =
      some ⟨tunnel, hello, link.id, .target target⟩ := by simp [hconnecting]
  obtain ⟨u, hst', hclock'⟩ : ∃ u,
      step ctx t (.data (.connect s.data.connecting.length (.ok ()))) =
        some (u, [.relayStarted ⟨tunnel, hello, link.id, .target target⟩]) ∧
      u.clock = t.clock := by
    simp only [step, handleDataConnection, hrelay]
    exact ⟨_, rfl, rfl⟩
  refine .next (.hello hlast) hst (.next (.connect hrelay rfl) hst' (.now ⟨?_, ?_⟩))
  · simp
  · rw [hclock', hclock]

/-- Whatever the server has been through: where its data channel is bound, a peer that connects
    is relayed to the target of its link, once `WINDOW` has passed. -/
theorem canReach_relay (tunnel : NoiseStream) {C : State → Action → Prop} {as : List Action}
    {tr : List Event} (hrun : ServerRun ctx C as s tr) (haccepts : s.Accepts)
    {incoming : Incoming} {i : ℕ} {state : ctx.snow.HandshakeState}
    (hmatch : matchPeer ctx.snow incoming ctx.privateKey ctx.peers = .ok (i, state))
    (hpeer : ctx.peers[i]? = some tunnel.peer) {link : LinkConfig} {target : String}
    (hcheck : checkHello ctx s.data.stats tunnel.peer hello = .dial link target) :
    CanReach (step ctx) (Unaided tunnel hello) s fun t tr =>
      .relayStarted ⟨tunnel, hello, link.id, .target target⟩ ∈ tr ∧
        t.clock = s.clock + window + 1 := by
  have hrests : CanReach (step ctx) (fun _ => Rests) s fun t _ =>
      Kept s t ∧ AtRest t ∧ t.clock = s.clock + window + 1 :=
    rests (limitInv_run hrun) (deadlineInv_run hrun) haccepts
  refine (hrests.weaken fun _ _ => Rests.unaided).bind fun t _ ⟨hkept, ht, htclock⟩ => ?_
  refine (connects ht hmatch hpeer).bind fun u _ ⟨hdata, _, huclock⟩ => ?_
  have hstats : u.data.stats = s.data.stats := by rw [hdata, hkept.data]
  have hhellos : u.data.hellos = t.data.hellos ++ [⟨tunnel, t.clock + streamHelloTimeout⟩] := by
    rw [hdata]
  refine (dial_steps hhellos (hstats ▸ hcheck)).mono fun v _ ⟨hrelay, hvclock⟩ => ⟨?_, ?_⟩
  · exact List.mem_append_right _ (List.mem_append_right _ hrelay)
  · rw [hvclock, huclock, htclock]

end Ghostport.Server
