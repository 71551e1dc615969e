import Ghostport.Server.Cases

/-!
# The handshake limiter in the server

The two accept loops share one limiter. A permit lives as long as the handshake
task that holds it.

Results:
* `limitInv_run`: the limiter tracks the attempts of both loops, and its permits are
  exactly the handshakes in flight.
* `limiter_spec`: the limiter as a sliding window with a semaphore, over every
  sequence of calls, and the bound on the server's handshakes.
* `rejected_iff`: rejections are the fault of the rejected address exactly in the
  runs that never run out of permits.
-/

namespace Ghostport.Server

open Ghostport.Core Ghostport.Net Ghostport.Lib

/-- The handshakes in flight, on both listeners. -/
def State.inFlight (s : State) : ℕ :=
  (s.acceptor .control).handshakes.length + (s.acceptor .data).handshakes.length

/-- The limiter tracks the recorded attempts, its permits are the handshakes in
    flight, and a call that waits for a permit has passed the per-IP check. -/
structure LimitInv (s : State) : Prop where
  tracks : Tracks s.limiter s.clock s.attempts
  permits : s.limiter.concurrent + s.inFlight = maxConcurrentHandshakes
  passed : ∀ channel tcp calledAt prior,
    (s.acceptor channel).phase = .acquiring tcp calledAt prior →
      AttemptLog.recent prior tcp.peerAddr.ip calledAt < maxAttemptsPerWindow

namespace LimitInv

variable {ctx : Context} {s s' : State} {es : List Event}

theorem frame (h : LimitInv s) (hlimiter : s'.limiter = s.limiter)
    (hattempts : s'.attempts = s.attempts) (hclock : s'.clock = s.clock)
    (hacceptor : s'.acceptor = s.acceptor) : LimitInv s' where
  tracks := by rw [hlimiter, hattempts, hclock]; exact h.tracks
  permits := by rw [hlimiter, State.inFlight, hacceptor]; exact h.permits
  passed := by rw [hacceptor]; exact h.passed

theorem inFlight_setPhase (s : State) (channel : Channel) (phase : AcceptPhase) :
    (s.setPhase channel phase).inFlight = s.inFlight := by
  cases channel <;> simp [State.inFlight]

theorem inFlight_setHandshakes (s : State) (channel : Channel) (hs : List Handshake) :
    (s.setHandshakes channel hs).inFlight + (s.acceptor channel).handshakes.length =
      s.inFlight + hs.length := by
  cases channel <;> simp [State.inFlight] <;> omega

/-- A loop moves to a phase that waits for no permit. -/
theorem passed_setPhase (h : LimitInv s) {channel : Channel} {phase : AcceptPhase}
    (hphase : ∀ tcp calledAt prior, phase = .acquiring tcp calledAt prior →
      AttemptLog.recent prior tcp.peerAddr.ip calledAt < maxAttemptsPerWindow) :
    ∀ ch tcp calledAt prior,
      ((Function.update s.acceptor channel { s.acceptor channel with phase := phase }) ch).phase =
        .acquiring tcp calledAt prior →
      AttemptLog.recent prior tcp.peerAddr.ip calledAt < maxAttemptsPerWindow := by
  intro ch tcp calledAt prior hch
  rw [Function.update_apply] at hch
  split at hch
  · exact hphase tcp calledAt prior hch
  · exact h.passed ch tcp calledAt prior hch

theorem accept (h : LimitInv s) {channel : Channel} {a : AcceptAction}
    (hst : AcceptCase s channel a s' es) : LimitInv s' := by
  cases hst with
  | bindFailed _ | bound _ =>
    exact ⟨h.tracks, by rw [inFlight_setPhase]; exact h.permits, h.passed_setPhase (by simp)⟩
  | acceptFailed _ => exact h
  | @refused tcp now now' l _ hnow hnow' hr =>
    have ht := h.tracks.recordAttempt hnow hnow' tcp.peerAddr.ip
    rw [hr] at ht
    refine ⟨by simpa using ht, ?_, h.passed⟩
    rw [show l = (s.limiter.recordAttempt tcp.peerAddr.ip now now').2 by rw [hr]]
    exact h.permits
  | @recorded tcp now now' l _ hnow hnow' hr =>
    have ht := h.tracks.recordAttempt hnow hnow' tcp.peerAddr.ip
    have hroom : s.attempts.recent tcp.peerAddr.ip now < maxAttemptsPerWindow :=
      (h.tracks.passes_iff hnow tcp.peerAddr.ip now').mp (by rw [hr])
    rw [hr] at ht
    refine ⟨by simpa using ht, ?_, h.passed_setPhase ?_⟩
    · rw [inFlight_setPhase, State.setPhase,
        show l = (s.limiter.recordAttempt tcp.peerAddr.ip now now').2 by rw [hr]]
      exact h.permits
    · rintro tcp' calledAt prior heq
      cases heq
      exact hroom
  | noPermit _ _ =>
    exact ⟨h.tracks, by rw [inFlight_setPhase]; exact h.permits, h.passed_setPhase (by simp)⟩
  | @acquired tcp calledAt prior hs hphase hne hhs =>
    set s₁ : State := { s with
      limiter := { s.limiter with concurrent := s.limiter.concurrent - 1 } }.setPhase channel
        .accepting with hs₁
    have hflight : s₁.inFlight = s.inFlight := inFlight_setPhase _ channel .accepting
    have hlen : (s₁.acceptor channel).handshakes.length =
        (s.acceptor channel).handshakes.length := by simp [hs₁]
    have hsum := inFlight_setHandshakes s₁ channel ((s.acceptor channel).handshakes ++ [hs])
    refine ⟨h.tracks.congr fun _ => rfl, ?_, ?_⟩
    · have hpermits := h.permits
      change s.limiter.concurrent - 1 + _ = _
      rw [List.length_append, List.length_singleton, hlen, hflight] at hsum
      omega
    · intro ch tcp' calledAt' prior' hch
      by_cases heq : ch = channel
      · simp [hs₁, heq] at hch
      · exact h.passed ch tcp' calledAt' prior' (by simpa [hs₁, heq] using hch)

theorem handshake (h : LimitInv s) {channel : Channel} {i : ℕ} {outcome : HandshakeOutcome}
    (hst : HandshakeCase ctx s channel i outcome s' es) : LimitInv s' := by
  -- what the end of a handshake does, whatever its outcome
  have done : ∀ {hs : Handshake} {s₁ : State}, (s.acceptor channel).handshakes[i]? = some hs →
      s₁ = { s with limiter := s.limiter.dropPermit } →
      LimitInv (s₁.setHandshakes channel ((s.acceptor channel).handshakes.eraseIdx i)) := by
    rintro hs s₁ hi rfl
    have hlt : i < (s.acceptor channel).handshakes.length :=
      (List.getElem?_eq_some_iff.mp hi).1
    have hsum := inFlight_setHandshakes { s with limiter := s.limiter.dropPermit } channel
      ((s.acceptor channel).handshakes.eraseIdx i)
    rw [List.length_eraseIdx_of_lt hlt] at hsum
    refine ⟨h.tracks.dropPermit, ?_, ?_⟩
    · have hpermits := h.permits
      change s.limiter.concurrent + 1 + _ = _
      change _ + (s.acceptor channel).handshakes.length = s.inFlight + _ at hsum
      omega
    · intro ch tcp calledAt prior hch
      by_cases heq : ch = channel
      · subst heq
        exact h.passed ch tcp calledAt prior (by simpa using hch)
      · exact h.passed ch tcp calledAt prior (by simpa [heq] using hch)
  cases hst with
  | timedOut hi _ hs => exact done hi hs
  | failed hi _ hs => exact done hi hs
  | matched hi _ _ _ hs =>
    cases channel <;> exact (done hi hs).frame rfl rfl rfl rfl

theorem step (h : LimitInv s) {a : Action} (hst : Server.step ctx s a = some (s', es)) :
    LimitInv s' := by
  cases step_cases hst with
  | tick hle => exact ⟨h.tracks.later hle, h.permits, h.passed⟩
  | listener hc => cases hc <;> (subst_vars; exact h.frame rfl rfl rfl rfl)
  | cleanup hc => cases hc <;> (subst_vars; exact h.frame rfl rfl rfl rfl)
  | accept hc => exact h.accept hc
  | handshake hc => exact h.handshake hc
  | control hc => cases hc <;> exact h.frame rfl rfl rfl rfl
  | data hc => cases hc <;> (subst_vars; exact h.frame rfl rfl rfl rfl)

end LimitInv

variable {ctx : Context} {C : State → Action → Prop} {as : List Action} {s : State}
  {tr : List Event}

theorem limitInv_run (h : ServerRun ctx C as s tr) : LimitInv s := by
  refine h.invariant (I := fun s _ => LimitInv s) ?_ fun _ _ _ _ _ hi _ hst => hi.step hst
  intro clock s₀ hstart
  obtain ⟨hclock, hlimiter, hattempts, -, -, -, -, -, -, hacceptor, -⟩ := start_spec hstart
  refine ⟨?_, ?_, ?_⟩
  · rw [hclock, hlimiter, hattempts]
    exact Tracks.new clock
  · rw [hlimiter, State.inFlight, (hacceptor .control).2, (hacceptor .data).2]
    rfl
  · intro channel tcp calledAt prior hphase
    rw [(hacceptor channel).1] at hphase
    cases hphase

/-! ## The limiter as a sliding window -/

theorem tryAcquire_none_iff {l : HandshakeLimiter} {clock now : Instant} {log : AttemptLog}
    (h : Tracks l clock log) (hnow : clock ≤ now) (ip : IpAddr) (now' : Instant) :
    (l.tryAcquire ip now now').1 = none ↔
      maxAttemptsPerWindow ≤ log.recent ip now ∨ l.concurrent = 0 := by
  rw [← h.refuses_iff hnow ip now']
  have hconc : (l.recordAttempt ip now now').2.concurrent = l.concurrent := rfl
  unfold HandshakeLimiter.tryAcquire
  split
  · rename_i hr
    simp [hr]
  · rename_i l' hr
    rw [hr] at hconc ⊢
    simp only [HandshakeLimiter.tryAcquireOwned, ← hconc]
    split <;> simp_all

/-- Over every sequence of `try_acquire` calls and permit drops: (a) a closed
    interval of length `WINDOW` holds at most `MAX_ATTEMPTS_PER_WINDOW` recorded
    attempts of an address, and as many granted permits; (b) a call is refused
    exactly where that many recorded attempts are not older than its time minus
    `WINDOW`, or no permit is free; (c) the check depends on the calls of the address
    alone; (d) no permit is lost or made up, and the permits of the server are its
    handshakes in flight. -/
theorem limiter_spec {t₀ : Instant} {ls : LimiterState} {las : List LimiterAction}
    {ltr : List LimiterEvent} (hl : Run limiterStep Free (.start t₀) las ls ltr)
    (h : ServerRun ctx Free as s tr) :
    (∀ ip, Sparse window maxAttemptsPerWindow ((recordedIn ltr).of ip) ∧
      Sparse window maxAttemptsPerWindow (grantedIn ltr ip)) ∧
    (∀ ip now now', ls.clock ≤ now → now ≤ now' →
      ((ls.limiter.tryAcquire ip now now').1 = none ↔
        maxAttemptsPerWindow ≤ (recordedIn ltr).recent ip now ∨ ls.limiter.concurrent = 0)) ∧
    (∀ ip now now', (ls.limiter.recordAttempt ip now now').1 =
      (checkAttempts ((callsOf ip las).foldl (fun q c => (checkAttempts q c.1 c.2).2) [])
        now now').1) ∧
    ls.limiter.concurrent + ls.outstanding = maxConcurrentHandshakes ∧
    s.limiter.concurrent + s.inFlight = maxConcurrentHandshakes ∧
    s.inFlight ≤ maxConcurrentHandshakes := by
  have htracks := limiter_tracks hl
  have hpermits := (limitInv_run h).permits
  refine ⟨fun ip => ⟨htracks.sparse ip, ?_⟩, fun ip now now' hnow _ => ?_, fun ip now now' => ?_,
    limiter_conserves hl, hpermits, by omega⟩
  · exact (htracks.sparse ip).sublist (limiter_granted_sublist hl ip)
  · exact tryAcquire_none_iff htracks hnow ip now'
  · rw [← limiter_local hl ip]
    rfl

/-- One call that is granted, and a server with one handshake in flight. -/
theorem limiter_spec_one :
    ∃ s tr, ServerRun exampleContext Free
      (bindAll ++ [.accept .data (.accept (.ok ⟨.v4 ⟨192, 0, 2, 1⟩ 40000, .adversary⟩) 0 0),
        .accept .data .acquire]) s tr ∧
      s.inFlight ≤ maxConcurrentHandshakes := by
  have hl : Run limiterStep Free (.start 0) [.tryAcquire (.v4 ⟨192, 0, 2, 1⟩) 0 0] _ _ :=
    run_of_exec rfl
  obtain ⟨s, tr, hrun, -⟩ : ∃ s tr, ServerRun exampleContext Free
      (bindAll ++ [.accept .data (.accept (.ok ⟨.v4 ⟨192, 0, 2, 1⟩ 40000, .adversary⟩) 0 0),
        .accept .data .acquire]) s tr ∧ tr.length = 4 :=
    exists_run 0 (by decide) (by decide)
  exact ⟨s, tr, hrun, (limiter_spec hl hrun).2.2.2.2.2⟩

/-! ## Whose fault a rejection is -/

/-- Every rejected address had already made `MAX_ATTEMPTS_PER_WINDOW` recorded
    attempts within the last `WINDOW` when its connection called `try_acquire`. -/
def RejectedForAttempts (tr : List Event) : Prop :=
  ∀ channel tcp calledAt prior, .rejected channel tcp calledAt prior ∈ tr →
    maxAttemptsPerWindow ≤ AttemptLog.recent prior tcp.peerAddr.ip calledAt

/-- A loop that asks for a permit finds one free. -/
def PermitFree (s : State) (a : Action) : Prop :=
  ∀ channel, a = .accept channel .acquire → s.limiter.concurrent ≠ 0

theorem rejectedForAttempts_append {es : List Event} :
    RejectedForAttempts (tr ++ es) ↔ RejectedForAttempts tr ∧ RejectedForAttempts es := by
  simp only [RejectedForAttempts, List.mem_append, or_imp, forall_and]

theorem rejectedForAttempts_step {s' : State} {a : Action} {es : List Event} (hinv : LimitInv s)
    (hst : step ctx s a = some (s', es)) :
    RejectedForAttempts (tr ++ es) ↔ RejectedForAttempts tr ∧ PermitFree s a := by
  rw [rejectedForAttempts_append]
  refine and_congr_right fun _ => ?_
  have quiet : (∀ channel tcp calledAt prior, .rejected channel tcp calledAt prior ∉ es) →
      PermitFree s a → (RejectedForAttempts es ↔ PermitFree s a) :=
    fun hes hfree => ⟨fun _ => hfree, fun _ ch tcp t p hm => absurd hm (hes ch tcp t p)⟩
  have other : (∀ channel, a ≠ .accept channel .acquire) → PermitFree s a :=
    fun hne channel heq => absurd heq (hne channel)
  cases step_cases hst with
  | tick hle => exact quiet (by simp) (other (by simp))
  | listener hc => exact quiet (by cases hc <;> simp) (other (by simp))
  | cleanup hc => exact quiet (by cases hc <;> simp) (other (by simp))
  | handshake hc => exact quiet (by cases hc <;> simp) (other (by simp))
  | control hc => exact quiet (by cases hc <;> simp [endSession]) (other (by simp))
  | data hc => exact quiet (by cases hc <;> simp) (other (by simp))
  | @accept channel a s' es hc =>
    cases hc with
    | bindFailed _ => exact quiet (by simp) (other (by simp))
    | bound _ => exact quiet (by simp) (other (by simp))
    | acceptFailed _ => exact quiet (by simp) (other (by simp))
    | recorded _ _ _ _ => exact quiet (by simp) (other (by simp))
    | @refused tcp now now' l _ hnow hnow' hr =>
      refine ⟨fun _ => other (by simp), fun _ ch tcp' calledAt prior hm => ?_⟩
      cases List.mem_singleton.mp hm
      exact (hinv.tracks.refuses_iff hnow tcp.peerAddr.ip now').mp (by rw [hr])
    | @noPermit tcp calledAt prior hphase h0 =>
      constructor
      · intro hgood
        have hlt := hinv.passed channel tcp calledAt prior hphase
        have hle := hgood channel tcp calledAt prior (by simp)
        omega
      · exact fun hfree => absurd h0 (hfree channel rfl)
    | acquired hphase hne _ => exact quiet (by simp) fun _ _ => hne

/-- Rejections are the rejected address's own fault exactly in the runs in which no
    loop ever finds the permits exhausted. -/
theorem rejected_iff (h : ServerRun ctx Free as s tr) :
    RejectedForAttempts tr ↔ ServerRun ctx PermitFree as s tr :=
  h.exact (I := fun s _ => LimitInv s) limitInv_run (by simp [RejectedForAttempts])
    fun _ _ _ _ _ => rejectedForAttempts_step

/-- The `n`-th of many addresses, each with one connection. -/
def bystander (n : ℕ) : TcpStream := ⟨.v4 ⟨203, 0, 113, UInt8.ofNat n⟩ 40000, .adversary⟩

/-- Every permit is taken by a handshake of another address when alice connects for
    the first time. -/
def crowdedOut : List Action :=
  bindAll ++
    ((List.range maxConcurrentHandshakes).map fun n =>
      [.accept .data (.accept (.ok (bystander n)) 0 0), .accept .data .acquire]).flatten ++
    [.accept .control (.accept (.ok ⟨.v4 ⟨198, 51, 100, 6⟩ 40000, .holder aliceKey⟩) 0 0),
      .accept .control .acquire]

theorem crowdedOut_run :
    ∃ s tr, ServerRun exampleContext Free crowdedOut s tr ∧
      .rejected .control ⟨.v4 ⟨198, 51, 100, 6⟩ 40000, .holder aliceKey⟩ 0
        ((List.range maxConcurrentHandshakes).map fun n => ((bystander n).peerAddr.ip, 0)) ∈ tr :=
  exists_run 0 (by decide +kernel) (by decide +kernel)

theorem crowdedOut_rejected :
    ∃ s tr, ServerRun exampleContext Free crowdedOut s tr ∧ ¬ RejectedForAttempts tr := by
  obtain ⟨s, tr, hrun, hmem⟩ := crowdedOut_run
  refine ⟨s, tr, hrun, fun hgood => ?_⟩
  have hle := hgood _ _ _ _ hmem
  revert hle
  decide +kernel

theorem rejected_iff_crowdedOut :
    ∃ s tr, ServerRun exampleContext Free crowdedOut s tr ∧
      (RejectedForAttempts tr ↔ ServerRun exampleContext PermitFree crowdedOut s tr) := by
  obtain ⟨s, tr, hrun, -⟩ := crowdedOut_run
  exact ⟨s, tr, hrun, rejected_iff hrun⟩

end Ghostport.Server
