import Ghostport.Server.Delivery

/-!
# Pending streams and their timers

A listener puts a connection into the pending map, waits for room in the signal queue, and
then starts the timer that removes the connection. The signal may wait in the queue longer
than that.

Results:
* `pendingInv_run`: every entry of the pending map has a timer, or its listener is still
  waiting to send its signal.
* `pending_timed`: while the queue has room for the listeners, entries have timers whenever
  all listeners wait.
* `fullQueue_untimed`: a run in which an entry waits for a client.
* `knownInv_run`, `written_known`: what a signal that is written refers to.
* `staleSignal_written`: a run in which it refers to nothing.
-/

namespace Ghostport.Server

open Ghostport.Core Ghostport.Net Ghostport.Lib

/-- The listener sends its signal. -/
def ListenerPhase.sends : ListenerPhase → Bool
  | .sending _ _ => true
  | _ => false

/-! ## The timers of pending streams -/

/-- The cleanup timer of `streamId` is running. -/
def State.HasTimer (s : State) (streamId : UInt64) : Prop :=
  ∃ timer ∈ s.reverse.timers, timer.streamId = streamId ∧
    timer.deadline ≤ s.clock + cleanupTimeout

/-- Every entry of the pending map has a running timer. -/
def State.Timed (s : State) : Prop :=
  ∀ streamId conn, s.reverse.pending streamId = some conn → s.HasTimer streamId

/-- No listener can go on by itself: those that send a signal have no room for it. -/
def State.Waiting (s : State) : Prop :=
  ∀ l ∈ s.reverse.listeners, l.phase.sends = true →
    s.receiverAlive ∧ openStreamCapacity ≤ s.openStream.length

/-- A listener that begins to send finds room in the queue, and one that takes the last place
    leaves no other that sends. -/
def HasRoom (s : State) : Action → Prop
  | .listener _ .insert => s.receiverAlive → s.openStream.length < openStreamCapacity
  | .listener i .send =>
    s.receiverAlive → ((s.reverse.listeners.eraseIdx i).any fun l => l.phase.sends) = true →
      s.openStream.length + 1 < openStreamCapacity
  | _ => True

instance (s : State) (a : Action) : Decidable (HasRoom s a) :=
  match a with
  | .listener _ .insert => inferInstanceAs (Decidable (_ → _))
  | .listener _ .send => inferInstanceAs (Decidable (_ → _ → _))
  | .listener _ (.bind _) | .listener _ (.accept _) | .tick _ | .cleanup _ | .accept _ _
  | .handshake _ _ _ | .control _ | .data _ => .isTrue trivial

/-- Every entry has a timer, or its listener sends its signal. -/
def State.PendingInv (s : State) : Prop :=
  ∀ streamId conn, s.reverse.pending streamId = some conn → s.HasTimer streamId ∨
    ∃ l ∈ s.reverse.listeners, ∃ peerAddr, l.phase = .sending streamId peerAddr

/-- As long as a listener sends, the queue has room. -/
def State.RoomInv (s : State) : Prop :=
  s.receiverAlive → (∃ l ∈ s.reverse.listeners, l.phase.sends = true) →
    s.openStream.length < openStreamCapacity

section Steps

variable {ctx : Context} {s s' : State} {es : List Event}

/-- Time passes, and timers are added. -/
theorem State.HasTimer.mono {streamId : UInt64} (h : s.HasTimer streamId)
    (hclock : s.clock ≤ s'.clock) (htimers : s.reverse.timers ⊆ s'.reverse.timers) :
    s'.HasTimer streamId := by
  obtain ⟨timer, hmem, hid, hdeadline⟩ := h
  exact ⟨timer, htimers hmem, hid, hdeadline.trans (Int.add_le_add_right hclock _)⟩

/-- Entries are removed, and nothing else happens to the listeners and their timers. -/
theorem State.PendingInv.mono (h : s.PendingInv)
    (hpending : ∀ streamId conn, s'.reverse.pending streamId = some conn →
      s.reverse.pending streamId = some conn)
    (hlisteners : s'.reverse.listeners = s.reverse.listeners)
    (htimers : s'.reverse.timers = s.reverse.timers) (hclock : s.clock ≤ s'.clock) :
    s'.PendingInv := by
  intro streamId conn hconn
  rw [hlisteners]
  rcases h streamId conn (hpending streamId conn hconn) with htimer | hsends
  · exact .inl (htimer.mono hclock (by rw [htimers]; exact List.Subset.refl _))
  · exact .inr hsends

theorem pending_of_removed {pending : UInt64 → Option ExternalConn} {removed streamId : UInt64}
    {conn : ExternalConn} (h : Function.update pending removed none streamId = some conn) :
    streamId ≠ removed ∧ pending streamId = some conn := by
  by_cases hid : streamId = removed
  · rw [hid, Function.update_self] at h
    cases h
  · rw [Function.update_of_ne hid] at h
    exact ⟨hid, h⟩

/-- Another listener than the one at `i` still sends after it has moved. -/
theorem sends_set {listeners : List ReverseListener} {i : ℕ} {l l' x : ReverseListener}
    (hl : listeners[i]? = some l) (hx : x ∈ listeners) (hne : x ≠ l) : x ∈ listeners.set i l' := by
  obtain ⟨j, hj⟩ := List.mem_iff_getElem?.mp hx
  by_cases hij : i = j
  · subst hij
    rw [hl] at hj
    exact absurd (Option.some.inj hj).symm hne
  · exact List.mem_of_getElem? (by rw [List.getElem?_set_ne hij, hj])

/-- A listener that does not send moves. -/
theorem State.PendingInv.moved (h : s.PendingInv) {i : ℕ} {l l' : ReverseListener}
    (hl : s.reverse.listeners[i]? = some l) (hsends : l.phase.sends = false)
    (hpending : s'.reverse.pending = s.reverse.pending)
    (hlisteners : s'.reverse.listeners = s.reverse.listeners.set i l')
    (htimers : s'.reverse.timers = s.reverse.timers) (hclock : s'.clock = s.clock) :
    s'.PendingInv := by
  intro streamId conn hconn
  rw [hpending] at hconn
  rcases h streamId conn hconn with htimer | ⟨x, hx, peerAddr, hphase⟩
  · exact .inl (htimer.mono hclock.ge (by rw [htimers]; exact List.Subset.refl _))
  · refine .inr ⟨x, ?_, peerAddr, hphase⟩
    rw [hlisteners]
    refine sends_set hl hx ?_
    rintro rfl
    rw [hphase] at hsends
    cases hsends

theorem State.PendingInv.listener (h : s.PendingInv) {i : ℕ} {a : ListenerAction}
    (hc : ListenerCase s i a s' es) : s'.PendingInv := by
  cases hc with
  | bindFailed hl | bound hl => exact h.moved hl rfl rfl rfl rfl rfl
  | acceptFailed _ => exact h
  | accepted hl _ hs₁ =>
    subst hs₁
    exact h.moved hl rfl rfl rfl rfl rfl
  | @inserted linkId listenAddr id conn hl =>
    intro streamId conn' hconn
    by_cases hid : streamId = id
    · -- the new entry: its listener is about to send
      subst hid
      refine .inr ⟨_, List.mem_set ?_ _, conn.peerAddr, rfl⟩
      exact (List.getElem?_eq_some_iff.mp hl).1
    · have hold : s.reverse.pending streamId = some conn' := by
        simpa [Function.update_of_ne hid] using hconn
      rcases h streamId conn' hold with htimer | ⟨x, hx, peerAddr, hphase⟩
      · exact .inl (htimer.mono le_rfl (List.Subset.refl _))
      · refine .inr ⟨x, sends_set hl hx ?_, peerAddr, hphase⟩
        rintro rfl
        cases hphase
  | @signalled linkId listenAddr id peerAddr s₁ hl _ _ hs₁ =>
    subst hs₁
    intro streamId conn hconn
    by_cases hid : streamId = id
    · -- the timer starts
      exact .inl ⟨⟨id, linkId, s.clock + cleanupTimeout⟩, by simp, hid.symm, le_rfl⟩
    · rcases h streamId conn hconn with htimer | ⟨x, hx, peerAddr', hphase⟩
      · exact .inl (htimer.mono le_rfl (List.subset_append_left _ _))
      · refine .inr ⟨x, sends_set hl hx ?_, peerAddr', hphase⟩
        rintro rfl
        cases hphase
        exact hid rfl
  | @dropped linkId listenAddr id peerAddr conn hl _ _
  | @gone linkId listenAddr id peerAddr hl _ _ =>
    intro streamId conn' hconn
    obtain ⟨hid, hold⟩ := pending_of_removed hconn
    rcases h streamId conn' hold with htimer | ⟨x, hx, peerAddr', hphase⟩
    · exact .inl (htimer.mono le_rfl (List.Subset.refl _))
    · refine .inr ⟨x, sends_set hl hx ?_, peerAddr', hphase⟩
      rintro rfl
      cases hphase
      exact hid rfl

/-- A timer that fires removes the entry that it is for. -/
theorem State.PendingInv.cleanup (h : s.PendingInv) {i : ℕ} (hc : CleanupCase s i s' es) :
    s'.PendingInv := by
  cases hc with
  | @timedOut timer _ s₁ htimer _ _ hs₁ | @gone timer s₁ htimer _ _ hs₁ =>
    subst hs₁
    intro streamId conn hconn
    obtain ⟨hid, hold⟩ := pending_of_removed hconn
    refine (h streamId conn hold).imp_left fun ⟨t, ht, htid, hdeadline⟩ => ⟨t, ?_, htid, hdeadline⟩
    -- the timer of this entry is another one
    obtain ⟨j, hj⟩ := List.mem_iff_getElem?.mp ht
    refine List.mem_eraseIdx_iff_getElem?.mpr ⟨j, ?_, hj⟩
    rintro rfl
    rw [htimer] at hj
    cases hj
    exact hid htid.symm

theorem State.PendingInv.step (h : s.PendingInv) {a : Action}
    (hst : Server.step ctx s a = some (s', es)) : s'.PendingInv := by
  cases step_cases hst with
  | tick hle => exact h.mono (fun _ _ hconn => hconn) rfl rfl hle
  | listener hc => exact h.listener hc
  | cleanup hc => exact h.cleanup hc
  | accept hc =>
    cases hc with
    | refused _ hle hle' _ | recorded _ hle hle' _ =>
      exact h.mono (fun _ _ hconn => hconn) rfl rfl (hle.trans hle')
    | _ => exact h.mono (fun _ _ hconn => hconn) rfl rfl le_rfl
  | @handshake channel _ _ _ _ hc =>
    cases channel <;> cases hc <;>
      (subst_vars; exact h.mono (fun _ _ hconn => hconn) rfl rfl le_rfl)
  | control hc => cases hc <;> exact h.mono (fun _ _ hconn => hconn) rfl rfl le_rfl
  | data hc =>
    cases hc with
    | claimed _ _ _ _ hs₁ =>
      subst hs₁
      exact h.mono (fun _ _ hconn => (pending_of_removed hconn).2) rfl rfl le_rfl
    | connected _ hs₁ =>
      subst hs₁
      exact h.mono (fun _ _ hconn => hconn) rfl rfl le_rfl
    | _ => exact h.mono (fun _ _ hconn => hconn) rfl rfl le_rfl

/-- A listener that has moved does not send, or is the only one that may. -/
theorem any_eraseIdx {listeners : List ReverseListener} {i : ℕ} {l' x : ReverseListener}
    (hx : x ∈ listeners.set i l') (hsends : x.phase.sends = true) :
    x = l' ∨ ((listeners.eraseIdx i).any fun l => l.phase.sends) = true := by
  obtain ⟨j, hj⟩ := List.mem_iff_getElem?.mp hx
  by_cases hij : i = j
  · subst hij
    rw [List.getElem?_set_self'] at hj
    obtain ⟨_, _, rfl⟩ := Option.map_eq_some_iff.mp hj
    exact .inl rfl
  · rw [List.getElem?_set_ne hij] at hj
    refine .inr (List.any_eq_true.mpr ⟨x, ?_, hsends⟩)
    exact List.mem_eraseIdx_iff_getElem?.mpr ⟨j, Ne.symm hij, hj⟩

theorem State.RoomInv.mono (h : s.RoomInv) (halive : s'.receiverAlive → s.receiverAlive)
    (hlisteners : ∀ l ∈ s'.reverse.listeners, l.phase.sends = true → l ∈ s.reverse.listeners)
    (hqueue : s'.openStream.length ≤ s.openStream.length) : s'.RoomInv := by
  rintro halive' ⟨l, hl, hsends⟩
  exact hqueue.trans_lt (h (halive halive') ⟨l, hlisteners l hl hsends, hsends⟩)

/-- A listener moves to a phase in which it does not send. -/
theorem sends_of_set {listeners : List ReverseListener} {i : ℕ} {l' : ReverseListener}
    (hl' : l'.phase.sends = false) :
    ∀ l ∈ listeners.set i l', l.phase.sends = true → l ∈ listeners := by
  intro l hl hsends
  rcases List.mem_or_eq_of_mem_set hl with hl | rfl
  · exact hl
  · rw [hl'] at hsends
    cases hsends

theorem State.RoomInv.listener (h : s.RoomInv) {i : ℕ} {a : ListenerAction}
    (hroom : HasRoom s (.listener i a)) (hc : ListenerCase s i a s' es) : s'.RoomInv := by
  cases hc with
  | bindFailed hl | bound hl | dropped hl _ _ | gone hl _ _ =>
    exact h.mono id (sends_of_set rfl) le_rfl
  | acceptFailed _ => exact h
  | accepted hl _ hs₁ =>
    subst hs₁
    exact h.mono id (sends_of_set rfl) le_rfl
  | inserted hl => exact fun halive _ => hroom halive
  | signalled hl halive _ hs₁ =>
    subst hs₁
    rintro - ⟨x, hx, hsends⟩
    rcases any_eraseIdx hx hsends with rfl | hany
    · cases hsends
    · rw [List.length_append]
      exact hroom halive hany

theorem State.RoomInv.step (h : s.RoomInv) {a : Action} (hroom : HasRoom s a)
    (hst : Server.step ctx s a = some (s', es)) : s'.RoomInv := by
  cases step_cases hst with
  | listener hc => exact h.listener hroom hc
  | tick _ => exact h.mono id (fun _ hl _ => hl) le_rfl
  | cleanup hc => cases hc <;> (subst_vars; exact h.mono id (fun _ hl _ => hl) le_rfl)
  | @accept channel _ _ _ hc =>
    refine h.mono ?_ ?_ ?_
    · cases channel <;> cases hc <;> simp_all [State.receiverAlive]
    · cases hc <;> exact fun _ hl _ => hl
    · cases hc <;> exact le_rfl
  | @handshake channel _ _ _ _ hc =>
    cases channel <;> cases hc <;>
      (subst_vars; exact h.mono (by simp [State.receiverAlive, State.handOver])
        (fun _ hl _ => hl) le_rfl)
  | control hc =>
    cases hc with
    | took _ hrest =>
      refine h.mono id (fun _ hl _ => hl) ?_
      rw [hrest]
      exact Nat.le_succ _
    | _ => exact h.mono id (fun _ hl _ => hl) le_rfl
  | data hc => cases hc <;> (subst_vars; exact h.mono id (fun _ hl _ => hl) le_rfl)

end Steps

section Runs

variable {ctx : Context} {C : State → Action → Prop} {as : List Action} {s : State}
  {tr : List Event}

theorem pendingInv_run (h : ServerRun ctx C as s tr) : s.PendingInv := by
  refine h.invariant (I := fun s _ => s.PendingInv) ?_ fun _ _ _ _ _ hi _ hst => hi.step hst
  intro clock s₀ hstart streamId conn hconn
  obtain ⟨-, -, -, -, hpending, -⟩ := start_spec hstart
  rw [hpending] at hconn
  cases hconn

theorem roomInv_run (h : ServerRun ctx HasRoom as s tr) : s.RoomInv := by
  refine h.invariant (I := fun s _ => s.RoomInv) ?_ fun _ _ _ _ _ hi hC hst => hi.step hC hst
  rintro clock s₀ hstart - -
  obtain ⟨-, -, -, -, -, -, -, -, hopen, -⟩ := start_spec hstart
  rw [hopen]
  decide

/-- While the listeners have room in the signal queue, every pending stream has a running
    timer in each state in which all listeners wait. -/
theorem pending_timed (h : ServerRun ctx HasRoom as s tr) (hwaiting : s.Waiting) : s.Timed := by
  intro streamId conn hconn
  rcases pendingInv_run h streamId conn hconn with htimer | ⟨l, hl, peerAddr, hphase⟩
  · exact htimer
  · -- a listener that waits while it sends finds the queue full
    have hsends : l.phase.sends = true := by rw [hphase]; rfl
    obtain ⟨halive, hfull⟩ := hwaiting l hl hsends
    exact absurd (roomInv_run h halive ⟨l, hl, hsends⟩) (Nat.not_lt.mpr hfull)

end Runs

/-- A connection to alice's link, which is signalled. -/
def signalOne : List Action :=
  [.listener 0 (.accept (.ok (.v4 ⟨203, 0, 113, 5⟩ 50000))), .listener 0 .insert,
    .listener 0 .send]

/-- More connections than the queue holds, and no client. -/
def fullQueue : List Action :=
  bindAll ++ (List.replicate 32 signalOne).flatten ++
    [.listener 0 (.accept (.ok (.v4 ⟨203, 0, 113, 5⟩ 50000))), .listener 0 .insert]

/-- The entry under `streamId` has no timer, and all listeners wait. -/
def State.Stuck (s : State) (streamId : UInt64) : Prop :=
  (s.reverse.listeners.all fun l => !l.phase.sends ||
    decide (s.receiverAlive ∧ openStreamCapacity ≤ s.openStream.length)) = true ∧
  (s.reverse.pending streamId).isSome = true ∧
    (s.reverse.timers.all fun timer => timer.streamId ≠ streamId) = true

instance (s : State) (streamId : UInt64) : Decidable (s.Stuck streamId) :=
  inferInstanceAs (Decidable (_ ∧ _ ∧ _))

theorem State.Stuck.not_timed {s : State} {streamId : UInt64} (h : s.Stuck streamId) :
    s.Waiting ∧ ¬ s.Timed := by
  obtain ⟨hall, hpending, htimers⟩ := h
  refine ⟨fun l hl hsends => ?_, fun htimed => ?_⟩
  · have hwaits := List.all_eq_true.mp hall l hl
    simpa [hsends] using hwaits
  · obtain ⟨conn, hconn⟩ := Option.isSome_iff_exists.mp hpending
    obtain ⟨timer, htimer, hid, -⟩ := htimed streamId conn hconn
    exact of_decide_eq_true (List.all_eq_true.mp htimers timer htimer) hid

theorem fullQueue_untimed :
    ∃ s tr, ServerRun exampleContext Free fullQueue s tr ∧ s.Waiting ∧ ¬ s.Timed := by
  obtain ⟨s, tr, hrun, hstuck⟩ : ∃ s tr, ServerRun exampleContext Free fullQueue s tr ∧
      s.Stuck 33 := exists_run_state 0 (by decide +kernel) (by decide +kernel)
  exact ⟨s, tr, hrun, hstuck.not_timed⟩

/-- Two connections wait for a client, with their timers. -/
theorem pending_timed_signalOne :
    ∃ s tr, ServerRun exampleContext HasRoom (bindAll ++ signalOne ++ signalOne) s tr ∧
      s.Timed := by
  obtain ⟨s, tr, hrun, hwaiting⟩ : ∃ s tr,
      ServerRun exampleContext HasRoom (bindAll ++ signalOne ++ signalOne) s tr ∧
        (s.reverse.listeners.all fun l => !l.phase.sends) = true :=
    exists_guarded_run_state 0 (by decide) (by decide)
  refine ⟨s, tr, hrun, pending_timed hrun fun l hl hsends => ?_⟩
  have hnot := List.all_eq_true.mp hwaiting l hl
  rw [hsends] at hnot
  cases hnot

/-! ## The streams that signals name -/

/-- `conn` has left the pending map, where it was under `streamId`: its cleanup timer fired, a
    data tunnel claimed it, or a later connection got the same id. -/
def LeftPending (tr : List Event) (streamId : UInt64) (conn : ExternalConn) : Prop :=
  (∃ timer, .timedOut timer streamId conn ∈ tr) ∨ (∃ relay, .claimed relay streamId conn ∈ tr) ∨
    ∃ conn', .inserted streamId conn' (some conn) ∈ tr

/-- `streamId` was given to a connection of the link `linkId`, which is pending under it or has
    left. -/
def Known (s : State) (tr : List Event) (linkId : String) (streamId : UInt64) : Prop :=
  ∃ conn, conn.listener = linkId ∧
    (s.reverse.pending streamId = some conn ∨ LeftPending tr streamId conn)

theorem LeftPending.mono {tr es : List Event} {streamId : UInt64} {conn : ExternalConn}
    (h : LeftPending tr streamId conn) : LeftPending (tr ++ es) streamId conn := by
  rcases h with ⟨timer, h⟩ | ⟨relay, h⟩ | ⟨conn', h⟩
  · exact .inl ⟨timer, List.mem_append_left _ h⟩
  · exact .inr (.inl ⟨relay, List.mem_append_left _ h⟩)
  · exact .inr (.inr ⟨conn', List.mem_append_left _ h⟩)

/-- As long as the queue has its receiver, the signals in it, the one being written and those
    that listeners still send name known streams. -/
structure KnownInv (ctx : Context) (s : State) (tr : List Event) : Prop where
  delivery : DeliveryInv ctx s tr
  inserting : ∀ l ∈ s.reverse.listeners, ∀ streamId conn, l.phase = .inserting streamId conn →
    conn.listener = l.linkId
  sending : s.receiverAlive → ∀ l ∈ s.reverse.listeners, ∀ streamId peerAddr,
    l.phase = .sending streamId peerAddr → Known s tr l.linkId streamId
  signals : s.receiverAlive → ∀ linkId streamId, .openStream linkId streamId ∈
    s.inHand ++ s.openStream → Known s tr linkId streamId

section Steps

variable {ctx : Context} {s s' : State} {tr es : List Event} {a : Action}

/-- Nothing leaves the pending map unseen, as long as the queue has its receiver. -/
theorem leftPending_of_step (halive : s.receiverAlive) (hst : step ctx s a = some (s', es))
    {streamId : UInt64} {conn : ExternalConn} (h : s.reverse.pending streamId = some conn) :
    s'.reverse.pending streamId = some conn ∨ LeftPending es streamId conn := by
  have removed : ∀ {id : UInt64}, streamId ≠ id →
      Function.update s.reverse.pending id none streamId = some conn := by
    intro id hid
    rw [Function.update_of_ne hid, h]
  cases step_cases hst with
  | tick _ => exact .inl h
  | listener hc =>
    cases hc with
    | bindFailed _ | bound _ | acceptFailed _ => exact .inl h
    | accepted _ _ hs₁ | signalled _ _ _ hs₁ =>
      subst hs₁
      exact .inl h
    | @inserted linkId listenAddr id conn' hl =>
      by_cases hid : streamId = id
      · subst hid
        refine .inr (.inr (.inr ⟨conn', ?_⟩))
        rw [h]
        exact List.mem_singleton_self _
      · refine .inl ?_
        simpa [Function.update_of_ne hid] using h
    | dropped _ hdead _ | gone _ hdead _ => exact absurd halive hdead
  | cleanup hc =>
    cases hc with
    | @timedOut timer conn' s₁ _ _ hconn hs₁ =>
      subst hs₁
      by_cases hid : streamId = timer.streamId
      · subst hid
        rw [h] at hconn
        cases hconn
        exact .inr (.inl ⟨timer, by simp⟩)
      · exact .inl (removed hid)
    | @gone timer s₁ _ _ hnone hs₁ =>
      subst hs₁
      refine .inl (removed ?_)
      rintro rfl
      rw [h] at hnone
      cases hnone
  | accept hc => cases hc <;> exact .inl h
  | @handshake channel _ _ _ _ hc =>
    cases channel <;> cases hc <;> (subst_vars; exact .inl h)
  | control hc => cases hc <;> exact .inl h
  | data hc =>
    cases hc with
    | @claimed i hello' hello link id conn' relay s₁ _ _ hconn _ hs₁ =>
      subst hs₁
      by_cases hid : streamId = id
      · subst hid
        rw [h] at hconn
        cases hconn
        exact .inr (.inr (.inl ⟨relay, by simp⟩))
      · exact .inl (removed hid)
    | connected _ hs₁ =>
      subst hs₁
      exact .inl h
    | _ => exact .inl h

theorem Known.step {linkId : String} {streamId : UInt64} (h : Known s tr linkId streamId)
    (halive : s.receiverAlive) (hst : Server.step ctx s a = some (s', es)) :
    Known s' (tr ++ es) linkId streamId := by
  obtain ⟨conn, hlistener, hpending | hleft⟩ := h
  · refine ⟨conn, hlistener, (leftPending_of_step halive hst hpending).imp_right fun hleft => ?_⟩
    rcases hleft with ⟨timer, h⟩ | ⟨relay, h⟩ | ⟨conn', h⟩
    · exact .inl ⟨timer, List.mem_append_right _ h⟩
    · exact .inr (.inl ⟨relay, List.mem_append_right _ h⟩)
    · exact .inr (.inr ⟨conn', List.mem_append_right _ h⟩)
  · exact ⟨conn, hlistener, .inr hleft.mono⟩

/-- How a listener gets to a phase in which it holds a stream. -/
theorem listener_of_step (hst : step ctx s a = some (s', es)) {l : ReverseListener}
    (hl : l ∈ s'.reverse.listeners) : l ∈ s.reverse.listeners ∨ l.phase = .returned ∨
      l.phase = .accepting ∨
      (∃ streamId conn, l.phase = .inserting streamId conn ∧ conn.listener = l.linkId) ∨
      ∃ streamId conn, l.phase = .sending streamId conn.peerAddr ∧
        s'.reverse.pending streamId = some conn ∧
        ⟨l.linkId, l.listenAddr, .inserting streamId conn⟩ ∈ s.reverse.listeners := by
  cases step_cases hst with
  | tick _ => exact .inl hl
  | listener hc =>
    cases hc with
    | bindFailed _ =>
      rcases List.mem_or_eq_of_mem_set hl with hl | rfl
      · exact .inl hl
      · exact .inr (.inl rfl)
    | bound _ | dropped _ _ _ | gone _ _ _ =>
      rcases List.mem_or_eq_of_mem_set hl with hl | rfl
      · exact .inl hl
      · exact .inr (.inr (.inl rfl))
    | acceptFailed _ => exact .inl hl
    | accepted _ hconn hs₁ =>
      subst hs₁
      rcases List.mem_or_eq_of_mem_set hl with hl | rfl
      · exact .inl hl
      · exact .inr (.inr (.inr (.inl ⟨_, _, rfl, by rw [hconn]⟩)))
    | inserted hi =>
      rcases List.mem_or_eq_of_mem_set hl with hl | rfl
      · exact .inl hl
      · refine .inr (.inr (.inr (.inr ⟨_, _, rfl, ?_, List.mem_of_getElem? hi⟩)))
        exact Function.update_self ..
    | signalled _ _ _ hs₁ =>
      subst hs₁
      rcases List.mem_or_eq_of_mem_set hl with hl | rfl
      · exact .inl hl
      · exact .inr (.inr (.inl rfl))
  | cleanup hc => cases hc <;> (subst_vars; exact .inl hl)
  | accept hc => cases hc <;> exact .inl hl
  | @handshake channel _ _ _ _ hc =>
    cases channel <;> cases hc <;> (subst_vars; exact .inl hl)
  | control hc => cases hc <;> exact .inl hl
  | data hc => cases hc <;> (subst_vars; exact .inl hl)

/-- A signal is queued by a listener that sends it. -/
theorem sending_of_signalled (hst : step ctx s a = some (s', es)) {linkId : String}
    {streamId : UInt64} (h : .signalled linkId streamId ∈ es) :
    ∃ l ∈ s.reverse.listeners, l.linkId = linkId ∧
      ∃ peerAddr, l.phase = .sending streamId peerAddr := by
  cases step_cases hst with
  | tick _ => simp at h
  | listener hc =>
    cases hc with
    | signalled hl _ _ _ =>
      simp only [List.mem_singleton, Event.signalled.injEq] at h
      exact ⟨_, List.mem_of_getElem? hl, h.1.symm, _, by rw [h.2]⟩
    | _ => simp at h
  | cleanup hc => cases hc <;> simp at h
  | accept hc => cases hc <;> simp at h
  | handshake hc => cases hc <;> simp at h
  | control hc => cases hc <;> simp [endSession] at h
  | data hc => cases hc <;> simp at h

namespace KnownInv

/-- A receiver that is there after a step was there before. -/
theorem receiverAlive_of_step (h : KnownInv ctx s tr) (hst : Server.step ctx s a = some (s', es))
    (halive : s'.receiverAlive) : s.receiverAlive := by
  cases h.delivery.signal hst with
  | quiet _ _ _ _ _ hiff _ | wrote _ _ _ _ hiff _ | writeFailed _ _ _ _ _ _ hiff _ =>
    exact hiff.mp halive
  | signalled halive _ _ _ _ _ | took halive _ _ _ _ _ _ _ | closed _ _ _ _ halive _ _ _ =>
    exact halive

theorem step (h : KnownInv ctx s tr) (hst : Server.step ctx s a = some (s', es)) :
    KnownInv ctx s' (tr ++ es) where
  delivery := h.delivery.step hst
  inserting l hl streamId conn hphase := by
    rcases listener_of_step hst hl with hold | hp | hp | ⟨id, conn', hp, hlistener⟩ |
      ⟨id, conn', hp, -⟩
    · exact h.inserting l hold streamId conn hphase
    · rw [hp] at hphase
      cases hphase
    · rw [hp] at hphase
      cases hphase
    · rw [hp] at hphase
      cases hphase
      exact hlistener
    · rw [hp] at hphase
      cases hphase
  sending halive' l hl streamId peerAddr hphase := by
    have halive := h.receiverAlive_of_step hst halive'
    rcases listener_of_step hst hl with hold | hp | hp | ⟨id, conn', hp, -⟩ |
      ⟨id, conn', hp, hpending, hbefore⟩
    · exact (h.sending halive l hold streamId peerAddr hphase).step halive hst
    · rw [hp] at hphase
      cases hphase
    · rw [hp] at hphase
      cases hphase
    · rw [hp] at hphase
      cases hphase
    · rw [hp] at hphase
      cases hphase
      exact ⟨conn', h.inserting _ hbefore _ _ rfl, .inl hpending⟩
  signals halive' linkId streamId hmem := by
    have halive := h.receiverAlive_of_step hst halive'
    -- the signals are those from before, or the one that is queued now
    have old : .openStream linkId streamId ∈ s.inHand ++ s.openStream →
        Known s' (tr ++ es) linkId streamId := fun hold =>
      (h.signals halive linkId streamId hold).step halive hst
    cases h.delivery.signal hst with
    | quiet _ _ _ hhand hqueue _ _ | closed _ _ _ hhand _ hqueue _ _ =>
      rw [hhand, hqueue] at hmem
      exact old hmem
    | signalled _ hes hhand hqueue _ _ =>
      rw [hhand, hqueue, ← List.append_assoc, List.mem_append, List.mem_singleton] at hmem
      rcases hmem with hmem | hnew
      · exact old hmem
      · cases hnew
        have hsignalled : .signalled linkId streamId ∈ es := by rw [hes]; simp
        obtain ⟨l, hl, rfl, peerAddr, hphase⟩ := sending_of_signalled hst hsignalled
        exact (h.sending halive l hl streamId peerAddr hphase).step halive hst
    | took _ hhand hqueue _ hhand' hqueue' _ _ =>
      rw [hhand', hqueue'] at hmem
      exact old (by rw [hhand, hqueue]; exact hmem)
    | wrote _ _ hhand' hqueue _ _ | writeFailed _ _ _ _ hhand' hqueue _ _ =>
      rw [hhand', hqueue] at hmem
      exact old (List.mem_append_right _ hmem)

end KnownInv

end Steps

section Runs

variable {ctx : Context} {C : State → Action → Prop} {as : List Action} {s s' : State}
  {tr es : List Event} {a : Action}

theorem knownInv_run (h : ServerRun ctx C as s tr) : KnownInv ctx s tr := by
  refine h.invariant (I := KnownInv ctx) ?_ fun _ _ _ _ _ hi _ hst => hi.step hst
  intro clock s₀ hstart
  have hdelivery : DeliveryInv ctx s₀ [] := deliveryInv_run (C := C) ⟨clock, s₀, hstart, .nil⟩
  obtain ⟨-, -, -, hls, -, -, -, -, hopen, -, hcontrol, -⟩ := start_spec hstart
  have hbinding := reverseListeners_binding hls
  refine ⟨hdelivery, fun l hl _ _ hphase => ?_, fun _ l hl _ _ hphase => ?_, ?_⟩
  · rw [hbinding l hl] at hphase
    cases hphase
  · rw [hbinding l hl] at hphase
    cases hphase
  · simp [State.inHand, hcontrol, hopen]

/-- Whenever a session begins to write a signal, or has written it, the signal's stream is
    pending, unless its cleanup timer has fired, a data tunnel has claimed it, or its id has
    been given to a later connection. -/
theorem written_known (h : ServerRun ctx Free as s tr) (hst : step ctx s a = some (s', es))
    {stream : NoiseStream} {linkId : String} {streamId : UInt64}
    (hwrite : .writing stream (.openStream linkId streamId) ∈ es ∨
      .wrote stream (.openStream linkId streamId) ∈ es) : Known s tr linkId streamId := by
  have hinv := knownInv_run h
  have hmem : .openStream linkId streamId ∈ takenIn es ∨
      .openStream linkId streamId ∈ writtenIn es :=
    hwrite.imp (fun hw => List.mem_filterMap.mpr ⟨_, hw, rfl⟩)
      (fun hw => List.mem_filterMap.mpr ⟨_, hw, rfl⟩)
  cases hinv.delivery.signal hst with
  | quiet _ htaken hwritten _ _ _ _ | writeFailed _ htaken hwritten _ _ _ _ _
  | closed _ htaken hwritten _ _ _ _ _ =>
    rw [htaken, hwritten] at hmem
    simp at hmem
  | signalled _ hes _ _ _ _ =>
    rw [hes] at hmem
    simp [takenIn, writtenIn] at hmem
  | @took stream' linkId' streamId' rest halive _ hqueue hes _ _ _ _ =>
    rw [hes] at hmem
    obtain ⟨rfl, rfl⟩ : linkId = linkId' ∧ streamId = streamId' := by
      simpa [takenIn, writtenIn] using hmem
    refine hinv.signals halive linkId streamId (List.mem_append_right _ ?_)
    rw [hqueue]
    exact List.mem_cons_self
  | @wrote stream' linkId' streamId' hhand hes _ _ _ _ =>
    rw [hes] at hmem
    obtain ⟨rfl, rfl⟩ : linkId = linkId' ∧ streamId = streamId' := by
      simpa [takenIn, writtenIn] using hmem
    have halive : s.receiverAlive := by
      unfold State.inHand at hhand
      split at hhand
      · rename_i hs
        exact hinv.delivery.bound.receiverAlive hs
      · cases hhand
    refine hinv.signals halive linkId streamId (List.mem_append_left _ ?_)
    rw [hhand]
    exact List.mem_singleton_self _

end Runs

/-- A connection to alice's link times out before bob's control session begins, which then
    takes its signal. -/
def staleSignal : List Action :=
  bindAll ++ signalOne ++ [.tick cleanupTimeout, .cleanup 0] ++
    connect .control ⟨.v4 ⟨198, 51, 100, 7⟩ 40000, .holder bobKey⟩ bobKey cleanupTimeout ++
    [.control (.handoff 0), .control (.recv 0)]

theorem staleSignal_written :
    ∃ s tr, ServerRun exampleContext Free staleSignal s tr ∧
      (step exampleContext s (.control .openStream)).map Prod.snd =
        some [.writing bobControl (.openStream "db" 1)] ∧
      s.reverse.pending 1 = none :=
  exists_run_state 0 (by decide) (by decide)

/-- The signal for a connection that is pending. -/
theorem written_known_foreignSignal :
    ∃ s tr, ServerRun exampleContext Free (foreignSignal.dropLast.dropLast) s tr ∧
      Known s tr "db" 1 := by
  obtain ⟨s, tr, hrun, hwriting⟩ : ∃ s tr,
      ServerRun exampleContext Free (foreignSignal.dropLast.dropLast) s tr ∧
        (step exampleContext s (.control .openStream)).map Prod.snd =
          some [.writing bobControl (.openStream "db" 1)] :=
    exists_run_state 0 (by decide) (by decide)
  obtain ⟨⟨s', es⟩, hst, hes⟩ := Option.map_eq_some_iff.mp hwriting
  have hwrite : .writing bobControl (.openStream "db" 1) ∈ es := by
    rw [show es = [.writing bobControl (.openStream "db" 1)] from hes]
    exact List.mem_singleton_self _
  exact ⟨s, tr, hrun, written_known hrun hst (.inl hwrite)⟩

end Ghostport.Server
