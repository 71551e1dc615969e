import Ghostport.Server.Signals

/-!
# What becomes of the reverse signals

The signal queue outlives the control sessions. A session takes a signal and writes it,
and may end in between.

Results:
* `deliveryInv_run`: what is written or being written is some of what was taken, in
  order, and there is no session before the control listener is bound.
* `signals_kept_iff`: when no signal is lost.
* `failedWrite_loses`: a run in which a failed write loses one.
-/

namespace Ghostport.Server

open Ghostport.Core Ghostport.Net Ghostport.Lib

/-- The signals that have been written completely. -/
def writtenIn (tr : List Event) : List ControlMessage :=
  tr.filterMap fun
    | .wrote _ (.openStream linkId streamId) => some (.openStream linkId streamId)
    | _ => none

theorem writtenIn_append (tr tr' : List Event) :
    writtenIn (tr ++ tr') = writtenIn tr ++ writtenIn tr' :=
  List.filterMap_append ..

/-- The signal that the session is writing. -/
def State.inHand (s : State) : List ControlMessage :=
  match s.control.session with
  | some ⟨_, .writing msg⟩ => [msg]
  | _ => []

/-- The signals in the queue. It is gone when its receiver is. -/
def State.queued (s : State) : List ControlMessage := if s.receiverAlive then s.openStream else []

/-- Every signal that was queued is still queued, being written, or written, in order. -/
def SignalsKept (s : State) (tr : List Event) : Prop :=
  signalledIn tr = writtenIn tr ++ s.inHand ++ s.queued

instance (s : State) (tr : List Event) : Decidable (SignalsKept s tr) :=
  inferInstanceAs (Decidable (_ = _))

/-- A write of a signal fails, or the receiver of the queue goes while there are signals in
    it. -/
def LosesSignal (s : State) : Action → Prop
  | .control (.sent (.error _)) => s.inHand ≠ []
  | .accept .control (.bind (.error _)) => s.openStream ≠ []
  | _ => False

/-! ## Invariants -/

/-- As long as the control listener is not bound, there are no control connections. -/
def State.ControlBound (s : State) : Prop :=
  (s.acceptor .control).phase = .binding ∨ (s.acceptor .control).phase = .returned →
    (s.acceptor .control).handshakes = [] ∧ s.control.handoffs = [] ∧
      s.control.authenticated = [] ∧ s.control.session = none

namespace State.ControlBound

variable {ctx : Context} {s s' : State} {es : List Event}

/-- A session has a receiver of the queue. -/
theorem receiverAlive (h : s.ControlBound) {session : ControlSession}
    (hs : s.control.session = some session) : s.receiverAlive := by
  intro hreturned
  have hnone := (h (.inr hreturned)).2.2.2
  rw [hs] at hnone
  cases hnone

theorem frame (h : s.ControlBound) (hacceptor : s'.acceptor .control = s.acceptor .control)
    (hcontrol : s'.control = s.control) : s'.ControlBound := by
  unfold ControlBound
  rw [hacceptor, hcontrol]
  exact h

theorem accept (h : s.ControlBound) {channel : Channel} {a : AcceptAction}
    (hc : AcceptCase s channel a s' es) : s'.ControlBound := by
  cases channel with
  | data => cases hc <;> exact h.frame (by simp) rfl
  | control =>
    cases hc with
    | bindFailed hp => exact fun _ => by simpa using h (.inl hp)
    | acceptFailed hp | refused hp _ _ _ =>
      refine fun hunbound => absurd hunbound ?_
      simp [hp]
    | bound _ | recorded _ _ _ _ | noPermit _ _ | acquired _ _ _ =>
      refine fun hunbound => absurd hunbound ?_
      simp

theorem handshake (h : s.ControlBound) {channel : Channel} {i : ℕ} {outcome : HandshakeOutcome}
    (hc : HandshakeCase ctx s channel i outcome s' es) : s'.ControlBound := by
  cases channel with
  | data => cases hc <;> (subst_vars; exact h.frame (by simp [State.handOver]) rfl)
  | control =>
    -- a handshake takes place, so the listener is bound
    have bound : ∀ {hs : Handshake}, (s.acceptor .control).handshakes[i]? = some hs →
        ¬ ((s.acceptor .control).phase = .binding ∨ (s.acceptor .control).phase = .returned) := by
      intro hs hi hunbound
      rw [(h hunbound).1] at hi
      simp at hi
    cases hc with
    | timedOut hi _ hs₁ | failed hi _ hs₁ | matched hi _ _ _ hs₁ =>
      subst hs₁
      refine fun hunbound => absurd ?_ (bound hi)
      simpa [State.handOver] using hunbound

theorem controlCase (h : s.ControlBound) {a : ControlAction} (hc : ControlCase s a s' es) :
    s'.ControlBound := by
  intro hunbound
  cases hc with
  | handedOff hi _ =>
    have hnone := (h hunbound).2.1
    rw [hnone] at hi
    simp at hi
  | connected _ hrest =>
    have hnone := (h hunbound).2.2.1
    rw [hnone] at hrest
    cases hrest
  | ignored _ _ => exact h hunbound
  | readFailed hs | writeFailed hs _ | ping hs | took hs _ | wrotePong hs | wrote hs =>
    have hnone := (h hunbound).2.2.2
    rw [hs] at hnone
    cases hnone

theorem step (h : s.ControlBound) {a : Action} (hst : Server.step ctx s a = some (s', es)) :
    s'.ControlBound := by
  cases step_cases hst with
  | tick _ => exact h
  | listener hc => cases hc <;> (subst_vars; exact h)
  | cleanup hc => cases hc <;> (subst_vars; exact h)
  | accept hc => exact h.accept hc
  | handshake hc => exact h.handshake hc
  | control hc => exact h.controlCase hc
  | data hc => cases hc <;> (subst_vars; exact h)

end State.ControlBound

structure DeliveryInv (ctx : Context) (s : State) (tr : List Event) : Prop where
  signals : SignalInv ctx s tr
  taken : (writtenIn tr ++ s.inHand).Sublist (takenIn tr)
  bound : s.ControlBound

/-- What a step does to the signals. -/
inductive SignalStep (s : State) (a : Action) (s' : State) (es : List Event) : Prop
  | quiet :
    signalledIn es = [] → takenIn es = [] → writtenIn es = [] → s'.inHand = s.inHand →
    s'.openStream = s.openStream → (s'.receiverAlive ↔ s.receiverAlive) → ¬ LosesSignal s a →
    SignalStep s a s' es
  | signalled {linkId : String} {streamId : UInt64} :
    s.receiverAlive → es = [.signalled linkId streamId] → s'.inHand = s.inHand →
    s'.openStream = s.openStream ++ [.openStream linkId streamId] → s'.receiverAlive →
    ¬ LosesSignal s a → SignalStep s a s' es
  | took {stream : NoiseStream} {linkId : String} {streamId : UInt64}
    {rest : List ControlMessage} :
    s.receiverAlive → s.inHand = [] → s.openStream = .openStream linkId streamId :: rest →
    es = [.writing stream (.openStream linkId streamId)] →
    s'.inHand = [.openStream linkId streamId] → s'.openStream = rest → s'.receiverAlive →
    ¬ LosesSignal s a → SignalStep s a s' es
  | wrote {stream : NoiseStream} {linkId : String} {streamId : UInt64} :
    s.inHand = [.openStream linkId streamId] → es = [.wrote stream (.openStream linkId streamId)] →
    s'.inHand = [] → s'.openStream = s.openStream → (s'.receiverAlive ↔ s.receiverAlive) →
    ¬ LosesSignal s a → SignalStep s a s' es
  | writeFailed :
    signalledIn es = [] → takenIn es = [] → writtenIn es = [] → s.inHand ≠ [] → s'.inHand = [] →
    s'.openStream = s.openStream → (s'.receiverAlive ↔ s.receiverAlive) → LosesSignal s a →
    SignalStep s a s' es
  | closed :
    signalledIn es = [] → takenIn es = [] → writtenIn es = [] → s'.inHand = s.inHand →
    s.receiverAlive → s'.openStream = s.openStream → ¬ s'.receiverAlive →
    (LosesSignal s a ↔ s.openStream ≠ []) → SignalStep s a s' es

namespace DeliveryInv

variable {ctx : Context} {s s' : State} {tr es : List Event}

theorem inHand_openStream (h : DeliveryInv ctx s tr) {msg : ControlMessage}
    (hmsg : msg ∈ s.inHand) : ∃ linkId streamId, msg = .openStream linkId streamId := by
  have hmem : msg ∈ takenIn tr := h.taken.subset (List.mem_append_right _ hmsg)
  obtain ⟨e, -, he⟩ := List.mem_filterMap.mp hmem
  split at he
  · exact ⟨_, _, (Option.some.inj he).symm⟩
  · cases he

theorem openStream_head (h : DeliveryInv ctx s tr) {msg : ControlMessage}
    {rest : List ControlMessage} (hrest : s.openStream = msg :: rest) :
    ∃ linkId streamId, msg = .openStream linkId streamId := by
  have hmem : msg ∈ signalledIn tr := by simp [h.signals.queue, hrest]
  obtain ⟨e, -, he⟩ := List.mem_filterMap.mp hmem
  split at he
  · exact ⟨_, _, (Option.some.inj he).symm⟩
  · cases he

theorem signal_control (h : DeliveryInv ctx s tr) {a : ControlAction}
    (hc : ControlCase s a s' es) : SignalStep s (.control a) s' es := by
  cases hc with
  | handedOff _ _ | ignored _ _ => exact .quiet rfl rfl rfl rfl rfl .rfl (by simp [LosesSignal])
  | connected hs _ =>
    exact .quiet rfl rfl rfl (by simp [State.inHand, hs]) rfl .rfl (by simp [LosesSignal])
  | ping hs =>
    exact .quiet rfl rfl rfl (by simp [State.inHand, hs]) rfl .rfl (by simp [LosesSignal])
  | readFailed hs =>
    exact .quiet rfl rfl rfl (by simp [State.inHand, hs, endSession]) rfl .rfl
      (by simp [LosesSignal])
  | @took stream msg rest hs hrest =>
    obtain ⟨linkId, streamId, rfl⟩ := h.openStream_head hrest
    have halive := h.bound.receiverAlive hs
    exact .took halive (by simp [State.inHand, hs]) hrest rfl rfl rfl halive
      (by simp [LosesSignal])
  | wrotePong hs =>
    exact .quiet rfl rfl rfl (by simp [State.inHand, hs]) rfl .rfl (by simp [LosesSignal])
  | @wrote stream msg hs =>
    have hhand : s.inHand = [msg] := by simp [State.inHand, hs]
    obtain ⟨linkId, streamId, rfl⟩ := h.inHand_openStream (show msg ∈ s.inHand by simp [hhand])
    exact .wrote hhand rfl rfl rfl .rfl (by simp [LosesSignal])
  | @writeFailed stream phase e hs hphase =>
    by_cases hhand : s.inHand = []
    · exact .quiet rfl rfl rfl (by rw [hhand]; rfl) rfl .rfl (by simp [LosesSignal, hhand])
    · exact .writeFailed rfl rfl rfl hhand rfl rfl .rfl hhand

theorem signal (h : DeliveryInv ctx s tr) {a : Action}
    (hst : Server.step ctx s a = some (s', es)) : SignalStep s a s' es := by
  cases step_cases hst with
  | tick _ => exact .quiet rfl rfl rfl rfl rfl .rfl (by simp [LosesSignal])
  | @listener i a _ _ hc =>
    cases hc with
    | signalled hl halive _ hs₁ =>
      subst hs₁
      exact .signalled halive rfl rfl rfl halive (by simp [LosesSignal])
    | accepted _ _ hs₁ =>
      subst hs₁
      exact .quiet rfl rfl rfl rfl rfl .rfl (by simp [LosesSignal])
    | bindFailed _ | bound _ | acceptFailed _ | inserted _ | dropped _ _ _ | gone _ _ _ =>
      exact .quiet rfl rfl rfl rfl rfl .rfl (by simp [LosesSignal])
  | cleanup hc =>
    cases hc <;> (subst_vars; exact .quiet rfl rfl rfl rfl rfl .rfl (by simp [LosesSignal]))
  | @accept channel a _ _ hc =>
    cases hc with
    | @bindFailed e hp =>
      cases channel with
      | control =>
        refine .closed rfl rfl rfl rfl ?_ rfl ?_ .rfl
        · simp [State.receiverAlive, hp]
        · simp [State.receiverAlive]
      | data =>
        refine .quiet rfl rfl rfl rfl rfl ?_ (by simp [LosesSignal])
        simp [State.receiverAlive]
    | bound hp | acceptFailed hp | refused hp _ _ _ | recorded hp _ _ _ | noPermit hp _
    | acquired hp _ _ =>
      refine .quiet rfl rfl rfl rfl rfl ?_ ?_
      · cases channel <;> simp [State.receiverAlive, hp]
      · cases channel <;> simp [LosesSignal]
  | @handshake channel _ _ _ _ hc =>
    cases hc <;> (subst_vars; cases channel) <;>
      exact .quiet rfl rfl rfl rfl rfl (by simp [State.receiverAlive, State.handOver])
        (by simp [LosesSignal])
  | control hc => exact h.signal_control hc
  | data hc =>
    cases hc <;> (subst_vars; exact .quiet rfl rfl rfl rfl rfl .rfl (by simp [LosesSignal]))

theorem taken_step (h : DeliveryInv ctx s tr) {a : Action}
    (hsig : SignalStep s a s' es) :
    (writtenIn (tr ++ es) ++ s'.inHand).Sublist (takenIn (tr ++ es)) := by
  rw [writtenIn_append, takenIn_append]
  cases hsig with
  | quiet _ htaken hwritten hhand _ _ _ | closed _ htaken hwritten hhand _ _ _ _ =>
    rw [htaken, hwritten, hhand, List.append_nil, List.append_nil]
    exact h.taken
  | signalled _ hes hhand _ _ _ =>
    rw [hes, hhand]
    simpa [writtenIn, takenIn] using h.taken
  | @took _ linkId streamId _ _ hhand _ hes hhand' _ _ _ =>
    have htaken := h.taken
    rw [hhand, List.append_nil] at htaken
    have hone := htaken.append_right [.openStream linkId streamId]
    rw [hes, hhand']
    simpa [writtenIn, takenIn] using hone
  | wrote hhand hes hhand' _ _ _ =>
    have htaken := h.taken
    rw [hhand] at htaken
    rw [hes, hhand']
    simpa [writtenIn, takenIn] using htaken
  | writeFailed _ htaken hwritten _ hhand' _ _ _ =>
    rw [htaken, hwritten, hhand', List.append_nil, List.append_nil, List.append_nil]
    exact (List.sublist_append_left _ _).trans h.taken

theorem step (h : DeliveryInv ctx s tr) {a : Action}
    (hst : Server.step ctx s a = some (s', es)) : DeliveryInv ctx s' (tr ++ es) :=
  ⟨h.signals.step hst, h.taken_step (h.signal hst), h.bound.step hst⟩

end DeliveryInv

variable {ctx : Context} {C : State → Action → Prop} {as : List Action} {s : State}
  {tr : List Event}

theorem deliveryInv_run (h : ServerRun ctx C as s tr) : DeliveryInv ctx s tr := by
  refine h.invariant (I := DeliveryInv ctx) ?_ fun _ _ _ _ _ hi _ hst => hi.step hst
  intro clock s₀ hstart
  have hsignals : SignalInv ctx s₀ [] := signalInv_run (C := C) ⟨clock, s₀, hstart, .nil⟩
  obtain ⟨-, -, -, -, -, -, -, -, -, hacceptor, hcontrol, -⟩ := start_spec hstart
  refine ⟨hsignals, by simp [State.inHand, hcontrol, writtenIn, takenIn], fun _ => ?_⟩
  rw [hcontrol]
  exact ⟨(hacceptor .control).2, rfl, rfl, rfl⟩

/-! ## When no signal is lost -/

/-- What is not kept is lost for good: then there are fewer signals than were queued. -/
theorem DeliveryInv.length_le (h : DeliveryInv ctx s tr) :
    (writtenIn tr ++ s.inHand).length + s.openStream.length ≤ (signalledIn tr).length := by
  have htaken := h.taken.length_le
  rw [h.signals.queue, @List.length_append _ (takenIn tr)]
  omega

theorem kept_step {s' : State} {a : Action} {es : List Event} (h : DeliveryInv ctx s tr)
    (hst : step ctx s a = some (s', es)) :
    SignalsKept s' (tr ++ es) ↔ SignalsKept s tr ∧ ¬ LosesSignal s a := by
  have hlength := h.length_le
  unfold SignalsKept
  rw [signalledIn_append, writtenIn_append]
  cases h.signal hst with
  | quiet hsignalled _ hwritten hhand hqueue halive hkeeps =>
    have hqueued : s'.queued = s.queued := by simp [State.queued, hqueue, halive]
    rw [hsignalled, hwritten, hhand, hqueued, List.append_nil, List.append_nil]
    exact ⟨fun hkept => ⟨hkept, hkeeps⟩, And.left⟩
  | @signalled linkId streamId halive hes hhand hqueue halive' hkeeps =>
    have hqueued : s'.queued = s.queued ++ [.openStream linkId streamId] := by
      rw [State.queued, State.queued, if_pos halive, if_pos halive', hqueue]
    rw [hes, hhand, hqueued]
    simp [signalledIn, writtenIn, ← List.append_assoc, hkeeps]
  | took halive hhand hqueue hes hhand' hqueue' halive' hkeeps =>
    rw [State.queued, State.queued, if_pos halive, if_pos halive', hes, hhand, hhand', hqueue,
      hqueue']
    simp [signalledIn, writtenIn, hkeeps]
  | wrote hhand hes hhand' hqueue halive hkeeps =>
    have hqueued : s'.queued = s.queued := by simp [State.queued, hqueue, halive]
    rw [hes, hhand, hhand', hqueued]
    simp [signalledIn, writtenIn, hkeeps]
  | writeFailed hsignalled _ hwritten hhand hhand' hqueue halive hloses =>
    refine iff_of_false (fun hkept => ?_) fun hkept => hkept.2 hloses
    have hkept := congrArg List.length hkept
    have hqueued : s'.queued.length ≤ s.openStream.length := by
      unfold State.queued
      split
      · rw [hqueue]
      · exact Nat.zero_le _
    have hpos : 0 < s.inHand.length := List.length_pos_iff.mpr hhand
    simp only [hsignalled, hwritten, hhand', List.append_nil, List.length_append] at hkept hlength
    omega
  | closed hsignalled _ hwritten hhand halive _ halive' hloses =>
    rw [State.queued, State.queued, if_pos halive, if_neg halive', hsignalled, hwritten, hhand,
      List.append_nil, List.append_nil, List.append_nil, hloses, not_not]
    constructor
    · intro hkept
      rw [hkept] at hlength
      have hnil : s.openStream = [] := List.eq_nil_of_length_eq_zero (by omega)
      exact ⟨by rw [hnil, List.append_nil, hkept], hnil⟩
    · rintro ⟨hkept, hnil⟩
      rw [hkept, hnil, List.append_nil]

/-- In a state of a run, every signal that was queued is still queued, being written, or
    written to one session, in order, if and only if no step so far lost one. -/
theorem signals_kept_iff (h : ServerRun ctx Free as s tr) :
    SignalsKept s tr ↔ ServerRun ctx (fun s a => ¬ LosesSignal s a) as s tr := by
  refine h.exact_state (I := DeliveryInv ctx) deliveryInv_run ?_
    fun _ _ _ _ _ hi hst => kept_step hi hst
  intro clock s₀ hstart
  obtain ⟨-, -, -, -, -, -, -, -, hopen, -, hcontrol, -⟩ := start_spec hstart
  simp [SignalsKept, State.inHand, State.queued, hopen, hcontrol, signalledIn, writtenIn]

/-- Bob's control session takes the signal for a connection to alice's link, and ends when it
    writes it. -/
def failedWrite : List Action :=
  bindAll ++ connect .control ⟨.v4 ⟨198, 51, 100, 7⟩ 40000, .holder bobKey⟩ bobKey 0 ++
    [.control (.handoff 0), .control (.recv 0),
      .listener 0 (.accept (.ok (.v4 ⟨203, 0, 113, 5⟩ 50000))), .listener 0 .insert,
      .listener 0 .send, .control .openStream, .control (.sent (.error "broken pipe"))]

theorem failedWrite_loses :
    ∃ s tr, ServerRun exampleContext Free failedWrite s tr ∧ ¬ SignalsKept s tr :=
  exists_run_state 0 (by decide) (by decide)

theorem signals_kept_iff_foreignSignal :
    ∃ s tr, ServerRun exampleContext (fun s a => ¬ LosesSignal s a) foreignSignal s tr := by
  obtain ⟨s, tr, hrun, hkept⟩ : ∃ s tr, ServerRun exampleContext Free foreignSignal s tr ∧
      SignalsKept s tr := exists_run_state 0 (by decide) (by decide)
  exact ⟨s, tr, (signals_kept_iff hrun).mp hkept⟩

end Ghostport.Server
