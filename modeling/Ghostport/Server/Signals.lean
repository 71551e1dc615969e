import Ghostport.Server.Access

/-!
# Reverse signals

All reverse listeners put their `OpenStream` messages into one queue, which the
current control session drains, whichever peer it matched. What a peer may use is
checked when a `StreamHello` arrives.

Results:
* `signalInv_run`: the queue holds exactly the signals not taken yet, in order, and
  there is one session at a time.
* `signals_to_current_session`: what this means for each `OpenStream` that is
  written.
* `foreignSignal_written`: a run in which a session is sent a signal for a link its
  peer does not have.
-/

namespace Ghostport.Server

open Ghostport.Core Ghostport.Net Ghostport.Lib

/-- The signals that listeners have queued. -/
def signalledIn (tr : List Event) : List ControlMessage :=
  tr.filterMap fun
    | .signalled linkId streamId => some (.openStream linkId streamId)
    | _ => none

/-- The signals that control sessions have taken from the queue, and begun to
    write. -/
def takenIn (tr : List Event) : List ControlMessage :=
  tr.filterMap fun
    | .writing _ (.openStream linkId streamId) => some (.openStream linkId streamId)
    | _ => none

/-- The stream of the session that has begun last and not ended. -/
def sessionAfter (tr : List Event) : Option NoiseStream :=
  tr.foldl (fun session e =>
    match e with
    | .connected stream => some stream
    | .disconnected _ => none
    | _ => session) none

theorem signalledIn_append (tr tr' : List Event) :
    signalledIn (tr ++ tr') = signalledIn tr ++ signalledIn tr' :=
  List.filterMap_append ..

theorem takenIn_append (tr tr' : List Event) : takenIn (tr ++ tr') = takenIn tr ++ takenIn tr' :=
  List.filterMap_append ..

/-- `linkId` is a reverse link of the config for which the server listens. -/
def ReverseLink (ctx : Context) (linkId : String) : Prop :=
  ∃ link ∈ ctx.config.links, link.id = linkId ∧ link.transport = .tcp ∧ link.mode = .reverse

theorem reverseListeners_spec {links : List LinkConfig} {ls : List ReverseListener}
    (h : reverseListeners links = some ls) : ∀ l ∈ ls,
      ∃ link ∈ links, link.id = l.linkId ∧ link.transport = .tcp ∧ link.mode = .reverse := by
  induction links generalizing ls with
  | nil =>
    cases h
    simp
  | cons link links ih =>
    simp only [reverseListeners] at h
    split at h
    · rename_i hlink
      split at h
      · cases h
      · obtain ⟨rest, hrest, rfl⟩ := Option.map_eq_some_iff.mp h
        intro l hl
        rcases List.mem_cons.mp hl with rfl | hl
        · exact ⟨link, by simp, rfl, hlink⟩
        · obtain ⟨link', hmem, hspec⟩ := ih hrest l hl
          exact ⟨link', List.mem_cons_of_mem _ hmem, hspec⟩
    · intro l hl
      obtain ⟨link', hmem, hspec⟩ := ih h l hl
      exact ⟨link', List.mem_cons_of_mem _ hmem, hspec⟩

/-- The queue holds the signals not taken yet, in order; signals come from the
    listeners of reverse links; and the session is the one that began last. -/
structure SignalInv (ctx : Context) (s : State) (tr : List Event) : Prop where
  queue : signalledIn tr = takenIn tr ++ s.openStream
  listeners : ∀ l ∈ s.reverse.listeners, ReverseLink ctx l.linkId
  signalled : ∀ linkId streamId, .signalled linkId streamId ∈ tr → ReverseLink ctx linkId
  session : s.control.session.map ControlSession.stream = sessionAfter tr

/-- The events that the invariant speaks about. -/
def Event.ofSignals : Event → Bool
  | .signalled .. | .writing .. | .connected _ | .disconnected _ => true
  | _ => false

namespace SignalInv

variable {ctx : Context} {s s' : State} {tr es : List Event}

theorem sessionAfter_append_of (hes : ∀ e ∈ es, e.ofSignals = false) :
    sessionAfter (tr ++ es) = sessionAfter tr := by
  induction es generalizing tr with
  | nil => simp
  | cons e es ih =>
    have hes' : ∀ e ∈ es, e.ofSignals = false := fun e' he' => hes e' (List.mem_cons_of_mem _ he')
    have he := hes e (by simp)
    rw [show tr ++ e :: es = (tr ++ [e]) ++ es by simp, ih hes', sessionAfter, sessionAfter,
      List.foldl_append]
    cases e <;> first | rfl | cases he

theorem frame (h : SignalInv ctx s tr) (hes : ∀ e ∈ es, e.ofSignals = false)
    (hqueue : s'.openStream = s.openStream)
    (hlisteners : ∀ l ∈ s'.reverse.listeners, ReverseLink ctx l.linkId)
    (hsession : s'.control.session.map ControlSession.stream =
      s.control.session.map ControlSession.stream) : SignalInv ctx s' (tr ++ es) where
  queue := by
    have hsig : signalledIn es = [] := by
      refine List.filterMap_eq_nil_iff.mpr fun e he => ?_
      have hquiet := hes e he
      cases e <;> first | rfl | cases hquiet
    have htaken : takenIn es = [] := by
      refine List.filterMap_eq_nil_iff.mpr fun e he => ?_
      have hquiet := hes e he
      cases e <;> first | rfl | cases hquiet
    rw [signalledIn_append, takenIn_append, hsig, htaken, List.append_nil, List.append_nil, hqueue,
      h.queue]
  listeners := hlisteners
  signalled linkId streamId hm := by
    rcases List.mem_append.mp hm with hm | hm
    · exact h.signalled linkId streamId hm
    · exact absurd (hes _ hm) (by simp [Event.ofSignals])
  session := by rw [sessionAfter_append_of hes, hsession, h.session]

theorem listeners_set (h : SignalInv ctx s tr) {i : ℕ} {l l' : ReverseListener}
    (hl : s.reverse.listeners[i]? = some l) (hid : l'.linkId = l.linkId) :
    ∀ x ∈ s.reverse.listeners.set i l', ReverseLink ctx x.linkId := by
  intro x hx
  rcases List.mem_or_eq_of_mem_set hx with hx | rfl
  · exact h.listeners x hx
  · rw [hid]
    exact h.listeners l (List.mem_of_getElem? hl)

theorem listener (h : SignalInv ctx s tr) {i : ℕ} {a : ListenerAction}
    (hst : ListenerCase s i a s' es) : SignalInv ctx s' (tr ++ es) := by
  cases hst with
  | bindFailed hl | bound hl | inserted hl | dropped hl _ _ | gone hl _ _ =>
    exact h.frame (by simp [Event.ofSignals]) rfl (h.listeners_set hl rfl) rfl
  | acceptFailed hl => exact h.frame (by simp [Event.ofSignals]) rfl h.listeners rfl
  | accepted hl hconn hs =>
    subst hs
    exact h.frame (by simp [Event.ofSignals]) rfl (h.listeners_set hl rfl) rfl
  | @signalled linkId listenAddr id peerAddr s₁ hl halive hroom hs =>
    subst hs
    have hlink : ReverseLink ctx linkId := h.listeners _ (List.mem_of_getElem? hl)
    constructor
    · rw [signalledIn_append, takenIn_append, h.queue]
      simp [signalledIn, takenIn]
    · exact h.listeners_set hl rfl
    · intro linkId' id' hm
      rcases List.mem_append.mp hm with hm | hm
      · exact h.signalled linkId' id' hm
      · simp only [List.mem_singleton, Event.signalled.injEq] at hm
        rw [hm.1]
        exact hlink
    · rw [sessionAfter, List.foldl_append]
      exact h.session

theorem controlCase (h : SignalInv ctx s tr) {a : ControlAction} (hst : ControlCase s a s' es) :
    SignalInv ctx s' (tr ++ es) := by
  have connected : ∀ stream es', sessionAfter (tr ++ [es', .connected stream]) = some stream := by
    intro stream es'
    simp [sessionAfter]
  have disconnected : ∀ stream e, (∀ st, e ≠ .connected st) →
      sessionAfter (tr ++ [.disconnected stream, e]) = none := by
    intro stream e he
    simp only [sessionAfter, List.foldl_append, List.foldl_cons, List.foldl_nil]
    cases e with
    | connected st => exact absurd rfl (he st)
    | _ => rfl
  cases hst with
  | handedOff _ _ => exact h.frame (by simp) rfl h.listeners rfl
  | connected hs hrest =>
    refine ⟨?_, h.listeners, fun linkId id hm => h.signalled linkId id (by simpa using hm), ?_⟩
    · simpa [signalledIn, takenIn] using h.queue
    · rw [connected]
      rfl
  | ping hs =>
    refine ⟨?_, h.listeners, fun linkId id hm => h.signalled linkId id (by simpa using hm), ?_⟩
    · simpa [signalledIn, takenIn] using h.queue
    · rw [sessionAfter, List.foldl_append]
      have := h.session
      rw [hs] at this
      exact this
  | ignored hs _ => exact h.frame (by simp) rfl h.listeners rfl
  | readFailed hs | writeFailed hs _ =>
    refine ⟨?_, h.listeners, fun linkId id hm => h.signalled linkId id ?_, ?_⟩
    · simpa [signalledIn, takenIn, endSession] using h.queue
    · simpa [endSession] using hm
    · rw [endSession, disconnected _ _ (by simp)]
      rfl
  | @took stream msg rest hs hrest =>
    have hmsg : msg ∈ signalledIn tr := by simp [h.queue, hrest]
    obtain ⟨e, -, he⟩ := List.mem_filterMap.mp hmsg
    obtain ⟨linkId, id, rfl⟩ : ∃ linkId id, msg = .openStream linkId id := by
      cases e <;> simp at he
      exact ⟨_, _, he.symm⟩
    refine ⟨?_, h.listeners, fun linkId id hm => h.signalled linkId id (by simpa using hm), ?_⟩
    · rw [signalledIn_append, takenIn_append, h.queue, hrest]
      simp [signalledIn, takenIn]
    · rw [sessionAfter, List.foldl_append]
      have := h.session
      rw [hs] at this
      exact this
  | wrotePong hs | wrote hs =>
    exact h.frame (by simp [Event.ofSignals]) rfl h.listeners (by simp [hs])

theorem step (h : SignalInv ctx s tr) {a : Action} (hst : Server.step ctx s a = some (s', es)) :
    SignalInv ctx s' (tr ++ es) := by
  cases step_cases hst with
  | tick hle => exact h.frame (by simp) rfl h.listeners rfl
  | listener hc => exact h.listener hc
  | cleanup hc =>
    cases hc <;> (subst_vars; exact h.frame (by simp [Event.ofSignals]) rfl h.listeners rfl)
  | accept hc => cases hc <;> exact h.frame (by simp [Event.ofSignals]) rfl h.listeners rfl
  | @handshake channel _ _ _ _ hc =>
    cases channel <;> cases hc <;>
      (subst_vars; exact h.frame (by simp [Event.ofSignals]) rfl h.listeners rfl)
  | control hc => exact h.controlCase hc
  | data hc =>
    cases hc <;> (subst_vars; exact h.frame (by simp [Event.ofSignals]) rfl h.listeners rfl)

end SignalInv

variable {ctx : Context} {C : State → Action → Prop} {as : List Action} {s : State}
  {tr : List Event}

theorem signalInv_run (h : ServerRun ctx C as s tr) : SignalInv ctx s tr := by
  refine h.invariant (I := SignalInv ctx) ?_ fun _ _ _ _ _ hi _ hst => hi.step hst
  intro clock s₀ hstart
  obtain ⟨-, -, -, hls, -, -, -, -, hopen, -, hcontrol, -⟩ := start_spec hstart
  refine ⟨by simp [signalledIn, takenIn, hopen], reverseListeners_spec hls, by simp, ?_⟩
  simp [hcontrol, sessionAfter]

/-! ## Who is sent a signal -/

/-- An `OpenStream` is written to the session that is current, which is one with a
    configured peer, and was queued before by the listener of the link it names. -/
def SignalToCurrent (ctx : Context) (tr : List Event) : Event → Prop
  | .writing stream (.openStream linkId streamId) =>
    sessionAfter tr = some stream ∧ MatchedIn ctx tr .control stream ∧
      ReverseLink ctx linkId ∧ .signalled linkId streamId ∈ tr
  | _ => True

theorem signalToCurrent_step {s' : State} {a : Action} {es : List Event}
    (hsignal : SignalInv ctx s tr) (haccess : AccessInv ctx s tr)
    (hst : step ctx s a = some (s', es)) :
    EachAfter (fun es₁ e => SignalToCurrent ctx (tr ++ es₁) e) es := by
  have quiet : (∀ stream linkId id, .writing stream (.openStream linkId id) ∉ es) →
      EachAfter (fun es₁ e => SignalToCurrent ctx (tr ++ es₁) e) es := by
    intro h
    refine eachAfter_of_forall fun e he es₁ => ?_
    unfold SignalToCurrent
    split
    · exact absurd he (h _ _ _)
    · trivial
  cases step_cases hst with
  | tick hle => exact quiet (by simp)
  | listener hc => cases hc <;> exact quiet (by simp)
  | cleanup hc => cases hc <;> exact quiet (by simp)
  | accept hc => cases hc <;> exact quiet (by simp)
  | handshake hc => cases hc <;> exact quiet (by simp)
  | data hc => cases hc <;> exact quiet (by simp)
  | control hc =>
    cases hc with
    | @took stream msg rest hs hrest =>
      refine eachAfter_singleton.mpr ?_
      rw [List.append_nil]
      unfold SignalToCurrent
      split
      · rename_i linkId id heq
        cases heq
        have hmem : .openStream linkId id ∈ signalledIn tr := by simp [hsignal.queue, hrest]
        obtain ⟨e, he, heq⟩ := List.mem_filterMap.mp hmem
        cases e <;> simp at heq
        obtain ⟨rfl, rfl⟩ := heq
        refine ⟨?_, ?_, hsignal.signalled _ _ he, he⟩
        · rw [← hsignal.session, hs]
          rfl
        · exact haccess.control stream (Control.mem_streams.mpr (.inr (.inr ⟨_, hs, rfl⟩)))
      · trivial
    | _ => exact quiet (by simp [endSession])

/-- Every `OpenStream` is written to the current session, whichever peer it matched;
    the sessions take the signals in order, each once; and a hello is let through
    only for a link of the peer that sent it. -/
theorem signals_to_current_session (h : ServerRun ctx Free as s tr) :
    EachAfter (SignalToCurrent ctx) tr ∧ takenIn tr <+: signalledIn tr ∧
      ∀ r, .dialed r ∈ tr ∨ .relayStarted r ∈ tr → r.hello.linkId ∈ r.tunnel.peer.links := by
  have haccess := accessInv_run h
  refine ⟨?_, ⟨s.openStream, (signalInv_run h).queue.symm⟩, ?_⟩
  · refine (h.invariant (I := fun s tr => SignalInv ctx s tr ∧ AccessInv ctx s tr ∧
      EachAfter (SignalToCurrent ctx) tr) ?_ ?_).2.2
    · intro clock s₀ hstart
      have hnil : ServerRun ctx Free [] s₀ [] := ⟨clock, s₀, hstart, .nil⟩
      exact ⟨signalInv_run hnil, accessInv_run hnil, eachAfter_nil _⟩
    · rintro s tr a s' es ⟨hs, ha, he⟩ - hst
      exact ⟨hs.step hst, ha.step hst,
        eachAfter_append.mpr ⟨he, signalToCurrent_step hs ha hst⟩⟩
  · rintro r (hr | hr)
    · exact (haccess.dialed r hr).1.1
    · exact (haccess.started r hr).1.1

/-- Bob's control session, while a connection to alice's link comes in. -/
def foreignSignal : List Action :=
  bindAll ++ connect .control ⟨.v4 ⟨198, 51, 100, 7⟩ 40000, .holder bobKey⟩ bobKey 0 ++
    [.control (.handoff 0), .control (.recv 0),
      .listener 0 (.accept (.ok (.v4 ⟨203, 0, 113, 5⟩ 50000))), .listener 0 .insert,
      .listener 0 .send, .control .openStream, .control (.sent (.ok ()))]

def bobControl : NoiseStream :=
  ⟨⟨.v4 ⟨198, 51, 100, 7⟩ 40000, .holder bobKey⟩, ⟨"bob", bobKey, ["web", "ssh"].toFinset⟩⟩

theorem foreignSignal_run :
    ∃ s tr, ServerRun exampleContext Free foreignSignal s tr ∧
      .wrote bobControl (.openStream "db" 1) ∈ tr :=
  exists_run 0 (by decide) (by decide)

theorem foreignSignal_written :
    ∃ s tr, ServerRun exampleContext Free foreignSignal s tr ∧
      .wrote bobControl (.openStream "db" 1) ∈ tr ∧ "db" ∉ bobControl.peer.links := by
  obtain ⟨s, tr, hrun, hmem⟩ := foreignSignal_run
  exact ⟨s, tr, hrun, hmem, by decide⟩

theorem signals_to_current_session_foreignSignal :
    ∃ s tr, ServerRun exampleContext Free foreignSignal s tr ∧
      EachAfter (SignalToCurrent exampleContext) tr := by
  obtain ⟨s, tr, hrun, -⟩ := foreignSignal_run
  exact ⟨s, tr, hrun, (signals_to_current_session hrun).1⟩

end Ghostport.Server
