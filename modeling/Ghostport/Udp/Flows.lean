import Mathlib.Data.List.InsertIdx
import Ghostport.Lib.Demux
import Ghostport.Udp.Access
import Ghostport.Udp.Cases
import Ghostport.Udp.Client

/-!
# Flows and sessions are isolated from each other

The demultiplexing loops of both roles are `Lib.Demux`: the arrivals at the socket and what the
tasks take from their queues are seen of a run besides its events.

Results:
* `simulates`, `Client.simulates`: every step of the server, and of a listener of the client, is
  a number of steps of `Lib.Demux`.
* `Client.sentInv_run`: what a flow has sent into its tunnel.
* `flows_isolated`: in both roles there is one task for each source address, which removes its
  own entry, and each task handles the datagrams of its own address only, in order.
-/

namespace Ghostport.Udp

open Ghostport.Core Ghostport.Net Ghostport.Lib

/-- What is seen of a run: the datagrams that arrive at the socket, those that the tasks take
    from their queues, and the events. -/
inductive Seen (τ ε : Type) where
  | arrived (src : SocketAddr) (datagram : List UInt8)
  | took (task : τ) (datagram : List UInt8)
  | event (e : ε)
  deriving DecidableEq

/-! ## The server -/

section

variable {T : Type}

/-- What is seen of a step of the server. -/
def observed (s : State T) (a : Action T) (es : List Event) : List (Seen Party Event) :=
  match a with
  | .demux (.recv (.ok (src, datagram))) => .arrived src datagram :: es.map .event
  | .session i .recv =>
    match s.tasks[i]? with
    | some ⟨party, datagram :: _, _⟩ => .took party datagram :: es.map .event
    | _ => es.map .event
  | _ => es.map .event

/-- The demultiplexer's view of it. -/
def Seen.demux : Seen Party Event → Option (Demux.Event SocketAddr (List UInt8))
  | .arrived src datagram => some (.arrived src datagram)
  | .took party datagram => some (.took party.serial datagram)
  | .event (.matched party) => some (.started party.serial party.src)
  | .event (.removed party old) => some (.removed party.serial old)
  | .event _ => none

/-- The address that the loop has found no session for. -/
def DemuxPhase.looked : DemuxPhase → Option SocketAddr
  | .acquiring src _ | .inserting src _ _ => some src
  | _ => none

def Session.task (session : Session T) : Demux.Task SocketAddr (List UInt8) :=
  ⟨session.party.serial, session.party.src, session.inbound, session.phase.over⟩

def State.demuxer (s : State T) : Demux.State SocketAddr (List UInt8) :=
  { entries := s.sessions, looked := s.demux.looked, nextSerial := s.nextSerial,
    tasks := s.tasks.map Session.task }

theorem Session.trySend_task (session : Session T) (datagram : List UInt8) :
    (session.trySend datagram).task = session.task.push inboundCapacity datagram := by
  rw [Session.trySend_eq, Demux.Task.push]
  exact apply_ite Session.task _ _ _

theorem route_task (tasks : List (Session T)) (serial : ℕ) (datagram : List UInt8) :
    (route tasks serial datagram).map Session.task =
      Demux.route inboundCapacity (tasks.map Session.task) serial datagram := by
  unfold route Demux.route
  rw [List.map_map, List.map_map]
  refine List.map_congr_left fun session _ => ?_
  simp only [Function.comp_apply]
  by_cases hserial : session.party.serial = serial
  · rw [if_pos hserial, if_pos (show session.task.serial = serial from hserial)]
    exact session.trySend_task datagram
  · rw [if_neg hserial, if_neg (show ¬ session.task.serial = serial from hserial)]

theorem getElem?_task {tasks : List (Session T)} {i : ℕ} {session : Session T}
    (hi : tasks[i]? = some session) : (tasks.map Session.task)[i]? = some session.task := by
  rw [List.getElem?_map, hi]
  rfl

theorem observed_of_ne_recv {s : State T} {i : ℕ} {a : SessionAction T} {es : List Event}
    (h : a ≠ .recv) : observed s (.session i a) es = es.map .event := by
  cases a with
  | recv => exact absurd rfl h
  | handshake _ | helloTimeout | bind _ | connect _ | target _ | idle | remove => rfl

theorem observed_recv {s : State T} {i : ℕ} {session : Session T} {datagram : List UInt8}
    {rest : List (List UInt8)} {es : List Event} (hi : s.tasks[i]? = some session)
    (hinbound : session.inbound = datagram :: rest) :
    observed s (.session i .recv) es = .took session.party datagram :: es.map .event := by
  obtain ⟨party, inbound, phase⟩ := session
  subst hinbound
  simp only [observed, hi]

theorem observed_recv_nil {s : State T} {i : ℕ} {session : Session T} {es : List Event}
    (hi : s.tasks[i]? = some session) (hinbound : session.inbound = []) :
    observed s (.session i .recv) es = es.map .event := by
  obtain ⟨party, inbound, phase⟩ := session
  subst hinbound
  simp only [observed, hi]

theorem mem_of_observed {s : State T} {a : Action T} {es : List Event} {e : Event}
    (h : .event e ∈ observed s a es) : e ∈ es := by
  have hcons : ∀ {x : Seen Party Event}, x ≠ .event e → .event e ∈ x :: es.map Seen.event →
      e ∈ es := by
    intro x hne hm
    simpa [hne.symm] using hm
  unfold observed at h
  split at h
  · exact hcons (by simp) h
  · split at h
    · exact hcons (by simp) h
    · simpa using h
  · simpa using h

end

/-- A step of a session is one of its task. -/
theorem SessionCase.taskStep {ctx : Context} {s : State ctx.snowstorm.Transport} {i : ℕ}
    {clock : Instant} {alive : Bool} {session session' : Session ctx.snowstorm.Transport}
    {a : SessionAction ctx.snowstorm.Transport} {es : List Event}
    (hi : s.tasks[i]? = some session) (h : SessionCase clock alive session a session' es) :
    Demux.TaskStep session.task session'.task
      ((observed s (.session i a) es).filterMap Seen.demux) := by
  have open_of : ∀ {phase : SessionPhase ctx.snowstorm.Transport}, session.phase = phase →
      phase.over = false → session.task.closed = false := fun hphase hover =>
    (congrArg SessionPhase.over hphase).trans hover
  cases h with
  | stopped hover hne =>
    rw [observed_of_ne_recv hne]
    exact .closed
  | handshaken hphase => exact .quiet (open_of hphase rfl)
  | cutOff hphase hinbound halive =>
    rw [observed_recv_nil hi hinbound]
    exact .closed
  | garbled hphase hinbound hdecrypt =>
    rw [observed_recv hi hinbound]
    exact .tookLast (SessionPhase.over_of_transport hphase) hinbound
  | refused hphase hinbound hdecrypt =>
    rw [observed_recv hi hinbound]
    exact .tookLast (open_of hphase rfl) hinbound
  | panicked hphase hinbound hdecrypt =>
    rw [observed_recv hi hinbound]
    exact .tookLast (open_of hphase rfl) hinbound
  | bound hphase hinbound hdecrypt =>
    rw [observed_recv hi hinbound]
    exact .took (open_of hphase rfl) hinbound
  | dialed hphase => exact .quiet (open_of hphase rfl)
  | opened hphase => exact .quiet (open_of hphase rfl)
  | relayed hphase hinbound hdecrypt =>
    rw [observed_recv hi hinbound]
    exact .took (open_of hphase rfl) hinbound
  | answered hphase => exact .quiet (open_of hphase rfl)

/-- A step of the loop is one of the demultiplexer, or none. -/
theorem runDemux_simulates {ctx : Context} {s s' : State ctx.snowstorm.Transport}
    {a : DemuxAction} {es : List Event} (h : DemuxCase s a s' es) :
    ∃ bs, exec (Demux.step inboundCapacity) s.demuxer bs =
      some (s'.demuxer, (observed s (.demux a) es).filterMap Seen.demux) := by
  cases h with
  | @bound result demux es hphase hdemux hprint =>
    refine ⟨[], ?_⟩
    have hseen : (es.map Seen.event).filterMap Seen.demux = [] := by
      rw [List.filterMap_map, List.filterMap_eq_nil_iff]
      intro e he
      obtain ⟨line, rfl⟩ := hprint e he
      rfl
    have hevents : (observed s (.demux (.bind result)) es).filterMap Seen.demux = [] := hseen
    rw [hevents]
    obtain rfl | rfl := hdemux <;> simp [exec, State.demuxer, hphase, DemuxPhase.looked]
  | failed hphase =>
    exact ⟨[], by simp [exec, State.demuxer, hphase, DemuxPhase.looked, observed]⟩
  | @routed src datagram serial hphase hentry =>
    refine ⟨[.arrive src datagram], ?_⟩
    simp [exec, Demux.step, State.demuxer, hphase, hentry, DemuxPhase.looked, observed,
      Seen.demux, route_task]
  | @unknown src datagram hphase hentry =>
    refine ⟨[.arrive src datagram], ?_⟩
    simp [exec, Demux.step, State.demuxer, hphase, hentry, DemuxPhase.looked, observed,
      Seen.demux]
  | dropped hphase =>
    exact ⟨[.skip], by simp [exec, Demux.step, State.demuxer, DemuxPhase.looked, observed]⟩
  | panicked hphase =>
    refine ⟨[.skip], ?_⟩
    simp [exec, Demux.step, State.demuxer, DemuxPhase.looked, observed, Seen.demux]
  | matched hphase =>
    exact ⟨[], by simp [exec, State.demuxer, hphase, DemuxPhase.looked, observed]⟩
  | inserted hphase hparty =>
    subst hparty
    refine ⟨[.insert], ?_⟩
    simp [exec, Demux.step, State.demuxer, hphase, DemuxPhase.looked, observed, Seen.demux,
      Session.task, SessionPhase.over]

theorem simulates {ctx : Context} {s s' : State ctx.snowstorm.Transport}
    {a : Action ctx.snowstorm.Transport} {seen : List (Seen Party Event)}
    (h : observe (step ctx) observed s a = some (s', seen)) :
    ∃ bs, exec (Demux.step inboundCapacity) s.demuxer bs =
      some (s'.demuxer, seen.filterMap Seen.demux) := by
  obtain ⟨⟨s₁, es⟩, hst, heq⟩ := Option.map_eq_some_iff.mp h
  cases heq
  cases step_cases hst with
  | tick hle => exact ⟨[], rfl⟩
  | demux hcase => exact runDemux_simulates hcase
  | @session i a session session' es hi hcase =>
    have hset : { s with tasks := s.tasks.set i session' }.demuxer =
        { s.demuxer with tasks := s.demuxer.tasks.set i session'.task } := by
      rw [State.demuxer, List.map_set]
      rfl
    rw [hset]
    exact Demux.exec_task (getElem?_task hi) (hcase.taskStep hi)
  | @removed i session hi hphase =>
    have htask := getElem?_task hi
    refine ⟨[.remove i], ?_⟩
    simp [exec, Demux.step, State.demuxer, hi, hphase, Session.task, SessionPhase.over, observed,
      Seen.demux, List.eraseIdx_map]

/-- The invariant of the demultiplexer in the runs of the server. -/
theorem demuxInv {ctx : Context} {clock : Instant} {s₀ s : State ctx.snowstorm.Transport}
    {C : State ctx.snowstorm.Transport → Action ctx.snowstorm.Transport → Prop}
    {as : List (Action ctx.snowstorm.Transport)} {seen : List (Seen Party Event)}
    (hstart : start ctx clock = some s₀)
    (h : Run (observe (step ctx) observed) C s₀ as s seen) :
    Demux.Inv s.demuxer (seen.filterMap Seen.demux) := by
  obtain ⟨bs, hrun⟩ := h.simulates fun s a s' es hst => simulates hst
  obtain ⟨listenAddr, -, rfl⟩ := Option.map_eq_some_iff.mp hstart
  exact Demux.inv_run hrun

/-- The sessions have different numbers. -/
theorem serials_nodup {s : State T} {seen : List (Demux.Event SocketAddr (List UInt8))}
    (h : Demux.Inv s.demuxer seen) :
    (s.tasks.map fun session => session.party.serial).Nodup := by
  have hnodup := h.nodup
  rwa [State.demuxer, List.map_map] at hnodup

/-! ## The client -/

namespace Client

section

variable {T : Type}

/-- What is seen of a step of a listener. -/
def observed (s : State T) (a : Action T) (es : List Event) : List (Seen Origin Event) :=
  match a with
  | .listener (.recv (.ok (src, datagram))) => .arrived src datagram :: es.map .event
  | .flow i .fromLocal =>
    match s.tasks[i]? with
    | some ⟨origin, datagram :: _, _⟩ => .took origin datagram :: es.map .event
    | _ => es.map .event
  | _ => es.map .event

/-- The demultiplexer's view of it. -/
def demux : Seen Origin Event → Option (Demux.Event SocketAddr (List UInt8))
  | .arrived src datagram => some (.arrived src datagram)
  | .took origin datagram => some (.took origin.serial datagram)
  | .event (.started origin) => some (.started origin.serial origin.localAddr)
  | .event (.removed origin old) => some (.removed origin.serial old)
  | .event _ => none

/-- The address that the listener has found no flow for. -/
def ListenerPhase.looked : ListenerPhase → Option SocketAddr
  | .inserting src _ => some src
  | _ => none

def Flow.task (flow : Flow T) : Demux.Task SocketAddr (List UInt8) :=
  ⟨flow.origin.serial, flow.origin.localAddr, flow.fromLocal, flow.phase.over⟩

def State.demuxer (s : State T) : Demux.State SocketAddr (List UInt8) :=
  { entries := s.flows, looked := s.listener.looked, nextSerial := s.nextSerial,
    tasks := s.tasks.map Flow.task }

theorem Flow.trySend_task (flow : Flow T) (datagram : List UInt8) :
    (flow.trySend datagram).task = flow.task.push localCapacity datagram := by
  rw [Flow.trySend_eq, Demux.Task.push]
  exact apply_ite Flow.task _ _ _

theorem route_task (tasks : List (Flow T)) (serial : ℕ) (datagram : List UInt8) :
    (route tasks serial datagram).map Flow.task =
      Demux.route localCapacity (tasks.map Flow.task) serial datagram := by
  unfold route Demux.route
  rw [List.map_map, List.map_map]
  refine List.map_congr_left fun flow _ => ?_
  simp only [Function.comp_apply]
  by_cases hserial : flow.origin.serial = serial
  · rw [if_pos hserial, if_pos (show flow.task.serial = serial from hserial)]
    exact flow.trySend_task datagram
  · rw [if_neg hserial, if_neg (show ¬ flow.task.serial = serial from hserial)]

theorem getElem?_task {tasks : List (Flow T)} {i : ℕ} {flow : Flow T}
    (hi : tasks[i]? = some flow) : (tasks.map Flow.task)[i]? = some flow.task := by
  rw [List.getElem?_map, hi]
  rfl

theorem observed_of_ne_fromLocal {s : State T} {i : ℕ} {a : FlowAction T} {es : List Event}
    (h : a ≠ .fromLocal) : observed s (.flow i a) es = es.map .event := by
  cases a with
  | fromLocal => exact absurd rfl h
  | bind _ | connect _ | handshake _ | handshakeTimeout | sent _ | fromTunnel _ | idle
  | remove => rfl

theorem observed_fromLocal {s : State T} {i : ℕ} {flow : Flow T} {datagram : List UInt8}
    {rest : List (List UInt8)} {es : List Event} (hi : s.tasks[i]? = some flow)
    (hqueue : flow.fromLocal = datagram :: rest) :
    observed s (.flow i .fromLocal) es = .took flow.origin datagram :: es.map .event := by
  obtain ⟨origin, fromLocal, phase⟩ := flow
  subst hqueue
  simp only [observed, hi]

theorem observed_fromLocal_nil {s : State T} {i : ℕ} {flow : Flow T} {es : List Event}
    (hi : s.tasks[i]? = some flow) (hqueue : flow.fromLocal = []) :
    observed s (.flow i .fromLocal) es = es.map .event := by
  obtain ⟨origin, fromLocal, phase⟩ := flow
  subst hqueue
  simp only [observed, hi]

theorem filterMap_prints {es : List Event} (h : ∀ e ∈ es, ∃ line, e = .print line) :
    (es.map Seen.event).filterMap demux = [] := by
  rw [List.filterMap_map, List.filterMap_eq_nil_iff]
  intro e he
  obtain ⟨line, rfl⟩ := h e he
  rfl

end

variable {ctx : Context} {s s' : State ctx.snowstorm.Transport}

/-- A step of a flow is one of its task. -/
theorem FlowCase.taskStep {i : ℕ} {linkId : String} {clock : Instant}
    {flow flow' : Flow ctx.snowstorm.Transport} {a : FlowAction ctx.snowstorm.Transport}
    {es : List Event} (hi : s.tasks[i]? = some flow) (h : FlowCase linkId clock flow a flow' es) :
    Demux.TaskStep flow.task flow'.task ((observed s (.flow i a) es).filterMap demux) := by
  have open_of : ∀ {phase : FlowPhase ctx.snowstorm.Transport}, flow.phase = phase →
      phase.over = false → flow.task.closed = false := fun hphase hover =>
    (congrArg FlowPhase.over hphase).trans hover
  cases h with
  | stopped hover hqueue hprint =>
    have hevents : observed s (.flow i a) es = es.map .event := by
      by_cases ha : a = .fromLocal
      · subst ha
        exact observed_fromLocal_nil hi (hqueue rfl)
      · exact observed_of_ne_fromLocal ha
    rw [hevents, filterMap_prints hprint]
    exact .closed
  | bound hphase => exact .quiet (open_of hphase rfl)
  | connected hphase => exact .quiet (open_of hphase rfl)
  | handshaken hphase => exact .quiet (open_of hphase rfl)
  | helloSent hphase => exact .quiet (open_of hphase rfl)
  | established hphase => exact .quiet (open_of hphase rfl)
  | relayed hphase hqueue =>
    rw [observed_fromLocal hi hqueue]
    exact .took (open_of hphase rfl) hqueue
  | answered hphase => exact .quiet (open_of hphase rfl)

theorem runForwardListener_simulates {a : ListenerAction} {es : List Event}
    (h : ListenerCase s a s' es) :
    ∃ bs, exec (Demux.step localCapacity) s.demuxer bs =
      some (s'.demuxer, (observed s (.listener a) es).filterMap demux) := by
  cases h with
  | @bound result listener line hphase hlistener =>
    refine ⟨[], ?_⟩
    obtain rfl | rfl := hlistener <;>
      simp [exec, State.demuxer, hphase, ListenerPhase.looked, observed, demux]
  | failed hphase => exact ⟨[], rfl⟩
  | @routed src datagram serial hphase hentry =>
    refine ⟨[.arrive src datagram], ?_⟩
    simp [exec, Demux.step, State.demuxer, hphase, hentry, ListenerPhase.looked, observed,
      demux, route_task]
  | @unknown src datagram hphase hentry =>
    refine ⟨[.arrive src datagram], ?_⟩
    simp [exec, Demux.step, State.demuxer, hphase, hentry, ListenerPhase.looked, observed, demux]
  | inserted hphase horigin hstart =>
    subst horigin
    cases hstart with
    | binding hsome =>
      refine ⟨[.insert], ?_⟩
      simp [exec, Demux.step, State.demuxer, hphase, ListenerPhase.looked, observed, demux,
        Flow.task, FlowPhase.over]
    | panicked hnone =>
      -- the queue of a flow that panics is closed at once
      refine ⟨[.insert, .close s.tasks.length], ?_⟩
      simp [exec, Demux.step, State.demuxer, hphase, ListenerPhase.looked, observed, demux,
        Flow.task, FlowPhase.over]

theorem simulates {a : Action ctx.snowstorm.Transport} {seen : List (Seen Origin Event)}
    (h : observe (step ctx) observed s a = some (s', seen)) :
    ∃ bs, exec (Demux.step localCapacity) s.demuxer bs =
      some (s'.demuxer, seen.filterMap demux) := by
  obtain ⟨⟨s₁, es⟩, hst, heq⟩ := Option.map_eq_some_iff.mp h
  cases heq
  cases step_cases hst with
  | tick hle => exact ⟨[], rfl⟩
  | listener hcase => exact runForwardListener_simulates hcase
  | @flow i a flow flow' es hi hcase =>
    have hset : { s with tasks := s.tasks.set i flow' }.demuxer =
        { s.demuxer with tasks := s.demuxer.tasks.set i flow'.task } := by
      rw [State.demuxer, List.map_set]
      rfl
    rw [hset]
    exact Demux.exec_task (getElem?_task hi) (hcase.taskStep hi)
  | @removed i flow hi hphase =>
    refine ⟨[.remove i], ?_⟩
    simp [exec, Demux.step, State.demuxer, hi, hphase, Flow.task, FlowPhase.over, observed,
      demux, List.eraseIdx_map]

theorem demuxInv {clock : Instant} {linkId listenAddr : String}
    {C : State ctx.snowstorm.Transport → Action ctx.snowstorm.Transport → Prop}
    {as : List (Action ctx.snowstorm.Transport)} {seen : List (Seen Origin Event)}
    (h : Run (observe (step ctx) observed) C (startListener _ clock linkId listenAddr) as s seen) :
    Demux.Inv s.demuxer (seen.filterMap demux) := by
  obtain ⟨bs, hrun⟩ := h.simulates fun s a s' es hst => simulates hst
  exact Demux.inv_run hrun

/-- The flows have different numbers. -/
theorem serials_nodup {T : Type} {s : State T}
    {seen : List (Demux.Event SocketAddr (List UInt8))} (h : Demux.Inv s.demuxer seen) :
    (s.tasks.map fun flow => flow.origin.serial).Nodup := by
  have hnodup := h.nodup
  rwa [State.demuxer, List.map_map] at hnodup

/-! ### What a flow sends into its tunnel -/

/-- The payloads that the flow `serial` has sent into its tunnel. -/
def sentIn (serial : ℕ) (seen : List (Seen Origin Event)) : List (List UInt8) :=
  seen.filterMap fun
    | .event (.toTunnel origin payload) => if origin.serial = serial then some payload else none
    | _ => none

/-- The datagrams that it has taken from its queue. -/
def takenIn (serial : ℕ) (seen : List (Seen Origin Event)) : List (List UInt8) :=
  Demux.tookIn serial (seen.filterMap demux)

/-- The datagrams that have arrived from its local address after it was started. -/
def laterIn (origin : Origin) (seen : List (Seen Origin Event)) : List (List UInt8) :=
  Demux.laterIn origin.serial origin.localAddr (seen.filterMap demux)

theorem sentIn_append (serial : ℕ) (seen new : List (Seen Origin Event)) :
    sentIn serial (seen ++ new) = sentIn serial seen ++ sentIn serial new :=
  List.filterMap_append ..

theorem takenIn_append (serial : ℕ) (seen new : List (Seen Origin Event)) :
    takenIn serial (seen ++ new) = takenIn serial seen ++ takenIn serial new := by
  rw [takenIn, List.filterMap_append, Demux.tookIn_append]
  rfl

/-- What a flow has sent, where `taken` is what it has taken from its queue: nothing yet, its
    hello, or its hello, its first datagram and what it has taken. -/
inductive Sent (ctx : Context) (linkId : String) (firstDatagram : List UInt8)
    (taken : List (List UInt8)) : List (List UInt8) → Prop
  | nothing : taken = [] → Sent ctx linkId firstDatagram taken []
  | hello {helloBytes : List UInt8} : taken = [] →
    ctx.json.toVec ⟨linkId, none⟩ = .ok helloBytes →
    Sent ctx linkId firstDatagram taken [helloBytes]
  | relayed {helloBytes : List UInt8} : ctx.json.toVec ⟨linkId, none⟩ = .ok helloBytes →
    Sent ctx linkId firstDatagram taken (helloBytes :: firstDatagram :: taken)

/-- What a flow that stands there has sent. -/
def FlowPhase.HasSent {T : Type} (ctx : Context) (linkId : String) (firstDatagram : List UInt8)
    (taken sent : List (List UInt8)) : FlowPhase T → Prop
  | .binding _ | .connecting _ | .handshaking _ => taken = [] ∧ sent = []
  | .sendingHello _ helloBytes =>
    taken = [] ∧ sent = [] ∧ ctx.json.toVec ⟨linkId, none⟩ = .ok helloBytes
  | .sendingFirst _ =>
    taken = [] ∧ ∃ helloBytes, ctx.json.toVec ⟨linkId, none⟩ = .ok helloBytes ∧
      sent = [helloBytes]
  | .relaying _ _ =>
    ∃ helloBytes, ctx.json.toVec ⟨linkId, none⟩ = .ok helloBytes ∧
      sent = helloBytes :: firstDatagram :: taken
  | .ended | .panicked => Sent ctx linkId firstDatagram taken sent

theorem FlowPhase.HasSent.sent {T : Type} {linkId : String} {firstDatagram : List UInt8}
    {taken sent : List (List UInt8)} {phase : FlowPhase T}
    (h : phase.HasSent ctx linkId firstDatagram taken sent) :
    Sent ctx linkId firstDatagram taken sent := by
  cases phase with
  | binding _ | connecting _ | handshaking _ =>
    obtain ⟨htaken, rfl⟩ := h
    exact .nothing htaken
  | sendingHello _ _ =>
    obtain ⟨htaken, rfl, -⟩ := h
    exact .nothing htaken
  | sendingFirst _ =>
    obtain ⟨htaken, helloBytes, hjson, rfl⟩ := h
    exact .hello htaken hjson
  | relaying _ _ =>
    obtain ⟨helloBytes, hjson, rfl⟩ := h
    exact .relayed hjson
  | ended | panicked => exact h

theorem FlowCase.observed_stopped {i : ℕ} {flow : Flow ctx.snowstorm.Transport}
    {a : FlowAction ctx.snowstorm.Transport} {es : List Event} (hi : s.tasks[i]? = some flow)
    (hqueue : a = .fromLocal → flow.fromLocal = []) :
    observed s (.flow i a) es = es.map .event := by
  by_cases ha : a = .fromLocal
  · subst ha
    exact observed_fromLocal_nil hi (hqueue rfl)
  · exact observed_of_ne_fromLocal ha

section

variable {i : ℕ} {linkId : String} {clock : Instant} {flow flow' : Flow ctx.snowstorm.Transport}
  {a : FlowAction ctx.snowstorm.Transport} {es : List Event}

/-- Everything that is seen of a step of a flow is of this flow. -/
theorem FlowCase.seen (hi : s.tasks[i]? = some flow)
    (h : FlowCase linkId clock flow a flow' es) :
    ∀ x ∈ observed s (.flow i a) es,
      (∃ datagram, x = .took flow.origin datagram) ∨
      (∃ payload, x = .event (.toTunnel flow.origin payload)) ∨
      (∃ line, x = .event (.print line)) ∨
      ∃ payload, x = .event (.toLocal flow.origin flow.origin.localAddr payload) := by
  cases h with
  | stopped hover hqueue hprint =>
    rw [observed_stopped hi hqueue]
    intro x hx
    obtain ⟨e, he, rfl⟩ := List.mem_map.mp hx
    obtain ⟨line, rfl⟩ := hprint e he
    exact .inr (.inr (.inl ⟨line, rfl⟩))
  | bound _ | connected _ | handshaken _ => simp [observed]
  | helloSent _ | established _ | answered _ => simp [observed]
  | relayed hphase hqueue =>
    rw [observed_fromLocal hi hqueue]
    simp

theorem FlowCase.hasSent {taken sent : List (List UInt8)} (hi : s.tasks[i]? = some flow)
    (h : FlowCase linkId clock flow a flow' es)
    (hsent : flow.phase.HasSent ctx linkId flow.origin.firstDatagram taken sent) :
    flow'.phase.HasSent ctx linkId flow.origin.firstDatagram
      (taken ++ takenIn flow.origin.serial (observed s (.flow i a) es))
      (sent ++ sentIn flow.origin.serial (observed s (.flow i a) es)) := by
  cases h with
  | stopped hover hqueue hprint =>
    have htaken : takenIn flow.origin.serial (es.map Seen.event) = [] := by
      rw [takenIn, filterMap_prints hprint]
      rfl
    have hnone : sentIn flow.origin.serial (es.map Seen.event) = [] := by
      rw [sentIn, List.filterMap_map, List.filterMap_eq_nil_iff]
      intro e he
      obtain ⟨line, rfl⟩ := hprint e he
      rfl
    rw [observed_stopped hi hqueue, htaken, hnone, List.append_nil, List.append_nil]
    exact hsent.sent
  | bound hphase =>
    rw [hphase] at hsent
    simpa [FlowPhase.HasSent, observed, takenIn, sentIn, Demux.tookIn] using hsent
  | connected hphase =>
    rw [hphase] at hsent
    simpa [FlowPhase.HasSent, observed, takenIn, sentIn, Demux.tookIn] using hsent
  | handshaken hphase hjson =>
    rw [hphase] at hsent
    obtain ⟨rfl, rfl⟩ := hsent
    exact ⟨rfl, rfl, hjson⟩
  | @helloSent transport helloBytes hphase =>
    rw [hphase] at hsent
    obtain ⟨rfl, rfl, hjson⟩ := hsent
    refine ⟨rfl, helloBytes, hjson, ?_⟩
    simp [observed, sentIn]
  | established hphase =>
    rw [hphase] at hsent
    obtain ⟨rfl, helloBytes, hjson, rfl⟩ := hsent
    refine ⟨helloBytes, hjson, ?_⟩
    simp [observed, sentIn, takenIn, demux, Demux.tookIn]
  | relayed hphase hqueue =>
    rw [hphase] at hsent
    obtain ⟨helloBytes, hjson, rfl⟩ := hsent
    rw [observed_fromLocal hi hqueue]
    refine ⟨helloBytes, hjson, ?_⟩
    simp [sentIn, takenIn, demux, Demux.tookIn]
  | answered hphase =>
    rw [hphase] at hsent
    obtain ⟨helloBytes, hjson, rfl⟩ := hsent
    refine ⟨helloBytes, hjson, ?_⟩
    simp [observed, sentIn, takenIn, demux, Demux.tookIn]

end

/-- What the flows of a listener have sent. -/
structure SentInv (ctx : Context) (s : State ctx.snowstorm.Transport)
    (seen : List (Seen Origin Event)) : Prop where
  flows : ∀ flow ∈ s.tasks, .event (.started flow.origin) ∈ seen ∧
    flow.phase.HasSent ctx s.linkId flow.origin.firstDatagram
      (takenIn flow.origin.serial seen) (sentIn flow.origin.serial seen)
  started : ∀ origin, .event (.started origin) ∈ seen →
    Sent ctx s.linkId origin.firstDatagram (takenIn origin.serial seen)
      (sentIn origin.serial seen)
  unique : ∀ origin origin', .event (.started origin) ∈ seen →
    .event (.started origin') ∈ seen → origin.serial = origin'.serial → origin = origin'
  below : ∀ origin, .event (.started origin) ∈ seen → origin.serial < s.nextSerial
  sentBelow : ∀ origin payload, .event (.toTunnel origin payload) ∈ seen →
    origin.serial < s.nextSerial
  toLocal : ∀ origin addr payload, .event (.toLocal origin addr payload) ∈ seen →
    addr = origin.localAddr
  first : ∀ origin, .event (.started origin) ∈ seen →
    .arrived origin.localAddr origin.firstDatagram ∈ seen
  inserting : ∀ src firstDatagram, s.listener = .inserting src firstDatagram →
    .arrived src firstDatagram ∈ seen

namespace SentInv

variable {seen new : List (Seen Origin Event)}

/-- Where nothing that is seen is of the flow `serial`. -/
theorem silent {serial : ℕ} (htook : ∀ origin datagram, .took origin datagram ∈ new →
      origin.serial ≠ serial)
    (hsent : ∀ origin payload, .event (.toTunnel origin payload) ∈ new →
      origin.serial ≠ serial) :
    takenIn serial (seen ++ new) = takenIn serial seen ∧
      sentIn serial (seen ++ new) = sentIn serial seen := by
  have htaken : takenIn serial new = [] := by
    rw [takenIn, Demux.tookIn, List.filterMap_eq_nil_iff]
    intro e he
    obtain ⟨x, hx, hxe⟩ := List.mem_filterMap.mp he
    cases e with
    | took serial' datagram =>
      have horigin : ∃ origin, x = .took origin datagram ∧ origin.serial = serial' := by
        unfold demux at hxe
        split at hxe <;> cases hxe
        exact ⟨_, rfl, rfl⟩
      obtain ⟨origin, rfl, rfl⟩ := horigin
      exact if_neg (htook origin datagram hx)
    | arrived _ _ | started _ _ | removed _ _ => rfl
  have hnone : sentIn serial new = [] := by
    rw [sentIn, List.filterMap_eq_nil_iff]
    intro x hx
    split
    · rename_i origin payload
      exact if_neg (hsent origin payload hx)
    · rfl
  rw [takenIn_append, htaken, sentIn_append, hnone, List.append_nil, List.append_nil]
  exact ⟨rfl, rfl⟩

/-- A step that neither starts a flow nor changes one. -/
theorem frame (h : SentInv ctx s seen) (hlink : s'.linkId = s.linkId)
    (hnext : s'.nextSerial = s.nextSerial)
    (hnew : ∀ x ∈ new, (∃ src datagram, x = .arrived src datagram) ∨
      (∃ line, x = .event (.print line)) ∨ ∃ origin old, x = .event (.removed origin old))
    (htasks : ∀ flow ∈ s'.tasks, ∃ flow₀ ∈ s.tasks, flow₀.origin = flow.origin ∧
      flow₀.phase = flow.phase)
    (hinserting : ∀ src firstDatagram, s'.listener = .inserting src firstDatagram →
      .arrived src firstDatagram ∈ seen ++ new) : SentInv ctx s' (seen ++ new) := by
  have hold : ∀ e, (∀ line, e ≠ .print line) → (∀ origin old, e ≠ .removed origin old) →
      .event e ∈ seen ++ new → .event e ∈ seen := by
    intro e hprint hremoved hm
    refine (List.mem_append.mp hm).resolve_right fun hm => ?_
    rcases hnew _ hm with ⟨_, _, heq⟩ | ⟨line, heq⟩ | ⟨origin, old, heq⟩ <;> cases heq
    · exact hprint line rfl
    · exact hremoved origin old rfl
  have hstarted : ∀ {origin}, .event (.started origin) ∈ seen ++ new →
      .event (.started origin) ∈ seen := fun hm => hold _ (by simp) (by simp) hm
  have hsilent : ∀ serial, takenIn serial (seen ++ new) = takenIn serial seen ∧
      sentIn serial (seen ++ new) = sentIn serial seen := by
    refine fun serial => silent (fun origin datagram hm => ?_) fun origin payload hm => ?_ <;>
      rcases hnew _ hm with ⟨_, _, heq⟩ | ⟨line, heq⟩ | ⟨origin, old, heq⟩ <;> cases heq
  constructor
  case flows =>
    intro flow hm
    obtain ⟨flow₀, hm₀, horigin, hphase⟩ := htasks flow hm
    rw [(hsilent _).1, (hsilent _).2, hlink, ← horigin, ← hphase]
    exact ⟨List.mem_append_left _ (h.flows flow₀ hm₀).1, (h.flows flow₀ hm₀).2⟩
  case started =>
    intro origin hm
    rw [(hsilent _).1, (hsilent _).2, hlink]
    exact h.started origin (hstarted hm)
  case unique =>
    exact fun origin origin' hm hm' => h.unique origin origin' (hstarted hm) (hstarted hm')
  case below =>
    rw [hnext]
    exact fun origin hm => h.below origin (hstarted hm)
  case sentBelow =>
    rw [hnext]
    exact fun origin payload hm => h.sentBelow origin payload (hold _ (by simp) (by simp) hm)
  case toLocal =>
    exact fun origin addr payload hm =>
      h.toLocal origin addr payload (hold _ (by simp) (by simp) hm)
  case first => exact fun origin hm => List.mem_append_left _ (h.first origin (hstarted hm))
  case inserting => exact hinserting

/-- A step of one flow. -/
theorem flow (h : SentInv ctx s seen) (hd : Demux.Inv s.demuxer (seen.filterMap demux)) {i : ℕ}
    {flow flow' : Flow ctx.snowstorm.Transport} {a : FlowAction ctx.snowstorm.Transport}
    {es : List Event} (hi : s.tasks[i]? = some flow)
    (hcase : FlowCase s.linkId s.clock flow a flow' es) :
    SentInv ctx { s with tasks := s.tasks.set i flow' } (seen ++ observed s (.flow i a) es) := by
  have hmem : flow ∈ s.tasks := List.mem_of_getElem? hi
  have horigin := hcase.origin_eq
  have hnew := hcase.seen hi
  have hold : ∀ {origin}, .event (.started origin) ∈ seen ++ observed s (.flow i a) es →
      .event (.started origin) ∈ seen := by
    intro origin hm
    refine (List.mem_append.mp hm).resolve_right fun hm => ?_
    rcases hnew _ hm with ⟨_, heq⟩ | ⟨_, heq⟩ | ⟨_, heq⟩ | ⟨_, heq⟩ <;> cases heq
  have hsilent : ∀ {serial}, serial ≠ flow.origin.serial →
      takenIn serial (seen ++ observed s (.flow i a) es) = takenIn serial seen ∧
        sentIn serial (seen ++ observed s (.flow i a) es) = sentIn serial seen := by
    intro serial hne
    refine silent (fun origin datagram hm => ?_) fun origin payload hm => ?_ <;>
      rcases hnew _ hm with ⟨_, heq⟩ | ⟨_, heq⟩ | ⟨_, heq⟩ | ⟨_, heq⟩ <;> cases heq
    · exact hne.symm
    · exact hne.symm
  have hown : flow'.phase.HasSent ctx s.linkId flow.origin.firstDatagram
      (takenIn flow.origin.serial (seen ++ observed s (.flow i a) es))
      (sentIn flow.origin.serial (seen ++ observed s (.flow i a) es)) := by
    rw [takenIn_append, sentIn_append]
    exact hcase.hasSent hi (h.flows flow hmem).2
  constructor
  case flows =>
    intro x hx
    rcases Demux.mem_set_of_nodup (serials_nodup hd) hi hx with rfl | ⟨hxmem, hne⟩
    · rw [horigin]
      exact ⟨List.mem_append_left _ (h.flows flow hmem).1, hown⟩
    · rw [(hsilent hne).1, (hsilent hne).2]
      exact ⟨List.mem_append_left _ (h.flows x hxmem).1, (h.flows x hxmem).2⟩
  case started =>
    intro origin hm
    by_cases hserial : origin.serial = flow.origin.serial
    · obtain rfl := h.unique _ _ (hold hm) (h.flows flow hmem).1 hserial
      exact hown.sent
    · rw [(hsilent hserial).1, (hsilent hserial).2]
      exact h.started origin (hold hm)
  case unique => exact fun origin origin' hm hm' => h.unique origin origin' (hold hm) (hold hm')
  case below => exact fun origin hm => h.below origin (hold hm)
  case sentBelow =>
    intro origin payload hm
    rcases List.mem_append.mp hm with hm | hm
    · exact h.sentBelow origin payload hm
    · rcases hnew _ hm with ⟨_, heq⟩ | ⟨_, heq⟩ | ⟨_, heq⟩ | ⟨_, heq⟩ <;> cases heq
      exact h.below _ (h.flows flow hmem).1
  case toLocal =>
    intro origin addr payload hm
    rcases List.mem_append.mp hm with hm | hm
    · exact h.toLocal origin addr payload hm
    · rcases hnew _ hm with ⟨_, heq⟩ | ⟨_, heq⟩ | ⟨_, heq⟩ | ⟨_, heq⟩ <;> cases heq
      rfl
  case first => exact fun origin hm => List.mem_append_left _ (h.first origin (hold hm))
  case inserting =>
    exact fun src firstDatagram hl => List.mem_append_left _ (h.inserting src firstDatagram hl)

/-- The next number belongs to no flow. -/
theorem ne_next (h : SentInv ctx s seen) {origin : Origin}
    (hm : .event (.started origin) ∈ seen) : origin.serial ≠ s.nextSerial :=
  Nat.ne_of_lt (h.below origin hm)

theorem sentIn_next (h : SentInv ctx s seen) : sentIn s.nextSerial seen = [] := by
  rw [sentIn, List.filterMap_eq_nil_iff]
  intro x hx
  split
  · rename_i origin payload
    exact if_neg (Nat.ne_of_lt (h.sentBelow origin payload hx))
  · rfl

/-- A flow is started. -/
theorem inserted (h : SentInv ctx s seen) (hd : Demux.Inv s.demuxer (seen.filterMap demux))
    {src : SocketAddr} {firstDatagram : List UInt8} {origin : Origin}
    {flow : Flow ctx.snowstorm.Transport} {es : List Event}
    (hphase : s.listener = .inserting src firstDatagram)
    (horigin : origin = ⟨s.nextSerial, src, firstDatagram⟩)
    (hstart : FlowStartCase ctx.config origin flow es) :
    SentInv ctx
      { s with
        listener := .receiving
        flows := Function.update s.flows src (some s.nextSerial)
        nextSerial := s.nextSerial + 1
        tasks := s.tasks ++ [flow] }
      (seen ++ (Event.started origin :: es).map .event) := by
  have hserial : origin.serial = s.nextSerial := by rw [horigin]
  have hes : es = [] ∨ es = [.panicked] := by
    cases hstart with
    | binding _ => exact .inl rfl
    | panicked _ => exact .inr rfl
  have hflow : flow.origin = origin ∧
      flow.phase.HasSent ctx s.linkId origin.firstDatagram [] [] := by
    cases hstart with
    | binding _ => exact ⟨rfl, rfl, rfl⟩
    | panicked _ => exact ⟨rfl, .nothing rfl⟩
  have hsilent : ∀ serial,
      takenIn serial (seen ++ (Event.started origin :: es).map .event) = takenIn serial seen ∧
      sentIn serial (seen ++ (Event.started origin :: es).map .event) = sentIn serial seen := by
    refine fun serial => silent (fun _ _ hm => ?_) fun _ _ hm => ?_ <;>
      obtain rfl | rfl := hes <;> simp at hm
  have htook : takenIn origin.serial seen = [] := by
    rw [hserial]
    exact hd.tookIn_fresh
  have hsent : sentIn origin.serial seen = [] := by
    rw [hserial]
    exact h.sentIn_next
  have hstarted : ∀ {origin'},
      .event (.started origin') ∈ seen ++ (Event.started origin :: es).map Seen.event →
        .event (.started origin') ∈ seen ∨ origin' = origin := by
    intro origin' hm
    obtain rfl | rfl := hes <;> simpa using hm
  have hold : ∀ {e}, (∀ origin', e ≠ .started origin') → e ≠ .panicked →
      .event e ∈ seen ++ (Event.started origin :: es).map Seen.event → .event e ∈ seen := by
    intro e hne hpanic hm
    obtain rfl | rfl := hes <;> simpa [hne, hpanic] using hm
  constructor
  case flows =>
    intro x hx
    rw [(hsilent _).1, (hsilent _).2]
    rcases List.mem_append.mp hx with hx | hx
    · exact ⟨List.mem_append_left _ (h.flows x hx).1, (h.flows x hx).2⟩
    · rw [List.mem_singleton.mp hx, hflow.1, htook, hsent]
      exact ⟨by simp, hflow.2⟩
  case started =>
    intro origin' hm
    rw [(hsilent _).1, (hsilent _).2]
    rcases hstarted hm with hm | rfl
    · exact h.started origin' hm
    · rw [htook, hsent]
      exact .nothing rfl
  case unique =>
    intro o o' hm hm' heq
    rcases hstarted hm with hold₁ | horigin₁
    · rcases hstarted hm' with hold₂ | horigin₂
      · exact h.unique o o' hold₁ hold₂ heq
      · rw [horigin₂, hserial] at heq
        exact absurd heq (h.ne_next hold₁)
    · rcases hstarted hm' with hold₂ | horigin₂
      · rw [horigin₁, hserial] at heq
        exact absurd heq.symm (h.ne_next hold₂)
      · rw [horigin₁, horigin₂]
  case below =>
    intro origin' hm
    rcases hstarted hm with hm | rfl
    · exact Nat.lt_succ_of_lt (h.below origin' hm)
    · rw [hserial]
      exact Nat.lt_succ_self _
  case sentBelow =>
    intro origin' payload hm
    exact Nat.lt_succ_of_lt (h.sentBelow origin' payload (hold (by simp) (by simp) hm))
  case toLocal =>
    exact fun origin' addr payload hm =>
      h.toLocal origin' addr payload (hold (by simp) (by simp) hm)
  case first =>
    intro origin' hm
    rcases hstarted hm with hm | rfl
    · exact List.mem_append_left _ (h.first origin' hm)
    · rw [horigin]
      exact List.mem_append_left _ (h.inserting src firstDatagram hphase)
  case inserting =>
    intro _ _ hl
    cases hl

theorem step (h : SentInv ctx s seen) (hd : Demux.Inv s.demuxer (seen.filterMap demux))
    {a : Action ctx.snowstorm.Transport}
    (hobs : observe (Client.step ctx) observed s a = some (s', new)) :
    SentInv ctx s' (seen ++ new) := by
  obtain ⟨⟨s₁, es⟩, hst, heq⟩ := Option.map_eq_some_iff.mp hobs
  cases heq
  have same : ∀ flow ∈ s.tasks, ∃ flow₀ ∈ s.tasks, flow₀.origin = flow.origin ∧
      flow₀.phase = flow.phase := fun flow hm => ⟨flow, hm, rfl, rfl⟩
  have waits : ∀ {new : List (Seen Origin Event)} (src : SocketAddr) (firstDatagram : List UInt8),
      s.listener = .inserting src firstDatagram → .arrived src firstDatagram ∈ seen ++ new :=
    fun src firstDatagram hl => List.mem_append_left _ (h.inserting src firstDatagram hl)
  cases step_cases hst with
  | tick hle => exact h.frame rfl rfl (by simp [observed]) same waits
  | listener hcase =>
    cases hcase with
    | bound hphase hlistener =>
      refine h.frame rfl rfl (by simp [observed]) same fun src firstDatagram hl => ?_
      obtain rfl | rfl := hlistener <;> cases hl
    | failed hphase => exact h.frame rfl rfl (by simp [observed]) same waits
    | routed hphase hentry =>
      exact h.frame rfl rfl (by simp [observed]) (fun flow hm => of_mem_route hm) waits
    | unknown hphase hentry =>
      refine h.frame rfl rfl (by simp [observed]) same fun src firstDatagram hl => ?_
      cases hl
      simp [observed]
    | inserted hphase horigin hstart => exact h.inserted hd hphase horigin hstart
  | flow hi hcase => exact h.flow hd hi hcase
  | @removed i flow hi hphase =>
    refine h.frame rfl rfl (by simp [observed]) (fun x hx => ?_) waits
    exact same x (List.mem_of_mem_eraseIdx hx)

end SentInv

theorem step_linkId {a : Action ctx.snowstorm.Transport} {es : List Event}
    (h : step ctx s a = some (s', es)) : s'.linkId = s.linkId := by
  cases step_cases h with
  | tick _ => rfl
  | listener hcase => cases hcase <;> rfl
  | flow _ _ => rfl
  | removed _ _ => rfl

theorem sentInv_run {clock : Instant} {linkId listenAddr : String}
    {C : State ctx.snowstorm.Transport → Action ctx.snowstorm.Transport → Prop}
    {as : List (Action ctx.snowstorm.Transport)} {seen : List (Seen Origin Event)}
    (h : Run (observe (step ctx) observed) C (startListener _ clock linkId listenAddr) as s seen) :
    SentInv ctx s seen ∧ s.linkId = linkId := by
  induction h with
  | nil =>
    refine ⟨⟨?_, ?_, ?_, ?_, ?_, ?_, ?_, ?_⟩, rfl⟩ <;> simp [startListener]
  | snoc hr hC hst ih =>
    obtain ⟨hinv, hlink⟩ := ih
    refine ⟨hinv.step (demuxInv hr) hst, ?_⟩
    obtain ⟨⟨s₁, es⟩, hst₁, heq⟩ := Option.map_eq_some_iff.mp hst
    cases heq
    rw [step_linkId hst₁, hlink]

end Client

/-! ## Both roles -/

/-- The datagrams that the session `serial` has received. -/
def receivedIn (serial : ℕ) (seen : List (Seen Party Event)) : List (List UInt8) :=
  Demux.tookIn serial (seen.filterMap Seen.demux)

/-- The datagrams that have arrived from its peer's address after it began. -/
def laterIn (party : Party) (seen : List (Seen Party Event)) : List (List UInt8) :=
  Demux.laterIn party.serial party.src (seen.filterMap Seen.demux)

/-- In every run of a listener of the client and of the server: there is one task for each
    source address; a task removes its own entry; what a flow sends into its tunnel after its
    hello is its first datagram and then datagrams that arrived later from its own address, in
    order, and what comes out of the tunnel goes to this address; and a session receives
    datagrams that arrived from its own peer's address, in order. -/
theorem flows_isolated {cctx : Client.Context} {clock : Instant} {linkId listenAddr : String}
    {as : List (Client.Action cctx.snowstorm.Transport)}
    {s : Client.State cctx.snowstorm.Transport} {seen : List (Seen Client.Origin Client.Event)}
    (hclient : Run (observe (Client.step cctx) Client.observed) Free
      (Client.startListener _ clock linkId listenAddr) as s seen)
    {ctx : Context} {clock' : Instant} {u₀ u : State ctx.snowstorm.Transport}
    {bs : List (Action ctx.snowstorm.Transport)} {useen : List (Seen Party Event)}
    (hstart : start ctx clock' = some u₀)
    (hserver : Run (observe (step ctx) observed) Free u₀ bs u useen) :
    ((s.tasks.map fun flow => flow.origin.localAddr).Nodup ∧
      (∀ origin old, .event (.removed origin old) ∈ seen → old = some origin.serial) ∧
      (∀ origin, .event (.started origin) ∈ seen →
        .arrived origin.localAddr origin.firstDatagram ∈ seen ∧
        ∃ taken, taken.Sublist (Client.laterIn origin seen) ∧
          Client.Sent cctx linkId origin.firstDatagram taken (Client.sentIn origin.serial seen)) ∧
      ∀ origin addr payload, .event (.toLocal origin addr payload) ∈ seen →
        addr = origin.localAddr) ∧
    (u.tasks.map fun session => session.party.src).Nodup ∧
      (∀ party old, .event (.removed party old) ∈ useen → old = some party.serial) ∧
      ∀ party, .event (.matched party) ∈ useen →
        (receivedIn party.serial useen).Sublist (laterIn party useen) := by
  constructor
  · have hd := Client.demuxInv hclient
    obtain ⟨hsent, rfl⟩ := Client.sentInv_run hclient
    refine ⟨?_, fun origin old hm => ?_, fun origin hm => ⟨hsent.first origin hm, ?_⟩,
      hsent.toLocal⟩
    · have hnodup := hd.addrs_nodup
      rwa [Client.State.demuxer, List.map_map] at hnodup
    · exact hd.removed _ _ (List.mem_filterMap.mpr ⟨_, hm, rfl⟩)
    · refine ⟨_, ?_, hsent.started origin hm⟩
      exact hd.taken _ _ (List.mem_filterMap.mpr ⟨_, hm, rfl⟩)
  · have hd := demuxInv hstart hserver
    refine ⟨?_, fun party old hm => ?_, fun party hm => ?_⟩
    · have hnodup := hd.addrs_nodup
      rwa [State.demuxer, List.map_map] at hnodup
    · exact hd.removed _ _ (List.mem_filterMap.mpr ⟨_, hm, rfl⟩)
    · exact hd.taken _ _ (List.mem_filterMap.mpr ⟨_, hm, rfl⟩)

/-! ### An example -/

/-- A client with a UDP forward link. -/
def Client.dnsConfig : Config where
  role := .client
  privateKeyPath := "/etc/ghostport/private.key"
  peerPublicKey := some "CQkJCQkJCQkJCQkJCQkJCQkJCQkJCQkJCQkJCQkJCQk="
  peers := []
  listenControl := none
  listenData := none
  listenUdp := none
  serverControlAddr := some "192.0.2.1:7001"
  serverDataAddr := some "192.0.2.1:7002"
  serverUdpAddr := some "192.0.2.1:7003"
  links := [⟨"dns", .forward, .udp, some "127.0.0.1:5353", none⟩]

def Client.dnsContext : Client.Context where
  buildInitiator _ _ := .ok ()
  config := Client.dnsConfig
  privateKey := List.replicate 32 2
  peerPublicKey := List.replicate 32 9
  snowstorm := Snowstorm.symbolic
  json := .single ⟨"dns", none⟩ dnsHello

/-- An application sends three datagrams from one port; the flow is established, and its last
    datagram comes after the flow has ended. -/
def Client.dnsFlow : List (Client.Action Unit) :=
  [.listener (.bind (.ok ())), .listener (.recv (.ok (.v4 ⟨127, 0, 0, 1⟩ 50000, [1]))),
    .listener .insert, .flow 0 (.bind (.ok ())), .flow 0 (.connect (.ok ())),
    .flow 0 (.handshake (.ok ())), .listener (.recv (.ok (.v4 ⟨127, 0, 0, 1⟩ 50000, [2]))),
    .flow 0 (.sent (.ok ())), .flow 0 (.sent (.ok ())), .flow 0 .fromLocal,
    .flow 0 (.fromTunnel (.ok [9])), .flow 0 (.fromTunnel (.error "connection refused")),
    .listener (.recv (.ok (.v4 ⟨127, 0, 0, 1⟩ 50000, [3]))), .flow 0 .remove]

def Client.dnsOrigin : Client.Origin := ⟨0, .v4 ⟨127, 0, 0, 1⟩ 50000, [1]⟩

theorem flows_isolated_dns :
    ∃ s seen, Run (observe (Client.step Client.dnsContext) Client.observed) Free
        (Client.startListener _ 0 "dns" "127.0.0.1:5353") Client.dnsFlow s seen ∧
      Client.sentIn 0 seen = [dnsHello.map fun c => c.toNat.toUInt8, [1], [2]] ∧
      Client.laterIn Client.dnsOrigin seen = [[2], [3]] ∧
      (∀ origin old, .event (.removed origin old) ∈ seen → old = some origin.serial) ∧
    ∃ u₀ u useen, start forwardContext 0 = some u₀ ∧
      Run (observe (step forwardContext) observed) Free u₀ bobOverUdp u useen ∧
      receivedIn 0 useen = [dnsHello.map fun c => c.toNat.toUInt8, [7]] ∧
      (u.tasks.map fun session => session.party.src).Nodup := by
  have htrace : ((exec (observe (Client.step Client.dnsContext) Client.observed)
      (Client.startListener _ 0 "dns" "127.0.0.1:5353") Client.dnsFlow).map fun r =>
        (Client.sentIn 0 r.2, Client.laterIn Client.dnsOrigin r.2)) =
      some ([dnsHello.map fun c => c.toNat.toUInt8, [1], [2]], [[2], [3]]) := by decide
  obtain ⟨⟨s, seen⟩, hexec, heq⟩ := Option.map_eq_some_iff.mp htrace
  have hutrace : ((exec (observe (step forwardContext) observed)
      ((start forwardContext 0).get (by decide)) bobOverUdp).map fun r => receivedIn 0 r.2) =
      some [dnsHello.map fun c => c.toNat.toUInt8, [7]] := by decide
  obtain ⟨⟨u, useen⟩, huexec, hueq⟩ := Option.map_eq_some_iff.mp hutrace
  have hstart : start forwardContext 0 = some ((start forwardContext 0).get (by decide)) :=
    (Option.some_get _).symm
  obtain ⟨⟨-, hremoved, -, -⟩, hnodup, -, -⟩ :=
    flows_isolated (run_of_exec hexec) hstart (run_of_exec huexec)
  exact ⟨s, seen, run_of_exec hexec, congrArg Prod.fst heq, congrArg Prod.snd heq, hremoved, _,
    u, useen, hstart, run_of_exec huexec, hueq, hnodup⟩

end Ghostport.Udp
