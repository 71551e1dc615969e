import Ghostport.Client.State
import Ghostport.Udp.Server

/-!
# The UDP client (`crates/ghostport-udp/src/client.rs`)

`run` starts a listener for each UDP forward link. A listener reads its local socket and hands
each datagram to the flow of its source address, or starts one; each flow dials the server.
Listeners share nothing, so the machine is one listener with its flows.
-/

namespace Ghostport.Udp.Client

open Ghostport.Core Ghostport.Net Ghostport.Lib

/-- `FLOW_IDLE_TIMEOUT` (line 24). -/
def flowIdleTimeout : Instant := 60 * 10 ^ 9

/-- `HANDSHAKE_TIMEOUT` (line 31). -/
def handshakeTimeout : Instant := 10 * 10 ^ 9

/-- The capacity of a flow's queue (line 114). -/
def localCapacity : ℕ := 16

/-- `Context` (lines 34-42): its fields are those of the TCP client's. -/
structure Context extends Ghostport.Client.Context where
  snowstorm : Snowstorm
  json : Json StreamHello

/-! ## What is printed -/

inductive LogLine where
  /-- Line 87. -/
  | bindFailed (linkId listenAddr e : String)
  /-- Line 91. -/
  | listening (linkId listenAddr : String)
  /-- Line 99. -/
  | recvFailed (linkId e : String)
  /-- Line 154. -/
  | tunnelFailed (linkId : String) (localAddr : SocketAddr) (e : String)
  /-- Lines 159-161. -/
  | connectFailed (linkId : String) (localAddr : SocketAddr) (serverUdpAddr e : String)
  /-- Line 168. -/
  | initiatorFailed (linkId : String) (localAddr : SocketAddr) (e : String)
  /-- Line 181. -/
  | handshakeFailed (linkId : String) (localAddr : SocketAddr) (e : String)
  /-- Line 185. -/
  | handshakeTimedOut (linkId : String) (localAddr : SocketAddr)
  /-- Line 198. -/
  | helloFailed (linkId : String) (localAddr : SocketAddr)
  /-- Line 205. -/
  | established (linkId : String) (localAddr : SocketAddr)
  /-- Line 224. -/
  | closed (linkId : String) (localAddr : SocketAddr)
  deriving DecidableEq, Repr

/-- What every line about a link begins with. -/
def linkTag (linkId : String) : List Char :=
  "ghostport-udp: [".toList ++ linkId.toList ++ "] ".toList

/-- The printed text, without the newline that ends it. -/
def LogLine.render : LogLine → List Char
  | .bindFailed linkId listenAddr e =>
    linkTag linkId ++ "failed to bind ".toList ++ listenAddr.toList ++ ": ".toList ++ e.toList
  | .listening linkId listenAddr =>
    linkTag linkId ++ "listening on ".toList ++ listenAddr.toList ++ " (forward)".toList
  | .recvFailed linkId e => linkTag linkId ++ "recv failed: ".toList ++ e.toList
  | .tunnelFailed linkId localAddr e =>
    linkTag linkId ++ localAddr.display ++ ": failed to open tunnel socket: ".toList ++ e.toList
  | .connectFailed linkId localAddr serverUdpAddr e =>
    linkTag linkId ++ localAddr.display ++ ": failed to connect to ".toList ++
      serverUdpAddr.toList ++ ": ".toList ++ e.toList
  | .initiatorFailed linkId localAddr e =>
    linkTag linkId ++ localAddr.display ++ ": ".toList ++ e.toList
  | .handshakeFailed linkId localAddr e =>
    linkTag linkId ++ localAddr.display ++ ": handshake failed: ".toList ++ e.toList
  | .handshakeTimedOut linkId localAddr =>
    linkTag linkId ++ localAddr.display ++ ": handshake timed out".toList
  | .helloFailed linkId localAddr =>
    linkTag linkId ++ localAddr.display ++ ": failed to send StreamHello".toList
  | .established linkId localAddr =>
    linkTag linkId ++ "flow from ".toList ++ localAddr.display ++ " established".toList
  | .closed linkId localAddr =>
    linkTag linkId ++ "flow from ".toList ++ localAddr.display ++ " closed".toList

/-! ## State -/

/-- Where `run_forward_listener` stands. -/
inductive ListenerPhase where
  | binding
  | returned
  | receiving
  /-- It has a datagram of an unknown source and waits for the flow map. -/
  | inserting (src : SocketAddr) (firstDatagram : List UInt8)
  deriving DecidableEq

/-- What a flow is started with. `serial` numbers the flows, and stands for the channel that
    was made for the flow. -/
structure Origin where
  serial : ℕ
  localAddr : SocketAddr
  firstDatagram : List UInt8
  deriving DecidableEq

/-- Where `run_flow` stands. -/
inductive FlowPhase (T : Type) where
  | binding (serverUdpAddr : String)
  | connecting (serverUdpAddr : String)
  | handshaking (deadline : Instant)
  | sendingHello (transport : T) (helloBytes : List UInt8)
  | sendingFirst (transport : T)
  | relaying (transport : T) (deadline : Instant)
  /-- `run_flow` has returned, and the task waits for the flow map. -/
  | ended
  /-- The task is gone, and leaves its entry in the flow map. -/
  | panicked

structure Flow (T : Type) where
  origin : Origin
  fromLocal : List (List UInt8)
  phase : FlowPhase T

/-- One listener. `flows` maps a local address to the channel of its flow. -/
structure State (T : Type) where
  clock : Instant
  linkId : String
  listenAddr : String
  listener : ListenerPhase
  flows : SocketAddr → Option ℕ
  nextSerial : ℕ
  tasks : List (Flow T)

/-- The listeners that `run` starts (lines 59-71), `none` where an `expect` fails. -/
def forwardListeners : List LinkConfig → Option (List (String × String))
  | [] => some []
  | link :: links =>
    if link.transport = .udp ∧ link.mode = .forward then
      match link.listen with
      | none => none
      | some listenAddr => (forwardListeners links).map ((link.id, listenAddr) :: ·)
    else forwardListeners links

/-- `run_forward_listener` up to its first await (line 84), at time `clock`. -/
def startListener (T : Type) (clock : Instant) (linkId listenAddr : String) : State T :=
  { clock := clock, linkId := linkId, listenAddr := listenAddr, listener := .binding,
    flows := fun _ => none, nextSerial := 0, tasks := [] }

inductive Event where
  | print (line : LogLine)
  /-- A flow begins. -/
  | started (origin : Origin)
  /-- It sends `payload` into its tunnel. -/
  | toTunnel (origin : Origin) (payload : List UInt8)
  /-- It sends to `addr` what came out of its tunnel. -/
  | toLocal (origin : Origin) (addr : SocketAddr) (payload : List UInt8)
  /-- The task removes the entry of its local address, which named `old`. -/
  | removed (origin : Origin) (old : Option ℕ)
  | panicked
  deriving DecidableEq

/-! ## Actions -/

inductive ListenerAction where
  | bind (result : Except String Unit)
  | recv (result : Except String (SocketAddr × List UInt8))
  | insert

inductive FlowAction (T : Type) where
  | bind (result : Except String Unit)
  | connect (result : Except String Unit)
  | handshake (result : Except String T)
  | handshakeTimeout
  /-- `noise_socket.send` of the hello or of the first datagram returns. -/
  | sent (result : Except String Unit)
  /-- `from_local.recv()` returns. -/
  | fromLocal
  /-- A datagram comes out of the tunnel socket, or an error. -/
  | fromTunnel (result : Except String (List UInt8))
  | idle
  | remove

inductive Action (T : Type) where
  | tick (now : Instant)
  | listener (a : ListenerAction)
  | flow (i : ℕ) (a : FlowAction T)

/-! ## Steps -/

/-- `try_send` (line 110): a full or closed queue drops the datagram. -/
def Flow.trySend {T : Type} (flow : Flow T) (datagram : List UInt8) : Flow T :=
  match flow.phase with
  | .ended | .panicked => flow
  | _ =>
    if flow.fromLocal.length < localCapacity then
      { flow with fromLocal := flow.fromLocal ++ [datagram] }
    else flow

/-- The datagram goes to the task whose channel is `serial`. -/
def route {T : Type} (tasks : List (Flow T)) (serial : ℕ) (datagram : List UInt8) :
    List (Flow T) :=
  tasks.map fun flow => if flow.origin.serial = serial then flow.trySend datagram else flow

/-- A call of `run_flow` up to its first await (lines 145-151). -/
def runFlowStart {T : Type} (config : Config) (origin : Origin) : Flow T × List Event :=
  match config.serverUdpAddr with
  | none => (⟨origin, [], .panicked⟩, [.panicked])
  | some serverUdpAddr => (⟨origin, [], .binding serverUdpAddr⟩, [])

/-- `run_forward_listener` (lines 84-126). -/
def runForwardListener {T : Type} (ctx : Context) (s : State T) (a : ListenerAction) :
    Option (State T × List Event) :=
  match s.listener, a with
  | .binding, .bind (.error e) =>
    some ({ s with listener := .returned }, [.print (.bindFailed s.linkId s.listenAddr e)])
  | .binding, .bind (.ok ()) =>
    some ({ s with listener := .receiving }, [.print (.listening s.linkId s.listenAddr)])
  | .receiving, .recv (.error e) => some (s, [.print (.recvFailed s.linkId e)])
  | .receiving, .recv (.ok (src, datagram)) =>
    match s.flows src with
    | some serial => some ({ s with tasks := route s.tasks serial datagram }, [])
    | none => some ({ s with listener := .inserting src datagram }, [])
  | .inserting src firstDatagram, .insert =>
    let origin : Origin := ⟨s.nextSerial, src, firstDatagram⟩
    let (flow, events) := runFlowStart ctx.config origin
    some ({ s with
      listener := .receiving
      flows := Function.update s.flows src (some s.nextSerial)
      nextSerial := s.nextSerial + 1
      tasks := s.tasks ++ [flow] }, .started origin :: events)
  | _, _ => none

/-- `run_flow` (lines 151-225). -/
def runFlow (ctx : Context) (linkId : String) (clock : Instant) (senderAlive : Bool)
    (flow : Flow ctx.snowstorm.Transport) (a : FlowAction ctx.snowstorm.Transport) :
    Option (Flow ctx.snowstorm.Transport × List Event) :=
  let origin := flow.origin
  let localAddr := origin.localAddr
  let stop (events : List Event) := some ({ flow with fromLocal := [], phase := .ended }, events)
  match flow.phase, a with
  | .binding _, .bind (.error e) => stop [.print (.tunnelFailed linkId localAddr e)]
  | .binding serverUdpAddr, .bind (.ok ()) =>
    some ({ flow with phase := .connecting serverUdpAddr }, [])
  | .connecting serverUdpAddr, .connect (.error e) =>
    stop [.print (.connectFailed linkId localAddr serverUdpAddr e)]
  | .connecting _, .connect (.ok ()) =>
    match ctx.initiator with
    | .error e => stop [.print (.initiatorFailed linkId localAddr e)]
    | .ok () => some ({ flow with phase := .handshaking (clock + handshakeTimeout) }, [])
  | .handshaking _, .handshake (.error e) =>
    stop [.print (.handshakeFailed linkId localAddr e)]
  | .handshaking deadline, .handshakeTimeout =>
    if deadline ≤ clock then stop [.print (.handshakeTimedOut linkId localAddr)] else none
  | .handshaking _, .handshake (.ok transport) =>
    match ctx.json.toVec ⟨linkId, none⟩ with
    | .error _ => stop []
    | .ok helloBytes => some ({ flow with phase := .sendingHello transport helloBytes }, [])
  | .sendingHello _ _, .sent (.error _) => stop [.print (.helloFailed linkId localAddr)]
  | .sendingHello transport helloBytes, .sent (.ok ()) =>
    some ({ flow with phase := .sendingFirst transport }, [.toTunnel origin helloBytes])
  | .sendingFirst _, .sent (.error _) => stop []
  | .sendingFirst transport, .sent (.ok ()) =>
    some ({ flow with phase := .relaying transport (clock + flowIdleTimeout) },
      [.toTunnel origin origin.firstDatagram, .print (.established linkId localAddr)])
  | .relaying transport _, .fromLocal =>
    match flow.fromLocal with
    | bytes :: rest =>
      some ({ flow with
        fromLocal := rest, phase := .relaying transport (clock + flowIdleTimeout) },
        [.toTunnel origin bytes])
    | [] => if senderAlive then none else stop [.print (.closed linkId localAddr)]
  | .relaying _ _, .fromTunnel (.error _) => stop [.print (.closed linkId localAddr)]
  | .relaying transport _, .fromTunnel (.ok datagram) =>
    match ctx.snowstorm.decrypt transport datagram with
    | .error _ => stop [.print (.closed linkId localAddr)]
    | .ok bytes =>
      some ({ flow with phase := .relaying transport (clock + flowIdleTimeout) },
        [.toLocal origin localAddr bytes])
  | .relaying _ deadline, .idle =>
    if deadline ≤ clock then stop [.print (.closed linkId localAddr)] else none
  | _, _ => none

def step (ctx : Context) (s : State ctx.snowstorm.Transport) :
    Action ctx.snowstorm.Transport → Option (State ctx.snowstorm.Transport × List Event)
  | .tick now => if s.clock ≤ now then some ({ s with clock := now }, []) else none
  | .listener a => runForwardListener ctx s a
  | .flow i a =>
    match s.tasks[i]? with
    | none => none
    | some flow =>
      match flow.phase, a with
      | .ended, .remove =>
        some ({ s with
          flows := Function.update s.flows flow.origin.localAddr none
          tasks := s.tasks.eraseIdx i }, [.removed flow.origin (s.flows flow.origin.localAddr)])
      | _, _ =>
        (runFlow ctx s.linkId s.clock (s.flows flow.origin.localAddr = some flow.origin.serial)
          flow a).map fun r => ({ s with tasks := s.tasks.set i r.1 }, r.2)

/-- The runs of a listener of the client whose steps all meet `C`. -/
def ListenerRun (ctx : Context)
    (C : State ctx.snowstorm.Transport → Action ctx.snowstorm.Transport → Prop)
    (as : List (Action ctx.snowstorm.Transport)) (s : State ctx.snowstorm.Transport)
    (tr : List Event) : Prop :=
  ∃ clock listeners linkId listenAddr, forwardListeners ctx.config.links = some listeners ∧
    (linkId, listenAddr) ∈ listeners ∧
    Run (step ctx) C (startListener _ clock linkId listenAddr) as s tr

/-! ## What a step can do -/

/-- The task is gone, or about to remove its entry. -/
def FlowPhase.over {T : Type} : FlowPhase T → Bool
  | .ended | .panicked => true
  | _ => false

/-- `run_flow` returns, which closes its queue. -/
def Flow.stop {T : Type} (flow : Flow T) : Flow T := { flow with fromLocal := [], phase := .ended }

section

variable {T : Type} (flow : Flow T)

@[simp] theorem Flow.stop_origin : flow.stop.origin = flow.origin := rfl

@[simp] theorem Flow.stop_fromLocal : flow.stop.fromLocal = [] := rfl

@[simp] theorem Flow.stop_phase : flow.stop.phase = .ended := rfl

end

/-- A datagram enters the queue of a task that is not over and has room. -/
theorem Flow.trySend_eq {T : Type} (flow : Flow T) (datagram : List UInt8) :
    flow.trySend datagram =
      if flow.phase.over = false ∧ flow.fromLocal.length < localCapacity then
        { flow with fromLocal := flow.fromLocal ++ [datagram] }
      else flow := by
  obtain ⟨origin, fromLocal, phase⟩ := flow
  cases phase <;> simp [Flow.trySend, FlowPhase.over]

/-- A flow after `route`: the datagram may have entered its queue. -/
theorem of_mem_route {T : Type} {tasks : List (Flow T)} {serial : ℕ} {datagram : List UInt8}
    {flow : Flow T} (hm : flow ∈ route tasks serial datagram) :
    ∃ flow₀ ∈ tasks, flow₀.origin = flow.origin ∧ flow₀.phase = flow.phase := by
  obtain ⟨flow₀, hm₀, rfl⟩ := List.mem_map.mp hm
  refine ⟨flow₀, hm₀, ?_⟩
  rw [Flow.trySend_eq]
  split
  · split <;> exact ⟨rfl, rfl⟩
  · exact ⟨rfl, rfl⟩

variable {ctx : Context}

section

variable (linkId : String) (clock : Instant) (flow : Flow ctx.snowstorm.Transport)

/-- The cases of a flow. -/
inductive FlowCase :
    FlowAction ctx.snowstorm.Transport → Flow ctx.snowstorm.Transport → List Event → Prop
  | stopped {a : FlowAction ctx.snowstorm.Transport} {es : List Event} :
    flow.phase.over = false → (a = .fromLocal → flow.fromLocal = []) →
    (∀ e ∈ es, ∃ line, e = .print line) → FlowCase a flow.stop es
  | bound {serverUdpAddr : String} :
    flow.phase = .binding serverUdpAddr →
    FlowCase (.bind (.ok ())) { flow with phase := .connecting serverUdpAddr } []
  | connected {serverUdpAddr : String} :
    flow.phase = .connecting serverUdpAddr →
    FlowCase (.connect (.ok ()))
      { flow with phase := .handshaking (clock + handshakeTimeout) } []
  | handshaken {deadline : Instant} {transport : ctx.snowstorm.Transport}
    {helloBytes : List UInt8} :
    flow.phase = .handshaking deadline → ctx.json.toVec ⟨linkId, none⟩ = .ok helloBytes →
    FlowCase (.handshake (.ok transport))
      { flow with phase := .sendingHello transport helloBytes } []
  | helloSent {transport : ctx.snowstorm.Transport} {helloBytes : List UInt8} :
    flow.phase = .sendingHello transport helloBytes →
    FlowCase (.sent (.ok ())) { flow with phase := .sendingFirst transport }
      [.toTunnel flow.origin helloBytes]
  | established {transport : ctx.snowstorm.Transport} {line : LogLine} :
    flow.phase = .sendingFirst transport →
    FlowCase (.sent (.ok ()))
      { flow with phase := .relaying transport (clock + flowIdleTimeout) }
      [.toTunnel flow.origin flow.origin.firstDatagram, .print line]
  /-- It takes a datagram and sends it into the tunnel. -/
  | relayed {transport : ctx.snowstorm.Transport} {deadline : Instant} {bytes : List UInt8}
    {rest : List (List UInt8)} :
    flow.phase = .relaying transport deadline → flow.fromLocal = bytes :: rest →
    FlowCase .fromLocal
      { flow with fromLocal := rest, phase := .relaying transport (clock + flowIdleTimeout) }
      [.toTunnel flow.origin bytes]
  | answered {transport : ctx.snowstorm.Transport} {deadline : Instant}
    {datagram bytes : List UInt8} :
    flow.phase = .relaying transport deadline →
    ctx.snowstorm.decrypt transport datagram = .ok bytes →
    FlowCase (.fromTunnel (.ok datagram))
      { flow with phase := .relaying transport (clock + flowIdleTimeout) }
      [.toLocal flow.origin flow.origin.localAddr bytes]

end

variable {linkId : String} {clock : Instant} {alive : Bool}
  {flow flow' : Flow ctx.snowstorm.Transport} {es : List Event}

theorem runFlow_cases {a : FlowAction ctx.snowstorm.Transport}
    (h : runFlow ctx linkId clock alive flow a = some (flow', es)) :
    FlowCase linkId clock flow a flow' es := by
  obtain ⟨origin, fromLocal, phase⟩ := flow
  unfold runFlow at h
  simp only at h
  split at h
  case h_1 | h_3 | h_5 | h_8 | h_10 | h_13 => cases h; exact .stopped rfl (by simp) (by simp)
  case h_2 => cases h; exact .bound rfl
  case h_4 =>
    split at h
    · cases h
      exact .stopped rfl (by simp) (by simp)
    · cases h
      exact .connected rfl
  case h_6 | h_15 =>
    split at h
    · cases h
      exact .stopped rfl (by simp) (by simp)
    · cases h
  case h_7 =>
    split at h
    · cases h
      exact .stopped rfl (by simp) (by simp)
    · rename_i helloBytes hjson
      cases h
      exact .handshaken rfl hjson
  case h_9 => cases h; exact .helloSent rfl
  case h_11 => cases h; exact .established rfl
  case h_12 =>
    split at h
    · cases h
      exact .relayed rfl rfl
    · split at h
      · cases h
      · cases h
        exact .stopped rfl (by simp) (by simp)
  case h_14 =>
    split at h
    · cases h
      exact .stopped rfl (by simp) (by simp)
    · rename_i bytes hdecrypt
      cases h
      exact .answered rfl hdecrypt
  case h_16 => cases h

theorem FlowCase.origin_eq {a : FlowAction ctx.snowstorm.Transport}
    (h : FlowCase linkId clock flow a flow' es) : flow'.origin = flow.origin := by
  cases h <;> rfl

/-- A task that is over does nothing more. -/
theorem FlowCase.not_over {a : FlowAction ctx.snowstorm.Transport}
    (h : FlowCase linkId clock flow a flow' es) : flow.phase.over = false := by
  cases h with
  | stopped hover _ _ => exact hover
  | bound hphase | connected hphase | handshaken hphase _ | helloSent hphase
  | established hphase | relayed hphase _ | answered hphase _ =>
    rw [hphase]
    rfl

variable {s s' : State ctx.snowstorm.Transport}

/-- The cases of a call of `run_flow` up to its first await. -/
inductive FlowStartCase (config : Config) (origin : Origin) :
    Flow ctx.snowstorm.Transport → List Event → Prop
  | binding {serverUdpAddr : String} : config.serverUdpAddr = some serverUdpAddr →
    FlowStartCase config origin ⟨origin, [], .binding serverUdpAddr⟩ []
  | panicked : config.serverUdpAddr = none →
    FlowStartCase config origin ⟨origin, [], .panicked⟩ [.panicked]

theorem runFlowStart_cases (config : Config) (origin : Origin) :
    @FlowStartCase ctx config origin (runFlowStart config origin).1
      (runFlowStart (T := ctx.snowstorm.Transport) config origin).2 := by
  unfold runFlowStart
  split
  · rename_i hnone
    exact .panicked hnone
  · rename_i hsome
    exact .binding hsome

/-- The cases of the listener. -/
inductive ListenerCase (s : State ctx.snowstorm.Transport) :
    ListenerAction → State ctx.snowstorm.Transport → List Event → Prop
  | bound {result : Except String Unit} {listener : ListenerPhase} {line : LogLine} :
    s.listener = .binding → listener = .returned ∨ listener = .receiving →
    ListenerCase s (.bind result) { s with listener := listener } [.print line]
  | failed {e : String} {line : LogLine} :
    s.listener = .receiving → ListenerCase s (.recv (.error e)) s [.print line]
  | routed {src : SocketAddr} {datagram : List UInt8} {serial : ℕ} :
    s.listener = .receiving → s.flows src = some serial →
    ListenerCase s (.recv (.ok (src, datagram)))
      { s with tasks := route s.tasks serial datagram } []
  | unknown {src : SocketAddr} {datagram : List UInt8} :
    s.listener = .receiving → s.flows src = none →
    ListenerCase s (.recv (.ok (src, datagram))) { s with listener := .inserting src datagram } []
  | inserted {src : SocketAddr} {firstDatagram : List UInt8} {origin : Origin}
    {flow : Flow ctx.snowstorm.Transport} {es : List Event} :
    s.listener = .inserting src firstDatagram → origin = ⟨s.nextSerial, src, firstDatagram⟩ →
    FlowStartCase ctx.config origin flow es →
    ListenerCase s .insert
      { s with
        listener := .receiving
        flows := Function.update s.flows src (some s.nextSerial)
        nextSerial := s.nextSerial + 1
        tasks := s.tasks ++ [flow] } (.started origin :: es)

theorem runForwardListener_cases {a : ListenerAction}
    (h : runForwardListener ctx s a = some (s', es)) : ListenerCase s a s' es := by
  unfold runForwardListener at h
  split at h
  case h_1 hphase => cases h; exact .bound hphase (.inl rfl)
  case h_2 hphase => cases h; exact .bound hphase (.inr rfl)
  case h_3 hphase => cases h; exact .failed hphase
  case h_4 src datagram hphase =>
    split at h
    · rename_i serial hentry
      cases h
      exact .routed hphase hentry
    · rename_i hentry
      cases h
      exact .unknown hphase hentry
  case h_5 src firstDatagram hphase =>
    cases h
    exact .inserted hphase rfl (runFlowStart_cases ..)
  case h_6 => cases h

/-- The cases of a step, by task. -/
inductive StepCase (s : State ctx.snowstorm.Transport) :
    Action ctx.snowstorm.Transport → State ctx.snowstorm.Transport → List Event → Prop
  | tick {now : Instant} : s.clock ≤ now → StepCase s (.tick now) { s with clock := now } []
  | listener {a : ListenerAction} {s' : State ctx.snowstorm.Transport} {es : List Event} :
    ListenerCase s a s' es → StepCase s (.listener a) s' es
  | flow {i : ℕ} {a : FlowAction ctx.snowstorm.Transport}
    {flow flow' : Flow ctx.snowstorm.Transport} {es : List Event} :
    s.tasks[i]? = some flow → FlowCase s.linkId s.clock flow a flow' es →
    StepCase s (.flow i a) { s with tasks := s.tasks.set i flow' } es
  | removed {i : ℕ} {flow : Flow ctx.snowstorm.Transport} :
    s.tasks[i]? = some flow → flow.phase = .ended →
    StepCase s (.flow i .remove)
      { s with
        flows := Function.update s.flows flow.origin.localAddr none
        tasks := s.tasks.eraseIdx i }
      [.removed flow.origin (s.flows flow.origin.localAddr)]

theorem step_cases {a : Action ctx.snowstorm.Transport} (h : step ctx s a = some (s', es)) :
    StepCase s a s' es := by
  match a with
  | .tick now =>
    simp only [step] at h
    split at h
    · rename_i hle
      cases h
      exact .tick hle
    · cases h
  | .listener a => exact .listener (runForwardListener_cases h)
  | .flow i a =>
    simp only [step] at h
    split at h
    · cases h
    · rename_i flow hi
      split at h
      · rename_i hphase
        cases h
        exact .removed hi hphase
      · obtain ⟨⟨flow', es'⟩, hrun, heq⟩ := Option.map_eq_some_iff.mp h
        cases heq
        exact .flow hi (runFlow_cases hrun)

end Ghostport.Udp.Client
