import Ghostport.System.EndToEnd
import Ghostport.Udp.Flows

/-!
# The UDP server and the listeners of its clients together

One server and any number of listeners run. The network carries the first messages of their
tunnels and the payloads that are sent in them, where a tunnel is named by its first message:
it loses, delays, reorders and repeats both. What a tunnel decrypts was sent in it. An intruder
may hold the keys of some peers, and opens tunnels with them.

Results:
* `datagrams_rightful`: what reaches a target was sent by one flow of a client of the peer's key,
  and what reaches an application was sent by a session of its own flow.
-/

namespace Ghostport.System.Datagram

open Ghostport.Core Ghostport.Lib Ghostport.Net

open Ghostport.Udp (Party Seen)

/-! ## The parties -/

/-- What travels between them: the first message of a tunnel, and payloads to the server and to
    the client. -/
inductive Packet where
  | init (message : List UInt8)
  | up (message payload : List UInt8)
  | down (message payload : List UInt8)
  deriving DecidableEq

/-- A listener, and the public key that the server knows its client by. -/
structure Listener where
  ctx : Udp.Client.Context
  linkId : String
  listenAddr : String
  publicKey : List UInt8
  /-- The first message of the flow of this number. -/
  firstMessage : ℕ → List UInt8

/-- A server with the listeners of its clients, the key that a first message was made with, and
    the keys that the intruder holds. -/
structure Setup (κ : Type) where
  server : Udp.Context
  listeners : κ → Listener
  producer : List UInt8 → Option (List UInt8)
  stolen : Finset (List UInt8)

section Parties

variable {κ : Type} (sys : Setup κ)

def StateOf : Role κ → Type
  | .server => Udp.State sys.server.snowstorm.Transport
  | .client k => Udp.Client.State (sys.listeners k).ctx.snowstorm.Transport
  | .intruder => Unit

/-- The intruder sends a packet. -/
def ActionOf : Role κ → Type
  | .server => Udp.Action sys.server.snowstorm.Transport
  | .client k => Udp.Client.Action (sys.listeners k).ctx.snowstorm.Transport
  | .intruder => Packet

def EventOf : Role κ → Type
  | .server => Udp.Event
  | .client _ => Seen Udp.Client.Origin Udp.Client.Event
  | .intruder => Packet

end Parties

section Server

variable (ctx : Udp.Context)

/-- A session sends to its peer what came from the target (server.rs, line 230). -/
def serverSends : Udp.Event → Option Packet
  | .toPeer party _ _ payload => some (.down party.message payload)
  | _ => none

/-- What `noise_socket.recv()` of a session decrypts. -/
def sessionReads (session : Udp.Session ctx.snowstorm.Transport) : Option Packet :=
  session.phase.transport.bind fun transport =>
    session.inbound.head?.bind fun datagram =>
      (ctx.snowstorm.decrypt transport datagram).toOption.map (.up session.party.message)

/-- The first message of a session that begins, and what a session decrypts. -/
def serverReads (s : Udp.State ctx.snowstorm.Transport) :
    Udp.Action ctx.snowstorm.Transport → Option Packet
  | .demux .insert =>
    match s.demux with
    | .inserting _ message _ => some (.init message)
    | _ => none
  | .session i .recv => s.tasks[i]?.bind (sessionReads ctx)
  | _ => none

def serverTakes : Udp.Event → Option Packet
  | .matched party => some (.init party.message)
  | .toTarget party _ _ payload => some (.up party.message payload)
  | _ => none

end Server

section Listeners

variable (l : Listener)

/-- A flow sends its first message, and payloads (client.rs, lines 173-211). The network may have
    the first message as soon as the flow is started. -/
def listenerSends : Seen Udp.Client.Origin Udp.Client.Event → Option Packet
  | .event (.started origin) => some (.init (l.firstMessage origin.serial))
  | .event (.toTunnel origin payload) => some (.up (l.firstMessage origin.serial) payload)
  | _ => none

/-- What the tunnel of a flow decrypts. -/
def flowReads (flow : Udp.Client.Flow l.ctx.snowstorm.Transport) (datagram : List UInt8) :
    Option Packet :=
  match flow.phase with
  | .relaying transport _ =>
    (l.ctx.snowstorm.decrypt transport datagram).toOption.map
      (.down (l.firstMessage flow.origin.serial))
  | _ => none

def listenerReads (s : Udp.Client.State l.ctx.snowstorm.Transport) :
    Udp.Client.Action l.ctx.snowstorm.Transport → Option Packet
  | .flow i (.fromTunnel (.ok datagram)) => s.tasks[i]?.bind (flowReads l · datagram)
  | _ => none

def listenerTakes : Seen Udp.Client.Origin Udp.Client.Event → Option Packet
  | .event (.toLocal origin _ payload) => some (.down (l.firstMessage origin.serial) payload)
  | _ => none

end Listeners

section Intruder

variable {κ : Type} (sys : Setup κ)

/-- The intruder opens tunnels with the keys it holds. It does not have the server's. -/
def intrude (_ : Unit) (packet : Packet) : Option (Unit × List Packet) :=
  match packet with
  | .init message | .up message _ =>
    if ∃ publicKey ∈ sys.producer message, publicKey ∈ sys.stolen then some ((), [packet])
    else none
  | .down _ _ => none

end Intruder

/-! ## What a party takes it has read -/

section Reads

variable {ctx : Udp.Context} {s s' : Udp.State ctx.snowstorm.Transport}

theorem sessionReads_eq {session : Udp.Session ctx.snowstorm.Transport}
    {transport : ctx.snowstorm.Transport} {datagram bytes : List UInt8} {rest : List (List UInt8)}
    (hphase : session.phase.transport = some transport)
    (hinbound : session.inbound = datagram :: rest)
    (hdecrypt : ctx.snowstorm.decrypt transport datagram = .ok bytes) :
    sessionReads ctx session = some (.up session.party.message bytes) := by
  simp [sessionReads, hphase, hinbound, hdecrypt, Except.toOption]

theorem serverTakes_reads {a : Udp.Action ctx.snowstorm.Transport} {es : List Udp.Event}
    (h : Udp.step ctx s a = some (s', es)) :
    ∀ e ∈ es, ∀ m, serverTakes e = some m → serverReads ctx s a = some m := by
  have quiet : (∀ e ∈ es, serverTakes e = none) →
      ∀ e ∈ es, ∀ m, serverTakes e = some m → serverReads ctx s a = some m := by
    intro hes e he m htakes
    rw [hes e he] at htakes
    cases htakes
  cases Udp.step_cases h with
  | tick _ => exact quiet (by simp)
  | demux hc =>
    cases hc with
    | bound _ _ hprint =>
      refine quiet fun e he => ?_
      obtain ⟨line, rfl⟩ := hprint e he
      rfl
    | inserted hphase hparty =>
      subst hparty
      simp [serverTakes, serverReads, hphase]
    | _ => exact quiet (by simp [serverTakes])
  | session hi hc =>
    cases hc with
    | relayed hphase hinbound hdecrypt =>
      have hreads := sessionReads_eq (by rw [hphase]; rfl) hinbound hdecrypt
      simp [serverTakes, serverReads, hi, hreads]
    | _ => exact quiet (by simp [serverTakes])
  | removed _ _ => exact quiet (by simp [serverTakes])

theorem listenerTakes_reads {l : Listener} {s s' : Udp.Client.State l.ctx.snowstorm.Transport}
    {a : Udp.Client.Action l.ctx.snowstorm.Transport}
    {es : List (Seen Udp.Client.Origin Udp.Client.Event)}
    (h : observe (Udp.Client.step l.ctx) Udp.Client.observed s a = some (s', es)) :
    ∀ e ∈ es, ∀ m, listenerTakes l e = some m → listenerReads l s a = some m := by
  obtain ⟨⟨s₁, es₁⟩, hst, heq⟩ := Option.map_eq_some_iff.mp h
  cases heq
  have quiet : (∀ e ∈ Udp.Client.observed s a es₁, listenerTakes l e = none) →
      ∀ e ∈ Udp.Client.observed s a es₁, ∀ m, listenerTakes l e = some m →
        listenerReads l s a = some m := by
    intro hes e he m htakes
    rw [hes e he] at htakes
    cases htakes
  cases Udp.Client.step_cases hst with
  | tick _ => exact quiet (by simp [Udp.Client.observed])
  | listener hc =>
    cases hc with
    | inserted _ _ hstart =>
      cases hstart <;> exact quiet (by simp [Udp.Client.observed, listenerTakes])
    | _ => exact quiet (by simp [Udp.Client.observed, listenerTakes])
  | flow hi hc =>
    cases hc with
    | answered hphase hdecrypt =>
      simp [Udp.Client.observed, listenerTakes, listenerReads, hi, flowReads, hphase, hdecrypt,
        Except.toOption]
    | stopped _ hqueue hprint =>
      rw [Udp.Client.FlowCase.observed_stopped hi hqueue]
      intro e he m htakes
      obtain ⟨e', he', rfl⟩ := List.mem_map.mp he
      obtain ⟨line, rfl⟩ := hprint e' he'
      cases htakes
    | relayed _ hqueue =>
      rw [Udp.Client.observed_fromLocal hi hqueue]
      simp [listenerTakes]
    | _ => exact quiet (by simp [Udp.Client.observed, listenerTakes])
  | removed _ _ => exact quiet (by simp [Udp.Client.observed, listenerTakes])

end Reads

/-! ## The link of a session -/

section Named

variable {ctx : Udp.Context}

/-- A payload of the tunnel reads as a hello of the link. -/
def Named (ctx : Udp.Context) (sent : List Packet) (message : List UInt8) (link : LinkConfig) :
    Prop :=
  ∃ bytes hello, .up message bytes ∈ sent ∧ ctx.json.fromSlice bytes = .ok hello ∧
    hello.linkId = link.id

/-- The party and the link of an event that reaches a target. -/
def linkOf : Udp.Event → Option (Party × LinkConfig)
  | .dialed party link _ | .toTarget party link _ _ | .toPeer party link _ _ => some (party, link)
  | _ => none

def SessionNamed (sent : List Packet) (session : Udp.Session ctx.snowstorm.Transport) : Prop :=
  ∀ link target, session.phase.link = some (link, target) →
    Named ctx sent session.party.message link

/-- The sessions serve links that their tunnels have named. -/
structure NamedInv (s : Udp.State ctx.snowstorm.Transport) (tr : List Udp.Event)
    (sent : List Packet) : Prop where
  tasks : ∀ session ∈ s.tasks, SessionNamed sent session
  events : ∀ e ∈ tr, ∀ p ∈ linkOf e, Named ctx sent p.1.message p.2

theorem Named.mono {sent more : List Packet} {message : List UInt8} {link : LinkConfig}
    (h : Named ctx sent message link) : Named ctx (sent ++ more) message link := by
  obtain ⟨bytes, hello, hsent, hjson, hlink⟩ := h
  exact ⟨bytes, hello, List.mem_append_left _ hsent, hjson, hlink⟩

variable {sent : List Packet} {session session' : Udp.Session ctx.snowstorm.Transport}
  {clock : Instant} {alive : Bool} {a : Udp.SessionAction ctx.snowstorm.Transport}
  {es : List Udp.Event}

theorem sessionNamed_step (h : SessionNamed sent session)
    (hread : a = .recv → ∀ m ∈ sessionReads ctx session, m ∈ sent)
    (hc : Udp.SessionCase clock alive session a session' es) :
    SessionNamed sent session' ∧ ∀ e ∈ es, ∀ p ∈ linkOf e, Named ctx sent p.1.message p.2 := by
  -- a session that keeps its link speaks about this link
  have keeps : ∀ {phase : Udp.SessionPhase ctx.snowstorm.Transport} {link : LinkConfig}
      {target : String}, session.phase = phase → phase.link = some (link, target) →
      Named ctx sent session.party.message link := by
    intro phase link target hphase hlink
    exact h link target (by rw [hphase, hlink])
  cases hc with
  | stopped _ _ | cutOff _ _ _ | garbled _ _ _ | refused _ _ _ _ | handshaken _
  | panicked _ _ _ _ _ =>
    constructor
    · intro link target hlink
      cases hlink
    · simp [linkOf]
  | @bound _ _ _ bytes _ hello link target hphase hinbound hdecrypt hjson hcheck =>
    constructor
    · intro link' target' hlink
      cases hlink
      have hreads := sessionReads_eq (by rw [hphase]; rfl) hinbound hdecrypt
      refine ⟨bytes, hello, hread rfl _ hreads, hjson, ?_⟩
      exact (Server.id_of_find (Udp.checkHello_bind hcheck).1).symm
    · simp
  | opened hphase =>
    constructor
    · intro link' target' hlink
      cases hlink
      exact keeps hphase rfl
    · simp [linkOf]
  | dialed hphase | relayed hphase _ _ | answered hphase =>
    have hnamed := keeps hphase rfl
    constructor
    · intro link' target' hlink
      cases hlink
      exact hnamed
    · simpa [linkOf] using hnamed

namespace NamedInv

variable {s s' : Udp.State ctx.snowstorm.Transport} {tr : List Udp.Event}

theorem mono (h : NamedInv s tr sent) (more : List Packet) : NamedInv s tr (sent ++ more) where
  tasks session hm link target hlink := (h.tasks session hm link target hlink).mono
  events e he p hp := (h.events e he p hp).mono

/-- A step that gives no session a link, and reaches no target. -/
theorem frame (h : NamedInv s tr sent)
    (htasks : ∀ session ∈ s'.tasks, session.phase.link = none ∨
      ∃ session₀ ∈ s.tasks, session.party = session₀.party ∧ session.phase = session₀.phase)
    (hes : ∀ e ∈ es, linkOf e = none) : NamedInv s' (tr ++ es) sent where
  tasks session hm link target hlink := by
    obtain hnone | ⟨session₀, hm₀, hparty, hphase⟩ := htasks session hm
    · rw [hnone] at hlink
      cases hlink
    · rw [hparty]
      exact h.tasks session₀ hm₀ link target (by rw [← hphase, hlink])
  events e he p hp := by
    rcases List.mem_append.mp he with he | he
    · exact h.events e he p hp
    · rw [hes e he] at hp
      cases hp

theorem step (h : NamedInv s tr sent) {a : Udp.Action ctx.snowstorm.Transport}
    (hread : ∀ m ∈ serverReads ctx s a, m ∈ sent) (hst : Udp.step ctx s a = some (s', es)) :
    NamedInv s' (tr ++ es) sent := by
  have same : ∀ session ∈ s.tasks, session.phase.link = none ∨
      ∃ session₀ ∈ s.tasks, session.party = session₀.party ∧ session.phase = session₀.phase :=
    fun session hm => .inr ⟨session, hm, rfl, rfl⟩
  cases Udp.step_cases hst with
  | tick _ => exact h.frame same (by simp)
  | demux hc =>
    cases hc with
    | bound _ _ hprint =>
      refine h.frame same fun e he => ?_
      obtain ⟨line, rfl⟩ := hprint e he
      rfl
    | routed _ _ =>
      refine h.frame (fun session hm => .inr ?_) (by simp)
      obtain ⟨session₀, hm₀, hparty, hphase, -⟩ := Udp.of_mem_route hm
      exact ⟨session₀, hm₀, hparty, hphase⟩
    | inserted _ hparty =>
      refine h.frame (fun session hm => ?_) (by simp [linkOf])
      rcases List.mem_append.mp hm with hm | hm
      · exact same session hm
      · rw [List.mem_singleton.mp hm]
        exact .inl rfl
    | failed _ | unknown _ _ | dropped _ _ _ | panicked _ _ _ _ _ | matched _ _ _ _ _ =>
      exact h.frame same (by simp [linkOf])
  | removed _ _ =>
    exact h.frame (fun session hm => same session (List.mem_of_mem_eraseIdx hm)) (by simp [linkOf])
  | @session i a session session' _ hi hc =>
    have hreads : a = .recv → ∀ m ∈ sessionReads ctx session, m ∈ sent := by
      rintro rfl m hm
      apply hread m
      show m ∈ s.tasks[i]?.bind (sessionReads ctx)
      rw [hi]
      exact hm
    obtain ⟨hnamed, hevents⟩ :=
      sessionNamed_step (h.tasks session (List.mem_of_getElem? hi)) hreads hc
    constructor
    case tasks =>
      intro session₁ hm
      rcases List.mem_or_eq_of_mem_set hm with hm | rfl
      · exact h.tasks session₁ hm
      · exact hnamed
    case events =>
      intro e he
      rcases List.mem_append.mp he with he | he
      · exact h.events e he
      · exact hevents e he

end NamedInv

end Named

/-! ## What a listener has sent -/

section Sent

variable {ctx : Udp.Client.Context} {clock : Instant} {linkId listenAddr : String}
  {C : Udp.Client.State ctx.snowstorm.Transport → Udp.Client.Action ctx.snowstorm.Transport → Prop}
  {as : List (Udp.Client.Action ctx.snowstorm.Transport)}
  {s : Udp.Client.State ctx.snowstorm.Transport}
  {seen : List (Seen Udp.Client.Origin Udp.Client.Event)}

/-- The payloads of flows that were started. -/
theorem started_run (h : Run (observe (Udp.Client.step ctx) Udp.Client.observed) C
      (Udp.Client.startListener _ clock linkId listenAddr) as s seen) {origin : Udp.Client.Origin}
    (hmem : (∃ payload, .event (.toTunnel origin payload) ∈ seen) ∨
      ∃ addr payload, .event (.toLocal origin addr payload) ∈ seen) :
    .event (.started origin) ∈ seen := by
  induction h with
  | nil => simp at hmem
  | @snoc as s s' seen new a hr _ hst ih =>
    simp only [List.mem_append, exists_or] at hmem ⊢
    rcases or_or_or_comm.mp hmem with hmem | hmem
    · exact .inl (ih hmem)
    left
    obtain ⟨⟨s₁, es⟩, hst₁, heq⟩ := Option.map_eq_some_iff.mp hst
    cases heq
    cases Udp.Client.step_cases hst₁ with
    | tick _ | removed _ _ => simp [Udp.Client.observed] at hmem
    | listener hc =>
      cases hc with
      | inserted _ _ hstart => cases hstart <;> simp [Udp.Client.observed] at hmem
      | _ => simp [Udp.Client.observed] at hmem
    | @flow i a flow flow' es hi hc =>
      have hstarted := ((Udp.Client.sentInv_run hr).1.flows flow (List.mem_of_getElem? hi)).1
      have horigin : flow.origin = origin := by
        rcases hmem with ⟨payload, hm⟩ | ⟨addr, payload, hm⟩ <;>
          rcases hc.seen hi _ hm with ⟨_, heq⟩ | ⟨_, heq⟩ | ⟨_, heq⟩ | ⟨_, heq⟩ <;>
          cases heq <;> rfl
      exact horigin ▸ hstarted

/-- A flow sends its hello and what has arrived from its own address. -/
theorem sent_run (h : Run (observe (Udp.Client.step ctx) Udp.Client.observed) C
      (Udp.Client.startListener _ clock linkId listenAddr) as s seen) {origin : Udp.Client.Origin}
    {payload : List UInt8} (hmem : .event (.toTunnel origin payload) ∈ seen) :
    ctx.json.toVec ⟨linkId, none⟩ = .ok payload ∨ .arrived origin.localAddr payload ∈ seen := by
  obtain ⟨hinv, rfl⟩ := Udp.Client.sentInv_run h
  have hstarted := started_run h (.inl ⟨payload, hmem⟩)
  have hsent : payload ∈ Udp.Client.sentIn origin.serial seen :=
    List.mem_filterMap.mpr ⟨_, hmem, if_pos rfl⟩
  have htaken : payload ∈ Udp.Client.takenIn origin.serial seen →
      .arrived origin.localAddr payload ∈ seen := by
    intro hm
    have hlater := ((Udp.Client.demuxInv h).taken origin.serial origin.localAddr
      (List.mem_filterMap.mpr ⟨_, hstarted, rfl⟩)).subset hm
    obtain ⟨x, hx, hdemux⟩ := List.mem_filterMap.mp (Demux.mem_of_laterIn hlater)
    unfold Udp.Client.demux at hdemux
    split at hdemux <;> cases hdemux
    exact hx
  have hspec := hinv.started origin hstarted
  generalize Udp.Client.sentIn origin.serial seen = sent at hspec hsent
  cases hspec with
  | nothing _ => cases hsent
  | hello _ hjson =>
    rw [List.mem_singleton.mp hsent]
    exact .inl hjson
  | relayed hjson =>
    rcases List.mem_cons.mp hsent with rfl | hsent
    · exact .inl hjson
    rcases List.mem_cons.mp hsent with rfl | hsent
    · exact .inr (hinv.first origin hstarted)
    · exact .inr (htaken hsent)

end Sent

/-! ## The system -/

section System

variable {κ : Type}

/-- What the results take of the crates and of chance: a first message is accepted only with the
    key that it was made with; a listener makes them with its client's key; no two flows make the
    same, as each has an ephemeral key of its own; and the server reads the hello that was
    written. -/
structure Setup.Sound (sys : Setup κ) : Prop where
  accepts : sys.server.snow.AcceptsOnly sys.server.privateKey sys.producer
  produced : ∀ k n, sys.producer ((sys.listeners k).firstMessage n) =
    some (sys.listeners k).publicKey
  fresh : ∀ k n k' n', (sys.listeners k).firstMessage n = (sys.listeners k').firstMessage n' →
    k = k' ∧ n = n'
  json : ∀ k hello bytes, (sys.listeners k).ctx.json.toVec hello = .ok bytes →
    sys.server.json.fromSlice bytes = .ok hello

/-- The machines of the parties, over the network. -/
def Setup.network (sys : Setup κ) : Network (StateOf sys) (ActionOf sys) EventOf Packet where
  party
    | .server => Udp.step sys.server
    | .client k => observe (Udp.Client.step (sys.listeners k).ctx) Udp.Client.observed
    | .intruder => intrude sys
  sends
    | .server => serverSends
    | .client k => listenerSends (sys.listeners k)
    | .intruder => fun packet => some packet
  reads
    | .server => serverReads sys.server
    | .client k => listenerReads (sys.listeners k)
    | .intruder => fun _ _ => none
  takes
    | .server => serverTakes
    | .client k => listenerTakes (sys.listeners k)
    | .intruder => fun _ => none
  takes_reads := by
    rintro (_ | k | _) s a s' es h
    · exact serverTakes_reads h
    · exact listenerTakes_reads h
    · intro e _ m htakes
      cases htakes

variable [DecidableEq κ]

/-- What the server does in a run of the system. -/
def serverEvents (tr : List (Σ i, EventOf (κ := κ) i)) : List Udp.Event :=
  Network.eventsOf (ε := EventOf) .server tr

/-- What is seen of the listener `k`. -/
def seenOf (k : κ) (tr : List (Σ i, EventOf (κ := κ) i)) :
    List (Seen Udp.Client.Origin Udp.Client.Event) :=
  Network.eventsOf (ε := EventOf) (.client k) tr

/-- The runs of all parties from where each of them starts. -/
def SystemRun (sys : Setup κ) (as : List (Σ i, ActionOf sys i))
    (s : Network.State (StateOf sys) Packet) (tr : List (Σ i, EventOf (κ := κ) i)) : Prop :=
  ∃ s₀ : (i : Role κ) → StateOf sys i,
    (∃ clock, Udp.start sys.server clock = some (s₀ .server)) ∧
    (∀ k, ∃ clock, s₀ (.client k) = Udp.Client.startListener _ clock (sys.listeners k).linkId
      (sys.listeners k).listenAddr) ∧
    Run sys.network.step Free ⟨s₀, []⟩ as s tr

variable {sys : Setup κ} {as : List (Σ i, ActionOf sys i)}
  {s : Network.State (StateOf sys) Packet} {tr : List (Σ i, EventOf (κ := κ) i)}

theorem SystemRun.server (h : SystemRun sys as s tr) :
    ∃ bs, Udp.ServerRun sys.server Free bs (s.parts .server) (serverEvents tr) := by
  obtain ⟨s₀, ⟨clock, hstart⟩, -, hrun⟩ := h
  obtain ⟨bs, hparty⟩ := Network.party_run hrun .server
  exact ⟨bs, clock, s₀ .server, hstart, hparty⟩

theorem SystemRun.listener (h : SystemRun sys as s tr) (k : κ) :
    ∃ bs clock, Run (observe (Udp.Client.step (sys.listeners k).ctx) Udp.Client.observed) Free
      (Udp.Client.startListener _ clock (sys.listeners k).linkId (sys.listeners k).listenAddr) bs
      (s.parts (.client k)) (seenOf k tr) := by
  obtain ⟨s₀, -, hstart, hrun⟩ := h
  obtain ⟨clock, hclient⟩ := hstart k
  obtain ⟨bs, hparty⟩ := Network.party_run hrun (.client k)
  rw [hclient] at hparty
  exact ⟨bs, clock, hparty⟩

/-- The sessions of the server serve links that were named in their tunnels. -/
theorem SystemRun.named (h : SystemRun sys as s tr) :
    NamedInv (s.parts .server) (serverEvents tr) s.sent := by
  obtain ⟨s₀, ⟨clock, hstart⟩, -, hrun⟩ := h
  obtain ⟨listenAddr, -, hs₀⟩ := Option.map_eq_some_iff.mp hstart
  refine Network.learned (N := sys.network) (i := .server)
    (I := fun (p : Udp.State sys.server.snowstorm.Transport) es sent => NamedInv p es sent) ?_
    (fun more hinv => NamedInv.mono hinv more) (fun hinv hread hst => NamedInv.step hinv hread hst)
    hrun
  rw [← hs₀]
  exact ⟨by simp, fun _ he => absurd he List.not_mem_nil⟩

/-- The intruder speaks in tunnels that it opens with the keys it holds. -/
def Stolen (sys : Setup κ) (packet : Packet) : Prop :=
  ∃ message, (packet = .init message ∨ ∃ payload, packet = .up message payload) ∧
    ∃ publicKey ∈ sys.producer message, publicKey ∈ sys.stolen

omit [DecidableEq κ] in
theorem intrude_some {u u' : Unit} {packet : Packet} {es : List Packet}
    (h : intrude sys u packet = some (u', es)) : ∀ e ∈ es, Stolen sys e := by
  cases packet with
  | init message =>
    simp only [intrude] at h
    split at h
    · rename_i hkey
      cases h
      simpa using ⟨message, .inl rfl, hkey⟩
    · cases h
  | up message payload =>
    simp only [intrude] at h
    split at h
    · rename_i hkey
      cases h
      simpa using ⟨message, .inr ⟨payload, rfl⟩, hkey⟩
    · cases h
  | down message payload => cases h

theorem SystemRun.stolen (h : SystemRun sys as s tr) {packet : Packet}
    (hmem : (⟨.intruder, packet⟩ : Σ i, EventOf (κ := κ) i) ∈ tr) : Stolen sys packet := by
  obtain ⟨s₀, -, -, hrun⟩ := h
  obtain ⟨bs, hparty⟩ := Network.party_run hrun .intruder
  refine hparty.forall_events (I := fun _ _ => True) (P := Stolen sys) (fun _ => trivial) ?_ packet
    (Network.mem_eventsOf.mpr hmem)
  intro u _ _ _ _ _ _ hst
  exact intrude_some (u := u) hst

/-- A packet that a party has taken was sent. -/
theorem SystemRun.sent (h : SystemRun sys as s tr) {i : Role κ} {e : EventOf i}
    (he : ⟨i, e⟩ ∈ tr) {m : Packet} (htakes : sys.network.takes i e = some m) : m ∈ s.sent := by
  obtain ⟨s₀, -, -, hrun⟩ := h
  obtain ⟨tr₁, tr₂, heq⟩ := List.append_of_mem he
  obtain ⟨e', he', hsends⟩ := Network.read_sent hrun tr₁ ⟨i, e⟩ tr₂ heq m htakes
  rw [Network.sent_eq hrun, heq]
  exact List.mem_filterMap.mpr ⟨e', List.mem_append_left _ he', hsends⟩

/-- What was sent was sent by somebody. -/
theorem SystemRun.sender (h : SystemRun sys as s tr) {m : Packet} (hm : m ∈ s.sent) :
    ∃ e ∈ tr, sys.network.sends e.1 e.2 = some m := by
  obtain ⟨s₀, -, -, hrun⟩ := h
  rw [Network.sent_eq hrun] at hm
  exact List.mem_filterMap.mp hm

theorem serverSends_some {e : Udp.Event} {m : Packet} (h : serverSends e = some m) :
    ∃ party link target payload, e = .toPeer party link target payload ∧
      m = .down party.message payload := by
  unfold serverSends at h
  split at h
  · exact ⟨_, _, _, _, rfl, (Option.some.inj h).symm⟩
  · cases h

theorem listenerSends_init {l : Listener} {e : Seen Udp.Client.Origin Udp.Client.Event}
    {message : List UInt8} (h : listenerSends l e = some (.init message)) :
    ∃ origin, e = .event (.started origin) ∧ message = l.firstMessage origin.serial := by
  unfold listenerSends at h
  split at h <;> cases h
  exact ⟨_, rfl, rfl⟩

theorem listenerSends_up {l : Listener} {e : Seen Udp.Client.Origin Udp.Client.Event}
    {message payload : List UInt8} (h : listenerSends l e = some (.up message payload)) :
    ∃ origin, e = .event (.toTunnel origin payload) ∧ message = l.firstMessage origin.serial := by
  unfold listenerSends at h
  split at h <;> cases h
  exact ⟨_, rfl, rfl⟩

theorem listenerSends_down {l : Listener} {e : Seen Udp.Client.Origin Udp.Client.Event}
    {message payload : List UInt8} : listenerSends l e ≠ some (.down message payload) := by
  intro h
  unfold listenerSends at h
  split at h <;> cases h

/-- A first message that was made with a key that is not stolen is one of a flow. -/
theorem SystemRun.init_sent (h : SystemRun sys as s tr) {message publicKey : List UInt8}
    (hm : .init message ∈ s.sent) (hproducer : sys.producer message = some publicKey)
    (hkey : publicKey ∉ sys.stolen) :
    ∃ k origin, .event (.started origin) ∈ seenOf k tr ∧
      message = (sys.listeners k).firstMessage origin.serial := by
  obtain ⟨⟨i, e⟩, he, hsends⟩ := h.sender hm
  match i, e, he, hsends with
  | .server, e, _, hsends =>
    obtain ⟨party, link, target, payload, -, heq⟩ := serverSends_some hsends
    cases heq
  | .client k, e, he, hsends =>
    obtain ⟨origin, rfl, hmessage⟩ := listenerSends_init hsends
    exact ⟨k, origin, Network.mem_eventsOf.mpr he, hmessage⟩
  | .intruder, packet, he, hsends =>
    cases hsends
    obtain ⟨message', hpacket, publicKey', hproducer', hstolen⟩ := h.stolen he
    obtain heq | ⟨payload, heq⟩ := hpacket <;> cases heq
    rw [hproducer] at hproducer'
    cases hproducer'
    exact absurd hstolen hkey

/-- A payload in the tunnel of a peer whose key is not stolen was sent by a flow. -/
theorem SystemRun.up_sent (h : SystemRun sys as s tr) {message payload publicKey : List UInt8}
    (hm : .up message payload ∈ s.sent) (hproducer : sys.producer message = some publicKey)
    (hkey : publicKey ∉ sys.stolen) :
    ∃ k origin, .event (.toTunnel origin payload) ∈ seenOf k tr ∧
      message = (sys.listeners k).firstMessage origin.serial := by
  obtain ⟨⟨i, e⟩, he, hsends⟩ := h.sender hm
  match i, e, he, hsends with
  | .server, e, _, hsends =>
    obtain ⟨party, link, target, payload', -, heq⟩ := serverSends_some hsends
    cases heq
  | .client k, e, he, hsends =>
    obtain ⟨origin, rfl, hmessage⟩ := listenerSends_up hsends
    exact ⟨k, origin, Network.mem_eventsOf.mpr he, hmessage⟩
  | .intruder, packet, he, hsends =>
    cases hsends
    obtain ⟨message', hpacket, publicKey', hproducer', hstolen⟩ := h.stolen he
    obtain heq | ⟨payload', heq⟩ := hpacket <;> cases heq
    rw [hproducer] at hproducer'
    cases hproducer'
    exact absurd hstolen hkey

/-- What came down a tunnel was sent by a session of it. -/
theorem SystemRun.down_sent (h : SystemRun sys as s tr) {message payload : List UInt8}
    (hm : .down message payload ∈ s.sent) :
    ∃ party link target, .toPeer party link target payload ∈ serverEvents tr ∧
      party.message = message := by
  obtain ⟨⟨i, e⟩, he, hsends⟩ := h.sender hm
  match i, e, he, hsends with
  | .server, e, he, hsends =>
    obtain ⟨party, link, target, payload', rfl, heq⟩ := serverSends_some hsends
    cases heq
    exact ⟨party, link, target, Network.mem_eventsOf.mpr he, rfl⟩
  | .client k, e, _, hsends => exact absurd hsends listenerSends_down
  | .intruder, packet, he, hsends =>
    cases hsends
    obtain ⟨message', hpacket, -⟩ := h.stolen he
    obtain heq | ⟨payload', heq⟩ := hpacket <;> cases heq

/-! ## Rightful datagrams -/

/-- The session and the flow have one tunnel, of the client's key. -/
structure SameTunnel (sys : Setup κ) (tr : List (Σ i, EventOf (κ := κ) i)) (party : Party) (k : κ)
    (origin : Udp.Client.Origin) : Prop where
  publicKey : party.peer.publicKey = (sys.listeners k).publicKey
  message : party.message = (sys.listeners k).firstMessage origin.serial
  started : .event (.started origin) ∈ seenOf k tr

/-- The link is that of the listener, or one that a datagram of the application has named: the
    server takes the first datagram that it decrypts for the hello. -/
def Serves (sys : Setup κ) (tr : List (Σ i, EventOf (κ := κ) i)) (link : LinkConfig) (k : κ)
    (origin : Udp.Client.Origin) : Prop :=
  link.id = (sys.listeners k).linkId ∨
    ∃ datagram hello, .arrived origin.localAddr datagram ∈ seenOf k tr ∧
      sys.server.json.fromSlice datagram = .ok hello ∧ hello.linkId = link.id

/-- A session has matched the first message of its tunnel. -/
theorem SystemRun.producer (h : SystemRun sys as s tr) (hsound : sys.Sound) {party : Party}
    (hmatched : .matched party ∈ serverEvents tr) :
    sys.producer party.message = some party.peer.publicKey := by
  obtain ⟨bs, hserver⟩ := h.server
  obtain ⟨index, state, hpeer, hbytes⟩ := (Udp.accessInv_run hserver).matched party hmatched
  obtain ⟨peer, hpeer', hproducer⟩ := producer_of_matchPeerBytes hsound.accepts hbytes
  rw [hpeer] at hpeer'
  cases hpeer'
  exact hproducer

/-- The session of a flow is with a client of its key. -/
theorem SystemRun.publicKey (h : SystemRun sys as s tr) (hsound : sys.Sound) {party : Party}
    (hmatched : .matched party ∈ serverEvents tr) {k : κ} {n : ℕ}
    (hmessage : party.message = (sys.listeners k).firstMessage n) :
    party.peer.publicKey = (sys.listeners k).publicKey := by
  have hproducer := h.producer hsound hmatched
  rw [hmessage, hsound.produced] at hproducer
  exact (Option.some.inj hproducer).symm

/-- A session with a peer whose key is not stolen has the tunnel of a flow. -/
theorem SystemRun.tunnel (h : SystemRun sys as s tr) (hsound : sys.Sound) {party : Party}
    (hmatched : .matched party ∈ serverEvents tr) (hkey : party.peer.publicKey ∉ sys.stolen) :
    ∃ k origin, SameTunnel sys tr party k origin := by
  have hsent : .init party.message ∈ s.sent := h.sent (Network.mem_eventsOf.mp hmatched) rfl
  obtain ⟨k, origin, hstarted, hmessage⟩ :=
    h.init_sent hsent (h.producer hsound hmatched) hkey
  exact ⟨k, origin, h.publicKey hsound hmatched hmessage, hmessage, hstarted⟩

/-- A payload in the tunnel of a flow was sent by this flow, where no intruder speaks in it. -/
theorem SystemRun.flow_sent (h : SystemRun sys as s tr) (hsound : sys.Sound) {party : Party}
    {k : κ} {origin : Udp.Client.Origin} (htunnel : SameTunnel sys tr party k origin)
    (hkey : (sys.listeners k).publicKey ∉ sys.stolen) {payload : List UInt8}
    (hm : .up party.message payload ∈ s.sent) :
    .event (.toTunnel origin payload) ∈ seenOf k tr := by
  rw [htunnel.message] at hm
  obtain ⟨k', origin', hmem, hmessage⟩ := h.up_sent hm (hsound.produced k _) hkey
  obtain ⟨rfl, hserial⟩ := hsound.fresh _ _ _ _ hmessage
  obtain ⟨bs, clock, hlistener⟩ := h.listener k
  have hstarted := started_run hlistener (.inl ⟨payload, hmem⟩)
  obtain rfl := (Udp.Client.sentInv_run hlistener).1.unique _ _ htunnel.started hstarted hserial
  exact hmem

/-- The link that the tunnel of a flow has named. -/
theorem SystemRun.serves (h : SystemRun sys as s tr) (hsound : sys.Sound) {party : Party} {k : κ}
    {origin : Udp.Client.Origin} (htunnel : SameTunnel sys tr party k origin)
    (hkey : (sys.listeners k).publicKey ∉ sys.stolen) {link : LinkConfig}
    (hnamed : Named sys.server s.sent party.message link) : Serves sys tr link k origin := by
  obtain ⟨bytes, hello, hsent, hjson, hlink⟩ := hnamed
  obtain ⟨bs, clock, hlistener⟩ := h.listener k
  rcases sent_run hlistener (h.flow_sent hsound htunnel hkey hsent) with hvec | harrived
  · have hown := hsound.json k _ _ hvec
    rw [hjson] at hown
    cases hown
    exact .inl hlink.symm
  · exact .inr ⟨bytes, hello, harrived, hjson, hlink⟩

/-- Every session with a peer whose key is not stolen has the tunnel of a flow of a client of this
    key. What the server sends to a target is for a link that it forwards for the peer; and where
    the session has the tunnel of a flow whose key is not stolen, the link is the flow's, and the
    flow has sent it: its hello, or a datagram of the application at its address. What a flow
    sends to its application goes to this address, and comes from the target of a session of its
    tunnel. -/
theorem datagrams_rightful (sys : Setup κ) (hsound : sys.Sound) {as : List (Σ i, ActionOf sys i)}
    {s : Network.State (StateOf sys) Packet} {tr : List (Σ i, EventOf (κ := κ) i)}
    (h : SystemRun sys as s tr) :
    (∀ party, .matched party ∈ serverEvents tr → party.peer.publicKey ∉ sys.stolen →
      ∃ k origin, SameTunnel sys tr party k origin) ∧
    (∀ party link target payload, .toTarget party link target payload ∈ serverEvents tr →
      .matched party ∈ serverEvents tr ∧ Udp.Allowed sys.server party.peer link target ∧
      ∀ k origin, SameTunnel sys tr party k origin → party.peer.publicKey ∉ sys.stolen →
        Serves sys tr link k origin ∧ .event (.toTunnel origin payload) ∈ seenOf k tr ∧
        ((sys.listeners k).ctx.json.toVec ⟨(sys.listeners k).linkId, none⟩ = .ok payload ∨
          .arrived origin.localAddr payload ∈ seenOf k tr)) ∧
    ∀ k origin addr payload, .event (.toLocal origin addr payload) ∈ seenOf k tr →
      addr = origin.localAddr ∧ ∃ party link target,
        .toPeer party link target payload ∈ serverEvents tr ∧ SameTunnel sys tr party k origin ∧
        Udp.Allowed sys.server party.peer link target ∧
        ((sys.listeners k).publicKey ∉ sys.stolen → Serves sys tr link k origin) := by
  obtain ⟨bs, hserver⟩ := h.server
  have hinv := Udp.accessInv_run hserver
  have hnamed := h.named.events
  refine ⟨fun party hmatched hkey => h.tunnel hsound hmatched hkey, ?_, ?_⟩
  · intro party link target payload hmem
    refine ⟨hinv.parties _ hmem party rfl, hinv.events _ hmem, ?_⟩
    intro k origin htunnel hkey
    rw [htunnel.publicKey] at hkey
    have hsent : .up party.message payload ∈ s.sent := h.sent (Network.mem_eventsOf.mp hmem) rfl
    have hflow := h.flow_sent hsound htunnel hkey hsent
    obtain ⟨bs', clock, hlistener⟩ := h.listener k
    exact ⟨h.serves hsound htunnel hkey (hnamed _ hmem (party, link) rfl), hflow,
      sent_run hlistener hflow⟩
  · intro k origin addr payload hmem
    obtain ⟨bs', clock, hlistener⟩ := h.listener k
    refine ⟨(Udp.Client.sentInv_run hlistener).1.toLocal origin addr payload hmem, ?_⟩
    have hsent : .down ((sys.listeners k).firstMessage origin.serial) payload ∈ s.sent :=
      h.sent (Network.mem_eventsOf.mp hmem) rfl
    obtain ⟨party, link, target, hpeer, hmessage⟩ := h.down_sent hsent
    have hmatched := hinv.parties _ hpeer party rfl
    have htunnel : SameTunnel sys tr party k origin := ⟨h.publicKey hsound hmatched hmessage,
      hmessage, started_run hlistener (.inr ⟨addr, payload, hmem⟩)⟩
    refine ⟨party, link, target, hpeer, htunnel, hinv.events _ hpeer, fun hkey => ?_⟩
    exact h.serves hsound htunnel hkey (hnamed _ hpeer (party, link) rfl)

/-- A run that is computed, and a property of its trace that is too. -/
theorem exists_system_run (s₀ : (i : Role κ) → StateOf sys i)
    {P : List (Σ i, EventOf (κ := κ) i) → Prop}
    (hserver : ∃ clock, Udp.start sys.server clock = some (s₀ .server))
    (hlisteners : ∀ k, ∃ clock, s₀ (.client k) = Udp.Client.startListener _ clock
      (sys.listeners k).linkId (sys.listeners k).listenAddr)
    (h : (exec sys.network.step ⟨s₀, []⟩ as).isSome)
    (hP : P ((exec sys.network.step ⟨s₀, []⟩ as).get h).2) : ∃ s tr, SystemRun sys as s tr ∧ P tr :=
  ⟨_, _, ⟨s₀, hserver, hlisteners, run_of_exec (Option.some_get h).symm⟩, hP⟩

end System

/-! ## Bob's lookup -/

/-- A first message is the public key and the number of the flow. -/
def numbered : Snow where
  HandshakeState := List UInt8
  buildResponder _ remotePublic := .ok remotePublic
  readMessage state message payload :=
    (if message.take 32 = state then .ok state else .error "decrypt error", payload)

/-- Bob's listener for "dns", and an intruder that holds alice's key. -/
def bobSetup : Setup Unit where
  server := { Udp.forwardContext with snow := numbered }
  listeners _ := ⟨Udp.Client.dnsContext, "dns", "127.0.0.1:5353", Server.bobKey,
    fun n => Server.bobKey ++ List.replicate n 0⟩
  producer message := some (message.take 32)
  stolen := {Server.aliceKey}

theorem bobSetup_sound : bobSetup.Sound where
  accepts := by
    intro publicKey st message payload state hs hr
    cases hs
    simp only [bobSetup, numbered] at hr
    split at hr
    · rename_i heq
      rw [← heq]
      rfl
    · cases hr
  produced _ n := by
    have hlength : Server.bobKey.length = 32 := rfl
    show some ((Server.bobKey ++ List.replicate n 0).take 32) = some Server.bobKey
    rw [← hlength, List.take_left]
  fresh := by
    intro _ n _ n' heq
    have hlength := congrArg List.length heq
    simp only [bobSetup, List.length_append, List.length_replicate] at hlength
    exact ⟨rfl, by omega⟩
  json _ hello bytes hvec := Udp.forwardContext.json.fromSlice_toVec hello bytes hvec

def bobStart : (i : Role Unit) → StateOf bobSetup i
  | .server => (Udp.start bobSetup.server 0).get (by decide)
  | .client _ => Udp.Client.startListener _ 0 "dns" "127.0.0.1:5353"
  | .intruder => ()

/-- Actions of one party. -/
def actionsOf (i : Role Unit) (as : List (ActionOf bobSetup i)) : List (Σ i, ActionOf bobSetup i) :=
  as.map (Sigma.mk i)

/-- An application asks for "dns" with one datagram, and is answered with another. -/
def bobActions : List (Σ i, ActionOf bobSetup i) :=
  actionsOf (.client ()) [.listener (.bind (.ok ())),
    .listener (.recv (.ok (.v4 ⟨127, 0, 0, 1⟩ 50000, [1]))), .listener .insert,
    .flow 0 (.bind (.ok ())), .flow 0 (.connect (.ok ())), .flow 0 (.handshake (.ok ())),
    .flow 0 (.sent (.ok ())), .flow 0 (.sent (.ok ()))] ++
  actionsOf .intruder [.init Server.aliceKey] ++
  actionsOf .server [.demux (.bind (.ok ())),
    .demux (.recv (.ok (.v4 ⟨198, 51, 100, 6⟩ 40002, Server.bobKey))), .demux (.acquire 0 0),
    .demux .insert, .session 0 (.handshake (.ok ())),
    .demux (.recv (.ok (.v4 ⟨198, 51, 100, 6⟩ 40002, Udp.dnsHello.map fun c => c.toNat.toUInt8))),
    .session 0 .recv, .session 0 (.bind (.ok ())), .session 0 (.connect (.ok ())),
    .demux (.recv (.ok (.v4 ⟨198, 51, 100, 6⟩ 40002, [1]))), .session 0 .recv,
    .session 0 (.target (.ok [9]))] ++
  actionsOf (.client ()) [.flow 0 (.fromTunnel (.ok [9]))]

def bobParty : Party :=
  ⟨0, .v4 ⟨198, 51, 100, 6⟩ 40002, Server.bobKey, ⟨"bob", Server.bobKey, ["ssh", "dns"].toFinset⟩⟩

def dnsLink : LinkConfig := ⟨"dns", .forward, .udp, none, some "127.0.0.1:53"⟩

theorem datagrams_rightful_bob :
    ∃ s tr, SystemRun bobSetup bobActions s tr ∧
      .toTarget bobParty dnsLink "127.0.0.1:53" [1] ∈ serverEvents tr ∧
      .event (.toTunnel Udp.Client.dnsOrigin [1]) ∈ seenOf () tr ∧
      Serves bobSetup tr dnsLink () Udp.Client.dnsOrigin := by
  obtain ⟨s, tr, hrun, htarget, hstarted⟩ : ∃ s tr, SystemRun bobSetup bobActions s tr ∧
      .toTarget bobParty dnsLink "127.0.0.1:53" [1] ∈ serverEvents tr ∧
        .event (.started Udp.Client.dnsOrigin) ∈ seenOf () tr :=
    exists_system_run bobStart ⟨0, rfl⟩ (fun _ => ⟨0, rfl⟩) (by decide) (by decide)
  obtain ⟨-, htargets, -⟩ := datagrams_rightful bobSetup bobSetup_sound hrun
  obtain ⟨-, -, hflows⟩ := htargets _ _ _ _ htarget
  obtain ⟨hserves, hsent, -⟩ :=
    hflows () Udp.Client.dnsOrigin ⟨rfl, rfl, hstarted⟩ (by decide)
  exact ⟨s, tr, hrun, htarget, hsent, hserves⟩

end Ghostport.System.Datagram
