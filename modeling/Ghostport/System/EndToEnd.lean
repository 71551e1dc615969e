import Ghostport.Client.Dials
import Ghostport.Lib.Network
import Ghostport.Server.Origin
import Ghostport.Server.Pairing

/-!
# The server and its clients together

One server and any number of clients run, and the network carries the hellos and the signals
between them. A Noise tunnel shows each side who the other is, so nobody sends a hello or a
signal in another's name; the tunnels are otherwise left to the network. An intruder may hold
the keys of some peers, and sends any hello with them.

Results:
* `relays_rightful`: for every relay that the server starts with a peer whose key the intruder
  does not hold, a client of that key has dialed the tunnel: for a connection to its own
  forward link, or for the one external connection that the server meant it for.
-/

namespace Ghostport.System

open Ghostport.Core Ghostport.Lib Ghostport.Net

/-! ## The parties -/

/-- The parties; `κ` names the clients. -/
inductive Role (κ : Type) where
  | server
  | client (k : κ)
  | intruder
  deriving DecidableEq

/-- What travels between them, with the key of the client that a signal is for, or that a hello
    is of. -/
inductive Packet where
  | signal (publicKey : List UInt8) (msg : ControlMessage)
  | hello (publicKey : List UInt8) (hello : StreamHello)
  deriving DecidableEq

/-- A client, and the public key that the server knows it by. -/
structure Peer where
  ctx : Client.Context
  publicKey : List UInt8

/-- A server with its clients, and the keys that the intruder holds. -/
structure Setup (κ : Type) where
  server : Server.Context
  clients : κ → Peer
  stolen : Finset (List UInt8)

section Parties

variable {κ : Type}

def StateOf : Role κ → Type
  | .server => Server.State
  | .client _ => Client.State
  | .intruder => Unit

/-- The intruder sends a hello. -/
def ActionOf : Role κ → Type
  | .server => Server.Action
  | .client _ => Client.Action
  | .intruder => List UInt8 × StreamHello

def EventOf : Role κ → Type
  | .server => Server.Event
  | .client _ => Client.Event
  | .intruder => List UInt8 × StreamHello

end Parties

/-- The server sends what `send_json` is called with (server.rs, lines 348 and 361). -/
def serverSends : Server.Event → Option Packet
  | .writing stream msg => some (.signal stream.peer.publicKey msg)
  | _ => none

/-- The hello that the task of a data tunnel reads. -/
def serverReads (s : Server.State) : Server.Action → Option Packet
  | .data (.hello i (.received hello)) =>
    s.data.hellos[i]?.map fun h => .hello h.tunnel.peer.publicKey hello
  | _ => none

def serverTakes : Server.Event → Option Packet
  | .refused tunnel hello => some (.hello tunnel.peer.publicKey hello)
  | .dialed relay => some (.hello relay.tunnel.peer.publicKey relay.hello)
  | .claimed relay _ _ => some (.hello relay.tunnel.peer.publicKey relay.hello)
  | _ => none

/-- The client sends the hello of each tunnel it dials (client.rs, lines 155-159). -/
def clientSends (publicKey : List UInt8) : Client.Event → Option Packet
  | .hello stream => some (.hello publicKey stream.hello)
  | _ => none

def clientReads (publicKey : List UInt8) : Client.Action → Option Packet
  | .control (.incoming (.ok msg)) => some (.signal publicKey msg)
  | _ => none

def clientTakes (publicKey : List UInt8) : Client.Event → Option Packet
  | .received msg => some (.signal publicKey msg)
  | _ => none

/-- The intruder sends hellos with the keys it holds. -/
def intrude (stolen : Finset (List UInt8)) (_ : Unit) (a : List UInt8 × StreamHello) :
    Option (Unit × List (List UInt8 × StreamHello)) :=
  if a.1 ∈ stolen then some ((), [a]) else none

theorem serverSends_some {e : Server.Event} {m : Packet} (h : serverSends e = some m) :
    ∃ stream msg, e = .writing stream msg ∧ m = .signal stream.peer.publicKey msg := by
  unfold serverSends at h
  split at h
  · exact ⟨_, _, rfl, (Option.some.inj h).symm⟩
  · cases h

theorem clientSends_some {publicKey : List UInt8} {e : Client.Event} {m : Packet}
    (h : clientSends publicKey e = some m) :
    ∃ stream, e = .hello stream ∧ m = .hello publicKey stream.hello := by
  unfold clientSends at h
  split at h
  · exact ⟨_, rfl, (Option.some.inj h).symm⟩
  · cases h

theorem intrude_some {stolen : Finset (List UInt8)} {u u' : Unit} {a : List UInt8 × StreamHello}
    {es : List (List UInt8 × StreamHello)} (h : intrude stolen u a = some (u', es)) :
    ∀ e ∈ es, e.1 ∈ stolen := by
  unfold intrude at h
  split at h
  · cases h
    simpa
  · cases h

/-- A hello for a signal is sent on the tunnel of an opening. -/
theorem opening_of_hello {ctx : Client.Context} {s : Client.State} {tr : List Client.Event}
    (hinv : Client.DialInv ctx s tr) {stream : Client.Stream} (hmem : .hello stream ∈ tr)
    {streamId : UInt64} {target : String} (horigin : stream.origin = .signalled streamId target) :
    ⟨stream.linkId, streamId, target⟩ ∈ tr.filterMap Client.openingOf := by
  have hopening : stream.opening = some ⟨stream.linkId, streamId, target⟩ := by
    rw [Client.Stream.opening, horigin]
  have hdialed : (⟨stream.linkId, streamId, target⟩ : Client.Opening) ∈
      tr.filterMap Client.tunnelOf :=
    List.mem_filterMap.mpr ⟨_, hinv.hellos stream hmem, hopening⟩
  have hpos := List.count_pos_iff.mpr hdialed
  have hle := hinv.openings ⟨stream.linkId, streamId, target⟩
  apply List.count_pos_iff.mp
  omega

/-! ## What a party takes it has read -/

theorem serverTakes_reads {ctx : Server.Context} {s s' : Server.State} {a : Server.Action}
    {es : List Server.Event} (h : Server.step ctx s a = some (s', es)) :
    ∀ e ∈ es, ∀ m, serverTakes e = some m → serverReads s a = some m := by
  have quiet : (∀ e ∈ es, serverTakes e = none) →
      ∀ e ∈ es, ∀ m, serverTakes e = some m → serverReads s a = some m := by
    intro hes e he m htakes
    rw [hes e he] at htakes
    cases htakes
  cases Server.step_cases h with
  | tick _ => exact quiet (by simp)
  | listener hc => exact quiet (by cases hc <;> simp [serverTakes])
  | cleanup hc => exact quiet (by cases hc <;> simp [serverTakes])
  | accept hc => exact quiet (by cases hc <;> simp [serverTakes])
  | handshake hc => exact quiet (by cases hc <;> simp [serverTakes])
  | control hc => exact quiet (by cases hc <;> simp [serverTakes, Server.endSession])
  | data hc =>
    cases hc with
    | refused hi _ | unknown hi _ _ => simp [serverTakes, serverReads, hi]
    | dialed hi _ hrelay | claimed hi _ _ hrelay _ =>
      subst hrelay
      simp [serverTakes, serverReads, hi]
    | _ => exact quiet (by simp [serverTakes])

/-- The control loop has received what `recv_json` returned. -/
theorem received_of_runControlLoop {ctx : Client.Context} {s s' : Client.State}
    {a : Client.ControlAction} {es : List Client.Event}
    (h : Client.runControlLoop ctx s a = some (s', es)) {msg : ControlMessage}
    (hmem : .received msg ∈ es) : a = .incoming (.ok msg) := by
  unfold Client.runControlLoop at h
  simp only at h
  split at h
  case h_7 | h_8 =>
    cases h
    obtain rfl : msg = _ := by simpa using hmem
    rfl
  case h_9 linkId streamId _ =>
    have hreceived : msg = .openStream linkId streamId := by
      split at h
      · unfold Client.handleOpenStream at h
        split at h
        · cases h
          simpa using hmem
        · split at h <;> (cases h; simpa using hmem)
      · cases h
        simpa using hmem
    rw [hreceived]
  case h_2 | h_5 | h_6 | h_13 => split at h <;> cases h <;> simp at hmem
  case h_14 => cases h
  all_goals
    cases h
    simp at hmem

theorem clientTakes_reads {ctx : Client.Context} {publicKey : List UInt8} {s s' : Client.State}
    {a : Client.Action} {es : List Client.Event} (h : Client.step ctx s a = some (s', es)) :
    ∀ e ∈ es, ∀ m, clientTakes publicKey e = some m → clientReads publicKey a = some m := by
  have dial : ∀ {s s' : Client.State} {stream : Client.Stream} {es : List Client.Event},
      Client.DialCase ctx s stream s' es → ∀ e ∈ es, clientTakes publicKey e = none := by
    intro s s' stream es hc
    cases hc <;> simp [clientTakes]
  have quiet : (∀ e ∈ es, clientTakes publicKey e = none) →
      ∀ e ∈ es, ∀ m, clientTakes publicKey e = some m → clientReads publicKey a = some m := by
    intro hes e he m htakes
    rw [hes e he] at htakes
    cases htakes
  match a with
  | .tick now => cases Client.step_cases h with | tick _ => exact quiet (by simp)
  | .listener i a =>
    cases Client.runForwardListener_cases h with
    | bound _ | acceptFailed _ => exact quiet (by simp [clientTakes])
    | accepted _ hdial => exact quiet (dial hdial)
  | .opening i result =>
    cases Client.runOpening_cases h with
    | failed _ => exact quiet (by simp [clientTakes])
    | opened _ _ hdial => exact quiet (dial hdial)
  | .tunnel i a =>
    cases Client.runTunnel_cases h <;> exact quiet (by simp [clientTakes])
  | .control a =>
    intro e he m htakes
    cases e with
    | received msg =>
      rw [received_of_runControlLoop h he]
      exact htakes
    | _ => cases htakes

/-! ## The system -/

section System

variable {κ : Type}

/-- The machines of the parties, over the network. -/
def Setup.network (sys : Setup κ) : Network (StateOf (κ := κ)) ActionOf EventOf Packet where
  party
    | .server => Server.step sys.server
    | .client k => Client.step (sys.clients k).ctx
    | .intruder => intrude sys.stolen
  sends
    | .server => serverSends
    | .client k => clientSends (sys.clients k).publicKey
    | .intruder => fun a => some (.hello a.1 a.2)
  reads
    | .server => serverReads
    | .client k => fun _ => clientReads (sys.clients k).publicKey
    | .intruder => fun _ _ => none
  takes
    | .server => serverTakes
    | .client k => clientTakes (sys.clients k).publicKey
    | .intruder => fun _ => none
  takes_reads := by
    rintro (_ | k | _) s a s' es h
    · exact serverTakes_reads h
    · exact clientTakes_reads h
    · intro e _ m htakes
      cases htakes

variable [DecidableEq κ]

/-- What the server does in a run of the system. -/
def serverEvents (tr : List (Σ i, EventOf (κ := κ) i)) : List Server.Event :=
  Network.eventsOf (ε := EventOf) .server tr

/-- What the client `k` does. -/
def clientEvents (k : κ) (tr : List (Σ i, EventOf (κ := κ) i)) : List Client.Event :=
  Network.eventsOf (ε := EventOf) (.client k) tr

/-- The runs of all parties from where each of them starts. -/
def SystemRun (sys : Setup κ) (as : List (Σ i, ActionOf (κ := κ) i))
    (s : Network.State (StateOf (κ := κ)) Packet) (tr : List (Σ i, EventOf (κ := κ) i)) : Prop :=
  ∃ s₀ : (i : Role κ) → StateOf i, (∃ clock, Server.start sys.server clock = some (s₀ .server)) ∧
    (∀ k, ∃ clock, Client.start (sys.clients k).ctx clock = some (s₀ (.client k))) ∧
    Run sys.network.step Free ⟨s₀, []⟩ as s tr

variable {sys : Setup κ} {as : List (Σ i, ActionOf (κ := κ) i)}
  {s : Network.State (StateOf (κ := κ)) Packet} {tr : List (Σ i, EventOf (κ := κ) i)}

theorem SystemRun.server (h : SystemRun sys as s tr) :
    ∃ bs, Server.ServerRun sys.server Free bs (s.parts .server) (serverEvents tr) := by
  obtain ⟨s₀, ⟨clock, hstart⟩, -, hrun⟩ := h
  obtain ⟨bs, hparty⟩ := Network.party_run hrun .server
  exact ⟨bs, clock, s₀ .server, hstart, hparty⟩

theorem SystemRun.client (h : SystemRun sys as s tr) (k : κ) :
    ∃ bs, Client.ClientRun (sys.clients k).ctx Free bs (s.parts (.client k))
      (clientEvents k tr) := by
  obtain ⟨s₀, -, hstart, hrun⟩ := h
  obtain ⟨clock, hclient⟩ := hstart k
  obtain ⟨bs, hparty⟩ := Network.party_run hrun (.client k)
  exact ⟨bs, clock, s₀ (.client k), hclient, hparty⟩

/-- The intruder uses the keys it holds. -/
theorem SystemRun.stolen (h : SystemRun sys as s tr) {a : List UInt8 × StreamHello}
    (hmem : (⟨.intruder, a⟩ : Σ i, EventOf (κ := κ) i) ∈ tr) : a.1 ∈ sys.stolen := by
  obtain ⟨s₀, -, -, hrun⟩ := h
  obtain ⟨bs, hparty⟩ := Network.party_run hrun .intruder
  refine hparty.forall_events (I := fun _ _ => True) (P := fun a => a.1 ∈ sys.stolen)
    (fun _ => trivial) ?_ a (Network.mem_eventsOf.mpr hmem)
  intro u _ _ _ _ _ _ hst
  exact intrude_some (u := u) hst

/-- A packet that a party has taken was sent. -/
theorem SystemRun.sent (h : SystemRun sys as s tr) {i : Role κ} {e : EventOf i}
    (he : ⟨i, e⟩ ∈ tr) {m : Packet} (htakes : sys.network.takes i e = some m) :
    ∃ e' ∈ tr, sys.network.sends e'.1 e'.2 = some m := by
  obtain ⟨s₀, -, -, hrun⟩ := h
  obtain ⟨tr₁, tr₂, heq⟩ := List.append_of_mem he
  obtain ⟨e', he', hsends⟩ := Network.read_sent hrun tr₁ ⟨i, e⟩ tr₂ heq m htakes
  exact ⟨e', by rw [heq]; exact List.mem_append_left _ he', hsends⟩

/-- A hello of a key that is not stolen was sent by a client of this key. -/
theorem SystemRun.hello_sent (h : SystemRun sys as s tr) {e : Server.Event}
    (he : e ∈ serverEvents tr) {publicKey : List UInt8} {hello : StreamHello}
    (htakes : serverTakes e = some (.hello publicKey hello)) (hkey : publicKey ∉ sys.stolen) :
    ∃ k stream, (sys.clients k).publicKey = publicKey ∧ .hello stream ∈ clientEvents k tr ∧
      stream.hello = hello := by
  obtain ⟨⟨i, e'⟩, he', hsends⟩ := h.sent (Network.mem_eventsOf.mp he) htakes
  match i, e', he', hsends with
  | .server, e', _, hsends =>
    obtain ⟨stream, msg, -, heq⟩ := serverSends_some hsends
    cases heq
  | .client k, e', he', hsends =>
    obtain ⟨stream, rfl, heq⟩ := clientSends_some hsends
    cases heq
    exact ⟨k, stream, rfl, Network.mem_eventsOf.mpr he', rfl⟩
  | .intruder, a, he', hsends =>
    cases hsends
    exact absurd (h.stolen he') hkey

/-- A signal that a client has received was written to a peer of its key. -/
theorem SystemRun.signal_sent (h : SystemRun sys as s tr) {k : κ} {msg : ControlMessage}
    (hmem : .received msg ∈ clientEvents k tr) :
    ∃ stream, stream.peer.publicKey = (sys.clients k).publicKey ∧
      .writing stream msg ∈ serverEvents tr := by
  have htakes : sys.network.takes (.client k) (.received msg : Client.Event) =
      some (.signal (sys.clients k).publicKey msg) := rfl
  obtain ⟨⟨i, e'⟩, he', hsends⟩ := h.sent (Network.mem_eventsOf.mp hmem) htakes
  match i, e', he', hsends with
  | .server, e', he', hsends =>
    obtain ⟨stream, msg', rfl, heq⟩ := serverSends_some hsends
    obtain ⟨hkey, rfl⟩ := Packet.signal.inj heq
    exact ⟨stream, hkey.symm, Network.mem_eventsOf.mpr he'⟩
  | .client k, e', _, hsends =>
    obtain ⟨stream, -, heq⟩ := clientSends_some hsends
    cases heq
  | .intruder, a, _, hsends => cases hsends

/-! ## Rightful relays -/

/-- What the two ends of a stream have to do with each other: the server relays the tunnel of a
    forward link to the target of the link, and the tunnel for a signal to the connection that
    the signal was for. -/
def Joined (server : Server.Context) (client : Client.Context) (tr : List Server.Event)
    (stream : Client.Stream) : Server.Endpoint → Prop
  | .target addr =>
    (∃ peerAddr, stream.origin = .accepted peerAddr) ∧
      (∃ link ∈ server.config.links, link.id = stream.linkId ∧ link.mode = .forward ∧
        link.target = some addr) ∧
      Client.HasLink client.config stream.linkId .forward
  | .external conn =>
    ∃ streamId target, stream.origin = .signalled streamId target ∧
      (streamId, conn) ∈ Server.acceptedIn tr ∧ conn.listener = stream.linkId ∧
      ∃ link ∈ client.config.links, link.id = stream.linkId ∧ link.mode = .reverse ∧
        link.target = some target

/-- The tunnel of the relay was dialed by a client of its peer's key, for a link of the peer. -/
def Rightful (sys : Setup κ) (tr : List (Σ i, EventOf (κ := κ) i)) (relay : Server.Relay) :
    Prop :=
  ∃ k stream, (sys.clients k).publicKey = relay.tunnel.peer.publicKey ∧
    .hello stream ∈ clientEvents k tr ∧ stream.hello = relay.hello ∧
    stream.linkId = relay.linkId ∧ stream.linkId ∈ relay.tunnel.peer.links ∧
    Joined sys.server (sys.clients k).ctx (serverEvents tr) stream relay.other

/-- The origin of a stream whose hello carries no stream id. -/
theorem accepted_of_hello {stream : Client.Stream} {hello : StreamHello}
    (hhello : stream.hello = hello) (hid : hello.streamId = none) :
    ∃ peerAddr, stream.origin = .accepted peerAddr := by
  subst hhello
  change stream.origin.streamId = none at hid
  cases horigin : stream.origin with
  | accepted peerAddr => exact ⟨peerAddr, rfl⟩
  | signalled streamId target =>
    rw [horigin] at hid
    cases hid

/-- The origin of one whose hello carries one. -/
theorem signalled_of_hello {stream : Client.Stream} {hello : StreamHello} {streamId : UInt64}
    (hhello : stream.hello = hello) (hid : hello.streamId = some streamId) :
    ∃ target, stream.origin = .signalled streamId target := by
  subst hhello
  change stream.origin.streamId = some streamId at hid
  cases horigin : stream.origin with
  | accepted peerAddr =>
    rw [horigin] at hid
    cases hid
  | signalled streamId' target =>
    rw [horigin] at hid
    obtain rfl := Option.some.inj hid
    exact ⟨target, rfl⟩

/-- A client dials a tunnel for a signal after the server has written it. -/
theorem SystemRun.signal_of_hello (h : SystemRun sys as s tr) {k : κ} {base64 : Base64}
    (hvalid : (sys.clients k).ctx.config.validate base64 = [])
    (hrole : (sys.clients k).ctx.config.role = .client) {stream : Client.Stream}
    (hmem : .hello stream ∈ clientEvents k tr) {streamId : UInt64} {target : String}
    (horigin : stream.origin = .signalled streamId target) :
    (∃ link ∈ (sys.clients k).ctx.config.links, link.id = stream.linkId ∧ link.mode = .reverse ∧
      link.target = some target) ∧
    ∃ tunnel, .writing tunnel (.openStream stream.linkId streamId) ∈ serverEvents tr := by
  obtain ⟨bs, hclient⟩ := h.client k
  have hinv := Client.dialInv_run hvalid hrole hclient
  have hopening := opening_of_hello hinv hmem horigin
  refine ⟨hinv.targets _ hopening, ?_⟩
  have hcount : 0 < ((clientEvents k tr).filterMap Client.signalOf).count
      (stream.linkId, streamId) := by
    refine lt_of_lt_of_le (List.countP_pos_iff.mpr ?_) (hinv.signals stream.linkId streamId)
    exact ⟨_, hopening, by simp⟩
  obtain ⟨e, he, heq⟩ := List.mem_filterMap.mp (List.count_pos_iff.mp hcount)
  unfold Client.signalOf at heq
  split at heq
  · cases heq
    obtain ⟨tunnel, -, hwriting⟩ := h.signal_sent he
    exact ⟨tunnel, hwriting⟩
  · cases heq

/-- For every relay that the server starts with a peer whose key is not stolen, a client of this
    key has dialed the tunnel for the link of the relay, and the two ends of the stream belong
    together. -/
theorem relays_rightful (sys : Setup κ) (base64 : Base64)
    (hvalid : ∀ k, (sys.clients k).ctx.config.validate base64 = [])
    (hrole : ∀ k, (sys.clients k).ctx.config.role = .client) {as : List (Σ i, ActionOf (κ := κ) i)}
    {s : Network.State (StateOf (κ := κ)) Packet} {tr : List (Σ i, EventOf (κ := κ) i)}
    (h : SystemRun sys as s tr) (hlt : (Server.acceptedIn (serverEvents tr)).length < 2 ^ 64) :
    ∀ relay, .relayStarted relay ∈ serverEvents tr →
      relay.tunnel.peer.publicKey ∉ sys.stolen → Rightful sys tr relay := by
  intro relay hrelay hkey
  obtain ⟨bs, hserver⟩ := h.server
  obtain ⟨hallowed, -⟩ := (Server.accessInv_run hserver).started relay hrelay
  obtain ⟨hlinks, link, hfind, hlinkId, -, hmode⟩ := hallowed
  have hid : link.id = relay.hello.linkId := Server.id_of_find hfind
  have hasked := (Server.originInv_run hserver).started relay hrelay
  unfold Server.Relay.AskedFor at hasked
  cases hother : relay.other with
  | target addr =>
    rw [hother] at hasked hmode
    obtain ⟨hforward, hnone, htarget⟩ := hmode
    obtain ⟨k, stream, hpublic, hhello, heq⟩ := h.hello_sent hasked rfl hkey
    obtain ⟨peerAddr, horigin⟩ := accepted_of_hello heq hnone
    obtain ⟨bs', hclient⟩ := h.client k
    have hhas := Client.hello_of_run hclient stream hhello
    rw [Client.Stream.HasLink, horigin] at hhas
    have hname : stream.linkId = relay.hello.linkId := by rw [← heq]; rfl
    refine ⟨k, stream, hpublic, hhello, heq, ?_, ?_, ?_⟩
    · rw [hname, hlinkId, hid]
    · rw [hname]
      exact hlinks
    · rw [hother]
      refine ⟨⟨peerAddr, horigin⟩, ⟨link, List.mem_of_find?_eq_some hfind, ?_⟩, hhas⟩
      exact ⟨hid.trans hname.symm, hforward, htarget⟩
  | external conn =>
    rw [hother] at hasked hmode
    obtain ⟨streamId, hclaimed⟩ := hasked
    obtain ⟨k, stream, hpublic, hhello, heq⟩ := h.hello_sent hclaimed rfl hkey
    obtain ⟨hinv, hown⟩ := Server.streamInv_run hserver hlt
    obtain ⟨hissued, hstreamId, -⟩ := hown _ hclaimed
    obtain ⟨target, horigin⟩ := signalled_of_hello heq hstreamId
    obtain ⟨hreverse, tunnel, hwriting⟩ := h.signal_of_hello (hvalid k) (hrole k) hhello horigin
    obtain ⟨conn', hissued', hlistener⟩ := Server.writing_owned hserver hlt hwriting
    obtain rfl : conn = conn' := hinv.linear.key_inj hissued hissued'
    have hname : stream.linkId = relay.hello.linkId := by rw [← heq]; rfl
    refine ⟨k, stream, hpublic, hhello, heq, ?_, ?_, ?_⟩
    · rw [hname, hlinkId, hid]
    · rw [hname]
      exact hlinks
    · rw [hother]
      exact ⟨streamId, target, horigin, hissued, hlistener, hreverse⟩

/-- A run that is computed, and a property of its trace that is too. -/
theorem exists_system_run (s₀ : (i : Role κ) → StateOf i)
    {P : List (Σ i, EventOf (κ := κ) i) → Prop}
    (hserver : ∃ clock, Server.start sys.server clock = some (s₀ .server))
    (hclients : ∀ k, ∃ clock, Client.start (sys.clients k).ctx clock = some (s₀ (.client k)))
    (h : (exec sys.network.step ⟨s₀, []⟩ as).isSome)
    (hP : P ((exec sys.network.step ⟨s₀, []⟩ as).get h).2) : ∃ s tr, SystemRun sys as s tr ∧ P tr :=
  ⟨_, _, ⟨s₀, hserver, hclients, run_of_exec (Option.some_get h).symm⟩, hP⟩

end System

/-! ## Alice's database -/

/-- Alice's client at home, and an intruder that holds bob's key. -/
def aliceSetup : Setup Unit where
  server := Server.exampleContext
  clients _ := ⟨Client.homeContext, Server.aliceKey⟩
  stolen := {Server.bobKey}

def aliceStart : (i : Role Unit) → StateOf i
  | .server => (Server.start Server.exampleContext 0).get (by decide)
  | .client _ => (Client.start Client.homeContext 0).get (by decide)
  | .intruder => ()

def aliceTunnel : Server.TcpStream := ⟨.v4 ⟨198, 51, 100, 7⟩ 40000, .holder Server.aliceKey⟩

/-- Actions of one party. -/
def actionsOf (i : Role Unit) (as : List (ActionOf i)) : List (Σ i, ActionOf (κ := Unit) i) :=
  as.map (Sigma.mk i)

/-- A connection to "db" is signalled to alice, who dials a tunnel for it; meanwhile the intruder
    sends a hello with bob's key. -/
def aliceActions : List (Σ i, ActionOf (κ := Unit) i) :=
  actionsOf .server (Server.bindAll ++
    [.listener 0 (.accept (.ok (.v4 ⟨203, 0, 113, 5⟩ 50000))), .listener 0 .insert,
      .listener 0 .send] ++
    Server.connect .control aliceTunnel Server.aliceKey 0 ++
    [.control (.handoff 0), .control (.recv 0), .control .openStream]) ++
  actionsOf (.client ()) [.control (.connect (.ok ())), .control (.handshake (.ok ()) 0),
    .control (.incoming (.ok (.openStream "db" 1))), .opening 0 (.ok ()),
    .tunnel 0 (.connect (.ok ())), .tunnel 0 (.handshake (.ok ()))] ++
  actionsOf .intruder [(Server.bobKey, ⟨"web", some 2⟩)] ++
  actionsOf .server (Server.connect .data aliceTunnel Server.aliceKey 0 ++
    [.data (.hello 0 (.received ⟨"db", some 1⟩))])

def aliceRelay : Server.Relay where
  tunnel := ⟨aliceTunnel, ⟨"alice", Server.aliceKey, ["db"].toFinset⟩⟩
  hello := ⟨"db", some 1⟩
  linkId := "db"
  other := .external ⟨"db", .v4 ⟨203, 0, 113, 5⟩ 50000, 0⟩

theorem relays_rightful_alice :
    ∃ s tr, SystemRun aliceSetup aliceActions s tr ∧ .relayStarted aliceRelay ∈ serverEvents tr ∧
      Rightful aliceSetup tr aliceRelay := by
  obtain ⟨s, tr, hrun, hmem, hlength⟩ : ∃ s tr, SystemRun aliceSetup aliceActions s tr ∧
      .relayStarted aliceRelay ∈ serverEvents tr ∧
        (Server.acceptedIn (serverEvents tr)).length = 1 :=
    exists_system_run aliceStart ⟨0, rfl⟩ (fun _ => ⟨0, rfl⟩) (by decide) (by decide)
  refine ⟨s, tr, hrun, hmem, relays_rightful aliceSetup .standard
    (fun _ => Client.homeConfig_valid) (fun _ => rfl) hrun ?_ aliceRelay hmem (by decide)⟩
  rw [hlength]
  decide

end Ghostport.System
