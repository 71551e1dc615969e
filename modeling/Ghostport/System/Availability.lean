import Ghostport.Client.Availability
import Ghostport.Server.Availability
import Ghostport.System.EndToEnd

/-!
# A forward link works again

A server and its clients have run for a while, with an intruder among them. Then the intruder
and the other clients fall silent, and somebody connects to the forward link of a client.

Results:
* `forward_served`: the connection is relayed at both ends as soon as the limiter has forgotten
  what was before, whatever that was; nobody else has to do anything for it.
-/

namespace Ghostport.System

open Ghostport.Core Ghostport.Lib Ghostport.Net

variable {κ : Type}

/-- The server forwards `link` for the client `k`, which it knows as `peer`. -/
structure Forwarded (sys : Setup κ) (base64 : Base64) (k : κ) (peer : ResolvedPeer)
    (link : LinkConfig) : Prop where
  serverValid : sys.server.config.validate base64 = []
  serverRole : sys.server.config.role = .server
  clientValid : (sys.clients k).ctx.config.validate base64 = []
  clientRole : (sys.clients k).ctx.config.role = .client
  initiator : (sys.clients k).ctx.initiator = .ok ()
  publicKey : peer.publicKey = (sys.clients k).publicKey
  allowed : link.id ∈ peer.links
  configured : link ∈ sys.server.config.links
  transport : link.transport = .tcp
  mode : link.mode = .forward

/-- Nobody but the client `k` and the server takes part, and they do nothing but what the
    connection of `stream` and `tunnel` takes. -/
inductive Unaided (k : κ) (stream : Client.Stream) (tunnel : Server.NoiseStream)
    (s : Network.State (StateOf (κ := κ)) Packet) : (Σ i, ActionOf (κ := κ) i) → Prop
  | client {a : Client.Action} : Client.Forwards stream (s.parts (.client k)) a →
    Unaided k stream tunnel s ⟨.client k, a⟩
  | server {a : Server.Action} : Server.Unaided tunnel stream.hello (s.parts .server) a →
    Unaided k stream tunnel s ⟨.server, a⟩

/-- The actions for a connection read no signal. -/
theorem clientReads_of_forwards {publicKey : List UInt8} {stream : Client.Stream}
    {s : Client.State} {a : Client.Action} (h : Client.Forwards stream s a) :
    clientReads publicKey a = none := by
  cases h <;> rfl

/-- They read no hello but their own. -/
theorem serverReads_of_unaided {tunnel : Server.NoiseStream} {hello : StreamHello}
    {s : Server.State} {a : Server.Action} (h : Server.Unaided tunnel hello s a) :
    ∀ m ∈ serverReads s a, m = .hello tunnel.peer.publicKey hello := by
  cases h with
  | hello hi =>
    intro m hm
    simpa [serverReads, hi, eq_comm] using hm
  | _ => simp [serverReads]

/-- The server connects to the target of a link that it forwards. -/
theorem checkHello_forwarded {sys : Setup κ} {base64 : Base64} {k : κ} {peer : ResolvedPeer}
    {link : LinkConfig} (h : Forwarded sys base64 k peer link) {stats : String → Option LinkStats}
    (hstats : (stats link.id).isSome) : ∃ target, link.target = some target ∧
      Server.checkHello sys.server stats peer ⟨link.id, none⟩ = .dial link target := by
  have hneeds : sys.server.config.linkNeedsListen link.mode = false := by
    simp [Config.linkNeedsListen, h.serverRole, h.mode]
  obtain ⟨target, htarget⟩ :=
    Option.isSome_iff_exists.mp (Config.target_of_valid h.serverValid h.configured hneeds)
  have hfind : sys.server.config.links.find? (fun l => l.id = link.id) = some link := by
    cases hfound : sys.server.config.links.find? fun l => l.id = link.id with
    | none =>
      rw [List.find?_eq_none] at hfound
      exact absurd (decide_eq_true rfl) (hfound link h.configured)
    | some l =>
      have hid : l.id = link.id := by simpa using List.find?_some hfound
      rw [Config.link_eq_of_id_eq h.serverValid (List.mem_of_find?_eq_some hfound) h.configured hid]
  exact ⟨target, htarget, Server.checkHello_dial_iff.mpr
    ⟨h.allowed, hfind, h.transport, hstats, h.mode, rfl, htarget⟩⟩

variable [DecidableEq κ] {sys : Setup κ} {as : List (Σ i, ActionOf (κ := κ) i)}
  {s : Network.State (StateOf (κ := κ)) Packet} {tr : List (Σ i, EventOf (κ := κ) i)}

/-- What the client can do for the connection, it can do in the system. -/
theorem lift_client {k : κ} {stream : Client.Stream} {tunnel : Server.NoiseStream}
    {Q : Client.State → List Client.Event → Prop}
    (h : CanReach (Client.step (sys.clients k).ctx) (Client.Forwards stream)
      (s.parts (.client k)) Q) :
    CanReach sys.network.step (Unaided k stream tunnel) s fun t new =>
      ∃ es, Q (t.parts (.client k)) es ∧ t.parts .server = s.parts .server ∧
        t.sent = s.sent ++ es.filterMap (clientSends (sys.clients k).publicKey) ∧
        new = es.map (Sigma.mk (Role.client k)) := by
  have hreads : CanReach (sys.network.party (.client k)) (fun p a => Client.Forwards stream p a ∧
      ∀ m ∈ sys.network.reads (.client k) p a, m ∈ s.sent) (s.parts (.client k)) Q := by
    refine h.weaken fun p a ha => ⟨ha, fun m hm => ?_⟩
    rw [show sys.network.reads (.client k) p a = none from clientReads_of_forwards ha] at hm
    cases hm
  refine (Network.lift (fun _ _ => .client) hreads).mono ?_
  rintro t new ⟨es, hQ, hothers, hsent, rfl⟩
  exact ⟨es, hQ, hothers .server (by simp), hsent, rfl⟩

/-- What the server can do for the connection once its hello was sent. -/
theorem lift_server {k : κ} {stream : Client.Stream} {tunnel : Server.NoiseStream}
    {Q : Server.State → List Server.Event → Prop}
    (hsent : .hello tunnel.peer.publicKey stream.hello ∈ s.sent)
    (h : CanReach (Server.step sys.server) (Server.Unaided tunnel stream.hello)
      (s.parts .server) Q) :
    CanReach sys.network.step (Unaided k stream tunnel) s fun t new =>
      ∃ es, Q (t.parts .server) es ∧ t.parts (.client k) = s.parts (.client k) ∧
        new = es.map (Sigma.mk Role.server) := by
  have hreads : CanReach (sys.network.party .server)
      (fun p a => Server.Unaided tunnel stream.hello p a ∧
        ∀ m ∈ sys.network.reads .server p a, m ∈ s.sent) (s.parts .server) Q := by
    refine h.weaken fun p a ha => ⟨ha, fun m hm => ?_⟩
    rw [serverReads_of_unaided ha m hm]
    exact hsent
  refine (Network.lift (fun _ _ => .server) hreads).mono ?_
  rintro t new ⟨es, hQ, hothers, -, rfl⟩
  exact ⟨es, hQ, hothers (.client k) (by simp), rfl⟩

/-- Whatever has happened in the system: if the data channel of the server is bound, a connection
    to a forward link of a client is relayed at both ends, to the target of the link. It takes
    no more than `WINDOW` and a nanosecond, and nobody else has to do anything. -/
theorem forward_served {base64 : Base64} {k : κ} {peer : ResolvedPeer} {link : LinkConfig}
    (hlink : Forwarded sys base64 k peer link) {incoming : Incoming} {i : ℕ}
    {state : sys.server.snow.HandshakeState}
    (hmatch : matchPeer sys.server.snow incoming sys.server.privateKey sys.server.peers =
      .ok (i, state)) (hpeer : sys.server.peers[i]? = some peer)
    (h : SystemRun sys as s tr) (haccepts : (s.parts .server).Accepts) {j : ℕ} {listenAddr : String}
    (hlistener : (s.parts (.client k)).listeners[j]? = some ⟨link.id, listenAddr, .accepting⟩)
    (peerAddr : SocketAddr) (tcp : Server.TcpStream) :
    ∃ target, link.target = some target ∧
      CanReach sys.network.step (Unaided k ⟨link.id, .accepted peerAddr⟩ ⟨tcp, peer⟩) s
        fun t new =>
          ⟨.client k, .relayStarted ⟨link.id, .accepted peerAddr⟩⟩ ∈ new ∧
          ⟨.server, .relayStarted ⟨⟨tcp, peer⟩, ⟨link.id, none⟩, link.id, .target target⟩⟩ ∈ new ∧
          (t.parts .server).clock = (s.parts .server).clock + window + 1 := by
  obtain ⟨bs, hserver⟩ := h.server
  obtain ⟨cs, hclient⟩ := h.client k
  have hstats : ((s.parts .server).data.stats link.id).isSome := by
    have hid : link.id ∈ sys.server.config.links.map (·.id) :=
      List.mem_map_of_mem hlink.configured
    rw [Server.stats_counted hserver]
    simp [initialStats, hid]
  obtain ⟨target, htarget, hcheck⟩ := checkHello_forwarded hlink hstats
  refine ⟨target, htarget, ?_⟩
  obtain ⟨addr, haddr⟩ := Option.isSome_iff_exists.mp
    (Config.clientFields_of_valid hlink.clientValid hlink.clientRole).serverDataAddr
  have hown : ((s.parts (.client k)).stats link.id).isSome := by
    have hlinks := Client.linksInv_run hclient
    obtain ⟨own, howned, hid, -⟩ := hlinks.listeners _ (List.mem_of_getElem? hlistener)
    have hsome := hlinks.stats own howned
    rwa [hid] at hsome
  -- the client dials
  have hdials := Client.canReach_hello hlistener haddr hlink.initiator peerAddr
  refine (lift_client hdials).bind ?_
  rintro t _ ⟨es, ⟨hes, htunnel, hcounters, -⟩, hserver', hsent, rfl⟩
  have hhello : .hello peer.publicKey ⟨link.id, none⟩ ∈ t.sent := by
    rw [hsent, hes, hlink.publicKey]
    exact List.mem_append_right _ (List.mem_filterMap.mpr ⟨_, .tail _ (.head _), rfl⟩)
  -- the server comes to rest and takes the hello
  have hserved := Server.canReach_relay ⟨tcp, peer⟩ hserver haccepts hmatch hpeer hcheck
  rw [← hserver'] at hserved
  refine (lift_server hhello hserved).bind ?_
  rintro u _ ⟨fs, ⟨hrelay, hclock⟩, hclient', rfl⟩
  -- the client relays
  have hrelays := Client.canReach_relay (sys.clients k).ctx htunnel (hcounters ▸ hown)
  rw [← hclient'] at hrelays
  refine (lift_client hrelays).mono ?_
  rintro v _ ⟨gs, ⟨hrelayed, -⟩, hserver'', -, rfl⟩
  refine ⟨?_, ?_, ?_⟩
  · exact List.mem_append_right _ (List.mem_append_right _ (List.mem_map_of_mem hrelayed))
  · exact List.mem_append_right _ (List.mem_append_left _ (List.mem_map_of_mem hrelay))
  · rw [hserver'', hclock, hserver']

/-- A run that is computed, and a property of its last state that is too. -/
theorem exists_system_state (s₀ : (i : Role κ) → StateOf i)
    {P : Network.State (StateOf (κ := κ)) Packet → Prop}
    (hserver : ∃ clock, Server.start sys.server clock = some (s₀ .server))
    (hclients : ∀ k, ∃ clock, Client.start (sys.clients k).ctx clock = some (s₀ (.client k)))
    (h : (exec sys.network.step ⟨s₀, []⟩ as).isSome)
    (hP : P ((exec sys.network.step ⟨s₀, []⟩ as).get h).1) : ∃ s tr, SystemRun sys as s tr ∧ P s :=
  ⟨_, _, ⟨s₀, hserver, hclients, run_of_exec (Option.some_get h).symm⟩, hP⟩

/-! ## Bob's shell -/

/-- Bob's client, and an intruder that holds no key. -/
def bobSetup : Setup Unit where
  server := Server.exampleContext
  clients _ := ⟨Client.homeContext, Server.bobKey⟩
  stolen := ∅

def bobPeer : ResolvedPeer := ⟨"bob", Server.bobKey, ["web", "ssh"].toFinset⟩

def sshLink : LinkConfig := ⟨"ssh", .forward, .tcp, none, some "127.0.0.1:22"⟩

theorem ssh_forwarded : Forwarded bobSetup .standard () bobPeer sshLink where
  serverValid := Server.exampleConfig_valid
  serverRole := rfl
  clientValid := Client.homeConfig_valid
  clientRole := rfl
  initiator := rfl
  publicKey := rfl
  allowed := by decide
  configured := by decide
  transport := rfl
  mode := rfl

/-- All permits of the server are taken, and bob's client listens. -/
def crowdedActions : List (Σ i, ActionOf (κ := Unit) i) :=
  actionsOf .server Server.crowdedOut ++ actionsOf (.client ()) [.listener 0 (.bind (.ok ()))]

/-- What bob's handshake begins with. -/
def bobIncoming : Incoming := ⟨32 :: 0 :: Server.bobKey, "early eof"⟩

theorem bob_matched : ∃ state, matchPeer bobSetup.server.snow bobIncoming
    bobSetup.server.privateKey bobSetup.server.peers = .ok (1, state) :=
  ⟨_, rfl⟩

/-- Strangers hold every permit; bob gets to his shell all the same. -/
theorem forward_served_bob : ∃ s tr, SystemRun bobSetup crowdedActions s tr ∧
    (s.parts .server).limiter.concurrent = 0 ∧
    CanReach bobSetup.network.step
      (Unaided () ⟨"ssh", .accepted (.v4 ⟨127, 0, 0, 1⟩ 50000)⟩
        ⟨⟨.v4 ⟨198, 51, 100, 7⟩ 40000, .holder Server.bobKey⟩, bobPeer⟩) s fun t _ =>
      (t.parts .server).clock = (s.parts .server).clock + window + 1 := by
  obtain ⟨s, tr, hrun, hfull, haccepts, hlistener⟩ : ∃ s tr,
      SystemRun bobSetup crowdedActions s tr ∧ (s.parts .server).limiter.concurrent = 0 ∧
        ((s.parts .server).acceptor .data).phase = .accepting ∧
        (s.parts (.client ())).listeners[0]? = some ⟨"ssh", "127.0.0.1:2222", .accepting⟩ :=
    exists_system_state aliceStart ⟨0, rfl⟩ (fun _ => ⟨0, rfl⟩) (by decide +kernel)
      (by decide +kernel)
  obtain ⟨state, hmatch⟩ := bob_matched
  obtain ⟨target, -, hreach⟩ := forward_served ssh_forwarded hmatch rfl hrun
    (by simp [Server.State.Accepts, haccepts]) hlistener (.v4 ⟨127, 0, 0, 1⟩ 50000)
    ⟨.v4 ⟨198, 51, 100, 7⟩ 40000, .holder Server.bobKey⟩
  exact ⟨s, tr, hrun, hfull, hreach.mono fun _ _ h => h.2.2⟩

end Ghostport.System
