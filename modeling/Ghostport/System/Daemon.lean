import Ghostport.Client.Links
import Ghostport.Server.Pairing
import Ghostport.Udp.Flows

/-!
# The daemon (`src/main.rs`)

`run_daemon` validates the config, decodes the keys it names and starts the TCP and the UDP
part of its role.

Results:
* `no_panic`: with a config that passes validation no `expect` and no index of the startup, of
  a listener or of a connection fails, whatever the network does.
-/

namespace Ghostport.System

open Ghostport.Core Ghostport.Net Ghostport.Lib

/-! ## Model -/

/-- What `run_daemon` comes to before the parts of a role run. -/
inductive Startup where
  /-- Lines 297-312. -/
  | refused (errors : List String)
  | failed (e : String)
  | panicked
  | server (privateKey : List UInt8) (peers : List ResolvedPeer)
  | client (privateKey peerPublicKey : List UInt8)
  deriving DecidableEq

/-- `run_daemon` (lines 289-407) from the loaded config on; `loaded` is the result of
    `load_private_key`. -/
def runDaemon (base64 : Base64) (cfg : Config) (loaded : Except String (List UInt8)) : Startup :=
  let errors := cfg.validate base64
  if errors ≠ [] then .refused errors
  else
    match loaded with
    | .error e => .failed e
    | .ok privateKey =>
      match cfg.role with
      | .server =>
        match resolvePeers base64 cfg.peers with
        | .error e => .failed e
        | .ok peers => .server privateKey peers
      | .client =>
        match cfg.peerPublicKey with
        | none => .panicked
        | some key =>
          match decodePublicKey base64 key with
          | .error e => .failed ("peer_public_key: " ++ e)
          | .ok peerPublicKey => .client privateKey peerPublicKey

/-! ## The startup of a valid config -/

section

variable {base64 : Base64} {config : Config}

theorem resolvePeers_ok {peers : List PeerConfig}
    (h : ∀ p ∈ peers, ∃ key, decodePublicKey base64 p.publicKey = .ok key) :
    ∃ resolved, resolvePeers base64 peers = .ok resolved := by
  induction peers with
  | nil => exact ⟨[], rfl⟩
  | cons peer peers ih =>
    obtain ⟨key, hkey⟩ := h peer (by simp)
    obtain ⟨rest, hrest⟩ := ih fun p hp => h p (List.mem_cons_of_mem _ hp)
    refine ⟨⟨peer.name, key, peer.links.toFinset⟩ :: rest, ?_⟩
    simp only [resolvePeers, hkey, hrest]
    rfl

theorem runDaemon_server (hvalid : config.validate base64 = []) (hrole : config.role = .server)
    {peers : List ResolvedPeer} (hpeers : resolvePeers base64 config.peers = .ok peers)
    (privateKey : List UInt8) :
    runDaemon base64 config (.ok privateKey) = .server privateKey peers := by
  simp [runDaemon, hvalid, hrole, hpeers]

theorem runDaemon_client (hvalid : config.validate base64 = []) (hrole : config.role = .client)
    {key : String} {peerPublicKey : List UInt8} (hkey : config.peerPublicKey = some key)
    (hdecode : decodePublicKey base64 key = .ok peerPublicKey) (privateKey : List UInt8) :
    runDaemon base64 config (.ok privateKey) = .client privateKey peerPublicKey := by
  simp [runDaemon, hvalid, hrole, hkey, hdecode]

/-- A valid config starts, unless the private key cannot be loaded. -/
theorem runDaemon_cases (hvalid : config.validate base64 = [])
    (loaded : Except String (List UInt8)) :
    (∃ e, loaded = .error e ∧ runDaemon base64 config loaded = .failed e) ∨
      (config.role = .server ∧
        ∃ privateKey peers, runDaemon base64 config loaded = .server privateKey peers) ∨
      (config.role = .client ∧
        ∃ privateKey key, runDaemon base64 config loaded = .client privateKey key) := by
  cases loaded with
  | error e => exact .inl ⟨e, rfl, by simp [runDaemon, hvalid]⟩
  | ok privateKey =>
    cases hrole : config.role with
    | server =>
      obtain ⟨peers, hpeers⟩ := resolvePeers_ok (Config.serverFields_of_valid hvalid hrole).keys
      exact .inr (.inl ⟨rfl, privateKey, peers, runDaemon_server hvalid hrole hpeers privateKey⟩)
    | client =>
      obtain ⟨s, key, hs, hkey⟩ := (Config.clientFields_of_valid hvalid hrole).peerPublicKey
      exact .inr (.inr ⟨rfl, privateKey, key, runDaemon_client hvalid hrole hs hkey privateKey⟩)

/-- The loops that start the listeners: each link of a kind needs a `listen`. -/
theorem listeners_isSome {β : Type} (needed : LinkConfig → Prop) [DecidablePred needed]
    (make : LinkConfig → String → β) (collect : List LinkConfig → Option (List β))
    (hnil : collect [] = some [])
    (hcons : ∀ link links, collect (link :: links) =
      if needed link then
        match link.listen with
        | none => none
        | some listenAddr => (collect links).map (make link listenAddr :: ·)
      else collect links)
    {links : List LinkConfig} (h : ∀ l ∈ links, needed l → l.listen.isSome) :
    (collect links).isSome := by
  induction links with
  | nil =>
    rw [hnil]
    rfl
  | cons link links ih =>
    have hrest := ih fun l hl => h l (List.mem_cons_of_mem _ hl)
    rw [hcons]
    split
    · rename_i hneeded
      obtain ⟨listenAddr, hlisten⟩ := Option.isSome_iff_exists.mp (h link (by simp) hneeded)
      simpa [hlisten] using hrest
    · exact hrest

end

/-! ## The server -/

section

variable {base64 : Base64}

/-- A hello finds the counters of its link and the target it needs. -/
theorem checkHello_ne_panic {ctx : Server.Context} (hvalid : ctx.config.validate base64 = [])
    (hrole : ctx.config.role = .server) {stats : String → Option LinkStats}
    (hstats : ∀ link ∈ ctx.config.links, (stats link.id).isSome) (peer : ResolvedPeer)
    (hello : StreamHello) : Server.checkHello ctx stats peer hello ≠ .panic := by
  unfold Server.checkHello
  split
  · simp
  · split
    · simp
    · rename_i link hfind
      have hlink := List.mem_of_find?_eq_some hfind
      split
      · simp
      · rw [if_neg (by simpa [Option.isNone_iff_eq_none] using
          Option.isSome_iff_ne_none.mp (hstats link hlink))]
        split
        · rename_i hmode _
          obtain ⟨target, htarget⟩ := Option.isSome_iff_exists.mp
            (Config.target_of_valid hvalid hlink (by simp [Config.linkNeedsListen, hrole, hmode]))
          simp [htarget]
        · simp
        · simp

theorem server_start_isSome {ctx : Server.Context} (hvalid : ctx.config.validate base64 = [])
    (hrole : ctx.config.role = .server) (clock : Instant) : (Server.start ctx clock).isSome := by
  have hfields := Config.serverFields_of_valid hvalid hrole
  obtain ⟨listenControl, hcontrol⟩ := Option.isSome_iff_exists.mp hfields.listenControl
  obtain ⟨listenData, hdata⟩ := Option.isSome_iff_exists.mp hfields.listenData
  have hlisteners : (Server.reverseListeners ctx.config.links).isSome := by
    refine listeners_isSome (fun link => link.transport = .tcp ∧ link.mode = .reverse)
      (fun link listenAddr => ⟨link.id, listenAddr, .binding⟩) Server.reverseListeners rfl
      (fun _ _ => rfl) fun l hl hkind => ?_
    exact Config.listen_of_valid hvalid hl (by simp [Config.linkNeedsListen, hrole, hkind.2])
  obtain ⟨listeners, hlisteners⟩ := Option.isSome_iff_exists.mp hlisteners
  simp [Server.start, hcontrol, hdata, hlisteners]

theorem server_not_panicked {ctx : Server.Context} (hvalid : ctx.config.validate base64 = [])
    (hrole : ctx.config.role = .server) {as : List Server.Action} {s : Server.State}
    {tr : List Server.Event} (h : Server.ServerRun ctx Free as s tr) : .panicked ∉ tr := by
  have hcounted : ∀ {as s tr}, Server.ServerRun ctx Free as s tr →
      ∀ link ∈ ctx.config.links, (s.data.stats link.id).isSome := by
    intro as s tr hrun link hlink
    have hid : link.id ∈ ctx.config.links.map (·.id) := List.mem_map_of_mem hlink
    rw [Server.stats_counted hrun]
    simp [initialStats, hid]
  obtain ⟨clock, s₀, hstart, hrun⟩ := h
  have hstep : ∀ (s : Server.State) (tr : List Server.Event) (a : Server.Action)
      (s' : Server.State) (es : List Server.Event),
      (∀ link ∈ ctx.config.links, (s.data.stats link.id).isSome) → Free s a →
      Server.step ctx s a = some (s', es) → ∀ e ∈ es, e ≠ .panicked := by
    intro s _ a s' es hstats _ hst
    cases Server.step_cases hst with
    | tick _ => simp
    | listener hc => cases hc <;> simp
    | cleanup hc => cases hc <;> simp
    | accept hc => cases hc <;> simp
    | handshake hc => cases hc <;> simp
    | control hc => cases hc <;> simp [Server.endSession]
    | data hc =>
      cases hc with
      | panicked _ hpanic => exact absurd hpanic (checkHello_ne_panic hvalid hrole hstats _ _)
      | _ => simp
  intro hm
  exact hrun.forall_events (fun hr => hcounted ⟨clock, s₀, hstart, hr⟩) hstep _ hm rfl

/-- A hello of a UDP forward link finds its target. -/
theorem udp_checkHello_ne_panic {ctx : Udp.Context} (hvalid : ctx.config.validate base64 = [])
    (hrole : ctx.config.role = .server) (party : Udp.Party) (hello : StreamHello) :
    Udp.checkHello ctx party hello ≠ .panic := by
  unfold Udp.checkHello
  split
  · simp
  · rename_i link hfind
    have hlink := List.mem_of_find?_eq_some hfind
    split
    · simp
    · rename_i hkind
      have hmode : link.mode = .forward := by
        by_contra hmode
        exact hkind (.inr hmode)
      split
      · simp
      · obtain ⟨target, htarget⟩ := Option.isSome_iff_exists.mp
          (Config.target_of_valid hvalid hlink (by simp [Config.linkNeedsListen, hrole, hmode]))
        simp [htarget]

theorem udp_server_not_panicked {ctx : Udp.Context} (hvalid : ctx.config.validate base64 = [])
    (hrole : ctx.config.role = .server) {as : List (Udp.Action ctx.snowstorm.Transport)}
    {s : Udp.State ctx.snowstorm.Transport} {tr : List Udp.Event}
    (h : Udp.ServerRun ctx Free as s tr) : .panicked ∉ tr := by
  obtain ⟨clock, s₀, hstart, hrun⟩ := h
  have hstep : ∀ (s : Udp.State ctx.snowstorm.Transport) (tr : List Udp.Event)
      (a : Udp.Action ctx.snowstorm.Transport) (s' : Udp.State ctx.snowstorm.Transport)
      (es : List Udp.Event), True → Free s a → Udp.step ctx s a = some (s', es) →
      ∀ e ∈ es, e ≠ .panicked := by
    intro s _ a s' es _ _ hst
    cases Udp.step_cases hst with
    | tick _ => simp
    | demux hc =>
      cases hc with
      | bound _ _ hprint =>
        intro e he hpanic
        obtain ⟨line, hline⟩ := hprint e he
        rw [hline] at hpanic
        cases hpanic
      | panicked _ hmatch hnone _ _ =>
        -- the index of a match is one of the peers'
        obtain ⟨peer, -, -, hpeer, -⟩ := matchPeerBytes_ok hmatch
        rw [hnone] at hpeer
        cases hpeer
      | _ => simp
    | session _ hc =>
      cases hc with
      | panicked _ _ _ _ hpanic =>
        exact absurd hpanic (udp_checkHello_ne_panic hvalid hrole _ _)
      | _ => simp
    | removed _ _ => simp
  intro hm
  exact hrun.forall_events (I := fun _ _ => True) (fun _ => trivial) hstep _ hm rfl

end

/-! ## The client -/

section

variable {base64 : Base64}

theorem client_start_isSome {ctx : Client.Context} (hvalid : ctx.config.validate base64 = [])
    (hrole : ctx.config.role = .client) (clock : Instant) : (Client.start ctx clock).isSome := by
  have hfields := Config.clientFields_of_valid hvalid hrole
  obtain ⟨serverControlAddr, hcontrol⟩ := Option.isSome_iff_exists.mp hfields.serverControlAddr
  have hlisteners : (Client.forwardListeners ctx.config.links).isSome := by
    refine listeners_isSome (fun link => link.transport = .tcp ∧ link.mode = .forward)
      (fun link listenAddr => ⟨link.id, listenAddr, .binding⟩) Client.forwardListeners rfl
      (fun _ _ => rfl) fun l hl hkind => ?_
    exact Config.listen_of_valid hvalid hl (by simp [Config.linkNeedsListen, hrole, hkind.2])
  obtain ⟨listeners, hlisteners⟩ := Option.isSome_iff_exists.mp hlisteners
  simp [Client.start, hcontrol, hlisteners]

theorem dial_not_panicked {ctx : Client.Context} (hfields : ctx.config.ClientFields base64)
    {s s' : Client.State} {stream : Client.Stream} {es : List Client.Event}
    (hc : Client.DialCase ctx s stream s' es) : ∀ e ∈ es, e ≠ .panicked := by
  cases hc with
  | dialed _ => simp
  | panicked hnone =>
    have haddr := hfields.serverDataAddr
    rw [hnone] at haddr
    cases haddr

theorem client_not_panicked {ctx : Client.Context} (hvalid : ctx.config.validate base64 = [])
    (hrole : ctx.config.role = .client) {as : List Client.Action} {s : Client.State}
    {tr : List Client.Event} (h : Client.ClientRun ctx Free as s tr) : .panicked ∉ tr := by
  have hfields := Config.clientFields_of_valid hvalid hrole
  obtain ⟨clock, s₀, hstart, hrun⟩ := h
  have hstep : ∀ (s : Client.State) (tr : List Client.Event) (a : Client.Action)
      (s' : Client.State) (es : List Client.Event), Client.LinksInv ctx s → Free s a →
      Client.step ctx s a = some (s', es) → ∀ e ∈ es, e ≠ .panicked := by
    intro s _ a s' es hinv _ hst
    cases Client.step_cases hst with
    | tick _ => simp
    | listener hc =>
      cases hc with
      | bound _ | acceptFailed _ => simp
      | accepted _ hdial => exact dial_not_panicked hfields hdial
    | opening hc =>
      cases hc with
      | failed _ => simp
      | opened _ _ hdial => exact dial_not_panicked hfields hdial
    | tunnel hc =>
      cases hc with
      | panicked hi hnone =>
        -- the tunnel is one of a link of the config, whose counters are there
        obtain ⟨link, hlink, hid, -⟩ := hinv.tunnels _ (List.mem_of_getElem? hi)
        have hstats := hinv.stats link hlink
        rw [hid, hnone] at hstats
        cases hstats
      | _ => simp
    | control hc =>
      cases hc with
      | quiet hquiet => exact fun e he => (hquiet e he).1
      | opening _ _ => simp
  intro hm
  exact hrun.forall_events (fun hr => Client.linksInv_run ⟨clock, s₀, hstart, hr⟩) hstep _ hm rfl

theorem udp_client_listeners_isSome {config : Config} (hvalid : config.validate base64 = [])
    (hrole : config.role = .client) : (Udp.Client.forwardListeners config.links).isSome := by
  refine listeners_isSome (fun link => link.transport = .udp ∧ link.mode = .forward)
    (fun link listenAddr => (link.id, listenAddr)) Udp.Client.forwardListeners rfl
    (fun _ _ => rfl) fun l hl hkind => ?_
  exact Config.listen_of_valid hvalid hl (by simp [Config.linkNeedsListen, hrole, hkind.2])

/-- A listener is one of a UDP link. -/
theorem udp_link_of_listener {links : List LinkConfig} {listeners : List (String × String)}
    (h : Udp.Client.forwardListeners links = some listeners) {p : String × String}
    (hp : p ∈ listeners) : ∃ link ∈ links, link.transport = .udp := by
  induction links generalizing listeners with
  | nil =>
    cases h
    cases hp
  | cons link links ih =>
    rw [Udp.Client.forwardListeners] at h
    split at h
    · rename_i hkind
      exact ⟨link, by simp, hkind.1⟩
    · obtain ⟨link', hlink', hudp⟩ := ih h hp
      exact ⟨link', List.mem_cons_of_mem _ hlink', hudp⟩

theorem udp_client_not_panicked {ctx : Udp.Client.Context}
    (hvalid : ctx.config.validate base64 = []) (hrole : ctx.config.role = .client)
    {as : List (Udp.Client.Action ctx.snowstorm.Transport)}
    {s : Udp.Client.State ctx.snowstorm.Transport} {tr : List Udp.Client.Event}
    (h : Udp.Client.ListenerRun ctx Free as s tr) : .panicked ∉ tr := by
  obtain ⟨clock, listeners, linkId, listenAddr, hlisteners, hmem, hrun⟩ := h
  obtain ⟨link, hlink, hudp⟩ := udp_link_of_listener hlisteners hmem
  have haddr := (Config.clientFields_of_valid hvalid hrole).serverUdpAddr link hlink hudp
  have hstep : ∀ (s : Udp.Client.State ctx.snowstorm.Transport) (tr : List Udp.Client.Event)
      (a : Udp.Client.Action ctx.snowstorm.Transport)
      (s' : Udp.Client.State ctx.snowstorm.Transport) (es : List Udp.Client.Event), True →
      Free s a → Udp.Client.step ctx s a = some (s', es) → ∀ e ∈ es, e ≠ .panicked := by
    intro s _ a s' es _ _ hst
    cases Udp.Client.step_cases hst with
    | tick _ => simp
    | listener hc =>
      cases hc with
      | inserted _ _ hflow =>
        cases hflow with
        | binding _ => simp
        | panicked hnone =>
          rw [hnone] at haddr
          cases haddr
      | _ => simp
    | flow _ hc =>
      cases hc with
      | stopped _ _ hprint =>
        intro e he hpanic
        obtain ⟨line, hline⟩ := hprint e he
        rw [hline] at hpanic
        cases hpanic
      | _ => simp
    | removed _ _ => simp
  intro hm
  exact hrun.forall_events (I := fun _ _ => True) (fun _ => trivial) hstep _ hm rfl

end

/-! ## No panic -/

/-- A valid config starts, unless its private key cannot be loaded, and no run of what it starts
    panics. -/
theorem no_panic {base64 : Base64} {config : Config} (hvalid : config.validate base64 = [])
    (loaded : Except String (List UInt8)) (snow : Snow) (snowstorm : Udp.Snowstorm)
    (json : Json StreamHello)
    (buildInitiator : (localPrivate remotePublic : List UInt8) → Except String Unit) :
    match runDaemon base64 config loaded with
    | .refused _ | .panicked => False
    | .failed e => loaded = .error e
    | .server privateKey peers =>
      let tcp : Server.Context := ⟨snow, config, privateKey, peers⟩
      let udp : Udp.Context := ⟨snow, snowstorm, json, config, privateKey, peers⟩
      (∀ clock, (Server.start tcp clock).isSome) ∧
        (∀ as s tr, Server.ServerRun tcp Free as s tr → .panicked ∉ tr) ∧
        ∀ as s tr, Udp.ServerRun udp Free as s tr → .panicked ∉ tr
    | .client privateKey peerPublicKey =>
      let tcp : Client.Context := ⟨buildInitiator, config, privateKey, peerPublicKey⟩
      let udp : Udp.Client.Context := ⟨tcp, snowstorm, json⟩
      (∀ clock, (Client.start tcp clock).isSome) ∧
        (∀ as s tr, Client.ClientRun tcp Free as s tr → .panicked ∉ tr) ∧
        (Udp.Client.forwardListeners config.links).isSome ∧
        ∀ as s tr, Udp.Client.ListenerRun udp Free as s tr → .panicked ∉ tr := by
  obtain ⟨e, hloaded, hrun⟩ | ⟨hrole, privateKey, peers, hrun⟩ | ⟨hrole, privateKey, key, hrun⟩ :=
    runDaemon_cases hvalid loaded
  · rw [hrun]
    exact hloaded
  · rw [hrun]
    exact ⟨server_start_isSome hvalid hrole, fun _ _ _ => server_not_panicked hvalid hrole,
      fun _ _ _ => udp_server_not_panicked hvalid hrole⟩
  · rw [hrun]
    exact ⟨client_start_isSome hvalid hrole, fun _ _ _ => client_not_panicked hvalid hrole,
      udp_client_listeners_isSome hvalid hrole, fun _ _ _ => udp_client_not_panicked hvalid hrole⟩

/-- A server with TCP links and a client with a UDP link. -/
theorem no_panic_examples :
    runDaemon Base64.standard Server.exampleConfig (.ok Server.exampleContext.privateKey) =
        .server Server.exampleContext.privateKey Server.exampleContext.peers ∧
      (∀ clock, (Server.start Server.exampleContext clock).isSome) ∧
      (∀ as s tr, Server.ServerRun Server.exampleContext Free as s tr → .panicked ∉ tr) ∧
      runDaemon Base64.standard Udp.Client.dnsConfig (.ok Udp.Client.dnsContext.privateKey) =
        .client Udp.Client.dnsContext.privateKey Udp.Client.dnsContext.peerPublicKey ∧
      (∀ clock, (Client.start Udp.Client.dnsContext.toContext clock).isSome) ∧
      ∀ as s tr, Udp.Client.ListenerRun Udp.Client.dnsContext Free as s tr → .panicked ∉ tr := by
  have hdns : Udp.Client.dnsConfig.validate Base64.standard = [] := by decide +kernel
  have hserver := runDaemon_server Server.exampleConfig_valid rfl Server.exampleContext_peers
    Server.exampleContext.privateKey
  have hclient := runDaemon_client hdns rfl rfl
    (show decodePublicKey Base64.standard "CQkJCQkJCQkJCQkJCQkJCQkJCQkJCQkJCQkJCQkJCQk=" =
      .ok Udp.Client.dnsContext.peerPublicKey by decide +kernel) Udp.Client.dnsContext.privateKey
  have hs := no_panic Server.exampleConfig_valid (.ok Server.exampleContext.privateKey)
    Snow.symbolic Udp.Snowstorm.symbolic Udp.Client.dnsContext.json fun _ _ => .ok ()
  have hc := no_panic hdns (.ok Udp.Client.dnsContext.privateKey) Snow.symbolic
    Udp.Snowstorm.symbolic Udp.Client.dnsContext.json fun _ _ => .ok ()
  rw [hserver] at hs
  rw [hclient] at hc
  exact ⟨hserver, hs.1, hs.2.1, hclient, hc.1, hc.2.2.2⟩

end Ghostport.System
