import Ghostport.Server.Access
import Ghostport.Server.Pairing
import Ghostport.Udp.Cases

/-!
# Access control on the UDP channel, and over both channels

Results:
* `accessInv_run`: a UDP session dials and relays only for a UDP forward link of the
  peer that its first message matched.
* `forward_access`: on both channels, targets of forward links are reached only for
  peers that have the link, over the link's own transport; and a refused
  `StreamHello` changes nothing.
-/

namespace Ghostport.Udp

open Ghostport.Core Ghostport.Net Ghostport.Lib

/-- `link` is a UDP forward link to `target` that `peer` has. -/
def Allowed (ctx : Context) (peer : ResolvedPeer) (link : LinkConfig) (target : String) : Prop :=
  link ∈ ctx.config.links ∧ link.transport = .udp ∧ link.mode = .forward ∧
    link.id ∈ peer.links ∧ link.target = some target

/-- The hello of a session that is bound names a UDP forward link that its peer has. -/
theorem checkHello_bind {ctx : Context} {party : Party} {hello : StreamHello}
    {link : LinkConfig} {target : String} (h : checkHello ctx party hello = .bind link target) :
    (ctx.config.links.find? fun l => l.id = hello.linkId) = some link ∧
      link.transport = .udp ∧ link.mode = .forward ∧ link.id ∈ party.peer.links ∧
      link.target = some target := by
  unfold checkHello at h
  split at h
  · cases h
  · rename_i l hfind
    split at h
    · cases h
    · rename_i hkind
      split at h
      · cases h
      · rename_i hlinks
        split at h
        · cases h
        · rename_i t htarget
          cases h
          rw [not_or, not_not, not_not] at hkind
          exact ⟨hfind, hkind.1, hkind.2, not_not.mp hlinks, htarget⟩

theorem allowed_of_bind {ctx : Context} {party : Party} {hello : StreamHello}
    {link : LinkConfig} {target : String} (h : checkHello ctx party hello = .bind link target) :
    Allowed ctx party.peer link target := by
  obtain ⟨hfind, hallowed⟩ := checkHello_bind h
  exact ⟨List.mem_of_find?_eq_some hfind, hallowed⟩

/-- The link that a session works for. -/
def SessionPhase.link {T : Type} : SessionPhase T → Option (LinkConfig × String)
  | .binding _ link target | .connecting _ link target | .relaying _ link target _ =>
    some (link, target)
  | _ => none

def Session.Allowed (ctx : Context) {T : Type} (session : Session T) : Prop :=
  ∀ link target, session.phase.link = some (link, target) →
    Udp.Allowed ctx session.party.peer link target

/-- What an event of a session says about its target. -/
def Event.Allowed (ctx : Context) : Event → Prop
  | .dialed party link target | .toTarget party link target _ | .toPeer party link target _ =>
    Udp.Allowed ctx party.peer link target
  | _ => True

/-- The parties of the events that reach a target. -/
def Event.party : Event → Option Party
  | .dialed party _ _ | .toTarget party _ _ _ | .toPeer party _ _ _ => some party
  | _ => none

/-- What one step does to its session. -/
structure StepOk (ctx : Context) {T : Type} (session session' : Session T) (es : List Event) :
    Prop where
  party : session'.party = session.party
  allowed : session.Allowed ctx → session'.Allowed ctx
  events : session.Allowed ctx → ∀ e ∈ es, e.Allowed ctx
  parties : ∀ e ∈ es, ∀ party ∈ e.party, party = session.party
  unmatched : ∀ party, .matched party ∉ es

section

variable {ctx : Context} {T : Type} {session session' : Session T} {es : List Event}

/-- The session ends, and prints. -/
theorem StepOk.stop {line : LogLine} (hparty : session'.party = session.party)
    (hlink : session'.phase.link = none) : StepOk ctx session session' [.print line] where
  party := hparty
  allowed _ link target h := by
    rw [hlink] at h
    cases h
  events _ := by simp [Event.Allowed]
  parties := by simp [Event.party]
  unmatched := by simp

/-- The session keeps its link, or has none. -/
theorem StepOk.keep (hparty : session'.party = session.party)
    (hlink : session'.phase.link = session.phase.link)
    (hes : session.Allowed ctx → ∀ e ∈ es, e.Allowed ctx)
    (hparties : ∀ e ∈ es, ∀ party ∈ e.party, party = session.party)
    (hunmatched : ∀ party, .matched party ∉ es) : StepOk ctx session session' es where
  party := hparty
  allowed h link target heq := by
    rw [hparty]
    exact h link target (by rw [← hlink, heq])
  events := hes
  parties := hparties
  unmatched := hunmatched

end

theorem SessionCase.ok {ctx : Context} {clock : Instant} {alive : Bool}
    {session session' : Session ctx.snowstorm.Transport}
    {a : SessionAction ctx.snowstorm.Transport} {es : List Event}
    (h : SessionCase clock alive session a session' es) : StepOk ctx session session' es := by
  -- what a session sends goes to the target of the link it keeps
  have sends : ∀ {phase : SessionPhase ctx.snowstorm.Transport} {link : LinkConfig}
      {target : String}, session.phase = phase → phase.link = some (link, target) →
      session.Allowed ctx → Udp.Allowed ctx session.party.peer link target := by
    intro phase link target hphase hlink hok
    exact hok link target (by rw [hphase, hlink])
  cases h with
  | stopped _ _ | cutOff _ _ _ | garbled _ _ _ | refused _ _ _ _ => exact .stop rfl rfl
  | handshaken hphase =>
    exact .keep rfl (by rw [hphase]; rfl) (by simp) (by simp) (by simp)
  | panicked _ _ _ _ _ =>
    exact ⟨rfl, fun _ _ _ heq => by simp [SessionPhase.link] at heq, by simp [Event.Allowed],
      by simp [Event.party], by simp⟩
  | bound _ _ _ _ hcheck =>
    refine ⟨rfl, fun _ link target heq => ?_, by simp, by simp, by simp⟩
    cases heq
    exact allowed_of_bind hcheck
  | opened hphase =>
    exact .keep rfl (by rw [hphase]; rfl) (by simp [Event.Allowed]) (by simp [Event.party])
      (by simp)
  | dialed hphase | relayed hphase _ _ | answered hphase =>
    refine .keep rfl (by rw [hphase]; rfl) (fun hok => ?_) (by simp [Event.party]) (by simp)
    simpa [Event.Allowed] using sends hphase rfl hok

/-- The first message of a session is one that the responder of its peer accepted. -/
def Matches (ctx : Context) (message : List UInt8) (peer : ResolvedPeer) : Prop :=
  ∃ index state, ctx.peers[index]? = some peer ∧
    matchPeerBytes ctx.snow message ctx.privateKey ctx.peers = .ok (index, state)

/-- Sessions are matched, and reach only targets they are allowed. -/
structure AccessInv (ctx : Context) (s : State ctx.snowstorm.Transport) (tr : List Event) :
    Prop where
  tasks : ∀ session ∈ s.tasks, .matched session.party ∈ tr ∧ session.Allowed ctx
  inserting : ∀ src message peer, s.demux = .inserting src message peer →
    Matches ctx message peer
  matched : ∀ party, .matched party ∈ tr → Matches ctx party.message party.peer
  events : ∀ e ∈ tr, e.Allowed ctx
  parties : ∀ e ∈ tr, ∀ party ∈ e.party, .matched party ∈ tr

namespace AccessInv

variable {ctx : Context} {s s' : State ctx.snowstorm.Transport} {tr es : List Event}

/-- A step that matches nobody and reaches no target. -/
theorem frame (h : AccessInv ctx s tr) (hmatched : ∀ party, .matched party ∉ es)
    (hes : ∀ e ∈ es, e.Allowed ctx) (hparties : ∀ e ∈ es, ∀ party ∈ e.party, .matched party ∈ tr)
    (htasks : ∀ session ∈ s'.tasks, .matched session.party ∈ tr ∧ session.Allowed ctx)
    (hinserting : ∀ src message peer, s'.demux = .inserting src message peer →
      Matches ctx message peer) : AccessInv ctx s' (tr ++ es) where
  tasks session hm := ⟨List.mem_append_left _ (htasks session hm).1, (htasks session hm).2⟩
  inserting := hinserting
  matched party hm := by
    rcases List.mem_append.mp hm with hm | hm
    · exact h.matched party hm
    · exact absurd hm (hmatched party)
  events e he := by
    rcases List.mem_append.mp he with he | he
    · exact h.events e he
    · exact hes e he
  parties e he party hp := by
    rcases List.mem_append.mp he with he | he
    · exact List.mem_append_left _ (h.parties e he party hp)
    · exact List.mem_append_left _ (hparties e he party hp)

theorem demux (h : AccessInv ctx s tr) {a : DemuxAction} (hst : DemuxCase s a s' es) :
    AccessInv ctx s' (tr ++ es) := by
  -- the loop moves on, and leaves the sessions as they are
  have move : ∀ {s₁ : State ctx.snowstorm.Transport} {es₁ : List Event}, s₁.tasks = s.tasks →
      (∀ src message peer, s₁.demux = .inserting src message peer → Matches ctx message peer) →
      (∀ e ∈ es₁, (∃ line, e = .print line) ∨ e = .panicked) → AccessInv ctx s₁ (tr ++ es₁) := by
    intro s₁ es₁ htasks hinserting hes
    refine h.frame (fun party hm => ?_) (fun e he => ?_) (fun e he => ?_) ?_ hinserting
    · obtain ⟨line, heq⟩ | heq := hes _ hm <;> cases heq
    · obtain ⟨line, rfl⟩ | rfl := hes e he <;> trivial
    · obtain ⟨line, rfl⟩ | rfl := hes e he <;> simp [Event.party]
    · rw [htasks]
      exact h.tasks
  cases hst with
  | bound _ hnext hprint =>
    refine move rfl (fun src message peer heq => ?_) fun e he => .inl (hprint e he)
    obtain rfl | rfl := hnext <;> cases heq
  | failed _ | unknown _ _ | dropped _ _ _ => exact move rfl (by simp) (by simp)
  | panicked _ _ _ _ _ => exact move rfl (by simp) (by simp)
  | routed _ _ =>
    refine h.frame (by simp) (by simp) (by simp) (fun session hm => ?_) h.inserting
    obtain ⟨session₀, hm₀, hparty, hphase, -⟩ := of_mem_route hm
    refine ⟨hparty ▸ (h.tasks session₀ hm₀).1, fun link target heq => ?_⟩
    rw [hparty]
    exact (h.tasks session₀ hm₀).2 link target (by rw [← hphase, heq])
  | matched _ hmatch hpeer _ _ =>
    refine move rfl (fun src' message peer' heq => ?_) (by simp)
    cases heq
    exact ⟨_, _, hpeer, hmatch⟩
  | @inserted src message peer party hphase hparty =>
    subst hparty
    have hnew : Matches ctx message peer := h.inserting src message peer hphase
    refine ⟨fun session hm => ?_, by simp, fun party hm => ?_, fun e he => ?_,
      fun e he party hp => ?_⟩
    · rcases List.mem_append.mp hm with hm | hm
      · exact ⟨List.mem_append_left _ (h.tasks session hm).1, (h.tasks session hm).2⟩
      · rw [List.mem_singleton.mp hm]
        exact ⟨by simp, fun link target heq => by simp [SessionPhase.link] at heq⟩
    · rcases List.mem_append.mp hm with hm | hm
      · exact h.matched party hm
      · cases List.mem_singleton.mp hm
        exact hnew
    · rcases List.mem_append.mp he with he | he
      · exact h.events e he
      · rw [List.mem_singleton.mp he]
        trivial
    · rcases List.mem_append.mp he with he | he
      · exact List.mem_append_left _ (h.parties e he party hp)
      · rw [List.mem_singleton.mp he] at hp
        simp [Event.party] at hp

theorem step (h : AccessInv ctx s tr) {a : Action ctx.snowstorm.Transport}
    (hst : Udp.step ctx s a = some (s', es)) : AccessInv ctx s' (tr ++ es) := by
  cases step_cases hst with
  | tick _ => exact h.frame (by simp) (by simp) (by simp) h.tasks h.inserting
  | demux hc => exact h.demux hc
  | removed _ _ =>
    exact h.frame (by simp) (by simp [Event.Allowed]) (by simp [Event.party])
      (fun session' hm => h.tasks session' (List.mem_of_mem_eraseIdx hm)) h.inserting
  | @session i a session session' _ hi hc =>
    have hspec := hc.ok
    obtain ⟨hmatched, hallowed⟩ := h.tasks session (List.mem_of_getElem? hi)
    refine h.frame hspec.unmatched (hspec.events hallowed) (fun e he party hp => ?_)
      (fun session₁ hm => ?_) h.inserting
    · rw [hspec.parties e he party hp]
      exact hmatched
    · rcases List.mem_or_eq_of_mem_set hm with hm | rfl
      · exact h.tasks session₁ hm
      · exact ⟨hspec.party ▸ hmatched, hspec.allowed hallowed⟩

end AccessInv

theorem accessInv_run {ctx : Context}
    {C : State ctx.snowstorm.Transport → Action ctx.snowstorm.Transport → Prop}
    {as : List (Action ctx.snowstorm.Transport)} {s : State ctx.snowstorm.Transport}
    {tr : List Event} (h : ServerRun ctx C as s tr) : AccessInv ctx s tr := by
  obtain ⟨clock, s₀, hstart, hrun⟩ := h
  refine hrun.invariant (I := AccessInv ctx) ?_ fun _ _ _ _ _ hi _ hst => hi.step hst
  obtain ⟨listenAddr, -, rfl⟩ := Option.map_eq_some_iff.mp hstart
  exact ⟨by simp, by simp, by simp, by simp, by simp⟩

/-! ## Both channels -/

/-- The peer that a first message was matched with is configured under its name, with
    the key that produced the message and with its links. -/
def ConfiguredPeer (base64 : Base64) (config : Config)
    (producer : List UInt8 → Option (List UInt8)) (message : List UInt8) (peer : ResolvedPeer) :
    Prop :=
  producer message = some peer.publicKey ∧
    ∃ c ∈ config.peers, c.name = peer.name ∧ decodePublicKey base64 c.publicKey =
      .ok peer.publicKey ∧ c.links.toFinset = peer.links

/-- `linkId` is a forward link over `transport` with `target`, the only link of its id,
    and one of the peer's. -/
def MayReach (config : Config) (transport : Transport) (peer : ResolvedPeer) (linkId : String)
    (target : String) : Prop :=
  linkId ∈ peer.links ∧
    ∃ link ∈ config.links, link.id = linkId ∧ link.mode = .forward ∧
      link.transport = transport ∧ link.target = some target ∧
      ∀ link' ∈ config.links, link'.id = linkId → link' = link

theorem configuredPeer_of_match {base64 : Base64} {config : Config} {snow : Snow}
    {privateKey : List UInt8} {peers : List ResolvedPeer}
    {producer : List UInt8 → Option (List UInt8)}
    (hpeers : resolvePeers base64 config.peers = .ok peers)
    (hkk : snow.AcceptsOnly privateKey producer) {message : List UInt8} {peer : ResolvedPeer}
    {index : ℕ} {state : snow.HandshakeState} (hpeer : peers[index]? = some peer)
    (h : matchPeerBytes snow message privateKey peers = .ok (index, state)) :
    ConfiguredPeer base64 config producer message peer := by
  obtain ⟨peer', hpeer', hproducer⟩ := producer_of_matchPeerBytes hkk h
  rw [hpeer] at hpeer'
  cases hpeer'
  obtain ⟨c, hc, hname, hkey, hlinks⟩ := mem_resolvePeers hpeers (List.mem_of_getElem? hpeer)
  exact ⟨hproducer, c, hc, hname.symm, hkey, hlinks.symm⟩

theorem mayReach_of_link {base64 : Base64} {config : Config} (hvalid : config.validate base64 = [])
    {transport : Transport} {peer : ResolvedPeer} {link : LinkConfig} {target : String}
    (hlink : link ∈ config.links) (hpeer : link.id ∈ peer.links) (hmode : link.mode = .forward)
    (htransport : link.transport = transport) (htarget : link.target = some target) :
    MayReach config transport peer link.id target :=
  ⟨hpeer, link, hlink, rfl, hmode, htransport, htarget,
    fun _ hlink' hid => Config.link_eq_of_id_eq hvalid hlink' hlink hid⟩

section

variable {base64 : Base64} {snow : Snow} {snowstorm : Snowstorm} {json : Json StreamHello}
  {config : Config} {privateKey : List UInt8} {peers : List ResolvedPeer}
  {producer : List UInt8 → Option (List UInt8)}

/-- In every run of the TCP server and of the UDP server of a valid config, a target is
    reached only for a session whose first message was produced with the key of a
    configured peer, for a forward link of that peer, and over the transport of that
    link; and a hello on the data channel that does not fit is refused, where every
    refused hello leaves the counters and the pending streams as they are. -/
theorem forward_access (hvalid : config.validate base64 = [])
    (hpeers : resolvePeers base64 config.peers = .ok peers)
    (hkk : snow.AcceptsOnly privateKey producer)
    {as : List Server.Action} {s : Server.State} {tr : List Server.Event}
    (htcp : Server.ServerRun ⟨snow, config, privateKey, peers⟩ Free as s tr)
    {bs : List (Action snowstorm.Transport)} {u : State snowstorm.Transport}
    {utr : List Event}
    (hudp : ServerRun ⟨snow, snowstorm, json, config, privateKey, peers⟩ Free bs u utr) :
    (∀ r addr, .dialed r ∈ tr ∨ .relayStarted r ∈ tr → r.other = .target addr →
      r.hello.linkId = r.linkId ∧ MayReach config .tcp r.tunnel.peer r.linkId addr ∧
      ∃ message, .matched .data r.tunnel message ∈ tr ∧
        ConfiguredPeer base64 config producer message r.tunnel.peer) ∧
    (∀ party link target, (.dialed party link target ∈ utr ∨
        (∃ payload, .toTarget party link target payload ∈ utr) ∨
        ∃ payload, .toPeer party link target payload ∈ utr) →
      MayReach config .udp party.peer link.id target ∧ .matched party ∈ utr ∧
        ConfiguredPeer base64 config producer party.message party.peer) ∧
    (∀ i hello h s' es, s.data.hellos[i]? = some h →
      ¬ Server.HelloFits config h.tunnel.peer hello →
      Server.step ⟨snow, config, privateKey, peers⟩ s (.data (.hello i (.received hello))) =
        some (s', es) → .refused h.tunnel hello ∈ es) ∧
    ∀ a s' es tunnel hello,
      Server.step ⟨snow, config, privateKey, peers⟩ s a = some (s', es) →
      .refused tunnel hello ∈ es →
      s'.data.stats = s.data.stats ∧ s'.reverse.pending = s.reverse.pending := by
  refine ⟨fun r addr hr hother => ?_, fun party link target he => ?_,
    fun i hello h s' es hi hfits hst => ?_,
    fun a s' es tunnel hello hst hrefused => Server.refused_frame hst hrefused⟩
  · have hinv := Server.accessInv_run htcp
    obtain ⟨hallowed, hmatched⟩ : r.Allowed ⟨snow, config, privateKey, peers⟩ ∧
        Server.MatchedIn ⟨snow, config, privateKey, peers⟩ tr .data r.tunnel :=
      hr.elim (hinv.dialed r) (hinv.started r)
    obtain ⟨hlinks, link, hfind, hid, htransport, hkind⟩ := hallowed
    rw [hother] at hkind
    obtain ⟨hmode, -, htarget⟩ := hkind
    have hhello : link.id = r.hello.linkId := Server.id_of_find hfind
    refine ⟨by rw [hid, hhello], ?_, ?_⟩
    · rw [hid]
      exact mayReach_of_link hvalid (List.mem_of_find?_eq_some hfind) (hhello ▸ hlinks) hmode
        htransport htarget
    · obtain ⟨message, index, state, hmessage, hpeer, hbytes⟩ := hmatched
      exact ⟨message, hmessage, configuredPeer_of_match hpeers hkk hpeer hbytes⟩
  · have hinv := accessInv_run hudp
    obtain ⟨hallowed, hmatched⟩ :
        Allowed ⟨snow, snowstorm, json, config, privateKey, peers⟩ party.peer link target ∧
          .matched party ∈ utr := by
      rcases he with he | ⟨payload, he⟩ | ⟨payload, he⟩
      · exact ⟨hinv.events _ he, hinv.parties _ he party rfl⟩
      · exact ⟨hinv.events _ he, hinv.parties _ he party rfl⟩
      · exact ⟨hinv.events _ he, hinv.parties _ he party rfl⟩
    obtain ⟨hlink, htransport, hmode, hlinks, htarget⟩ := hallowed
    obtain ⟨index, state, hpeer, hbytes⟩ := hinv.matched party hmatched
    exact ⟨mayReach_of_link hvalid hlink hlinks hmode htransport htarget, hmatched,
      configuredPeer_of_match hpeers hkk hpeer hbytes⟩
  · refine Server.refused_of_not_fits (fun link hlink => ?_) hi hfits hst
    have hmem : link.id ∈ config.links.map (·.id) := List.mem_map_of_mem hlink
    rw [Server.stats_counted htcp]
    simp [initialStats, hmem]

end

/-! ### An example -/

/-- A symbolic transport: a datagram is its payload. -/
def Snowstorm.symbolic : Snowstorm where
  Transport := Unit
  decrypt _ datagram := .ok datagram

/-- A TCP and a UDP forward link, both of bob. -/
def forwardConfig : Config :=
  { Server.exampleConfig with
    peers := [⟨"bob", "AgICAgICAgICAgICAgICAgICAgICAgICAgICAgICAgI=", ["ssh", "dns"]⟩]
    listenUdp := some "0.0.0.0:7003"
    links :=
      [⟨"ssh", .forward, .tcp, none, some "127.0.0.1:22"⟩,
        ⟨"dns", .forward, .udp, none, some "127.0.0.1:53"⟩] }

def forwardPeers : List ResolvedPeer := [⟨"bob", Server.bobKey, ["ssh", "dns"].toFinset⟩]

def dnsHello : List Char := "\x7b\"link_id\":\"dns\",\"stream_id\":null\x7d".toList

def forwardContext : Context where
  snow := Snow.symbolic
  snowstorm := Snowstorm.symbolic
  json := .single ⟨"dns", none⟩ dnsHello
  config := forwardConfig
  privateKey := List.replicate 32 9
  peers := forwardPeers

/-- Bob asks for one link that does not exist, and for his TCP link. -/
def bobOverTcp : List Server.Action :=
  [.accept .control (.bind (.ok ())), .accept .data (.bind (.ok ()))] ++
    Server.connect .data ⟨.v4 ⟨198, 51, 100, 6⟩ 40000, .holder Server.bobKey⟩ Server.bobKey 0 ++
    Server.connect .data ⟨.v4 ⟨198, 51, 100, 6⟩ 40001, .holder Server.bobKey⟩ Server.bobKey 0 ++
    [.data (.hello 0 (.received ⟨"web", none⟩)), .data (.hello 0 (.received ⟨"ssh", none⟩))]

/-- Bob sends one datagram over his UDP link. -/
def bobOverUdp : List (Action Unit) :=
  [.demux (.bind (.ok ())),
    .demux (.recv (.ok (.v4 ⟨198, 51, 100, 6⟩ 40002, Server.bobKey))), .demux (.acquire 0 0),
    .demux .insert, .session 0 (.handshake (.ok ())),
    .demux (.recv (.ok (.v4 ⟨198, 51, 100, 6⟩ 40002, dnsHello.map fun c => c.toNat.toUInt8))),
    .session 0 .recv,
    .session 0 (.bind (.ok ())), .session 0 (.connect (.ok ())),
    .demux (.recv (.ok (.v4 ⟨198, 51, 100, 6⟩ 40002, [7]))), .session 0 .recv]

def dialsIn (tr : List Server.Event) : List Server.Relay :=
  tr.filterMap fun
    | .dialed r => some r
    | _ => none

def payloadsIn (tr : List Event) : List (Party × LinkConfig × String) :=
  tr.filterMap fun
    | .toTarget party link target _ => some (party, link, target)
    | _ => none

theorem forward_access_bob :
    (∃ s tr, Server.ServerRun
        ⟨Snow.symbolic, forwardConfig, forwardContext.privateKey, forwardPeers⟩ Free bobOverTcp
        s tr ∧
      ∃ r ∈ dialsIn tr, r.other = .target "127.0.0.1:22" ∧
        MayReach forwardConfig .tcp r.tunnel.peer r.linkId "127.0.0.1:22") ∧
    ∃ u utr, ServerRun forwardContext Free bobOverUdp u utr ∧
      ∃ p ∈ payloadsIn utr, MayReach forwardConfig .udp p.1.peer p.2.1.id p.2.2 := by
  have hvalid : forwardConfig.validate Base64.standard = [] := by decide +kernel
  have hpeers : resolvePeers Base64.standard forwardConfig.peers = .ok forwardPeers := by
    decide +kernel
  obtain ⟨s, tr, htcp, r, hr, hother⟩ : ∃ s tr, Server.ServerRun
      ⟨Snow.symbolic, forwardConfig, forwardContext.privateKey, forwardPeers⟩ Free bobOverTcp s
      tr ∧ ∃ r ∈ dialsIn tr, r.other = .target "127.0.0.1:22" :=
    Server.exists_run 0 (by decide) (by decide)
  obtain ⟨u, utr, hudp, p, hp⟩ : ∃ u utr, ServerRun forwardContext Free bobOverUdp u utr ∧
      ∃ p, p ∈ payloadsIn utr := by
    have htrace : ((exec (step forwardContext) ((start forwardContext 0).get (by decide))
        bobOverUdp).map fun r => (payloadsIn r.2).length) = some 1 := by decide
    obtain ⟨⟨u, utr⟩, hexec, hlen⟩ := Option.map_eq_some_iff.mp htrace
    exact ⟨u, utr, ⟨0, _, (Option.some_get _).symm, run_of_exec hexec⟩,
      List.exists_mem_of_length_pos (by rw [hlen]; decide)⟩
  obtain ⟨hdials, hpayloads, -, -⟩ :=
    forward_access hvalid hpeers (Snow.symbolic_acceptsOnly _) htcp hudp
  refine ⟨⟨s, tr, htcp, r, hr, hother, ?_⟩, u, utr, hudp, p, hp, ?_⟩
  · obtain ⟨e, he, hdial⟩ := List.mem_filterMap.mp hr
    split at hdial
    · cases hdial
      exact (hdials r _ (.inl he) hother).2.1
    · cases hdial
  · obtain ⟨e, he, hpay⟩ := List.mem_filterMap.mp hp
    split at hpay
    · rename_i party link target payload
      cases hpay
      exact (hpayloads party link target (.inr (.inl ⟨payload, he⟩))).1
    · cases hpay

end Ghostport.Udp
