import Ghostport.Client.Links
import Ghostport.Server.Access
import Ghostport.Server.Pairing

/-!
# Which way the bytes went

`relay` counts the bytes from its first argument to its second as `bytes_forward`. Both
roles pass the tunnel first. The tunnel leads to the side that opened the connection on the
server of a forward link and on the client of a reverse link; on the two other paths it
leads to the target, and the counters are swapped.

Results:
* `direction_iff`: when a stream ends cleanly, each role counts it as `LinkStats` says
  exactly if the tunnel is on the initiator's side, or as many bytes went each way; and the
  two roles count it alike exactly if as many bytes went each way.
* `reverseServer_swapped`: a stream of a reverse link that the server counts the other way.
-/

namespace Ghostport.System

open Ghostport.Core Ghostport.Lib Ghostport.Net

/-- What a stream has carried: from the initiator of the connection to the target, and
    back. -/
structure Carried where
  toTarget : UInt64
  back : UInt64
  deriving DecidableEq, Repr

/-- The counters of a link gain `c`. -/
def Gained (before after : Option LinkStats) (c : Carried) : Prop :=
  ∃ st st', before = some st ∧ after = some st' ∧
    st'.bytesForward = st.bytesForward + c.toTarget ∧ st'.bytesBack = st.bytesBack + c.back

theorem gained_relayEnd {st : LinkStats} {aToB bToA : UInt64} {c : Carried} :
    Gained (some st) (some (st.relayEnd (.ok (aToB, bToA)))) c ↔
      aToB = c.toTarget ∧ bToA = c.back := by
  unfold Gained LinkStats.relayEnd
  constructor
  · rintro ⟨_, _, hst, hst', hforward, hback⟩
    cases hst
    cases hst'
    exact ⟨(UInt64.add_right_inj _).mp hforward, (UInt64.add_right_inj _).mp hback⟩
  · rintro ⟨rfl, rfl⟩
    exact ⟨_, _, rfl, rfl, rfl, rfl⟩

/-! ## The server -/

/-- The mode of the links that such a relay is for. -/
def serverMode (relay : Server.Relay) : LinkMode :=
  match relay.other with
  | .target _ => .forward
  | .external _ => .reverse

/-- `relay` copies from the tunnel (`a`) to the other end (`b`), which is the target or the
    connection that came from outside. -/
def serverCarried (relay : Server.Relay) (aToB bToA : UInt64) : Carried :=
  match relay.other with
  | .target _ => ⟨aToB, bToA⟩
  | .external _ => ⟨bToA, aToB⟩

/-- In a run of the server, `relay` ends cleanly with a step from `s` to `s'`. -/
def ServerEnd (ctx : Server.Context) (s s' : Server.State) (relay : Server.Relay)
    (aToB bToA : UInt64) : Prop :=
  (∃ as tr, Server.ServerRun ctx Free as s tr) ∧ ∃ i es, s.data.relays[i]? = some relay ∧
    Server.step ctx s (.data (.relayEnd i (.ok (aToB, bToA)))) = some (s', es)

theorem ServerEnd.spec {ctx : Server.Context} {s s' : Server.State} {relay : Server.Relay}
    {aToB bToA : UInt64} (h : ServerEnd ctx s s' relay aToB bToA) :
    (∃ link ∈ ctx.config.links, link.id = relay.linkId ∧ link.mode = serverMode relay) ∧
      ∃ st, s.data.stats relay.linkId = some st ∧
        s'.data.stats relay.linkId = some (st.relayEnd (.ok (aToB, bToA))) := by
  obtain ⟨⟨as, tr, hrun⟩, i, es, hi, hst⟩ := h
  have hcounters := Server.counterInv_run hrun
  have hstarted := hcounters.started relay (List.mem_of_getElem? hi)
  obtain ⟨⟨-, link, hfind, hid, -, hmode⟩, -⟩ := (Server.accessInv_run hrun).started relay hstarted
  have hlink : link ∈ ctx.config.links := List.mem_of_find?_eq_some hfind
  refine ⟨⟨link, hlink, hid.symm, ?_⟩, ?_⟩
  · unfold serverMode
    cases hother : relay.other with
    | target addr =>
      rw [hother] at hmode
      exact hmode.1
    | external conn =>
      rw [hother] at hmode
      exact hmode.1
  · have hids : relay.linkId ∈ ctx.config.links.map (·.id) := hid ▸ List.mem_map_of_mem hlink
    have hstats := hcounters.stats relay.linkId
    rw [initialStats, if_pos hids, Option.map_some] at hstats
    simp only [Server.step, Server.handleDataConnection, hi] at hst
    cases hst
    exact ⟨_, hstats, by simp [hstats]⟩

/-! ## The client -/

/-- `relay` copies from the tunnel (`a`) to the local connection (`b`), which an application
    opened or which leads to the target. -/
def clientCarried (stream : Client.Stream) (aToB bToA : UInt64) : Carried :=
  match stream.origin with
  | .accepted _ => ⟨bToA, aToB⟩
  | .signalled _ _ => ⟨aToB, bToA⟩

/-- In a run of the client, the relay of `stream` ends cleanly with a step from `s` to
    `s'`. -/
def ClientEnd (ctx : Client.Context) (s s' : Client.State) (stream : Client.Stream)
    (aToB bToA : UInt64) : Prop :=
  (∃ as tr, Client.ClientRun ctx Free as s tr) ∧
    ∃ i es, s.tunnels[i]? = some ⟨stream, .relaying⟩ ∧
      Client.step ctx s (.tunnel i (.relayEnd (.ok (aToB, bToA)))) = some (s', es)

theorem ClientEnd.spec {ctx : Client.Context} {s s' : Client.State} {stream : Client.Stream}
    {aToB bToA : UInt64} (h : ClientEnd ctx s s' stream aToB bToA) :
    (∃ link ∈ ctx.config.links, link.id = stream.linkId ∧ link.mode = stream.origin.mode) ∧
      ∃ st, s.stats stream.linkId = some st ∧
        s'.stats stream.linkId = some (st.relayEnd (.ok (aToB, bToA))) := by
  obtain ⟨⟨as, tr, hrun⟩, i, es, hi, hst⟩ := h
  have hinv := Client.linksInv_run hrun
  obtain ⟨link, hlink, hid, hmode⟩ := hinv.tunnels _ (List.mem_of_getElem? hi)
  refine ⟨⟨link, hlink, hid, hmode⟩, ?_⟩
  obtain ⟨st, hstats⟩ := Option.isSome_iff_exists.mp (hinv.stats link hlink)
  rw [hid] at hstats
  simp only [Client.step, Client.runTunnel, hi] at hst
  cases hst
  exact ⟨st, hstats, by simp [hstats]⟩

/-! ## Results -/

/-- The server counts what the streams of forward links carried. -/
theorem ServerEnd.gained_iff {ctx : Server.Context} {s s' : Server.State} {relay : Server.Relay}
    {aToB bToA : UInt64} (h : ServerEnd ctx s s' relay aToB bToA) :
    ∃ link ∈ ctx.config.links, link.id = relay.linkId ∧
      (Gained (s.data.stats link.id) (s'.data.stats link.id) (serverCarried relay aToB bToA) ↔
        link.mode = .forward ∨ (serverCarried relay aToB bToA).toTarget =
          (serverCarried relay aToB bToA).back) := by
  obtain ⟨⟨link, hlink, hid, hmode⟩, st, hst, hst'⟩ := h.spec
  refine ⟨link, hlink, hid, ?_⟩
  rw [hid, hst, hst', gained_relayEnd, hmode]
  unfold serverCarried serverMode
  cases relay.other with
  | target addr => simp
  | external conn => simp [eq_comm]

/-- The client counts what the streams of reverse links carried. -/
theorem ClientEnd.gained_iff {ctx : Client.Context} {s s' : Client.State} {stream : Client.Stream}
    {aToB bToA : UInt64} (h : ClientEnd ctx s s' stream aToB bToA) :
    ∃ link ∈ ctx.config.links, link.id = stream.linkId ∧
      (Gained (s.stats link.id) (s'.stats link.id) (clientCarried stream aToB bToA) ↔
        link.mode = .reverse ∨ (clientCarried stream aToB bToA).toTarget =
          (clientCarried stream aToB bToA).back) := by
  obtain ⟨⟨link, hlink, hid, hmode⟩, st, hst, hst'⟩ := h.spec
  refine ⟨link, hlink, hid, ?_⟩
  rw [hid, hst, hst', gained_relayEnd, hmode]
  unfold clientCarried Client.Origin.mode
  cases stream.origin with
  | accepted peerAddr => simp [eq_comm]
  | signalled streamId target => simp

/-- At the two ends of a stream the tunnel is `a` at one and `b` at the other, so what one
    copies from `a` the other copies from `b`. -/
theorem swapped_of_carried {relay : Server.Relay} {stream : Client.Stream}
    {aToB bToA aToB' bToA' : UInt64} (hmode : serverMode relay = stream.origin.mode)
    (hcarried : serverCarried relay aToB bToA = clientCarried stream aToB' bToA') :
    aToB = bToA' ∧ bToA = aToB' := by
  unfold serverMode Client.Origin.mode at hmode
  unfold serverCarried clientCarried at hcarried
  cases hother : relay.other with
  | target addr =>
    cases horigin : stream.origin with
    | accepted peerAddr =>
      rw [hother, horigin] at hcarried
      cases hcarried
      exact ⟨rfl, rfl⟩
    | signalled streamId target =>
      rw [hother, horigin] at hmode
      cases hmode
  | external conn =>
    cases horigin : stream.origin with
    | accepted peerAddr =>
      rw [hother, horigin] at hmode
      cases hmode
    | signalled streamId target =>
      rw [hother, horigin] at hcarried
      cases hcarried
      exact ⟨rfl, rfl⟩

/-- As many bytes went each way exactly if as many were copied each way. -/
theorem serverCarried_balanced {relay : Server.Relay} {aToB bToA : UInt64} :
    (serverCarried relay aToB bToA).toTarget = (serverCarried relay aToB bToA).back ↔
      aToB = bToA := by
  unfold serverCarried
  cases relay.other with
  | target addr => exact Iff.rfl
  | external conn => exact eq_comm

/-- For the streams that end cleanly in runs of the two roles: a role counts what a stream
    carried exactly if it is the server and the link is a forward link, or the client and
    the link is a reverse link, or as many bytes went each way; and the roles count it alike
    exactly in the last case. -/
theorem direction_iff (sctx : Server.Context) (cctx : Client.Context) :
    (∀ s s' relay aToB bToA, ServerEnd sctx s s' relay aToB bToA →
      ∃ link ∈ sctx.config.links, link.id = relay.linkId ∧
        (Gained (s.data.stats link.id) (s'.data.stats link.id) (serverCarried relay aToB bToA) ↔
          link.mode = .forward ∨ (serverCarried relay aToB bToA).toTarget =
            (serverCarried relay aToB bToA).back)) ∧
    (∀ s s' stream aToB bToA, ClientEnd cctx s s' stream aToB bToA →
      ∃ link ∈ cctx.config.links, link.id = stream.linkId ∧
        (Gained (s.stats link.id) (s'.stats link.id) (clientCarried stream aToB bToA) ↔
          link.mode = .reverse ∨ (clientCarried stream aToB bToA).toTarget =
            (clientCarried stream aToB bToA).back)) ∧
    ∀ s s' relay aToB bToA t t' stream aToB' bToA' c, ServerEnd sctx s s' relay aToB bToA →
      ClientEnd cctx t t' stream aToB' bToA' → serverMode relay = stream.origin.mode →
      serverCarried relay aToB bToA = c → clientCarried stream aToB' bToA' = c →
      ((∀ g, Gained (s.data.stats relay.linkId) (s'.data.stats relay.linkId) g ↔
        Gained (t.stats stream.linkId) (t'.stats stream.linkId) g) ↔ c.toTarget = c.back) := by
  refine ⟨fun _ _ _ _ _ h => h.gained_iff, fun _ _ _ _ _ h => h.gained_iff, ?_⟩
  intro s s' relay aToB bToA t t' stream aToB' bToA' c hs hc hmode hcarried hcarried'
  obtain ⟨-, st, hst, hst'⟩ := hs.spec
  obtain ⟨-, ct, hct, hct'⟩ := hc.spec
  obtain ⟨rfl, rfl⟩ := swapped_of_carried hmode (hcarried.trans hcarried'.symm)
  rw [hst, hst', hct, hct', ← hcarried, serverCarried_balanced]
  simp only [gained_relayEnd]
  constructor
  · intro hsame
    exact ((hsame ⟨aToB, bToA⟩).mp ⟨rfl, rfl⟩).1.symm
  · intro heq g
    rw [heq]

/-! ## A stream of a forward link and one of a reverse link -/

def bobTcp : Server.TcpStream := ⟨.v4 ⟨198, 51, 100, 6⟩ 40000, .holder Server.bobKey⟩

def aliceTcp : Server.TcpStream := ⟨.v4 ⟨198, 51, 100, 7⟩ 40000, .holder Server.aliceKey⟩

/-- Bob's tunnel is relayed to the target of "ssh". -/
def forwardStream : List Server.Action :=
  Server.bindAll ++ Server.connect .data bobTcp Server.bobKey 0 ++
    [.data (.hello 0 (.received ⟨"ssh", none⟩)), .data (.connect 0 (.ok ()))]

/-- A connection to the listener of "db" is relayed to alice's tunnel. -/
def reverseStream : List Server.Action :=
  Server.bindAll ++
    [.listener 0 (.accept (.ok (.v4 ⟨203, 0, 113, 5⟩ 50000))), .listener 0 .insert,
      .listener 0 .send] ++
    Server.connect .data aliceTcp Server.aliceKey 0 ++
    [.data (.hello 0 (.received ⟨"db", some 1⟩))]

def forwardRelay : Server.Relay :=
  ⟨⟨bobTcp, ⟨"bob", Server.bobKey, ["web", "ssh"].toFinset⟩⟩, ⟨"ssh", none⟩, "ssh",
    .target "127.0.0.1:22"⟩

def reverseRelay : Server.Relay :=
  ⟨⟨aliceTcp, ⟨"alice", Server.aliceKey, ["db"].toFinset⟩⟩, ⟨"db", some 1⟩, "db",
    .external ⟨"db", .v4 ⟨203, 0, 113, 5⟩ 50000, 0⟩⟩

/-- The only relay that a computed run leads to ends. -/
theorem serverEnd_of_stateOf (as : List Server.Action) (relay : Server.Relay)
    (h : (Server.stateOf Server.exampleContext 0 as).map (fun s => s.data.relays) = some [relay])
    (aToB bToA : UInt64) :
    ∃ s s', ServerEnd Server.exampleContext s s' relay aToB bToA := by
  obtain ⟨s, hs, hrelays⟩ := Option.map_eq_some_iff.mp h
  obtain ⟨tr, hrun⟩ := Server.run_of_stateOf hs
  have hi : s.data.relays[0]? = some relay := by rw [hrelays]; rfl
  have hsome : (Server.step Server.exampleContext s
      (.data (.relayEnd 0 (.ok (aToB, bToA))))).isSome := by
    simp [Server.step, Server.handleDataConnection, hi]
  obtain ⟨⟨s', es⟩, hst⟩ := Option.isSome_iff_exists.mp hsome
  exact ⟨s, s', ⟨as, tr, hrun⟩, 0, es, hi, hst⟩

theorem direction_iff_forwardStream :
    ∃ s s', ServerEnd Server.exampleContext s s' forwardRelay 3 5 ∧
      Gained (s.data.stats "ssh") (s'.data.stats "ssh") ⟨3, 5⟩ := by
  obtain ⟨s, s', h⟩ := serverEnd_of_stateOf forwardStream forwardRelay (by decide) 3 5
  refine ⟨s, s', h, ?_⟩
  obtain ⟨link, hlink, hid, hiff⟩ := (direction_iff _ ⟨fun _ _ => .ok (), Server.exampleConfig,
    [], []⟩).1 s s' forwardRelay 3 5 h
  have hforward : ∀ link ∈ Server.exampleConfig.links, link.id = "ssh" → link.mode = .forward := by
    decide
  have hgained := hiff.mpr (.inl (hforward link hlink hid))
  rwa [hid] at hgained

/-- Three bytes came in from outside and five went back; the server counts five forward and
    three back. -/
theorem reverseServer_swapped :
    ∃ s s', ServerEnd Server.exampleContext s s' reverseRelay 5 3 ∧
      serverCarried reverseRelay 5 3 = ⟨3, 5⟩ ∧
      Gained (s.data.stats "db") (s'.data.stats "db") ⟨5, 3⟩ ∧
      ¬ Gained (s.data.stats "db") (s'.data.stats "db") ⟨3, 5⟩ := by
  obtain ⟨s, s', h⟩ := serverEnd_of_stateOf reverseStream reverseRelay (by decide) 5 3
  obtain ⟨-, st, hst, hst'⟩ := h.spec
  refine ⟨s, s', h, rfl, ?_, ?_⟩
  · show Gained (s.data.stats reverseRelay.linkId) (s'.data.stats reverseRelay.linkId) _
    rw [hst, hst', gained_relayEnd]
    exact ⟨rfl, rfl⟩
  · show ¬ Gained (s.data.stats reverseRelay.linkId) (s'.data.stats reverseRelay.linkId) _
    rw [hst, hst', gained_relayEnd]
    decide

end Ghostport.System
