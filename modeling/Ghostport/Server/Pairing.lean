import Ghostport.Server.Streams

/-!
# Who gets a reverse stream

The pending map is keyed by the stream id alone, while a `StreamHello` is checked
against the link it names itself.

Results:
* `stats_counted`: the counters of a link are those of the relays of that link.
* `paired_iff`: external connections are relayed only under the link of their
  listener exactly in the runs whose hellos claim only such connections.
* `crossClaim_not_paired`: a run in which a peer takes a connection of another
  peer's link.
-/

namespace Ghostport.Server

open Ghostport.Core Ghostport.Net Ghostport.Lib

/-! ## Counters -/

/-- What the relays of `linkId` in a run add up to. -/
def countersIn (linkId : String) (tr : List Event) : LinkStats :=
  tr.foldl (fun st e =>
    match e with
    | .relayStarted relay => if relay.linkId = linkId then st.relayStart else st
    | .relayEnded relay result => if relay.linkId = linkId then st.relayEnd result else st
    | _ => st) .zero

/-- The links of the config have counters, and the relays that run or have ended
    were started. -/
structure CounterInv (ctx : Context) (s : State) (tr : List Event) : Prop where
  stats : ∀ linkId,
    s.data.stats linkId = (initialStats ctx.config linkId).map fun _ => countersIn linkId tr
  started : ∀ r ∈ s.data.relays, .relayStarted r ∈ tr
  ended : ∀ r result, .relayEnded r result ∈ tr → .relayStarted r ∈ tr

namespace CounterInv

variable {ctx : Context} {s s' : State} {tr es : List Event}

theorem ended_append (h : CounterInv ctx s tr) (hes : ∀ r result, .relayEnded r result ∉ es) :
    ∀ r result, .relayEnded r result ∈ tr ++ es → .relayStarted r ∈ tr ++ es := by
  intro r result hr
  rcases List.mem_append.mp hr with hr | hr
  · exact List.mem_append_left _ (h.ended r result hr)
  · exact absurd hr (hes r result)

theorem frame (h : CounterInv ctx s tr) (hes : ∀ linkId, countersIn linkId (tr ++ es) =
    countersIn linkId tr) (hended : ∀ r result, .relayEnded r result ∉ es)
    (hdata : s'.data.stats = s.data.stats ∧ s'.data.relays = s.data.relays) :
    CounterInv ctx s' (tr ++ es) where
  stats linkId := by rw [hdata.1, hes, h.stats]
  started r hr := List.mem_append_left _ (h.started r (hdata.2 ▸ hr))
  ended := h.ended_append hended

theorem startRelay (h : CounterInv ctx s tr) (relay : Relay)
    (hes : ∀ linkId, countersIn linkId (tr ++ es) =
      if relay.linkId = linkId then (countersIn linkId tr).relayStart else countersIn linkId tr)
    (hended : ∀ r result, .relayEnded r result ∉ es) (hmem : .relayStarted relay ∈ es)
    (hstats : s'.data.stats = s.data.stats) (hrelays : s'.data.relays = s.data.relays) :
    CounterInv ctx (s'.startRelay relay) (tr ++ es) where
  stats linkId := by
    simp only [State.startRelay, Function.update_apply, hstats, hes]
    split
    · rename_i heq
      subst heq
      rw [h.stats, Option.map_map, if_pos rfl]
      rfl
    · rename_i hne
      rw [h.stats, if_neg (Ne.symm hne)]
  started r hr := by
    rcases List.mem_append.mp hr with hr | hr
    · exact List.mem_append_left _ (h.started r (hrelays ▸ hr))
    · rw [List.mem_singleton.mp hr]
      exact List.mem_append_right _ hmem
  ended := h.ended_append hended

theorem data (h : CounterInv ctx s tr) {a : DataAction} (hst : DataCase ctx s a s' es) :
    CounterInv ctx s' (tr ++ es) := by
  cases hst with
  | claimed hi hclaim hp hrelay hs₁ =>
    subst hs₁
    exact h.startRelay _ (by simp [countersIn]) (by simp) (by simp) rfl rfl
  | connected hi hs₁ =>
    subst hs₁
    exact h.startRelay _ (by simp [countersIn]) (by simp) (by simp) rfl rfl
  | @relayEnded i relay result hi =>
    have hstarted := h.started relay (List.mem_of_getElem? hi)
    refine ⟨fun linkId => ?_, fun r hr => ?_, fun r res hr => ?_⟩
    · simp only [Function.update_apply, countersIn, List.foldl_append, List.foldl_cons,
        List.foldl_nil]
      split
      · rename_i heq
        subst heq
        rw [h.stats, Option.map_map, if_pos rfl]
        rfl
      · rename_i hne
        rw [h.stats, if_neg (Ne.symm hne)]
        rfl
    · exact List.mem_append_left _ (h.started r (List.mem_of_mem_eraseIdx hr))
    · rcases List.mem_append.mp hr with hr | hr
      · exact List.mem_append_left _ (h.ended r res hr)
      · simp only [List.mem_cons, Event.relayEnded.injEq, reduceCtorEq, List.not_mem_nil,
          or_false] at hr
        rw [hr.1]
        exact List.mem_append_left _ hstarted
  | _ => exact h.frame (by simp [countersIn]) (by simp) ⟨rfl, rfl⟩

theorem step (h : CounterInv ctx s tr) {a : Action} (hst : Server.step ctx s a = some (s', es)) :
    CounterInv ctx s' (tr ++ es) := by
  cases step_cases hst with
  | tick hle => exact h.frame (by simp) (by simp) ⟨rfl, rfl⟩
  | listener hc =>
    cases hc <;> (subst_vars; exact h.frame (by simp [countersIn]) (by simp) ⟨rfl, rfl⟩)
  | cleanup hc =>
    cases hc <;> (subst_vars; exact h.frame (by simp [countersIn]) (by simp) ⟨rfl, rfl⟩)
  | accept hc => cases hc <;> exact h.frame (by simp [countersIn]) (by simp) ⟨rfl, rfl⟩
  | @handshake channel _ _ _ _ hc =>
    cases channel <;> cases hc <;>
      (subst_vars; exact h.frame (by simp [countersIn]) (by simp) ⟨rfl, rfl⟩)
  | control hc =>
    cases hc <;> exact h.frame (by simp [countersIn, endSession]) (by simp [endSession]) ⟨rfl, rfl⟩
  | data hc => exact h.data hc

end CounterInv

variable {ctx : Context} {C : State → Action → Prop} {as : List Action} {s : State}
  {tr : List Event}

theorem counterInv_run (h : ServerRun ctx C as s tr) : CounterInv ctx s tr := by
  refine h.invariant (I := CounterInv ctx) ?_ fun _ _ _ _ _ hi _ hst => hi.step hst
  intro clock s₀ hstart
  obtain ⟨-, -, -, -, -, -, -, -, -, -, -, hdata⟩ := start_spec hstart
  refine ⟨fun linkId => ?_, by simp [hdata], by simp⟩
  rw [hdata]
  simp only [initialStats, countersIn, List.foldl_nil]
  split <;> rfl

theorem stats_counted (h : ServerRun ctx C as s tr) (linkId : String) :
    s.data.stats linkId = (initialStats ctx.config linkId).map fun _ => countersIn linkId tr :=
  (counterInv_run h).stats linkId

/-! ## Pairing -/

/-- An external connection is relayed to a tunnel of a peer that has the link of
    its listener, which the hello named and whose counters are used. -/
def Relay.Paired (r : Relay) : Prop :=
  ∀ conn, r.other = .external conn →
    conn.listener ∈ r.tunnel.peer.links ∧ r.hello.linkId = conn.listener ∧
      r.linkId = conn.listener

def PairedIn (tr : List Event) : Prop := ∀ r, .relayStarted r ∈ tr → r.Paired

/-- A hello that names a reverse link its peer is allowed, and a stream id under
    which a connection is pending, names the link of that connection. -/
def ClaimsOwn (ctx : Context) (s : State) (a : Action) : Prop :=
  ∀ i hello h link id conn, a = .data (.hello i (.received hello)) →
    s.data.hellos[i]? = some h → hello.linkId ∈ h.tunnel.peer.links →
    ctx.config.links.find? (fun l => l.id = hello.linkId) = some link →
    link.transport = .tcp → link.mode = .reverse → hello.streamId = some id →
    s.reverse.pending id = some conn → conn.listener = hello.linkId

theorem id_of_find {links : List LinkConfig} {linkId : String} {link : LinkConfig}
    (h : links.find? (fun l => l.id = linkId) = some link) : link.id = linkId := by
  simpa using List.find?_some h

/-- A relay that a claim starts is paired exactly if the claim is of the link's own
    connection. -/
theorem paired_of_claim_iff {stats : String → Option LinkStats} {tunnel : NoiseStream}
    {hello : StreamHello} {link : LinkConfig} {id : UInt64} {conn : ExternalConn}
    (h : checkHello ctx stats tunnel.peer hello = .claim link id) :
    Relay.Paired ⟨tunnel, hello, link.id, .external conn⟩ ↔ conn.listener = hello.linkId := by
  obtain ⟨hlinks, hfind, -⟩ := checkHello_claim_iff.mp h
  have hid : link.id = hello.linkId := id_of_find hfind
  constructor
  · intro hp
    exact (hp conn rfl).2.1.symm
  · intro heq conn' hconn'
    cases hconn'
    rw [heq]
    exact ⟨hlinks, rfl, hid⟩

theorem pairedIn_append {es : List Event} :
    PairedIn (tr ++ es) ↔ PairedIn tr ∧ PairedIn es := by
  simp only [PairedIn, List.mem_append, or_imp, forall_and]

theorem pairedIn_of_none {es : List Event} (h : ∀ r, .relayStarted r ∉ es) : PairedIn es :=
  fun r hr => absurd hr (h r)

/-- Only a hello can violate the condition. -/
theorem claimsOwn_of_ne {a : Action} (h : ∀ i hello, a ≠ .data (.hello i (.received hello))) :
    ClaimsOwn ctx s a :=
  fun i hello _ _ _ _ ha => absurd ha (h i hello)

/-- What the condition says of a hello, in terms of its verdict. -/
theorem claimsOwn_iff (hinv : CounterInv ctx s tr) {i : ℕ} {hello : StreamHello}
    {h : AwaitingHello} (hi : s.data.hellos[i]? = some h) :
    ClaimsOwn ctx s (.data (.hello i (.received hello))) ↔
      ∀ link id conn, checkHello ctx s.data.stats h.tunnel.peer hello = .claim link id →
        s.reverse.pending id = some conn → conn.listener = hello.linkId := by
  constructor
  · intro hc link id conn hclaim hp
    obtain ⟨hlinks, hfind, htcp, -, hmode, hid⟩ := checkHello_claim_iff.mp hclaim
    exact hc i hello h link id conn rfl hi hlinks hfind htcp hmode hid hp
  · intro hc i' hello' h' link id conn ha hi' hlinks hfind htcp hmode hid hp
    cases ha
    rw [hi] at hi'
    cases hi'
    refine hc link id conn (checkHello_claim_iff.mpr ⟨hlinks, hfind, htcp, ?_, hmode, hid⟩) hp
    -- the counters were made from the same config
    have hmem : link.id ∈ ctx.config.links.map (·.id) :=
      List.mem_map_of_mem (List.mem_of_find?_eq_some hfind)
    simp [hinv.stats, initialStats, hmem]

theorem pairedIn_step {s' : State} {a : Action} {es : List Event} (hcount : CounterInv ctx s tr)
    (hrelay : RelayInv s tr) (hst : step ctx s a = some (s', es)) :
    PairedIn (tr ++ es) ↔ PairedIn tr ∧ ClaimsOwn ctx s a := by
  rw [pairedIn_append]
  refine and_congr_right fun _ => ?_
  have quiet : (∀ r, .relayStarted r ∉ es) → ClaimsOwn ctx s a →
      (PairedIn es ↔ ClaimsOwn ctx s a) :=
    fun hes hc => ⟨fun _ => hc, fun _ => pairedIn_of_none hes⟩
  cases step_cases hst with
  | tick hle => exact quiet (by simp) (claimsOwn_of_ne (by simp))
  | listener hc => exact quiet (by cases hc <;> simp) (claimsOwn_of_ne (by simp))
  | cleanup hc => exact quiet (by cases hc <;> simp) (claimsOwn_of_ne (by simp))
  | accept hc => exact quiet (by cases hc <;> simp) (claimsOwn_of_ne (by simp))
  | handshake hc => exact quiet (by cases hc <;> simp) (claimsOwn_of_ne (by simp))
  | control hc => exact quiet (by cases hc <;> simp [endSession]) (claimsOwn_of_ne (by simp))
  | data hc =>
    cases hc with
    | refused hi hv | panicked hi hv | dialed hi hv _ =>
      refine quiet (by simp) ((claimsOwn_iff hcount hi).mpr fun link id conn hclaim => ?_)
      rw [hv] at hclaim
      cases hclaim
    | unknown hi hv hp =>
      refine quiet (by simp) ((claimsOwn_iff hcount hi).mpr fun link id conn hclaim hp' => ?_)
      rw [hv] at hclaim
      cases hclaim
      rw [hp] at hp'
      cases hp'
    | @claimed i h hello link id conn relay s₁ hi hv hp hr hs₁ =>
      have hes : PairedIn [.claimed relay id conn, .relayStarted relay] ↔ relay.Paired := by
        simp [PairedIn]
      rw [hes, claimsOwn_iff hcount hi, hr, paired_of_claim_iff hv]
      constructor
      · intro heq link' id' conn' hv' hp'
        rw [hv] at hv'
        cases hv'
        rw [hp] at hp'
        cases hp'
        exact heq
      · exact fun hc => hc link id conn hv hp
    | @connected i relay s₁ hi hs₁ =>
      obtain ⟨addr, haddr⟩ := hrelay.targets relay (List.mem_of_getElem? hi)
      refine ⟨fun _ => claimsOwn_of_ne (by simp), fun _ => ?_⟩
      intro r hr conn hconn
      rw [Event.relayStarted.inj (List.mem_singleton.mp hr), haddr] at hconn
      cases hconn
    | _ => exact quiet (by simp) (claimsOwn_of_ne (by simp))

/-- External connections are relayed only under the link of their listener exactly
    if every hello claims such a connection; and the counters of a link add up the
    relays under that link, each of which was started. -/
theorem paired_iff (h : ServerRun ctx Free as s tr) :
    (PairedIn tr ↔ ServerRun ctx (ClaimsOwn ctx) as s tr) ∧
      (∀ linkId, s.data.stats linkId =
        (initialStats ctx.config linkId).map fun _ => countersIn linkId tr) ∧
      ∀ r result, .relayEnded r result ∈ tr → .relayStarted r ∈ tr := by
  refine ⟨?_, stats_counted h, (counterInv_run h).ended⟩
  refine h.exact (I := fun s tr => CounterInv ctx s tr ∧ RelayInv s tr)
    (fun hr => ⟨counterInv_run hr, relayInv_run hr⟩) (pairedIn_of_none (by simp)) ?_
  rintro s tr a s' es ⟨hcount, hrelay⟩ hst
  exact pairedIn_step hcount hrelay hst

/-! ## A peer takes another's connection -/

/-- A connection to alice's link `db` is pending as stream 1. Bob, who may only use
    his own links, names `web` and stream 1. -/
def crossClaim : List Action :=
  bindAll ++
    [.listener 0 (.accept (.ok (.v4 ⟨203, 0, 113, 5⟩ 50000))), .listener 0 .insert,
      .listener 0 .send] ++
    connect .data ⟨.v4 ⟨198, 51, 100, 7⟩ 40000, .holder bobKey⟩ bobKey 0 ++
    [.data (.hello 0 (.received ⟨"web", some 1⟩))]

/-- What bob gets, counted under `web`. -/
def crossRelay : Relay where
  tunnel :=
    ⟨⟨.v4 ⟨198, 51, 100, 7⟩ 40000, .holder bobKey⟩, ⟨"bob", bobKey, ["web", "ssh"].toFinset⟩⟩
  hello := ⟨"web", some 1⟩
  linkId := "web"
  other := .external ⟨"db", .v4 ⟨203, 0, 113, 5⟩ 50000, 0⟩

theorem crossClaim_run :
    ∃ s tr, ServerRun exampleContext Free crossClaim s tr ∧ .relayStarted crossRelay ∈ tr :=
  exists_run 0 (by decide) (by decide)

theorem crossClaim_not_paired :
    ∃ s tr, ServerRun exampleContext Free crossClaim s tr ∧ .relayStarted crossRelay ∈ tr ∧
      ¬ PairedIn tr := by
  obtain ⟨s, tr, hrun, hmem⟩ := crossClaim_run
  refine ⟨s, tr, hrun, hmem, fun hp => ?_⟩
  have hlinks : "db" ∈ ["web", "ssh"].toFinset := (hp crossRelay hmem _ rfl).1
  revert hlinks
  decide

theorem paired_iff_crossClaim :
    ∃ s tr, ServerRun exampleContext Free crossClaim s tr ∧
      (PairedIn tr ↔ ServerRun exampleContext (ClaimsOwn exampleContext) crossClaim s tr) := by
  obtain ⟨s, tr, hrun, -⟩ := crossClaim_run
  exact ⟨s, tr, hrun, (paired_iff hrun).1⟩

end Ghostport.Server
