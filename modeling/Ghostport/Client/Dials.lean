import Ghostport.Client.Links

/-!
# Where a server can make the client connect to

A signal of the server names a link and a stream. The guard of `run_control_session` looks for
any reverse link of that id, `handle_open_stream` for the first link of that id; in a valid
config they mean the same link, and it has a target.

Results:
* `handleOpenStream_reverse`: the handler connects to the target of the link that the guard
  has found.
* `dials_configured`: every connection that is opened for a signal goes to the configured
  target or to the server's data address, and the tunnel carries the ids of the signal.
-/

namespace Ghostport.Client

open Ghostport.Core Ghostport.Net Ghostport.Lib

/-! ## What a trace says about signals -/

/-- The link and the stream that a signal names. -/
def signalOf : Event → Option (String × UInt64)
  | .received (.openStream linkId streamId) => some (linkId, streamId)
  | _ => none

def openingOf : Event → Option Opening
  | .opening opening => some opening
  | _ => none

/-- The opening that a stream continues, if it is one for a signal. -/
def Stream.opening (stream : Stream) : Option Opening :=
  match stream.origin with
  | .accepted _ => none
  | .signalled streamId target => some ⟨stream.linkId, streamId, target⟩

/-- The opening whose data tunnel is dialed. -/
def tunnelOf : Event → Option Opening
  | .dialing stream => stream.opening
  | _ => none

variable {ctx : Context} {s s' : State} {es : List Event}

/-! ## Signals -/

theorem linkExpectsReverse_iff {config : Config} {linkId : String} :
    Control.linkExpectsReverse config linkId = true ↔ HasLink config linkId .reverse := by
  unfold Control.linkExpectsReverse HasLink
  rw [List.any_eq_true]
  exact exists_congr fun link => and_congr_right fun _ => by simp

/-- In a valid config the handler finds the link that the guard has found. -/
theorem handleOpenStream_reverse {base64 : Base64} (hvalid : ctx.config.validate base64 = [])
    (hrole : ctx.config.role = .client) {link : LinkConfig} (hlink : link ∈ ctx.config.links)
    (hmode : link.mode = .reverse) (s : State) (streamId : UInt64) :
    ∃ target, link.target = some target ∧ handleOpenStream ctx s link.id streamId =
      ({ s with openings := s.openings ++ [⟨link.id, streamId, target⟩] },
        [.opening ⟨link.id, streamId, target⟩]) := by
  have hneeds : ctx.config.linkNeedsListen link.mode = false := by
    simp [Config.linkNeedsListen, hrole, hmode]
  obtain ⟨target, htarget⟩ :=
    Option.isSome_iff_exists.mp (Config.target_of_valid hvalid hlink hneeds)
  have hfind : ctx.config.links.find? (fun l => l.id = link.id) = some link := by
    cases hfound : ctx.config.links.find? fun l => l.id = link.id with
    | none =>
      rw [List.find?_eq_none] at hfound
      exact absurd (decide_eq_true rfl) (hfound link hlink)
    | some l =>
      have hid : l.id = link.id := by simpa using List.find?_some hfound
      rw [Config.link_eq_of_id_eq hvalid (List.mem_of_find?_eq_some hfound) hlink hid]
  refine ⟨target, htarget, ?_⟩
  rw [handleOpenStream, hfind]
  simp only [htarget]

/-- A signal for a link that is no reverse link is printed and otherwise ignored. -/
theorem step_ignored {nextTick : Instant} (hphase : s.control.phase = .selecting nextTick)
    {linkId : String} (hnot : ¬ HasLink ctx.config linkId .reverse) (streamId : UInt64) :
    step ctx s (.control (.incoming (.ok (.openStream linkId streamId)))) =
      some (s, [.received (.openStream linkId streamId), .print (.unknownLink linkId)]) := by
  have hguard : ¬ Control.linkExpectsReverse ctx.config linkId = true := by
    rwa [linkExpectsReverse_iff]
  simp only [step, runControlLoop, hphase]
  rw [if_neg hguard]

/-- What a step of the control loop does for signals: nothing, or the opening for one. -/
inductive SignalCase (ctx : Context) (s : State) : State → List Event → Prop
  | none {control : Control} {es : List Event} : es.filterMap openingOf = [] →
    es.filterMap tunnelOf = [] → (∀ stream, .hello stream ∉ es) →
    SignalCase ctx s { s with control := control } es
  | opening {link : LinkConfig} {target : String} {streamId : UInt64} :
    link ∈ ctx.config.links → link.mode = .reverse → link.target = some target →
    SignalCase ctx s { s with openings := s.openings ++ [⟨link.id, streamId, target⟩] }
      [.received (.openStream link.id streamId), .opening ⟨link.id, streamId, target⟩]

theorem signal_cases {base64 : Base64} (hvalid : ctx.config.validate base64 = [])
    (hrole : ctx.config.role = .client) {a : ControlAction}
    (h : runControlLoop ctx s a = some (s', es)) : SignalCase ctx s s' es := by
  unfold runControlLoop at h
  simp only at h
  split at h
  case h_1 | h_3 | h_7 | h_8 | h_10 | h_11 | h_12 | h_4 =>
    cases h
    exact .none (by simp [openingOf]) (by simp [tunnelOf]) (by simp)
  case h_2 | h_5 | h_6 | h_13 =>
    split at h
    · cases h
      exact .none (by simp [openingOf]) (by simp [tunnelOf]) (by simp)
    · cases h <;> exact .none (by simp [openingOf]) (by simp [tunnelOf]) (by simp)
  case h_9 linkId streamId _ =>
    split at h
    · rename_i hreverse
      obtain ⟨link, hlink, rfl, hmode⟩ := linkExpectsReverse_iff.mp hreverse
      obtain ⟨target, htarget, heq⟩ := handleOpenStream_reverse hvalid hrole hlink hmode s streamId
      rw [heq] at h
      cases h
      exact .opening hlink hmode htarget
    · cases h
      exact .none (by simp [openingOf]) (by simp [tunnelOf]) (by simp)
  case h_14 => cases h

/-! ## Runs -/

structure DialInv (ctx : Context) (s : State) (tr : List Event) : Prop where
  tunnels : ∀ t ∈ s.tunnels, ∀ addr, t.phase = .connecting addr →
    ctx.config.serverDataAddr = some addr
  targets : ∀ o ∈ tr.filterMap openingOf, ∃ link ∈ ctx.config.links, link.id = o.linkId ∧
    link.mode = .reverse ∧ link.target = some o.target
  signals : ∀ linkId streamId,
    (tr.filterMap openingOf).countP (fun o => o.linkId = linkId ∧ o.streamId = streamId) ≤
      (tr.filterMap signalOf).count (linkId, streamId)
  openings : ∀ o, s.openings.count o + (tr.filterMap tunnelOf).count o ≤
    (tr.filterMap openingOf).count o
  dialed : ∀ t ∈ s.tunnels, .dialing t.stream ∈ tr
  hellos : ∀ stream, .hello stream ∈ tr → .dialing stream ∈ tr

theorem dialInv_start {clock : Instant} {s₀ : State} (h : start ctx clock = some s₀) :
    DialInv ctx s₀ [] := by
  unfold start at h
  split at h
  · cases h
    exact ⟨by simp, by simp, by simp, by simp, by simp, by simp⟩
  · cases h

/-- A step of a tunnel starts no connection. -/
theorem connecting_of_runTunnel {i : ℕ} {a : TunnelAction}
    (h : runTunnel ctx s i a = some (s', es)) :
    ∀ t ∈ s'.tunnels, ∀ addr, t.phase = .connecting addr → t ∈ s.tunnels := by
  have erased : ∀ t ∈ s.tunnels.eraseIdx i, ∀ addr, t.phase = .connecting addr → t ∈ s.tunnels :=
    fun t ht _ _ => List.mem_of_mem_eraseIdx ht
  have moved : ∀ {stream : Stream} {phase : TunnelPhase}, (∀ addr, phase ≠ .connecting addr) →
      ∀ t ∈ s.tunnels.set i ⟨stream, phase⟩, ∀ addr, t.phase = .connecting addr →
        t ∈ s.tunnels := by
    intro stream phase hphase t ht addr heq
    rcases List.mem_or_eq_of_mem_set ht with ht | rfl
    · exact ht
    · exact absurd heq (hphase addr)
  unfold runTunnel at h
  simp only at h
  split at h
  case h_1 | h_3 | h_6 | h_8 => cases h; exact erased
  case h_2 | h_5 | h_7 =>
    split at h
    · cases h
      exact erased
    · cases h <;> exact moved (by simp)
  case h_4 => cases h; exact moved (by simp)
  case h_9 => cases h

namespace DialInv

variable {tr : List Event}

/-- A step that opens no connection and sends no hello, and whose tunnels were there before. -/
theorem quiet (h : DialInv ctx s tr) (hopening : es.filterMap openingOf = [])
    (htunnel : es.filterMap tunnelOf = []) (hhello : ∀ stream, .hello stream ∈ es →
      .dialing stream ∈ tr) (hopenings : ∀ o, s'.openings.count o ≤ s.openings.count o)
    (htunnels : ∀ t ∈ s'.tunnels, .dialing t.stream ∈ tr ∧ ∀ addr, t.phase = .connecting addr →
      ctx.config.serverDataAddr = some addr) : DialInv ctx s' (tr ++ es) := by
  constructor
  case tunnels => exact fun t ht => (htunnels t ht).2
  case targets =>
    rw [List.filterMap_append, hopening, List.append_nil]
    exact h.targets
  case signals =>
    intro linkId streamId
    have hle := h.signals linkId streamId
    rw [List.filterMap_append, List.filterMap_append, hopening, List.append_nil, List.count_append]
    omega
  case openings =>
    intro o
    have hle := h.openings o
    have hcount := hopenings o
    rw [List.filterMap_append, List.filterMap_append, hopening, htunnel, List.append_nil,
      List.append_nil]
    omega
  case dialed => exact fun t ht => List.mem_append_left _ (htunnels t ht).1
  case hellos =>
    intro stream hmem
    rcases List.mem_append.mp hmem with hmem | hmem
    · exact List.mem_append_left _ (h.hellos stream hmem)
    · exact List.mem_append_left _ (hhello stream hmem)

/-- A tunnel is dialed. If it is one for a signal, an opening has made room for it. -/
theorem dial (h : DialInv ctx s tr) {stream : Stream} (hroom : ∀ o, stream.opening = some o →
      s.openings.count o + (tr.filterMap tunnelOf).count o + 1 ≤ (tr.filterMap openingOf).count o)
    (hc : DialCase ctx s stream s' es) : DialInv ctx s' (tr ++ es) := by
  cases hc with
  | panicked _ =>
    exact h.quiet (by simp [openingOf]) (by simp [tunnelOf]) (by simp) (fun o => le_rfl)
      fun t ht => ⟨h.dialed t ht, h.tunnels t ht⟩
  | @dialed addr haddr =>
    constructor
    case tunnels =>
      intro t ht addr' hphase
      rcases List.mem_append.mp ht with ht | ht
      · exact h.tunnels t ht addr' hphase
      · rw [List.mem_singleton.mp ht] at hphase
        cases hphase
        exact haddr
    case targets =>
      have hnone : [Event.dialing stream].filterMap openingOf = [] := rfl
      rw [List.filterMap_append, hnone, List.append_nil]
      exact h.targets
    case signals =>
      intro linkId streamId
      have hle := h.signals linkId streamId
      have hnone : [Event.dialing stream].filterMap openingOf = [] := rfl
      rw [List.filterMap_append, List.filterMap_append, hnone, List.append_nil, List.count_append]
      omega
    case openings =>
      intro o
      have hnone : [Event.dialing stream].filterMap openingOf = [] := rfl
      have htunnel : [Event.dialing stream].filterMap tunnelOf = stream.opening.toList := by
        simp only [List.filterMap_cons, tunnelOf, List.filterMap_nil]
        cases stream.opening <;> rfl
      have hle := h.openings o
      rw [List.filterMap_append, List.filterMap_append, hnone, htunnel, List.append_nil,
        List.count_append]
      cases hopening : stream.opening with
      | none => simpa using hle
      | some o' =>
        by_cases heq : o' = o
        · subst heq
          have hle' := hroom o' hopening
          simp only [Option.toList_some, List.count_cons_self, List.count_nil]
          omega
        · simp only [Option.toList_some, List.count_cons_of_ne heq, List.count_nil]
          omega
    case dialed =>
      intro t ht
      rcases List.mem_append.mp ht with ht | ht
      · exact List.mem_append_left _ (h.dialed t ht)
      · rw [List.mem_singleton.mp ht]
        simp
    case hellos =>
      intro stream' hmem
      rcases List.mem_append.mp hmem with hmem | hmem
      · exact List.mem_append_left _ (h.hellos stream' hmem)
      · simp at hmem

/-- A tunnel that is there goes on: it connects to nothing else. -/
theorem tunnel (h : DialInv ctx s tr) {i : ℕ} {a : TunnelAction}
    (hst : runTunnel ctx s i a = some (s', es)) : DialInv ctx s' (tr ++ es) := by
  have hconnecting := connecting_of_runTunnel hst
  have there : (∀ t ∈ s'.tunnels, .dialing t.stream ∈ tr) → ∀ t ∈ s'.tunnels,
      .dialing t.stream ∈ tr ∧ ∀ addr, t.phase = .connecting addr →
        ctx.config.serverDataAddr = some addr :=
    fun hdialed t ht => ⟨hdialed t ht, fun addr hphase =>
      h.tunnels t (hconnecting t ht addr hphase) addr hphase⟩
  have erased : ∀ t ∈ s.tunnels.eraseIdx i, .dialing t.stream ∈ tr :=
    fun t ht => h.dialed t (List.mem_of_mem_eraseIdx ht)
  have moved : ∀ {stream : Stream} {phase phase' : TunnelPhase},
      s.tunnels[i]? = some ⟨stream, phase⟩ →
      ∀ t ∈ s.tunnels.set i ⟨stream, phase'⟩, .dialing t.stream ∈ tr := by
    intro stream phase phase' hi t ht
    rcases List.mem_or_eq_of_mem_set ht with ht | rfl
    · exact h.dialed t ht
    · exact h.dialed ⟨stream, phase⟩ (List.mem_of_getElem? hi)
  cases runTunnel_cases hst with
  | failed _ _ | panicked _ _ | ended _ =>
    exact h.quiet (by simp [openingOf]) (by simp [tunnelOf]) (by simp) (fun o => le_rfl)
      (there erased)
  | connected hi _ | started hi _ =>
    exact h.quiet (by simp [openingOf]) (by simp [tunnelOf]) (by simp) (fun o => le_rfl)
      (there (moved hi))
  | @hello stream deadline hi =>
    refine h.quiet (by simp [openingOf]) (by simp [tunnelOf]) (fun stream' hmem => ?_)
      (fun o => le_rfl) (there (moved hi))
    obtain rfl : stream' = stream := by simpa using hmem
    exact h.dialed _ (List.mem_of_getElem? hi)

/-- The handler of a signal connects to the target of a reverse link. -/
theorem opening (h : DialInv ctx s tr) {link : LinkConfig} {target : String} {streamId : UInt64}
    (hlink : link ∈ ctx.config.links) (hmode : link.mode = .reverse)
    (htarget : link.target = some target) :
    DialInv ctx { s with openings := s.openings ++ [⟨link.id, streamId, target⟩] }
      (tr ++ [.received (.openStream link.id streamId), .opening ⟨link.id, streamId, target⟩]) := by
  have hopening : [Event.received (.openStream link.id streamId),
      .opening ⟨link.id, streamId, target⟩].filterMap openingOf =
        [⟨link.id, streamId, target⟩] := rfl
  have hsignal : [Event.received (.openStream link.id streamId),
      .opening ⟨link.id, streamId, target⟩].filterMap signalOf = [(link.id, streamId)] := rfl
  have htunnel : [Event.received (.openStream link.id streamId),
      .opening ⟨link.id, streamId, target⟩].filterMap tunnelOf = [] := rfl
  constructor
  case tunnels => exact h.tunnels
  case targets =>
    intro o ho
    rw [List.filterMap_append, hopening] at ho
    rcases List.mem_append.mp ho with ho | ho
    · exact h.targets o ho
    · rw [List.mem_singleton.mp ho]
      exact ⟨link, hlink, rfl, hmode, htarget⟩
  case signals =>
    intro linkId streamId'
    have hle := h.signals linkId streamId'
    rw [List.filterMap_append, List.filterMap_append, hopening, hsignal, List.countP_append,
      List.count_append]
    by_cases heq : link.id = linkId ∧ streamId = streamId'
    · obtain ⟨rfl, rfl⟩ := heq
      simp only [List.countP_cons, List.countP_nil, List.count_cons_self, List.count_nil]
      simp only [and_self, decide_true, if_true]
      omega
    · have hne : ¬ ((link.id, streamId) == (linkId, streamId')) = true := by
        simpa [Prod.ext_iff] using heq
      rw [List.countP_singleton, List.count_singleton, if_neg hne, if_neg (by simpa using heq)]
      omega
  case openings =>
    intro o
    have hle := h.openings o
    rw [List.filterMap_append, List.filterMap_append, hopening, htunnel, List.append_nil,
      List.count_append, List.count_append]
    omega
  case dialed => exact fun t ht => List.mem_append_left _ (h.dialed t ht)
  case hellos =>
    intro stream hmem
    rcases List.mem_append.mp hmem with hmem | hmem
    · exact List.mem_append_left _ (h.hellos stream hmem)
    · simp at hmem

theorem step {base64 : Base64} (hvalid : ctx.config.validate base64 = [])
    (hrole : ctx.config.role = .client) (h : DialInv ctx s tr) {a : Action}
    (hst : Client.step ctx s a = some (s', es)) : DialInv ctx s' (tr ++ es) := by
  have there : ∀ t ∈ s.tunnels, .dialing t.stream ∈ tr ∧ ∀ addr, t.phase = .connecting addr →
      ctx.config.serverDataAddr = some addr := fun t ht => ⟨h.dialed t ht, h.tunnels t ht⟩
  match a with
  | .tick now =>
    cases step_cases hst with
    | tick _ => exact h.quiet rfl rfl (by simp) (fun o => le_rfl) there
  | .listener i a =>
    cases runForwardListener_cases hst with
    | bound _ | acceptFailed _ =>
      exact h.quiet (by simp [openingOf]) (by simp [tunnelOf]) (by simp) (fun o => le_rfl) there
    | accepted _ hdial => exact h.dial (by simp [Stream.opening]) hdial
  | .opening i result =>
    have erased : ∀ o, (s.openings.eraseIdx i).count o ≤ s.openings.count o :=
      fun o => (List.eraseIdx_sublist _ _).count_le o
    cases runOpening_cases hst with
    | failed hi =>
      exact h.quiet (by simp [openingOf]) (by simp [tunnelOf]) (by simp) erased there
    | @opened opening s₁ _ _ hi hs₁ hdial =>
      subst hs₁
      have h₁ : DialInv ctx { s with openings := s.openings.eraseIdx i } (tr ++ []) :=
        h.quiet rfl rfl (by simp) erased there
      rw [List.append_nil] at h₁
      refine h₁.dial (fun o ho => ?_) hdial
      obtain rfl : opening = o := Option.some.inj ho
      have hle := h.openings opening
      have hcount : s.openings.count opening = (s.openings.eraseIdx i).count opening + 1 := by
        obtain ⟨hlt, rfl⟩ := List.getElem?_eq_some_iff.mp hi
        rw [← (List.getElem_cons_eraseIdx_perm hlt).count_eq, List.count_cons_self]
      show (s.openings.eraseIdx i).count opening + _ + 1 ≤ _
      omega
  | .tunnel i a => exact h.tunnel hst
  | .control a =>
    cases signal_cases hvalid hrole hst with
    | none hopening htunnel hhello =>
      exact h.quiet hopening htunnel (fun stream hmem => absurd hmem (hhello stream))
        (fun o => le_rfl) there
    | opening hlink hmode htarget => exact h.opening hlink hmode htarget

end DialInv

theorem dialInv_run {base64 : Base64} (hvalid : ctx.config.validate base64 = [])
    (hrole : ctx.config.role = .client) {C : State → Action → Prop} {as : List Action}
    {tr : List Event} (h : ClientRun ctx C as s tr) : DialInv ctx s tr := by
  obtain ⟨clock, s₀, hstart, hrun⟩ := h
  exact hrun.invariant (I := DialInv ctx) (dialInv_start hstart)
    fun _ _ _ _ _ hi _ hst => hi.step hvalid hrole hst

/-! ## Results -/

/-- In every run of a client with a valid config, whatever the server sends: a data tunnel is
    dialed at the server's data address; a connection that is opened for a signal goes to the
    target of the reverse link of that id; there are no more of them than signals with these
    ids, and no more tunnels than such connections; a hello for a signal names its link and its
    stream; and a signal for an unknown or forward link changes nothing. -/
theorem dials_configured (ctx : Context) (base64 : Base64)
    (hvalid : ctx.config.validate base64 = []) (hrole : ctx.config.role = .client)
    {as : List Action} {s : State} {tr : List Event} (h : ClientRun ctx Free as s tr) :
    (∀ t ∈ s.tunnels, ∀ addr, t.phase = .connecting addr →
      ctx.config.serverDataAddr = some addr) ∧
    (∀ opening, .opening opening ∈ tr → ∃ link ∈ ctx.config.links, link.id = opening.linkId ∧
      link.mode = .reverse ∧ link.target = some opening.target) ∧
    (∀ linkId streamId,
      (tr.filterMap openingOf).countP (fun o => o.linkId = linkId ∧ o.streamId = streamId) ≤
        (tr.filterMap signalOf).count (linkId, streamId)) ∧
    (∀ opening, (tr.filterMap tunnelOf).count opening ≤ (tr.filterMap openingOf).count opening) ∧
    (∀ stream streamId target, .hello stream ∈ tr → stream.origin = .signalled streamId target →
      .opening ⟨stream.linkId, streamId, target⟩ ∈ tr ∧
        stream.hello = ⟨stream.linkId, some streamId⟩) ∧
    ∀ linkId streamId nextTick, (∀ link ∈ ctx.config.links, link.id = linkId →
        link.mode = .forward) → s.control.phase = .selecting nextTick →
      step ctx s (.control (.incoming (.ok (.openStream linkId streamId)))) =
        some (s, [.received (.openStream linkId streamId), .print (.unknownLink linkId)]) := by
  have hinv := dialInv_run hvalid hrole h
  have hcount : ∀ o, (tr.filterMap tunnelOf).count o ≤ (tr.filterMap openingOf).count o :=
    fun o => le_trans (Nat.le_add_left _ _) (hinv.openings o)
  refine ⟨hinv.tunnels, fun opening hmem => ?_, hinv.signals, hcount,
    fun stream streamId target hmem horigin => ⟨?_, ?_⟩, fun linkId streamId nextTick hforward
    hphase => step_ignored hphase ?_ streamId⟩
  · exact hinv.targets opening (List.mem_filterMap.mpr ⟨_, hmem, rfl⟩)
  · have hopening : tunnelOf (.dialing stream) = some ⟨stream.linkId, streamId, target⟩ := by
      simp [tunnelOf, Stream.opening, horigin]
    have hdialed : (⟨stream.linkId, streamId, target⟩ : Opening) ∈ tr.filterMap tunnelOf :=
      List.mem_filterMap.mpr ⟨_, hinv.hellos stream hmem, hopening⟩
    have hpos : 0 < (tr.filterMap openingOf).count ⟨stream.linkId, streamId, target⟩ :=
      lt_of_lt_of_le (List.count_pos_iff.mpr hdialed) (hcount _)
    obtain ⟨e, he, heq⟩ := List.mem_filterMap.mp (List.count_pos_iff.mp hpos)
    cases e with
    | opening o =>
      obtain rfl := Option.some.inj heq
      exact he
    | _ => cases heq
  · simp [Stream.hello, Origin.streamId, horigin]
  · rintro ⟨link, hlink, hid, hmode⟩
    rw [hforward link hlink hid] at hmode
    cases hmode

/-! ## A signal for the database at home -/

def homeConfig : Config where
  role := .client
  privateKeyPath := "/home/alice/.config/ghostport/private.key"
  peerPublicKey := some "CQkJCQkJCQkJCQkJCQkJCQkJCQkJCQkJCQkJCQkJCQk="
  peers := []
  listenControl := none
  listenData := none
  listenUdp := none
  serverControlAddr := some "192.0.2.1:7001"
  serverDataAddr := some "192.0.2.1:7002"
  serverUdpAddr := none
  links :=
    [⟨"ssh", .forward, .tcp, some "127.0.0.1:2222", none⟩,
      ⟨"db", .reverse, .tcp, none, some "127.0.0.1:5432"⟩]

def homeContext : Context :=
  ⟨fun _ _ => .ok (), homeConfig, List.replicate 32 1, List.replicate 32 9⟩

/-- The server signals a stream of "db", one of "ssh" and one of a link that is unknown. -/
def homeSignals : List Action :=
  [.control (.connect (.ok ())), .control (.handshake (.ok ()) 0),
    .control (.incoming (.ok (.openStream "db" 7))),
    .control (.incoming (.ok (.openStream "ssh" 8))),
    .control (.incoming (.ok (.openStream "vault" 9))),
    .opening 0 (.ok ()), .tunnel 0 (.connect (.ok ())), .tunnel 0 (.handshake (.ok ()))]

theorem homeConfig_valid : homeConfig.validate .standard = [] := by
  decide +kernel

theorem dials_configured_home : ∃ s tr, ClientRun homeContext Free homeSignals s tr ∧
    tr.filterMap openingOf = [⟨"db", 7, "127.0.0.1:5432"⟩] ∧
    tr.filterMap tunnelOf = [⟨"db", 7, "127.0.0.1:5432"⟩] ∧
    (∃ link ∈ homeConfig.links, link.id = "db" ∧ link.mode = .reverse ∧
      link.target = some "127.0.0.1:5432") ∧
    (⟨"db", .signalled 7 "127.0.0.1:5432"⟩ : Stream).hello = ⟨"db", some 7⟩ := by
  obtain ⟨s, tr, hrun, hopenings, htunnels, hhello⟩ : ∃ s tr,
      ClientRun homeContext Free homeSignals s tr ∧
        tr.filterMap openingOf = [⟨"db", 7, "127.0.0.1:5432"⟩] ∧
        tr.filterMap tunnelOf = [⟨"db", 7, "127.0.0.1:5432"⟩] ∧
        .hello ⟨"db", .signalled 7 "127.0.0.1:5432"⟩ ∈ tr :=
    ⟨_, _, ⟨0, _, rfl, run_of_exec rfl⟩, rfl, rfl, by simp⟩
  obtain ⟨-, htargets, -, -, hhellos, -⟩ :=
    dials_configured homeContext .standard homeConfig_valid rfl hrun
  have hopening := (hhellos _ 7 "127.0.0.1:5432" hhello rfl).1
  exact ⟨s, tr, hrun, hopenings, htunnels, htargets _ hopening,
    (hhellos _ 7 "127.0.0.1:5432" hhello rfl).2⟩

end Ghostport.Client
