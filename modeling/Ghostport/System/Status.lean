import Ghostport.Client.Cases
import Ghostport.Core.Relay
import Ghostport.Metrics.Render
import Ghostport.Server.Cases

/-!
# What the status socket says (`crates/ghostport-core/src/stats.rs`)

The tasks of a daemon keep its `SharedState`, and `snapshot` reads it between two of their
steps. In both roles the streams of a link are calls of `relay`, so the counters of the link are
those of a run of `Relay.step`.

Results:
* `snapshot_truthful`: in every reachable state of the server and of the client, a snapshot says
  whether there is a control session, whose it is or was, and what has been relayed.
-/

namespace Ghostport.System

open Ghostport.Core Ghostport.Lib Ghostport.Net

/-! ## The streams of a link -/

/-- What `copy_bidirectional` returns. -/
abbrev CopyResult := Except String (UInt64 × UInt64)

/-- What has happened to the streams of a link: one has started (`none`), or ended. -/
abbrev StreamLog := List (Option CopyResult)

/-- The bytes that a stream has carried by its end, as far as `relay` learns of them. -/
def carried : Option CopyResult → Core.Relay.Bytes
  | some (.ok (aToB, bToA)) => (aToB.toNat, bToA.toNat)
  | _ => 0

def openedBy (log : StreamLog) : ℕ := log.count none

def carriedBy (log : StreamLog) : Core.Relay.Bytes := (log.map carried).sum

/-- `stats` are the counters of a link after the streams of `log`, of which `active` run. -/
def Counted (stats : LinkStats) (active : ℕ) (log : StreamLog) : Prop :=
  ∃ as tr, Core.Relay.RelayRun as ⟨stats, List.replicate active 0⟩ tr ∧
    Core.Relay.openedIn tr = openedBy log ∧ Core.Relay.returnedIn tr = carriedBy log

theorem counted_zero : Counted .zero 0 [] := ⟨[], [], .nil, rfl, rfl⟩

theorem Counted.start {stats : LinkStats} {active : ℕ} {log : StreamLog}
    (h : Counted stats active log) : Counted stats.relayStart (active + 1) (log ++ [none]) := by
  obtain ⟨as, tr, hrun, hopened, hreturned⟩ := h
  refine ⟨as ++ [.start], tr ++ [.started], ?_, ?_, ?_⟩
  · rw [List.replicate_succ']
    exact hrun.snoc trivial rfl
  · rw [Core.Relay.openedIn_concat, hopened, openedBy, openedBy, List.count_append]
    rfl
  · rw [Core.Relay.returnedIn_concat, hreturned, carriedBy, carriedBy, List.map_append,
      List.sum_append]
    rfl

/-- A stream ends: it has copied what it returns, or fails. -/
theorem Counted.finish {stats : LinkStats} {active : ℕ} {log : StreamLog}
    (h : Counted stats (active + 1) log) (result : CopyResult) :
    Counted (stats.relayEnd result) active (log ++ [some result]) := by
  obtain ⟨as, tr, hrun, hopened, hreturned⟩ := h
  have hopenedBy : openedBy (log ++ [some result]) = openedBy log := by
    rw [openedBy, openedBy, List.count_append]
    rfl
  have hcarriedBy : carriedBy (log ++ [some result]) = carriedBy log + carried (some result) := by
    simp [carriedBy]
  match result with
  | .error e =>
    have hfinish :=
      hrun.snoc trivial (show Core.Relay.step _ (.finish 0 (some e)) = some _ from rfl)
    refine ⟨_, _, hfinish, ?_, ?_⟩
    · rw [Core.Relay.openedIn_concat, hopened, hopenedBy]
      rfl
    · rw [Core.Relay.returnedIn_concat, hreturned, hcarriedBy]
      rfl
  | .ok (aToB, bToA) =>
    have hexec : exec Core.Relay.step ⟨stats, List.replicate (active + 1) 0⟩
        [.copy 0 (aToB.toNat, bToA.toNat), .finish 0 none] =
          some (⟨stats.relayEnd (.ok (aToB, bToA)), List.replicate active 0⟩,
            [.copied (aToB.toNat, bToA.toNat), .ended (aToB.toNat, bToA.toNat) none]) := by
      simp [exec, Core.Relay.step, Core.Relay.copyResult, List.replicate_succ]
    refine ⟨_, _, hrun.append_exec hexec, ?_, ?_⟩
    · rw [hopenedBy, ← hopened]
      simp [Core.Relay.openedIn, Core.Relay.Event.opened]
    · rw [hcarriedBy, ← hreturned]
      simp [Core.Relay.returnedIn, Core.Relay.Event.returned, carried]

/-- What the counters say. -/
theorem Counted.spec {stats : LinkStats} {active : ℕ} {log : StreamLog}
    (h : Counted stats active log) :
    stats.activeStreams = UInt64.ofNat active ∧ stats.totalStreams = UInt64.ofNat (openedBy log) ∧
      stats.bytesForward = UInt64.ofNat (carriedBy log).1 ∧
      stats.bytesBack = UInt64.ofNat (carriedBy log).2 := by
  obtain ⟨as, tr, hrun, hopened, hreturned⟩ := h
  obtain ⟨hactive, htotal, hforward, hback, -⟩ := Core.Relay.countersInv_run hrun
  rw [hopened] at htotal
  rw [hreturned] at hforward hback
  rw [List.length_replicate] at hactive
  exact ⟨hactive, htotal, hforward, hback⟩

/-- The link `id` has counters, and these are right: `active` are the links of the streams that
    run. -/
def Tallied (stats : String → Option LinkStats) (active : List String) (log : StreamLog)
    (id : String) : Prop :=
  ∃ st, stats id = some st ∧ Counted st (active.count id) log

section Tallies

variable {stats : String → Option LinkStats} {active active' : List String} {log : StreamLog}
  {id : String}

theorem Tallied.perm (h : Tallied stats active log id) (hperm : active'.Perm active) :
    Tallied stats active' log id := by
  unfold Tallied
  rw [hperm.count_eq]
  exact h

/-- A stream of the link `id₀` starts. -/
theorem Tallied.start (h : Tallied stats active log id) (id₀ : String)
    (hactive : active'.Perm (id₀ :: active)) :
    Tallied (Function.update stats id₀ ((stats id₀).map LinkStats.relayStart)) active'
      (log ++ if id₀ = id then [none] else []) id := by
  obtain ⟨st, hst, hcounted⟩ := h
  unfold Tallied
  rw [hactive.count_eq]
  by_cases hid : id₀ = id
  · subst hid
    rw [if_pos rfl, Function.update_self, List.count_cons_self, hst]
    exact ⟨_, rfl, hcounted.start⟩
  · rw [if_neg hid, Function.update_of_ne (Ne.symm hid), List.count_cons_of_ne hid,
      List.append_nil]
    exact ⟨st, hst, hcounted⟩

/-- A stream of the link `id₀` ends. -/
theorem Tallied.finish (h : Tallied stats active log id) (id₀ : String) (result : CopyResult)
    (hactive : active.Perm (id₀ :: active')) :
    Tallied (Function.update stats id₀ ((stats id₀).map fun st => st.relayEnd result)) active'
      (log ++ if id₀ = id then [some result] else []) id := by
  obtain ⟨st, hst, hcounted⟩ := h
  unfold Tallied
  rw [hactive.count_eq] at hcounted
  by_cases hid : id₀ = id
  · subst hid
    rw [List.count_cons_self] at hcounted
    rw [if_pos rfl, Function.update_self, hst]
    exact ⟨_, rfl, hcounted.finish result⟩
  · rw [List.count_cons_of_ne hid] at hcounted
    rw [if_neg hid, Function.update_of_ne (Ne.symm hid), List.append_nil]
    exact ⟨st, hst, hcounted⟩

theorem tallied_initial {config : Config} (hid : id ∈ config.links.map (·.id)) :
    Tallied (initialStats config) [] [] id :=
  ⟨.zero, if_pos hid, counted_zero⟩

end Tallies

/-! ## The server -/

section Server

open Ghostport.Server

variable {ctx : Server.Context} {s s' : Server.State} {tr es : List Server.Event}

/-- What an event says of the streams of the link `id`. -/
def serverStream (id : String) : Server.Event → Option (Option CopyResult)
  | .relayStarted relay => if relay.linkId = id then some none else none
  | .relayEnded relay result => if relay.linkId = id then some (some result) else none
  | _ => none

def serverLog (tr : List Server.Event) (id : String) : StreamLog := tr.filterMap (serverStream id)

theorem serverLog_append (tr es : List Server.Event) (id : String) :
    serverLog (tr ++ es) id = serverLog tr id ++ serverLog es id :=
  List.filterMap_append

/-- The links of the relays that run. -/
def serverActive (s : Server.State) : List String := s.data.relays.map (·.linkId)

/-- The counters of the links of the config. -/
def ServerTallied (ctx : Server.Context) (s : Server.State) (tr : List Server.Event) : Prop :=
  ∀ id ∈ ctx.config.links.map (·.id), Tallied s.data.stats (serverActive s) (serverLog tr id) id

namespace ServerTallied

/-- A step that starts and ends no relay. -/
theorem frame (h : ServerTallied ctx s tr) (hes : ∀ id, serverLog es id = [])
    (hstats : s'.data.stats = s.data.stats) (hrelays : s'.data.relays = s.data.relays) :
    ServerTallied ctx s' (tr ++ es) := by
  intro id hid
  rw [serverLog_append, hes, List.append_nil, hstats, serverActive, hrelays]
  exact h id hid

theorem startRelay (h : ServerTallied ctx s tr) (relay : Server.Relay)
    (hes : ∀ id, serverLog es id = if relay.linkId = id then [none] else []) :
    ServerTallied ctx (s.startRelay relay) (tr ++ es) := by
  intro id hid
  rw [serverLog_append, hes]
  apply (h id hid).start
  show ((s.data.relays ++ [relay]).map (·.linkId)).Perm (relay.linkId :: serverActive s)
  rw [List.map_append]
  exact List.perm_append_singleton _ _

theorem data (h : ServerTallied ctx s tr) {a : Server.DataAction} (hst : DataCase ctx s a s' es) :
    ServerTallied ctx s' (tr ++ es) := by
  cases hst with
  | @claimed i h' hello link streamId conn relay s₁ _ _ _ _ hs₁ =>
    have hs : ServerTallied ctx (s₁.setPending streamId none) tr := by
      subst hs₁
      exact h
    apply hs.startRelay
    intro id
    simp only [serverLog, List.filterMap_cons, serverStream, List.filterMap_nil]
    split <;> simp_all
  | @connected i relay s₁ _ hs₁ =>
    have hs : ServerTallied ctx s₁ tr := by
      subst hs₁
      exact h
    apply hs.startRelay
    intro id
    simp only [serverLog, List.filterMap_cons, serverStream, List.filterMap_nil]
    split <;> simp_all
  | @relayEnded i relay result hi =>
    intro id hid
    have hlog : serverLog [.relayEnded relay result, .print (relayLine relay.linkId result)] id =
        if relay.linkId = id then [some result] else [] := by
      simp only [serverLog, List.filterMap_cons, serverStream, List.filterMap_nil]
      split <;> simp_all
    rw [serverLog_append, hlog]
    apply (h id hid).finish
    obtain ⟨hlt, rfl⟩ := List.getElem?_eq_some_iff.mp hi
    exact ((List.getElem_cons_eraseIdx_perm hlt).symm.map _)
  | _ => exact h.frame (fun _ => rfl) rfl rfl

theorem step (h : ServerTallied ctx s tr) {a : Server.Action}
    (hst : Server.step ctx s a = some (s', es)) : ServerTallied ctx s' (tr ++ es) := by
  cases step_cases hst with
  | tick _ => exact h.frame (fun _ => rfl) rfl rfl
  | listener hc => cases hc <;> (subst_vars; exact h.frame (fun _ => rfl) rfl rfl)
  | cleanup hc => cases hc <;> (subst_vars; exact h.frame (fun _ => rfl) rfl rfl)
  | accept hc => cases hc <;> exact h.frame (fun _ => rfl) rfl rfl
  | handshake hc =>
    cases hc with
    | @matched _ _ _ _ _ _ _ _ _ _ _ hs₁ =>
      subst hs₁
      cases ‹Channel› <;> exact h.frame (fun _ => rfl) rfl rfl
    | _ => subst_vars; exact h.frame (fun _ => rfl) rfl rfl
  | control hc => cases hc <;> exact h.frame (fun _ => rfl) rfl rfl
  | data hc => exact h.data hc

end ServerTallied

/-- The connection that the session loop has taken last. -/
def lastConnected (tr : List Server.Event) : Option NoiseStream :=
  tr.foldl (fun last e =>
    match e with
    | .connected stream => some stream
    | _ => last) none

/-- When that was. -/
def lastRecv (as : List Server.Action) : Option UInt64 :=
  as.foldl (fun last a =>
    match a with
    | .control (.recv nowUnix) => some nowUnix
    | _ => last) none

/-- The `ControlStatus` of a server. -/
structure ServerControl (s : Server.State) (as : List Server.Action) (tr : List Server.Event) :
    Prop where
  status : s.control.status = ⟨s.control.session.isSome, lastRecv as,
    (lastConnected tr).map fun stream => stream.tcp.peerAddr.display,
    (lastConnected tr).map fun stream => stream.peer.name⟩
  session : ∀ session, s.control.session = some session →
    lastConnected tr = some session.stream

namespace ServerControl

variable {as : List Server.Action} {a : Server.Action}

theorem lastConnected_append (hes : ∀ stream, .connected stream ∉ es) :
    lastConnected (tr ++ es) = lastConnected tr := by
  induction es generalizing tr with
  | nil => rw [List.append_nil]
  | cons e es ih =>
    rw [List.append_cons, ih fun stream hmem => hes stream (List.mem_cons_of_mem _ hmem),
      lastConnected, List.foldl_append]
    cases e with
    | connected stream => exact absurd List.mem_cons_self (hes stream)
    | _ => rfl

theorem lastRecv_concat (has : ∀ nowUnix, a ≠ .control (.recv nowUnix)) :
    lastRecv (as ++ [a]) = lastRecv as := by
  rw [lastRecv, List.foldl_append]
  match a with
  | .control (.recv nowUnix) => exact absurd rfl (has nowUnix)
  | .control (.handoff _) | .control (.incoming _) | .control .openStream | .control (.sent _)
  | .tick _ | .listener _ _ | .cleanup _ | .accept _ _ | .handshake _ _ _ | .data _ => rfl

/-- A step in which the session loop takes no connection. -/
theorem frame (h : ServerControl s as tr) (has : ∀ nowUnix, a ≠ .control (.recv nowUnix))
    (hes : ∀ stream, .connected stream ∉ es)
    (hsession : s'.control.session.map ControlSession.stream =
      s.control.session.map ControlSession.stream)
    (hstatus : s'.control.status = s.control.status) :
    ServerControl s' (as ++ [a]) (tr ++ es) := by
  have hsome : s'.control.session.isSome = s.control.session.isSome := by
    rw [← Option.isSome_map (f := ControlSession.stream), hsession, Option.isSome_map]
  refine ⟨?_, ?_⟩
  · rw [lastConnected_append hes, lastRecv_concat has, hsome, hstatus, h.status]
  · intro session hs
    rw [hs, Option.map_some] at hsession
    obtain ⟨session', hs', heq⟩ := Option.map_eq_some_iff.mp hsession.symm
    rw [lastConnected_append hes, ← heq]
    exact h.session session' hs'

theorem ended (h : ServerControl s as tr) (has : ∀ nowUnix, a ≠ .control (.recv nowUnix))
    (stream : NoiseStream) :
    ServerControl (endSession s stream).1 (as ++ [a]) (tr ++ (endSession s stream).2) := by
  refine ⟨?_, ?_⟩
  · rw [lastConnected_append (by simp [endSession]), lastRecv_concat has]
    simp [endSession, ControlStatus.setDisconnected, h.status]
  · intro session hs
    cases hs

theorem step (h : ServerControl s as tr) (hst : Server.step ctx s a = some (s', es)) :
    ServerControl s' (as ++ [a]) (tr ++ es) := by
  cases step_cases hst with
  | tick _ => exact h.frame (by simp) (by simp) rfl rfl
  | listener hc => cases hc <;> (subst_vars; exact h.frame (by simp) (by simp) rfl rfl)
  | cleanup hc => cases hc <;> (subst_vars; exact h.frame (by simp) (by simp) rfl rfl)
  | accept hc => cases hc <;> exact h.frame (by simp) (by simp) rfl rfl
  | handshake hc =>
    cases hc with
    | @matched _ _ _ _ _ _ _ _ _ _ _ hs₁ =>
      subst hs₁
      cases ‹Channel› <;> exact h.frame (by simp) (by simp) rfl rfl
    | _ => subst_vars; exact h.frame (by simp) (by simp) rfl rfl
  | data hc => cases hc <;> (subst_vars; exact h.frame (by simp) (by simp) rfl rfl)
  | control hc =>
    cases hc with
    | handedOff _ _ => exact h.frame (by simp) (by simp) rfl rfl
    | @connected nowUnix stream rest hnone hrest =>
      have hlast : lastConnected (tr ++ [.print (.controlConnected stream.tcp.peerAddr
          stream.peer.name), .connected stream]) = some stream := by
        rw [lastConnected, List.foldl_append]
        rfl
      have hrecv : lastRecv (as ++ [.control (.recv nowUnix)]) = some nowUnix := by
        rw [lastRecv, List.foldl_append]
        rfl
      refine ⟨?_, ?_⟩
      · rw [hlast, hrecv]
        rfl
      · intro session hs
        cases hs
        exact hlast
    | ping hs | wrotePong hs | wrote hs => exact h.frame (by simp) (by simp) (by simp [hs]) rfl
    | ignored _ _ => exact h.frame (by simp) (by simp) rfl rfl
    | took hs _ => exact h.frame (by simp) (by simp) (by simp [hs]) rfl
    | readFailed _ | writeFailed _ _ => exact h.ended (by simp) _

end ServerControl

theorem serverTallied_run {C : Server.State → Server.Action → Prop} {as : List Server.Action}
    (h : ServerRun ctx C as s tr) : ServerTallied ctx s tr := by
  refine h.invariant (I := ServerTallied ctx) ?_ fun _ _ _ _ _ hi _ hst => hi.step hst
  intro clock s₀ hstart id hid
  obtain ⟨-, -, -, -, -, -, -, -, -, -, -, hdata⟩ := start_spec hstart
  rw [serverActive, hdata]
  exact tallied_initial hid

theorem serverControl_run {C : Server.State → Server.Action → Prop} {as : List Server.Action}
    (h : ServerRun ctx C as s tr) : ServerControl s as tr := by
  obtain ⟨clock, s₀, hstart, hrun⟩ := h
  induction hrun with
  | nil =>
    obtain ⟨-, -, -, -, -, -, -, -, -, -, hcontrol, -⟩ := start_spec hstart
    refine ⟨?_, ?_⟩
    · rw [hcontrol]
      rfl
    · intro session hs
      rw [hcontrol] at hs
      cases hs
  | snoc _ _ hst ih => exact ih.step hst

end Server

/-! ## The client -/

section Client

open Ghostport.Client

variable {ctx : Client.Context} {s s' : Client.State} {tr es : List Client.Event}

def clientStream (id : String) : Client.Event → Option (Option CopyResult)
  | .relayStarted stream => if stream.linkId = id then some none else none
  | .relayEnded stream result => if stream.linkId = id then some (some result) else none
  | _ => none

def clientLog (tr : List Client.Event) (id : String) : StreamLog := tr.filterMap (clientStream id)

theorem clientLog_append (tr es : List Client.Event) (id : String) :
    clientLog (tr ++ es) id = clientLog tr id ++ clientLog es id :=
  List.filterMap_append

/-- The link of a tunnel that is relayed. -/
def relayedLink (t : Tunnel) : Option String :=
  if t.phase = .relaying then some t.stream.linkId else none

def clientActive (s : Client.State) : List String := s.tunnels.filterMap relayedLink

def ClientTallied (ctx : Client.Context) (s : Client.State) (tr : List Client.Event) : Prop :=
  ∀ id ∈ ctx.config.links.map (·.id), Tallied s.stats (clientActive s) (clientLog tr id) id

theorem active_erase {i : ℕ} {t : Tunnel} (hi : s.tunnels[i]? = some t) :
    (clientActive s).Perm
      ((relayedLink t).toList ++ (s.tunnels.eraseIdx i).filterMap relayedLink) := by
  obtain ⟨hlt, rfl⟩ := List.getElem?_eq_some_iff.mp hi
  have hperm := (List.getElem_cons_eraseIdx_perm hlt).symm.filterMap relayedLink
  rw [List.filterMap_cons] at hperm
  cases hlink : relayedLink s.tunnels[i] with
  | none => simpa [hlink, clientActive] using hperm
  | some id => simpa [hlink, clientActive] using hperm

theorem active_set {i : ℕ} {t : Tunnel} (hi : s.tunnels[i]? = some t) (t' : Tunnel) :
    ((s.tunnels.set i t').filterMap relayedLink).Perm
      ((relayedLink t').toList ++ (s.tunnels.eraseIdx i).filterMap relayedLink) := by
  obtain ⟨hlt, -⟩ := List.getElem?_eq_some_iff.mp hi
  have hperm := (List.set_perm_cons_eraseIdx hlt t').filterMap relayedLink
  rw [List.filterMap_cons] at hperm
  cases hlink : relayedLink t' with
  | none => simpa [hlink] using hperm
  | some id => simpa [hlink] using hperm

/-- Only the end of its relay ends a tunnel that is relayed. -/
theorem runTunnel_relaying {i : ℕ} {a : TunnelAction} {stream : Stream}
    (hi : s.tunnels[i]? = some ⟨stream, .relaying⟩) (h : runTunnel ctx s i a = some (s', es)) :
    ∃ result, a = .relayEnd result := by
  simp only [runTunnel, hi] at h
  cases a with
  | relayEnd result => exact ⟨result, rfl⟩
  | _ => simp at h

/-- `run_control_session` runs. -/
def inSession : ControlPhase → Bool
  | .selecting _ | .sending _ _ => true
  | _ => false

/-- The events that a snapshot depends on. -/
def ofStatus : Client.Event → Bool
  | .connected | .relayStarted _ | .relayEnded _ _ => true
  | _ => false

/-- What a step of the control loop does to the status. -/
inductive LoopCase (s : Client.State) : ControlAction → Client.State → List Client.Event → Prop
  | same {a : ControlAction} {control : Client.Control} {openings : List Opening}
    {es : List Client.Event} :
    (∀ nowUnix, a ≠ .handshake (.ok ()) nowUnix) → control.status = s.control.status →
    control.serverControlAddr = s.control.serverControlAddr →
    inSession control.phase = inSession s.control.phase → (∀ e ∈ es, ofStatus e = false) →
    LoopCase s a { s with control := control, openings := openings } es
  | connected {nowUnix : UInt64} {control : Client.Control} :
    control.status =
      s.control.status.setConnected nowUnix s.control.serverControlAddr.toList none →
    control.serverControlAddr = s.control.serverControlAddr → inSession control.phase = true →
    LoopCase s (.handshake (.ok ()) nowUnix) { s with control := control }
      [.print (.controlConnected s.control.serverControlAddr), .connected]
  | ended {a : ControlAction} {control : Client.Control} :
    (∀ nowUnix, a ≠ .handshake (.ok ()) nowUnix) →
    control.status = s.control.status.setDisconnected →
    control.serverControlAddr = s.control.serverControlAddr → inSession control.phase = false →
    LoopCase s a { s with control := control } [.disconnected, .print .controlDisconnected]

theorem loop_cases {a : ControlAction} (h : runControlLoop ctx s a = some (s', es)) :
    LoopCase s a s' es := by
  unfold runControlLoop at h
  simp only at h
  split at h
  case h_1 | h_3 | h_7 | h_8 | h_11 =>
    rename_i hphase
    cases h
    exact .same (by simp) rfl rfl (by simp [inSession, hphase]) (by simp [ofStatus])
  case h_2 | h_5 | h_6 | h_13 =>
    rename_i hphase
    split at h
    · cases h
      exact .same (by simp) rfl rfl (by simp [inSession, hphase]) (by simp [ofStatus])
    · cases h <;> exact .same (by simp) rfl rfl (by simp [inSession, hphase]) (by simp)
  case h_4 =>
    cases h
    exact .connected rfl rfl rfl
  case h_9 linkId streamId hphase =>
    split at h
    · unfold handleOpenStream at h
      split at h
      · cases h
        exact .same (by simp) rfl rfl rfl (by simp [ofStatus])
      · split at h <;>
        · cases h
          exact .same (by simp) rfl rfl rfl (by simp [ofStatus])
    · cases h
      exact .same (by simp) rfl rfl rfl (by simp [ofStatus])
  case h_10 | h_12 =>
    cases h
    exact .ended (by simp) rfl rfl rfl
  case h_14 => cases h

theorem clientLog_quiet (hes : ∀ e ∈ es, ofStatus e = false) (id : String) :
    clientLog es id = [] := by
  apply List.filterMap_eq_nil_iff.mpr
  intro e he
  have hquiet := hes e he
  cases e with
  | relayStarted _ | relayEnded _ _ => cases hquiet
  | _ => rfl

namespace ClientTallied

/-- A step that starts and ends no relay. -/
theorem frame (h : ClientTallied ctx s tr) (hes : ∀ id, clientLog es id = [])
    (hstats : s'.stats = s.stats) (hactive : (clientActive s').Perm (clientActive s)) :
    ClientTallied ctx s' (tr ++ es) := by
  intro id hid
  rw [clientLog_append, hes, List.append_nil, hstats]
  exact (h id hid).perm hactive

theorem dial (h : ClientTallied ctx s tr) {stream : Stream} (hc : DialCase ctx s stream s' es) :
    ClientTallied ctx s' (tr ++ es) := by
  cases hc with
  | panicked _ => exact h.frame (fun _ => rfl) rfl (.refl _)
  | @dialed addr _ =>
    refine h.frame (fun _ => rfl) rfl ?_
    show ((s.tunnels ++ [Tunnel.mk stream (.connecting addr)]).filterMap relayedLink).Perm _
    rw [List.filterMap_append]
    exact .of_eq (List.append_nil _)

theorem tunnel (h : ClientTallied ctx s tr) {i : ℕ} {a : TunnelAction}
    (hst : runTunnel ctx s i a = some (s', es)) : ClientTallied ctx s' (tr ++ es) := by
  have moved : ∀ {stream : Stream} {phase phase' : TunnelPhase},
      s.tunnels[i]? = some ⟨stream, phase⟩ → phase ≠ .relaying → phase' ≠ .relaying →
      ((s.tunnels.set i ⟨stream, phase'⟩).filterMap relayedLink).Perm (clientActive s) := by
    intro stream phase phase' hi hphase hphase'
    have hset := active_set hi ⟨stream, phase'⟩
    have herase := active_erase hi
    simp only [relayedLink, if_neg hphase, if_neg hphase'] at hset herase
    exact hset.trans herase.symm
  have erased : ∀ {stream : Stream} {phase : TunnelPhase}, s.tunnels[i]? = some ⟨stream, phase⟩ →
      phase ≠ .relaying →
      ((s.tunnels.eraseIdx i).filterMap relayedLink).Perm (clientActive s) := by
    intro stream phase hi hphase
    have herase := active_erase hi
    rw [relayedLink, if_neg hphase] at herase
    exact herase.symm
  cases runTunnel_cases hst with
  | @failed stream phase _ e hi hne =>
    refine h.frame (fun id => ?_) rfl (erased hi ?_)
    · have hprint : clientStream id (.print (stream.failed e)) = none := rfl
      rw [clientLog, List.filterMap_cons, hprint]
      rfl
    · rintro rfl
      obtain ⟨result, hresult⟩ := runTunnel_relaying hi hst
      exact hne result hresult
  | connected hi hphase => exact h.frame (fun _ => rfl) rfl (moved hi (by simp) hphase)
  | hello hi => exact h.frame (fun _ => rfl) rfl (moved hi (by simp) (by simp))
  | panicked hi _ => exact h.frame (fun _ => rfl) rfl (erased hi (by simp))
  | @started stream stats hi hstats =>
    intro id hid
    have hlog : clientLog [.relayStarted stream] id =
        if stream.linkId = id then [none] else [] := by
      simp only [clientLog, List.filterMap_cons, clientStream, List.filterMap_nil]
      split <;> simp_all
    have hactive := (active_set hi ⟨stream, .relaying⟩).trans
      ((active_erase hi).symm.cons stream.linkId)
    have hmap : some stats.relayStart = (s.stats stream.linkId).map LinkStats.relayStart := by
      rw [hstats]
      rfl
    rw [clientLog_append, hlog, hmap]
    exact (h id hid).start _ hactive
  | @ended stream result hi =>
    intro id hid
    have hlog : clientLog [.relayEnded stream result,
        .print (.relay (Server.relayLine stream.linkId result))] id =
        if stream.linkId = id then [some result] else [] := by
      simp only [clientLog, List.filterMap_cons, clientStream, List.filterMap_nil]
      split <;> simp_all
    rw [clientLog_append, hlog]
    exact (h id hid).finish _ result (active_erase hi)

theorem step (h : ClientTallied ctx s tr) {a : Client.Action}
    (hst : Client.step ctx s a = some (s', es)) : ClientTallied ctx s' (tr ++ es) := by
  match a with
  | .tick now =>
    cases step_cases hst with
    | tick _ => exact h.frame (fun _ => rfl) rfl (.refl _)
  | .listener i a =>
    cases runForwardListener_cases hst with
    | bound _ | acceptFailed _ => exact h.frame (fun _ => rfl) rfl (.refl _)
    | accepted _ hdial => exact h.dial hdial
  | .opening i result =>
    cases runOpening_cases hst with
    | failed _ => exact h.frame (fun _ => rfl) rfl (.refl _)
    | @opened opening s₁ _ _ _ hs₁ hdial =>
      have h₁ : ClientTallied ctx s₁ tr := by
        subst hs₁
        exact h
      exact h₁.dial hdial
  | .tunnel i a => exact h.tunnel hst
  | .control a =>
    cases loop_cases hst with
    | same _ _ _ _ hes => exact h.frame (clientLog_quiet hes) rfl (.refl _)
    | connected _ _ _ | ended _ _ _ _ => exact h.frame (fun _ => rfl) rfl (.refl _)

end ClientTallied

theorem clientTallied_run {C : Client.State → Client.Action → Prop} {as : List Client.Action}
    (h : ClientRun ctx C as s tr) : ClientTallied ctx s tr := by
  obtain ⟨clock, s₀, hstart, hrun⟩ := h
  refine hrun.invariant (I := ClientTallied ctx) ?_ fun _ _ _ _ _ hi _ hst => hi.step hst
  intro id hid
  unfold start at hstart
  split at hstart
  · cases hstart
    exact tallied_initial hid
  · cases hstart

/-- When the client has connected last. -/
def lastHandshake (as : List Client.Action) : Option UInt64 :=
  as.foldl (fun last a =>
    match a with
    | .control (.handshake (.ok ()) nowUnix) => some nowUnix
    | _ => last) none

/-- The `ControlStatus` of a client. -/
structure ClientControl (ctx : Client.Context) (s : Client.State) (as : List Client.Action)
    (tr : List Client.Event) : Prop where
  addr : ctx.config.serverControlAddr = some s.control.serverControlAddr
  status : s.control.status = ⟨inSession s.control.phase, lastHandshake as,
    if .connected ∈ tr then some s.control.serverControlAddr.toList else none, none⟩

namespace ClientControl

variable {as : List Client.Action} {a : Client.Action}

theorem lastHandshake_concat (has : ∀ nowUnix, a ≠ .control (.handshake (.ok ()) nowUnix)) :
    lastHandshake (as ++ [a]) = lastHandshake as := by
  rw [lastHandshake, List.foldl_append, List.foldl_cons, List.foldl_nil]
  split
  · exact absurd rfl (has _)
  · rfl

/-- A step in which the status does not change. -/
theorem frame (h : ClientControl ctx s as tr)
    (has : ∀ nowUnix, a ≠ .control (.handshake (.ok ()) nowUnix)) (hes : .connected ∉ es)
    (hstatus : s'.control.status = s.control.status)
    (haddr : s'.control.serverControlAddr = s.control.serverControlAddr)
    (hphase : inSession s'.control.phase = inSession s.control.phase) :
    ClientControl ctx s' (as ++ [a]) (tr ++ es) := by
  have hmem : .connected ∈ tr ++ es ↔ .connected ∈ tr := by simp [hes]
  refine ⟨haddr ▸ h.addr, ?_⟩
  rw [lastHandshake_concat has, hphase, hstatus, haddr]
  simp only [hmem]
  exact h.status

theorem step (h : ClientControl ctx s as tr) (hst : Client.step ctx s a = some (s', es)) :
    ClientControl ctx s' (as ++ [a]) (tr ++ es) := by
  have dial : ∀ {s₁ : Client.State} {stream : Stream}, s₁.control = s.control →
      DialCase ctx s₁ stream s' es → .connected ∉ es ∧ s'.control = s.control := by
    intro s₁ stream hs₁ hc
    cases hc <;> exact ⟨by simp, hs₁⟩
  match a with
  | .tick now =>
    cases step_cases hst with
    | tick _ => exact h.frame (by simp) (by simp) rfl rfl rfl
  | .listener i a =>
    cases runForwardListener_cases hst with
    | bound _ | acceptFailed _ => exact h.frame (by simp) (by simp) rfl rfl rfl
    | accepted _ hdial =>
      obtain ⟨hes, hcontrol⟩ := dial rfl hdial
      exact h.frame (by simp) hes (by rw [hcontrol]) (by rw [hcontrol]) (by rw [hcontrol])
  | .opening i result =>
    cases runOpening_cases hst with
    | failed _ => exact h.frame (by simp) (by simp) rfl rfl rfl
    | opened _ hs₁ hdial =>
      obtain ⟨hes, hcontrol⟩ := dial (by rw [hs₁]) hdial
      exact h.frame (by simp) hes (by rw [hcontrol]) (by rw [hcontrol]) (by rw [hcontrol])
  | .tunnel i a =>
    cases runTunnel_cases hst <;> exact h.frame (by simp) (by simp) rfl rfl rfl
  | .control a =>
    cases loop_cases hst with
    | same has hstatus haddr hphase hes =>
      refine h.frame (fun n heq => has n (by cases heq; rfl)) ?_ hstatus haddr hphase
      intro hmem
      cases hes _ hmem
    | @connected nowUnix control hstatus haddr hphase =>
      refine ⟨haddr ▸ h.addr, ?_⟩
      have hlast : lastHandshake (as ++ [.control (.handshake (.ok ()) nowUnix)]) =
          some nowUnix := by
        rw [lastHandshake, List.foldl_append]
        rfl
      rw [hlast, hphase, hstatus, haddr, if_pos (by simp)]
      rfl
    | ended has hstatus haddr hphase =>
      refine ⟨haddr ▸ h.addr, ?_⟩
      rw [lastHandshake_concat fun n heq => has n (by cases heq; rfl), hphase, hstatus, haddr,
        h.status]
      simp [ControlStatus.setDisconnected]

end ClientControl

theorem clientControl_run {C : Client.State → Client.Action → Prop} {as : List Client.Action}
    (h : ClientRun ctx C as s tr) : ClientControl ctx s as tr := by
  obtain ⟨clock, s₀, hstart, hrun⟩ := h
  induction hrun with
  | nil =>
    unfold start at hstart
    split at hstart
    · rename_i haddr
      cases hstart
      exact ⟨haddr, rfl⟩
    · cases hstart
  | snoc _ _ hst ih => exact ih.step hst

end Client

/-! ## Snapshots -/

/-- The links of a snapshot are those of the config, in their order, and each has the counters of
    its streams: those that run, those that were started, and the bytes of those that have ended
    cleanly. -/
structure LinksTruthful (snapshot : StatusSnapshot) (config : Config) (active : List String)
    (log : String → StreamLog) : Prop where
  ids : snapshot.links.map (·.id) = config.links.map (·.id)
  counters : ∀ link ∈ snapshot.links,
    link.activeStreams = UInt64.ofNat (active.count link.id) ∧
      link.totalStreams = UInt64.ofNat (openedBy (log link.id)) ∧
      link.bytesForward = UInt64.ofNat (carriedBy (log link.id)).1 ∧
      link.bytesBack = UInt64.ofNat (carriedBy (log link.id)).2

theorem linksTruthful {shared : SharedState} {config : Config} {active : List String}
    {log : String → StreamLog}
    (h : ∀ id ∈ config.links.map (·.id), Tallied shared.links active (log id) id)
    (nowUnix laterUnix : UInt64) :
    LinksTruthful (shared.snapshot config nowUnix laterUnix) config active log := by
  refine ⟨?_, ?_⟩
  · apply Metrics.snapshot_ids
    intro link hlink
    obtain ⟨st, hst, -⟩ := h link.id (List.mem_map_of_mem hlink)
    exact Option.isSome_of_mem hst
  · intro link hlink
    obtain ⟨l, hl, heq⟩ := List.mem_filterMap.mp hlink
    obtain ⟨st, hst, hcounted⟩ := h l.id (List.mem_map_of_mem hl)
    rw [hst] at heq
    obtain rfl := Option.some.inj heq
    exact hcounted.spec

/-- The `SharedState` of a server that was started at `startedAt`. -/
def serverShared (ctx : Server.Context) (s : Server.State) (startedAt : UInt64) : SharedState :=
  ⟨ctx.config.role, startedAt, s.control.status, s.data.stats⟩

/-- The `SharedState` of a client. -/
def clientShared (ctx : Client.Context) (s : Client.State) (startedAt : UInt64) : SharedState :=
  ⟨ctx.config.role, startedAt, s.control.status, s.stats⟩

/-- A snapshot of the server in the state `s`. While there is a control session, its peer is
    named; the peer that was there last is named until the next one comes. -/
structure ServerTruthful (snapshot : StatusSnapshot) (ctx : Server.Context) (laterUnix : UInt64)
    (as : List Server.Action) (s : Server.State) (tr : List Server.Event) : Prop where
  connected : snapshot.controlConnected = s.control.session.isSome
  since : snapshot.controlConnectedSinceSecsAgo =
    if s.control.session.isSome then (lastRecv as).map (saturatingSub laterUnix) else none
  peerAddr : snapshot.controlPeerAddr =
    (lastConnected tr).map fun stream => String.ofList stream.tcp.peerAddr.display
  peerName : snapshot.controlPeerName = (lastConnected tr).map fun stream => stream.peer.name
  session : ∀ session, s.control.session = some session → lastConnected tr = some session.stream
  links : LinksTruthful snapshot ctx.config (serverActive s) (serverLog tr)

/-- A snapshot of the client in the state `s`. -/
structure ClientTruthful (snapshot : StatusSnapshot) (ctx : Client.Context) (laterUnix : UInt64)
    (as : List Client.Action) (s : Client.State) (tr : List Client.Event) : Prop where
  connected : snapshot.controlConnected = inSession s.control.phase
  since : snapshot.controlConnectedSinceSecsAgo =
    if inSession s.control.phase then (lastHandshake as).map (saturatingSub laterUnix) else none
  peerAddr : snapshot.controlPeerAddr =
    if .connected ∈ tr then ctx.config.serverControlAddr else none
  peerName : snapshot.controlPeerName = none
  links : LinksTruthful snapshot ctx.config (clientActive s) (clientLog tr)

theorem serverTruthful {ctx : Server.Context} {as : List Server.Action} {s : Server.State}
    {tr : List Server.Event} (h : Server.ServerRun ctx Free as s tr)
    (startedAt nowUnix laterUnix : UInt64) :
    ServerTruthful ((serverShared ctx s startedAt).snapshot ctx.config nowUnix laterUnix) ctx
      laterUnix as s tr := by
  have hcontrol := serverControl_run h
  have hstatus := hcontrol.status
  have hlinks := @linksTruthful (serverShared ctx s startedAt) _ _ _ (serverTallied_run h) nowUnix
    laterUnix
  refine ⟨?_, ?_, ?_, ?_, hcontrol.session, hlinks⟩ <;>
    simp only [SharedState.snapshot, serverShared, hstatus]
  · cases s.control.session <;> cases lastRecv as <;> rfl
  · cases lastConnected tr <;> rfl

theorem clientTruthful {ctx : Client.Context} {as : List Client.Action} {s : Client.State}
    {tr : List Client.Event} (h : Client.ClientRun ctx Free as s tr)
    (startedAt nowUnix laterUnix : UInt64) :
    ClientTruthful ((clientShared ctx s startedAt).snapshot ctx.config nowUnix laterUnix) ctx
      laterUnix as s tr := by
  have hcontrol := clientControl_run h
  have hstatus := hcontrol.status
  have haddr := hcontrol.addr
  have hlinks := @linksTruthful (clientShared ctx s startedAt) _ _ _ (clientTallied_run h) nowUnix
    laterUnix
  refine ⟨?_, ?_, ?_, ?_, hlinks⟩ <;> simp only [SharedState.snapshot, clientShared, hstatus]
  · cases inSession s.control.phase <;> cases lastHandshake as <;> rfl
  · rw [haddr]
    split
    · exact congrArg some String.ofList_toList
    · rfl

/-- In every reachable state of the server and of the client, whatever peers and connections have
    come and gone, a snapshot says whether a control session runs, since when and with whom, and
    gives each link of the config its own counters. -/
theorem snapshot_truthful (server : Server.Context) (client : Client.Context)
    (startedAt nowUnix laterUnix : UInt64) :
    (∀ {as s tr}, Server.ServerRun server Free as s tr →
      ServerTruthful ((serverShared server s startedAt).snapshot server.config nowUnix laterUnix)
        server laterUnix as s tr) ∧
    ∀ {as s tr}, Client.ClientRun client Free as s tr →
      ClientTruthful ((clientShared client s startedAt).snapshot client.config nowUnix laterUnix)
        client laterUnix as s tr :=
  ⟨fun h => serverTruthful h startedAt nowUnix laterUnix,
    fun h => clientTruthful h startedAt nowUnix laterUnix⟩

/-! ## Alice is connected -/

/-- Alice opens a control session, and a tunnel of bob's is relayed to "ssh". -/
def aliceConnected : List Server.Action :=
  Server.bindAll ++
    Server.connect .control ⟨.v4 ⟨198, 51, 100, 7⟩ 40000, .holder Server.aliceKey⟩
      Server.aliceKey 0 ++
    [.control (.handoff 0), .control (.recv 1000)] ++
    Server.connect .data ⟨.v4 ⟨198, 51, 100, 6⟩ 40000, .holder Server.bobKey⟩ Server.bobKey 0 ++
    [.data (.hello 0 (.received ⟨"ssh", none⟩)), .data (.connect 0 (.ok ()))]

theorem snapshot_truthful_alice :
    ∃ s tr, Server.ServerRun Server.exampleContext Free aliceConnected s tr ∧
      ∃ snapshot, snapshot = (serverShared Server.exampleContext s 900).snapshot
        Server.exampleConfig 1005 1005 ∧ snapshot.controlPeerName = some "alice" ∧
        ∀ link ∈ snapshot.links, link.id = "ssh" → link.activeStreams = 1 := by
  obtain ⟨s, tr, hrun, hname, hactive⟩ : ∃ s tr,
      Server.ServerRun Server.exampleContext Free aliceConnected s tr ∧
        (lastConnected tr).map (fun stream => stream.peer.name) = some "alice" ∧
        (serverActive s).count "ssh" = 1 :=
    Server.exists_run_state 0 (by decide) (by decide)
  have htruthful := (snapshot_truthful Server.exampleContext ⟨fun _ _ => .ok (),
    Server.exampleConfig, [], []⟩ 900 1005 1005).1 hrun
  refine ⟨s, tr, hrun, _, rfl, htruthful.peerName.trans hname, ?_⟩
  intro link hlink hid
  rw [(htruthful.links.counters link hlink).1, hid, hactive]
  rfl

end Ghostport.System
