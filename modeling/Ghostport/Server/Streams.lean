import Ghostport.Lib.LinearStore
import Ghostport.Server.Cases

/-!
# Reverse streams

The listeners of the reverse links, the cleanup tasks and the data handlers share
the pending map. Every accepted connection is issued under a stream id, held by
its listener, stored in the map, and leaves it once.

Results:
* `StreamInv.step`: each step of the server is one of the operations of a linear
  store, or leaves it alone, as long as fewer than `2 ^ 64` connections are
  accepted.
* `used_linearly`: what this means for the events of a run.
-/

namespace Ghostport.Server

open Ghostport.Core Ghostport.Net Ghostport.Lib

/-! ## The history of the streams -/

/-- The accepted connections, with their stream ids. -/
def acceptedIn (tr : List Event) : List (UInt64 × ExternalConn) :=
  tr.filterMap fun
    | .accepted id conn => some (id, conn)
    | _ => none

/-- The connections that a data tunnel claimed. -/
def claimedIn (tr : List Event) : List ExternalConn :=
  tr.filterMap fun
    | .claimed _ _ conn => some conn
    | _ => none

/-- The connections that a cleanup task or a failed send dropped. -/
def droppedIn (tr : List Event) : List ExternalConn :=
  tr.filterMap fun
    | .timedOut _ _ conn => some conn
    | .sendFailed _ _ conn => some conn
    | _ => none

/-- The connections that left the pending map. -/
def departedIn (tr : List Event) : List ExternalConn :=
  tr.filterMap fun
    | .claimed _ _ conn => some conn
    | .timedOut _ _ conn => some conn
    | .sendFailed _ _ conn => some conn
    | _ => none

/-- The external connections that were relayed. -/
def relayedIn (tr : List Event) : List ExternalConn :=
  tr.filterMap fun
    | .relayStarted relay =>
      match relay.other with
      | .external conn => some conn
      | .target _ => none
    | _ => none

section Append

variable (tr tr' : List Event)

theorem acceptedIn_append : acceptedIn (tr ++ tr') = acceptedIn tr ++ acceptedIn tr' :=
  List.filterMap_append ..

theorem claimedIn_append : claimedIn (tr ++ tr') = claimedIn tr ++ claimedIn tr' :=
  List.filterMap_append ..

theorem departedIn_append : departedIn (tr ++ tr') = departedIn tr ++ departedIn tr' :=
  List.filterMap_append ..

theorem relayedIn_append : relayedIn (tr ++ tr') = relayedIn tr ++ relayedIn tr' :=
  List.filterMap_append ..

end Append

theorem departedIn_perm (tr : List Event) :
    (departedIn tr).Perm (claimedIn tr ++ droppedIn tr) := by
  induction tr with
  | nil => exact .nil
  | cons e tr ih =>
    cases e
    case claimed relay id conn => exact ih.cons conn
    case timedOut timer id conn => exact (ih.cons conn).trans List.perm_middle.symm
    case sendFailed linkId id conn => exact (ih.cons conn).trans List.perm_middle.symm
    all_goals exact ih

/-- The events that say something about an external connection. -/
def Event.ofStream : Event → Bool
  | .accepted .. | .inserted .. | .claimed .. | .timedOut .. | .sendFailed .. | .relayStarted .. =>
    true
  | _ => false

theorem filterMap_eq_nil_of_not_ofStream {α : Type} {f : Event → Option α} {es : List Event}
    (hf : ∀ e : Event, e.ofStream = false → f e = none) (h : ∀ e ∈ es, e.ofStream = false) :
    es.filterMap f = [] :=
  List.filterMap_eq_nil_iff.mpr fun e he => hf e (h e he)

theorem acceptedIn_eq_nil {es : List Event} (h : ∀ e ∈ es, e.ofStream = false) :
    acceptedIn es = [] := by
  refine filterMap_eq_nil_of_not_ofStream (fun e hquiet => ?_) h
  cases e <;> first | rfl | cases hquiet

theorem departedIn_eq_nil {es : List Event} (h : ∀ e ∈ es, e.ofStream = false) :
    departedIn es = [] := by
  refine filterMap_eq_nil_of_not_ofStream (fun e hquiet => ?_) h
  cases e <;> first | rfl | cases hquiet

theorem AcceptCase.quiet {s s' : State} {channel : Channel} {a : AcceptAction} {es : List Event}
    (h : AcceptCase s channel a s' es) :
    s'.reverse = s.reverse ∧ s'.data = s.data ∧ ∀ e ∈ es, e.ofStream = false := by
  cases h <;> simp [Event.ofStream]

theorem HandshakeCase.quiet {ctx : Context} {s s' : State} {channel : Channel} {i : ℕ}
    {outcome : HandshakeOutcome} {es : List Event}
    (h : HandshakeCase ctx s channel i outcome s' es) :
    s'.reverse = s.reverse ∧ s'.data.connecting = s.data.connecting ∧
      ∀ e ∈ es, e.ofStream = false := by
  cases h with
  | timedOut _ _ hs => simp [hs, Event.ofStream]
  | failed _ _ hs => simp [hs, Event.ofStream]
  | matched _ _ _ _ hs => cases channel <;> simp [hs, State.handOver, Event.ofStream]

theorem ControlCase.quiet {s s' : State} {a : ControlAction} {es : List Event}
    (h : ControlCase s a s' es) :
    s'.reverse = s.reverse ∧ s'.data = s.data ∧ ∀ e ∈ es, e.ofStream = false := by
  cases h <;> simp [Event.ofStream, endSession]

theorem relayedIn_eq_nil {es : List Event} (h : ∀ e ∈ es, e.ofStream = false) :
    relayedIn es = [] := by
  refine filterMap_eq_nil_of_not_ofStream (fun e hquiet => ?_) h
  cases e <;> first | rfl | cases hquiet

theorem claimedIn_eq_nil {es : List Event} (h : ∀ e ∈ es, e.ofStream = false) :
    claimedIn es = [] := by
  refine filterMap_eq_nil_of_not_ofStream (fun e hquiet => ?_) h
  cases e <;> first | rfl | cases hquiet

/-! ## The invariant -/

/-- The connection a listener has accepted and not yet inserted. -/
def ListenerPhase.held : ListenerPhase → Option (UInt64 × ExternalConn)
  | .inserting id conn => some (id, conn)
  | _ => none

def held (listeners : List ReverseListener) : List (UInt64 × ExternalConn) :=
  listeners.filterMap fun l => l.phase.held

/-- Exchanging one listener exchanges what it holds. -/
theorem held_set {listeners : List ReverseListener} {i : ℕ} {l : ReverseListener}
    (hl : listeners[i]? = some l) (l' : ReverseListener) :
    (l.phase.held.toList ++ held (listeners.set i l')).Perm
      (l'.phase.held.toList ++ held listeners) := by
  obtain ⟨hi, rfl⟩ := List.getElem?_eq_some_iff.mp hl
  have cons : ∀ l ls, held (l :: ls) = l.phase.held.toList ++ held ls := by
    intro l ls
    unfold held
    cases h : l.phase.held <;> simp [h]
  have hset := (List.set_perm_cons_eraseIdx hi l').filterMap fun l => l.phase.held
  have hget := (List.getElem_cons_eraseIdx_perm hi).filterMap fun l => l.phase.held
  change (held _).Perm (held _) at hset hget
  rw [cons] at hset hget
  calc (listeners[i].phase.held.toList ++ held (listeners.set i l')).Perm
        (listeners[i].phase.held.toList ++ (l'.phase.held.toList ++ held (listeners.eraseIdx i))) :=
        hset.append_left _
    _ |>.Perm (l'.phase.held.toList ++
          (listeners[i].phase.held.toList ++ held (listeners.eraseIdx i))) := by
        rw [← List.append_assoc, ← List.append_assoc]
        exact List.perm_append_comm.append_right _
    _ |>.Perm (l'.phase.held.toList ++ held listeners) := hget.append_left _

/-- What a listener knows about the connection it works on. -/
def ReverseListener.Owns (issued : List (UInt64 × ExternalConn)) (l : ReverseListener) : Prop :=
  match l.phase with
  | .inserting _ conn => conn.listener = l.linkId
  | .sending id _ => ∃ conn, (id, conn) ∈ issued ∧ conn.listener = l.linkId
  | _ => True

theorem ReverseListener.Owns.mono {issued issued' : List (UInt64 × ExternalConn)}
    {l : ReverseListener} (h : l.Owns issued) (hsub : issued ⊆ issued') : l.Owns issued' := by
  unfold ReverseListener.Owns at *
  split at h
  · exact h
  · obtain ⟨conn, hconn, hl⟩ := h
    exact ⟨conn, hsub hconn, hl⟩
  · trivial

/-- The accepted connections are numbered, their stream ids are the successors of
    their numbers, and the pending map is a linear store. -/
structure StreamInv (s : State) (tr : List Event) : Prop where
  serials : (acceptedIn tr).map (fun p => p.2.serial) = List.range s.reverse.accepts
  ids : ∀ p ∈ acceptedIn tr, p.1 = UInt64.ofNat (p.2.serial + 1)
  next : s.reverse.nextStreamId = UInt64.ofNat (s.reverse.accepts + 1)
  linear : Linear (acceptedIn tr) (held s.reverse.listeners) s.reverse.pending (departedIn tr)
  owns : ∀ l ∈ s.reverse.listeners, l.Owns (acceptedIn tr)
  timers : ∀ t ∈ s.reverse.timers,
    ∃ conn, (t.streamId, conn) ∈ acceptedIn tr ∧ conn.listener = t.linkId

/-- What an event says about the connection it is about, where `issued` lists all
    accepted connections. -/
def Event.Own (issued : List (UInt64 × ExternalConn)) : Event → Prop
  | .inserted _ _ old => old = none
  | .claimed relay id conn =>
    (id, conn) ∈ issued ∧ relay.hello.streamId = some id ∧ relay.other = .external conn
  | .timedOut timer id conn =>
    (id, conn) ∈ issued ∧ timer.streamId = id ∧ timer.linkId = conn.listener
  | .sendFailed linkId id conn => (id, conn) ∈ issued ∧ linkId = conn.listener
  | _ => True

theorem Event.Own.mono {issued issued' : List (UInt64 × ExternalConn)} {e : Event}
    (h : e.Own issued) (hsub : issued ⊆ issued') : e.Own issued' := by
  cases e
  case claimed => exact ⟨hsub h.1, h.2⟩
  case timedOut => exact ⟨hsub h.1, h.2⟩
  case sendFailed => exact ⟨hsub h.1, h.2⟩
  all_goals exact h

theorem Event.own_of_not_ofStream {issued : List (UInt64 × ExternalConn)} {e : Event}
    (h : e.ofStream = false) : e.Own issued := by
  cases e <;> trivial

namespace StreamInv

variable {ctx : Context} {s s' : State} {tr es : List Event}

theorem mem_range (h : StreamInv s tr) {p : UInt64 × ExternalConn} (hp : p ∈ acceptedIn tr) :
    p.2.serial < s.reverse.accepts := by
  rw [← List.mem_range, ← h.serials]
  exact List.mem_map_of_mem (f := fun p => p.2.serial) hp

theorem length_eq (h : StreamInv s tr) : (acceptedIn tr).length = s.reverse.accepts := by
  rw [← List.length_range (n := s.reverse.accepts), ← h.serials, List.length_map]

/-- The next stream id is fresh. -/
theorem next_fresh (h : StreamInv s tr) (hlt : s.reverse.accepts + 1 < 2 ^ 64) :
    s.reverse.nextStreamId ∉ (acceptedIn tr).map Prod.fst := by
  intro hm
  obtain ⟨p, hp, heq⟩ := List.mem_map.mp hm
  have hserial : p.2.serial < s.reverse.accepts := h.mem_range hp
  rw [h.ids p hp, h.next] at heq
  have hnat := congrArg UInt64.toNat heq
  rw [UInt64.toNat_ofNat', UInt64.toNat_ofNat'] at hnat
  omega

/-- The next connection is new. -/
theorem conn_fresh (h : StreamInv s tr) (linkId : String) (peerAddr : SocketAddr) :
    (⟨linkId, peerAddr, s.reverse.accepts⟩ : ExternalConn) ∉ (acceptedIn tr).map Prod.snd := by
  intro hm
  obtain ⟨p, hp, heq⟩ := List.mem_map.mp hm
  have := h.mem_range hp
  simp [heq] at this

/-- A step that accepts no connection. -/
theorem update (h : StreamInv s tr) (hacc : acceptedIn es = [])
    (hserial : s'.reverse.accepts = s.reverse.accepts)
    (hnext : s'.reverse.nextStreamId = s.reverse.nextStreamId)
    (hlinear : Linear (acceptedIn tr) (held s'.reverse.listeners) s'.reverse.pending
      (departedIn tr ++ departedIn es))
    (howns : ∀ l ∈ s'.reverse.listeners, l.Owns (acceptedIn tr))
    (htimers : ∀ t ∈ s'.reverse.timers,
      ∃ conn, (t.streamId, conn) ∈ acceptedIn tr ∧ conn.listener = t.linkId) :
    StreamInv s' (tr ++ es) := by
  have heq : acceptedIn (tr ++ es) = acceptedIn tr := by
    rw [acceptedIn_append, hacc, List.append_nil]
  refine ⟨?_, heq ▸ h.ids, ?_, ?_, heq ▸ howns, heq ▸ htimers⟩
  · rw [heq, hserial, h.serials]
  · rw [hnext, hserial, h.next]
  · rw [heq, departedIn_append]
    exact hlinear

/-- A step that lets no connection leave either. -/
theorem same (h : StreamInv s tr) (hes : ∀ e ∈ es, e.ofStream = false)
    (hserial : s'.reverse.accepts = s.reverse.accepts)
    (hnext : s'.reverse.nextStreamId = s.reverse.nextStreamId)
    (hlinear : Linear (acceptedIn tr) (held s'.reverse.listeners) s'.reverse.pending
      (departedIn tr))
    (howns : ∀ l ∈ s'.reverse.listeners, l.Owns (acceptedIn tr))
    (htimers : ∀ t ∈ s'.reverse.timers,
      ∃ conn, (t.streamId, conn) ∈ acceptedIn tr ∧ conn.listener = t.linkId) :
    StreamInv s' (tr ++ es) := by
  refine h.update (acceptedIn_eq_nil hes) hserial hnext ?_ howns htimers
  rwa [departedIn_eq_nil hes, List.append_nil]

theorem frame (h : StreamInv s tr) (hes : ∀ e ∈ es, e.ofStream = false)
    (hr : s'.reverse = s.reverse) : StreamInv s' (tr ++ es) :=
  h.same hes (by rw [hr]) (by rw [hr]) (hr ▸ h.linear) (hr ▸ h.owns) (hr ▸ h.timers)

/-- A listener moves on, without a connection before or after. -/
theorem owns_set (h : StreamInv s tr) {i : ℕ} {l : ReverseListener}
    (hl : l.Owns (acceptedIn tr)) :
    ∀ l' ∈ s.reverse.listeners.set i l, l'.Owns (acceptedIn tr) := by
  intro l' hl'
  rcases List.mem_or_eq_of_mem_set hl' with hm | rfl
  · exact h.owns l' hm
  · exact hl

theorem moved (h : StreamInv s tr) {i : ℕ} {l l' : ReverseListener}
    (hl : s.reverse.listeners[i]? = some l) (hheld : l.phase.held = none)
    (hheld' : l'.phase.held = none) :
    Linear (acceptedIn tr) (held (s.reverse.listeners.set i l')) s.reverse.pending
      (departedIn tr) := by
  refine h.linear.perm (List.Perm.symm ?_)
  simpa [hheld, hheld'] using held_set hl l'

/-- A listener accepts a connection and takes the next id for it. -/
theorem accepted (h : StreamInv s tr) {i : ℕ} {linkId listenAddr : String}
    {peerAddr : SocketAddr} {s₁ : State} {conn : ExternalConn}
    (hl : s.reverse.listeners[i]? = some ⟨linkId, listenAddr, .accepting⟩)
    (hconn : conn = ⟨linkId, peerAddr, s.reverse.accepts⟩)
    (hs : s₁ = s.setListener i ⟨linkId, listenAddr, .inserting s.reverse.nextStreamId conn⟩)
    (hlt : (acceptedIn (tr ++ [Event.accepted s.reverse.nextStreamId conn])).length < 2 ^ 64) :
    StreamInv
      { s₁ with
        reverse := { s₁.reverse with
          nextStreamId := s.reverse.nextStreamId + 1, accepts := s.reverse.accepts + 1 } }
      (tr ++ [.accepted s.reverse.nextStreamId conn]) := by
  subst hconn hs
  have hmem : acceptedIn (tr ++ [Event.accepted s.reverse.nextStreamId
      ⟨linkId, peerAddr, s.reverse.accepts⟩]) =
      acceptedIn tr ++ [(s.reverse.nextStreamId, ⟨linkId, peerAddr, s.reverse.accepts⟩)] := by
    rw [acceptedIn_append]
    rfl
  have hdep : departedIn (tr ++ [Event.accepted s.reverse.nextStreamId
      ⟨linkId, peerAddr, s.reverse.accepts⟩]) = departedIn tr := by
    simp [departedIn]
  rw [hmem, List.length_append, h.length_eq] at hlt
  have hlinear := h.linear.issue (h.next_fresh hlt) (h.conn_fresh linkId peerAddr)
  constructor
  case serials =>
    rw [hmem, List.map_append, h.serials]
    simp [List.range_succ]
  case ids =>
    rw [hmem]
    intro p hp
    rcases List.mem_append.mp hp with hp | hp
    · exact h.ids p hp
    · rw [List.mem_singleton.mp hp]
      exact h.next
  case next => simp [h.next, UInt64.ofNat_add]
  case linear =>
    rw [hmem, hdep]
    refine hlinear.perm (List.Perm.symm ?_)
    simpa [ListenerPhase.held] using held_set hl ⟨linkId, listenAddr, .inserting _ _⟩
  case owns =>
    rw [hmem]
    intro l hl'
    rcases List.mem_or_eq_of_mem_set hl' with hm | rfl
    · exact (h.owns l hm).mono (List.subset_append_left _ _)
    · exact rfl
  case timers =>
    rw [hmem]
    intro t ht
    obtain ⟨conn, hconn, hlink⟩ := h.timers t ht
    exact ⟨conn, List.mem_append_left _ hconn, hlink⟩

theorem listener (h : StreamInv s tr) {i : ℕ} {a : ListenerAction}
    (hst : ListenerCase s i a s' es) (hlt : (acceptedIn (tr ++ es)).length < 2 ^ 64) :
    StreamInv s' (tr ++ es) ∧ ∀ e ∈ es, e.Own (acceptedIn (tr ++ es)) := by
  cases hst with
  | bindFailed hl =>
    refine ⟨h.same ?_ rfl rfl (h.moved hl rfl rfl) (h.owns_set (by trivial)) h.timers, ?_⟩
    · simp [Event.ofStream]
    · simp [Event.Own]
  | bound hl =>
    refine ⟨h.same ?_ rfl rfl (h.moved hl rfl rfl) (h.owns_set (by trivial)) h.timers, ?_⟩
    · simp [Event.ofStream]
    · simp [Event.Own]
  | acceptFailed hl => exact ⟨h.frame (by simp [Event.ofStream]) rfl, by simp [Event.Own]⟩
  | accepted hl hconn hs => exact ⟨h.accepted hl hconn hs hlt, by simp [Event.Own]⟩
  | @inserted linkId listenAddr id conn hl =>
    have hheld := held_set hl ⟨linkId, listenAddr, .sending id conn.peerAddr⟩
    simp only [ListenerPhase.held, Option.toList_some, Option.toList_none, List.nil_append,
      List.singleton_append] at hheld
    have hlinear := h.linear.perm hheld.symm
    have howner : conn.listener = linkId := h.owns _ (List.mem_of_getElem? hl)
    refine ⟨h.update rfl rfl rfl ?_ (h.owns_set ?_) h.timers, ?_⟩
    · simpa [departedIn] using hlinear.insert
    · exact ⟨conn, hlinear.held_issued _ (by simp), howner⟩
    · simpa [Event.Own] using hlinear.vacant (k := conn) (by simp)
  | @signalled linkId listenAddr id peerAddr s₁ hl halive hroom hs =>
    subst hs
    obtain ⟨conn, hconn, howner⟩ := h.owns _ (List.mem_of_getElem? hl)
    refine ⟨h.same ?_ rfl rfl (h.moved hl rfl rfl) (h.owns_set (by trivial)) ?_, ?_⟩
    · simp [Event.ofStream]
    · intro t ht
      rcases List.mem_append.mp ht with ht | ht
      · exact h.timers t ht
      · rw [List.mem_singleton.mp ht]
        exact ⟨conn, hconn, howner⟩
    · simp [Event.Own]
  | @dropped linkId listenAddr id peerAddr conn hl halive hp =>
    obtain ⟨conn', hconn', howner⟩ := h.owns _ (List.mem_of_getElem? hl)
    obtain rfl : conn' = conn := h.linear.key_inj hconn' (h.linear.stored_issued id conn hp)
    refine ⟨h.update rfl rfl rfl ?_ (h.owns_set (by trivial)) h.timers, ?_⟩
    · simpa [departedIn] using (h.moved hl rfl rfl).remove hp
    · simp [Event.Own, acceptedIn_append, hconn', howner]
  | gone hl halive hp =>
    refine ⟨h.same ?_ rfl rfl ?_ (h.owns_set (by trivial)) h.timers, ?_⟩
    · simp [Event.ofStream]
    · exact (h.moved hl rfl rfl).remove_none hp
    · simp [Event.Own]

theorem cleanup (h : StreamInv s tr) {i : ℕ} (hst : CleanupCase s i s' es) :
    StreamInv s' (tr ++ es) ∧ ∀ e ∈ es, e.Own (acceptedIn (tr ++ es)) := by
  have hsub : ∀ t ∈ s.reverse.timers.eraseIdx i,
      ∃ conn, (t.streamId, conn) ∈ acceptedIn tr ∧ conn.listener = t.linkId :=
    fun t ht => h.timers t (List.mem_of_mem_eraseIdx ht)
  cases hst with
  | @timedOut timer conn s₁ htimer hdue hp hs =>
    subst hs
    obtain ⟨conn', hconn', howner⟩ := h.timers timer (List.mem_of_getElem? htimer)
    obtain rfl : conn' = conn := h.linear.key_inj hconn' (h.linear.stored_issued _ conn hp)
    refine ⟨h.update rfl rfl rfl ?_ h.owns hsub, ?_⟩
    · simpa [departedIn] using h.linear.remove hp
    · simp [Event.Own, acceptedIn_append, hconn', howner]
  | gone htimer hdue hp hs =>
    subst hs
    exact ⟨h.same (by simp) rfl rfl (h.linear.remove_none hp) h.owns hsub, by simp⟩

theorem data (h : StreamInv s tr) {a : DataAction} (hst : DataCase ctx s a s' es) :
    StreamInv s' (tr ++ es) ∧ ∀ e ∈ es, e.Own (acceptedIn (tr ++ es)) := by
  cases hst with
  | @claimed i hs hello link id conn relay s₁ hi hclaim hp hrelay hs₁ =>
    subst hrelay hs₁
    have hmem : (id, conn) ∈ acceptedIn tr := h.linear.stored_issued id conn hp
    have hid : hello.streamId = some id := (checkHello_claim_iff.mp hclaim).2.2.2.2.2
    refine ⟨h.update rfl rfl rfl ?_ h.owns h.timers, ?_⟩
    · simpa [departedIn] using h.linear.remove hp
    · simp [Event.Own, acceptedIn_append, hmem, hid]
  | connected hi hs₁ =>
    subst hs₁
    exact ⟨h.update rfl rfl rfl (by simpa [departedIn] using h.linear) h.owns h.timers,
      by simp [Event.Own]⟩
  | _ => exact ⟨h.frame (by simp [Event.ofStream]) rfl, by simp [Event.Own]⟩

/-- Every step keeps the invariant while stream ids last. -/
theorem step (h : StreamInv s tr) {a : Action} (hst : Server.step ctx s a = some (s', es))
    (hlt : (acceptedIn (tr ++ es)).length < 2 ^ 64) :
    StreamInv s' (tr ++ es) ∧ ∀ e ∈ es, e.Own (acceptedIn (tr ++ es)) := by
  cases step_cases hst with
  | tick hle => exact ⟨h.frame (by simp) rfl, by simp⟩
  | listener hc => exact h.listener hc hlt
  | cleanup hc => exact h.cleanup hc
  | accept hc =>
    obtain ⟨hr, -, hes⟩ := hc.quiet
    exact ⟨h.frame hes hr, fun e he => e.own_of_not_ofStream (hes e he)⟩
  | handshake hc =>
    obtain ⟨hr, -, hes⟩ := hc.quiet
    exact ⟨h.frame hes hr, fun e he => e.own_of_not_ofStream (hes e he)⟩
  | control hc =>
    obtain ⟨hr, -, hes⟩ := hc.quiet
    exact ⟨h.frame hes hr, fun e he => e.own_of_not_ofStream (hes e he)⟩
  | data hc => exact h.data hc

end StreamInv

/-! ## Relays of external connections -/

/-- Relays that still connect go to targets, so that an external connection is
    relayed exactly where it is claimed. -/
structure RelayInv (s : State) (tr : List Event) : Prop where
  targets : ∀ r ∈ s.data.connecting, ∃ addr, r.other = .target addr
  relayed_eq : relayedIn tr = claimedIn tr

namespace RelayInv

variable {ctx : Context} {s s' : State} {tr es : List Event}

theorem frame (h : RelayInv s tr) (hes : relayedIn es = claimedIn es)
    (hd : s'.data.connecting = s.data.connecting) : RelayInv s' (tr ++ es) :=
  ⟨hd ▸ h.targets, by rw [relayedIn_append, claimedIn_append, h.relayed_eq, hes]⟩

theorem frame_quiet (h : RelayInv s tr) (hes : ∀ e ∈ es, e.ofStream = false)
    (hd : s'.data.connecting = s.data.connecting) : RelayInv s' (tr ++ es) :=
  h.frame (by rw [relayedIn_eq_nil hes, claimedIn_eq_nil hes]) hd

theorem data (h : RelayInv s tr) {a : DataAction} (hst : DataCase ctx s a s' es) :
    RelayInv s' (tr ++ es) := by
  cases hst with
  | @dialed i hs hello link target relay hi hdial hrelay =>
    refine ⟨?_, by simpa [relayedIn, claimedIn] using h.relayed_eq⟩
    intro r hr
    rcases List.mem_append.mp hr with hr | hr
    · exact h.targets r hr
    · rw [List.mem_singleton.mp hr, hrelay]
      exact ⟨target, rfl⟩
  | claimed hi hclaim hp hrelay hs₁ =>
    subst hrelay hs₁
    exact h.frame rfl rfl
  | connectFailed hi =>
    exact ⟨fun r hr => h.targets r (List.mem_of_mem_eraseIdx hr),
      by simpa [relayedIn, claimedIn] using h.relayed_eq⟩
  | @connected i relay s₁ hi hs₁ =>
    subst hs₁
    refine ⟨fun r hr => h.targets r (List.mem_of_mem_eraseIdx hr), ?_⟩
    obtain ⟨addr, haddr⟩ := h.targets relay (List.mem_of_getElem? hi)
    have hes : relayedIn [.relayStarted relay] = [] := by simp [relayedIn, haddr]
    rw [relayedIn_append, claimedIn_append, h.relayed_eq, hes]
    rfl
  | _ => exact h.frame rfl rfl

theorem step (h : RelayInv s tr) {a : Action} (hst : Server.step ctx s a = some (s', es)) :
    RelayInv s' (tr ++ es) := by
  cases step_cases hst with
  | tick hle => exact h.frame rfl rfl
  | listener hc => cases hc <;> first | exact h.frame rfl rfl | (subst_vars; exact h.frame rfl rfl)
  | cleanup hc => cases hc <;> (subst_vars; exact h.frame rfl rfl)
  | accept hc =>
    obtain ⟨-, hd, hes⟩ := hc.quiet
    exact h.frame_quiet hes (by rw [hd])
  | handshake hc =>
    obtain ⟨-, hd, hes⟩ := hc.quiet
    exact h.frame_quiet hes hd
  | control hc =>
    obtain ⟨-, hd, hes⟩ := hc.quiet
    exact h.frame_quiet hes (by rw [hd])
  | data hc => exact h.data hc

end RelayInv

/-! ## Linear use -/

variable {ctx : Context} {C : State → Action → Prop} {as : List Action} {s : State}
  {tr : List Event}

theorem streamInv_start {clock : Instant} {s₀ : State} (h : start ctx clock = some s₀) :
    StreamInv s₀ [] := by
  obtain ⟨-, -, -, hls, hpending, hnext, hacc, htimers, -⟩ := start_spec h
  have hbinding := reverseListeners_binding hls
  refine ⟨?_, ?_, ?_, ?_, ?_, ?_⟩
  · simp [hacc, acceptedIn]
  · simp [acceptedIn]
  · rw [hnext, hacc]
    rfl
  · have hheld : held s₀.reverse.listeners = [] := by
      refine List.filterMap_eq_nil_iff.mpr fun l hl => ?_
      rw [hbinding l hl]
      rfl
    rw [hheld, hpending]
    exact Linear.nil
  · intro l hl
    unfold ReverseListener.Owns
    rw [hbinding l hl]
    trivial
  · simp [htimers]

/-- The invariant over runs; `e.Own` holds of every event. -/
theorem streamInv_run (h : ServerRun ctx C as s tr) (hlt : (acceptedIn tr).length < 2 ^ 64) :
    StreamInv s tr ∧ ∀ e ∈ tr, e.Own (acceptedIn tr) := by
  revert hlt
  refine h.invariant (I := fun s tr => (acceptedIn tr).length < 2 ^ 64 →
    StreamInv s tr ∧ ∀ e ∈ tr, e.Own (acceptedIn tr))
    (fun _ _ hstart _ => ⟨streamInv_start hstart, by simp⟩) ?_
  intro s tr a s' es ih _ hst hlt
  have hle : (acceptedIn tr).length ≤ (acceptedIn (tr ++ es)).length := by
    rw [acceptedIn_append, List.length_append]
    omega
  obtain ⟨hinv, hown⟩ := ih (lt_of_le_of_lt hle hlt)
  obtain ⟨hinv', hown'⟩ := hinv.step hst hlt
  refine ⟨hinv', fun e he => ?_⟩
  rcases List.mem_append.mp he with he | he
  · exact (hown e he).mono (acceptedIn_append tr es ▸ List.subset_append_left _ _)
  · exact hown' e he

theorem relayInv_run (h : ServerRun ctx C as s tr) : RelayInv s tr := by
  refine h.invariant (I := RelayInv) ?_ fun _ _ _ _ _ hi _ hst => hi.step hst
  intro clock s₀ hstart
  obtain ⟨-, -, -, -, -, -, -, -, -, -, -, hdata⟩ := start_spec hstart
  exact ⟨by simp [hdata], rfl⟩

/-- Each accepted external connection is used linearly. -/
structure UsedLinearly (s : State) (tr : List Event) : Prop where
  /-- Stream ids are not reused. -/
  ids_nodup : ((acceptedIn tr).map Prod.fst).Nodup
  /-- An insertion finds its key vacant; a claim, a timer and a failed send each
      remove the connection that was accepted under their own stream id. -/
  own : ∀ e ∈ tr, e.Own (acceptedIn tr)
  /-- No connection leaves the pending map twice. -/
  departed_nodup : (departedIn tr).Nodup
  /-- Each is on its way into the map, in it, or has left. -/
  accounted : ∀ p ∈ acceptedIn tr,
    p ∈ held s.reverse.listeners ∨ s.reverse.pending p.1 = some p.2 ∨ p.2 ∈ departedIn tr
  /-- It is relayed only where it is claimed, hence at most once. -/
  relayed_claimed : relayedIn tr = claimedIn tr
  relayed_nodup : (relayedIn tr).Nodup
  /-- It is not relayed and dropped. -/
  relayed_not_dropped : ∀ conn ∈ relayedIn tr, conn ∉ droppedIn tr

theorem used_linearly (h : ServerRun ctx Free as s tr)
    (hlt : (acceptedIn tr).length < 2 ^ 64) : UsedLinearly s tr := by
  obtain ⟨hinv, hown⟩ := streamInv_run h hlt
  have hrelay := relayInv_run h
  have hnodup : (claimedIn tr ++ droppedIn tr).Nodup :=
    (departedIn_perm tr).nodup_iff.mp hinv.linear.left_nodup
  refine ⟨hinv.linear.keys, hown, hinv.linear.left_nodup, hinv.linear.cover, hrelay.relayed_eq,
    ?_, ?_⟩
  · rw [hrelay.relayed_eq]
    exact hnodup.of_append_left
  · rw [hrelay.relayed_eq]
    exact fun conn hc hd => List.disjoint_of_nodup_append hnodup hc hd

/-- Alice claims the connection to her link; the one to bob's link times out. -/
def claimAndTimeout : List Action :=
  bindAll ++
    [.listener 0 (.accept (.ok (.v4 ⟨203, 0, 113, 5⟩ 50000))), .listener 0 .insert,
      .listener 0 .send, .listener 1 (.accept (.ok (.v4 ⟨203, 0, 113, 6⟩ 50001))),
      .listener 1 .insert, .listener 1 .send] ++
    connect .data ⟨.v4 ⟨198, 51, 100, 6⟩ 40000, .holder aliceKey⟩ aliceKey 0 ++
    [.data (.hello 0 (.received ⟨"db", some 1⟩)), .tick cleanupTimeout, .cleanup 1, .cleanup 0]

theorem used_linearly_claimAndTimeout :
    ∃ s tr, ServerRun exampleContext Free claimAndTimeout s tr ∧
      ((acceptedIn tr).length = 2 ∧ (claimedIn tr).length = 1 ∧ (droppedIn tr).length = 1) ∧
      UsedLinearly s tr := by
  obtain ⟨s, tr, hrun, hlen⟩ : ∃ s tr, ServerRun exampleContext Free claimAndTimeout s tr ∧
      (acceptedIn tr).length = 2 ∧ (claimedIn tr).length = 1 ∧ (droppedIn tr).length = 1 :=
    exists_run 0 (by decide) (by decide)
  exact ⟨s, tr, hrun, hlen, used_linearly hrun (by rw [hlen.1]; decide)⟩

end Ghostport.Server
