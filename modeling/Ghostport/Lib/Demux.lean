import Mathlib.Data.List.Nodup
import Mathlib.Logic.Function.Basic
import Ghostport.Lib.Machine

/-!
# Demultiplexing

A loop receives datagrams and hands each one to the task of its source address, over a
bounded queue that drops what does not fit. For an address without an entry it starts a task
and inserts the entry, in two steps. A task takes from its queue, closes it, and later removes
the entry of its address. The steps of the loop and of the tasks interleave in any order.

Results:
* `Inv.step`, `inv_run`: every task has the entry of its address, and its queue holds
  datagrams of this address that it has not taken.
* `addrs_nodup`: one task for each address.
* `Inv.removed`, `Inv.taken`: a task removes its own entry, and takes datagrams that
  arrived from its address after it was started, in order.
-/

namespace Ghostport.Lib.Demux

variable {α π : Type*}

/-- A task; `serial` numbers the tasks. -/
structure Task (α π : Type*) where
  serial : ℕ
  addr : α
  queue : List π
  closed : Bool

/-- `looked` is the address that the loop has found no entry for. -/
structure State (α π : Type*) where
  entries : α → Option ℕ
  looked : Option α
  nextSerial : ℕ
  tasks : List (Task α π)

def State.init : State α π :=
  { entries := fun _ => none, looked := none, nextSerial := 0, tasks := [] }

inductive Action (α π : Type*) where
  | arrive (addr : α) (datagram : π)
  /-- The loop starts no task. -/
  | skip
  | insert
  | take (i : ℕ)
  | close (i : ℕ)
  | remove (i : ℕ)

inductive Event (α π : Type*) where
  | arrived (addr : α) (datagram : π)
  | started (serial : ℕ) (addr : α)
  | took (serial : ℕ) (datagram : π)
  /-- `old` is the entry that is removed. -/
  | removed (serial : ℕ) (old : Option ℕ)

/-- What does not fit is dropped. -/
def Task.push (capacity : ℕ) (t : Task α π) (datagram : π) : Task α π :=
  if t.closed = false ∧ t.queue.length < capacity then { t with queue := t.queue ++ [datagram] }
  else t

def route (capacity : ℕ) (tasks : List (Task α π)) (serial : ℕ) (datagram : π) :
    List (Task α π) :=
  tasks.map fun t => if t.serial = serial then t.push capacity datagram else t

def step [DecidableEq α] (capacity : ℕ) (s : State α π) :
    Action α π → Option (State α π × List (Event α π))
  | .arrive addr datagram =>
    match s.looked, s.entries addr with
    | some _, _ => none
    | none, some serial =>
      some ({ s with tasks := route capacity s.tasks serial datagram }, [.arrived addr datagram])
    | none, none => some ({ s with looked := some addr }, [.arrived addr datagram])
  | .skip => some ({ s with looked := none }, [])
  | .insert =>
    match s.looked with
    | none => none
    | some addr =>
      some ({
        entries := Function.update s.entries addr (some s.nextSerial)
        looked := none
        nextSerial := s.nextSerial + 1
        tasks := s.tasks ++ [⟨s.nextSerial, addr, [], false⟩] }, [.started s.nextSerial addr])
  | .take i =>
    match s.tasks[i]? with
    | some ⟨serial, addr, datagram :: rest, false⟩ =>
      some ({ s with tasks := s.tasks.set i ⟨serial, addr, rest, false⟩ }, [.took serial datagram])
    | _ => none
  | .close i =>
    match s.tasks[i]? with
    | none => none
    | some t => some ({ s with tasks := s.tasks.set i ⟨t.serial, t.addr, [], true⟩ }, [])
  | .remove i =>
    match s.tasks[i]? with
    | some ⟨serial, addr, _, true⟩ =>
      some ({ s with
        entries := Function.update s.entries addr none
        tasks := s.tasks.eraseIdx i }, [.removed serial (s.entries addr)])
    | _ => none

/-! ## Steps of one task -/

/-- A task goes on, takes a datagram, or closes its queue; and it may close it as it takes. -/
inductive TaskStep (t : Task α π) : Task α π → List (Event α π) → Prop
  | quiet : t.closed = false → TaskStep t ⟨t.serial, t.addr, t.queue, false⟩ []
  | took {datagram : π} {rest : List π} : t.closed = false → t.queue = datagram :: rest →
    TaskStep t ⟨t.serial, t.addr, rest, false⟩ [.took t.serial datagram]
  | tookLast {datagram : π} {rest : List π} : t.closed = false → t.queue = datagram :: rest →
    TaskStep t ⟨t.serial, t.addr, [], true⟩ [.took t.serial datagram]
  | closed : TaskStep t ⟨t.serial, t.addr, [], true⟩ []

theorem exec_task [DecidableEq α] {s : State α π} {capacity i : ℕ} {t t' : Task α π}
    {es : List (Event α π)} (hi : s.tasks[i]? = some t) (h : TaskStep t t' es) :
    ∃ bs, exec (step capacity) s bs = some ({ s with tasks := s.tasks.set i t' }, es) := by
  obtain ⟨serial, addr, queue, closed⟩ := t
  cases h with
  | quiet hopen =>
    obtain rfl : closed = false := hopen
    obtain ⟨hlt, hget⟩ := List.getElem?_eq_some_iff.mp hi
    refine ⟨[], ?_⟩
    rw [← hget, List.set_getElem_self]
    rfl
  | took hopen hqueue =>
    obtain rfl : closed = false := hopen
    obtain rfl : queue = _ := hqueue
    exact ⟨[.take i], by simp only [exec, step, hi]; rfl⟩
  | @tookLast datagram rest hopen hqueue =>
    obtain rfl : closed = false := hopen
    obtain rfl : queue = _ := hqueue
    have hset : (s.tasks.set i ⟨serial, addr, rest, false⟩)[i]? =
        some ⟨serial, addr, rest, false⟩ := by
      rw [List.getElem?_set_self', hi]
      rfl
    refine ⟨[.take i, .close i], ?_⟩
    simp only [exec, step, hi, hset, List.set_set]
    rfl
  | closed => exact ⟨[.close i], by simp only [exec, step, hi]; rfl⟩

/-! ## The datagrams of a task -/

section

variable [DecidableEq α]

/-- The datagrams that have arrived from `addr`. -/
def arrivedFrom (addr : α) (tr : List (Event α π)) : List π :=
  tr.filterMap fun
    | .arrived addr' datagram => if addr' = addr then some datagram else none
    | _ => none

/-- Those that have arrived from `addr` after the task `serial` was started. -/
def laterIn (serial : ℕ) (addr : α) : List (Event α π) → List π
  | [] => []
  | .started serial' _ :: tr =>
    if serial' = serial then arrivedFrom addr tr else laterIn serial addr tr
  | _ :: tr => laterIn serial addr tr

/-- The datagrams that the task `serial` has taken. -/
def tookIn (serial : ℕ) (tr : List (Event α π)) : List π :=
  tr.filterMap fun
    | .took serial' datagram => if serial' = serial then some datagram else none
    | _ => none

theorem arrivedFrom_append (addr : α) (tr es : List (Event α π)) :
    arrivedFrom addr (tr ++ es) = arrivedFrom addr tr ++ arrivedFrom addr es :=
  List.filterMap_append ..

omit [DecidableEq α] in
theorem tookIn_append (serial : ℕ) (tr es : List (Event α π)) :
    tookIn serial (tr ++ es) = tookIn serial tr ++ tookIn serial es :=
  List.filterMap_append ..

omit [DecidableEq α] in
theorem mem_of_tookIn {serial : ℕ} {datagram : π} {tr : List (Event α π)}
    (h : datagram ∈ tookIn serial tr) : .took serial datagram ∈ tr := by
  obtain ⟨e, he, heq⟩ := List.mem_filterMap.mp h
  split at heq
  · split at heq
    · rename_i hserial
      cases heq
      exact hserial ▸ he
    · cases heq
  · cases heq

theorem mem_of_arrivedFrom {addr : α} {datagram : π} {tr : List (Event α π)}
    (h : datagram ∈ arrivedFrom addr tr) : .arrived addr datagram ∈ tr := by
  obtain ⟨e, he, heq⟩ := List.mem_filterMap.mp h
  split at heq
  · split at heq
    · rename_i haddr
      cases heq
      exact haddr ▸ he
    · cases heq
  · cases heq

theorem mem_of_laterIn {serial : ℕ} {addr : α} {datagram : π} {tr : List (Event α π)}
    (h : datagram ∈ laterIn serial addr tr) : .arrived addr datagram ∈ tr := by
  induction tr with
  | nil => cases h
  | cons e tr ih =>
    apply List.mem_cons_of_mem
    cases e with
    | started serial' addr' =>
      unfold laterIn at h
      split at h
      · exact mem_of_arrivedFrom h
      · exact ih h
    | arrived _ _ | took _ _ | removed _ _ => exact ih h

omit [DecidableEq α] in
theorem tookIn_append_of_not_mem {serial : ℕ} {tr es : List (Event α π)}
    (h : ∀ datagram, .took serial datagram ∉ es) : tookIn serial (tr ++ es) = tookIn serial tr := by
  have hes : tookIn serial es = [] :=
    List.eq_nil_iff_forall_not_mem.mpr fun datagram hm => h datagram (mem_of_tookIn hm)
  rw [tookIn_append, hes, List.append_nil]

theorem not_mem_eraseIdx {β : Type*} {l : List β} (hl : l.Nodup) {i : ℕ} {x : β}
    (hx : l[i]? = some x) : x ∉ l.eraseIdx i := by
  obtain ⟨hi, rfl⟩ := List.getElem?_eq_some_iff.mp hx
  rw [List.mem_eraseIdx_iff_getElem]
  rintro ⟨j, hj, hji, heq⟩
  exact hji ((List.Nodup.getElem_inj_iff hl).mp heq)

/-- What is in a list with one element replaced, where `f` tells the elements apart. -/
theorem mem_set_of_nodup {β γ : Type*} {f : β → γ} {l : List β} (hl : (l.map f).Nodup) {i : ℕ}
    {x x' y : β} (hx : l[i]? = some x) (hy : y ∈ l.set i x') : y = x' ∨ y ∈ l ∧ f y ≠ f x := by
  obtain ⟨j, hj⟩ := List.mem_iff_getElem?.mp hy
  by_cases hij : i = j
  · subst hij
    rw [List.getElem?_set_self', hx] at hj
    exact .inl (by simpa using hj.symm)
  · rw [List.getElem?_set_ne hij] at hj
    refine .inr ⟨List.mem_of_getElem? hj, fun heq => hij ?_⟩
    have hmap : (l.map f)[j]? = (l.map f)[i]? := by
      rw [List.getElem?_map, List.getElem?_map, hj, hx, Option.map_some, Option.map_some, heq]
    have hlt : j < (l.map f).length := by
      rw [List.length_map]
      exact (List.getElem?_eq_some_iff.mp hj).1
    exact ((List.getElem?_inj hlt hl).mp hmap).symm

theorem mem_eraseIdx_of_ne {β : Type*} {l : List β} {i : ℕ} {x y : β} (hx : l[i]? = some x)
    (hy : y ∈ l) (hne : y ≠ x) : y ∈ l.eraseIdx i := by
  obtain ⟨j, hj⟩ := List.mem_iff_getElem?.mp hy
  rw [List.mem_eraseIdx_iff_getElem?]
  refine ⟨j, fun hji => hne ?_, hj⟩
  rw [hji, hx] at hj
  exact (Option.some.inj hj).symm

theorem laterIn_append_of_mem {serial : ℕ} {addr addr' : α} {tr es : List (Event α π)}
    (h : .started serial addr' ∈ tr) :
    laterIn serial addr (tr ++ es) = laterIn serial addr tr ++ arrivedFrom addr es := by
  induction tr with
  | nil => cases h
  | cons e tr ih =>
    cases e with
    | started serial' addr'' =>
      simp only [List.cons_append, laterIn]
      by_cases hs : serial' = serial
      · rw [if_pos hs, if_pos hs, arrivedFrom_append]
      · rw [if_neg hs, if_neg hs]
        refine ih ((List.mem_cons.mp h).resolve_left ?_)
        rintro ⟨⟩
        exact hs rfl
    | arrived _ _ | took _ _ | removed _ _ =>
      exact ih ((List.mem_cons.mp h).resolve_left (by simp))

/-! ## The invariant -/

structure Inv (s : State α π) (tr : List (Event α π)) : Prop where
  nodup : (s.tasks.map Task.serial).Nodup
  below : ∀ serial addr, .started serial addr ∈ tr → serial < s.nextSerial
  tookBelow : ∀ serial datagram, .took serial datagram ∈ tr → serial < s.nextSerial
  started : ∀ t ∈ s.tasks, .started t.serial t.addr ∈ tr
  unique : ∀ serial addr addr', .started serial addr ∈ tr → .started serial addr' ∈ tr →
    addr = addr'
  /-- Tasks have their entries, and entries their tasks. -/
  entry : ∀ t ∈ s.tasks, s.entries t.addr = some t.serial
  tasked : ∀ addr serial, s.entries addr = some serial →
    ∃ t ∈ s.tasks, t.serial = serial ∧ t.addr = addr
  looked : ∀ addr, s.looked = some addr → s.entries addr = none
  removed : ∀ serial old, .removed serial old ∈ tr → old = some serial
  queue : ∀ t ∈ s.tasks, (tookIn t.serial tr ++ t.queue).Sublist (laterIn t.serial t.addr tr)
  taken : ∀ serial addr, .started serial addr ∈ tr →
    (tookIn serial tr).Sublist (laterIn serial addr tr)

theorem inv_init : Inv (State.init : State α π) [] where
  nodup := List.nodup_nil
  below _ _ h := by cases h
  tookBelow _ _ h := by cases h
  started _ h := by cases h
  unique _ _ _ h := by cases h
  entry _ h := by cases h
  tasked _ _ h := by cases h
  looked _ h := by cases h
  removed _ _ h := by cases h
  queue _ h := by cases h
  taken _ _ h := by cases h

/-- What names a task. -/
def Task.key (t : Task α π) : ℕ × α := (t.serial, t.addr)

namespace Inv

variable {s s' : State α π} {tr es : List (Event α π)} {capacity : ℕ}

omit [DecidableEq α] in
theorem key_mem (hkeys : s'.tasks.map Task.key = s.tasks.map Task.key) {t : Task α π}
    (ht : t ∈ s'.tasks) : ∃ t₀ ∈ s.tasks, t₀.serial = t.serial ∧ t₀.addr = t.addr := by
  have hmem : t.key ∈ s.tasks.map Task.key := by
    rw [← hkeys]
    exact List.mem_map_of_mem ht
  obtain ⟨t₀, ht₀, heq⟩ := List.mem_map.mp hmem
  exact ⟨t₀, ht₀, congrArg Prod.fst heq, congrArg Prod.snd heq⟩

theorem serial_inj (h : Inv s tr) {t t' : Task α π} (ht : t ∈ s.tasks) (ht' : t' ∈ s.tasks)
    (heq : t.serial = t'.serial) : t = t' :=
  List.inj_on_of_nodup_map h.nodup ht ht' heq

theorem addr_inj (h : Inv s tr) {t t' : Task α π} (ht : t ∈ s.tasks) (ht' : t' ∈ s.tasks)
    (heq : t.addr = t'.addr) : t = t' := by
  have hentry := h.entry t ht
  rw [heq, h.entry t' ht'] at hentry
  exact h.serial_inj ht ht' (Option.some.inj hentry).symm

/-- What a task has taken stays in order while datagrams arrive. -/
theorem later_mono {serial : ℕ} {addr : α} {taken : List π} (hstarted : .started serial addr ∈ tr)
    (htaken : taken.Sublist (laterIn serial addr tr)) :
    taken.Sublist (laterIn serial addr (tr ++ es)) := by
  rw [laterIn_append_of_mem hstarted]
  exact htaken.trans (List.sublist_append_left _ _)

/-- A step that starts and removes no task. -/
theorem update (h : Inv s tr) (hkeys : s'.tasks.map Task.key = s.tasks.map Task.key)
    (hentries : s'.entries = s.entries) (hnext : s'.nextSerial = s.nextSerial)
    (hlooked : ∀ addr, s'.looked = some addr → s.entries addr = none)
    (hstarted : ∀ serial addr, .started serial addr ∉ es)
    (hremoved : ∀ serial old, .removed serial old ∉ es)
    (htook : ∀ serial datagram, .took serial datagram ∈ es → ∃ t ∈ s'.tasks, t.serial = serial)
    (hqueue : ∀ t ∈ s'.tasks,
      (tookIn t.serial (tr ++ es) ++ t.queue).Sublist (laterIn t.serial t.addr (tr ++ es))) :
    Inv s' (tr ++ es) := by
  have old : ∀ {serial addr}, .started serial addr ∈ tr ++ es → .started serial addr ∈ tr := by
    intro serial addr hm
    exact (List.mem_append.mp hm).resolve_right (hstarted serial addr)
  have started : ∀ t ∈ s'.tasks, .started t.serial t.addr ∈ tr := by
    intro t ht
    obtain ⟨t₀, ht₀, hserial, haddr⟩ := key_mem hkeys ht
    rw [← hserial, ← haddr]
    exact h.started t₀ ht₀
  refine ⟨?_, fun serial addr hm => ?_, fun serial datagram hm => ?_, fun t ht => ?_,
    fun serial addr addr' hm hm' => h.unique serial addr addr' (old hm) (old hm'), fun t ht => ?_,
    fun addr serial he => ?_, fun addr hl => ?_, fun serial old' hm => ?_, hqueue,
    fun serial addr hm => ?_⟩
  · have hserials := congrArg (List.map Prod.fst) hkeys
    rw [List.map_map, List.map_map] at hserials
    exact (congrArg List.Nodup hserials).mpr h.nodup
  · rw [hnext]
    exact h.below serial addr (old hm)
  · rw [hnext]
    rcases List.mem_append.mp hm with hm | hm
    · exact h.tookBelow serial datagram hm
    · obtain ⟨t, ht, rfl⟩ := htook serial datagram hm
      exact h.below _ _ (started t ht)
  · exact List.mem_append_left _ (started t ht)
  · obtain ⟨t₀, ht₀, hserial, haddr⟩ := key_mem hkeys ht
    rw [hentries, ← hserial, ← haddr]
    exact h.entry t₀ ht₀
  · rw [hentries] at he
    obtain ⟨t, ht, rfl, rfl⟩ := h.tasked addr serial he
    obtain ⟨t', ht', hserial, haddr⟩ := key_mem hkeys.symm ht
    exact ⟨t', ht', hserial, haddr⟩
  · rw [hentries]
    exact hlooked addr hl
  · exact h.removed serial old' ((List.mem_append.mp hm).resolve_right (hremoved serial old'))
  · by_cases hes : tookIn serial es = []
    · rw [tookIn_append, hes, List.append_nil]
      exact later_mono (old hm) (h.taken serial addr (old hm))
    · -- the task that takes is one that is there
      obtain ⟨datagram, hdatagram⟩ := List.exists_mem_of_ne_nil _ hes
      obtain ⟨t, ht, rfl⟩ := htook serial datagram (mem_of_tookIn hdatagram)
      obtain rfl := h.unique _ _ _ (started t ht) (old hm)
      exact (List.sublist_append_left _ _).trans (hqueue t ht)

omit [DecidableEq α] in
/-- One task changes its queue and whether it is closed. -/
theorem key_set {i : ℕ} {t t' : Task α π} (ht : s.tasks[i]? = some t) (hkey : t'.key = t.key) :
    (s.tasks.set i t').map Task.key = s.tasks.map Task.key := by
  refine List.ext_getElem? fun j => ?_
  rw [List.getElem?_map, List.getElem?_map]
  by_cases hij : i = j
  · subst hij
    rw [List.getElem?_set_self', ht]
    simp [hkey]
  · rw [List.getElem?_set_ne hij]

/-- A step that changes the task at `i`, and closes it or takes from its queue. -/
theorem set_queue (h : Inv s tr) {i : ℕ} {t t' : Task α π} (ht : s.tasks[i]? = some t)
    (hkey : t'.key = t.key) (hes : ∀ serial, serial ≠ t.serial → tookIn serial es = [])
    (harrived : ∀ addr, arrivedFrom addr es = [])
    (hqueue : (tookIn t.serial es ++ t'.queue).Sublist t.queue) :
    ∀ x ∈ s.tasks.set i t',
      (tookIn x.serial (tr ++ es) ++ x.queue).Sublist (laterIn x.serial x.addr (tr ++ es)) := by
  have hmem : t ∈ s.tasks := List.mem_of_getElem? ht
  have hserial : t'.serial = t.serial := congrArg Prod.fst hkey
  have haddr : t'.addr = t.addr := congrArg Prod.snd hkey
  intro x hx
  rcases mem_set_of_nodup h.nodup ht hx with rfl | ⟨hxmem, hne⟩
  · rw [hserial, haddr, tookIn_append, laterIn_append_of_mem (h.started t hmem), harrived,
      List.append_nil, List.append_assoc]
    exact (hqueue.append_left _).trans (h.queue t hmem)
  · rw [tookIn_append, hes _ hne, List.append_nil, laterIn_append_of_mem (h.started x hxmem),
      harrived, List.append_nil]
    exact h.queue x hxmem

omit [DecidableEq α] in
theorem push_sublist {t : Task α π} {datagram : π} :
    (t.push capacity datagram).key = t.key ∧
      (t.push capacity datagram).queue.Sublist (t.queue ++ [datagram]) := by
  unfold Task.push
  split
  · exact ⟨rfl, List.Sublist.refl _⟩
  · exact ⟨rfl, List.sublist_append_left _ _⟩

/-- A datagram is handed to the task of its address. -/
theorem routed (h : Inv s tr) {addr : α} {serial : ℕ} {datagram : π}
    (hentry : s.entries addr = some serial) :
    Inv { s with tasks := route capacity s.tasks serial datagram }
      (tr ++ [.arrived addr datagram]) := by
  refine h.update ?_ rfl rfl (fun addr' hl => h.looked addr' hl) (by simp) (by simp) (by simp) ?_
  · rw [route, List.map_map]
    refine List.map_congr_left fun t _ => ?_
    simp only [Function.comp_apply]
    split
    · exact push_sublist.1
    · rfl
  · intro x hx
    obtain ⟨t, ht, rfl⟩ := List.mem_map.mp hx
    have hold := h.queue t ht
    by_cases hserial : t.serial = serial
    · -- the entry of the address is that of the task
      obtain ⟨t', ht', hserial', haddr⟩ := h.tasked addr serial hentry
      obtain rfl := h.serial_inj ht ht' (hserial.trans hserial'.symm)
      have hkey := @push_sublist _ _ capacity t datagram
      have hs : (t.push capacity datagram).serial = t.serial := congrArg Prod.fst hkey.1
      have ha : (t.push capacity datagram).addr = t.addr := congrArg Prod.snd hkey.1
      rw [if_pos hserial, hs, ha, tookIn_append, laterIn_append_of_mem (h.started t ht)]
      have harrived : arrivedFrom t.addr [Event.arrived addr datagram] = [datagram] := by
        simp [arrivedFrom, haddr]
      rw [harrived]
      refine List.Sublist.trans ?_ (hold.append_right [datagram])
      rw [List.append_assoc]
      simpa [tookIn] using hkey.2
    · rw [if_neg hserial, tookIn_append]
      simpa [tookIn] using later_mono (h.started t ht) hold

/-- The next number belongs to no task. -/
theorem fresh (h : Inv s tr) (addr : α) : .started s.nextSerial addr ∉ tr :=
  fun hm => absurd (h.below _ _ hm) (Nat.lt_irrefl _)

theorem tookIn_fresh (h : Inv s tr) : tookIn s.nextSerial tr = [] := by
  refine List.eq_nil_iff_forall_not_mem.mpr fun datagram hm => ?_
  exact absurd (h.tookBelow _ _ (mem_of_tookIn hm)) (Nat.lt_irrefl _)

/-- The loop starts a task for an address without an entry. -/
theorem inserted (h : Inv s tr) {addr : α} (hlooked : s.looked = some addr) :
    Inv {
      entries := Function.update s.entries addr (some s.nextSerial)
      looked := none
      nextSerial := s.nextSerial + 1
      tasks := s.tasks ++ [⟨s.nextSerial, addr, [], false⟩] }
      (tr ++ [.started s.nextSerial addr]) := by
  have hnone : s.entries addr = none := h.looked addr hlooked
  have haddr : ∀ t ∈ s.tasks, t.addr ≠ addr := by
    intro t ht heq
    have hentry := h.entry t ht
    rw [heq, hnone] at hentry
    cases hentry
  have hstarted : ∀ serial addr', .started serial addr' ∈ tr ++ [.started s.nextSerial addr] →
      .started serial addr' ∈ tr ∨ serial = s.nextSerial ∧ addr' = addr := by
    intro serial addr' hm
    simpa using hm
  have htook : ∀ serial, tookIn serial (tr ++ [Event.started s.nextSerial addr]) =
      tookIn serial tr := fun serial => tookIn_append_of_not_mem (by simp)
  constructor
  case nodup =>
    rw [List.map_append, List.nodup_append]
    refine ⟨h.nodup, List.nodup_singleton _, fun serial hm serial' hm' heq => ?_⟩
    obtain ⟨t, ht, rfl⟩ := List.mem_map.mp hm
    have hnext : t.serial = s.nextSerial := heq.trans (List.mem_singleton.mp hm')
    exact h.fresh t.addr (hnext ▸ h.started t ht)
  case below =>
    intro serial addr' hm
    rcases hstarted serial addr' hm with hm | ⟨rfl, rfl⟩
    · exact Nat.lt_succ_of_lt (h.below serial addr' hm)
    · exact Nat.lt_succ_self _
  case tookBelow =>
    intro serial datagram hm
    refine Nat.lt_succ_of_lt (h.tookBelow serial datagram ?_)
    simpa using hm
  case started =>
    intro t ht
    rcases List.mem_append.mp ht with ht | ht
    · exact List.mem_append_left _ (h.started t ht)
    · rw [List.mem_singleton.mp ht]
      exact List.mem_append_right _ (List.mem_singleton_self _)
  case unique =>
    intro serial addr₁ addr₂ hm₁ hm₂
    rcases hstarted serial addr₁ hm₁ with hold₁ | ⟨hserial₁, haddr₁⟩
    · rcases hstarted serial addr₂ hm₂ with hold₂ | ⟨rfl, -⟩
      · exact h.unique serial addr₁ addr₂ hold₁ hold₂
      · exact absurd hold₁ (h.fresh addr₁)
    · rcases hstarted serial addr₂ hm₂ with hold₂ | ⟨-, haddr₂⟩
      · exact absurd (hserial₁ ▸ hold₂) (h.fresh addr₂)
      · exact haddr₁.trans haddr₂.symm
  case entry =>
    intro t ht
    show Function.update s.entries addr (some s.nextSerial) t.addr = some t.serial
    rcases List.mem_append.mp ht with ht | ht
    · rw [Function.update_of_ne (haddr t ht)]
      exact h.entry t ht
    · rw [List.mem_singleton.mp ht]
      exact Function.update_self ..
  case tasked =>
    intro addr' serial he
    change Function.update s.entries addr (some s.nextSerial) addr' = some serial at he
    by_cases heq : addr' = addr
    · subst heq
      rw [Function.update_self] at he
      exact ⟨_, List.mem_append_right _ (List.mem_singleton_self _), Option.some.inj he, rfl⟩
    · rw [Function.update_of_ne heq] at he
      obtain ⟨t, ht, hkey⟩ := h.tasked addr' serial he
      exact ⟨t, List.mem_append_left _ ht, hkey⟩
  case looked =>
    intro addr' hl
    cases hl
  case removed =>
    intro serial old hm
    refine h.removed serial old ?_
    simpa using hm
  case queue =>
    intro t ht
    rw [htook]
    rcases List.mem_append.mp ht with ht | ht
    · exact later_mono (h.started t ht) (h.queue t ht)
    · rw [List.mem_singleton.mp ht, h.tookIn_fresh]
      exact List.nil_sublist _
  case taken =>
    intro serial addr' hm
    rw [htook]
    rcases hstarted serial addr' hm with hm | ⟨rfl, rfl⟩
    · exact later_mono hm (h.taken serial addr' hm)
    · rw [h.tookIn_fresh]
      exact List.nil_sublist _

/-- A task that has ended removes the entry of its address. -/
theorem erased (h : Inv s tr) {i : ℕ} {t : Task α π} (ht : s.tasks[i]? = some t) :
    Inv { s with
      entries := Function.update s.entries t.addr none
      tasks := s.tasks.eraseIdx i } (tr ++ [.removed t.serial (s.entries t.addr)]) := by
  have hmem : t ∈ s.tasks := List.mem_of_getElem? ht
  have hother : ∀ x ∈ s.tasks.eraseIdx i, x ∈ s.tasks ∧ x.addr ≠ t.addr := by
    intro x hx
    have hxmem := List.mem_of_mem_eraseIdx hx
    refine ⟨hxmem, fun heq => ?_⟩
    obtain rfl := h.addr_inj hxmem hmem heq
    exact not_mem_eraseIdx (List.Nodup.of_map _ h.nodup) ht hx
  have hstarted : ∀ serial addr,
      .started serial addr ∈ tr ++ [Event.removed t.serial (s.entries t.addr)] →
        .started serial addr ∈ tr := by
    intro serial addr hm
    simpa using hm
  have htook : ∀ serial, tookIn serial (tr ++ [Event.removed t.serial (s.entries t.addr)]) =
      tookIn serial tr := fun serial => tookIn_append_of_not_mem (by simp)
  constructor
  case nodup => exact h.nodup.sublist ((List.eraseIdx_sublist ..).map _)
  case below => exact fun serial addr hm => h.below serial addr (hstarted serial addr hm)
  case tookBelow =>
    intro serial datagram hm
    refine h.tookBelow serial datagram ?_
    simpa using hm
  case started => exact fun x hx => List.mem_append_left _ (h.started x (hother x hx).1)
  case unique =>
    intro serial addr addr' hm hm'
    exact h.unique serial addr addr' (hstarted serial addr hm) (hstarted serial addr' hm')
  case entry =>
    intro x hx
    show Function.update s.entries t.addr none x.addr = some x.serial
    rw [Function.update_of_ne (hother x hx).2]
    exact h.entry x (hother x hx).1
  case tasked =>
    intro addr serial he
    change Function.update s.entries t.addr none addr = some serial at he
    by_cases heq : addr = t.addr
    · rw [heq, Function.update_self] at he
      cases he
    · rw [Function.update_of_ne heq] at he
      obtain ⟨x, hx, hserial, rfl⟩ := h.tasked addr serial he
      refine ⟨x, mem_eraseIdx_of_ne ht hx fun hxt => heq (congrArg Task.addr hxt), hserial, rfl⟩
  case looked =>
    intro addr hl
    show Function.update s.entries t.addr none addr = none
    by_cases heq : addr = t.addr
    · rw [heq]
      exact Function.update_self ..
    · rw [Function.update_of_ne heq]
      exact h.looked addr hl
  case removed =>
    intro serial old hm
    rcases List.mem_append.mp hm with hm | hm
    · exact h.removed serial old hm
    · -- the entry is the task's own
      cases List.mem_singleton.mp hm
      exact h.entry t hmem
  case queue =>
    intro x hx
    rw [htook]
    exact later_mono (h.started x (hother x hx).1) (h.queue x (hother x hx).1)
  case taken =>
    intro serial addr hm
    rw [htook]
    exact later_mono (hstarted serial addr hm) (h.taken serial addr (hstarted serial addr hm))

theorem step (h : Inv s tr) {a : Action α π}
    (hst : Demux.step capacity s a = some (s', es)) : Inv s' (tr ++ es) := by
  cases a with
  | arrive addr datagram =>
    simp only [Demux.step] at hst
    split at hst
    · cases hst
    · rename_i serial _ hentry
      cases hst
      exact h.routed hentry
    · rename_i _ hentry
      cases hst
      refine h.update rfl rfl rfl ?_ (by simp) (by simp) (by simp) fun t ht => ?_
      · intro addr' hl
        cases hl
        exact hentry
      · rw [tookIn_append]
        simpa [tookIn] using later_mono (h.started t ht) (h.queue t ht)
  | skip =>
    cases hst
    refine h.update rfl rfl rfl (by simp) (by simp) (by simp) (by simp) fun t ht => ?_
    rw [List.append_nil]
    exact h.queue t ht
  | insert =>
    simp only [Demux.step] at hst
    split at hst
    · cases hst
    · rename_i addr hlooked
      cases hst
      exact h.inserted hlooked
  | take i =>
    simp only [Demux.step] at hst
    split at hst
    · rename_i serial addr datagram rest hi
      cases hst
      refine h.update (key_set hi rfl) rfl rfl h.looked (by simp) (by simp) ?_ ?_
      · intro serial' datagram' hm
        cases List.mem_singleton.mp hm
        exact ⟨_, List.mem_set (List.getElem?_eq_some_iff.mp hi).1 _, rfl⟩
      · refine h.set_queue hi rfl (fun serial' hne => ?_) (fun _ => rfl) ?_
        · simp [tookIn, hne.symm]
        · simp [tookIn]
    · cases hst
  | close i =>
    simp only [Demux.step] at hst
    split at hst
    · cases hst
    · rename_i t hi
      cases hst
      refine h.update (key_set hi rfl) rfl rfl h.looked (by simp) (by simp) (by simp) ?_
      exact h.set_queue hi rfl (fun _ _ => rfl) (fun _ => rfl) (List.nil_sublist _)
  | remove i =>
    simp only [Demux.step] at hst
    split at hst
    · rename_i serial addr queue hi
      cases hst
      exact h.erased hi
    · cases hst

end Inv

theorem inv_run {capacity : ℕ} {C : State α π → Action α π → Prop} {as : List (Action α π)}
    {s : State α π} {tr : List (Event α π)} (h : Run (step capacity) C State.init as s tr) :
    Inv s tr :=
  h.invariant (I := Inv) inv_init fun _ _ _ _ _ hi _ hst => hi.step hst

/-- One task for each address. -/
theorem Inv.addrs_nodup {s : State α π} {tr : List (Event α π)} (h : Inv s tr) :
    (s.tasks.map Task.addr).Nodup :=
  List.Nodup.map_on (fun _ ht _ ht' heq => h.addr_inj ht ht' heq) (List.Nodup.of_map _ h.nodup)

end

end Ghostport.Lib.Demux
