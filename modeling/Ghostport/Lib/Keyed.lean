import Mathlib.Data.List.Nodup

/-!
# Keyed lists and references between them

A list whose elements have keys, and another whose elements refer to those keys.

* `upsert key old x l`: `x` takes the place of the elements that have its key or the key
  `old`, at the end of the list.
* `nodup_upsert`, `mem_keys_upsert`, `mem_keys_eraseIdx`: the keys after a change.
* `Resolved refs bs keys`: every reference of an element of `bs` is one of the keys.
* `Resolved.upsert_iff`, `Resolved.eraseIdx_iff`: exactly when a change of the keyed list keeps
  the references.
-/

namespace Ghostport.Lib

variable {α β κ : Type*}

/-- `x` in the place of the elements with its key or the key `old`. -/
def upsert [DecidableEq κ] (key : α → κ) (old : Option κ) (x : α) (l : List α) : List α :=
  l.filter (fun y => some (key y) ≠ old ∧ key y ≠ key x) ++ [x]

section Keys

variable {key : α → κ} {l : List α}

section

variable [DecidableEq κ] {old : Option κ} {x : α}

theorem mem_upsert {y : α} :
    y ∈ upsert key old x l ↔ y = x ∨ y ∈ l ∧ some (key y) ≠ old ∧ key y ≠ key x := by
  unfold upsert
  simp only [List.mem_append, List.mem_filter, decide_eq_true_eq, List.mem_singleton]
  exact or_comm

theorem mem_keys_upsert {k : κ} :
    k ∈ (upsert key old x l).map key ↔ k = key x ∨ k ∈ l.map key ∧ some k ≠ old := by
  simp only [List.mem_map, mem_upsert]
  constructor
  · rintro ⟨y, rfl | ⟨hy, hold, -⟩, rfl⟩
    · exact .inl rfl
    · exact .inr ⟨⟨y, hy, rfl⟩, hold⟩
  · rintro (rfl | ⟨⟨y, hy, rfl⟩, hold⟩)
    · exact ⟨x, .inl rfl, rfl⟩
    · by_cases hkey : key y = key x
      · exact ⟨x, .inl rfl, hkey.symm⟩
      · exact ⟨y, .inr ⟨hy, hold, hkey⟩, rfl⟩

/-- The element that is put in is the first with its key. -/
theorem getElem?_findIdx?_upsert :
    (upsert key old x l)[((upsert key old x l).findIdx? fun y => key y = key x).getD 0]? =
      some x := by
  unfold upsert
  have hnone : (l.filter fun y => some (key y) ≠ old ∧ key y ≠ key x).findIdx?
      (fun y => key y = key x) = none := by
    rw [List.findIdx?_eq_none_iff]
    intro y hy
    have hne := (List.mem_filter.mp hy).2
    simp only [decide_eq_true_eq] at hne
    exact decide_eq_false hne.2
  rw [List.findIdx?_append, hnone]
  simp

theorem nodup_upsert (h : (l.map key).Nodup) : ((upsert key old x l).map key).Nodup := by
  unfold upsert
  rw [List.map_append, List.nodup_append]
  refine ⟨h.sublist (List.filter_sublist.map key), by simp, ?_⟩
  intro k hk k' hk'
  obtain ⟨y, hy, rfl⟩ := List.mem_map.mp hk
  obtain rfl : k' = key x := by simpa using hk'
  have hne := (List.mem_filter.mp hy).2
  simp only [decide_eq_true_eq] at hne
  exact hne.2

/-- In the place of an element of the list. -/
theorem upsert_getElem {i : ℕ} {y : α} (hy : l[i]? = some y) (x : α) :
    upsert key (some (key y)) x l =
      (l.eraseIdx i).filter (fun z => key z ≠ key y ∧ key z ≠ key x) ++ [x] := by
  obtain ⟨hi, rfl⟩ := List.getElem?_eq_some_iff.mp hy
  have hcut : l = l.take i ++ l[i] :: l.drop (i + 1) := by
    rw [List.getElem_cons_drop, List.take_append_drop]
  rw [List.eraseIdx_eq_take_drop_succ]
  unfold upsert
  generalize l[i] = y at hcut ⊢
  generalize l.take i = front at hcut ⊢
  generalize l.drop (i + 1) = back at hcut ⊢
  subst hcut
  simp [List.filter_append]

end

theorem mem_keys_eraseIdx (h : (l.map key).Nodup) {i : ℕ} (hi : i < l.length) {k : κ} :
    k ∈ (l.eraseIdx i).map key ↔ k ∈ l.map key ∧ k ≠ key l[i] := by
  have hcut : l = l.take i ++ l[i] :: l.drop (i + 1) := by
    rw [List.getElem_cons_drop, List.take_append_drop]
  rw [List.eraseIdx_eq_take_drop_succ]
  generalize l[i] = x at hcut ⊢
  generalize l.take i = front at hcut ⊢
  generalize l.drop (i + 1) = back at hcut ⊢
  subst hcut
  simp only [List.map_append, List.map_cons, List.nodup_append, List.nodup_cons,
    List.mem_append, List.mem_cons] at h ⊢
  obtain ⟨-, ⟨hback, -⟩, hfront⟩ := h
  constructor
  · rintro (hk | hk)
    · exact ⟨.inl hk, hfront k hk _ (.inl rfl)⟩
    · exact ⟨.inr (.inr hk), fun heq => hback (heq ▸ hk)⟩
  · rintro ⟨hk | rfl | hk, hne⟩
    · exact .inl hk
    · exact absurd rfl hne
    · exact .inr hk

theorem nodup_eraseIdx (h : (l.map key).Nodup) (i : ℕ) : ((l.eraseIdx i).map key).Nodup :=
  h.sublist ((List.eraseIdx_sublist l i).map key)

end Keys

/-! ## References -/

/-- Every reference of an element is one of the keys. -/
def Resolved (refs : β → List κ) (bs : List β) (keys : List κ) : Prop :=
  ∀ b ∈ bs, ∀ k ∈ refs b, k ∈ keys

namespace Resolved

variable {key : α → κ} {refs : β → List κ} {bs : List β} {l : List α} {keys : List κ}

/-- A change of the keyed list keeps the references unless one is to the key `old`, and `old`
    is given up. -/
theorem upsert_iff [DecidableEq κ] (h : Resolved refs bs (l.map key)) {old : Option κ} {x : α} :
    Resolved refs bs ((upsert key old x l).map key) ↔
      ∀ b ∈ bs, ∀ k ∈ refs b, some k = old → k = key x := by
  simp only [Resolved, mem_keys_upsert]
  constructor
  · intro hres b hb k hk hold
    rcases hres b hb k hk with heq | ⟨-, hne⟩
    · exact heq
    · exact absurd hold hne
  · intro hall b hb k hk
    by_cases hold : some k = old
    · exact .inl (hall b hb k hk hold)
    · exact .inr ⟨h b hb k hk, hold⟩

/-- To take an element out keeps the references exactly if there is none to it. -/
theorem eraseIdx_iff (h : Resolved refs bs (l.map key)) (hnodup : (l.map key).Nodup) {i : ℕ}
    (hi : i < l.length) :
    Resolved refs bs ((l.eraseIdx i).map key) ↔ ∀ b ∈ bs, key l[i] ∉ refs b := by
  simp only [Resolved, mem_keys_eraseIdx hnodup hi]
  constructor
  · intro hres b hb hmem
    exact (hres b hb _ hmem).2 rfl
  · intro hall b hb k hk
    exact ⟨h b hb k hk, fun heq => hall b hb (heq ▸ hk)⟩

/-- A change of the list that refers. -/
theorem upsert_refs {γ : Type*} [DecidableEq γ] {name : β → γ} (h : Resolved refs bs keys)
    {old : Option γ} {x : β} (hx : ∀ k ∈ refs x, k ∈ keys) :
    Resolved refs (upsert name old x bs) keys := by
  intro b hb
  rcases mem_upsert.mp hb with rfl | ⟨hb, -⟩
  · exact hx
  · exact h b hb

theorem eraseIdx_refs (h : Resolved refs bs keys) (i : ℕ) : Resolved refs (bs.eraseIdx i) keys :=
  fun b hb => h b (List.mem_of_mem_eraseIdx hb)

end Resolved

end Ghostport.Lib
