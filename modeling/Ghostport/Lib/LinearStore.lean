import Mathlib.Data.List.Nodup
import Mathlib.Data.List.Perm.Basic
import Mathlib.Logic.Function.Basic

/-!
# Stores whose values are used once

Values are issued under keys. A value that was issued is held by its issuer, then
put into a store under its key, and leaves the store once.

* `Linear issued held stored left`: no key or value is issued twice, and every
  value issued is in exactly one place.
* `Linear.issue`, `Linear.insert`, `Linear.remove`: the three operations keep it.
* `Linear.vacant`: an insertion never overwrites.
-/

namespace Ghostport.Lib

variable {ι κ : Type*}

/-- `issued` lists the values issued with their keys, `held` those that are not
    stored yet, `stored` is the store, and `left` lists the values that left it. -/
structure Linear (issued held : List (ι × κ)) (stored : ι → Option κ) (left : List κ) :
    Prop where
  keys : (issued.map Prod.fst).Nodup
  values : (issued.map Prod.snd).Nodup
  held_nodup : held.Nodup
  held_issued : ∀ p ∈ held, p ∈ issued
  held_left : ∀ p ∈ held, p.2 ∉ left
  stored_issued : ∀ i k, stored i = some k → (i, k) ∈ issued
  stored_held : ∀ i k, stored i = some k → (i, k) ∉ held
  stored_left : ∀ i k, stored i = some k → k ∉ left
  left_nodup : left.Nodup
  left_issued : ∀ k ∈ left, k ∈ issued.map Prod.snd
  cover : ∀ p ∈ issued, p ∈ held ∨ stored p.1 = some p.2 ∨ p.2 ∈ left

namespace Linear

variable {issued held held' : List (ι × κ)} {stored : ι → Option κ} {left : List κ}

theorem nil : Linear ([] : List (ι × κ)) [] (fun _ => none) [] := by
  constructor <;> simp

theorem key_inj (h : Linear issued held stored left) {i : ι} {k k' : κ} (hk : (i, k) ∈ issued)
    (hk' : (i, k') ∈ issued) : k = k' := by
  have := List.inj_on_of_nodup_map h.keys hk hk' rfl
  simpa using this

theorem value_inj (h : Linear issued held stored left) {i i' : ι} {k : κ} (hi : (i, k) ∈ issued)
    (hi' : (i', k) ∈ issued) : i = i' := by
  have := List.inj_on_of_nodup_map h.values hi hi' rfl
  simpa using this

/-- The order in which values are held does not matter. -/
theorem perm (h : Linear issued held stored left) (hp : held.Perm held') :
    Linear issued held' stored left where
  keys := h.keys
  values := h.values
  held_nodup := hp.nodup_iff.mp h.held_nodup
  held_issued p hm := h.held_issued p (hp.mem_iff.mpr hm)
  held_left p hm := h.held_left p (hp.mem_iff.mpr hm)
  stored_issued := h.stored_issued
  stored_held i k hs hm := h.stored_held i k hs (hp.mem_iff.mpr hm)
  stored_left := h.stored_left
  left_nodup := h.left_nodup
  left_issued := h.left_issued
  cover p hm := (h.cover p hm).imp_left hp.mem_iff.mp

/-- Nothing is stored under the key of a value that is held. -/
theorem vacant (h : Linear issued held stored left) {i : ι} {k : κ} (hm : (i, k) ∈ held) :
    stored i = none := by
  cases hs : stored i with
  | none => rfl
  | some k' =>
    have heq : k' = k := h.key_inj (h.stored_issued i k' hs) (h.held_issued _ hm)
    exact absurd (heq ▸ hm) (h.stored_held i k' hs)

/-- A fresh value is issued under a fresh key. -/
theorem issue (h : Linear issued held stored left) {i : ι} {k : κ}
    (hi : i ∉ issued.map Prod.fst) (hk : k ∉ issued.map Prod.snd) :
    Linear (issued ++ [(i, k)]) ((i, k) :: held) stored left where
  keys := by
    rw [List.map_append]
    exact h.keys.append (by simp) (by simpa using hi)
  values := by
    rw [List.map_append]
    exact h.values.append (by simp) (by simpa using hk)
  held_nodup := by
    refine List.nodup_cons.mpr ⟨fun hm => hi ?_, h.held_nodup⟩
    exact List.mem_map_of_mem (h.held_issued _ hm)
  held_issued := by
    intro p hm
    rcases List.mem_cons.mp hm with rfl | hm
    · simp
    · exact List.mem_append_left _ (h.held_issued p hm)
  held_left := by
    intro p hm
    rcases List.mem_cons.mp hm with rfl | hm
    · exact fun hl => hk (h.left_issued _ hl)
    · exact h.held_left p hm
  stored_issued i' k' hs := List.mem_append_left _ (h.stored_issued i' k' hs)
  stored_held := by
    intro i' k' hs hm
    rcases List.mem_cons.mp hm with heq | hm
    · cases heq
      exact hi (List.mem_map_of_mem (h.stored_issued _ _ hs))
    · exact h.stored_held i' k' hs hm
  stored_left := h.stored_left
  left_nodup := h.left_nodup
  left_issued k' hl := by
    rw [List.map_append]
    exact List.mem_append_left _ (h.left_issued k' hl)
  cover := by
    intro p hm
    rcases List.mem_append.mp hm with hm | hm
    · exact (h.cover p hm).imp_left (List.mem_cons_of_mem _)
    · exact .inl (by simp_all)

variable [DecidableEq ι]

/-- A value that was held is put into the store. -/
theorem insert {i : ι} {k : κ} (h : Linear issued ((i, k) :: held) stored left) :
    Linear issued held (Function.update stored i (some k)) left where
  keys := h.keys
  values := h.values
  held_nodup := (List.nodup_cons.mp h.held_nodup).2
  held_issued p hm := h.held_issued p (List.mem_cons_of_mem _ hm)
  held_left p hm := h.held_left p (List.mem_cons_of_mem _ hm)
  stored_issued := by
    intro i' k' hs
    rw [Function.update_apply] at hs
    split at hs
    · rename_i hi
      cases hs
      exact hi ▸ h.held_issued _ (by simp)
    · exact h.stored_issued i' k' hs
  stored_held := by
    intro i' k' hs hm
    rw [Function.update_apply] at hs
    split at hs
    · rename_i hi
      cases hs
      exact (List.nodup_cons.mp h.held_nodup).1 (hi ▸ hm)
    · exact h.stored_held i' k' hs (List.mem_cons_of_mem _ hm)
  stored_left := by
    intro i' k' hs
    rw [Function.update_apply] at hs
    split at hs
    · cases hs
      exact h.held_left (i, k) (by simp)
    · exact h.stored_left i' k' hs
  left_nodup := h.left_nodup
  left_issued := h.left_issued
  cover := by
    intro p hm
    rcases h.cover p hm with hp | hp | hp
    · rcases List.mem_cons.mp hp with rfl | hp
      · exact .inr (.inl (by simp))
      · exact .inl hp
    · right
      left
      rw [Function.update_apply, if_neg]
      · exact hp
      · intro hi
        rw [hi, h.vacant (k := k) (by simp)] at hp
        cases hp
    · exact .inr (.inr hp)

/-- A value leaves the store. -/
theorem remove (h : Linear issued held stored left) {i : ι} {k : κ} (hs : stored i = some k) :
    Linear issued held (Function.update stored i none) (left ++ [k]) where
  keys := h.keys
  values := h.values
  held_nodup := h.held_nodup
  held_issued := h.held_issued
  held_left := by
    intro p hm hl
    rcases List.mem_append.mp hl with hl | hl
    · exact h.held_left p hm hl
    · have hik : p.1 = i :=
        h.value_inj (k := k) (List.mem_singleton.mp hl ▸ h.held_issued p hm)
          (h.stored_issued i k hs)
      exact h.stored_held i k hs (by rw [← hik, ← List.mem_singleton.mp hl]; exact hm)
  stored_issued := by
    intro i' k' hs'
    rw [Function.update_apply] at hs'
    split at hs'
    · cases hs'
    · exact h.stored_issued i' k' hs'
  stored_held := by
    intro i' k' hs'
    rw [Function.update_apply] at hs'
    split at hs'
    · cases hs'
    · exact h.stored_held i' k' hs'
  stored_left := by
    intro i' k' hs' hl
    rw [Function.update_apply] at hs'
    split at hs'
    · cases hs'
    · rename_i hi
      rcases List.mem_append.mp hl with hl | hl
      · exact h.stored_left i' k' hs' hl
      · apply hi
        apply h.value_inj (h.stored_issued i' k' hs')
        rw [List.mem_singleton.mp hl]
        exact h.stored_issued i k hs
  left_nodup := h.left_nodup.append (by simp) (by simpa using h.stored_left i k hs)
  left_issued := by
    intro k' hl
    rcases List.mem_append.mp hl with hl | hl
    · exact h.left_issued k' hl
    · rw [List.mem_singleton.mp hl]
      exact List.mem_map_of_mem (h.stored_issued i k hs)
  cover := by
    intro p hm
    rcases h.cover p hm with hp | hp | hp
    · exact .inl hp
    · by_cases hi : p.1 = i
      · rw [hi, hs] at hp
        cases hp
        exact .inr (.inr (by simp))
      · exact .inr (.inl (by rwa [Function.update_apply, if_neg hi]))
    · exact .inr (.inr (List.mem_append_left _ hp))

/-- A removal under a key that holds nothing does nothing. -/
theorem remove_none (h : Linear issued held stored left) {i : ι} (hs : stored i = none) :
    Linear issued held (Function.update stored i none) left := by
  rwa [← hs, Function.update_eq_self]

end Linear

end Ghostport.Lib
