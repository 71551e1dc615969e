import Mathlib.Algebra.BigOperators.Intervals
import Mathlib.Algebra.Order.BigOperators.Group.Finset
import Mathlib.Algebra.Order.Ring.Defs
import Mathlib.Tactic.Linarith
import Mathlib.Tactic.Ring
import Ghostport.Lib.SlidingWindow

/-!
# Dialing with backoff

A dialer dials, and a dial of it may be done after a while. It waits before it dials again:
`w k` after `k` dials in a row that were not done, and `w 0` after one that was.

* `Paced w marks k u`: the history `marks` is one of such a dialer, `u` the time of its last
  mark and `w k` what it waits for next.
* `Paced.dials_le`: how often it has dialed since some time, by the length of that time and by
  how many dials were done in it. `a` is a spacing of the dials, and `m` the lead that a row of
  dials has over that spacing.
* `lead_of_tail`: it is enough to look for the lead where the waiting times are below `a`.
* `capped b m`: the waiting times that begin with `b` and double up to `m`.
-/

namespace Ghostport.Lib

/-- The marks in the history of a dialer. -/
inductive Mark (τ : Type*) where
  | dial (t : τ)
  | done (t : τ)
  deriving DecidableEq

def Mark.dialTime {τ : Type*} : Mark τ → Option τ
  | .dial t => some t
  | .done _ => none

def Mark.doneTime {τ : Type*} : Mark τ → Option τ
  | .dial _ => none
  | .done t => some t

variable {τ : Type*} [LinearOrder τ]

/-- How often was dialed since `c`. -/
def dialsSince (c : τ) (marks : List (Mark τ)) : ℕ :=
  (since c (marks.filterMap Mark.dialTime)).length

/-- How many dials were done since `c`. -/
def donesSince (c : τ) (marks : List (Mark τ)) : ℕ :=
  (since c (marks.filterMap Mark.doneTime)).length

section Counting

variable (c t : τ) (marks : List (Mark τ))

theorem dialsSince_snoc_dial :
    dialsSince c (marks ++ [.dial t]) = dialsSince c marks + if c ≤ t then 1 else 0 := by
  unfold dialsSince
  rw [List.filterMap_append, since_append, List.length_append]
  by_cases h : c ≤ t <;> simp [since, Mark.dialTime, h]

@[simp] theorem dialsSince_snoc_done :
    dialsSince c (marks ++ [.done t]) = dialsSince c marks := by
  simp [dialsSince, List.filterMap_cons, Mark.dialTime]

@[simp] theorem donesSince_snoc_dial :
    donesSince c (marks ++ [.dial t]) = donesSince c marks := by
  simp [donesSince, List.filterMap_cons, Mark.doneTime]

theorem donesSince_snoc_done :
    donesSince c (marks ++ [.done t]) = donesSince c marks + if c ≤ t then 1 else 0 := by
  unfold donesSince
  rw [List.filterMap_append, since_append, List.length_append]
  by_cases h : c ≤ t <;> simp [since, Mark.doneTime, h]

end Counting

/-- The histories of a dialer that waits `w`. -/
inductive Paced [Add τ] (w : ℕ → τ) : List (Mark τ) → ℕ → τ → Prop
  | first (t : τ) : Paced w [.dial t] 0 t
  | dial {marks : List (Mark τ)} {k : ℕ} {u t : τ} : Paced w marks k u → u + w k ≤ t →
    Paced w (marks ++ [.dial t]) (k + 1) t
  | done {marks : List (Mark τ)} {k : ℕ} {u t : τ} : Paced w marks k u → u ≤ t →
    Paced w (marks ++ [.done t]) 0 t

/-- The time that `k` dials in a row take. -/
def rowTime [AddCommMonoid τ] (w : ℕ → τ) (k : ℕ) : τ := ∑ i ∈ Finset.range k, w i

omit [LinearOrder τ] in
@[simp] theorem rowTime_zero [AddCommMonoid τ] (w : ℕ → τ) : rowTime w 0 = 0 :=
  Finset.sum_range_zero w

omit [LinearOrder τ] in
theorem rowTime_succ [AddCommMonoid τ] (w : ℕ → τ) (k : ℕ) :
    rowTime w (k + 1) = rowTime w k + w k :=
  Finset.sum_range_succ w k

variable [CommRing τ] [IsStrictOrderedRing τ] {w : ℕ → τ} {marks : List (Mark τ)} {k : ℕ}
  {c u v a m : τ}

/-- A row of dials is ahead of dials with the spacing `a` by `m` at most. -/
def Lead (w : ℕ → τ) (a m : τ) : Prop := ∀ j : ℕ, a * j ≤ rowTime w j + m

/-- From where the waiting times have reached `a`, a row of dials gains no more. -/
theorem lead_of_tail {n : ℕ} (hrow : ∀ j : ℕ, j ≤ n → a * j ≤ rowTime w j + m)
    (htail : ∀ j, n ≤ j → a ≤ w j) : Lead w a m := by
  intro j
  induction j with
  | zero => exact hrow 0 (Nat.zero_le n)
  | succ j ih =>
    by_cases hle : j + 1 ≤ n
    · exact hrow (j + 1) hle
    · have hwait : a ≤ w j := htail j (by omega)
      rw [rowTime_succ, Nat.cast_succ, mul_add_one]
      linarith

/-- What the count of dials since `c` is bounded by: `j` of them are the last row. -/
def Counted (w : ℕ → τ) (a m c : τ) (marks : List (Mark τ)) (k : ℕ) (u : τ) : Prop :=
  dialsSince c marks = 0 ∨ c ≤ u ∧ ∃ j ≤ k,
    a * dialsSince c marks + rowTime w j ≤ a + (u - c) + m * donesSince c marks + a * j

/-- The induction behind `Paced.dials_le`: a dial adds its wait to the last row, and where a
    dial is done, the row ends and what it has gained is its lead. -/
theorem Paced.counted (h : Paced w marks k u) (hmono : Monotone w) (hnonneg : 0 ≤ w 0)
    (hlead : Lead w a m) (c : τ) : Counted w a m c marks k u := by
  have hm : 0 ≤ m := by simpa using hlead 0
  induction h with
  | first t =>
    have hcount := dialsSince_snoc_dial c t []
    by_cases hc : c ≤ t
    · refine .inr ⟨hc, 0, le_rfl, ?_⟩
      have hone : dialsSince c [.dial t] = 1 := by
        simpa [hc, dialsSince] using hcount
      have hzero : donesSince c [.dial t] = 0 := by
        simp [donesSince, List.filterMap_cons, Mark.doneTime]
      rw [hone, hzero, rowTime_zero, Nat.cast_one, Nat.cast_zero]
      linarith
    · left
      simpa [hc, dialsSince] using hcount
  | @dial marks k u t _ hwait ih =>
    have hpos : 0 ≤ w k := hnonneg.trans (hmono (Nat.zero_le k))
    by_cases hc : c ≤ t
    · right
      rw [Counted, dialsSince_snoc_dial, if_pos hc, donesSince_snoc_dial] at *
      refine ⟨hc, ?_⟩
      rcases ih with hnone | ⟨hcu, j, hj, hle⟩
      · refine ⟨0, Nat.zero_le _, ?_⟩
        have hdone : 0 ≤ m * (donesSince c marks : τ) := mul_nonneg hm (Nat.cast_nonneg _)
        rw [hnone, rowTime_zero, zero_add, Nat.cast_one, Nat.cast_zero]
        linarith
      · refine ⟨j + 1, by omega, ?_⟩
        have hrow : w j ≤ w k := hmono hj
        rw [rowTime_succ]
        push_cast
        linarith
    · left
      rw [dialsSince_snoc_dial, if_neg hc]
      rcases ih with hnone | ⟨hcu, -⟩
      · simpa using hnone
      · exact absurd (hcu.trans (by linarith)) hc
  | @done marks k u t _ hle ih =>
    rcases ih with hnone | ⟨hcu, j, -, hcount⟩
    · exact .inl (by simpa using hnone)
    · have hc : c ≤ t := hcu.trans hle
      refine .inr ⟨hc, 0, le_rfl, ?_⟩
      have hgain : a * j ≤ rowTime w j + m := hlead j
      rw [dialsSince_snoc_done, donesSince_snoc_done, if_pos hc]
      rw [rowTime_zero]
      push_cast
      linarith

/-- How often is dialed between `c` and `v`. -/
theorem Paced.dials_le (h : Paced w marks k u) (hmono : Monotone w) (hnonneg : 0 ≤ w 0)
    (hlead : Lead w a m) (ha : 0 ≤ a) (hc : c ≤ v) (hu : u ≤ v) :
    a * dialsSince c marks ≤ a + (v - c) + m * (donesSince c marks + 1) := by
  rcases h.counted hmono hnonneg hlead c with hnone | ⟨-, j, -, hcount⟩
  · have hm : 0 ≤ m := by simpa using hlead 0
    have hdone : 0 ≤ m * ((donesSince c marks : τ) + 1) := by positivity
    rw [hnone, Nat.cast_zero, mul_zero]
    linarith
  · have hgain : a * j ≤ rowTime w j + m := hlead j
    linarith

/-! ## Doubling -/

/-- The waiting times that begin with `b` and double up to `m`. -/
def capped (b m : τ) (k : ℕ) : τ := min (b * 2 ^ k) m

omit [IsStrictOrderedRing τ] in
theorem capped_zero (h : b ≤ m) : capped b m 0 = b := by
  simp [capped, h]

theorem capped_succ (hm : 0 ≤ m) (k : ℕ) : capped b m (k + 1) = min (capped b m k * 2) m := by
  unfold capped
  rw [min_mul_of_nonneg _ _ zero_le_two, min_assoc, min_eq_right (a := m * 2) (by linarith),
    pow_succ, mul_assoc]

theorem capped_mono (hb : 0 ≤ b) : Monotone (capped b m) := by
  apply monotone_nat_of_le_succ
  intro k
  apply min_le_min_right
  have hpow : 0 ≤ b * 2 ^ k := by positivity
  rw [pow_succ, ← mul_assoc]
  linarith

omit [IsStrictOrderedRing τ] in
theorem capped_of_le (h : m ≤ b * 2 ^ k) : capped b m k = m := min_eq_right h

end Ghostport.Lib
