import Mathlib.Algebra.Order.Group.Defs
import Mathlib.Algebra.Order.Group.Unbundled.Basic
import Mathlib.Data.List.Basic
import Mathlib.Order.Defs.LinearOrder

/-!
# Sliding windows over a history of times

A `history` is the list of all times at which something was recorded, oldest
first. A queue that pushes at the back and drops from the front what is older
than a cutoff keeps a `Window` of the history: the entries since some cutoff.

* `Window.prune`: dropping from the front leaves exactly the entries since the
  new cutoff, however often and with whichever earlier cutoffs the queue was
  pruned before.
* `Sparse.snoc`: recording only while fewer than `n` entries lie in the
  preceding window keeps at most `n` entries in every closed interval of the
  window's length.
-/

namespace Ghostport.Lib

variable {τ : Type*} [LinearOrder τ]

/-- The entries of `l` that are not older than `c`. -/
def since (c : τ) (l : List τ) : List τ := l.filter fun t => c ≤ t

@[simp] theorem since_nil (c : τ) : since c [] = [] := rfl

theorem since_append (c : τ) (l l' : List τ) : since c (l ++ l') = since c l ++ since c l' :=
  List.filter_append ..

theorem since_since {c d : τ} (h : c ≤ d) (l : List τ) : since d (since c l) = since d l := by
  unfold since
  rw [List.filter_filter]
  apply List.filter_congr
  intro t _
  by_cases hd : d ≤ t
  · simp [hd, h.trans hd]
  · simp [hd]

/-- On a sorted list, dropping old entries from the front drops all of them. -/
theorem dropWhile_eq_since {c : τ} {l : List τ} (h : l.Pairwise (· ≤ ·)) :
    l.dropWhile (fun t => t < c) = since c l := by
  induction l with
  | nil => rfl
  | cons a l ih =>
    obtain ⟨ha, hl⟩ := List.pairwise_cons.mp h
    by_cases hac : a < c
    · rw [List.dropWhile_cons_of_pos (by simpa using hac), ih hl]
      simp [since, not_le.mpr hac]
    · have hall : ∀ t ∈ a :: l, c ≤ t := by
        intro t ht
        rcases List.mem_cons.mp ht with rfl | ht
        · exact not_lt.mp hac
        · exact (not_lt.mp hac).trans (ha t ht)
      rw [List.dropWhile_cons_of_neg (by simpa using hac)]
      symm
      exact List.filter_eq_self.mpr (by simpa using hall)

/-- `kept` is what a queue holds of `history` after pruning with cutoffs up to
    `c`. -/
structure Window (c : τ) (history kept : List τ) : Prop where
  sorted : history.Pairwise (· ≤ ·)
  kept_eq : ∃ c' ≤ c, kept = since c' history

namespace Window

variable {c d now : τ} {history kept : List τ}

theorem nil (c : τ) : Window c [] [] := ⟨List.Pairwise.nil, c, le_rfl, rfl⟩

theorem mono (h : Window c history kept) (hcd : c ≤ d) : Window d history kept :=
  let ⟨c', hc', he⟩ := h.kept_eq
  ⟨h.sorted, c', hc'.trans hcd, he⟩

/-- Pruning leaves exactly the entries since the cutoff. -/
theorem prune (h : Window c history kept) :
    kept.dropWhile (fun t => t < c) = since c history := by
  obtain ⟨c', hc', rfl⟩ := h.kept_eq
  have hs : (since c' history).Pairwise (· ≤ ·) := h.sorted.filter _
  rw [dropWhile_eq_since hs, since_since hc']

theorem pruned (h : Window c history kept) : Window c history (since c history) :=
  ⟨h.sorted, c, le_rfl, rfl⟩

/-- Recording an entry that is not older than any before nor than the cutoff. -/
theorem push (h : Window c history kept) (hle : ∀ t ∈ history, t ≤ now) (hc : c ≤ now) :
    Window c (history ++ [now]) (kept ++ [now]) := by
  obtain ⟨c', hc', rfl⟩ := h.kept_eq
  refine ⟨?_, c', hc', ?_⟩
  · rw [List.pairwise_append]
    refine ⟨h.sorted, List.pairwise_singleton .., ?_⟩
    simpa using hle
  · rw [since_append]
    simp [since, hc'.trans hc]

end Window

section Sparse

variable [AddCommGroup τ] [IsOrderedAddMonoid τ]

/-- Every closed interval of length `w` holds at most `n` entries of `l`. -/
def Sparse (w : τ) (n : ℕ) (l : List τ) : Prop :=
  ∀ a, (l.filter fun t => a ≤ t ∧ t ≤ a + w).length ≤ n

omit [IsOrderedAddMonoid τ] in
theorem Sparse.nil (w : τ) (n : ℕ) : Sparse w n [] := fun _ => Nat.zero_le _

omit [IsOrderedAddMonoid τ] in
theorem Sparse.sublist {w : τ} {n : ℕ} {l l' : List τ} (h : Sparse w n l) (hsub : l'.Sublist l) :
    Sparse w n l' :=
  fun a => (hsub.filter _).length_le.trans (h a)

/-- `now` is when the room was checked and `t` when the entry was recorded. -/
theorem Sparse.snoc {w now t : τ} {n : ℕ} {l : List τ} (h : Sparse w n l) (hnow : now ≤ t)
    (hroom : (since (now - w) l).length < n) : Sparse w n (l ++ [t]) := by
  intro a
  rw [List.filter_append, List.length_append]
  by_cases ht : a ≤ t ∧ t ≤ a + w
  · have ha : now - w ≤ a := by
      rw [sub_le_iff_le_add]
      exact hnow.trans ht.2
    have hsub : (l.filter fun u => a ≤ u ∧ u ≤ a + w).length ≤ (since (now - w) l).length := by
      apply List.Sublist.length_le
      apply List.monotone_filter_right
      intro u hu
      simp only [decide_eq_true_eq] at hu ⊢
      exact ha.trans hu.1
    simp only [List.filter_singleton, ht, and_self, decide_true, cond_true, List.length_singleton]
    omega
  · simpa [List.filter_singleton, ht] using h a

end Sparse

end Ghostport.Lib
