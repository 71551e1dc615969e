import Mathlib.Data.List.Basic

/-!
# Properties of the lines of a text

`AllLines P u text`: each line of `text` has the property `P`, where `u` stands in front of
the first. A change inside a line that `P` does not see keeps it true
(`allLines_replace`).
-/

namespace Ghostport.Lib

def AllLines (P : List Char → Prop) : List Char → List Char → Prop
  | u, [] => P u
  | u, c :: s => if c = '\n' then P u ∧ AllLines P [] s else AllLines P (u ++ [c]) s

section

variable {P : List Char → Prop}

theorem allLines_iff_prepend (text acc : List Char) :
    AllLines P acc.reverse text ↔ ∀ l ∈ text.splitOnPPrepend (· == '\n') acc, P l := by
  induction text generalizing acc with
  | nil => simp [AllLines]
  | cons c s ih =>
    rw [AllLines, List.splitOnPPrepend_cons_eq_if]
    by_cases hc : c = '\n'
    · have hline := ih []
      simp only [List.reverse_nil] at hline
      rw [if_pos hc, if_pos (by simpa using hc), hline]
      simp
    · rw [if_neg hc, if_neg (by simpa using hc), ← ih (c :: acc), List.reverse_cons]

theorem allLines_iff {text : List Char} : AllLines P [] text ↔ ∀ l ∈ text.splitOn '\n', P l :=
  allLines_iff_prepend text []

theorem allLines_append {c : List Char} (hc : '\n' ∉ c) (u s : List Char) :
    AllLines P u (c ++ s) ↔ AllLines P (u ++ c) s := by
  induction c generalizing u with
  | nil => simp
  | cons d c ih =>
    have hd : d ≠ '\n' := fun h => hc (by simp [h])
    have hrest : '\n' ∉ c := fun h => hc (by simp [h])
    rw [List.cons_append, AllLines, if_neg hd, ih hrest, List.append_assoc, List.singleton_append]

theorem allLines_congr_front {u u' : List Char} (h : ∀ v, P (u ++ v) ↔ P (u' ++ v))
    (s : List Char) : AllLines P u s ↔ AllLines P u' s := by
  induction s generalizing u u' with
  | nil => simpa [AllLines] using h []
  | cons c s ih =>
    rw [AllLines, AllLines]
    split
    · have hline : P u ↔ P u' := by simpa using h []
      rw [hline]
    · exact ih fun v => by simpa using h (c :: v)

/-- The first line, and the lines after it. -/
theorem allLines_iff_first (u s : List Char) :
    AllLines P u s ↔ P (u ++ s.takeWhile (· ≠ '\n')) ∧
      ∀ rest, s.dropWhile (· ≠ '\n') = '\n' :: rest → AllLines P [] rest := by
  induction s generalizing u with
  | nil => simp [AllLines]
  | cons c s ih =>
    by_cases hc : c = '\n'
    · subst hc
      simp [AllLines]
    · rw [AllLines, if_neg hc, ih]
      simp [hc]

/-- From a property `Q` of the lines to another, where the start of the first line may
    differ. -/
theorem AllLines.imp {Q : List Char → Prop} {u u' s : List Char} (h : AllLines Q u s)
    (hfirst : ∀ v, Q (u ++ v) → P (u' ++ v)) (hrest : ∀ v, Q v → P v) : AllLines P u' s := by
  induction s generalizing u u' with
  | nil =>
    have hline : P (u' ++ []) := hfirst [] (by simpa [AllLines] using h)
    simpa [AllLines] using hline
  | cons c s ih =>
    rw [AllLines] at h ⊢
    split at h
    · rename_i hc
      rw [if_pos hc]
      exact ⟨by simpa using hfirst [] (by simpa using h.1), ih h.2 hrest⟩
    · rename_i hc
      rw [if_neg hc]
      exact ih h fun v hv => by simpa using hfirst (c :: v) (by simpa using hv)

/-- `c` in the middle of a text can be replaced by `e` if no line shows the difference. -/
theorem allLines_replace {c e : List Char} (hc : '\n' ∉ c) (he : '\n' ∉ e)
    (h : ∀ u v, P (u ++ c ++ v) ↔ P (u ++ e ++ v)) (u x y : List Char) :
    AllLines P u (x ++ c ++ y) ↔ AllLines P u (x ++ e ++ y) := by
  induction x generalizing u with
  | nil =>
    rw [List.nil_append, List.nil_append, allLines_append hc, allLines_append he]
    exact allLines_congr_front (fun v => h u v) y
  | cons d x ih =>
    simp only [List.cons_append, AllLines]
    split
    · rw [ih]
    · exact ih _

/-- The same at the start of the text. -/
theorem allLines_replace_start {c e : List Char} (hc : '\n' ∉ c) (he : '\n' ∉ e)
    (h : ∀ v, P (c ++ v) ↔ P (e ++ v)) (y : List Char) :
    AllLines P [] (c ++ y) ↔ AllLines P [] (e ++ y) := by
  rw [allLines_append hc, allLines_append he, List.nil_append, List.nil_append]
  exact allLines_congr_front h y

end

end Ghostport.Lib
