import Mathlib.Data.List.Infix

/-!
# Regular expressions with leftmost-first matching

The fragment of the syntax without alternation, with repetition of single-character
classes only and with one capture group; operators are greedy and a match is found by
backtracking, in the order of preference. The matcher gets what comes after the expression
as a continuation.

* `run_sound`, `run_complete`: the matcher and the language `Matches` agree.
* `run_barrier`, `find_append`: no match goes past a character that the expression does
  not mention.
* `find_dead`: a text that clashes with the literal start of an expression at each of its
  positions can be dropped in front.
* `removeAll_append`: matches are removed piece by piece.
-/

namespace Ghostport.Lib

inductive Regex where
  | eps
  | set (p : Char → Bool)
  | seq (r s : Regex)
  /-- `r?`. -/
  | opt (r : Regex)
  /-- `p*`. -/
  | many (p : Char → Bool)
  /-- The capture group. -/
  | group (r : Regex)

namespace Regex

def char (c : Char) : Regex := .set (· = c)

/-- A literal text. -/
def lit : List Char → Regex
  | [] => .eps
  | c :: cs => .seq (.char c) (lit cs)

/-- `p+`. -/
def plus (p : Char → Bool) : Regex := .seq (.set p) (.many p)

/-! ## The matcher -/

/-- The captured text, if any. -/
abbrev Capture := Option (List Char)

variable {β : Type}

/-- Takes as many characters as `k` accepts. -/
def runMany (p : Char → Bool) (k : List Char → Option β) : List Char → Option β
  | [] => k []
  | c :: s => if p c then (runMany p k s).or (k (c :: s)) else k (c :: s)

/-- Matches `r` at the head of a text, where `k` gets the rest of the text and the
    capture. -/
def run : Regex → List Char → Capture → (List Char → Capture → Option β) → Option β
  | .eps, s, cap, k => k s cap
  | .set _, [], _, _ => none
  | .set p, c :: s, cap, k => if p c then k s cap else none
  | .seq r r', s, cap, k => run r s cap fun s cap => run r' s cap k
  | .opt r, s, cap, k => (run r s cap k).or (k s cap)
  | .many p, s, cap, k => runMany p (fun s => k s cap) s
  | .group r, s, cap, k => run r s cap fun s' _ => k s' (some (s.take (s.length - s'.length)))

/-- The match at the head of the text: what is left of the text, and the capture. -/
def head (r : Regex) (s : List Char) : Option (List Char × Capture) :=
  run r s none fun rest cap => some (rest, cap)

/-- The capture of the leftmost match. -/
def find (r : Regex) : List Char → Option Capture
  | [] => (head r []).map (·.2)
  | c :: s =>
    match head r (c :: s) with
    | some m => some m.2
    | none => find r s

/-- Removes all matches from left to right, `skip` characters of the last one being left.
    An empty match removes nothing. -/
def removeFrom (r : Regex) : ℕ → List Char → List Char
  | _, [] => []
  | skip + 1, _ :: s => removeFrom r skip s
  | 0, c :: s =>
    match head r (c :: s) with
    | some (rest, _) =>
      if rest.length ≤ s.length then removeFrom r (s.length - rest.length) s
      else c :: removeFrom r 0 s
    | none => c :: removeFrom r 0 s

def removeAll (r : Regex) (s : List Char) : List Char := removeFrom r 0 s

/-! ## The language -/

/-- `Matches r body cap cap'`: `r` matches `body`, and takes the capture `cap` to `cap'`. -/
inductive Matches : Regex → List Char → Capture → Capture → Prop
  | eps {cap} : Matches .eps [] cap cap
  | set {p c cap} : p c = true → Matches (.set p) [c] cap cap
  | seq {r r' body body' cap cap' cap''} : Matches r body cap cap' → Matches r' body' cap' cap'' →
      Matches (.seq r r') (body ++ body') cap cap''
  | opt {r body cap cap'} : Matches r body cap cap' → Matches (.opt r) body cap cap'
  | skip {r cap} : Matches (.opt r) [] cap cap
  | many {p body cap} : (∀ c ∈ body, p c = true) → Matches (.many p) body cap cap
  | group {r body cap cap'} : Matches r body cap cap' → Matches (.group r) body cap (some body)

theorem matches_lit {text body : List Char} {cap cap' : Capture} :
    Matches (lit text) body cap cap' ↔ body = text ∧ cap' = cap := by
  induction text generalizing body cap with
  | nil =>
    constructor
    · rintro ⟨⟩
      exact ⟨rfl, rfl⟩
    · rintro ⟨rfl, rfl⟩
      exact .eps
  | cons c text ih =>
    constructor
    · rintro (_ | _ | ⟨hc, ht⟩)
      obtain ⟨rfl, rfl⟩ := ih.mp ht
      cases hc with
      | set hc => simpa using hc
    · rintro ⟨rfl, rfl⟩
      have hfirst : Matches (.char c) [c] cap' cap' := .set (by simp)
      exact hfirst.seq (ih.mpr ⟨rfl, rfl⟩)

theorem matches_plus {p : Char → Bool} {body : List Char} {cap cap' : Capture} :
    Matches (plus p) body cap cap' ↔ body ≠ [] ∧ (∀ c ∈ body, p c = true) ∧ cap' = cap := by
  constructor
  · rintro (_ | _ | ⟨h₁, h₂⟩)
    cases h₁ with
    | set hc =>
      cases h₂ with
      | many hall => exact ⟨by simp, by simpa using ⟨hc, hall⟩, rfl⟩
  · rintro ⟨hne, hall, rfl⟩
    obtain ⟨c, body, rfl⟩ := List.exists_cons_of_ne_nil hne
    have hfirst : Matches (.set p) [c] cap' cap' := .set (hall c (by simp))
    exact hfirst.seq (.many fun d hd => hall d (by simp [hd]))

theorem runMany_sound {p : Char → Bool} {k : List Char → Option β} {s : List Char} {x : β}
    (h : runMany p k s = some x) :
    ∃ body rest, s = body ++ rest ∧ (∀ c ∈ body, p c = true) ∧ k rest = some x := by
  induction s with
  | nil => exact ⟨[], [], rfl, by simp, h⟩
  | cons c s ih =>
    simp only [runMany] at h
    split at h
    · rename_i hc
      rcases Option.or_eq_some_iff.mp h with h | ⟨-, h⟩
      · obtain ⟨body, rest, rfl, hbody, hk⟩ := ih h
        exact ⟨c :: body, rest, rfl, by simpa using ⟨hc, hbody⟩, hk⟩
      · exact ⟨[], c :: s, rfl, by simp, h⟩
    · exact ⟨[], c :: s, rfl, by simp, h⟩

theorem runMany_complete {p : Char → Bool} {k : List Char → Option β} {body rest : List Char}
    (hbody : ∀ c ∈ body, p c = true) (hk : (k rest).isSome) :
    (runMany p k (body ++ rest)).isSome := by
  induction body with
  | nil =>
    cases rest with
    | nil => exact hk
    | cons c rest =>
      simp only [List.nil_append, runMany]
      split
      · simp [Option.isSome_or, hk]
      · exact hk
  | cons c body ih =>
    have hc : p c = true := hbody c (by simp)
    simp only [List.cons_append, runMany, hc, if_true, Option.isSome_or]
    rw [ih fun d hd => hbody d (by simp [hd]), Bool.true_or]

theorem run_sound {r : Regex} {s : List Char} {cap : Capture}
    {k : List Char → Capture → Option β} {x : β} (h : run r s cap k = some x) :
    ∃ body rest cap', s = body ++ rest ∧ Matches r body cap cap' ∧ k rest cap' = some x := by
  induction r generalizing β s cap k x with
  | eps => exact ⟨[], s, cap, rfl, .eps, h⟩
  | set p =>
    cases s with
    | nil => cases h
    | cons c s =>
      simp only [run] at h
      split at h
      · rename_i hc
        exact ⟨[c], s, cap, rfl, .set hc, h⟩
      · cases h
  | seq r r' ihr ihr' =>
    obtain ⟨body, rest, cap', rfl, hr, h⟩ := ihr h
    obtain ⟨body', rest', cap'', rfl, hr', h⟩ := ihr' h
    exact ⟨body ++ body', rest', cap'', by simp, .seq hr hr', h⟩
  | opt r ih =>
    rcases Option.or_eq_some_iff.mp h with h | ⟨-, h⟩
    · obtain ⟨body, rest, cap', rfl, hr, h⟩ := ih h
      exact ⟨body, rest, cap', rfl, .opt hr, h⟩
    · exact ⟨[], s, cap, rfl, .skip, h⟩
  | many p =>
    obtain ⟨body, rest, rfl, hbody, h⟩ := runMany_sound h
    exact ⟨body, rest, cap, rfl, .many hbody, h⟩
  | group r ih =>
    obtain ⟨body, rest, cap', rfl, hr, h⟩ := ih h
    refine ⟨body, rest, some body, rfl, .group hr, ?_⟩
    have htake : (body ++ rest).take ((body ++ rest).length - rest.length) = body := by
      simp
    rwa [htake] at h

theorem run_complete {r : Regex} {body rest : List Char} {cap cap' : Capture}
    {k : List Char → Capture → Option β} (h : Matches r body cap cap')
    (hk : (k rest cap').isSome) : (run r (body ++ rest) cap k).isSome := by
  induction h generalizing β rest k with
  | eps => exact hk
  | set hc => simpa [run, hc] using hk
  | seq _ _ ih ih' =>
    rw [List.append_assoc]
    exact ih (ih' hk)
  | opt _ ih => rw [run, Option.isSome_or, ih hk, Bool.true_or]
  | skip => rw [List.nil_append, run, Option.isSome_or, hk, Bool.or_true]
  | many hbody => exact runMany_complete hbody hk
  | group _ ih =>
    refine ih ?_
    simpa using hk

/-- What a match at the head of a text is. -/
theorem head_sound {r : Regex} {s rest : List Char} {cap : Capture}
    (h : head r s = some (rest, cap)) : ∃ body, s = body ++ rest ∧ Matches r body none cap := by
  obtain ⟨body, rest', cap', rfl, hr, heq⟩ := run_sound h
  cases heq
  exact ⟨body, rfl, hr⟩

theorem head_eq_none {r : Regex} {s : List Char} :
    head r s = none ↔ ∀ body rest cap, s = body ++ rest → ¬ Matches r body none cap := by
  constructor
  · rintro h body rest cap rfl hr
    have hsome : (head r (body ++ rest)).isSome := run_complete hr rfl
    rw [h] at hsome
    cases hsome
  · intro h
    cases hhead : head r s with
    | none => rfl
    | some m =>
      obtain ⟨body, hs, hr⟩ := head_sound hhead
      exact absurd hr (h body m.1 m.2 hs)

/-! ## Characters that are not mentioned -/

/-- `c` can be in a match. -/
def mentions (c : Char) : Regex → Bool
  | .eps => false
  | .set p | .many p => p c
  | .seq r s => mentions c r || mentions c s
  | .opt r | .group r => mentions c r

/-- A match ends before a character that the expression does not mention, and does not
    depend on what comes after it. -/
theorem run_barrier {r : Regex} {c : Char} (hc : mentions c r = false) {s t : List Char}
    {cap : Capture} {k : List Char → Capture → Option β} :
    run r (s ++ c :: t) cap k = run r s cap fun s' cap' => k (s' ++ c :: t) cap' := by
  induction r generalizing β s cap k with
  | eps => rfl
  | set p =>
    have hp : p c = false := hc
    cases s with
    | nil => simp [run, hp]
    | cons d s => rfl
  | seq r r' ihr ihr' =>
    obtain ⟨hr, hr'⟩ := Bool.or_eq_false_iff.mp hc
    rw [run, ihr hr]
    simp only [run, ihr' hr']
  | opt r ih => rw [run, ih hc, run]
  | many p =>
    have hp : p c = false := hc
    simp only [run]
    induction s with
    | nil => simp [runMany, hp]
    | cons d s ih => simp only [List.cons_append, runMany, ih]
  | group r ih =>
    rw [run, ih hc, run]
    congr 1
    funext s' _
    have hlen : (s ++ c :: t).length - (s' ++ c :: t).length = s.length - s'.length := by
      simp only [List.length_append]
      omega
    rw [hlen, List.take_append_of_le_length (Nat.sub_le _ _)]

theorem run_map {γ : Type} {r : Regex} {s : List Char} {cap : Capture}
    {k : List Char → Capture → Option β} {f : β → γ} :
    run r s cap (fun s' cap' => (k s' cap').map f) = (run r s cap k).map f := by
  induction r generalizing β γ s cap with
  | eps => rfl
  | set p =>
    cases s with
    | nil => rfl
    | cons c s =>
      simp only [run]
      split <;> rfl
  | seq r r' ihr ihr' => simp only [run, ihr', ihr]
  | opt r ih => simp only [run, ih, Option.map_or]
  | many p =>
    simp only [run]
    induction s with
    | nil => rfl
    | cons d s ih =>
      simp only [runMany, ih]
      split
      · rw [Option.map_or]
      · rfl
  | group r ih => simp only [run, ih]

theorem head_barrier {r : Regex} {c : Char} (hc : mentions c r = false) (s t : List Char) :
    head r (s ++ c :: t) = (head r s).map fun m => (m.1 ++ c :: t, m.2) := by
  rw [head, run_barrier hc, head, ← run_map]
  rfl

/-- No match goes from a text in front of `t` into `t`, or depends on `t`. -/
def Barrier (r : Regex) (t : List Char) : Prop :=
  ∀ s, s ≠ [] → head r (s ++ t) = (head r s).map fun m => (m.1 ++ t, m.2)

theorem barrier_nil (r : Regex) : Barrier r [] := by
  intro s _
  simp

theorem barrier_cons {r : Regex} {c : Char} (hc : mentions c r = false) (t : List Char) :
    Barrier r (c :: t) :=
  fun s _ => head_barrier hc s t

/-- A character that is mentioned only in the first place of an expression is a barrier. -/
theorem barrier_first {r : Regex} {c : Char} (hc : mentions c r = false) (t : List Char) :
    Barrier (.seq (char c) r) (c :: t) := by
  intro s hs
  obtain ⟨d, s, rfl⟩ := List.exists_cons_of_ne_nil hs
  simp only [List.cons_append, head, run, char]
  split
  · exact head_barrier hc s t
  · rfl

theorem head_cons_eq_none {r : Regex} {c : Char} (hc : mentions c r = false)
    (hnil : head r [] = none) (t : List Char) : head r (c :: t) = none := by
  have h := head_barrier hc [] t
  rwa [hnil] at h

/-- The leftmost match is on this side of a barrier, or else beyond it. -/
theorem find_append {r : Regex} (hnil : head r [] = none) {t : List Char} (ht : Barrier r t)
    (s : List Char) : find r (s ++ t) = (find r s).or (find r t) := by
  induction s with
  | nil => simp [find, hnil]
  | cons d s ih =>
    have h : head r (d :: (s ++ t)) = _ := ht (d :: s) (by simp)
    simp only [List.cons_append, find, h]
    cases head r (d :: s) with
    | none => exact ih
    | some m => rfl

theorem find_barrier {r : Regex} {c : Char} (hc : mentions c r = false)
    (hnil : head r [] = none) (s t : List Char) :
    find r (s ++ c :: t) = (find r s).or (find r t) := by
  rw [find_append hnil (barrier_cons hc t), find, head_cons_eq_none hc hnil]

/-! ## Texts in front that cannot start a match -/

/-- The texts differ somewhere. -/
def clash : List Char → List Char → Bool
  | c :: s, d :: t => c != d || clash s t
  | _, _ => false

/-- Every nonempty end of `s` clashes with `kw`. -/
def dead (kw : List Char) : List Char → Bool
  | [] => true
  | c :: s => clash (c :: s) kw && dead kw s

theorem clash_append {s t kw : List Char} (h : clash s kw = true) : clash (s ++ t) kw = true := by
  induction s generalizing kw with
  | nil => simp [clash] at h
  | cons c s ih =>
    cases kw with
    | nil => simp [clash] at h
    | cons d kw =>
      simp only [clash, Bool.or_eq_true] at h
      simp only [List.cons_append, clash, Bool.or_eq_true]
      exact h.imp id ih

theorem not_prefix_of_clash {s kw : List Char} (h : clash s kw = true) : ¬ kw <+: s := by
  rintro ⟨t, rfl⟩
  induction kw with
  | nil => cases t <;> simp [clash] at h
  | cons d kw ih => exact ih (by simpa [clash] using h)

theorem dead_append {kw s t : List Char} (hs : dead kw s = true) (ht : dead kw t = true) :
    dead kw (s ++ t) = true := by
  induction s with
  | nil => exact ht
  | cons c s ih =>
    simp only [dead, Bool.and_eq_true] at hs
    have hclash : clash (c :: s ++ t) kw = true := clash_append hs.1
    simpa only [List.cons_append, dead, Bool.and_eq_true] using ⟨hclash, ih hs.2⟩

/-- Characters that are not in the first place of `kw` but one that it has at `i` is
    missing, in a text with more than `i` characters. -/
theorem clash_of_missing {kw s : List Char} {i : ℕ} {c : Char} (hkw : kw[i]? = some c)
    (hs : c ∉ s) (hlen : i < s.length) : clash s kw = true := by
  induction s generalizing kw i with
  | nil => simp at hlen
  | cons d s ih =>
    cases kw with
    | nil => simp at hkw
    | cons e kw =>
      cases i with
      | zero =>
        have he : e = c := by simpa using hkw
        have hd : d ≠ e := by
          rintro rfl
          exact hs (by simp [he])
        simp [clash, hd]
      | succ i =>
        have hrest : clash s kw = true :=
          ih (by simpa using hkw) (fun hm => hs (by simp [hm])) (by simpa using hlen)
        simp [clash, hrest]

/-- An expression that starts with `kw` does not match at the head of another text. -/
theorem head_eq_none_of_not_prefix {kw s : List Char} {r : Regex} (h : ¬ kw <+: s) :
    head (.seq (lit kw) r) s = none := by
  rw [head_eq_none]
  rintro body rest cap rfl hm
  cases hm with
  | seq hkw hr =>
    obtain ⟨rfl, rfl⟩ := matches_lit.mp hkw
    exact h ⟨_, (List.append_assoc _ _ _).symm⟩

theorem find_dead {kw s : List Char} {r : Regex} (hs : dead kw s = true) (t : List Char) :
    find (.seq (lit kw) r) (s ++ t) = find (.seq (lit kw) r) t := by
  induction s with
  | nil => rfl
  | cons c s ih =>
    simp only [dead, Bool.and_eq_true] at hs
    have hclash : clash (c :: s ++ t) kw = true := clash_append hs.1
    have hhead := head_eq_none_of_not_prefix (r := r) (not_prefix_of_clash hclash)
    rw [List.cons_append] at hhead ⊢
    rw [find, hhead]
    exact ih hs.2

/-! ## Removing all matches -/

theorem removeFrom_append {r : Regex} (s t : List Char) :
    removeFrom r s.length (s ++ t) = removeAll r t := by
  induction s with
  | nil => rfl
  | cons c s ih => exact ih

theorem removeAll_cons_of_none {r : Regex} {c : Char} {s : List Char}
    (h : head r (c :: s) = none) : removeAll r (c :: s) = c :: removeAll r s := by
  rw [removeAll, removeFrom, h]
  rfl

theorem removeAll_match {r : Regex} {body rest : List Char} {cap : Capture} (hbody : body ≠ [])
    (h : head r (body ++ rest) = some (rest, cap)) :
    removeAll r (body ++ rest) = removeAll r rest := by
  obtain ⟨c, body, rfl⟩ := List.exists_cons_of_ne_nil hbody
  rw [List.cons_append] at h ⊢
  rw [removeAll, removeFrom, h]
  have hle : rest.length ≤ (body ++ rest).length := by simp
  have hlen : (body ++ rest).length - rest.length = body.length := by simp
  simp only
  rw [if_pos hle, hlen, removeFrom_append]

/-- Removing goes on separately on both sides of a barrier. -/
theorem removeAll_append {r : Regex} {t : List Char} (ht : Barrier r t) (s : List Char) :
    removeAll r (s ++ t) = removeAll r s ++ removeAll r t := by
  suffices h : ∀ skip, skip ≤ s.length →
      removeFrom r skip (s ++ t) = removeFrom r skip s ++ removeAll r t from h 0 (Nat.zero_le _)
  induction s with
  | nil =>
    intro skip hskip
    obtain rfl : skip = 0 := by simpa using hskip
    rfl
  | cons d s ih =>
    intro skip hskip
    cases skip with
    | succ skip => exact ih skip (by simpa using hskip)
    | zero =>
      have h : head r (d :: (s ++ t)) = _ := ht (d :: s) (by simp)
      simp only [List.cons_append, removeFrom, h]
      cases hm : head r (d :: s) with
      | none => simp only [Option.map_none, ih 0 (Nat.zero_le _), List.cons_append]
      | some m =>
        have hcut : (m.1 ++ t).length ≤ (s ++ t).length ↔ m.1.length ≤ s.length := by
          simp
        have hskip' : (s ++ t).length - (m.1 ++ t).length = s.length - m.1.length := by
          simp only [List.length_append]
          omega
        simp only [Option.map_some, hcut, hskip']
        split
        · exact ih _ (Nat.sub_le _ _)
        · rw [ih 0 (Nat.zero_le _), List.cons_append]

end Regex

end Ghostport.Lib
