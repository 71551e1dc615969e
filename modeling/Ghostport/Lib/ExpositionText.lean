import Ghostport.Lib.Exposition
import Mathlib.Data.List.TakeDrop
import Mathlib.Data.List.TakeWhile

/-!
# Printing groups of samples

A program prints its metrics one after the other: for each its `HELP` line, its `TYPE` line and
its samples, which have natural numbers for values.

Results:
* `labelValue_escaped`: the escaped value of a label is read back, whatever its characters.
* `parse_print`: so are the samples of well-formed metrics with distinct names.
-/

namespace Ghostport.Lib.Exposition

/-! ## Texts -/

def escapeChar (c : Char) : List Char :=
  if c = '\\' then ['\\', '\\']
  else if c = '"' then ['\\', '"']
  else if c = '\n' then ['\\', 'n']
  else [c]

def escaped (v : List Char) : List Char := v.flatMap escapeChar

def labelText (label : Label) : List Char := label.1 ++ '=' :: '"' :: (escaped label.2 ++ ['"'])

def labelsText : List Label → List Char
  | [] => []
  | [label] => labelText label
  | label :: labels => labelText label ++ ',' :: labelsText labels

/-- A sample without the name of its metric. -/
structure Series where
  labels : List Label
  value : ℕ

/-- What follows the name. -/
def Series.text (s : Series) : List Char :=
  if s.labels = [] then ' ' :: Nat.toDigits 10 s.value
  else '\x7b' :: (labelsText s.labels ++ '\x7d' :: ' ' :: Nat.toDigits 10 s.value)

/-- A metric. -/
structure Family where
  name : List Char
  help : List Char
  kind : List Char
  series : List Series

namespace Family

def lines (f : Family) : List (List Char) :=
  ("# HELP ".toList ++ f.name ++ ' ' :: f.help) :: ("# TYPE ".toList ++ f.name ++ ' ' :: f.kind) ::
    f.series.map fun s => f.name ++ s.text

def samples (f : Family) : List Sample :=
  f.series.map fun s => ⟨f.name, s.labels, .finite s.value, none⟩

def text (f : Family) : List Char := f.lines.flatMap (· ++ ['\n'])

end Family

def print (families : List Family) : List Char := families.flatMap Family.text

/-! ## Well-formed metrics -/

def isName (start char : Char → Bool) : List Char → Bool
  | [] => false
  | c :: s => start c && s.all char

structure Series.WellFormed (s : Series) : Prop where
  names : ∀ label ∈ s.labels, isName isLabelStart isLabelChar label.1
  nodup : (s.labels.map Prod.fst).Nodup

structure Family.WellFormed (f : Family) : Prop where
  name : isName isNameStart isNameChar f.name
  help : helpEscaped f.help ∧ '\n' ∉ f.help
  kind : f.kind ∈ kinds
  series : ∀ s ∈ f.series, s.WellFormed
  distinct : f.series.Pairwise fun s t => ¬ s.labels.Perm t.labels

/-- A help text without backslashes has nothing to escape. -/
theorem helpEscaped_of_not_mem {help : List Char} (h : '\\' ∉ help) : helpEscaped help := by
  induction help with
  | nil => rfl
  | cons c help ih =>
    rw [List.mem_cons, not_or] at h
    rw [helpEscaped.eq_def]
    simpa [Ne.symm h.1] using ih h.2

/-! ## Tokens -/

section

variable {s rest : List Char} {c d : Char}

/-- A class of characters without the blanks. -/
theorem isBlank_eq_false {p : Char → Bool} (hspace : p ' ' = false) (htab : p '\t' = false)
    (hc : p c) : isBlank c = false := by
  by_contra hblank
  have hcase : c = ' ' ∨ c = '\t' := by
    simpa only [isBlank, Bool.or_eq_true, decide_eq_true_eq, Bool.not_eq_false] using hblank
  rcases hcase with rfl | rfl
  · rw [hspace] at hc
    cases hc
  · rw [htab] at hc
    cases hc

theorem skipBlanks_cons (hc : isBlank c = false) : skipBlanks (c :: s) = c :: s :=
  List.dropWhile_cons_of_neg (by simp [hc])

@[simp] theorem skipBlanks_space : skipBlanks (' ' :: s) = skipBlanks s :=
  List.dropWhile_cons_of_pos rfl

theorem skipBlanks_eq_self (hs : ∀ c ∈ s, isBlank c = false) : skipBlanks s = s := by
  cases s with
  | nil => rfl
  | cons c s => exact skipBlanks_cons (hs c List.mem_cons_self)

theorem expect_self (hc : isBlank c = false) : expect c (c :: s) = some s := by
  simp [expect, skipBlanks_cons hc]

theorem expect_ne (hd : isBlank d = false) (h : d ≠ c) : expect c (d :: s) = none := by
  simp [expect, skipBlanks_cons hd, h]

theorem word_eq (s : List Char) :
    word s = (s.takeWhile fun c => !isBlank c, s.dropWhile fun c => !isBlank c) :=
  List.span_eq_takeWhile_dropWhile _ s

/-- A token that ends at a blank, or with the text. -/
theorem word_append (hs : ∀ c ∈ s, isBlank c = false) (hrest : rest.head?.all isBlank) :
    word (s ++ rest) = (s, rest) := by
  have hpos : ∀ c ∈ s, (!isBlank c) = true := fun c hc => by rw [hs c hc]; rfl
  rw [word_eq, List.takeWhile_append_of_pos hpos, List.dropWhile_append_of_pos hpos]
  cases rest with
  | nil => simp
  | cons c rest =>
    have hblank : isBlank c = true := by simpa using hrest
    simp [hblank]

theorem word_eq_self (hs : ∀ c ∈ s, isBlank c = false) : word s = (s, []) := by
  have h := @word_append s [] hs rfl
  rwa [List.append_nil] at h

theorem readName_append {start char : Char → Bool} (hs : isName start char s)
    (hrest : rest.head?.all fun c => !char c) :
    readName start char (s ++ rest) = some (s, rest) := by
  cases s with
  | nil => cases hs
  | cons c s =>
    obtain ⟨hstart, hchar⟩ : start c = true ∧ ∀ d ∈ s, char d = true := by
      simpa [isName] using hs
    rw [List.cons_append, readName, if_pos hstart, List.takeWhile_append_of_pos hchar,
      List.dropWhile_append_of_pos hchar]
    cases rest with
    | nil => simp
    | cons d rest =>
      have hend : char d = false := by simpa using hrest
      simp [hend]

end

/-! ## Labels -/

theorem escaped_cons (c : Char) (v : List Char) : escaped (c :: v) = escapeChar c ++ escaped v :=
  List.flatMap_cons

theorem labelValue_escaped (v rest : List Char) :
    labelValue (escaped v ++ '"' :: rest) = some (v, rest) := by
  induction v with
  | nil => exact labelValue_quote rest
  | cons c v ih =>
    rw [escaped_cons, List.append_assoc]
    by_cases hback : c = '\\'
    · subst hback
      show labelValue ('\\' :: '\\' :: (escaped v ++ '"' :: rest)) = _
      rw [labelValue_escape, ih]
      rfl
    by_cases hquote : c = '"'
    · subst hquote
      show labelValue ('\\' :: '"' :: (escaped v ++ '"' :: rest)) = _
      rw [labelValue_escape, ih]
      rfl
    by_cases hnew : c = '\n'
    · subst hnew
      show labelValue ('\\' :: 'n' :: (escaped v ++ '"' :: rest)) = _
      rw [labelValue_escape, ih]
      rfl
    have hplain : escapeChar c = [c] := by simp [escapeChar, hback, hquote, hnew]
    rw [hplain, List.singleton_append, labelValue_plain hquote hnew hback, ih]
    rfl

/-- A value without weight stands for itself. -/
theorem escaped_eq_self {v : List Char} (hv : weight v = 0) : escaped v = v := by
  induction v with
  | nil => rfl
  | cons c v ih =>
    obtain ⟨hback, hquote, hnew⟩ := weight_eq_zero.mp hv
    rw [List.mem_cons, not_or] at hback hquote hnew
    have hchar : escapeChar c = [c] := by
      simp [escapeChar, Ne.symm hback.1, Ne.symm hquote.1, Ne.symm hnew.1]
    have hrest : escaped v = v := ih (weight_eq_zero.mpr ⟨hback.2, hquote.2, hnew.2⟩)
    rw [escaped_cons, hchar, hrest, List.singleton_append]

section

variable {label : Label} {labels : List Label} {rest : List Char}

/-- The first character of a label is neither a blank nor a brace. -/
theorem labelText_head (h : isName isLabelStart isLabelChar label.1) :
    ∃ c s, labelText label = c :: s ∧ isLabelStart c := by
  unfold labelText
  cases hname : label.1 with
  | nil =>
    rw [hname] at h
    cases h
  | cons c s =>
    rw [hname] at h
    exact ⟨c, s ++ '=' :: '"' :: (escaped label.2 ++ ['"']), rfl, (Bool.and_eq_true_iff.mp h).1⟩

theorem isLabelStart_blank {c : Char} (h : isLabelStart c) : isBlank c = false :=
  isBlank_eq_false (by decide) (by decide) h

theorem isLabelStart_brace {c : Char} (h : isLabelStart c) : c ≠ '\x7d' := by
  rintro rfl
  exact absurd h (by decide)

theorem labelPair_text (h : isName isLabelStart isLabelChar label.1) :
    labelPair (labelText label ++ rest) = some (label, rest) := by
  obtain ⟨c, s, hhead, hstart⟩ := labelText_head h
  have hskip : skipBlanks (labelText label ++ rest) = labelText label ++ rest := by
    rw [hhead]
    exact skipBlanks_cons (isLabelStart_blank hstart)
  have htext : labelText label ++ rest =
      label.1 ++ ('=' :: '"' :: (escaped label.2 ++ '"' :: rest)) := by
    simp [labelText]
  rw [labelPair, hskip, htext, readName_append h rfl]
  simp only [Option.bind_eq_bind, Option.bind_some, expect_self (c := '=') rfl,
    expect_self (c := '"') rfl, labelValue_escaped]

theorem labelsText_cons (label : Label) (labels : List Label) :
    labelsText (label :: labels) =
      labelText label ++ if labels = [] then [] else ',' :: labelsText labels := by
  cases labels with
  | nil => simp [labelsText]
  | cons next labels => simp [labelsText]

theorem labelPairs_last {fuel : ℕ} {s : List Char} (hopen : expect '\x7d' s = none)
    (hpair : labelPair s = some (label, '\x7d' :: rest)) :
    labelPairs (fuel + 1) s = some ([label], rest) := by
  have hcomma : expect ',' ('\x7d' :: rest) = none := expect_ne rfl (by decide)
  have hclose : expect '\x7d' ('\x7d' :: rest) = some rest := expect_self rfl
  simp only [labelPairs, hopen, hpair, hcomma, hclose, Option.map_some]

theorem labelPairs_more {fuel : ℕ} {s t : List Char} (hopen : expect '\x7d' s = none)
    (hpair : labelPair s = some (label, ',' :: t)) :
    labelPairs (fuel + 1) s = (labelPairs fuel t).map fun r => (label :: r.1, r.2) := by
  have hcomma : expect ',' (',' :: t) = some t := expect_self rfl
  simp only [labelPairs, hopen, hpair, hcomma]

theorem labelPairs_text {fuel : ℕ} (h : ∀ label ∈ labels, isName isLabelStart isLabelChar label.1)
    (hfuel : labels.length < fuel) :
    labelPairs fuel (labelsText labels ++ '\x7d' :: rest) = some (labels, rest) := by
  induction labels generalizing fuel with
  | nil =>
    obtain ⟨fuel, rfl⟩ := Nat.exists_eq_add_one_of_ne_zero (Nat.ne_zero_of_lt hfuel)
    show labelPairs (fuel + 1) ('\x7d' :: rest) = _
    rw [labelPairs, expect_self rfl]
  | cons label labels ih =>
    obtain ⟨fuel, rfl⟩ := Nat.exists_eq_add_one_of_ne_zero (Nat.ne_zero_of_lt hfuel)
    have hlabel := h label List.mem_cons_self
    have hlabels : ∀ label ∈ labels, isName isLabelStart isLabelChar label.1 :=
      fun label hmem => h label (List.mem_cons_of_mem _ hmem)
    obtain ⟨c, s, hhead, hstart⟩ := labelText_head hlabel
    have hopen : ∀ t, expect '\x7d' (labelText label ++ t) = none := by
      intro t
      rw [hhead, List.cons_append]
      exact expect_ne (isLabelStart_blank hstart) (isLabelStart_brace hstart)
    rw [labelsText_cons, List.append_assoc]
    by_cases hlast : labels = []
    · subst hlast
      exact labelPairs_last (hopen _) (labelPair_text hlabel)
    · have hmore : labelPairs fuel (labelsText labels ++ '\x7d' :: rest) = some (labels, rest) :=
        ih hlabels (by simpa using hfuel)
      rw [if_neg hlast, List.cons_append, labelPairs_more (hopen _) (labelPair_text hlabel), hmore]
      rfl

end

/-! ## Values -/

theorem readSign_digit {c : Char} (hc : c.isDigit) (s : List Char) :
    readSign (c :: s) = (false, c :: s) := by
  have hminus : c ≠ '-' := by
    rintro rfl
    exact absurd hc (by decide)
  have hplus : c ≠ '+' := by
    rintro rfl
    exact absurd hc (by decide)
  unfold readSign
  split <;> simp_all

theorem readDecimal_digits {s : List Char} (hs : ∀ c ∈ s, c.isDigit) (hne : s ≠ []) :
    readDecimal s = some (digits s : ℚ) := by
  have htake : s.takeWhile Char.isDigit = s := List.takeWhile_eq_self_iff.mpr hs
  have hdrop : s.dropWhile Char.isDigit = [] := List.dropWhile_eq_nil_iff.mpr hs
  simp [readDecimal, List.span_eq_takeWhile_dropWhile, htake, hdrop, hne, readExponent]

theorem toDigits_cons (n : ℕ) : ∃ c s, Nat.toDigits 10 n = c :: s ∧ c.isDigit := by
  obtain ⟨c, s, hs⟩ := List.exists_cons_of_ne_nil (Nat.toDigits_ne_nil (n := n) (b := 10))
  refine ⟨c, s, hs, Nat.isDigit_of_mem_toDigits (b := 10) (n := n) (by decide) (by decide) ?_⟩
  rw [hs]
  exact List.mem_cons_self

theorem readValue_toDigits (n : ℕ) : readValue (Nat.toDigits 10 n) = some (.finite n) := by
  have hdigits : ∀ c ∈ Nat.toDigits 10 n, c.isDigit :=
    fun c hc => Nat.isDigit_of_mem_toDigits (by decide) (by decide) hc
  have hvalue : readDecimal (Nat.toDigits 10 n) = some (n : ℚ) := by
    rw [readDecimal_digits hdigits Nat.toDigits_ne_nil, digits,
      Nat.ofDigitChars_toDigits (by decide) (by decide)]
  have hsign : readSign (Nat.toDigits 10 n) = (false, Nat.toDigits 10 n) := by
    obtain ⟨c, s, hs, hc⟩ := toDigits_cons n
    rw [hs, readSign_digit hc]
  simp [readValue, hsign, hvalue]

theorem isBlank_toDigits (n : ℕ) : ∀ c ∈ Nat.toDigits 10 n, isBlank c = false :=
  fun _ hc => isBlank_eq_false (by decide) (by decide)
    (Nat.isDigit_of_mem_toDigits (by decide) (by decide) hc)

/-! ## Lines -/

theorem length_labelsText (labels : List Label) : labels.length ≤ (labelsText labels).length := by
  induction labels with
  | nil => exact Nat.zero_le _
  | cons label labels ih =>
    rw [labelsText_cons]
    split_ifs with hlast
    · rw [hlast]
      simp [labelText]
      omega
    · simp only [List.length_append, List.length_cons]
      omega

theorem labelSet_text {s : Series} (h : s.WellFormed) :
    labelSet s.text = some (s.labels, ' ' :: Nat.toDigits 10 s.value) := by
  by_cases hnone : s.labels = []
  · have htext : s.text = ' ' :: Nat.toDigits 10 s.value := if_pos hnone
    obtain ⟨c, t, hdigits, hc⟩ := toDigits_cons s.value
    have hbrace : c ≠ '\x7b' := by
      rintro rfl
      exact absurd hc (by decide)
    have hexpect : expect '\x7b' (' ' :: c :: t) = none := by
      have hdigit : isBlank c = false := isBlank_eq_false (by decide) (by decide) hc
      simp [expect, skipBlanks_cons hdigit, hbrace]
    rw [htext, hnone, hdigits, labelSet, hexpect]
    rfl
  · have htext : s.text =
        '\x7b' :: (labelsText s.labels ++ '\x7d' :: ' ' :: Nat.toDigits 10 s.value) := if_neg hnone
    rw [htext, labelSet, expect_self rfl]
    refine labelPairs_text h.names ?_
    have hlength := length_labelsText s.labels
    simp only [List.length_append]
    omega

theorem isBlank_of_isName {name : List Char} (h : isName isNameStart isNameChar name) :
    ∀ c ∈ name, isBlank c = false := by
  cases name with
  | nil => cases h
  | cons c name =>
    obtain ⟨hstart, hchar⟩ : isNameStart c = true ∧ ∀ d ∈ name, isNameChar d = true := by
      simpa [isName] using h
    intro d hd
    refine isBlank_eq_false (p := isNameChar) (by decide) (by decide) ?_
    rcases List.mem_cons.mp hd with rfl | hd
    · simp [isNameChar, hstart]
    · exact hchar d hd

theorem readSample_text {name : List Char} {s : Series} (hname : isName isNameStart isNameChar name)
    (h : s.WellFormed) :
    readSample (name ++ s.text) = some ⟨name, s.labels, .finite s.value, none⟩ := by
  have hread : readName isNameStart isNameChar (name ++ s.text) = some (name, s.text) := by
    refine readName_append hname ?_
    unfold Series.text
    split <;> rfl
  have hskip : skipBlanks (' ' :: Nat.toDigits 10 s.value) = Nat.toDigits 10 s.value := by
    rw [skipBlanks_space, skipBlanks_eq_self (isBlank_toDigits s.value)]
  have hword : word (Nat.toDigits 10 s.value) = (Nat.toDigits 10 s.value, []) :=
    word_eq_self (isBlank_toDigits s.value)
  rw [readSample, hread]
  simp only [Option.bind_eq_bind, Option.bind_some, labelSet_text h, hskip, hword,
    readValue_toDigits, if_pos h.nodup]
  rfl

theorem readLine_sample {name : List Char} {s : Series} (hname : isName isNameStart isNameChar name)
    (h : s.WellFormed) :
    readLine (name ++ s.text) = some (.sample ⟨name, s.labels, .finite s.value, none⟩) := by
  have hsample := readSample_text hname h
  cases name with
  | nil => cases hname
  | cons c name =>
    have hstart : isNameStart c := (Bool.and_eq_true_iff.mp hname).1
    have hhash : c ≠ '#' := by
      rintro rfl
      exact absurd hstart (by decide)
    have hskip : skipBlanks (c :: name ++ s.text) = c :: (name ++ s.text) :=
      skipBlanks_cons (isBlank_eq_false (by decide) (by decide) hstart)
    rw [List.cons_append] at hsample
    simp only [readLine, hskip, if_neg hhash, hsample, Option.map_some]

theorem readLine_hash (s : List Char) : readLine ('#' :: s) = readComment s := by
  have hskip : skipBlanks ('#' :: s) = '#' :: s := skipBlanks_cons rfl
  simp only [readLine, hskip, if_true]

theorem skipBlanks_name {name : List Char} (h : isName isNameStart isNameChar name)
    (rest : List Char) : skipBlanks (' ' :: (name ++ rest)) = name ++ rest := by
  rw [skipBlanks_space]
  cases name with
  | nil => cases h
  | cons c name =>
    have hstart : isNameStart c := (Bool.and_eq_true_iff.mp h).1
    exact skipBlanks_cons (isBlank_eq_false (by decide) (by decide) hstart)

/-- A keyword is a name, and ends at a blank. -/
theorem word_keyword {keyword : List Char} (h : isName isNameStart isNameChar keyword)
    (rest : List Char) :
    word (skipBlanks (' ' :: (keyword ++ ' ' :: rest))) = (keyword, ' ' :: rest) := by
  rw [skipBlanks_name h]
  exact word_append (isBlank_of_isName h) rfl

theorem readLine_help {f : Family} (h : f.WellFormed) :
    readLine ("# HELP ".toList ++ f.name ++ ' ' :: f.help) = some (.help f.name) := by
  have hline : "# HELP ".toList ++ f.name ++ ' ' :: f.help =
      '#' :: ' ' :: ("HELP".toList ++ ' ' :: (f.name ++ ' ' :: f.help)) := by simp
  have hname : readName isNameStart isNameChar (f.name ++ ' ' :: f.help) =
      some (f.name, ' ' :: f.help) := readName_append h.name rfl
  rw [hline, readLine_hash, readComment, word_keyword (by decide)]
  have hhelp : helpEscaped (' ' :: f.help) := by
    rw [helpEscaped.eq_def]
    simpa using h.help.1
  simp only [if_true, skipBlanks_name h.name, hname]
  refine if_pos ?_
  exact ⟨rfl, hhelp⟩

theorem kinds_isName {kind : List Char} (h : kind ∈ kinds) :
    isName isNameStart isNameChar kind := by
  have hall : kinds.all (isName isNameStart isNameChar) := by decide
  exact List.all_eq_true.mp hall kind h

theorem readLine_type {f : Family} (h : f.WellFormed) :
    readLine ("# TYPE ".toList ++ f.name ++ ' ' :: f.kind) = some (.type f.name f.kind) := by
  have hline : "# TYPE ".toList ++ f.name ++ ' ' :: f.kind =
      '#' :: ' ' :: ("TYPE".toList ++ ' ' :: (f.name ++ ' ' :: f.kind)) := by simp
  have hname : readName isNameStart isNameChar (f.name ++ ' ' :: f.kind) =
      some (f.name, ' ' :: f.kind) := readName_append h.name rfl
  have hkind : isName isNameStart isNameChar f.kind := kinds_isName h.kind
  have hskip : skipBlanks (' ' :: f.kind) = f.kind := by
    simpa using skipBlanks_name hkind []
  have hword : word f.kind = (f.kind, []) := word_eq_self (isBlank_of_isName hkind)
  rw [hline, readLine_hash, readComment, word_keyword (by decide)]
  have hne : "TYPE".toList ≠ "HELP".toList := by decide
  simp only [if_neg hne, if_true, skipBlanks_name h.name, hname, hskip, hword]
  refine if_pos ?_
  exact ⟨rfl, h.kind, rfl⟩

/-! ## Groups -/

namespace Progress

variable {p p' : Progress} {name : List Char}

theorem run_cons {text : List Char} {line : Line} (hread : readLine text = some line)
    (hstep : p.step line = some p') (lines : List (List Char)) :
    p.run (text :: lines) = p'.run lines := by
  simp only [run, hread, hstep]

theorem enter_head (hhead : p.names.head? = some name) : p.enter name = some p := if_pos hhead

theorem enter_new (hnew : name ∉ p.names) :
    p.enter name = some ⟨name :: p.names, false, false, [], p.samples⟩ := by
  have hhead : p.names.head? ≠ some name := fun h => hnew (List.mem_of_head? h)
  rw [enter, if_neg hhead, if_neg hnew]

/-- The samples of the metric that has been entered. -/
theorem run_series {series : List Series} (hname : isName isNameStart isNameChar name)
    (hhead : p.names.head? = some name) (hseries : ∀ s ∈ series, s.WellFormed)
    (hdistinct : series.Pairwise fun s t => ¬ s.labels.Perm t.labels)
    (hnew : ∀ s ∈ series, ∀ labels ∈ p.series, ¬ labels.Perm s.labels) (lines : List (List Char)) :
    p.run ((series.map fun s => name ++ s.text) ++ lines) =
      run
        { p with
          series := (series.map Series.labels).reverse ++ p.series
          samples := p.samples ++ series.map fun s => ⟨name, s.labels, .finite s.value, none⟩ }
        lines := by
  induction series generalizing p with
  | nil => simp
  | cons s series ih =>
    obtain ⟨hdisjoint, hdistinct⟩ := List.pairwise_cons.mp hdistinct
    have hany : (p.series.any fun labels => labels.isPerm s.labels) = false := by
      rw [List.any_eq_false]
      intro labels hmem hperm
      exact hnew s List.mem_cons_self labels hmem (List.isPerm_iff.mp hperm)
    let next : Progress :=
      { p with
        series := s.labels :: p.series
        samples := p.samples ++ [⟨name, s.labels, .finite s.value, none⟩] }
    have hstep : p.step (.sample ⟨name, s.labels, .finite s.value, none⟩) = some next := by
      simp only [step, enter_head hhead, hany]
      rfl
    have hnext : ∀ t ∈ series, ∀ labels ∈ next.series, ¬ labels.Perm t.labels := by
      intro t ht labels hlabels
      rcases List.mem_cons.mp hlabels with rfl | hlabels
      · exact hdisjoint t ht
      · exact hnew t (List.mem_cons_of_mem s ht) labels hlabels
    have hrest := ih (p := next) hhead (fun t ht => hseries t (List.mem_cons_of_mem s ht))
      hdistinct hnext
    rw [List.map_cons, List.cons_append,
      run_cons (readLine_sample hname (hseries s List.mem_cons_self)) hstep, hrest]
    simp [next]

/-- A metric that has not been read yet. -/
theorem run_family {f : Family} (h : f.WellFormed) (hnew : f.name ∉ p.names)
    (lines : List (List Char)) :
    ∃ p' : Progress, p'.names = f.name :: p.names ∧ p'.samples = p.samples ++ f.samples ∧
      p.run (f.lines ++ lines) = p'.run lines := by
  have hhelp : p.step (.help f.name) =
      some ⟨f.name :: p.names, true, false, [], p.samples⟩ := by
    simp only [step, enter_new hnew]
    rfl
  have htype : step ⟨f.name :: p.names, true, false, [], p.samples⟩ (.type f.name f.kind) =
      some ⟨f.name :: p.names, true, true, [], p.samples⟩ := by
    rw [step, enter_head rfl]
    rfl
  rw [Family.lines, List.cons_append, List.cons_append, run_cons (readLine_help h) hhelp,
    run_cons (readLine_type h) htype,
    run_series h.name rfl h.series h.distinct (fun _ _ _ hmem => absurd hmem List.not_mem_nil)]
  exact ⟨_, rfl, rfl, rfl⟩

theorem run_families {families : List Family} (h : ∀ f ∈ families, f.WellFormed)
    (hnodup : (families.map Family.name).Nodup) (hnew : ∀ f ∈ families, f.name ∉ p.names) :
    (p.run (families.flatMap Family.lines)).map samples =
      some (p.samples ++ families.flatMap Family.samples) := by
  induction families generalizing p with
  | nil => simp [run]
  | cons f families ih =>
    obtain ⟨hname, hnodup⟩ := List.nodup_cons.mp hnodup
    obtain ⟨p', hnames, hsamples, hrun⟩ :=
      run_family (h f List.mem_cons_self) (hnew f List.mem_cons_self)
        (families.flatMap Family.lines)
    rw [List.flatMap_cons, hrun, ih (fun g hg => h g (List.mem_cons_of_mem f hg)) hnodup, hsamples,
      List.flatMap_cons, List.append_assoc]
    intro g hg hmem
    rw [hnames] at hmem
    rcases List.mem_cons.mp hmem with heq | hmem
    · exact hname (List.mem_map.mpr ⟨g, hg, heq⟩)
    · exact hnew g (List.mem_cons_of_mem f hg) hmem

end Progress

/-! ## The text -/

theorem textLines_append {line : List Char} (read : List Char) (hline : '\n' ∉ line)
    (text : List Char) : textLines read (line ++ text) = textLines (read ++ line) text := by
  induction line generalizing read with
  | nil => simp
  | cons c line ih =>
    rw [List.mem_cons, not_or] at hline
    rw [List.cons_append, textLines, if_neg (Ne.symm hline.1), ih _ hline.2]
    simp

theorem textLines_print {lines : List (List Char)} (h : ∀ line ∈ lines, '\n' ∉ line) :
    textLines [] (lines.flatMap (· ++ ['\n'])) = some lines := by
  induction lines with
  | nil => rfl
  | cons line lines ih =>
    rw [List.flatMap_cons, List.append_assoc, textLines_append [] (h line List.mem_cons_self),
      List.singleton_append, textLines, if_pos rfl,
      ih fun line hline => h line (List.mem_cons_of_mem _ hline)]
    rfl

/-- A name has no character that neither class has. -/
theorem not_mem_of_isName {start char : Char → Bool} {name : List Char} {d : Char}
    (h : isName start char name) (hstart : start d = false) (hchar : char d = false) :
    d ∉ name := by
  cases name with
  | nil => cases h
  | cons c name =>
    obtain ⟨hc, hname⟩ : start c = true ∧ ∀ e ∈ name, char e = true := by
      simpa [isName] using h
    intro hmem
    rcases List.mem_cons.mp hmem with rfl | hmem
    · rw [hstart] at hc
      cases hc
    · rw [hname d hmem] at hchar
      cases hchar

theorem newline_not_mem_escaped (v : List Char) : '\n' ∉ escaped v := by
  unfold escaped
  rw [List.mem_flatMap]
  rintro ⟨c, -, hc⟩
  unfold escapeChar at hc
  split_ifs at hc with hback hquote hnew <;> simp at hc
  exact hnew hc.symm

theorem newline_not_mem_labelsText {labels : List Label}
    (h : ∀ label ∈ labels, isName isLabelStart isLabelChar label.1) : '\n' ∉ labelsText labels := by
  induction labels with
  | nil => exact List.not_mem_nil
  | cons label labels ih =>
    have hlabel : '\n' ∉ labelText label := by
      have hname : '\n' ∉ label.1 :=
        not_mem_of_isName (h label List.mem_cons_self) (by decide) (by decide)
      simp [labelText, hname, newline_not_mem_escaped]
    have hlabels := ih fun label hmem => h label (List.mem_cons_of_mem _ hmem)
    rw [labelsText_cons, List.mem_append, not_or]
    refine ⟨hlabel, ?_⟩
    split_ifs
    · exact List.not_mem_nil
    · simp [hlabels]

theorem newline_not_mem_text {s : Series} (h : s.WellFormed) : '\n' ∉ s.text := by
  have hvalue : '\n' ∉ Nat.toDigits 10 s.value := fun hmem =>
    absurd (Nat.isDigit_of_mem_toDigits (by decide) (by decide) hmem) (by decide)
  have hlabels := newline_not_mem_labelsText h.names
  unfold Series.text
  split_ifs <;> simp [hvalue, hlabels]

theorem newline_not_mem_lines {f : Family} (h : f.WellFormed) :
    ∀ line ∈ f.lines, '\n' ∉ line := by
  have hname : '\n' ∉ f.name := not_mem_of_isName h.name (by decide) (by decide)
  have hkind : '\n' ∉ f.kind :=
    not_mem_of_isName (kinds_isName h.kind) (by decide) (by decide)
  intro line hline
  rcases List.mem_cons.mp hline with rfl | hline
  · simp [hname, h.help.2]
  rcases List.mem_cons.mp hline with rfl | hline
  · simp [hname, hkind]
  obtain ⟨s, hs, rfl⟩ := List.mem_map.mp hline
  rw [List.mem_append, not_or]
  exact ⟨hname, newline_not_mem_text (h.series s hs)⟩

/-- The samples of well-formed metrics are what is read of their text. -/
theorem parse_print {families : List Family} (h : ∀ f ∈ families, f.WellFormed)
    (hnodup : (families.map Family.name).Nodup) :
    parse (print families) = some (families.flatMap Family.samples) := by
  have htext : print families = (families.flatMap Family.lines).flatMap (· ++ ['\n']) :=
    List.flatMap_assoc.symm
  have hlines : textLines [] (print families) = some (families.flatMap Family.lines) := by
    rw [htext]
    refine textLines_print fun line hline => ?_
    obtain ⟨f, hf, hline⟩ := List.mem_flatMap.mp hline
    exact newline_not_mem_lines (h f hf) line hline
  have hrun := Progress.run_families (p := .start) h hnodup (fun _ _ => List.not_mem_nil)
  rw [parse, hlines]
  exact hrun

end Ghostport.Lib.Exposition
