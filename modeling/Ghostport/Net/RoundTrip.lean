import Mathlib.Data.List.Infix
import Mathlib.Tactic.Ring
import Ghostport.Net.Addr

/-!
# Addresses print and parse back

Results:
* `ip_parse_display`: `IpAddr::from_str` reads back what `Display` prints.
* `display_eq`: the text of a socket address ends in the port, and has address
  characters only.
-/

namespace Ghostport.Net

/-! ## Digits -/

theorem toDigit_digitChar :
    ∀ radix ≤ 16, ∀ d < radix, toDigit radix (Nat.digitChar d) = some d := by
  decide

/-- The text does not go on with a digit. -/
def NoDigit (radix : ℕ) (s : List Char) : Prop := ∀ c ∈ s.head?, toDigit radix c = none

theorem noDigit_nil (radix : ℕ) : NoDigit radix [] := by simp [NoDigit]

theorem noDigit_cons {radix : ℕ} {c : Char} {s : List Char} (h : toDigit radix c = none) :
    NoDigit radix (c :: s) := by simpa [NoDigit] using h

theorem digit_of_mem_toDigits {radix : ℕ} (h1 : 1 < radix) (h16 : radix ≤ 16) (n : ℕ) :
    ∀ c ∈ Nat.toDigits radix n, ∃ d < radix, c = Nat.digitChar d := by
  induction n using Nat.strong_induction_on with
  | _ n ih =>
    rw [Nat.toDigits_eq_if h1]
    split
    · rename_i hn
      intro c hc
      exact ⟨n, hn, by simpa using hc⟩
    · rename_i hn
      intro c hc
      rcases List.mem_append.mp hc with hc | hc
      · exact ih (n / radix) (Nat.div_lt_self (by omega) h1) c hc
      · exact ⟨n % radix, Nat.mod_lt _ (by omega), by simpa using hc⟩

/-- Reading on through the digits of a number: the digits stand for themselves. -/
theorem readDigits_toDigits {radix m bound : ℕ} (h1 : 1 < radix) (h16 : radix ≤ 16) (n : ℕ)
    {count result : ℕ} {rest : List Char}
    (hm : count + (Nat.toDigits radix n).length ≤ m) :
    readDigits radix (some m) bound count result (Nat.toDigits radix n ++ rest) =
      readDigits radix (some m) bound (count + (Nat.toDigits radix n).length)
        (result * radix ^ (Nat.toDigits radix n).length + n) rest := by
  induction n using Nat.strong_induction_on generalizing count result rest with
  | _ n ih =>
    rw [Nat.toDigits_eq_if h1] at hm ⊢
    split
    · rename_i hn
      rw [if_pos hn] at hm
      have hd := toDigit_digitChar radix h16 n hn
      simp only [List.length_singleton] at hm ⊢
      have hcount : ¬ count + 1 > m := by omega
      simp only [List.singleton_append, readDigits, hd, if_neg hcount, pow_one]
    · rename_i hn
      rw [if_neg hn] at hm
      simp only [List.length_append, List.length_singleton] at hm ⊢
      have hlt : n % radix < radix := Nat.mod_lt _ (by omega)
      have hd := toDigit_digitChar radix h16 (n % radix) hlt
      rw [List.append_assoc, ih (n / radix) (Nat.div_lt_self (by omega) h1) (by omega)]
      have hcount : ¬ count + (Nat.toDigits radix (n / radix)).length + 1 > m := by omega
      have hvalue : (result * radix ^ (Nat.toDigits radix (n / radix)).length + n / radix) * radix +
          n % radix =
          result * radix ^ ((Nat.toDigits radix (n / radix)).length + 1) + n := by
        have hdiv : n / radix * radix + n % radix = n := Nat.div_add_mod' n radix
        rw [pow_succ, Nat.add_mul, Nat.mul_assoc, Nat.add_assoc, hdiv]
      simp only [List.singleton_append, readDigits, hd, hvalue]
      rw [if_neg hcount, Nat.add_assoc]

theorem readDigits_stop {radix bound count result : ℕ} {maxDigits : Option ℕ} {s : List Char}
    (h : NoDigit radix s) :
    readDigits radix maxDigits bound count result s = some (count, result, s) := by
  cases s with
  | nil => rfl
  | cons c s =>
    have hc : toDigit radix c = none := h c rfl
    simp [readDigits, hc]

/-- Only zero is written with a zero in front. -/
theorem head_toDigits_ne {radix : ℕ} (h1 : 1 < radix) (h16 : radix ≤ 16) {n : ℕ} (hn : 0 < n) :
    (Nat.toDigits radix n).head? ≠ some '0' := by
  induction n using Nat.strong_induction_on with
  | _ n ih =>
    rw [Nat.toDigits_eq_if h1]
    split
    · rename_i hlt
      have hchar : ∀ d < 16, 0 < d → Nat.digitChar d ≠ '0' := by decide
      simpa using hchar n (by omega) hn
    · rename_i hge
      have hpos : 0 < n / radix := Nat.div_pos (by omega) (by omega)
      rw [List.head?_append_of_ne_nil _ Nat.toDigits_ne_nil]
      exact ih (n / radix) (Nat.div_lt_self hn h1) hpos

theorem readNumber_toDigits {radix m bound : ℕ} (h1 : 1 < radix) (h16 : radix ≤ 16) {n : ℕ}
    (allowZeroPrefix : Bool) (hm : (Nat.toDigits radix n).length ≤ m) (hn : n ≤ bound)
    {rest : List Char} (hrest : NoDigit radix rest) :
    readNumber radix (some m) allowZeroPrefix bound (Nat.toDigits radix n ++ rest) =
      some (n, rest) := by
  have hlen : 0 < (Nat.toDigits radix n).length := Nat.length_toDigits_pos
  have hdigits : readDigits radix (some m) bound 0 0 (Nat.toDigits radix n ++ rest) =
      some ((Nat.toDigits radix n).length, n, rest) := by
    rw [readDigits_toDigits h1 h16 n (by omega), readDigits_stop hrest]
    simp
  have hzero : (!allowZeroPrefix && (Nat.toDigits radix n ++ rest).head? = some '0' &&
      (Nat.toDigits radix n).length > 1) = false := by
    rw [List.head?_append_of_ne_nil _ Nat.toDigits_ne_nil]
    rcases Nat.eq_zero_or_pos n with rfl | hpos
    · simp [Nat.toDigits_zero]
    · simp [head_toDigits_ne h1 h16 hpos]
  unfold readNumber
  simp only [hdigits, hzero, Bool.false_eq_true, if_false, if_pos hn]
  rw [if_neg (by omega)]

/-! ## IPv4 -/

theorem readOctet_decimal (index : ℕ) (b : UInt8) {rest : List Char} (hrest : NoDigit 10 rest) :
    readOctet index ((if index > 0 then ['.'] else []) ++ decimal b.toNat ++ rest) =
      some (b, rest) := by
  have hlt : b.toNat < 256 := b.toNat_lt
  have hlen : (Nat.toDigits 10 b.toNat).length ≤ 3 := by
    rw [Nat.length_toDigits_le_iff (by decide) (by decide)]
    omega
  have hnum := readNumber_toDigits (by decide) (by decide) false hlen
    (show b.toNat ≤ 255 by omega) hrest
  unfold readOctet readSeparator decimal
  split
  · simp [readGivenChar, hnum]
  · simp [hnum]

theorem noDigit_dot (s : List Char) : NoDigit 10 ('.' :: s) := noDigit_cons (by decide)

theorem readIpv4Addr_display (ip : Ipv4Addr) {rest : List Char} (hrest : NoDigit 10 rest) :
    readIpv4Addr (ip.display ++ rest) = some (ip, rest) := by
  have ha := readOctet_decimal 0 ip.a
    (noDigit_dot (decimal ip.b.toNat ++ '.' :: decimal ip.c.toNat ++ '.' :: decimal ip.d.toNat ++
      rest))
  have hb := readOctet_decimal 1 ip.b
    (noDigit_dot (decimal ip.c.toNat ++ '.' :: decimal ip.d.toNat ++ rest))
  have hc := readOctet_decimal 2 ip.c (noDigit_dot (decimal ip.d.toNat ++ rest))
  have hd := readOctet_decimal 3 ip.d hrest
  simp only [gt_iff_lt, lt_self_iff_false, if_false, List.nil_append, Nat.lt_add_one,
    if_true, List.append_assoc, List.cons_append, zero_lt_two,
    show (0 : ℕ) < 3 by decide] at ha hb hc hd
  unfold readIpv4Addr Ipv4Addr.display
  simp only [List.append_assoc, List.cons_append, ha, hb, hc, hd, Option.bind_eq_bind,
    Option.bind_some]

/-! ## IPv6 -/

/-- Hexadecimal groups with colons between them, as `read_groups` reads them from index
    `i` on. -/
def groupsText (i : ℕ) : List UInt16 → List Char
  | [] => []
  | g :: gs => (if i > 0 then [':'] else []) ++ lowerHex g.toNat ++ groupsText (i + 1) gs

theorem groupsText_succ (i j : ℕ) (gs : List UInt16) :
    groupsText (i + 1) gs = groupsText (j + 1) gs := by
  induction gs generalizing i j with
  | nil => rfl
  | cons g gs ih => simp [groupsText, ih (i + 1) (j + 1)]

theorem fmtSubslice_eq (gs : List UInt16) : fmtSubslice gs = groupsText 0 gs := by
  induction gs with
  | nil => rfl
  | cons g gs ih =>
    cases gs with
    | nil => simp [fmtSubslice, groupsText]
    | cons g' gs =>
      rw [fmtSubslice, ih]
      · simp [groupsText, groupsText_succ 1 0]
      · simp

/-- What `readDigits` leaves is the rest after some digits. -/
theorem readDigits_rest {radix bound : ℕ} {maxDigits : Option ℕ} {s : List Char}
    {count result : ℕ} {r : ℕ × ℕ × List Char}
    (h : readDigits radix maxDigits bound count result s = some r) :
    ∃ y, s = y ++ r.2.2 ∧ ∀ c ∈ y, (toDigit radix c).isSome := by
  induction s generalizing count result with
  | nil =>
    cases h
    exact ⟨[], rfl, by simp⟩
  | cons c s ih =>
    have later : ∀ {count result d : ℕ}, toDigit radix c = some d →
        readDigits radix maxDigits bound count result s = some r →
        ∃ y, c :: s = y ++ r.2.2 ∧ ∀ c ∈ y, (toDigit radix c).isSome := by
      intro count result d hd h
      obtain ⟨y, rfl, hy⟩ := ih h
      exact ⟨c :: y, rfl, by simpa using ⟨by simp [hd], hy⟩⟩
    simp only [readDigits] at h
    split at h
    · cases h
      exact ⟨[], rfl, by simp⟩
    · rename_i d hd
      split at h
      · split at h
        · cases h
        · exact later hd h
      · split at h
        · cases h
        · exact later hd h

/-- What the first octet leaves is the rest after some digits. -/
theorem readOctet_rest {s s' : List Char} {n : UInt8} (h : readOctet 0 s = some (n, s')) :
    ∃ y, s = y ++ s' ∧ ∀ c ∈ y, (toDigit 10 c).isSome := by
  obtain ⟨⟨m, s''⟩, hm, heq⟩ := Option.map_eq_some_iff.mp h
  cases heq
  simp only [readSeparator, gt_iff_lt, lt_self_iff_false, if_false, readNumber] at hm
  split at hm
  · cases hm
  · rename_i count result s₁ hread
    obtain ⟨y, hy, hdigits⟩ := readDigits_rest hread
    split at hm
    · cases hm
    · split at hm
      · cases hm
      · split at hm
        · cases hm
          exact ⟨y, hy, hdigits⟩
        · cases hm

/-- The text is no octet followed by a dot: it begins with hexadecimal digits, and what
    follows them is neither a dot nor a digit. -/
theorem readIpv4Addr_hex {x rest : List Char} (hx : ∀ c ∈ x, c ≠ '.')
    (hrest : NoDigit 10 rest) (hdot : rest.head? ≠ some '.') :
    readIpv4Addr (x ++ rest) = none := by
  -- what is left after the first octet does not begin with a dot
  have hoctet : ∀ b s', readOctet 0 (x ++ rest) = some (b, s') → s'.head? ≠ some '.' := by
    intro b s' h
    obtain ⟨y, hy, hdigits⟩ := readOctet_rest h
    rcases List.append_eq_append_iff.mp hy with ⟨z, rfl, hz⟩ | ⟨z, hz, hs⟩
    · -- the digits reach into `rest`, which does not begin with one
      cases z with
      | nil =>
        rw [List.nil_append] at hz
        rwa [← hz]
      | cons c z =>
        have hc := hdigits c (by simp)
        rw [hz] at hrest
        rw [hrest c rfl] at hc
        cases hc
    · rw [hs]
      cases z with
      | nil => exact hdot
      | cons c z =>
        have hc : c ≠ '.' := hx c (by simp [hz])
        simpa using hc
  unfold readIpv4Addr
  cases hfirst : readOctet 0 (x ++ rest) with
  | none => rfl
  | some r =>
    obtain ⟨b, s'⟩ := r
    have hhead := hoctet b s' hfirst
    have hsecond : readOctet 1 s' = none := by
      unfold readOctet readSeparator
      cases s' with
      | nil => rfl
      | cons c s' =>
        have hc : c ≠ '.' := by simpa using hhead
        simp [readGivenChar, hc]
    simp [hsecond]

theorem noDigit_ten {s : List Char} (h : NoDigit 16 s) : NoDigit 10 s := by
  intro c hc
  have h16 := h c hc
  by_cases hdec : '0' ≤ c ∧ c ≤ '9'
  · have hle : c.toNat ≤ '9'.toNat := hdec.2
    have hlt : c.toNat - '0'.toNat < 16 := by
      have h0 : '0'.toNat = 48 := rfl
      have h9 : '9'.toNat = 57 := rfl
      omega
    simp only [toDigit, if_pos hdec, if_pos hlt] at h16
    cases h16
  · simp only [toDigit, if_neg hdec]
    -- letters stand for ten or more
    split
    · rw [if_neg (by omega)]
    · split <;> rw [if_neg (by omega)]

theorem noDigit_colon (s : List Char) : NoDigit 16 (':' :: s) := noDigit_cons (by decide)

theorem lowerHex_chars {n : ℕ} : ∀ c ∈ lowerHex n, c ≠ '.' ∧ c ≠ ':' := by
  intro c hc
  obtain ⟨d, hd, rfl⟩ := digit_of_mem_toDigits (by decide) (by decide) n c hc
  have hall : ∀ d < 16, Nat.digitChar d ≠ '.' ∧ Nat.digitChar d ≠ ':' := by decide
  exact hall d hd

/-- What comes after the groups is not a dot and not a digit. -/
structure AfterGroups (rest : List Char) : Prop where
  digit : NoDigit 16 rest
  dot : rest.head? ≠ some '.'

theorem AfterGroups.groupsText {rest : List Char} (h : AfterGroups rest) (i : ℕ)
    (gs : List UInt16) : AfterGroups (groupsText (i + 1) gs ++ rest) := by
  cases gs with
  | nil => exact h
  | cons g gs => exact ⟨noDigit_colon _, by simp [Net.groupsText]⟩

/-- No group can be read, after a colon where one is needed. -/
def NoGroup (i : ℕ) (s : List Char) : Prop :=
  readSeparator ':' i readIpv4Addr s = none ∧
    readSeparator ':' i (readNumber 16 (some 4) true 65535) s = none

theorem readNumber_none {radix m bound : ℕ} {zeros : Bool} {s : List Char}
    (h : NoDigit radix s) : readNumber radix (some m) zeros bound s = none := by
  simp [readNumber, readDigits_stop h]

theorem readIpv4Addr_none {s : List Char} (h : NoDigit 10 s) : readIpv4Addr s = none := by
  have hoctet : readOctet 0 s = none := by
    simp [readOctet, readSeparator, readNumber_none h]
  simp [readIpv4Addr, hoctet]

theorem noGroup_nil (i : ℕ) : NoGroup i [] := by
  have h4 := readIpv4Addr_none (noDigit_nil 10)
  have h16 : readNumber 16 (some 4) true 65535 [] = none := readNumber_none (noDigit_nil 16)
  unfold NoGroup readSeparator
  split
  · exact ⟨rfl, rfl⟩
  · exact ⟨h4, h16⟩

theorem noGroup_colons (i : ℕ) (s : List Char) : NoGroup i (':' :: ':' :: s) := by
  have hfirst := noDigit_colon (':' :: s)
  have hsecond := noDigit_colon s
  unfold NoGroup readSeparator readGivenChar
  simp only [if_true]
  split
  · exact ⟨readIpv4Addr_none (noDigit_ten hsecond), readNumber_none hsecond⟩
  · exact ⟨readIpv4Addr_none (noDigit_ten hfirst), readNumber_none hfirst⟩

/-- Groups are no IPv4 address. -/
theorem readIpv4Addr_groups {gs : List UInt16} {rest : List Char} (hrest : AfterGroups rest) :
    readIpv4Addr (groupsText 0 gs ++ rest) = none := by
  cases gs with
  | nil => exact readIpv4Addr_none (noDigit_ten hrest.digit)
  | cons g gs =>
    have hafter := hrest.groupsText 0 gs
    simp only [groupsText, gt_iff_lt, lt_self_iff_false, if_false, List.nil_append,
      List.append_assoc]
    exact readIpv4Addr_hex (fun c hc => (lowerHex_chars c hc).1) (noDigit_ten hafter.digit)
      hafter.dot

theorem readGroups_text {limit n i : ℕ} {gs : List UInt16} {rest : List Char}
    (hn : gs.length ≤ n) (hrest : AfterGroups rest)
    (hstop : gs.length = n ∨ NoGroup (i + gs.length) rest) :
    readGroups limit n i (groupsText i gs ++ rest) = (gs, false, rest) := by
  induction gs generalizing n i with
  | nil =>
    cases n with
    | zero => rfl
    | succ n =>
      have hnone : NoGroup i rest := hstop.resolve_left (by simp)
      simp only [groupsText, List.nil_append, readGroups, hnone.1, hnone.2, ite_self]
  | cons g gs ih =>
    obtain ⟨n, rfl⟩ : ∃ n', n = n' + 1 := ⟨n - 1, by simp at hn; omega⟩
    have hafter := hrest.groupsText i gs
    have hlt : g.toNat < 65536 := g.toNat_lt
    have hlen : (Nat.toDigits 16 g.toNat).length ≤ 4 := by
      rw [Nat.length_toDigits_le_iff (by decide) (by decide)]
      omega
    have hnum : readNumber 16 (some 4) true 65535
        (lowerHex g.toNat ++ (groupsText (i + 1) gs ++ rest)) =
          some (g.toNat, groupsText (i + 1) gs ++ rest) :=
      readNumber_toDigits (by decide) (by decide) true hlen (by omega) hafter.digit
    have hipv4 : readIpv4Addr (lowerHex g.toNat ++ (groupsText (i + 1) gs ++ rest)) = none :=
      readIpv4Addr_hex (fun c hc => (lowerHex_chars c hc).1) (noDigit_ten hafter.digit) hafter.dot
    have hsep : ∀ {α : Type} (inner : List Char → Option (α × List Char)) (s : List Char),
        readSeparator ':' i inner ((if i > 0 then [':'] else []) ++ s) = inner s := by
      intro α inner s
      unfold readSeparator readGivenChar
      split <;> simp
    have htail : readGroups limit n (i + 1) (groupsText (i + 1) gs ++ rest) =
        (gs, false, rest) := by
      refine ih (by simpa using hn) ?_
      rcases hstop with hstop | hstop
      · exact .inl (by simpa using hstop)
      · refine .inr ?_
        rw [List.length_cons] at hstop
        rwa [show i + 1 + gs.length = i + (gs.length + 1) by omega]
    simp only [groupsText, List.append_assoc, readGroups, hsep, hipv4, hnum, ite_self, htail,
      UInt16.ofNat_toNat]

theorem afterGroups_nil : AfterGroups [] := ⟨noDigit_nil 16, by simp⟩

theorem afterGroups_colon (s : List Char) : AfterGroups (':' :: s) :=
  ⟨noDigit_colon s, by simp⟩

/-- `span` is a run of zeros in `segments`. -/
def IsZeroSpan (segments : List UInt16) (span : Span) : Prop :=
  ∃ before after, segments = before ++ List.replicate span.len 0 ++ after ∧
    before.length = span.start

/-- The loop keeps the longest run so far and the run that ends where it stands. -/
theorem zeroSpan_spec (segments : List UInt16) {read : List UInt16} {longest current : Span}
    (hlongest : IsZeroSpan read longest)
    (hcurrent : ∃ before, read = before ++ List.replicate current.len 0 ∧
      (current.len ≠ 0 → before.length = current.start)) :
    IsZeroSpan (read ++ segments) (zeroSpan read.length longest current segments) := by
  induction segments generalizing read longest current with
  | nil => simpa [zeroSpan] using hlongest
  | cons segment segments ih =>
    obtain ⟨before, hread, hstart⟩ := hcurrent
    have hlongest' : IsZeroSpan (read ++ [segment]) longest := by
      obtain ⟨a, b, hab, ha⟩ := hlongest
      exact ⟨a, b ++ [segment], by rw [hab, List.append_assoc], ha⟩
    have hsplit : read ++ segment :: segments = (read ++ [segment]) ++ segments := by simp
    have hlen : read.length + 1 = (read ++ [segment]).length := by simp
    rw [hsplit, zeroSpan, hlen]
    split
    · rename_i hzero
      set current' : Span :=
        { start := if current.len = 0 then read.length else current.start, len := current.len + 1 }
        with hcurrent'
      have hext : read ++ [segment] = before ++ List.replicate current'.len 0 := by
        rw [hread, hzero, hcurrent', List.replicate_succ', List.append_assoc]
      have hbefore : before.length = current'.start := by
        simp only [hcurrent']
        split
        · rename_i h
          rw [hread, h]
          simp
        · rename_i h
          exact hstart h
      refine ih ?_ ⟨before, hext, fun _ => hbefore⟩
      split
      · exact ⟨before, [], by rw [hext, List.append_nil], hbefore⟩
      · exact hlongest'
    · exact ih hlongest' ⟨read ++ [segment], by simp, by simp⟩

theorem ofSegments_eq {segments : List UInt16} {ip : Ipv6Addr} (h : segments = ip.segments) :
    Ipv6Addr.ofSegments segments = some ip := by
  subst h
  rw [Ipv6Addr.ofSegments, dif_pos ip.length_eq]

theorem readIpv6Addr_full (ip : Ipv6Addr) :
    readIpv6Addr (groupsText 0 ip.segments) = some (ip, []) := by
  have hread : readGroups 8 8 0 (groupsText 0 ip.segments ++ []) = (ip.segments, false, []) :=
    readGroups_text (by rw [ip.length_eq]) afterGroups_nil (.inl ip.length_eq)
  rw [List.append_nil] at hread
  unfold readIpv6Addr
  simp only [hread, ip.length_eq, if_true, ofSegments_eq rfl, Option.map_some]

/-- `::` stands for the segments between the groups before and after it. -/
theorem readIpv6Addr_colons {ip : Ipv6Addr} {head tail zeros : List UInt16} {ipv4 : Bool}
    {s : List Char} (hsegments : ip.segments = head ++ zeros ++ tail)
    (hzeros : zeros = List.replicate zeros.length 0) (hlen : 0 < zeros.length)
    (hread : readGroups (8 - (head.length + 1)) (8 - (head.length + 1)) 0 s = (tail, ipv4, [])) :
    readIpv6Addr (groupsText 0 head ++ ':' :: ':' :: s) = some (ip, []) := by
  have height : head.length + zeros.length + tail.length = 8 := by
    rw [← ip.length_eq, hsegments]
    simp only [List.length_append]
  have hhead : readGroups 8 8 0 (groupsText 0 head ++ ':' :: ':' :: s) =
      (head, false, ':' :: ':' :: s) :=
    readGroups_text (by omega) (afterGroups_colon _) (.inr (noGroup_colons _ _))
  have hfill : 8 - head.length - tail.length = zeros.length := by omega
  have hcolons : (readGivenChar ':' (':' :: ':' :: s)).bind (readGivenChar ':') = some s := by
    simp [readGivenChar]
  unfold readIpv6Addr
  simp only [hhead, hcolons, hread]
  rw [if_neg (by omega), hfill, ← hzeros, ofSegments_eq hsegments.symm]
  rfl

/-- Bytes of a segment, put together again. -/
theorem toSegments_mapped (ab cd : UInt16) :
    Ipv4Addr.toSegments ⟨(ab >>> 8).toUInt8, ab.toUInt8, (cd >>> 8).toUInt8, cd.toUInt8⟩ =
      [ab, cd] := by
  have hbytes : ∀ x : UInt16,
      UInt16.ofNat (256 * (x >>> 8).toUInt8.toNat + x.toUInt8.toNat) = x := by
    intro x
    have hlt : x.toNat < 65536 := x.toNat_lt
    apply UInt16.toNat_inj.mp
    simp only [UInt16.toNat_ofNat', UInt16.toNat_toUInt8, UInt16.toNat_shiftRight,
      UInt16.reduceToNat, Nat.shiftRight_eq_div_pow, Nat.reduceMod, Nat.reducePow]
    omega
  simp only [Ipv4Addr.toSegments, hbytes]

theorem readIpv6Addr_mapped {ip : Ipv6Addr} {v4 : Ipv4Addr} (h : ip.toIpv4Mapped = some v4) :
    readIpv6Addr ("::ffff:".toList ++ v4.display) = some (ip, []) := by
  unfold Ipv6Addr.toIpv4Mapped at h
  split at h
  · rename_i ab cd hsegments
    cases h
    set v4 : Ipv4Addr := ⟨(ab >>> 8).toUInt8, ab.toUInt8, (cd >>> 8).toUInt8, cd.toUInt8⟩ with hv4
    have htext : "::ffff:".toList ++ v4.display =
        groupsText 0 [] ++ ':' :: ':' :: ("ffff".toList ++ ':' :: v4.display) := rfl
    have hfirst : readIpv4Addr ("ffff".toList ++ ':' :: v4.display) = none :=
      readIpv4Addr_none (noDigit_cons (by decide))
    have hgroup : readNumber 16 (some 4) true 65535 ("ffff".toList ++ ':' :: v4.display) =
        some (65535, ':' :: v4.display) :=
      readNumber_toDigits (n := 65535) (by decide) (by decide) true (by decide) le_rfl
        (noDigit_colon _)
    have hsecond : readIpv4Addr v4.display = some (v4, []) := by
      have := readIpv4Addr_display v4 (noDigit_nil 10)
      rwa [List.append_nil] at this
    rw [htext]
    have hcut : ip.segments = [] ++ List.replicate 5 0 ++ 0xffff :: v4.toSegments := by
      rw [hsegments, hv4, toSegments_mapped]
      rfl
    have hread : readGroups 7 7 0 ("ffff".toList ++ ':' :: v4.display) =
        (0xffff :: v4.toSegments, true, []) := by
      have hlast : readGroups 7 6 1 (':' :: v4.display) = (v4.toSegments, true, []) := by
        simp only [readGroups, readSeparator, readGivenChar, gt_iff_lt, Nat.lt_one_iff, if_true,
          Nat.reduceSub, Nat.reduceLT, hsecond]
      rw [readGroups]
      simp only [readSeparator, gt_iff_lt, lt_self_iff_false, if_false, hfirst, hgroup, ite_self,
        hlast]
      rfl
    exact readIpv6Addr_colons hcut rfl (by decide) hread
  · cases h

theorem readIpv6Addr_display (ip : Ipv6Addr) : readIpv6Addr ip.display = some (ip, []) := by
  unfold Ipv6Addr.display
  split
  · rename_i v4 h
    exact readIpv6Addr_mapped h
  · simp only [fmtSubslice_eq]
    split
    · rename_i hlong
      have hspan : IsZeroSpan ([] ++ ip.segments) (zeroSpan 0 ⟨0, 0⟩ ⟨0, 0⟩ ip.segments) :=
        zeroSpan_spec ip.segments ⟨[], [], rfl, rfl⟩ ⟨[], rfl, by simp⟩
      rw [List.nil_append] at hspan
      obtain ⟨before, after, hsegments, hstart⟩ := hspan
      set span := zeroSpan 0 ⟨0, 0⟩ ⟨0, 0⟩ ip.segments with hspan
      have htake : ip.segments.take span.start = before := by
        rw [hsegments, ← hstart, List.append_assoc, List.take_left']
        rfl
      have hdrop : ip.segments.drop (span.start + span.len) = after := by
        rw [hsegments, ← hstart, List.drop_left']
        simp
      have height : before.length + span.len + after.length = 8 := by
        rw [← ip.length_eq, hsegments]
        simp only [List.length_append, List.length_replicate]
      rw [htake, hdrop, List.append_assoc]
      have hread : readGroups (8 - (before.length + 1)) (8 - (before.length + 1)) 0
          (groupsText 0 after ++ []) = (after, false, []) :=
        readGroups_text (by omega) afterGroups_nil (.inr (noGroup_nil _))
      rw [List.append_nil] at hread
      exact readIpv6Addr_colons hsegments (by simp) (by simp; omega) hread
    · exact readIpv6Addr_full ip

/-! ## Both -/

/-- An IPv6 address is no IPv4 address. -/
theorem readIpv4Addr_ipv6 (ip : Ipv6Addr) : readIpv4Addr ip.display = none := by
  unfold Ipv6Addr.display
  split
  · exact readIpv4Addr_none (noDigit_cons (by decide))
  · simp only [fmtSubslice_eq]
    split
    · rw [List.append_assoc]
      exact readIpv4Addr_groups (afterGroups_colon _)
    · have h : readIpv4Addr (groupsText 0 ip.segments ++ []) = none :=
        readIpv4Addr_groups afterGroups_nil
      rwa [List.append_nil] at h

theorem ip_parse_display (ip : IpAddr) : IpAddr.parse ip.display = some ip := by
  cases ip with
  | v4 ip =>
    have h := readIpv4Addr_display ip (noDigit_nil 10)
    rw [List.append_nil] at h
    simp [IpAddr.parse, readWith, readIpAddr, IpAddr.display, h]
  | v6 ip =>
    simp [IpAddr.parse, readWith, readIpAddr, IpAddr.display, readIpv4Addr_ipv6,
      readIpv6Addr_display]

/-! ## The characters of an address -/

/-- Digits, hexadecimal letters, dots and colons. -/
def isIpText (c : Char) : Bool := c.isDigit || ('a' ≤ c && c ≤ 'f') || c = ':' || c = '.'

theorem isIpText_toDigits {radix : ℕ} (h1 : 1 < radix) (h16 : radix ≤ 16) (n : ℕ) :
    ∀ c ∈ Nat.toDigits radix n, isIpText c := by
  intro c hc
  obtain ⟨d, hd, rfl⟩ := digit_of_mem_toDigits h1 h16 n c hc
  have hall : ∀ d < 16, isIpText (Nat.digitChar d) := by decide
  exact hall d (by omega)

theorem isIpText_decimal (n : ℕ) : ∀ c ∈ decimal n, isIpText c :=
  isIpText_toDigits (by decide) (by decide) n

theorem isIpText_ipv4 (ip : Ipv4Addr) : ∀ c ∈ ip.display, isIpText c := by
  have hdot : isIpText '.' := by decide
  unfold Ipv4Addr.display
  simp only [List.mem_append, List.mem_cons]
  rintro c ((((h | rfl | h) | rfl | h) | rfl | h)) <;>
    first
    | exact hdot
    | exact isIpText_decimal _ c h

theorem isIpText_fmtSubslice (gs : List UInt16) : ∀ c ∈ fmtSubslice gs, isIpText c := by
  induction gs with
  | nil => simp [fmtSubslice]
  | cons g gs ih =>
    have hg : ∀ c ∈ lowerHex g.toNat, isIpText c := isIpText_toDigits (by decide) (by decide) _
    cases gs with
    | nil => exact hg
    | cons g' gs =>
      intro c hc
      rw [fmtSubslice, List.mem_append, List.mem_cons] at hc
      · rcases hc with hc | rfl | hc
        · exact hg c hc
        · decide
        · exact ih c hc
      · simp

theorem isIpText_display (ip : IpAddr) : ∀ c ∈ ip.display, isIpText c := by
  cases ip with
  | v4 ip => exact isIpText_ipv4 ip
  | v6 ip =>
    have hcolons : ∀ c ∈ "::".toList, isIpText c := List.all_eq_true.mp (by decide)
    have hmapped : ∀ c ∈ "::ffff:".toList, isIpText c := List.all_eq_true.mp (by decide)
    unfold IpAddr.display Ipv6Addr.display
    simp only
    intro c hc
    split at hc
    · rcases List.mem_append.mp hc with hc | hc
      · exact hmapped c hc
      · exact isIpText_ipv4 _ c hc
    · split at hc
      · rcases List.mem_append.mp hc with hc | hc
        · rcases List.mem_append.mp hc with hc | hc
          · exact isIpText_fmtSubslice _ c hc
          · exact hcolons c hc
        · exact isIpText_fmtSubslice _ c hc
      · exact isIpText_fmtSubslice _ c hc

end Ghostport.Net
