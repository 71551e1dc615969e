import Ghostport.Firewall.Detector
import Ghostport.Net.RoundTrip

/-!
# What the patterns see of a text

The patterns are four fixed keywords, an address and a fixed end. A text in which no keyword
begins is silent; a quotation mark is in no pattern, so that nothing is found across one.

Results:
* `find_silent`, `find_quote`: what can be left out of a text.
* `stripAnsi_between`: colours around a text, and plain texts in it, are removed apart.
* `find_addrPattern`: what a pattern finds in a line that has a keyword and an address.
-/

namespace Ghostport.Firewall

open Ghostport.Core Ghostport.Lib Ghostport.Net

/-! ## Patterns and the characters they mention -/

theorem mentions_lit {c : Char} {text : List Char} :
    Regex.mentions c (.lit text) = decide (c ∈ text) := by
  induction text with
  | nil => rfl
  | cons d text ih => simp [Regex.lit, Regex.char, Regex.mentions, ih]

theorem mentions_addrPattern {digits : DigitClass} {kw suffix : List Char} {c : Char}
    (hascii : c.toNat < 128) (hkw : c ∉ kw) (hsuffix : c ∉ suffix)
    (hc : (c.isDigit || isIpChar c || c = '[' || c = ']' || c = ':') = false) :
    Regex.mentions c (addrPattern digits kw suffix) = false := by
  simp only [Bool.or_eq_false_iff, decide_eq_false_iff_not] at hc
  obtain ⟨⟨⟨⟨hdigit, hip⟩, hopen⟩, hclose⟩, hcolon⟩ := hc
  have hclass : digits.contains c = false := by rw [digits.ascii c hascii, hdigit]
  simp [addrPattern, Regex.mentions, Regex.char, Regex.plus, mentions_lit, hkw, hsuffix, hip,
    hopen, hclose, hcolon, hclass]

/-- The fixed texts that the patterns begin with. -/
def keywords : List (List Char) := [rejectedControl, rejectedData, controlHandshake, udpHandshake]

theorem patterns_eq {digits : DigitClass} {p : Regex × Offense} (hp : p ∈ patterns digits) :
    ∃ kw ∈ keywords, ∃ suffix ∈ [tooManyAttempts, " failed:".toList, " (".toList],
      p.1 = addrPattern digits kw suffix := by
  simp only [patterns, List.mem_cons, List.not_mem_nil, or_false] at hp
  rcases hp with rfl | rfl | rfl | rfl
  · exact ⟨rejectedControl, by simp [keywords], tooManyAttempts, by simp, rfl⟩
  · exact ⟨rejectedData, by simp [keywords], tooManyAttempts, by simp, rfl⟩
  · exact ⟨controlHandshake, by simp [keywords], _, by simp, rfl⟩
  · exact ⟨udpHandshake, by simp [keywords], _, by simp, rfl⟩

/-- A character that cannot be in a match of any pattern. -/
def Unmentioned (c : Char) : Prop :=
  c.toNat < 128 ∧ (∀ kw ∈ keywords, c ∉ kw) ∧
    (∀ suffix ∈ [tooManyAttempts, " failed:".toList, " (".toList], c ∉ suffix) ∧
    (c.isDigit || isIpChar c || c = '[' || c = ']' || c = ':') = false

theorem unmentioned_quote : Unmentioned '"' := by
  refine ⟨by decide, by decide, by decide, by decide⟩

theorem unmentioned_return : Unmentioned '\r' := by
  refine ⟨by decide, by decide, by decide, by decide⟩

section

variable {digits : DigitClass} {p : Regex × Offense}

theorem mentions_pattern (hp : p ∈ patterns digits) {c : Char} (hc : Unmentioned c) :
    Regex.mentions c p.1 = false := by
  obtain ⟨kw, hkw, suffix, hsuffix, heq⟩ := patterns_eq hp
  rw [heq]
  exact mentions_addrPattern hc.1 (hc.2.1 kw hkw) (hc.2.2.1 suffix hsuffix) hc.2.2.2

theorem head_nil_pattern (hp : p ∈ patterns digits) : Regex.head p.1 [] = none := by
  obtain ⟨kw, hkw, suffix, -, heq⟩ := patterns_eq hp
  have hne : ∀ kw ∈ keywords, ¬ kw <+: [] := by decide
  rw [heq]
  exact Regex.head_eq_none_of_not_prefix (hne kw hkw)

theorem find_nil_pattern (hp : p ∈ patterns digits) : Regex.find p.1 [] = none := by
  rw [Regex.find, head_nil_pattern hp]
  rfl

/-- No match goes across a quotation mark. -/
theorem find_quote (hp : p ∈ patterns digits) (s t : List Char) :
    Regex.find p.1 (s ++ '"' :: t) = (Regex.find p.1 s).or (Regex.find p.1 t) :=
  Regex.find_barrier (mentions_pattern hp unmentioned_quote) (head_nil_pattern hp) s t

theorem find_return (hp : p ∈ patterns digits) (s : List Char) :
    Regex.find p.1 (s ++ ['\r']) = Regex.find p.1 s := by
  rw [Regex.find_barrier (mentions_pattern hp unmentioned_return) (head_nil_pattern hp),
    find_nil_pattern hp, Option.or_none]

/-! ## Silent texts -/

/-- No keyword begins in the text, whatever comes after it. -/
def Silent (s : List Char) : Prop := ∀ kw ∈ keywords, Regex.dead kw s = true

instance (s : List Char) : Decidable (Silent s) :=
  inferInstanceAs (Decidable (∀ kw ∈ keywords, Regex.dead kw s = true))

theorem Silent.append {s t : List Char} (hs : Silent s) (ht : Silent t) : Silent (s ++ t) :=
  fun kw hkw => Regex.dead_append (hs kw hkw) (ht kw hkw)

theorem find_silent (hp : p ∈ patterns digits) {s : List Char} (hs : Silent s) (t : List Char) :
    Regex.find p.1 (s ++ t) = Regex.find p.1 t := by
  obtain ⟨kw, hkw, suffix, -, heq⟩ := patterns_eq hp
  rw [heq]
  exact Regex.find_dead (hs kw hkw) t

theorem find_eq_none_of_silent (hp : p ∈ patterns digits) {s : List Char} (hs : Silent s) :
    Regex.find p.1 s = none := by
  have h := find_silent hp hs []
  rwa [List.append_nil, find_nil_pattern hp] at h

/-- A text without keywords. -/
theorem find_eq_none_of_not_infix (hp : p ∈ patterns digits) {s : List Char}
    (hs : ∀ kw ∈ keywords, ¬ kw <:+: s) : Regex.find p.1 s = none := by
  induction s with
  | nil => exact find_nil_pattern hp
  | cons c s ih =>
    obtain ⟨kw, hkw, suffix, -, heq⟩ := patterns_eq hp
    have hhead : Regex.head p.1 (c :: s) = none := by
      rw [heq]
      exact Regex.head_eq_none_of_not_prefix fun hprefix => hs kw hkw hprefix.isInfix
    rw [Regex.find, hhead]
    exact ih fun kw hkw hsub => hs kw hkw (hsub.trans (List.suffix_cons c s).isInfix)

theorem extractOffense_congr {l l' : List Char}
    (h : ∀ p ∈ patterns digits, Regex.find p.1 (stripAnsi l) = Regex.find p.1 (stripAnsi l')) :
    extractOffense digits l = extractOffense digits l' := by
  unfold extractOffense
  generalize patterns digits = ps at h
  induction ps with
  | nil => rfl
  | cons p ps ih =>
    have hp : extractWith (stripAnsi l) p = extractWith (stripAnsi l') p := by
      unfold extractWith
      rw [h p (by simp)]
    rw [List.findSome?_cons, List.findSome?_cons, hp, ih fun q hq => h q (by simp [hq])]

end

/-! ## Colours -/

/-- A line without escapes in front is left as it is. -/
theorem stripAnsi_plain {u : List Char} (hu : '\x1b' ∉ u) (v : List Char) :
    stripAnsi (u ++ v) = u ++ stripAnsi v := by
  induction u with
  | nil => rfl
  | cons c u ih =>
    have hc : c ≠ '\x1b' := fun h => hu (by simp [h])
    have hhead : Regex.head ansi (c :: (u ++ v)) = none := by
      simp [Regex.head, ansi, Regex.char, Regex.run, hc]
    rw [List.cons_append, stripAnsi, Regex.removeAll_cons_of_none hhead]
    exact congrArg (c :: ·) (ih fun h => hu (by simp [h]))

theorem stripAnsi_eq_self {u : List Char} (hu : '\x1b' ∉ u) : stripAnsi u = u := by
  have h := stripAnsi_plain hu []
  have hnil : stripAnsi [] = [] := rfl
  rwa [List.append_nil, hnil, List.append_nil] at h

theorem head_ansi_sgr {params : List Char} (hparams : ∀ c ∈ params, isSgrParam c)
    (v : List Char) : Regex.head ansi (sgr params ++ v) = some (v, none) := by
  have hm : isSgrParam 'm' = false := by decide
  have hmany : ∀ (k : List Char → Option (List Char × Regex.Capture)) (ps : List Char),
      (∀ c ∈ ps, isSgrParam c) → (k ('m' :: v)).isSome →
      Regex.runMany isSgrParam k (ps ++ 'm' :: v) = k ('m' :: v) := by
    intro k ps hps hk
    induction ps with
    | nil => simp [Regex.runMany, hm]
    | cons c ps ih =>
      have hc : isSgrParam c = true := hps c (by simp)
      rw [List.cons_append, Regex.runMany, if_pos hc, ih fun d hd => hps d (by simp [hd])]
      exact Option.or_of_isSome hk
  have hrun := hmany (fun s => Regex.run (.char 'm') s none fun rest cap => some (rest, cap))
    params hparams rfl
  simpa [Regex.head, ansi, sgr, Regex.char, Regex.run] using hrun

theorem stripAnsi_sgr {t : List Char} (ht : IsSgr t) (v : List Char) :
    stripAnsi (t ++ v) = stripAnsi v := by
  obtain ⟨seqs, hseqs, rfl⟩ := ht
  induction seqs with
  | nil => rfl
  | cons params seqs ih =>
    have hhead := head_ansi_sgr (hseqs params (by simp)) ((seqs.map sgr).flatten ++ v)
    have hremove := Regex.removeAll_match (by simp [sgr]) hhead
    rw [List.map_cons, List.flatten_cons, List.append_assoc]
    exact hremove.trans (ih fun ps hps => hseqs ps (by simp [hps]))

/-- Colours end a line that they come after. -/
theorem barrier_sgr {t : List Char} (ht : IsSgr t) : Regex.Barrier ansi t := by
  obtain ⟨seqs, -, rfl⟩ := ht
  cases seqs with
  | nil => exact Regex.barrier_nil ansi
  | cons params seqs => exact Regex.barrier_first (by decide) _

theorem stripAnsi_append_sgr {t : List Char} (ht : IsSgr t) (u : List Char) :
    stripAnsi (u ++ t) = stripAnsi u := by
  have h := stripAnsi_sgr ht []
  rw [List.append_nil] at h
  rw [stripAnsi, Regex.removeAll_append (barrier_sgr ht)]
  change stripAnsi u ++ stripAnsi t = _
  rw [h]
  exact List.append_nil _

/-- A plain text in the middle of a line, with colours on both sides. -/
theorem stripAnsi_between {t t' w : List Char} {c : Char} (ht : IsSgr t) (ht' : IsSgr t')
    (hc : Regex.mentions c ansi = false) (hw : '\x1b' ∉ c :: w) (u v : List Char) :
    stripAnsi (u ++ (t ++ (c :: w) ++ t') ++ v) = stripAnsi u ++ (c :: w) ++ stripAnsi v := by
  have hmiddle : stripAnsi (t ++ ((c :: w) ++ (t' ++ v))) = (c :: w) ++ stripAnsi v := by
    rw [stripAnsi_sgr ht, stripAnsi_plain hw, stripAnsi_sgr ht']
  have hbarrier : Regex.Barrier ansi (t ++ ((c :: w) ++ (t' ++ v))) := by
    obtain ⟨seqs, -, rfl⟩ := ht
    cases seqs with
    | nil => exact Regex.barrier_cons hc _
    | cons params seqs => exact Regex.barrier_first (by decide) _
  have hassoc : u ++ (t ++ (c :: w) ++ t') ++ v = u ++ (t ++ ((c :: w) ++ (t' ++ v))) := by
    simp only [List.append_assoc]
  rw [hassoc, stripAnsi, Regex.removeAll_append hbarrier, List.append_assoc]
  exact congrArg (stripAnsi u ++ ·) hmiddle

/-! ## Addresses -/

/-- The characters of a socket address. -/
def isAddrText (c : Char) : Bool := isIpText c || c = '[' || c = ']' || c = '%'

theorem isAddrText_of_isIpText {c : Char} (h : isIpText c = true) : isAddrText c = true := by
  simp [isAddrText, h]

/-- Each keyword has a character that no address has, among its first three. -/
theorem keyword_foreign {kw : List Char} (hkw : kw ∈ keywords) :
    ∃ i ≤ 2, ∃ c ∈ kw[i]?, isAddrText c = false := by
  have hall : ∀ kw ∈ keywords, ∃ i ≤ 2, (kw[i]?.any fun c => !isAddrText c) = true := by decide
  obtain ⟨i, hi, hany⟩ := hall kw hkw
  obtain ⟨c, hc, hforeign⟩ := (Option.any_eq_true _ _).mp hany
  exact ⟨i, hi, c, hc, by simpa using hforeign⟩

theorem silent_decimal (n : ℕ) : Silent (decimal n) := by
  have hfirst : ∀ kw ∈ keywords, (kw[0]?.any fun c => !c.isDigit) = true := by decide
  have hdigits : ∀ c ∈ decimal n, c.isDigit = true := fun c hc =>
    Nat.isDigit_of_mem_toDigits (by decide) (by decide) hc
  intro kw hkw
  obtain ⟨c, hc, hdigit⟩ := (Option.any_eq_true _ _).mp (hfirst kw hkw)
  generalize decimal n = ds at hdigits
  induction ds with
  | nil => rfl
  | cons d ds ih =>
    have hmissing : c ∉ d :: ds := fun hm => by
      simp [hdigits c hm] at hdigit
    have hclash : Regex.clash (d :: ds) kw = true :=
      Regex.clash_of_missing (i := 0) hc hmissing (by simp)
    rw [Regex.dead, hclash, ih fun e he => hdigits e (by simp [he])]
    rfl

/-- The text before the port cannot begin a keyword, since the port ends in a digit. -/
theorem silent_addrText {x : List Char} (hx : ∀ c ∈ x, isAddrText c) (n : ℕ) :
    Silent (x ++ ':' :: decimal n) := by
  have hport : Silent (':' :: decimal n) :=
    Silent.append (s := [':']) (by decide) (silent_decimal n)
  have hlast : 0 < (decimal n).length := Nat.length_toDigits_pos
  have htext : ∀ c ∈ ':' :: decimal n, isAddrText c := by
    intro c hc
    rcases List.mem_cons.mp hc with rfl | hc
    · decide
    · exact isAddrText_of_isIpText (isIpText_decimal n c hc)
  intro kw hkw
  obtain ⟨i, hi, c, hc, hforeign⟩ := keyword_foreign hkw
  induction x with
  | nil => exact hport kw hkw
  | cons d x ih =>
    have hmissing : c ∉ d :: x ++ ':' :: decimal n := fun hm => by
      have htrue : isAddrText c = true := (List.mem_append.mp hm).elim (hx c) (htext c)
      rw [htrue] at hforeign
      cases hforeign
    have hclash : Regex.clash (d :: x ++ ':' :: decimal n) kw = true :=
      Regex.clash_of_missing hc hmissing (by simp; omega)
    rw [List.cons_append] at hclash ⊢
    rw [Regex.dead, hclash, ih fun e he => hx e (by simp [he])]
    rfl

/-- The text of a socket address: a port, after the address that stands in brackets with its
    scope if it is one of IPv6. -/
theorem display_eq (a : SocketAddr) : ∃ (front back : List Char) (port : ℕ),
    a.display = front ++ a.ip.display ++ back ++ ':' :: decimal port ∧
      (front = [] ∧ back = [] ∨
        front = ['['] ∧ (back = [']'] ∨ ∃ n, back = '%' :: decimal n ++ [']'])) := by
  cases a with
  | v4 ip port => exact ⟨[], [], port.toNat, by simp [SocketAddr.display, SocketAddr.ip,
      IpAddr.display], .inl ⟨rfl, rfl⟩⟩
  | v6 ip port scopeId =>
    by_cases hscope : scopeId = 0
    · exact ⟨['['], [']'], port.toNat, by simp [SocketAddr.display, SocketAddr.ip,
        IpAddr.display, hscope], .inr ⟨rfl, .inl rfl⟩⟩
    · exact ⟨['['], '%' :: decimal scopeId.toNat ++ [']'], port.toNat,
        by simp [SocketAddr.display, SocketAddr.ip, IpAddr.display, hscope],
        .inr ⟨rfl, .inr ⟨_, rfl⟩⟩⟩

theorem isAddrText_front {a : SocketAddr} {front back : List Char}
    (h : front = [] ∧ back = [] ∨
      front = ['['] ∧ (back = [']'] ∨ ∃ n, back = '%' :: decimal n ++ [']'])) :
    ∀ c ∈ front ++ a.ip.display ++ back, isAddrText c := by
  have hfront : ∀ c ∈ front, isAddrText c := by
    rcases h with ⟨rfl, -⟩ | ⟨rfl, -⟩ <;> exact List.all_eq_true.mp (by decide)
  have hback : ∀ c ∈ back, isAddrText c := by
    rcases h with ⟨-, rfl⟩ | ⟨-, rfl | ⟨n, rfl⟩⟩
    · simp
    · exact List.all_eq_true.mp (by decide)
    · intro c hc
      rcases List.mem_append.mp hc with hc | hc
      · rcases List.mem_cons.mp hc with rfl | hc
        · decide
        · exact isAddrText_of_isIpText (isIpText_decimal n c hc)
      · rw [List.mem_singleton.mp hc]
        decide
  intro c hc
  rcases List.mem_append.mp hc with hc | hc
  · rcases List.mem_append.mp hc with hc | hc
    · exact hfront c hc
    · exact isAddrText_of_isIpText (isIpText_display a.ip c hc)
  · exact hback c hc

theorem silent_display (a : SocketAddr) : Silent a.display := by
  obtain ⟨front, back, port, heq, hparts⟩ := display_eq a
  rw [heq]
  exact silent_addrText (isAddrText_front hparts) port

theorem isAddrText_socketAddr (a : SocketAddr) : ∀ c ∈ a.display, isAddrText c := by
  obtain ⟨front, back, port, heq, hparts⟩ := display_eq a
  rw [heq]
  intro c hc
  rcases List.mem_append.mp hc with hc | hc
  · exact isAddrText_front hparts c hc
  · rcases List.mem_cons.mp hc with rfl | hc
    · decide
    · exact isAddrText_of_isIpText (isIpText_decimal port c hc)

/-! ## The address that a pattern finds -/

/-- What a match of a pattern looks like. -/
structure Phrase (digits : DigitClass) (front ip back port : List Char) : Prop where
  front : front = [] ∨ front = ['[']
  back : back = [] ∨ back = [']']
  nonempty : ip ≠ []
  ipChar : ∀ c ∈ ip, isIpChar c = true
  port : ∀ c ∈ port, digits.contains c = true

theorem matches_opt_char {c : Char} {body : List Char} {cap cap' : Regex.Capture}
    (h : Regex.Matches (.opt (.char c)) body cap cap') :
    (body = [] ∨ body = [c]) ∧ cap' = cap := by
  cases h with
  | opt h =>
    cases h with
    | set hc => exact ⟨.inr (by simpa using hc), rfl⟩
  | skip => exact ⟨.inl rfl, rfl⟩

theorem matches_addrPattern {digits : DigitClass} {kw suffix body : List Char}
    {cap : Regex.Capture} (h : Regex.Matches (addrPattern digits kw suffix) body none cap) :
    ∃ front ip back port, Phrase digits front ip back port ∧ cap = some ip ∧
      body = kw ++ (front ++ ip ++ back ++ ':' :: port ++ suffix) := by
  obtain _ | _ | ⟨hkw, _ | _ | ⟨hopen, _ | _ | ⟨hgroup, _ | _ | ⟨hclose, _ | _ |
    ⟨hcolon, _ | _ | ⟨hport, hsuffix⟩⟩⟩⟩⟩⟩ := h
  obtain ⟨rfl, rfl⟩ := Regex.matches_lit.mp hkw
  obtain ⟨hfront, rfl⟩ := matches_opt_char hopen
  cases hgroup with
  | group hip =>
    obtain ⟨hne, hchars, rfl⟩ := Regex.matches_plus.mp hip
    obtain ⟨hback, rfl⟩ := matches_opt_char hclose
    cases hcolon with
    | set hc =>
      obtain rfl : _ = ':' := by simpa using hc
      obtain ⟨-, hdigits, rfl⟩ := Regex.matches_plus.mp hport
      obtain ⟨rfl, rfl⟩ := Regex.matches_lit.mp hsuffix
      exact ⟨_, _, _, _, ⟨hfront, hback, hne, hchars, hdigits⟩, rfl, by simp⟩

/-- Two ways to cut a text at the first place where it has `c`. -/
theorem split_first_inj {c : Char} {x x' y y' : List Char} (h : x ++ c :: y = x' ++ c :: y')
    (hx : c ∉ x) (hx' : c ∉ x') : x = x' ∧ y = y' := by
  rcases List.append_eq_append_iff.mp h with ⟨z, rfl, hz⟩ | ⟨z, rfl, hz⟩
  · cases z with
    | nil => simpa using hz
    | cons d z =>
      obtain ⟨rfl, -⟩ := List.cons.inj hz
      exact absurd (by simp) hx'
  · cases z with
    | nil => simpa using hz.symm
    | cons d z =>
      obtain ⟨rfl, -⟩ := List.cons.inj hz
      exact absurd (by simp) hx

/-- Two ways to cut a text at the last of its colons. -/
theorem split_last_inj {x x' y y' : List Char} (h : x ++ ':' :: y = x' ++ ':' :: y')
    (hy : ':' ∉ y) (hy' : ':' ∉ y') : x = x' ∧ y = y' := by
  have hrev := congrArg List.reverse h
  simp only [List.reverse_append, List.reverse_cons, List.append_assoc,
    List.singleton_append] at hrev
  obtain ⟨hyy, hxx⟩ := split_first_inj hrev (by simpa using hy) (by simpa using hy')
  exact ⟨List.reverse_inj.mp hxx, List.reverse_inj.mp hyy⟩

theorem Phrase.chars {digits : DigitClass} {front ip back port : List Char}
    (h : Phrase digits front ip back port) : ' ' ∉ front ++ ip ++ back ++ ':' :: port := by
  have hspace : isIpChar ' ' = false := by decide
  have hdigit : digits.contains ' ' = false := by rw [digits.ascii ' ' (by decide)]; decide
  have hfront : ' ' ∉ front := by rcases h.front with rfl | rfl <;> decide
  have hback : ' ' ∉ back := by rcases h.back with rfl | rfl <;> decide
  have hip : ' ' ∉ ip := fun hm => by
    have := h.ipChar _ hm
    rw [hspace] at this
    cases this
  have hport : ' ' ∉ port := fun hm => by
    have := h.port _ hm
    rw [hdigit] at this
    cases this
  simp [hfront, hip, hback, hport]

/-- A phrase whose text is that of a socket address names its IP. -/
theorem Phrase.ip_eq {digits : DigitClass} {front ip back port : List Char}
    (h : Phrase digits front ip back port) {a : SocketAddr}
    (heq : front ++ ip ++ back ++ ':' :: port = a.display) : ip = a.ip.display := by
  obtain ⟨front', back', n, hdisplay, hparts⟩ := display_eq a
  have hport : ':' ∉ port := fun hm => by
    have hclass := h.port _ hm
    rw [digits.ascii ':' (by decide)] at hclass
    revert hclass
    decide
  have hdecimal : ':' ∉ decimal n := fun hm => by
    have hdigit : (':' : Char).isDigit = true :=
      Nat.isDigit_of_mem_toDigits (by decide) (by decide) hm
    revert hdigit
    decide
  obtain ⟨htext, -⟩ := split_last_inj (heq.trans hdisplay) hport hdecimal
  -- neither text has a bracket or a percent sign
  have hip : ∀ c ∈ ip, c ≠ '[' ∧ c ≠ ']' ∧ c ≠ '%' := by
    intro c hc
    refine ⟨?_, ?_, ?_⟩ <;>
    · rintro rfl
      have hchar := h.ipChar _ hc
      revert hchar
      decide
  have hdisp : ∀ c ∈ a.ip.display, c ≠ '[' ∧ c ≠ ']' := by
    intro c hc
    refine ⟨?_, ?_⟩ <;>
    · rintro rfl
      have hchar := isIpText_display a.ip _ hc
      revert hchar
      decide
  rcases hparts with ⟨rfl, rfl⟩ | ⟨rfl, hback'⟩
  · rw [List.nil_append, List.append_nil] at htext
    have hfront : front = [] := by
      rcases h.front with hf | rfl
      · exact hf
      · exact absurd rfl (hdisp '[' (by rw [← htext]; simp)).1
    have hback : back = [] := by
      rcases h.back with hb | rfl
      · exact hb
      · exact absurd rfl (hdisp ']' (by rw [← htext]; simp)).2
    rwa [hfront, hback, List.nil_append, List.append_nil] at htext
  · have hfront : front = ['['] := by
      rcases h.front with rfl | hf
      · obtain ⟨c, ip', rfl⟩ := List.exists_cons_of_ne_nil h.nonempty
        have hc : c = '[' := by
          simp only [List.nil_append, List.cons_append, List.cons.injEq] at htext
          exact htext.1
        exact absurd hc (hip c (by simp)).1
      · exact hf
    rw [hfront, List.append_assoc, List.append_assoc, List.append_cancel_left_eq] at htext
    -- the text ends with a bracket, so the phrase does
    have hback : back = [']'] := by
      rcases h.back with rfl | hb
      · have hlast : ']' ∈ ip := by
          rw [List.append_nil] at htext
          rw [htext]
          rcases hback' with rfl | ⟨m, rfl⟩ <;> simp
        exact absurd rfl (hip ']' hlast).2.1
      · exact hb
    rcases hback' with rfl | ⟨m, rfl⟩
    · rw [hback] at htext
      exact List.append_cancel_right htext
    · have hscope : '%' ∈ ip := by
        rw [hback, ← List.append_assoc] at htext
        rw [List.append_cancel_right htext]
        simp
      exact absurd rfl (hip '%' hscope).2.2

/-- A pattern at the keyword of a line finds the address that follows it. -/
theorem head_addrPattern {digits : DigitClass} {kw suffix e rest : List Char} {a : SocketAddr}
    {cap : Regex.Capture}
    (h : Regex.head (addrPattern digits kw (' ' :: suffix)) (kw ++ (a.display ++ ' ' :: e)) =
      some (rest, cap)) : cap = some a.ip.display := by
  obtain ⟨body, hbody, hm⟩ := Regex.head_sound h
  obtain ⟨front, ip, back, port, hphrase, rfl, rfl⟩ := matches_addrPattern hm
  rw [List.append_assoc, List.append_cancel_left_eq, List.append_assoc, List.cons_append] at hbody
  have hspace : ' ' ∉ a.display := fun hmem => by
    have hchar := isAddrText_socketAddr a _ hmem
    revert hchar
    decide
  obtain ⟨htext, -⟩ := split_first_inj hbody hspace hphrase.chars
  rw [hphrase.ip_eq htext.symm]

/-- The scope id of an address of IPv6, as `Display` prints it. -/
def scopeId : SocketAddr → UInt32
  | .v4 _ _ => 0
  | .v6 _ _ scopeId => scopeId

theorem display_ne_nil (ip : IpAddr) : ip.display ≠ [] := fun h => by
  have hparse := ip_parse_display ip
  have hnil : IpAddr.parse [] = none := by decide
  rw [h, hnil] at hparse
  cases hparse

/-- The text of an address without a scope id is a phrase. -/
theorem phrase_display {digits : DigitClass} {a : SocketAddr} (hscope : scopeId a = 0) :
    ∃ front back port, Phrase digits front a.ip.display back port ∧ port ≠ [] ∧
      a.display = front ++ a.ip.display ++ back ++ ':' :: port := by
  have hchars : ∀ c ∈ a.ip.display, isIpChar c = true := by
    intro c hc
    have htext := isIpText_display a.ip c hc
    simp only [isIpText, Bool.or_eq_true] at htext
    simp only [isIpChar, Bool.or_eq_true]
    tauto
  have hdigits : ∀ n, ∀ c ∈ decimal n, digits.contains c = true := by
    intro n c hc
    have hdigit : c.isDigit = true := Nat.isDigit_of_mem_toDigits (by decide) (by decide) hc
    have hascii : c.toNat < 128 := by
      simp only [Char.isDigit, Bool.and_eq_true, decide_eq_true_eq] at hdigit
      have hle : c.val.toNat ≤ 57 := hdigit.2
      show c.val.toNat < 128
      omega
    rw [digits.ascii c hascii, hdigit]
  have hport : ∀ n, decimal n ≠ [] := fun n h => by
    have hpos : 0 < (decimal n).length := Nat.length_toDigits_pos
    rw [h] at hpos
    exact absurd hpos (by decide)
  cases a with
  | v4 ip port =>
    exact ⟨[], [], decimal port.toNat, ⟨.inl rfl, .inl rfl, display_ne_nil _, hchars, hdigits _⟩,
      hport _, by simp [SocketAddr.display, SocketAddr.ip, IpAddr.display]⟩
  | v6 ip port scope =>
    obtain rfl : scope = 0 := hscope
    exact ⟨['['], [']'], decimal port.toNat,
      ⟨.inr rfl, .inr rfl, display_ne_nil _, hchars, hdigits _⟩, hport _,
      by simp [SocketAddr.display, SocketAddr.ip, IpAddr.display]⟩

theorem Phrase.percent {digits : DigitClass} {front ip back port : List Char}
    (h : Phrase digits front ip back port) : '%' ∉ front ++ ip ++ back ++ ':' :: port := by
  have hfront : '%' ∉ front := by rcases h.front with rfl | rfl <;> decide
  have hback : '%' ∉ back := by rcases h.back with rfl | rfl <;> decide
  have hip : '%' ∉ ip := fun hm => by
    have hchar := h.ipChar _ hm
    revert hchar
    decide
  have hport : '%' ∉ port := fun hm => by
    have hclass := h.port _ hm
    rw [digits.ascii '%' (by decide)] at hclass
    revert hclass
    decide
  simp [hfront, hback, hip, hport]

theorem percent_mem_of_scoped {a : SocketAddr} (hscope : scopeId a ≠ 0) : '%' ∈ a.display := by
  cases a with
  | v4 ip port => exact absurd rfl hscope
  | v6 ip port scope =>
    have hne : scope ≠ 0 := hscope
    simp [SocketAddr.display, hne]

theorem matches_of_phrase {digits : DigitClass} {kw suffix front ip back port : List Char}
    (h : Phrase digits front ip back port) (hport : port ≠ []) :
    Regex.Matches (addrPattern digits kw suffix)
      (kw ++ (front ++ (ip ++ (back ++ ([':'] ++ (port ++ suffix)))))) none (some ip) := by
  have hopen : Regex.Matches (.opt (.char '[')) front none none := by
    rcases h.front with rfl | rfl
    · exact .skip
    · exact .opt (.set (by simp))
  have hclose : Regex.Matches (.opt (.char ']')) back (some ip) (some ip) := by
    rcases h.back with rfl | rfl
    · exact .skip
    · exact .opt (.set (by simp))
  have hgroup : Regex.Matches (.group (.plus isIpChar)) ip none (some ip) :=
    .group (Regex.matches_plus.mpr ⟨h.nonempty, h.ipChar, rfl⟩)
  have hcolon : Regex.Matches (.char ':') [':'] (some ip) (some ip) := .set (by simp)
  have hdigits : Regex.Matches (.plus digits.contains) port (some ip) (some ip) :=
    Regex.matches_plus.mpr ⟨hport, h.port, rfl⟩
  have hsuffix : Regex.Matches (.lit suffix) suffix (some ip) (some ip) :=
    Regex.matches_lit.mpr ⟨rfl, rfl⟩
  have hkw : Regex.Matches (.lit kw) kw none none := Regex.matches_lit.mpr ⟨rfl, rfl⟩
  exact hkw.seq (hopen.seq (hgroup.seq (hclose.seq (hcolon.seq (hdigits.seq hsuffix)))))

/-- A pattern matches at the keyword of a line exactly if the address after it has no scope id
    and the fixed end of the pattern follows. -/
theorem head_addrPattern_isSome {digits : DigitClass} {kw suffix e : List Char} {a : SocketAddr} :
    (Regex.head (addrPattern digits kw (' ' :: suffix)) (kw ++ (a.display ++ ' ' :: e))).isSome ↔
      scopeId a = 0 ∧ suffix <+: e := by
  have hspace : ' ' ∉ a.display := fun hmem => by
    have hchar := isAddrText_socketAddr a _ hmem
    revert hchar
    decide
  constructor
  · intro hsome
    obtain ⟨⟨rest, cap⟩, hhead⟩ := Option.isSome_iff_exists.mp hsome
    obtain ⟨body, hbody, hm⟩ := Regex.head_sound hhead
    obtain ⟨front, ip, back, port, hphrase, -, rfl⟩ := matches_addrPattern hm
    rw [List.append_assoc, List.append_cancel_left_eq, List.append_assoc,
      List.cons_append] at hbody
    obtain ⟨htext, hrest⟩ := split_first_inj hbody hspace hphrase.chars
    refine ⟨?_, rest, hrest.symm⟩
    by_contra hscope
    have hpercent := percent_mem_of_scoped hscope
    rw [htext] at hpercent
    exact hphrase.percent hpercent
  · rintro ⟨hscope, rest, rfl⟩
    obtain ⟨front, back, port, hphrase, hport, hdisplay⟩ := @phrase_display digits a hscope
    have hm := @matches_of_phrase digits kw (' ' :: suffix) _ _ _ _ hphrase hport
    rw [Option.isSome_iff_ne_none]
    intro hnone
    refine Regex.head_eq_none.mp hnone _ rest _ ?_ hm
    rw [hdisplay]
    simp

/-- What a pattern finds in a line that has a keyword and an address: the address, or what it
    finds after it. -/
theorem find_addrPattern {digits : DigitClass} {kw kw' suffix e : List Char} {a : SocketAddr}
    (hkw : kw ∈ keywords) (hkw' : kw' ∈ keywords) :
    Regex.find (addrPattern digits kw' (' ' :: suffix)) (kw ++ (a.display ++ ' ' :: e)) =
      if kw' = kw ∧ scopeId a = 0 ∧ suffix <+: e then some (some a.ip.display)
      else Regex.find (addrPattern digits kw' (' ' :: suffix)) (' ' :: e) := by
  have htails : ∀ kw ∈ keywords, Silent kw.tail := by decide
  have hclash : ∀ kw ∈ keywords, ∀ kw' ∈ keywords, kw' ≠ kw → Regex.clash kw kw' = true := by
    decide
  have hne : ∀ kw ∈ keywords, kw ≠ [] := by decide
  obtain ⟨c, tail, rfl⟩ := List.exists_cons_of_ne_nil (hne kw hkw)
  -- beyond the keyword nothing is found before the end of the address
  have hrest : Regex.find (addrPattern digits kw' (' ' :: suffix))
      (tail ++ (a.display ++ ' ' :: e)) =
        Regex.find (addrPattern digits kw' (' ' :: suffix)) (' ' :: e) := by
    have htail : Silent tail := htails _ hkw
    have hskip : ∀ {s : List Char}, Silent s → ∀ t,
        Regex.find (addrPattern digits kw' (' ' :: suffix)) (s ++ t) =
          Regex.find (addrPattern digits kw' (' ' :: suffix)) t :=
      fun hs t => Regex.find_dead (hs kw' hkw') t
    rw [hskip htail, hskip (silent_display a)]
  rw [List.cons_append, Regex.find, ← List.cons_append]
  by_cases hsame : kw' = c :: tail
  · subst hsame
    have hsome := @head_addrPattern_isSome digits (c :: tail) suffix e a
    cases hhead : Regex.head (addrPattern digits (c :: tail) (' ' :: suffix))
        (c :: tail ++ (a.display ++ ' ' :: e)) with
    | none =>
      rw [hhead] at hsome
      rw [if_neg (fun h => by simpa using hsome.mpr h.2)]
      exact hrest
    | some m =>
      rw [hhead] at hsome
      have hcap : m.2 = some a.ip.display := @head_addrPattern _ _ _ _ m.1 _ _ hhead
      rw [if_pos ⟨rfl, hsome.mp rfl⟩, ← hcap]
  · have hnone : Regex.head (addrPattern digits kw' (' ' :: suffix))
        (c :: tail ++ (a.display ++ ' ' :: e)) = none :=
      Regex.head_eq_none_of_not_prefix
        (Regex.not_prefix_of_clash (Regex.clash_append (hclash _ hkw kw' hkw' hsame)))
    rw [hnone, if_neg (fun h => hsame h.1)]
    exact hrest

/-- What the patterns end with begins with a blank. -/
theorem suffix_blank : ∀ suffix ∈ [tooManyAttempts, " failed:".toList, " (".toList],
    ∃ rest, suffix = ' ' :: rest := by
  intro suffix hs
  simp only [List.mem_cons, List.not_mem_nil, or_false] at hs
  rcases hs with rfl | rfl | rfl <;> exact ⟨_, rfl⟩

end Ghostport.Firewall
