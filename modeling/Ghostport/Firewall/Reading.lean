import Ghostport.Firewall.Daemon
import Ghostport.Firewall.Phrases
import Ghostport.Lib.Lines
import Ghostport.Server.Log

/-!
# What the daemon reads of a text

The journal has a text line by line, and the daemon reads each line by itself. Colours, and
texts in which no keyword begins, do not change what it reads.

Results:
* `reads_silent`, `reads_sgr`, `reads_sgr_end`, `reads_quotes`: what can be left out of a text.
* `reads_rejected`, `reads_handshakeFailed`, `reads_handshakeTimedOut`, `reads_dataConnection`:
  what the daemon reads of the lines that the server prints about an address.
-/

namespace Ghostport.Firewall

open Ghostport.Core Ghostport.Lib Ghostport.Net

/-- `Q` holds of what the daemon extracts from each journal line of the text. -/
def Reads (digits : DigitClass) (Q : Option (IpAddr × Offense) → Prop) (text : List Char) : Prop :=
  ∀ l ∈ journalLines text, Q (extractOffense digits l)

theorem offenses_eq_nil_iff {digits : DigitClass} {text : List Char} :
    offenses digits text = [] ↔ Reads digits (· = none) text := by
  unfold offenses Reads
  rw [List.filterMap_eq_nil_iff]

theorem not_mem_offenses_iff {digits : DigitClass} {text : List Char} {o : IpAddr × Offense} :
    o ∉ offenses digits text ↔ Reads digits (· ≠ some o) text := by
  unfold offenses Reads
  simp only [List.mem_filterMap, not_exists, not_and]

theorem Reads.imp {digits : DigitClass} {Q Q' : Option (IpAddr × Offense) → Prop}
    {text : List Char} (h : Reads digits Q text) (himp : ∀ r, Q r → Q' r) :
    Reads digits Q' text :=
  fun l hl => himp _ (h l hl)

/-! ## Texts that do not matter -/

section

variable {digits : DigitClass} {Q : Option (IpAddr × Offense) → Prop}

theorem extractOffense_nextLine (line : List Char) :
    extractOffense digits (nextLine line) = extractOffense digits line := by
  unfold nextLine
  split
  · rename_i hlast
    obtain ⟨l, rfl⟩ := List.getLast?_eq_some_iff.mp hlast
    have hstrip : stripAnsi (l ++ ['\r']) = stripAnsi l ++ ['\r'] :=
      Regex.removeAll_append (Regex.barrier_cons (by decide) []) l
    rw [List.dropLast_concat]
    refine extractOffense_congr fun p hp => ?_
    rw [hstrip, find_return hp]
  · rfl

theorem reads_iff_allLines {text : List Char} :
    Reads digits Q text ↔ AllLines (fun l => Q (extractOffense digits l)) [] text := by
  rw [allLines_iff]
  unfold Reads journalLines
  simp only [List.mem_map, forall_exists_index, and_imp, forall_apply_eq_imp_iff₂,
    extractOffense_nextLine]

theorem reads_congr {l l' : List Char}
    (h : ∀ p ∈ patterns digits, Regex.find p.1 (stripAnsi l) = Regex.find p.1 (stripAnsi l')) :
    Q (extractOffense digits l) ↔ Q (extractOffense digits l') := by
  rw [extractOffense_congr h]

/-- A part of the text can be replaced if no pattern sees the difference in any line. -/
theorem reads_replace {c c' : List Char} (hc : '\n' ∉ c) (hc' : '\n' ∉ c')
    (h : ∀ u v, ∀ p ∈ patterns digits,
      Regex.find p.1 (stripAnsi (u ++ c ++ v)) = Regex.find p.1 (stripAnsi (u ++ c' ++ v)))
    (x y : List Char) :
    Reads digits Q (x ++ c ++ y) ↔ Reads digits Q (x ++ c' ++ y) := by
  rw [reads_iff_allLines, reads_iff_allLines]
  exact allLines_replace hc hc' (fun u v => reads_congr (h u v)) [] x y

theorem newline_not_mem_sgr {t : List Char} (ht : IsSgr t) : '\n' ∉ t := by
  obtain ⟨seqs, hseqs, rfl⟩ := ht
  intro hm
  obtain ⟨l, hl, hm⟩ := List.mem_flatten.mp hm
  obtain ⟨params, hp, rfl⟩ := List.mem_map.mp hl
  have hparam : isSgrParam '\n' = false := by decide
  simp only [sgr, List.mem_cons, List.mem_append, List.not_mem_nil, or_false] at hm
  rcases hm with hm | hm | hm | hm
  · revert hm
    decide
  · revert hm
    decide
  · have := hseqs params hp _ hm
    rw [hparam] at this
    cases this
  · revert hm
    decide

/-- A plain text on one line. -/
def Plain (s : List Char) : Prop := '\n' ∉ s ∧ '\x1b' ∉ s

instance (s : List Char) : Decidable (Plain s) :=
  inferInstanceAs (Decidable ('\n' ∉ s ∧ '\x1b' ∉ s))

theorem Plain.append {s t : List Char} (hs : Plain s) (ht : Plain t) : Plain (s ++ t) := by
  unfold Plain at *
  simp only [List.mem_append, not_or]
  exact ⟨⟨hs.1, ht.1⟩, hs.2, ht.2⟩

theorem plain_of_chars {s : List Char} {p : Char → Bool} (hs : ∀ c ∈ s, p c)
    (hp : p '\n' = false ∧ p '\x1b' = false) : Plain s := by
  constructor <;> intro hm
  · have := hs _ hm
    rw [hp.1] at this
    cases this
  · have := hs _ hm
    rw [hp.2] at this
    cases this

theorem plain_display (a : SocketAddr) : Plain a.display :=
  plain_of_chars (isAddrText_socketAddr a) (by decide)

theorem plain_decimal (n : ℕ) : Plain (decimal n) :=
  plain_of_chars (isIpText_decimal n) (by decide)

/-- A silent text in front. -/
theorem reads_silent {s : List Char} (hplain : Plain s) (hs : Silent s) (y : List Char) :
    Reads digits Q (s ++ y) ↔ Reads digits Q y := by
  rw [reads_iff_allLines, reads_iff_allLines]
  refine allLines_replace_start (e := []) hplain.1 (by simp) (fun v => reads_congr fun p hp => ?_) y
  rw [stripAnsi_plain hplain.2, find_silent hp hs]
  rfl

theorem extractOffense_keywordless {s : List Char} (hplain : Plain s)
    (hs : ∀ kw ∈ keywords, ¬ kw <:+: s) : extractOffense digits s = none := by
  refine List.findSome?_eq_none_iff.mpr fun p hp => ?_
  simp only [extractWith, stripAnsi_eq_self hplain.2, find_eq_none_of_not_infix hp hs]

/-- A text without keywords, by itself. -/
theorem reads_keywordless {s : List Char} (hplain : Plain s)
    (hs : ∀ kw ∈ keywords, ¬ kw <:+: s) : Reads digits Q s ↔ Q none := by
  have hline := allLines_append (P := fun l => Q (extractOffense digits l)) hplain.1 [] []
  rw [List.append_nil, List.nil_append, AllLines] at hline
  rw [reads_iff_allLines, hline, extractOffense_keywordless hplain hs]

theorem reads_iff_first (s : List Char) :
    Reads digits Q s ↔ Q (extractOffense digits (s.takeWhile (· ≠ '\n'))) ∧
      ∀ rest, s.dropWhile (· ≠ '\n') = '\n' :: rest → Reads digits Q rest := by
  rw [reads_iff_allLines, allLines_iff_first]
  simp only [List.nil_append, reads_iff_allLines]

/-- A colour in front. -/
theorem reads_sgr {t : List Char} (ht : IsSgr t) (y : List Char) :
    Reads digits Q (t ++ y) ↔ Reads digits Q y := by
  rw [reads_iff_allLines, reads_iff_allLines]
  refine allLines_replace_start (e := []) (newline_not_mem_sgr ht) (by simp)
    (fun v => reads_congr fun p _ => ?_) y
  rw [stripAnsi_sgr ht]
  rfl

/-- What ends a text, where the patterns see in no line that it is there. -/
theorem reads_end {c : List Char} (hc : '\n' ∉ c)
    (h : ∀ u, ∀ p ∈ patterns digits,
      Regex.find p.1 (stripAnsi (u ++ c)) = Regex.find p.1 (stripAnsi u)) (x : List Char) :
    Reads digits Q (x ++ c) ↔ Reads digits Q x := by
  rw [reads_iff_allLines, reads_iff_allLines]
  generalize ([] : List Char) = u
  induction x generalizing u with
  | nil =>
    have hline := allLines_append (P := fun l => Q (extractOffense digits l)) hc u []
    rw [List.append_nil] at hline
    exact hline.trans (reads_congr (h u))
  | cons d x ih =>
    simp only [List.cons_append, AllLines]
    split
    · rw [ih]
    · exact ih _

theorem reads_sgr_end {t : List Char} (ht : IsSgr t) (x : List Char) :
    Reads digits Q (x ++ t) ↔ Reads digits Q x :=
  reads_end (newline_not_mem_sgr ht) (fun u p _ => by rw [stripAnsi_append_sgr ht]) x

/-- What comes after a quotation mark, to the end. -/
theorem reads_quote_end {q : List Char} (hplain : Plain q) (hq : Silent q) (x : List Char) :
    Reads digits Q (x ++ '"' :: q) ↔ Reads digits Q x := by
  have hmem : '\n' ∉ '"' :: q := by simpa using hplain.1
  refine reads_end hmem (fun u p hp => ?_) x
  have hesc : '\x1b' ∉ '"' :: q := by simpa using hplain.2
  have hstrip := stripAnsi_between isSgr_nil isSgr_nil (c := '"') (by decide) hesc u []
  have hnil : stripAnsi [] = [] := rfl
  simp only [List.nil_append, List.append_nil, hnil] at hstrip
  rw [hstrip, find_quote hp, find_eq_none_of_silent hp hq, Option.or_none]

/-- What stands between two quotation marks. -/
theorem reads_quotes {q : List Char} (hplain : Plain q) (hq : Silent q) (x y : List Char) :
    Reads digits Q (x ++ ('"' :: q ++ ['"']) ++ y) ↔ Reads digits Q (x ++ ['"'] ++ y) := by
  refine reads_replace (by simpa using hplain.1) (by decide) (fun u v p hp => ?_) x y
  have hlong : stripAnsi (u ++ ('"' :: q ++ ['"']) ++ v) =
      stripAnsi u ++ '"' :: (q ++ '"' :: stripAnsi v) := by
    have h := stripAnsi_between isSgr_nil isSgr_nil (c := '"') (w := q ++ ['"']) (by decide)
      (by simpa using hplain.2) u v
    simpa using h
  have hshort : stripAnsi (u ++ ['"'] ++ v) = stripAnsi u ++ '"' :: stripAnsi v := by
    have h := stripAnsi_between isSgr_nil isSgr_nil (c := '"') (w := []) (by decide)
      (by decide) u v
    simpa using h
  rw [hlong, hshort, find_quote hp, find_quote hp, find_quote hp, find_eq_none_of_silent hp hq,
    Option.none_or]

/-- Colours around a text that begins with a bracket. -/
theorem reads_bracket {t t' w : List Char} (ht : IsSgr t) (ht' : IsSgr t') (hw : Plain w)
    (x y : List Char) : Reads digits Q (x ++ (t ++ (']' :: w) ++ t') ++ y) ↔
      Reads digits Q (x ++ (']' :: w) ++ y) := by
  have hplain : '\n' ∉ ']' :: w := by simpa using hw.1
  have hesc : '\x1b' ∉ ']' :: w := by simpa using hw.2
  refine reads_replace ?_ hplain (fun u v p _ => ?_) x y
  · simp only [List.mem_append, not_or]
    exact ⟨⟨newline_not_mem_sgr ht, hplain⟩, newline_not_mem_sgr ht'⟩
  · have hcoloured := stripAnsi_between ht ht' (by decide) hesc u v
    have hbare := stripAnsi_between isSgr_nil isSgr_nil (by decide) hesc u v
    rw [List.nil_append, List.append_nil] at hbare
    rw [hcoloured, hbare]

/-! ## Data connections -/

theorem reads_dataConnection (p : Palette) (a : SocketAddr) (e : String) :
    Reads digits Q ((Server.LogLine.dataConnection a e).render p) ↔
      Reads digits Q e.toList := by
  have hprefix : Silent ("data connection from ".toList ++ a.display ++ ": ".toList) :=
    Silent.append (Silent.append (by decide) (silent_display a)) (by decide)
  have hplain : Plain ("data connection from ".toList ++ a.display ++ ": ".toList) :=
    Plain.append (Plain.append (by decide) (plain_display a)) (by decide)
  have htext : (Server.LogLine.dataConnection a e).render p = "ghostport: ".toList ++
      (p.red ++ ("data connection from ".toList ++ a.display ++ ": ".toList ++ e.toList) ++
        p.reset) := rfl
  rw [htext]
  generalize e.toList = text
  rw [reads_silent (by decide) (by decide), ← List.append_assoc,
    reads_sgr_end p.reset_sgr, List.append_assoc, reads_sgr p.red_sgr,
    reads_silent hplain hprefix]

/-- What a pattern extracts from a line that has a keyword and an address, and nothing to find
    after them. -/
theorem extractWith_keyword {kw kw' suffix e : List Char} {o : Offense} {a : SocketAddr}
    (hkw : kw ∈ keywords) (hkw' : kw' ∈ keywords)
    (hnone : Regex.find (addrPattern digits kw' (' ' :: suffix)) (' ' :: e) = none) :
    extractWith (kw ++ (a.display ++ ' ' :: e)) (addrPattern digits kw' (' ' :: suffix), o) =
      if kw' = kw ∧ scopeId a = 0 ∧ suffix <+: e then some (a.ip, o) else none := by
  simp only [extractWith, find_addrPattern hkw hkw', hnone]
  by_cases hcond : kw' = kw ∧ scopeId a = 0 ∧ suffix <+: e
  · rw [if_pos hcond, if_pos hcond]
    simp only [ip_parse_display, Option.map_some]
  · rw [if_neg hcond, if_neg hcond]

/-- The keyword of each pattern, with what follows the address and its blank. -/
def endings : List (List Char × List Char × Offense) :=
  [(rejectedControl, tooManyAttempts.tail, .rateLimited),
    (rejectedData, tooManyAttempts.tail, .rateLimited),
    (controlHandshake, "failed:".toList, .handshakeFailed),
    (udpHandshake, ['('], .handshakeFailed)]

theorem patterns_endings (digits : DigitClass) :
    patterns digits = endings.map fun x => (addrPattern digits x.1 (' ' :: x.2.1), x.2.2) := by
  have htoo : tooManyAttempts = ' ' :: tooManyAttempts.tail := by decide
  have hfailed : " failed:".toList = ' ' :: "failed:".toList := by decide
  have hparen : " (".toList = [' ', '('] := by decide
  unfold patterns endings
  rw [hfailed, hparen]
  simp only [List.map_cons, List.map_nil, ← htoo]

theorem keyword_unique : ∀ x ∈ endings, ∀ y ∈ endings, y.1 = x.1 → y = x := by decide

/-- A search in which no other element has a result. -/
theorem findSome?_unique {α β : Type} {f : α → Option β} {l : List α} {x : α} (hx : x ∈ l)
    (hothers : ∀ y ∈ l, y ≠ x → f y = none) : l.findSome? f = f x := by
  have honly : ∀ y ∈ l, ∀ b, f y = some b → f x = some b := by
    intro y hy b hb
    by_cases hyx : y = x
    · rw [← hyx, hb]
    · rw [hothers y hy hyx] at hb
      cases hb
  cases hfound : l.findSome? f with
  | none => exact (List.findSome?_eq_none_iff.mp hfound x hx).symm
  | some b =>
    obtain ⟨y, hy, hb⟩ := List.exists_of_findSome?_eq_some hfound
    exact (honly y hy b hb).symm

/-- A line that has a keyword and an address, and nothing to find after them: the pattern with
    this keyword decides. -/
theorem extractOffense_keyword {line kw suffix e : List Char} {o : Offense} {a : SocketAddr}
    (hending : (kw, suffix, o) ∈ endings) (hkw : kw ∈ keywords)
    (hstrip : stripAnsi line = kw ++ (a.display ++ ' ' :: e))
    (hnone : ∀ p ∈ patterns digits, Regex.find p.1 (' ' :: e) = none) :
    extractOffense digits line =
      if scopeId a = 0 ∧ suffix <+: e then some (a.ip, o) else none := by
  have hkeywords : ∀ x ∈ endings, x.1 ∈ keywords := by decide
  have hwith : ∀ x ∈ endings,
      extractWith (kw ++ (a.display ++ ' ' :: e)) (addrPattern digits x.1 (' ' :: x.2.1), x.2.2) =
        if x.1 = kw ∧ scopeId a = 0 ∧ x.2.1 <+: e then some (a.ip, x.2.2) else none := by
    intro x hx
    refine extractWith_keyword hkw (hkeywords x hx) (hnone (_, x.2.2) ?_)
    rw [patterns_endings]
    exact List.mem_map_of_mem hx
  have hothers : ∀ x ∈ endings, x ≠ (kw, suffix, o) →
      extractWith (kw ++ (a.display ++ ' ' :: e)) (addrPattern digits x.1 (' ' :: x.2.1), x.2.2) =
        none := by
    intro x hx hne
    rw [hwith x hx, if_neg fun h => hne (keyword_unique _ hending x hx h.1)]
  unfold extractOffense
  rw [hstrip, patterns_endings, List.findSome?_map]
  refine (findSome?_unique hending hothers).trans ?_
  rw [hwith _ hending]
  simp only [true_and]

/-! ## Rejections -/

/-- The keyword of a rejection on this channel. -/
def rejectedKeyword : Server.Channel → List Char
  | .control => rejectedControl
  | .data => rejectedData

theorem rejectedKeyword_mem (channel : Server.Channel) : rejectedKeyword channel ∈ keywords := by
  cases channel <;> decide

theorem plain_rejected (channel : Server.Channel) (a : SocketAddr) :
    Plain (rejectedKeyword channel ++ a.display ++ tooManyAttempts) := by
  have hkeyword : Plain (rejectedKeyword channel) := by
    cases channel <;> decide
  exact (hkeyword.append (plain_display a)).append (by decide)

theorem extractOffense_rejected (channel : Server.Channel) (a : SocketAddr) :
    extractOffense digits (rejectedKeyword channel ++ a.display ++ tooManyAttempts) =
      if scopeId a = 0 then some (a.ip, .rateLimited) else none := by
  have hrest : tooManyAttempts = ' ' :: tooManyAttempts.tail := by decide
  have hstrip : stripAnsi (rejectedKeyword channel ++ a.display ++ tooManyAttempts) =
      rejectedKeyword channel ++ (a.display ++ ' ' :: tooManyAttempts.tail) := by
    rw [stripAnsi_eq_self (plain_rejected channel a).2, List.append_assoc, ← hrest]
  have hnone : ∀ p ∈ patterns digits, Regex.find p.1 (' ' :: tooManyAttempts.tail) = none := by
    intro p hp
    rw [← hrest]
    exact find_eq_none_of_silent hp (by decide)
  have hending : (rejectedKeyword channel, tooManyAttempts.tail, .rateLimited) ∈ endings := by
    cases channel <;> decide
  rw [extractOffense_keyword hending (rejectedKeyword_mem channel) hstrip hnone]
  simp only [List.prefix_refl, and_true]

/-- Of a rejection the daemon reads the address, unless it has a scope id. -/
theorem reads_rejected (p : Palette) (channel : Server.Channel) (a : SocketAddr) :
    Reads digits Q ((Server.LogLine.rejected channel a).render p) ↔
      Q (if scopeId a = 0 then some (a.ip, .rateLimited) else none) := by
  have hname : channel.name.toList ++ ": rejected ".toList = rejectedKeyword channel := by
    cases channel <;> decide
  have htext : (Server.LogLine.rejected channel a).render p = "ghostport: ".toList ++
      (p.orange ++ (channel.name.toList ++ ": rejected ".toList ++ a.display ++
        tooManyAttempts) ++ p.reset) := rfl
  have hline := allLines_append (P := fun l => Q (extractOffense digits l))
    (plain_rejected channel a).1 [] []
  rw [List.append_nil, List.nil_append, AllLines, extractOffense_rejected] at hline
  rw [htext, hname, reads_silent (by decide) (by decide), reads_sgr_end p.reset_sgr,
    reads_sgr p.orange_sgr, reads_iff_allLines, hline]

/-! ## Failed handshakes -/

/-- The text of a failed handshake up to its error. -/
def handshakeFront (a : SocketAddr) : List Char :=
  controlHandshake ++ a.display ++ " failed: ".toList

theorem plain_handshakeFront (a : SocketAddr) : Plain (handshakeFront a) :=
  Plain.append (Plain.append (by decide) (plain_display a)) (by decide)

theorem stripAnsi_handshakeFront (a : SocketAddr) (e : List Char) :
    stripAnsi (handshakeFront a ++ e) =
      controlHandshake ++ (a.display ++ ' ' :: ("failed: ".toList ++ stripAnsi e)) := by
  rw [stripAnsi_plain (plain_handshakeFront a).2]
  simp [handshakeFront]

/-- A pattern of another keyword extracts from such a line what it extracts from the error, and
    so does every pattern if the address has a scope id. -/
theorem extractWith_other {kw suffix : List Char} {o : Offense} (a : SocketAddr) (e : List Char)
    (hmem : (addrPattern digits kw suffix, o) ∈ patterns digits) (hkw : kw ∈ keywords)
    (hsuffix : suffix ∈ [tooManyAttempts, " failed:".toList, " (".toList])
    (hother : kw ≠ controlHandshake ∨ scopeId a ≠ 0) :
    extractWith (stripAnsi (handshakeFront a ++ e)) (addrPattern digits kw suffix, o) =
      extractWith (stripAnsi e) (addrPattern digits kw suffix, o) := by
  have hcontrol : controlHandshake ∈ keywords := by decide
  have hnot : ∀ rest, ¬ (kw = controlHandshake ∧ scopeId a = 0 ∧ rest <+:
      "failed: ".toList ++ stripAnsi e) := fun rest h => hother.elim (· h.1) (· h.2.1)
  have hfind : Regex.find (addrPattern digits kw suffix) (stripAnsi (handshakeFront a ++ e)) =
      Regex.find (addrPattern digits kw suffix) (stripAnsi e) := by
    obtain ⟨rest, hrest⟩ := suffix_blank suffix hsuffix
    have hsilent := find_silent hmem (s := " failed: ".toList) (by decide) (stripAnsi e)
    rw [hrest] at hsilent
    rw [stripAnsi_handshakeFront, hrest, find_addrPattern hcontrol hkw, if_neg (hnot rest)]
    exact hsilent
  unfold extractWith
  rw [hfind]

/-- The pattern of failed handshakes extracts the address, unless it has a scope id. -/
theorem extractWith_control {a : SocketAddr} (hscope : scopeId a = 0) (e : List Char) :
    extractWith (stripAnsi (handshakeFront a ++ e))
      (addrPattern digits controlHandshake " failed:".toList, .handshakeFailed) =
        some (a.ip, .handshakeFailed) := by
  have hcontrol : controlHandshake ∈ keywords := by decide
  have hend : "failed:".toList <+: "failed: ".toList ++ stripAnsi e := ⟨' ' :: stripAnsi e, by simp⟩
  have hsuffix : " failed:".toList = ' ' :: "failed:".toList := by simp
  have hfind : Regex.find (addrPattern digits controlHandshake " failed:".toList)
      (stripAnsi (handshakeFront a ++ e)) = some (some a.ip.display) := by
    rw [stripAnsi_handshakeFront, hsuffix, find_addrPattern hcontrol hcontrol,
      if_pos ⟨rfl, hscope, hend⟩]
  unfold extractWith
  simp only [hfind, ip_parse_display, Option.map_some]

theorem offense_of_extractWith {clean : List Char} {p : Regex × Offense} {o : IpAddr × Offense}
    (h : extractWith clean p = some o) : o.2 = p.2 := by
  unfold extractWith at h
  split at h
  · obtain ⟨ip, -, rfl⟩ := Option.map_eq_some_iff.mp h
    rfl
  · cases h

/-- Of a line about a failed handshake the daemon reads the address, unless a rejection is
    found in the error; or the error alone, if the address has a scope id. -/
theorem extractOffense_handshakeFront (a : SocketAddr) (e : List Char) :
    extractOffense digits (handshakeFront a ++ e) =
      if scopeId a = 0 then
        match extractOffense digits e with
        | some (ip, .rateLimited) => some (ip, .rateLimited)
        | _ => some (a.ip, .handshakeFailed)
      else extractOffense digits e := by
  have h₁ := @extractWith_other digits rejectedControl tooManyAttempts .rateLimited a e
    (by simp [patterns]) (by decide) (by simp) (.inl (by decide))
  have h₂ := @extractWith_other digits rejectedData tooManyAttempts .rateLimited a e
    (by simp [patterns]) (by decide) (by simp) (.inl (by decide))
  have h₄ := @extractWith_other digits udpHandshake " (".toList .handshakeFailed a e
    (by simp [patterns]) (by decide) (by simp) (.inl (by decide))
  have hoffense : ∀ p ∈ patterns digits, ∀ o, extractWith (stripAnsi e) p = some o → o.2 = p.2 :=
    fun p _ o h => offense_of_extractWith h
  simp only [patterns, List.forall_mem_cons] at hoffense
  obtain ⟨ho₁, ho₂, ho₃, ho₄, -⟩ := hoffense
  unfold extractOffense patterns
  by_cases hscope : scopeId a = 0
  · rw [if_pos hscope]
    simp only [List.findSome?_cons, List.findSome?_nil, h₁, h₂, extractWith_control hscope]
    -- rejections come first in the patterns
    cases hx₁ : extractWith (stripAnsi e) (addrPattern digits rejectedControl tooManyAttempts,
        Offense.rateLimited) with
    | some o =>
      obtain ⟨ip, offense⟩ := o
      obtain rfl : offense = .rateLimited := ho₁ _ hx₁
      rfl
    | none =>
      cases hx₂ : extractWith (stripAnsi e) (addrPattern digits rejectedData tooManyAttempts,
          Offense.rateLimited) with
      | some o =>
        obtain ⟨ip, offense⟩ := o
        obtain rfl : offense = .rateLimited := ho₂ _ hx₂
        rfl
      | none =>
        simp only
        split
        · rename_i ip hfound
          split at hfound
          · rename_i o hx₃
            obtain rfl := Option.some.inj hfound
            exact absurd (ho₃ _ hx₃) (by simp)
          · split at hfound
            · rename_i o hx₄
              obtain rfl := Option.some.inj hfound
              exact absurd (ho₄ _ hx₄) (by simp)
            · cases hfound
        · rfl
  · have h₃ := @extractWith_other digits controlHandshake " failed:".toList .handshakeFailed a e
      (by simp [patterns]) (by decide) (by simp) (.inr hscope)
    rw [if_neg hscope]
    simp only [List.findSome?_cons, List.findSome?_nil, h₁, h₂, h₃, h₄]

theorem reads_handshakeFailed (p : Palette) (a : SocketAddr) (e : String) :
    Reads digits Q ((Server.LogLine.handshakeFailed a e).render p) ↔
      Q (extractOffense digits (handshakeFront a ++ e.toList.takeWhile (· ≠ '\n'))) ∧
        ∀ rest, e.toList.dropWhile (· ≠ '\n') = '\n' :: rest → Reads digits Q rest := by
  have htext : (Server.LogLine.handshakeFailed a e).render p = "ghostport: ".toList ++
      (p.red ++ (handshakeFront a ++ e.toList) ++ p.reset) := rfl
  rw [htext, reads_silent (by decide) (by decide), reads_sgr_end p.reset_sgr, reads_sgr p.red_sgr,
    reads_iff_allLines, allLines_append (plain_handshakeFront a).1, allLines_iff_first]
  simp only [List.nil_append, reads_iff_allLines]

/-- A timeout is no offence. -/
theorem reads_handshakeTimedOut (p : Palette) (a : SocketAddr) :
    Reads digits Q ((Server.LogLine.handshakeTimedOut a).render p) ↔ Q none := by
  have htext : (Server.LogLine.handshakeTimedOut a).render p = "ghostport: ".toList ++
      (p.orange ++ (controlHandshake ++ a.display ++ " timed out".toList) ++ p.reset) := rfl
  have hplain : Plain (controlHandshake ++ a.display ++ " timed out".toList) :=
    Plain.append (Plain.append (by decide) (plain_display a)) (by decide)
  have hnone : extractOffense digits (controlHandshake ++ a.display ++ " timed out".toList) =
      none := by
    have hstrip : stripAnsi (controlHandshake ++ a.display ++ " timed out".toList) =
        controlHandshake ++ (a.display ++ ' ' :: "timed out".toList) := by
      rw [stripAnsi_eq_self hplain.2]
      simp
    have hother : ∀ suffix ∈ [tooManyAttempts, " failed:".toList, " (".toList],
        ¬ suffix <+: " timed out".toList := by decide
    refine List.findSome?_eq_none_iff.mpr fun q hq => ?_
    obtain ⟨kw, hkw, suffix, hsuffix, heq⟩ := patterns_eq hq
    obtain ⟨rest, rfl⟩ := suffix_blank suffix hsuffix
    have hrest : ¬ rest <+: "timed out".toList := fun h =>
      hother _ hsuffix (List.cons_prefix_cons.mpr ⟨rfl, h⟩)
    have hfind : Regex.find q.1 (stripAnsi (controlHandshake ++ a.display ++
        " timed out".toList)) = none := by
      rw [hstrip, heq, find_addrPattern (by decide) hkw, if_neg (fun h => hrest h.2.2), ← heq]
      exact find_eq_none_of_silent hq (by decide)
    simp only [extractWith, hfind]
  rw [htext, reads_silent (by decide) (by decide), reads_sgr_end p.reset_sgr,
    reads_sgr p.orange_sgr, reads_iff_allLines]
  have hline := allLines_append (P := fun l => Q (extractOffense digits l)) hplain.1 [] []
  rw [List.append_nil, List.nil_append] at hline
  rw [hline, AllLines, hnone]

end

end Ghostport.Firewall
