import Ghostport.Firewall.Reading
import Ghostport.Udp.Server

/-!
# The detector reads what the servers print

Four print statements, in two crates, are what the patterns were copied from. The pattern of each
has to stop at the end of the address, although its class of characters goes on into the port.

Results:
* `extractOffense_around`: colours and a silent text around a line are not seen.
* `extractOffense_printed`: the address of each of the four lines is read back, if the other texts
  of the line have no phrase of the patterns in them.
* `extractOffense_recoloured`: it does not suffice that the texts have none before `strip_ansi`.
-/

namespace Ghostport.Firewall

open Ghostport.Core Ghostport.Lib Ghostport.Net

/-! ## The four lines -/

/-- What is printed about an address that misbehaves. -/
inductive OffenseLine where
  /-- `ghostport-core/src/server.rs`, lines 270-275 and 404-409. -/
  | rejected (channel : Server.Channel) (peerAddr : SocketAddr)
  /-- `ghostport-core/src/server.rs`, lines 302-305. -/
  | handshakeFailed (peerAddr : SocketAddr) (e : String)
  /-- `ghostport-udp/src/server.rs`, line 149. -/
  | udpHandshakeFailed (peerAddr : SocketAddr) (peerName e : String)
  deriving DecidableEq, Repr

namespace OffenseLine

def render (p : Palette) : OffenseLine → List Char
  | rejected channel peerAddr => (Server.LogLine.rejected channel peerAddr).render p
  | handshakeFailed peerAddr e => (Server.LogLine.handshakeFailed peerAddr e).render p
  | udpHandshakeFailed peerAddr peerName e =>
    (Udp.LogLine.handshakeFailed peerAddr peerName e).render

def peerAddr : OffenseLine → SocketAddr
  | rejected _ peerAddr | handshakeFailed peerAddr _ | udpHandshakeFailed peerAddr _ _ => peerAddr

def offense : OffenseLine → Offense
  | rejected _ _ => .rateLimited
  | handshakeFailed _ _ | udpHandshakeFailed _ _ _ => .handshakeFailed

/-- The texts in the line that the server has not chosen. -/
def texts : OffenseLine → List String
  | rejected _ _ => []
  | handshakeFailed _ e => [e]
  | udpHandshakeFailed _ peerName e => [peerName, e]

end OffenseLine

/-- The text has none of the fixed phrases of the patterns. -/
def Phraseless (s : List Char) : Prop :=
  ¬ "rejected".toList <:+: s ∧ ¬ "handshake with".toList <:+: s

instance (s : List Char) : Decidable (Phraseless s) :=
  inferInstanceAs (Decidable (¬ "rejected".toList <:+: s ∧ ¬ "handshake with".toList <:+: s))

section

variable {digits : DigitClass} {p : Regex × Offense}

theorem find_phraseless (hp : p ∈ patterns digits) {s : List Char} (hs : Phraseless s) :
    Regex.find p.1 s = none := by
  have hphrase : ∀ kw ∈ keywords, "rejected".toList <:+: kw ∨ "handshake with".toList <:+: kw := by
    decide
  refine find_eq_none_of_not_infix hp fun kw hkw hin => ?_
  rcases hphrase kw hkw with hrejected | hhandshake
  · exact hs.1 (hrejected.trans hin)
  · exact hs.2 (hhandshake.trans hin)

theorem extractOffense_phraseless {s : List Char} (hs : Phraseless (stripAnsi s)) :
    extractOffense digits s = none := by
  refine List.findSome?_eq_none_iff.mpr fun p hp => ?_
  simp only [extractWith, find_phraseless hp hs]

/-- Colours around a line, and around its text after a silent beginning. -/
theorem extractOffense_around {front back t t' s : List Char} (hfront : IsSgr front)
    (hback : IsSgr back) (ht : IsSgr t) (ht' : IsSgr t') (hplain : Plain s) (hs : Silent s)
    (text : List Char) :
    extractOffense digits (front ++ (s ++ (t ++ text ++ t')) ++ back) =
      extractOffense digits text := by
  refine extractOffense_congr fun p hp => ?_
  rw [stripAnsi_append_sgr hback, stripAnsi_sgr hfront, stripAnsi_plain hplain.2,
    stripAnsi_append_sgr ht', stripAnsi_sgr ht, find_silent hp hs]

/-! ## The line of `ghostport-udp` -/

theorem stripAnsi_udp (a : SocketAddr) (peerName e : List Char) :
    stripAnsi (udpHandshake ++ a.display ++ " (\"".toList ++ peerName ++ "\") failed: ".toList ++
      e) = udpHandshake ++ (a.display ++ ' ' :: ('(' :: '"' :: (stripAnsi peerName ++
        '"' :: (") failed: ".toList ++ stripAnsi e)))) := by
  have hfront : Plain (udpHandshake ++ a.display ++ " (\"".toList) :=
    Plain.append (Plain.append (by decide) (plain_display a)) (by decide)
  have hquote : stripAnsi (peerName ++ "\") failed: ".toList ++ e) =
      stripAnsi peerName ++ "\") failed: ".toList ++ stripAnsi e := by
    have h := stripAnsi_between isSgr_nil isSgr_nil (c := '"') (w := ") failed: ".toList)
      (by decide) (by decide) peerName e
    simpa using h
  have hassoc : udpHandshake ++ a.display ++ " (\"".toList ++ peerName ++ "\") failed: ".toList ++
      e = udpHandshake ++ a.display ++ " (\"".toList ++
        (peerName ++ "\") failed: ".toList ++ e) := by
    simp only [List.append_assoc]
  rw [hassoc, stripAnsi_plain hfront.2, hquote]
  simp

/-- Nothing is found in the line after the address. -/
theorem find_udp_rest (hp : p ∈ patterns digits) {peerName e : List Char}
    (hname : Phraseless peerName) (he : Phraseless e) :
    Regex.find p.1 (' ' :: ('(' :: '"' :: (peerName ++ '"' :: (") failed: ".toList ++ e)))) =
      none := by
  have hopen : Regex.find p.1 [' ', '('] = none := find_eq_none_of_silent hp (by decide)
  have hrest : Regex.find p.1 (") failed: ".toList ++ e) = none := by
    rw [find_silent hp (by decide), find_phraseless hp he]
  have hshape : ' ' :: ('(' :: '"' :: (peerName ++ '"' :: (") failed: ".toList ++ e))) =
      [' ', '('] ++ '"' :: (peerName ++ '"' :: (") failed: ".toList ++ e)) := rfl
  rw [hshape, find_quote hp, hopen, Option.none_or, find_quote hp, find_phraseless hp hname,
    Option.none_or, hrest]

theorem extractOffense_udp {a : SocketAddr} (hscope : scopeId a = 0) {peerName e : List Char}
    (hname : Phraseless (stripAnsi peerName)) (he : Phraseless (stripAnsi e)) :
    extractOffense digits (udpHandshake ++ a.display ++ " (\"".toList ++ peerName ++
      "\") failed: ".toList ++ e) = some (a.ip, .handshakeFailed) := by
  have hending : (udpHandshake, ['('], .handshakeFailed) ∈ endings := by decide
  rw [extractOffense_keyword hending (by decide) (stripAnsi_udp a peerName e)
    fun p hp => find_udp_rest hp hname he]
  exact if_pos ⟨hscope, '"' :: _, rfl⟩

/-! ## The inverse -/

/-- Of each of the four lines the detector reads the address and the offence. -/
theorem extractOffense_printed (digits : DigitClass) (p : Palette) {front back : List Char}
    (hfront : IsSgr front) (hback : IsSgr back) (line : OffenseLine)
    (hscope : scopeId line.peerAddr = 0)
    (htexts : ∀ t ∈ line.texts, Phraseless (stripAnsi t.toList)) :
    extractOffense digits (front ++ line.render p ++ back) =
      some (line.peerAddr.ip, line.offense) := by
  have hprefix : Plain "ghostport: ".toList ∧ Silent "ghostport: ".toList := by decide
  cases line with
  | rejected channel peerAddr =>
    have hscope : scopeId peerAddr = 0 := hscope
    have hname : channel.name.toList ++ ": rejected ".toList = rejectedKeyword channel := by
      cases channel <;> decide
    have htext : (Server.LogLine.rejected channel peerAddr).render p = "ghostport: ".toList ++
        (p.orange ++ (channel.name.toList ++ ": rejected ".toList ++ peerAddr.display ++
          tooManyAttempts) ++ p.reset) := rfl
    show extractOffense digits (front ++ (Server.LogLine.rejected channel peerAddr).render p ++
      back) = some (peerAddr.ip, .rateLimited)
    rw [htext, extractOffense_around hfront hback p.orange_sgr p.reset_sgr hprefix.1 hprefix.2,
      hname, extractOffense_rejected, if_pos hscope]
  | handshakeFailed peerAddr e =>
    have hscope : scopeId peerAddr = 0 := hscope
    have htext : (Server.LogLine.handshakeFailed peerAddr e).render p = "ghostport: ".toList ++
        (p.red ++ (handshakeFront peerAddr ++ e.toList) ++ p.reset) := rfl
    have he : Phraseless (stripAnsi e.toList) := htexts e (by simp [OffenseLine.texts])
    show extractOffense digits (front ++ (Server.LogLine.handshakeFailed peerAddr e).render p ++
      back) = some (peerAddr.ip, .handshakeFailed)
    rw [htext, extractOffense_around hfront hback p.red_sgr p.reset_sgr hprefix.1 hprefix.2,
      extractOffense_handshakeFront, if_pos hscope, extractOffense_phraseless he]
  | udpHandshakeFailed peerAddr peerName e =>
    have htext : (Udp.LogLine.handshakeFailed peerAddr peerName e).render =
        [] ++ ([] ++ (udpHandshake ++ peerAddr.display ++ " (\"".toList ++ peerName.toList ++
          "\") failed: ".toList ++ e.toList) ++ []) := by
      rw [List.append_nil]
      rfl
    have hempty : Plain [] ∧ Silent [] := by decide
    show extractOffense digits (front ++ (Udp.LogLine.handshakeFailed peerAddr peerName e).render ++
      back) = some (peerAddr.ip, .handshakeFailed)
    rw [htext, extractOffense_around hfront hback isSgr_nil isSgr_nil hempty.1 hempty.2]
    exact extractOffense_udp hscope (htexts peerName (by simp [OffenseLine.texts]))
      (htexts e (by simp [OffenseLine.texts]))

theorem isSgr_sgr {params : List Char} (h : ∀ c ∈ params, isSgrParam c) : IsSgr (sgr params) :=
  ⟨[params], by simpa using h, by simp⟩

/-- A handshake of a compressed address of IPv6 that fails, in a line in red. -/
theorem extractOffense_printed_compressed :
    extractOffense .basic (sgr "31".toList ++
      (OffenseLine.handshakeFailed (.v6 ⟨[0x2001, 0xdb8, 0, 0, 0, 0, 0, 1], rfl⟩ 5678 0)
        "early eof").render .plain ++ sgr "0".toList) =
      some (.v6 ⟨[0x2001, 0xdb8, 0, 0, 0, 0, 0, 1], rfl⟩, .handshakeFailed) :=
  extractOffense_printed .basic .plain (isSgr_sgr (List.all_eq_true.mp (by decide)))
    (isSgr_sgr (List.all_eq_true.mp (by decide)))
    (.handshakeFailed (.v6 ⟨[0x2001, 0xdb8, 0, 0, 0, 0, 0, 1], rfl⟩ 5678 0) "early eof") rfl
    (by decide +kernel)

/-- The name of the peer has no phrase in it, until the colour in it is removed. -/
def recoloured : OffenseLine :=
  .udpHandshakeFailed (.v4 ⟨198, 51, 100, 7⟩ 51820)
    "control: rej\x1b[0mected 8.8.8.8:1 (too many recent handshake attempts)" "decrypt error"

theorem extractOffense_recoloured :
    extractOffense .basic (recoloured.render .plain) = some (.v4 ⟨8, 8, 8, 8⟩, .rateLimited) ∧
      ¬ ∀ line : OffenseLine, scopeId line.peerAddr = 0 →
        (∀ t ∈ line.texts, Phraseless t.toList) →
          extractOffense .basic (line.render .plain) = some (line.peerAddr.ip, line.offense) := by
  have hread : extractOffense .basic (recoloured.render .plain) =
      some (.v4 ⟨8, 8, 8, 8⟩, .rateLimited) := by decide +kernel
  have htexts : ∀ t ∈ recoloured.texts, Phraseless t.toList := by decide +kernel
  refine ⟨hread, fun h => ?_⟩
  have hline := h recoloured rfl htexts
  rw [hread] at hline
  cases hline

end

end Ghostport.Firewall
