import Ghostport.Core.Ratelimit
import Ghostport.Core.Theme
import Ghostport.Lib.Regex
import Ghostport.Net.Addr

/-!
# Offences in the journal (`crates/ghostport-firewall/src/detector.rs`)

The patterns are written as the source has them, one operator of the expression after the
other. Texts are lists of characters.
-/

namespace Ghostport.Firewall

open Ghostport.Core Ghostport.Lib Ghostport.Net

/-- `Offense` (lines 32-42). -/
inductive Offense where
  | rateLimited
  | handshakeFailed
  deriving DecidableEq, Repr

/-! ## Patterns -/

/-- The class `\d` of the `regex` crate: the decimal digits of all scripts, of which the
    ASCII ones are `0` to `9`. -/
structure DigitClass where
  contains : Char → Bool
  ascii : ∀ c, c.toNat < 128 → contains c = c.isDigit

/-- The ASCII digits alone. -/
def DigitClass.basic : DigitClass := ⟨Char.isDigit, fun _ _ => rfl⟩

/-- `[0-9a-fA-F:.]`. -/
def isIpChar (c : Char) : Bool :=
  c.isDigit || ('a' ≤ c && c ≤ 'f') || ('A' ≤ c && c ≤ 'F') || c = ':' || c = '.'

/-- `\[?(?P<ip>[0-9a-fA-F:.]+)\]?:\d+` between two fixed texts, in `patterns`. -/
def addrPattern (digits : DigitClass) (kw suffix : List Char) : Regex :=
  .seq (.lit kw) (.seq (.opt (.char '[')) (.seq (.group (.plus isIpChar))
    (.seq (.opt (.char ']')) (.seq (.char ':') (.seq (.plus digits.contains) (.lit suffix))))))

def rejectedControl : List Char := "control: rejected ".toList

def rejectedData : List Char := "data: rejected ".toList

def tooManyAttempts : List Char := " (too many recent handshake attempts)".toList

def controlHandshake : List Char := "control: handshake with ".toList

def udpHandshake : List Char := "ghostport-udp: handshake with ".toList

/-- `patterns` (lines 47-80). -/
def patterns (digits : DigitClass) : List (Regex × Offense) :=
  [(addrPattern digits rejectedControl tooManyAttempts, .rateLimited),
    (addrPattern digits rejectedData tooManyAttempts, .rateLimited),
    (addrPattern digits controlHandshake " failed:".toList, .handshakeFailed),
    (addrPattern digits udpHandshake " (".toList, .handshakeFailed)]

/-- `\x1b\[[0-9;]*m`. -/
def ansi : Regex := .seq (.char '\x1b') (.seq (.char '[') (.seq (.many isSgrParam) (.char 'm')))

/-- `strip_ansi` (lines 88-92). -/
def stripAnsi (line : List Char) : List Char := Regex.removeAll ansi line

/-- What one pattern makes of a line without colours. -/
def extractWith (clean : List Char) (p : Regex × Offense) : Option (IpAddr × Offense) :=
  match Regex.find p.1 clean with
  | some (some ip) => (IpAddr.parse ip).map fun addr => (addr, p.2)
  | _ => none

/-- `extract_offense` (lines 98-110). -/
def extractOffense (digits : DigitClass) (line : List Char) : Option (IpAddr × Offense) :=
  (patterns digits).findSome? (extractWith (stripAnsi line))

example : extractOffense .basic
    "control: rejected [2001:db8::1]:5678 (too many recent handshake attempts)".toList =
    some (.v6 ⟨[0x2001, 0xdb8, 0, 0, 0, 0, 0, 1], rfl⟩, .rateLimited) := by decide +kernel

/-! ## Protected addresses -/

/-- `Ipv4Addr::is_loopback`, `is_private` and `is_link_local`. -/
def neverBannableV4 (ip : Ipv4Addr) : Bool :=
  ip.a = 127 || (ip.a = 10 || (ip.a = 172 && 16 ≤ ip.b && ip.b ≤ 31) ||
    (ip.a = 192 && ip.b = 168)) || (ip.a = 169 && ip.b = 254)

/-- `is_never_bannable` (lines 118-123). -/
def isNeverBannable : IpAddr → Bool
  | .v4 ip => neverBannableV4 ip
  | .v6 ip => ip.segments = [0, 0, 0, 0, 0, 0, 0, 1] || ip.segments.headD 0 &&& 0xfe00 = 0xfc00

/-! ## Failures -/

/-- `FailureTracker` (lines 129-133). -/
structure FailureTracker where
  window : Instant
  threshold : ℕ
  history : IpAddr → Option (List Instant)

namespace FailureTracker

def new (window : Instant) (threshold : ℕ) : FailureTracker := ⟨window, threshold, fun _ => none⟩

/-- `record` (lines 149-160). -/
def record (t : FailureTracker) (ip : IpAddr) (now : Instant) : Bool × FailureTracker :=
  let entry := ((t.history ip).getD [] ++ [now]).dropWhile fun front =>
    -- `duration_since` saturates
    max 0 (now - front) > t.window
  (entry.length = t.threshold, { t with history := Function.update t.history ip (some entry) })

/-- `forget` (lines 165-167). -/
def forget (t : FailureTracker) (ip : IpAddr) : FailureTracker :=
  { t with history := Function.update t.history ip none }

end FailureTracker

end Ghostport.Firewall
