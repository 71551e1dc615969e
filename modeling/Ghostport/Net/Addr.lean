import Mathlib.Data.List.Basic
import Mathlib.Data.Nat.Digits.Defs

/-!
# IP and socket addresses

The address types of the Rust standard library (`std::net`), with `Display`
and `FromStr` as `core::net` documents and implements them. Texts are lists of
characters.

`IpAddr::from_str` is a recursive-descent parser. A read returns the value and
what is left of the input, `none` where it fails and leaves the input as it
was.
-/

namespace Ghostport.Net

structure Ipv4Addr where
  a : UInt8
  b : UInt8
  c : UInt8
  d : UInt8
  deriving DecidableEq, Repr

structure Ipv6Addr where
  segments : List UInt16
  length_eq : segments.length = 8
  deriving DecidableEq, Repr

inductive IpAddr where
  | v4 (addr : Ipv4Addr)
  | v6 (addr : Ipv6Addr)
  deriving DecidableEq, Repr

/-- `SocketAddr`. The flow label of a `SocketAddrV6` is never printed or read,
    so it is left out. -/
inductive SocketAddr where
  | v4 (ip : Ipv4Addr) (port : UInt16)
  | v6 (ip : Ipv6Addr) (port : UInt16) (scopeId : UInt32)
  deriving DecidableEq, Repr

def SocketAddr.ip : SocketAddr → IpAddr
  | .v4 ip _ => .v4 ip
  | .v6 ip _ _ => .v6 ip

/-! ## `Display` -/

/-- `{}` of an unsigned integer. -/
def decimal (n : ℕ) : List Char := Nat.toDigits 10 n

/-- `{:x}` of an unsigned integer. -/
def lowerHex (n : ℕ) : List Char := Nat.toDigits 16 n

def Ipv4Addr.display (ip : Ipv4Addr) : List Char :=
  decimal ip.a.toNat ++ '.' :: decimal ip.b.toNat ++ '.' :: decimal ip.c.toNat ++
    '.' :: decimal ip.d.toNat

/-- `Ipv6Addr::to_ipv4_mapped`: the IPv4 address of `::ffff:a.b.c.d`. -/
def Ipv6Addr.toIpv4Mapped (ip : Ipv6Addr) : Option Ipv4Addr :=
  match ip.segments with
  | [0, 0, 0, 0, 0, 0xffff, ab, cd] =>
    some ⟨(ab >>> 8).toUInt8, ab.toUInt8, (cd >>> 8).toUInt8, cd.toUInt8⟩
  | _ => none

/-- A run of zero segments: `start` and `len`. -/
structure Span where
  start : ℕ
  len : ℕ
  deriving DecidableEq, Repr

/-- The loop that looks for the first longest run of zero segments, from index
    `i` with the run that ends before `i`. -/
def zeroSpan : ℕ → Span → Span → List UInt16 → Span
  | _, longest, _, [] => longest
  | i, longest, current, segment :: segments =>
    if segment = 0 then
      let current : Span :=
        { start := if current.len = 0 then i else current.start, len := current.len + 1 }
      zeroSpan (i + 1) (if current.len > longest.len then current else longest) current segments
    else zeroSpan (i + 1) longest ⟨0, 0⟩ segments

/-- `fmt_subslice`: segments in hexadecimal with colons between them. -/
def fmtSubslice : List UInt16 → List Char
  | [] => []
  | [segment] => lowerHex segment.toNat
  | segment :: segments => lowerHex segment.toNat ++ ':' :: fmtSubslice segments

def Ipv6Addr.display (ip : Ipv6Addr) : List Char :=
  match ip.toIpv4Mapped with
  | some v4 => "::ffff:".toList ++ v4.display
  | none =>
    let zeroes := zeroSpan 0 ⟨0, 0⟩ ⟨0, 0⟩ ip.segments
    if zeroes.len > 1 then
      fmtSubslice (ip.segments.take zeroes.start) ++ "::".toList ++
        fmtSubslice (ip.segments.drop (zeroes.start + zeroes.len))
    else fmtSubslice ip.segments

def IpAddr.display : IpAddr → List Char
  | .v4 ip => ip.display
  | .v6 ip => ip.display

/-- `ip:port`, `[ip]:port` or `[ip%scope]:port`. -/
def SocketAddr.display : SocketAddr → List Char
  | .v4 ip port => ip.display ++ ':' :: decimal port.toNat
  | .v6 ip port scopeId =>
    '[' :: ip.display ++ (if scopeId = 0 then [] else '%' :: decimal scopeId.toNat) ++
      ']' :: ':' :: decimal port.toNat

/-! ## `FromStr` -/

/-- `char::to_digit`. -/
def toDigit (radix : ℕ) (c : Char) : Option ℕ :=
  let digit :=
    if '0' ≤ c ∧ c ≤ '9' then c.toNat - '0'.toNat
    else if 'a' ≤ c ∧ c ≤ 'z' then c.toNat - 'a'.toNat + 10
    else if 'A' ≤ c ∧ c ≤ 'Z' then c.toNat - 'A'.toNat + 10
    else radix
  if digit < radix then some digit else none

/-- `read_given_char`. -/
def readGivenChar (target : Char) : List Char → Option (List Char)
  | c :: s => if c = target then some s else none
  | [] => none

/-- The digit loop of `read_number`: `count` digits with the value `result`
    have been read. With `maxDigits` a digit too many fails; without, a value
    over `bound` does. -/
def readDigits (radix : ℕ) (maxDigits : Option ℕ) (bound : ℕ) :
    ℕ → ℕ → List Char → Option (ℕ × ℕ × List Char)
  | count, result, [] => some (count, result, [])
  | count, result, c :: s =>
    match toDigit radix c with
    | none => some (count, result, c :: s)
    | some digit =>
      let result := result * radix + digit
      match maxDigits with
      | some m =>
        if count + 1 > m then none else readDigits radix maxDigits bound (count + 1) result s
      | none =>
        if result > bound then none else readDigits radix maxDigits bound (count + 1) result s

/-- `read_number` into an unsigned type whose largest value is `bound`. -/
def readNumber (radix : ℕ) (maxDigits : Option ℕ) (allowZeroPrefix : Bool) (bound : ℕ)
    (s : List Char) : Option (ℕ × List Char) :=
  match readDigits radix maxDigits bound 0 0 s with
  | none => none
  | some (count, result, rest) =>
    if count = 0 then none
    else if !allowZeroPrefix && s.head? = some '0' && count > 1 then none
    else if result ≤ bound then some (result, rest) else none

/-- `read_separator`: `inner`, after a `sep` unless it is the first. -/
def readSeparator {α : Type} (sep : Char) (index : ℕ) (inner : List Char → Option (α × List Char))
    (s : List Char) : Option (α × List Char) :=
  if index > 0 then
    match readGivenChar sep s with
    | none => none
    | some s => inner s
  else inner s

/-- One octet of `read_ipv4_addr`: a leading zero is not allowed. -/
def readOctet (index : ℕ) (s : List Char) : Option (UInt8 × List Char) :=
  (readSeparator '.' index (readNumber 10 (some 3) false 255) s).map fun r =>
    (UInt8.ofNat r.1, r.2)

def readIpv4Addr (s : List Char) : Option (Ipv4Addr × List Char) := do
  let (a, s) ← readOctet 0 s
  let (b, s) ← readOctet 1 s
  let (c, s) ← readOctet 2 s
  let (d, s) ← readOctet 3 s
  some (⟨a, b, c, d⟩, s)

/-- The two segments of an embedded IPv4 address. -/
def Ipv4Addr.toSegments (ip : Ipv4Addr) : List UInt16 :=
  [UInt16.ofNat (256 * ip.a.toNat + ip.b.toNat), UInt16.ofNat (256 * ip.c.toNat + ip.d.toNat)]

/-- `read_groups` from index `i` with `n = limit - i` groups to go: the groups
    read, and whether the last two come from an embedded IPv4 address. -/
def readGroups (limit : ℕ) : ℕ → ℕ → List Char → List UInt16 × Bool × List Char
  | 0, _, s => ([], false, s)
  | n + 1, i, s =>
    match if i < limit - 1 then readSeparator ':' i readIpv4Addr s else none with
    | some (v4, s) => (v4.toSegments, true, s)
    | none =>
      match readSeparator ':' i (readNumber 16 (some 4) true 65535) s with
      | none => ([], false, s)
      | some (group, s) =>
        let r := readGroups limit n (i + 1) s
        (UInt16.ofNat group :: r.1, r.2)

def Ipv6Addr.ofSegments (segments : List UInt16) : Option Ipv6Addr :=
  if h : segments.length = 8 then some ⟨segments, h⟩ else none

def readIpv6Addr (s : List Char) : Option (Ipv6Addr × List Char) :=
  let (head, headIpv4, s) := readGroups 8 8 0 s
  if head.length = 8 then (Ipv6Addr.ofSegments head).map fun ip => (ip, s)
  else if headIpv4 then none
  else
    match (readGivenChar ':' s).bind (readGivenChar ':') with
    | none => none
    | some s =>
      let limit := 8 - (head.length + 1)
      let (tail, _, s) := readGroups limit limit 0 s
      let zeros := List.replicate (8 - head.length - tail.length) 0
      (Ipv6Addr.ofSegments (head ++ zeros ++ tail)).map fun ip => (ip, s)

def readIpAddr (s : List Char) : Option (IpAddr × List Char) :=
  match readIpv4Addr s with
  | some (ip, s) => some (.v4 ip, s)
  | none => (readIpv6Addr s).map fun r => (.v6 r.1, r.2)

/-- `read_with`: the whole input must be read. -/
def readWith {α : Type} (inner : List Char → Option (α × List Char)) (s : List Char) : Option α :=
  match inner s with
  | some (x, []) => some x
  | _ => none

/-- `str::parse::<IpAddr>`. -/
def IpAddr.parse (s : List Char) : Option IpAddr := readWith readIpAddr s

def readPort (s : List Char) : Option (UInt16 × List Char) :=
  match readGivenChar ':' s with
  | none => none
  | some s => (readNumber 10 none true 65535 s).map fun r => (UInt16.ofNat r.1, r.2)

def readScopeId (s : List Char) : Option (UInt32 × List Char) :=
  match readGivenChar '%' s with
  | none => none
  | some s => (readNumber 10 none true 4294967295 s).map fun r => (UInt32.ofNat r.1, r.2)

def readSocketAddrV4 (s : List Char) : Option (SocketAddr × List Char) := do
  let (ip, s) ← readIpv4Addr s
  let (port, s) ← readPort s
  some (.v4 ip port, s)

def readSocketAddrV6 (s : List Char) : Option (SocketAddr × List Char) := do
  let s ← readGivenChar '[' s
  let (ip, s) ← readIpv6Addr s
  let (scopeId, s) := (readScopeId s).getD (0, s)
  let s ← readGivenChar ']' s
  let (port, s) ← readPort s
  some (.v6 ip port scopeId, s)

/-- `str::parse::<SocketAddr>`. -/
def SocketAddr.parse (s : List Char) : Option SocketAddr :=
  readWith (fun s => (readSocketAddrV4 s).orElse fun _ => readSocketAddrV6 s) s

example : IpAddr.parse "2001:db8::1".toList =
    some (.v6 ⟨[0x2001, 0xdb8, 0, 0, 0, 0, 0, 1], rfl⟩) := by decide

end Ghostport.Net
