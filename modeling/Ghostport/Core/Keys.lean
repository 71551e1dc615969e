import Mathlib.Data.List.DropRight

/-!
# Public keys in configs (`crates/ghostport-core/src/keys.rs`)

Only the decoding of base64 keys is needed by the daemon. The `base64` crate is
a parameter.
-/

namespace Ghostport.Core

/-- The engine `base64::engine::general_purpose::STANDARD`. `decode` fails with
    the text of a `DecodeError`. -/
structure Base64 where
  encode : List UInt8 → List Char
  decode : List Char → Except String (List UInt8)
  decode_encode : ∀ bytes, decode (encode bytes) = .ok bytes

/-- `char::is_whitespace`, the Unicode property `White_Space`. -/
def isWhitespace (c : Char) : Bool :=
  let n := c.toNat
  (0x9 ≤ n && n ≤ 0xd) || n = 0x20 || n = 0x85 || n = 0xa0 || n = 0x1680 ||
    (0x2000 ≤ n && n ≤ 0x200a) || n = 0x2028 || n = 0x2029 || n = 0x202f || n = 0x205f ||
    n = 0x3000

/-- `str::trim`. -/
def trim (s : List Char) : List Char := (s.dropWhile isWhitespace).rdropWhile isWhitespace

/-- `decode_public_key` (lines 95-101). -/
def decodePublicKey (base64 : Base64) (s : String) : Except String (List UInt8) :=
  match base64.decode (trim s.toList) with
  | .error e => .error ("invalid base64 key: " ++ e)
  | .ok key =>
    if key.length ≠ 32 then .error ("key must be 32 bytes, got " ++ toString key.length)
    else .ok key

theorem length_of_decodePublicKey {base64 : Base64} {s : String} {key : List UInt8}
    (h : decodePublicKey base64 s = .ok key) : key.length = 32 := by
  unfold decodePublicKey at h
  split at h
  · cases h
  · split at h
    · cases h
    · cases h
      omega

/-! ## The standard engine -/

namespace Base64

def alphabet : List Char :=
  "ABCDEFGHIJKLMNOPQRSTUVWXYZabcdefghijklmnopqrstuvwxyz0123456789+/".toList

def encodeSymbol (n : ℕ) : Char := alphabet.getD n '='

def decodeSymbol (c : Char) : Option ℕ :=
  if c ∈ alphabet then some (alphabet.idxOf c) else none

theorem decodeSymbol_encodeSymbol : ∀ n < 64, decodeSymbol (encodeSymbol n) = some n := by
  decide +kernel

theorem encodeSymbol_ne_pad : ∀ n < 64, encodeSymbol n ≠ '=' := by
  decide +kernel

/-- Groups of three bytes as four symbols, the last group padded. -/
def encodeBytes : List UInt8 → List Char
  | [] => []
  | [a] => [encodeSymbol (a.toNat / 4), encodeSymbol (a.toNat % 4 * 16), '=', '=']
  | [a, b] =>
    [encodeSymbol (a.toNat / 4), encodeSymbol (a.toNat % 4 * 16 + b.toNat / 16),
      encodeSymbol (b.toNat % 16 * 4), '=']
  | a :: b :: c :: rest =>
    encodeSymbol (a.toNat / 4) :: encodeSymbol (a.toNat % 4 * 16 + b.toNat / 16) ::
      encodeSymbol (b.toNat % 16 * 4 + c.toNat / 64) :: encodeSymbol (c.toNat % 64) ::
      encodeBytes rest

/-- Padding is required, and the bits it leaves over must be zero. -/
def decodeChars : List Char → Option (List UInt8)
  | [] => some []
  | a :: b :: c :: d :: rest =>
    match decodeSymbol a, decodeSymbol b with
    | some a, some b =>
      let first := UInt8.ofNat (a * 4 + b / 16)
      if d = '=' then
        if rest ≠ [] then none
        else if c = '=' then if b % 16 = 0 then some [first] else none
        else
          match decodeSymbol c with
          | some c =>
            if c % 4 = 0 then some [first, UInt8.ofNat (b % 16 * 16 + c / 4)] else none
          | none => none
      else
        match decodeSymbol c, decodeSymbol d with
        | some c, some d =>
          (decodeChars rest).map fun bytes =>
            first :: UInt8.ofNat (b % 16 * 16 + c / 4) :: UInt8.ofNat (c % 4 * 64 + d) :: bytes
        | _, _ => none
    | _, _ => none
  | _ => none

theorem decodeChars_encodeBytes (bytes : List UInt8) :
    decodeChars (encodeBytes bytes) = some bytes := by
  have join : ∀ (a : UInt8) n, n = a.toNat → UInt8.ofNat n = a := by
    rintro a n rfl
    exact UInt8.ofNat_toNat
  induction bytes using encodeBytes.induct with
  | case1 => rfl
  | case2 a =>
    have ha := a.toNat_lt
    rw [encodeBytes, decodeChars, decodeSymbol_encodeSymbol _ (by omega),
      decodeSymbol_encodeSymbol _ (by omega)]
    simp only [ne_eq, not_true_eq_false, if_false, if_true]
    rw [if_pos (by omega), join a _ (by omega)]
  | case3 a b =>
    have ha := a.toNat_lt
    have hb := b.toNat_lt
    rw [encodeBytes, decodeChars, decodeSymbol_encodeSymbol _ (by omega),
      decodeSymbol_encodeSymbol _ (by omega), decodeSymbol_encodeSymbol _ (by omega)]
    simp only [ne_eq, not_true_eq_false, if_false, if_true,
      encodeSymbol_ne_pad _ (show b.toNat % 16 * 4 < 64 by omega)]
    rw [if_pos (by omega), join a _ (by omega), join b _ (by omega)]
  | case4 a b c rest ih =>
    have ha := a.toNat_lt
    have hb := b.toNat_lt
    have hc := c.toNat_lt
    rw [encodeBytes, decodeChars, decodeSymbol_encodeSymbol _ (by omega),
      decodeSymbol_encodeSymbol _ (by omega), decodeSymbol_encodeSymbol _ (by omega),
      decodeSymbol_encodeSymbol _ (by omega), ih]
    simp only [encodeSymbol_ne_pad _ (show c.toNat % 64 < 64 by omega), if_false, Option.map_some]
    rw [join a _ (by omega), join b _ (by omega), join c _ (by omega)]

/-- `general_purpose::STANDARD`, with one text for all errors. -/
def standard : Base64 where
  encode := encodeBytes
  decode s :=
    match decodeChars s with
    | some bytes => .ok bytes
    | none => .error "invalid base64"
  decode_encode bytes := by rw [decodeChars_encodeBytes]

end Base64

end Ghostport.Core
