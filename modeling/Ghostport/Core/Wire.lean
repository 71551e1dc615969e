import Ghostport.Core.Framing
import Ghostport.Net.Addr

/-!
# The JSON texts of the messages (`crates/ghostport-core/src/protocol.rs`)

What the derived `Serialize` of the two message types and `serde_json` write. `send_json`
writes a text of any length, and its length in 32 bits; `recv_json` reads at most
`MAX_MESSAGE_LEN` bytes.

Results:
* `length_streamHello`, `length_openStream`: how long the texts are.
* `recvJsonCall_iff`: what is sent is received exactly if its text is not too long.
-/

namespace Ghostport.Core

open Ghostport.Lib Ghostport.Net

/-! ## Texts -/

/-- One character of a string, as `serde_json` writes it. -/
def escapeChar (c : Char) : List Char :=
  match c.toNat with
  | 0x22 => "\\\"".toList
  | 0x5c => "\\\\".toList
  | 0x08 => "\\b".toList
  | 0x09 => "\\t".toList
  | 0x0a => "\\n".toList
  | 0x0c => "\\f".toList
  | 0x0d => "\\r".toList
  | n =>
    if n < 0x20 then "\\u00".toList ++ [Nat.digitChar (n / 16), Nat.digitChar (n % 16)] else [c]

def jsonString (s : String) : List Char :=
  "\"".toList ++ s.toList.flatMap escapeChar ++ "\"".toList

def jsonOption : Option UInt64 → List Char
  | none => "null".toList
  | some n => decimal n.toNat

def StreamHello.json (hello : StreamHello) : List Char :=
  "\x7b\"link_id\":".toList ++ jsonString hello.linkId ++ ",\"stream_id\":".toList ++
    jsonOption hello.streamId ++ "\x7d".toList

def ControlMessage.json : ControlMessage → List Char
  | .ping => "\"Ping\"".toList
  | .pong => "\"Pong\"".toList
  | .openStream linkId streamId =>
    "\x7b\"OpenStream\":\x7b\"link_id\":".toList ++ jsonString linkId ++
      ",\"stream_id\":".toList ++ decimal streamId.toNat ++ "\x7d\x7d".toList

/-- The bytes of a text. -/
def utf8 (text : List Char) : List UInt8 := text.flatMap String.utf8EncodeChar

example : StreamHello.json ⟨"a\"\n\x01", some 7⟩ =
    "\x7b\"link_id\":\"a\\\"\\n\\u0001\",\"stream_id\":7\x7d".toList := by decide

/-! ## Their lengths -/

/-- The bytes that `id` takes in a text. -/
def escapedLength (id : String) : ℕ := (utf8 (id.toList.flatMap escapeChar)).length

theorem utf8_append (text text' : List Char) : utf8 (text ++ text') = utf8 text ++ utf8 text' :=
  List.flatMap_append

theorem length_utf8_of_ascii {text : List Char} (h : ∀ c ∈ text, c.toNat < 128) :
    (utf8 text).length = text.length := by
  induction text with
  | nil => rfl
  | cons c text ih =>
    have hsize : c.utf8Size = 1 := by
      rw [Char.utf8Size_eq_one_iff, UInt32.le_iff_toNat_le]
      exact Nat.le_of_lt_succ (h c (by simp))
    rw [utf8, List.flatMap_cons, List.length_append, String.length_utf8EncodeChar, hsize,
      List.length_cons, Nat.add_comm]
    exact congrArg (· + 1) (ih fun d hd => h d (by simp [hd]))

theorem length_utf8_decimal (n : ℕ) : (utf8 (decimal n)).length = (decimal n).length := by
  refine length_utf8_of_ascii fun c hc => ?_
  have hdigit : c.isDigit = true := Nat.isDigit_of_mem_toDigits (b := 10) (by decide) (by decide) hc
  simp only [Char.isDigit, ge_iff_le, Bool.and_eq_true, decide_eq_true_eq] at hdigit
  have hle := UInt32.le_iff_toNat_le.mp hdigit.2
  exact Nat.lt_of_le_of_lt hle (by decide)

theorem length_jsonString (s : String) : (utf8 (jsonString s)).length = escapedLength s + 2 := by
  rw [jsonString, utf8_append, utf8_append, List.length_append, List.length_append, escapedLength]
  have hquote : (utf8 "\"".toList).length = 1 := by decide
  omega

theorem length_jsonOption (id : Option UInt64) :
    (utf8 (jsonOption id)).length = (jsonOption id).length := by
  cases id with
  | none => decide
  | some n => exact length_utf8_decimal n.toNat

theorem length_utf8_parts (a b c d e : List Char) :
    (utf8 (a ++ b ++ c ++ d ++ e)).length =
      (utf8 a).length + (utf8 b).length + (utf8 c).length + (utf8 d).length + (utf8 e).length := by
  simp only [utf8_append, List.length_append]

/-- The text of a hello. -/
theorem length_streamHello (hello : StreamHello) :
    (utf8 hello.json).length =
      escapedLength hello.linkId + (jsonOption hello.streamId).length + 27 := by
  have hopen : (utf8 "\x7b\"link_id\":".toList).length = 11 := by decide +kernel
  have hmiddle : (utf8 ",\"stream_id\":".toList).length = 13 := by decide +kernel
  have hclose : (utf8 "\x7d".toList).length = 1 := by decide +kernel
  refine (length_utf8_parts _ _ _ _ _).trans ?_
  rw [hopen, hmiddle, hclose, length_jsonString, length_jsonOption]
  omega

/-- The text of a signal. -/
theorem length_openStream (linkId : String) (streamId : UInt64) :
    (utf8 (ControlMessage.openStream linkId streamId).json).length =
      escapedLength linkId + (decimal streamId.toNat).length + 42 := by
  have hopen : (utf8 "\x7b\"OpenStream\":\x7b\"link_id\":".toList).length = 25 := by decide +kernel
  have hmiddle : (utf8 ",\"stream_id\":".toList).length = 13 := by decide +kernel
  have hclose : (utf8 "\x7d\x7d".toList).length = 2 := by decide +kernel
  refine (length_utf8_parts _ _ _ _ _).trans ?_
  rw [hopen, hmiddle, hclose, length_jsonString, length_utf8_decimal]
  omega

theorem length_escapeChar_pos (c : Char) : 0 < (utf8 (escapeChar c)).length := by
  unfold escapeChar
  split
  case h_8 =>
    split
    · rw [utf8_append, List.length_append]
      exact Nat.add_pos_left (by decide) _
    · simp [utf8, String.length_utf8EncodeChar, Char.utf8Size_pos]
  all_goals decide

/-- An id takes a byte for each of its characters, or more. -/
theorem length_le_escapedLength (id : String) : id.toList.length ≤ escapedLength id := by
  unfold escapedLength
  induction id.toList with
  | nil => exact Nat.zero_le _
  | cons c text ih =>
    rw [List.flatMap_cons, utf8_append, List.length_append, List.length_cons]
    have hpos := length_escapeChar_pos c
    omega

/-! ## What is received -/

variable {α : Type}

/-- `json` writes the texts `text`, and does not read a message where its text is cut. -/
structure Json.Writes (json : Json α) (text : α → List Char) : Prop where
  toVec : ∀ msg bytes, json.toVec msg = .ok bytes → bytes = utf8 (text msg)
  cut : ∀ msg part missing, part ++ missing = utf8 (text msg) → missing ≠ [] →
    json.fromSlice part ≠ .ok msg

/-- `serde_json` at the single value `value`. -/
def Json.at [DecidableEq α] (text : α → List Char) (value : α) : Json α where
  toVec msg := if msg = value then .ok (utf8 (text msg)) else .error "not encoded"
  fromSlice bytes :=
    if bytes = utf8 (text value) then .ok value
    else .error "EOF while parsing a value at line 1 column 0"
  fromSlice_toVec msg bytes h := by
    split at h
    · rename_i hmsg
      cases h
      rw [if_pos (by rw [hmsg]), hmsg]
    · cases h

theorem Json.writes_at [DecidableEq α] (text : α → List Char) (value : α) :
    (Json.at text value).Writes text where
  toVec msg bytes h := by
    simp only [Json.at] at h
    split at h
    · cases h
      rfl
    · cases h
  cut msg part missing h hmissing hdecode := by
    simp only [Json.at] at hdecode
    split at hdecode
    · rename_i hpart
      cases hdecode
      rw [hpart] at h
      exact hmissing (List.append_right_eq_self.mp h)
    · cases hdecode

theorem sendJson_at [DecidableEq α] (text : α → List Char) (value : α) :
    sendJson (.at text value) value = .ok (frame (utf8 (text value))) :=
  sendJson_eq_ok.mpr ⟨_, if_pos rfl, rfl⟩

/-- `serde_json` at the values `values`, whose texts differ. -/
def Json.among [DecidableEq α] (text : α → List Char) (values : List α)
    (htexts : ∀ a ∈ values, ∀ b ∈ values, utf8 (text a) = utf8 (text b) → a = b) : Json α where
  toVec msg := if msg ∈ values then .ok (utf8 (text msg)) else .error "not encoded"
  fromSlice bytes :=
    match values.find? fun value => utf8 (text value) = bytes with
    | some value => .ok value
    | none => .error "expected value at line 1 column 1"
  fromSlice_toVec msg bytes h := by
    split at h
    · rename_i hmsg
      cases h
      cases hfind : values.find? fun value => utf8 (text value) = utf8 (text msg) with
      | none => exact absurd (List.find?_eq_none.mp hfind msg hmsg) (by simp)
      | some value =>
        have htext : utf8 (text value) = utf8 (text msg) := by
          simpa using List.find?_some hfind
        rw [htexts value (List.mem_of_find?_eq_some hfind) msg hmsg htext]
    · cases h

/-- What `send_json` has written is received exactly if its text is not longer than
    `MAX_MESSAGE_LEN`, however the stream is cut. -/
theorem recvJsonCall_iff {json : Json α} {text : α → List Char} (hjson : json.Writes text)
    {msg : α} {bytes : List UInt8} (hsend : sendJson json msg = .ok bytes)
    {chunks : List (List UInt8)} {tail : List UInt8} (h : chunks.flatten = bytes ++ tail) :
    (recvJsonCall json chunks).1 = .ok msg ↔ (utf8 (text msg)).length ≤ maxMessageLen := by
  obtain ⟨payload, hpayload, rfl⟩ := sendJson_eq_ok.mp hsend
  have htext := hjson.toVec msg payload hpayload
  rw [← htext]
  constructor
  · intro hreceived
    by_contra hlong
    rw [not_le] at hlong
    have hmod : payload.length % 2 ^ 32 < 2 ^ 32 := Nat.mod_lt _ (by decide)
    by_cases hrefused : maxMessageLen < payload.length % 2 ^ 32
    · have hfinish := finish_tooLong hmod hrefused (show ([] : List UInt8).length < 4 by decide)
        (show [] ++ chunks.flatten = _ ++ (payload ++ tail) by
          rw [h, frame, List.append_assoc]
          rfl)
      unfold recvJsonCall at hreceived
      rw [show Reader.init = .header [] from rfl] at hreceived
      generalize (Reader.header []).finish maxMessageLen chunks = outcome at hfinish hreceived
      obtain ⟨outcome, left⟩ := outcome
      subst hfinish
      cases hreceived
    · -- the length has been cut to 32 bits, and the text is cut to this length
      rw [not_lt] at hrefused
      have hpart : (payload.take (payload.length % 2 ^ 32)).length = payload.length % 2 ^ 32 :=
        List.length_take_of_le (Nat.mod_le _ _)
      have hcut : chunks.flatten = frame (payload.take (payload.length % 2 ^ 32)) ++
          (payload.drop (payload.length % 2 ^ 32) ++ tail) := by
        rw [frame, hpart, Nat.mod_mod, List.append_assoc, ← List.append_assoc (List.take _ _),
          List.take_append_drop, h, frame, List.append_assoc]
      have hmissing : payload.drop (payload.length % 2 ^ 32) ≠ [] := by
        rw [ne_eq, List.drop_eq_nil_iff]
        omega
      rw [(recvJsonCall_payload (by omega) hcut).1] at hreceived
      refine hjson.cut msg _ _ (by rw [List.take_append_drop, htext]) hmissing ?_
      cases hdecode : json.fromSlice (payload.take (payload.length % 2 ^ 32)) with
      | error e =>
        rw [hdecode] at hreceived
        cases hreceived
      | ok msg' =>
        rw [hdecode] at hreceived
        cases hreceived
        rfl
  · intro hlen
    exact (recvJsonCall_frame ⟨hpayload, hlen⟩ h).1

end Ghostport.Core
