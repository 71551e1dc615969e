import Mathlib.Data.List.Basic

/-!
# Messages between the two roles (`crates/ghostport-core/src/protocol.rs`)

The messages travel as JSON. `serde_json` is a parameter, one `Json` for each
message type.
-/

namespace Ghostport.Core

/-- Sent on the control connection. -/
inductive ControlMessage where
  | ping
  | pong
  | openStream (linkId : String) (streamId : UInt64)
  deriving DecidableEq, Repr

/-- The first message on every data tunnel. -/
structure StreamHello where
  linkId : String
  streamId : Option UInt64
  deriving DecidableEq, Repr

/-- `serde_json::to_vec` and `serde_json::from_slice` at one type. -/
structure Json (α : Type) where
  toVec : α → Except String (List UInt8)
  fromSlice : List UInt8 → Except String α
  fromSlice_toVec : ∀ a bytes, toVec a = .ok bytes → fromSlice bytes = .ok a

/-- `serde_json` at the single value `value`, whose text is `text`. -/
def Json.single {α : Type} [DecidableEq α] (value : α) (text : List Char) : Json α where
  toVec a := if a = value then .ok (text.map fun c => c.toNat.toUInt8) else .error "not encoded"
  fromSlice bytes :=
    if bytes = text.map fun c => c.toNat.toUInt8 then .ok value
    else .error "expected value at line 1 column 1"
  fromSlice_toVec a bytes h := by
    split at h
    · rename_i ha
      cases h
      rw [if_pos rfl, ha]
    · cases h

end Ghostport.Core
