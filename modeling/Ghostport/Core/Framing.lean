import Mathlib.Data.List.Forall2
import Ghostport.Core.Protocol
import Ghostport.Lib.Frames

/-!
# Framed messages (`crates/ghostport-core/src/framing.rs`)

`send_json` writes one frame. A call of `recv_json` is a future that is polled
as bytes come in; what it has read so far is in the future, not in the stream.
-/

namespace Ghostport.Core

open Ghostport.Lib

/-- `MAX_MESSAGE_LEN` (line 12). -/
def maxMessageLen : ℕ := 64 * 1024

variable {α : Type}

/-- What `send_json` writes (lines 16-25). -/
def sendJson (json : Json α) (msg : α) : Except String (List UInt8) := (json.toVec msg).map frame

/-- The errors of `recv_json`. -/
inductive RecvError where
  /-- The stream fails, or ends inside a frame. -/
  | io (e : String)
  /-- Lines 34-39. -/
  | tooLong (len : ℕ)
  /-- Lines 42-43. -/
  | malformed (e : String)
  deriving DecidableEq, Repr

/-- `recv_json` after a poll. -/
inductive Recv (α : Type) where
  | pending (r : Reader)
  | ready (result : Except RecvError α)

/-- `recv_json` (lines 30-44): the future that holds `r` reads `chunk`. -/
def recvJson (json : Json α) (r : Reader) (chunk : List UInt8) : Recv α :=
  match r.read maxMessageLen chunk with
  | .more r' => .pending r'
  | .tooLong len => .ready (.error (.tooLong len))
  | .payload bytes =>
    match json.fromSlice bytes with
    | .error e => .ready (.error (.malformed e))
    | .ok msg => .ready (.ok msg)

/-- `msg` has an encoding that `recv_json` does not refuse for its length. -/
def Sendable (json : Json α) (msg : α) (payload : List UInt8) : Prop :=
  json.toVec msg = .ok payload ∧ payload.length ≤ maxMessageLen

/-- `payloads` are the encodings of `msgs`. -/
def Encoded (json : Json α) (msgs : List α) (payloads : List (List UInt8)) : Prop :=
  List.Forall₂ (Sendable json) msgs payloads

theorem Encoded.length_le {json : Json α} {msgs : List α} {payloads : List (List UInt8)}
    (h : Encoded json msgs payloads) : ∀ p ∈ payloads, p.length ≤ maxMessageLen := by
  induction h with
  | nil => simp
  | cons hp _ ih => simpa using ⟨hp.2, ih⟩

theorem Encoded.concat {json : Json α} {msgs : List α} {payloads : List (List UInt8)}
    (h : Encoded json msgs payloads) {msg : α} {payload : List UInt8}
    (hmsg : Sendable json msg payload) : Encoded json (msgs ++ [msg]) (payloads ++ [payload]) := by
  induction h with
  | nil => exact .cons hmsg .nil
  | cons hp _ ih => exact .cons hp ih

/-- A call of `recv_json` that keeps what it reads yields the next message of a stream of
    messages, however the stream is cut. -/
theorem recvJson_spec {json : Json α} {msgs : List α} {payloads : List (List UInt8)}
    (henc : Encoded json msgs payloads) {r : Reader} (hopen : r.Open maxMessageLen)
    {chunk rest : List UInt8} (hchunk : chunk.length ≤ r.want)
    (h : r.consumed ++ (chunk ++ rest) = frames payloads) :
    match recvJson json r chunk with
    | .pending r' => r'.Open maxMessageLen ∧ r'.consumed ++ rest = frames payloads
    | .ready (.ok msg) => ∃ msgs' payloads', msgs = msg :: msgs' ∧ Encoded json msgs' payloads' ∧
        rest = frames payloads'
    | .ready (.error _) => False := by
  have hmax : maxMessageLen < 2 ^ 32 := by decide
  have hread := read_spec hmax henc.length_le hopen hchunk h
  unfold recvJson
  cases hr : r.read maxMessageLen chunk with
  | more r' =>
    rw [hr] at hread
    exact hread
  | tooLong len =>
    rw [hr] at hread
    exact hread.elim
  | payload bytes =>
    rw [hr] at hread
    obtain ⟨payloads', rfl, hrest⟩ := hread
    -- the payload is the encoding of the next message
    obtain ⟨msg, msgs', hmsg, henc', rfl⟩ := List.forall₂_cons_right_iff.mp henc
    simp only [json.fromSlice_toVec msg bytes hmsg.1]
    exact ⟨msgs', payloads', rfl, henc', hrest⟩

/-! ## Calls that are not interrupted -/

/-- A call of `recv_json` (lines 30-44) that is polled until it is ready, and what it leaves of
    the stream. The stream gives its bytes in `chunks`, and then it ends. -/
def recvJsonCall (json : Json α) (chunks : List (List UInt8)) :
    Except RecvError α × List (List UInt8) :=
  match Reader.init.finish maxMessageLen chunks with
  | (.ended, left) => (.error (.io "early eof"), left)
  | (.tooLong len, left) => (.error (.tooLong len), left)
  | (.payload bytes, left) =>
    match json.fromSlice bytes with
    | .error e => (.error (.malformed e), left)
    | .ok msg => (.ok msg, left)

/-- `n` calls, one after the other. -/
def recvJsonCalls (json : Json α) :
    ℕ → List (List UInt8) → List (Except RecvError α) × List (List UInt8)
  | 0, chunks => ([], chunks)
  | n + 1, chunks =>
    let (result, left) := recvJsonCall json chunks
    let (results, left) := recvJsonCalls json n left
    (result :: results, left)

theorem sendJson_eq_ok {json : Json α} {msg : α} {bytes : List UInt8} :
    sendJson json msg = .ok bytes ↔ ∃ payload, json.toVec msg = .ok payload ∧
      frame payload = bytes := by
  unfold sendJson
  cases json.toVec msg with
  | error e => simp [Except.map]
  | ok payload => simp [Except.map]

/-- A call takes one frame, and decodes its payload. -/
theorem recvJsonCall_payload {json : Json α} {payload : List UInt8}
    (hlen : payload.length ≤ maxMessageLen) {chunks : List (List UInt8)} {tail : List UInt8}
    (h : chunks.flatten = frame payload ++ tail) :
    (recvJsonCall json chunks).1 = (json.fromSlice payload).mapError .malformed ∧
      (recvJsonCall json chunks).2.flatten = tail := by
  have hmax : maxMessageLen < 2 ^ 32 := by decide
  obtain ⟨hpayload, hleft⟩ := finish_frame hmax hlen (Reader.open_init maxMessageLen)
    (show Reader.init.consumed ++ chunks.flatten = frame payload ++ tail from h)
  unfold recvJsonCall
  generalize Reader.init.finish maxMessageLen chunks = outcome at hpayload hleft
  obtain ⟨outcome, left⟩ := outcome
  subst hpayload
  cases hdecode : json.fromSlice payload with
  | error e =>
    simp only [hdecode]
    exact ⟨rfl, hleft⟩
  | ok msg =>
    simp only [hdecode]
    exact ⟨rfl, hleft⟩

/-- A call takes one frame, and yields its message. -/
theorem recvJsonCall_frame {json : Json α} {msg : α} {payload : List UInt8}
    (hmsg : Sendable json msg payload) {chunks : List (List UInt8)} {tail : List UInt8}
    (h : chunks.flatten = frame payload ++ tail) :
    (recvJsonCall json chunks).1 = .ok msg ∧ (recvJsonCall json chunks).2.flatten = tail := by
  obtain ⟨hresult, hleft⟩ := @recvJsonCall_payload _ json _ hmsg.2 _ _ h
  rw [json.fromSlice_toVec msg payload hmsg.1] at hresult
  exact ⟨hresult, hleft⟩

/-- A call on a stream that ends inside the frame fails. -/
theorem recvJsonCall_cut {json : Json α} {payload : List UInt8}
    (hlen : payload.length ≤ maxMessageLen) {chunks : List (List UInt8)} {missing : List UInt8}
    (hmissing : missing ≠ []) (h : chunks.flatten ++ missing = frame payload) :
    (recvJsonCall json chunks).1 = .error (.io "early eof") := by
  have hmax : maxMessageLen < 2 ^ 32 := by decide
  have hended := finish_cut hmax hlen (Reader.open_init maxMessageLen) hmissing
    (show Reader.init.consumed ++ (chunks.flatten ++ missing) = frame payload from h)
  unfold recvJsonCall
  generalize Reader.init.finish maxMessageLen chunks = outcome at hended
  obtain ⟨outcome, left⟩ := outcome
  subst hended
  rfl

theorem recvJsonCalls_frames {json : Json α} {msgs : List α} {payloads : List (List UInt8)}
    (henc : Encoded json msgs payloads) {chunks : List (List UInt8)} {tail : List UInt8}
    (h : chunks.flatten = frames payloads ++ tail) :
    (recvJsonCalls json msgs.length chunks).1 = msgs.map .ok ∧
      (recvJsonCalls json msgs.length chunks).2.flatten = tail := by
  induction henc generalizing chunks with
  | nil => exact ⟨rfl, h⟩
  | cons hmsg _ ih =>
    rw [frames_cons, List.append_assoc] at h
    obtain ⟨hresult, hleft⟩ := recvJsonCall_frame hmsg h
    obtain ⟨hresults, hrest⟩ := ih hleft
    rw [List.length_cons, recvJsonCalls, List.map_cons, ← hresult, ← hresults]
    exact ⟨rfl, hrest⟩

/-- What `send_json` writes for messages whose encodings are not too long. -/
theorem encoded_of_sent {json : Json α} {msgs : List α} {sent : List (List UInt8)}
    (hsend : msgs.map (sendJson json) = sent.map .ok)
    (hlen : ∀ msg ∈ msgs, ∀ bytes, json.toVec msg = .ok bytes → bytes.length ≤ maxMessageLen) :
    ∃ payloads, Encoded json msgs payloads ∧ sent = payloads.map frame := by
  induction msgs generalizing sent with
  | nil =>
    cases sent with
    | nil => exact ⟨[], .nil, rfl⟩
    | cons bytes sent => cases hsend
  | cons msg msgs ih =>
    cases sent with
    | nil => cases hsend
    | cons bytes sent =>
      rw [List.map_cons, List.map_cons, List.cons_eq_cons] at hsend
      obtain ⟨payload, hpayload, hframe⟩ := sendJson_eq_ok.mp hsend.1
      obtain ⟨payloads, henc, hsent⟩ := ih hsend.2 fun msg' hmsg' => hlen msg' (by simp [hmsg'])
      refine ⟨payload :: payloads, .cons ⟨hpayload, ?_⟩ henc, ?_⟩
      · exact hlen msg (by simp) payload hpayload
      · rw [List.map_cons, hframe, hsent]

/-- Messages that are sent one after the other, with encodings of at most `MAX_MESSAGE_LEN`
    bytes, are received by as many calls, in order, and these take no byte of what follows,
    however the stream is cut. Where the stream ends inside a frame, the call that reads this
    frame fails. -/
theorem recvJson_roundTrip (json : Json α) {msgs : List α} {sent : List (List UInt8)}
    (hsend : msgs.map (sendJson json) = sent.map .ok)
    (hlen : ∀ msg ∈ msgs, ∀ bytes, json.toVec msg = .ok bytes → bytes.length ≤ maxMessageLen) :
    (∀ tail chunks, chunks.flatten = sent.flatten ++ tail →
      (recvJsonCalls json msgs.length chunks).1 = msgs.map .ok ∧
        (recvJsonCalls json msgs.length chunks).2.flatten = tail) ∧
    ∀ before part missing after chunks, sent = before ++ (part ++ missing) :: after →
      missing ≠ [] → chunks.flatten = before.flatten ++ part →
      (recvJsonCalls json before.length chunks).1 = (msgs.take before.length).map .ok ∧
        ∃ e, (recvJsonCall json (recvJsonCalls json before.length chunks).2).1 = .error e := by
  obtain ⟨payloads, henc, rfl⟩ := encoded_of_sent hsend hlen
  refine ⟨fun tail chunks h => recvJsonCalls_frames henc h, ?_⟩
  intro before part missing after chunks hcut hmissing h
  obtain ⟨done, rest, rfl, hdone, hrest⟩ := List.map_eq_append_iff.mp hcut
  obtain ⟨payload, rest', rfl, hframe, -⟩ := List.map_eq_cons_iff.mp hrest
  subst hdone
  rw [List.length_map]
  -- the frames before the cut one are received, and leave its first part
  have hbefore : Encoded json (msgs.take done.length) done :=
    List.forall₂_take_append msgs done (payload :: rest') henc
  have hlength : (msgs.take done.length).length = done.length := hbefore.length_eq
  obtain ⟨hresults, hleft⟩ := recvJsonCalls_frames hbefore h
  rw [hlength] at hresults hleft
  refine ⟨hresults, _, recvJsonCall_cut ?_ hmissing (by rw [hleft, hframe])⟩
  exact henc.length_le payload (by simp)

/-- Two messages, cut inside the length field, and a byte after them. -/
theorem recvJson_roundTrip_ping :
    (recvJsonCalls (.single ControlMessage.ping "\"Ping\"".toList) 2
      [[6, 0], [0, 0, 34, 80, 105, 110, 103, 34, 6, 0, 0], [0, 34, 80], [105, 110, 103, 34, 7]]).1 =
      [.ok .ping, .ok .ping] := by
  have hsend : [ControlMessage.ping, .ping].map
      (sendJson (.single ControlMessage.ping "\"Ping\"".toList)) =
      [[6, 0, 0, 0, 34, 80, 105, 110, 103, 34], [6, 0, 0, 0, 34, 80, 105, 110, 103, 34]].map .ok := by
    decide
  have hlen : ∀ msg ∈ [ControlMessage.ping, .ping], ∀ bytes,
      (Json.single ControlMessage.ping "\"Ping\"".toList).toVec msg = .ok bytes →
        bytes.length ≤ maxMessageLen := by
    intro msg hmsg bytes hbytes
    obtain rfl : msg = .ping := by simpa using hmsg
    cases hbytes
    decide
  exact ((recvJson_roundTrip _ hsend hlen).1 [7] _ (by decide)).1

end Ghostport.Core
