import Ghostport.Core.Stats
import Ghostport.Core.Wire

/-!
# The status socket (`crates/ghostport-core/src/ipc.rs`)

A daemon answers a connection with the JSON text of one snapshot and closes it. The other side
reads until the end, and parses what it has read.

Results:
* `queryStatus_iff`: a query yields a snapshot exactly if the daemon could write all of it, and
  then it is this one.
-/

namespace Ghostport.Core

open Ghostport.Net

/-! ## Texts -/

def jsonBool (b : Bool) : List Char := if b then "true".toList else "false".toList

def jsonOptionString : Option String → List Char
  | none => "null".toList
  | some s => jsonString s

def jsonList (values : List (List Char)) : List Char :=
  List.intercalate [','] values

def jsonObject (fields : List (String × List Char)) : List Char :=
  '\x7b' :: (jsonList (fields.map fun f => jsonString f.1 ++ ':' :: f.2) ++ ['\x7d'])

/-- What the derived `Serialize` of `LinkSnapshot` writes. -/
def LinkSnapshot.json (link : LinkSnapshot) : List Char :=
  jsonObject
    [("id", jsonString link.id), ("mode", jsonString link.mode),
      ("active_streams", decimal link.activeStreams.toNat),
      ("total_streams", decimal link.totalStreams.toNat),
      ("bytes_forward", decimal link.bytesForward.toNat),
      ("bytes_back", decimal link.bytesBack.toNat)]

/-- What the derived `Serialize` of `StatusSnapshot` writes. -/
def StatusSnapshot.json (snapshot : StatusSnapshot) : List Char :=
  jsonObject
    [("role", jsonString snapshot.role), ("uptime_secs", decimal snapshot.uptimeSecs.toNat),
      ("control_connected", jsonBool snapshot.controlConnected),
      ("control_connected_since_secs_ago", jsonOption snapshot.controlConnectedSinceSecsAgo),
      ("control_peer_addr", jsonOptionString snapshot.controlPeerAddr),
      ("control_peer_name", jsonOptionString snapshot.controlPeerName),
      ("links", '[' :: (jsonList (snapshot.links.map LinkSnapshot.json) ++ [']']))]

/-! ## Model -/

/-- `respond` (lines 65-69): what it writes to the connection, and what it returns. The
    connection may fail behind the first bytes. -/
def respond (json : Json StatusSnapshot) (snapshot : StatusSnapshot)
    (failure : Option (ℕ × String)) : List UInt8 × Except String Unit :=
  match json.toVec snapshot with
  | .error e => ([], .error e)
  | .ok bytes =>
    match failure with
    | some (written, e) => (bytes.take written, .error e)
    | none => (bytes, .ok ())

/-- `query_status` (lines 73-85), with what `connect` returns, what the reads of `read_to_end`
    return, and how it ends. -/
def queryStatus (json : Json StatusSnapshot) (socketPath : String) (connect : Except String Unit)
    (chunks : List (List UInt8)) (ended : Except String Unit) : Except String StatusSnapshot :=
  match connect with
  | .error e =>
    .error ("couldn't connect to " ++ socketPath ++ " (" ++ e ++ ") — is the daemon running?")
  | .ok () =>
    match ended with
    | .error e => .error ("failed to read status: " ++ e)
    | .ok () =>
      match json.fromSlice chunks.flatten with
      | .error e => .error ("daemon sent an unparseable status: " ++ e)
      | .ok snapshot => .ok snapshot

/-! ## Queries -/

/-- A text that is cut is no text, and neither is the empty one. -/
structure Json.Whole {α : Type} (json : Json α) : Prop where
  cut : ∀ a bytes part missing, json.toVec a = .ok bytes → part ++ missing = bytes →
    missing ≠ [] → ∃ e, json.fromSlice part = .error e
  empty : ∃ e, json.fromSlice [] = .error e

theorem Json.whole_at {α : Type} [DecidableEq α] {text : α → List Char} {value : α}
    (h : utf8 (text value) ≠ []) : (Json.at text value).Whole where
  cut a bytes part missing hvec hpart hmissing := by
    simp only [Json.at] at hvec
    split at hvec
    · rename_i ha
      cases hvec
      subst ha
      refine ⟨_, if_neg fun hwhole => ?_⟩
      rw [hwhole] at hpart
      exact hmissing (List.append_right_eq_self.mp hpart)
    · cases hvec
  empty := ⟨_, if_neg (Ne.symm h)⟩

theorem StatusSnapshot.json_ne_nil (snapshot : StatusSnapshot) : utf8 snapshot.json ≠ [] := by
  rw [StatusSnapshot.json, jsonObject, utf8, List.flatMap_cons]
  exact List.append_ne_nil_of_left_ne_nil (by decide) _

variable {json : Json StatusSnapshot} {snapshot : StatusSnapshot}

theorem queryStatus_ok_iff {socketPath : String} {chunks : List (List UInt8)}
    {s : StatusSnapshot} :
    queryStatus json socketPath (.ok ()) chunks (.ok ()) = .ok s ↔
      json.fromSlice chunks.flatten = .ok s := by
  unfold queryStatus
  cases json.fromSlice chunks.flatten with
  | error e => simp
  | ok s' => simp

/-- Whatever a daemon has written when the connection ends, in whatever pieces it is read: the
    query yields a snapshot exactly if all of its text was written, and it yields this
    snapshot. -/
theorem queryStatus_iff (hjson : json.Whole) (socketPath : String) (snapshot : StatusSnapshot)
    (failure : Option (ℕ × String)) {chunks : List (List UInt8)}
    (hchunks : chunks.flatten = (respond json snapshot failure).1) (s : StatusSnapshot) :
    queryStatus json socketPath (.ok ()) chunks (.ok ()) = .ok s ↔
      s = snapshot ∧ json.toVec snapshot = .ok (respond json snapshot failure).1 := by
  rw [queryStatus_ok_iff, hchunks]
  unfold respond
  cases hvec : json.toVec snapshot with
  | error e =>
    obtain ⟨e', hempty⟩ := hjson.empty
    simp [hempty]
  | ok bytes =>
    have hwhole := json.fromSlice_toVec snapshot bytes hvec
    cases failure with
    | none => simp [hwhole, eq_comm]
    | some f =>
      obtain ⟨written, e⟩ := f
      simp only
      by_cases hlen : bytes.length ≤ written
      · rw [List.take_of_length_le hlen, hwhole]
        simp [eq_comm]
      · have hmissing : bytes.drop written ≠ [] := by
          rw [ne_eq, List.drop_eq_nil_iff]
          exact hlen
        have hne : bytes.take written ≠ bytes := by
          intro heq
          have hdrop := List.take_append_drop written bytes
          rw [heq] at hdrop
          exact hmissing (List.append_right_eq_self.mp hdrop)
        obtain ⟨e', hcut⟩ :=
          hjson.cut snapshot bytes _ _ hvec (List.take_append_drop written bytes) hmissing
        rw [hcut]
        simp [Ne.symm hne]

/-- What the daemon of an idle client says. -/
def idle : StatusSnapshot := ⟨"client", 5, false, none, none, none, []⟩

/-- The connection is lost behind the first forty bytes. -/
theorem queryStatus_iff_lost :
    ¬ ∃ s, queryStatus (.at StatusSnapshot.json idle) "ghostport.sock" (.ok ())
      [(utf8 idle.json).take 25, ((utf8 idle.json).take 40).drop 25] (.ok ()) = .ok s := by
  have hvec : (Json.at StatusSnapshot.json idle).toVec idle = .ok (utf8 idle.json) := by
    simp [Json.at]
  have hlost : (respond (.at StatusSnapshot.json idle) idle (some (40, "Broken pipe"))).1 =
      (utf8 idle.json).take 40 := by
    unfold respond
    rw [hvec]
  rintro ⟨s, hquery⟩
  rw [queryStatus_iff (Json.whole_at idle.json_ne_nil) "ghostport.sock" idle
    (some (40, "Broken pipe")) (by rw [hlost]; decide +kernel), hlost, hvec] at hquery
  exact absurd (Except.ok.inj hquery.2) (by decide +kernel)

end Ghostport.Core
