import Ghostport.Core.Config
import Ghostport.Core.Wire

/-!
# Loading and saving a config (`crates/ghostport-core/src/config.rs`)

The config file is the bytes at its path, if there is such a file. The `toml` crate is a
parameter; `std::fs::write` makes the file empty before it writes, and can fail at any point.

Results:
* `save_ok`, `save_error`: what a save writes, and that a refused one writes nothing.
* `failsUnchanged_iff`: when a failed save leaves the file alone.
* `load_utf8`: what has been written is loaded again.
-/

namespace Ghostport.Core

/-- What the config needs of the `toml` crate: `to_string_pretty` and `from_str`, with the
    texts of their errors. -/
structure Toml where
  toStringPretty : Config → Except String String
  fromStr : String → Except String Config

/-- `toml` reloads what it has serialised. -/
def Toml.Reloads (toml : Toml) : Prop :=
  ∀ c text, toml.toStringPretty c = .ok text → toml.fromStr text = .ok c

/-- The crate on some configs and their texts. -/
def Toml.among (texts : List (Config × String)) : Toml where
  toStringPretty c :=
    match texts.find? fun entry => entry.1 = c with
    | some entry => .ok entry.2
    | none => .error "unsupported value"
  fromStr text :=
    match texts.find? fun entry => entry.2 = text with
    | some entry => .ok entry.1
    | none => .error "invalid value"

theorem Toml.reloads_among {texts : List (Config × String)}
    (hnodup : (texts.map Prod.snd).Nodup) : (Toml.among texts).Reloads := by
  intro c text h
  unfold Toml.among at h ⊢
  simp only at h ⊢
  split at h
  · rename_i entry hentry
    cases h
    have hmem := List.mem_of_find?_eq_some hentry
    have hkey : entry.1 = c := by simpa using List.find?_some hentry
    cases hfound : texts.find? fun other => other.2 = entry.2 with
    | none => simpa using List.find?_eq_none.mp hfound entry hmem
    | some other =>
      have htext : other.2 = entry.2 := by simpa using List.find?_some hfound
      obtain rfl := List.inj_on_of_nodup_map hnodup (List.mem_of_find?_eq_some hfound) hmem htext
      exact congrArg Except.ok hkey
  · cases h

/-- The bytes at a path, if there is a file. -/
abbrev File := Option (List UInt8)

/-- How a call of `std::fs::write` goes. -/
inductive WriteOutcome where
  | written
  /-- The file is not opened. -/
  | notOpened (e : String)
  /-- Only `n` bytes are written. -/
  | failed (n : ℕ) (e : String)
  deriving DecidableEq, Repr

/-- `std::fs::write`: its result, and the file after it. -/
def fsWrite (file : File) (bytes : List UInt8) : WriteOutcome → Except String Unit × File
  | .written => (.ok (), some bytes)
  | .notOpened e => (.error e, file)
  | .failed n e => (.error e, some (bytes.take n))

namespace Config

/-- `Config::load` (lines 162-166). A file that exists can be read. -/
def load (toml : Toml) (path : String) (file : File) : Except String Config :=
  match file with
  | none => .error ("failed to read " ++ path ++ ": No such file or directory (os error 2)")
  | some bytes =>
    match String.fromUTF8? ⟨⟨bytes⟩⟩ with
    | none => .error ("failed to read " ++ path ++ ": stream did not contain valid UTF-8")
    | some text => (toml.fromStr text).mapError fun e => "failed to parse " ++ path ++ ": " ++ e

/-- `Config::save` (lines 173-181): its result, and the file after it. -/
def save (c : Config) (base64 : Base64) (toml : Toml) (path : String) (file : File)
    (outcome : WriteOutcome) : Except (List String) Unit × File :=
  let errors := c.validate base64
  if errors ≠ [] then (.error errors, file)
  else
    match toml.toStringPretty c with
    | .error e => (.error [e], file)
    | .ok text =>
      let (result, file) := fsWrite file (utf8 text.toList) outcome
      (result.mapError fun e => ["failed to write " ++ path ++ ": " ++ e], file)

variable {c : Config} {base64 : Base64} {toml : Toml} {path : String} {file : File}
  {outcome : WriteOutcome}

/-- A save that succeeds has written the text of a valid config. -/
theorem save_ok {u : Unit} {file' : File}
    (h : c.save base64 toml path file outcome = (.ok u, file')) :
    c.validate base64 = [] ∧ ∃ text, toml.toStringPretty c = .ok text ∧
      file' = some (utf8 text.toList) := by
  unfold save at h
  by_cases hvalid : c.validate base64 = []
  · rw [if_neg (not_not.mpr hvalid)] at h
    refine ⟨hvalid, ?_⟩
    split at h
    · cases h
    · rename_i text htext
      cases outcome with
      | written =>
        cases h
        exact ⟨text, htext, rfl⟩
      | notOpened e | failed n e => cases h
  · rw [if_pos hvalid] at h
    cases h

/-- A save that is refused before anything is written leaves the file alone. -/
theorem save_error {errors : List String} {file' : File}
    (h : c.save base64 toml path file .written = (.error errors, file')) : file' = file := by
  unfold save at h
  by_cases hvalid : c.validate base64 = []
  · rw [if_neg (not_not.mpr hvalid)] at h
    split at h
    · cases h
      rfl
    · cases h
  · rw [if_pos hvalid] at h
    cases h
    rfl

/-- A save that fails leaves the file as it was. -/
def FailsUnchanged (c : Config) (base64 : Base64) (toml : Toml) (path : String) (file : File)
    (outcome : WriteOutcome) : Prop :=
  ∀ errors file', c.save base64 toml path file outcome = (.error errors, file') → file' = file

/-- The text of a valid config is being written, and what is in the file when the write fails
    is not what was there before. -/
def Spoils (c : Config) (base64 : Base64) (toml : Toml) (file : File)
    (outcome : WriteOutcome) : Prop :=
  c.validate base64 = [] ∧ ∃ text n e, toml.toStringPretty c = .ok text ∧
    outcome = .failed n e ∧ some ((utf8 text.toList).take n) ≠ file

/-- What fails is the check, the serialisation, or the write: then the file has not been
    opened, or it holds the bytes that were written. -/
theorem save_failed {errors : List String} {file' : File}
    (h : c.save base64 toml path file outcome = (.error errors, file')) :
    file' = file ∨ c.validate base64 = [] ∧ ∃ text n e, toml.toStringPretty c = .ok text ∧
      outcome = .failed n e ∧ file' = some ((utf8 text.toList).take n) := by
  unfold save at h
  by_cases hvalid : c.validate base64 = []
  · rw [if_neg (not_not.mpr hvalid)] at h
    split at h
    · cases h
      exact .inl rfl
    · rename_i text htext
      cases outcome with
      | written => cases h
      | notOpened e =>
        cases h
        exact .inl rfl
      | failed n e =>
        cases h
        exact .inr ⟨hvalid, text, n, e, htext, rfl, rfl⟩
  · rw [if_pos hvalid] at h
    cases h
    exact .inl rfl

/-- `std::fs::write` empties the file first, so a write that fails on the way leaves a part of
    the new text. -/
theorem save_spoiled {text : String} {n : ℕ} {e : String} (hvalid : c.validate base64 = [])
    (htext : toml.toStringPretty c = .ok text) :
    c.save base64 toml path file (.failed n e) =
      (.error ["failed to write " ++ path ++ ": " ++ e], some ((utf8 text.toList).take n)) := by
  unfold save
  rw [if_neg (not_not.mpr hvalid), htext]
  rfl

/-- A failed save leaves the file alone exactly if no write fails after it has changed the
    file. -/
theorem failsUnchanged_iff (c : Config) (base64 : Base64) (toml : Toml) (path : String)
    (file : File) (outcome : WriteOutcome) :
    c.FailsUnchanged base64 toml path file outcome ↔ ¬ c.Spoils base64 toml file outcome := by
  constructor
  · rintro h ⟨hvalid, text, n, e, htext, rfl, hne⟩
    exact hne (h _ _ (save_spoiled hvalid htext))
  · intro h errors file' hsave
    rcases save_failed hsave with heq | ⟨hvalid, text, n, e, htext, houtcome, rfl⟩
    · exact heq
    · by_contra hne
      exact h ⟨hvalid, text, n, e, htext, houtcome, hne⟩

theorem fromUTF8_utf8 (text : String) : String.fromUTF8? ⟨⟨utf8 text.toList⟩⟩ = some text := by
  have hbytes : (⟨⟨utf8 text.toList⟩⟩ : ByteArray) = text.toByteArray := by
    rw [← String.utf8Encode_toList, List.utf8Encode]
    exact ByteArray.ext List.data_toByteArray.symm
  rw [hbytes, String.fromUTF8?, dif_pos text.isValidUTF8]
  rfl

/-- The written text is loaded again. -/
theorem load_utf8 {text : String} (htoml : toml.fromStr text = .ok c) (path : String) :
    load toml path (some (utf8 text.toList)) = .ok c := by
  unfold load
  simp only [fromUTF8_utf8, htoml]
  rfl

/-- A client without links. -/
def clientConfig : Config where
  role := .client
  privateKeyPath := "/etc/ghostport/client.key"
  peerPublicKey := some "AAAAAAAAAAAAAAAAAAAAAAAAAAAAAAAAAAAAAAAAAAA="
  peers := []
  listenControl := none
  listenData := none
  listenUdp := none
  serverControlAddr := some "203.0.113.5:7000"
  serverDataAddr := some "203.0.113.5:7001"
  serverUdpAddr := none
  links := []

def clientText : String :=
  "role = \"client\"\nprivate_key_path = \"/etc/ghostport/client.key\"\n" ++
  "peer_public_key = \"AAAAAAAAAAAAAAAAAAAAAAAAAAAAAAAAAAAAAAAAAAA=\"\n" ++
  "server_control_addr = \"203.0.113.5:7000\"\nserver_data_addr = \"203.0.113.5:7001\"\n" ++
  "links = []\n"

def clientToml : Toml := .among [(clientConfig, clientText)]

def fullDisk : WriteOutcome := .failed 0 "No space left on device (os error 28)"

/-- The disk is full: the old file is gone, and what is there cannot be loaded. -/
theorem fullDisk_emptied :
    load clientToml "client.toml" (some (utf8 clientText.toList)) = .ok clientConfig ∧
      clientConfig.save .standard clientToml "client.toml" (some (utf8 clientText.toList))
        fullDisk =
          (.error ["failed to write client.toml: No space left on device (os error 28)"],
            some []) ∧
      load clientToml "client.toml" (some []) =
        .error "failed to parse client.toml: invalid value" ∧
      ¬ clientConfig.FailsUnchanged .standard clientToml "client.toml"
        (some (utf8 clientText.toList)) fullDisk := by
  have htext : clientToml.toStringPretty clientConfig = .ok clientText := by decide +kernel
  have hsave := @save_spoiled clientConfig .standard clientToml "client.toml"
    (some (utf8 clientText.toList)) clientText 0 "No space left on device (os error 28)"
    (by decide +kernel) htext
  have hload : load clientToml "client.toml" (some (utf8 clientText.toList)) = .ok clientConfig :=
    load_utf8 (by decide +kernel) _
  have hempty : load clientToml "client.toml" (some []) =
      .error "failed to parse client.toml: invalid value" := by
    decide +kernel
  refine ⟨hload, hsave, hempty, fun h => ?_⟩
  have hold : some [] = some (utf8 clientText.toList) := h _ _ hsave
  rw [hold, hload] at hempty
  cases hempty

end Config

end Ghostport.Core
