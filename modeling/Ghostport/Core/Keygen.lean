import Ghostport.Core.KeyFiles

/-!
# New identities (`crates/ghostport-core/src/keys.rs`, `src/main.rs`)

`ghostport keygen` saves both halves of a keypair as siblings, and prints the public key with its
fingerprint. The generator and SHA-256 are parameters.

Results:
* `fingerprint_eq_iff`: fingerprints are equal where the digests are.
* `savePrivateKey_loads`: a private key that has been saved is loaded again, whatever was there.
* `keygen_files`: what a keygen that succeeds has printed and left in the two files.
-/

namespace Ghostport.Core

open Ghostport.Lib Ghostport.Lib.FileTree

/-! ## Model -/

/-- `Keypair`, as `generate` (lines 19-39) returns it. -/
structure Keypair where
  privateKey : List UInt8
  publicKey : List UInt8
  privateKey_length : privateKey.length = 32
  publicKey_length : publicKey.length = 32

/-- `public_key_path` (lines 43-47): `.pub` is appended to the text of the path. -/
def publicKeyPath (path : Path) : Path :=
  match path.comps with
  | [] => { path with comps := [".pub"] }
  | name :: dir => { path with comps := (name ++ ".pub") :: dir }

/-- `save_public_key` (lines 64-69). -/
def savePublicKey (base64 : Base64) (p : Process) (path : Path) (key : List UInt8)
    (t : FileTree) : Except Errno Unit × FileTree :=
  let write (t : FileTree) : Except Errno Unit × FileTree :=
    match writeBase64Line base64 p path key t with
    | .error e => (.error e, t)
    | .ok t => (.ok (), t)
  match path.parent with
  | none => write t
  | some parent =>
    match createDirAll p parent.absolute parent.comps t with
    | (.error e, t) => (.error e, t)
    | (.ok (), t) => write t

/-- `encode_public_key` (lines 89-91). -/
def encodePublicKey (base64 : Base64) (key : List UInt8) : List Char := base64.encode key

/-- `{b:02x}`. -/
def hexByte (b : UInt8) : List Char :=
  [Nat.digitChar (b.toNat / 16), Nat.digitChar (b.toNat % 16)]

/-- `fingerprint` (lines 112-119). -/
def fingerprint (sha256 : List UInt8 → List UInt8) (key : List UInt8) : List Char :=
  [':'].intercalate ((sha256 key).map hexByte)

inductive ExitCode where
  | success
  | failure
  deriving DecidableEq, Repr

/-- What `run_keygen` prints, less the fixed texts and the colours. -/
inductive KeygenLine where
  | privateFailed (e : Errno)
  | publicFailed (e : Errno)
  | privateSaved (path : Path)
  | publicSaved (path : Path)
  | publicKey (text : List Char)
  | fingerprint (text : List Char)
  deriving DecidableEq

/-- `run_keygen` (`src/main.rs`, lines 86-119); `path` is what `expand_tilde` makes of `--out`, and
    `keypair` what has been generated. -/
def runKeygen (sha256 : List UInt8 → List UInt8) (base64 : Base64) (p : Process) (path : Path)
    (keypair : Keypair) (t : FileTree) : ExitCode × List KeygenLine × FileTree :=
  match savePrivateKey base64 p path keypair.privateKey t with
  | (.error e, t) => (.failure, [.privateFailed e], t)
  | (.ok (), t) =>
    let pubPath := publicKeyPath path
    match savePublicKey base64 p pubPath keypair.publicKey t with
    | (.error e, t) => (.failure, [.publicFailed e], t)
    | (.ok (), t) =>
      (.success,
        [.privateSaved path, .publicSaved pubPath,
          .publicKey (encodePublicKey base64 keypair.publicKey),
          .fingerprint (fingerprint sha256 keypair.publicKey)], t)

/-! ## Fingerprints -/

theorem hexByte_inj {a b : UInt8} (h : hexByte a = hexByte b) : a = b := by
  have hdigit : ∀ m < 16, ∀ n < 16, Nat.digitChar m = Nat.digitChar n → m = n := by decide
  have ha := a.toNat_lt
  have hb := b.toNat_lt
  obtain ⟨hhigh, hlow⟩ : Nat.digitChar (a.toNat / 16) = Nat.digitChar (b.toNat / 16) ∧
      Nat.digitChar (a.toNat % 16) = Nat.digitChar (b.toNat % 16) := by
    simpa [hexByte] using h
  have hdiv := hdigit _ (by omega) _ (by omega) hhigh
  have hmod := hdigit _ (by omega) _ (by omega) hlow
  apply UInt8.toNat_inj.mp
  omega

theorem intercalate_cons {sep x y : List Char} {xs : List (List Char)} :
    sep.intercalate (x :: y :: xs) = x ++ (sep ++ sep.intercalate (y :: xs)) := by
  simp [List.intercalate]

theorem hexBytes_inj {a b : List UInt8}
    (h : [':'].intercalate (a.map hexByte) = [':'].intercalate (b.map hexByte)) : a = b := by
  have hlen : ∀ (x : UInt8) xs,
      ([':'].intercalate ((x :: xs).map hexByte)).length = 3 * xs.length + 2 := by
    intro x xs
    induction xs generalizing x with
    | nil => simp [List.intercalate, hexByte]
    | cons y xs ih =>
      rw [List.map_cons, List.map_cons, intercalate_cons, ← List.map_cons]
      simp only [List.length_append, ih, hexByte, List.length_cons, List.length_nil]
      omega
  induction a generalizing b with
  | nil =>
    cases b with
    | nil => rfl
    | cons y ys =>
      have heq := congrArg List.length h
      rw [hlen] at heq
      simp [List.intercalate] at heq
  | cons x xs ih =>
    cases b with
    | nil =>
      have heq := congrArg List.length h
      rw [hlen] at heq
      simp [List.intercalate] at heq
    | cons y ys =>
      have heq := congrArg List.length h
      rw [hlen, hlen] at heq
      match xs, ys with
      | [], [] =>
        have hxy : hexByte x = hexByte y := by simpa [List.intercalate] using h
        rw [hexByte_inj hxy]
      | [], _ :: _ | _ :: _, [] =>
        simp only [List.length_cons, List.length_nil] at heq
        omega
      | x' :: xs, y' :: ys =>
        simp only [List.map_cons, intercalate_cons] at h
        obtain ⟨hhead, htail⟩ := List.append_inj h rfl
        obtain ⟨-, htail⟩ := List.append_inj htail rfl
        have hrest := ih (b := y' :: ys) htail
        rw [hexByte_inj hhead, hrest]

theorem fingerprint_eq_iff {sha256 : List UInt8 → List UInt8} {key key' : List UInt8} :
    fingerprint sha256 key = fingerprint sha256 key' ↔ sha256 key = sha256 key' :=
  ⟨hexBytes_inj, fun h => by rw [fingerprint, h, fingerprint]⟩

/-! ## What has been saved -/

section

variable {base64 : Base64} {p : Process} {t t' : FileTree} {key : List UInt8} {absolute : Bool}
  {name : String} {dir : List String} {path : Path}

/-- A path that a key has been saved under has a last name. -/
theorem savePrivateKey_named (hok : savePrivateKey base64 p path key t = (.ok (), t')) :
    ∃ name dir, path.comps = name :: dir := by
  obtain ⟨absolute, comps⟩ := path
  cases comps with
  | cons name dir => exact ⟨name, dir, rfl⟩
  | nil => simp [savePrivateKey, lockParent, Path.parent, writeBase64Line, create] at hok

/-- The file of a private key that has been saved, and the way to it. -/
theorem savePrivateKey_file
    (hok : savePrivateKey base64 p ⟨absolute, name :: dir⟩ key t = (.ok (), t')) :
    Open t' (p.base absolute) dir ∧ ∃ attrs : Attrs, attrs.owned ∧
      t'.node (name :: (dir ++ p.base absolute)) =
        some (.file { attrs with mode := 0o600 } (keyLine base64 key)) := by
  unfold savePrivateKey at hok
  split at hok
  · cases hok
  · split at hok
    · cases hok
    · rename_i t₃ hwrite
      obtain ⟨attrs, -, ht₃⟩ := writeBase64Line_ok hwrite
      split at hok
      · cases hok
      · rename_i t₄ hset
        obtain ⟨-, rfl⟩ := Prod.mk.inj hok
        obtain ⟨n, hlookup⟩ := setPermissions_lookup hset
        obtain ⟨n', hn', howned, ht₄⟩ := setPermissions_ok hset
        have hloc : (name :: dir) ++ p.base absolute = name :: (dir ++ p.base absolute) := rfl
        simp only [hloc] at hn' ht₄
        rw [ht₃, Function.update_self] at hn'
        obtain rfl := Option.some.inj hn'
        refine ⟨(open_of_lookup hlookup).entry ht₄, attrs, howned, ?_⟩
        rw [ht₄, Function.update_self]
        rfl

/-- The private key in a file that the owner can read. -/
theorem loadPrivateKey_file (hplain : ∀ bytes, ∀ c ∈ base64.encode bytes, isWhitespace c = false)
    (hkey : key.length = 32) (hopen : Open t (p.base absolute) dir) {attrs : Attrs}
    (howned : attrs.owned)
    (hfile : t.node (name :: (dir ++ p.base absolute)) =
      some (.file { attrs with mode := 0o600 } (keyLine base64 key))) :
    loadPrivateKey base64 p ⟨absolute, name :: dir⟩ t = .ok key := by
  have hread : (⟨attrs.owned, 0o600⟩ : Attrs).may .read := by
    rw [howned]
    decide
  obtain ⟨text, htext, hdecode⟩ := decode_keyLine hplain hkey
  unfold loadPrivateKey
  rw [read_file (lookup_open hopen hfile) hread]
  simp only [htext, hdecode]
  rfl

/-- The directories are there, so that only the file changes. -/
theorem savePublicKey_file (hopen : Open t (p.base absolute) dir)
    (hok : savePublicKey base64 p ⟨absolute, name :: dir⟩ key t = (.ok (), t')) :
    ∃ attrs, t'.node = Function.update t.node (name :: (dir ++ p.base absolute))
      (some (.file attrs (keyLine base64 key))) := by
  simp only [savePublicKey, Path.parent, createDirAll_present hopen] at hok
  split at hok
  · cases hok
  · rename_i hwrite
    obtain ⟨-, rfl⟩ := Prod.mk.inj hok
    obtain ⟨attrs, -, hnode⟩ := writeBase64Line_ok hwrite
    exact ⟨attrs, hnode⟩

end

theorem append_pub_ne (name : String) : name ≠ name ++ ".pub" := by
  intro h
  have hlen := congrArg String.length h
  rw [String.length_append] at hlen
  have hpub : ".pub".length = 4 := by decide
  omega

/-- What a keygen that succeeds has printed and left: the private key can be loaded, and the
    public key is in the file next to it. -/
theorem keygen_files {sha256 : List UInt8 → List UInt8} {base64 : Base64} {p : Process}
    {path : Path} {keypair : Keypair} {t t' : FileTree} {lines : List KeygenLine}
    (hplain : ∀ bytes, ∀ c ∈ base64.encode bytes, isWhitespace c = false)
    (h : runKeygen sha256 base64 p path keypair t = (.success, lines, t')) :
    .publicKey (base64.encode keypair.publicKey) ∈ lines ∧
      .fingerprint (fingerprint sha256 keypair.publicKey) ∈ lines ∧
      loadPrivateKey base64 p path t' = .ok keypair.privateKey ∧
      ∃ attrs, t'.lookup p (publicKeyPath path) =
        .ok (.file attrs (keyLine base64 keypair.publicKey)) := by
  unfold runKeygen at h
  split at h
  · cases h
  · rename_i t₁ hprivate
    simp only at h
    split at h
    · cases h
    · rename_i t₂ hpublic
      cases h
      obtain ⟨absolute, comps⟩ := path
      obtain ⟨name, dir, hcomps⟩ := savePrivateKey_named hprivate
      obtain rfl : comps = name :: dir := hcomps
      obtain ⟨hopen, attrs, howned, hfile⟩ := savePrivateKey_file hprivate
      obtain ⟨attrs', hnode⟩ := savePublicKey_file hopen hpublic
      refine ⟨by simp [encodePublicKey], by simp, ?_, attrs', ?_⟩
      · have hne : name :: (dir ++ p.base absolute) ≠
            (name ++ ".pub") :: (dir ++ p.base absolute) := fun heq =>
          append_pub_ne name (List.cons.inj heq).1
        refine loadPrivateKey_file hplain keypair.privateKey_length (hopen.entry hnode) howned ?_
        rw [hnode, Function.update_of_ne hne, hfile]
      · refine lookup_open (hopen.entry hnode) ?_
        rw [hnode, Function.update_self]

end Ghostport.Core
