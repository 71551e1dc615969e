import Ghostport.Core.Save
import Ghostport.Lib.FileTree

/-!
# Key files (`crates/ghostport-core/src/keys.rs`)

`save_private_key` creates the directory of the key if it is missing, and gives it the mode `0700`
whether it was missing or not.

Results:
* `savePrivateKey_ok`: what a save that succeeds has changed.
* `keySaved_iff`: exactly when it succeeds and changes no other mode.
* `bareName_refused`, `sharedDir_locked`: a key in the working directory, and one in a directory
  that others can read.
-/

namespace Ghostport.Core

open Ghostport.Lib Ghostport.Lib.FileTree

/-- `write_base64_line` (lines 73-77). -/
def writeBase64Line (base64 : Base64) (p : Process) (path : Path) (bytes : List UInt8)
    (t : FileTree) : Except Errno FileTree :=
  match t.create p path with
  | .error e => .error e
  | .ok t =>
    .ok ((t.writeAll p path (utf8 (base64.encode bytes))).writeAll p path (utf8 ['\n']))

/-- What `save_private_key` does to the parent of the path (lines 53-56). -/
def lockParent (p : Process) (path : Path) (t : FileTree) : Except Errno Unit × FileTree :=
  match path.parent with
  | none => (.ok (), t)
  | some parent =>
    match createDirAll p parent.absolute parent.comps t with
    | (.error e, t) => (.error e, t)
    | (.ok (), t) =>
      match t.setPermissions p parent 0o700 with
      | .error e => (.error e, t)
      | .ok t => (.ok (), t)

/-- `save_private_key` (lines 52-60). -/
def savePrivateKey (base64 : Base64) (p : Process) (path : Path) (key : List UInt8)
    (t : FileTree) : Except Errno Unit × FileTree :=
  match lockParent p path t with
  | (.error e, t) => (.error e, t)
  | (.ok (), t) =>
    match writeBase64Line base64 p path key t with
    | .error e => (.error e, t)
    | .ok t =>
      match t.setPermissions p path 0o600 with
      | .error e => (.error e, t)
      | .ok t => (.ok (), t)

/-- `load_private_key` (lines 81-86). -/
def loadPrivateKey (base64 : Base64) (p : Process) (path : Path) (t : FileTree) :
    Except String (List UInt8) :=
  match t.read p path with
  | .error e => .error ("failed to read " ++ path.display ++ ": " ++ e.display)
  | .ok bytes =>
    match String.fromUTF8? ⟨⟨bytes⟩⟩ with
    | none =>
      .error ("failed to read " ++ path.display ++ ": stream did not contain valid UTF-8")
    | some text =>
      (decodePublicKey base64 (String.ofList (trim text.toList))).mapError fun e =>
        path.display ++ " does not contain a valid key: " ++ e

/-- The line of a key file. -/
def keyLine (base64 : Base64) (key : List UInt8) : List UInt8 :=
  utf8 (base64.encode key ++ ['\n'])

section

variable {base64 : Base64} {p : Process} {t t' : FileTree} {key : List UInt8} {absolute : Bool}
  {name : String} {dir : List String} {path : Path}

/-! ## A save that succeeds -/

theorem lockParent_ok (hmake : CanMake t (p.base absolute) dir)
    (hok : lockParent p ⟨absolute, name :: dir⟩ t = (.ok (), t')) :
    ∃ t₁ n, Filled p t (p.base absolute) dir t₁ ∧ (absolute ∨ dir ≠ []) ∧
      t₁.node (dir ++ p.base absolute) = some n ∧ n.attrs.owned ∧
      t'.node = Function.update t₁.node (dir ++ p.base absolute) (some (n.chmod 0o700)) := by
  simp only [lockParent, Path.parent] at hok
  split at hok
  · cases hok
  · rename_i t₁ hcreate
    split at hok
    · cases hok
    · rename_i t₂ hset
      obtain ⟨-, rfl⟩ := Prod.mk.inj hok
      obtain ⟨n, hnode, howned, hupdate⟩ := setPermissions_ok hset
      refine ⟨t₁, n, createDirAll_filled hmake hcreate, ?_, hnode, howned, hupdate⟩
      by_contra hbare
      -- the empty path has no permissions
      have hlookup : t₁.lookup p ⟨absolute, dir⟩ = .error .notFound := by
        unfold lookup
        rw [if_pos (by simpa using hbare)]
      unfold setPermissions at hset
      rw [hlookup] at hset
      cases hset

theorem writeBase64Line_ok (hok : writeBase64Line base64 p ⟨absolute, name :: dir⟩ key t = .ok t') :
    ∃ attrs, ((∃ content, t.node (name :: (dir ++ p.base absolute)) = some (.file attrs content) ∧
        attrs.may .write) ∨
      t.node (name :: (dir ++ p.base absolute)) = none ∧ attrs = ⟨true, p.masked 0o666⟩) ∧
    t'.node = Function.update t.node (name :: (dir ++ p.base absolute))
      (some (.file attrs (keyLine base64 key))) := by
  unfold writeBase64Line at hok
  split at hok
  · cases hok
  · rename_i t₁ hcreate
    obtain ⟨attrs, hcase, hnode⟩ := create_ok hcreate
    refine ⟨attrs, hcase, ?_⟩
    obtain rfl := Except.ok.inj hok
    let path : Path := ⟨absolute, name :: dir⟩
    let written : FileTree := t₁.writeAll p path (utf8 (base64.encode key))
    have hfirst : written.node = _ :=
      node_writeAll (n := .file attrs []) (by rw [hnode]; simp [path])
    have hsecond : (written.writeAll p path (utf8 ['\n'])).node = _ :=
      node_writeAll (n := .file attrs (utf8 (base64.encode key)))
        (by rw [hfirst]; simp [path, Node.append])
    have hline : keyLine base64 key = utf8 (base64.encode key) ++ utf8 ['\n'] :=
      List.flatMap_append
    rw [hsecond, hfirst, hnode, Function.update_idem, hline]
    exact Function.update_idem _ _ _

/-- What a save that succeeds has changed: the missing directories, the parent, the file. -/
theorem savePrivateKey_ok (hmake : CanMake t (p.base absolute) dir)
    (hok : savePrivateKey base64 p ⟨absolute, name :: dir⟩ key t = (.ok (), t')) :
    ∃ t₁ n attrs, Filled p t (p.base absolute) dir t₁ ∧ (absolute ∨ dir ≠ []) ∧
      t₁.node (dir ++ p.base absolute) = some n ∧ n.attrs.owned ∧ attrs.owned ∧
      ((∃ content, t.node (name :: (dir ++ p.base absolute)) = some (.file attrs content) ∧
          attrs.may .write) ∨
        t.node (name :: (dir ++ p.base absolute)) = none) ∧
      t'.node = Function.update
        (Function.update t₁.node (dir ++ p.base absolute) (some (n.chmod 0o700)))
        (name :: (dir ++ p.base absolute))
        (some (.file { attrs with mode := 0o600 } (keyLine base64 key))) := by
  unfold savePrivateKey at hok
  split at hok
  · cases hok
  · rename_i t₂ hlock
    obtain ⟨t₁, n, hfilled, hnamed, hn, howned, ht₂⟩ := lockParent_ok hmake hlock
    split at hok
    · cases hok
    · rename_i t₃ hwrite
      obtain ⟨attrs, hcase, ht₃⟩ := writeBase64Line_ok hwrite
      split at hok
      · cases hok
      · rename_i t₄ hset
        obtain ⟨-, rfl⟩ := Prod.mk.inj hok
        obtain ⟨n', hn', howned', ht₄⟩ := setPermissions_ok hset
        have hloc : (name :: dir) ++ p.base absolute = name :: (dir ++ p.base absolute) := rfl
        simp only [hloc] at hn' ht₄
        rw [ht₃, Function.update_self] at hn'
        obtain rfl := Option.some.inj hn'
        have hold : t₂.node (name :: (dir ++ p.base absolute)) =
            t.node (name :: (dir ++ p.base absolute)) := by
          rw [ht₂, Function.update_of_ne (List.cons_ne_self _ _), hfilled.entry]
        rw [hold] at hcase
        refine ⟨t₁, n, attrs, hfilled, hnamed, hn, howned, howned',
          hcase.imp_right And.left, ?_⟩
        rw [ht₄, ht₃, Function.update_idem, ht₂]
        rfl

/-! ## When a save succeeds -/

/-- Nothing stands in the way of a save, and it has no mode to change but that of the file. -/
structure Undisturbing (p : Process) (absolute : Bool) (name : String) (dir : List String)
    (t : FileTree) : Prop where
  /-- The path is more than a name. -/
  parent : absolute ∨ dir ≠ []
  file : ∀ n, t.node (name :: (dir ++ p.base absolute)) = some n →
    ∃ attrs content, n = .file attrs content ∧ attrs.owned ∧ attrs.may .write
  locked : ∀ attrs, t.node (dir ++ p.base absolute) = some (.dir attrs) → attrs.mode = 0o700
  /-- No directory is missing above the parent, or the default mode is `0700` too. -/
  above : t.node (dir.tail ++ p.base absolute) = none → p.masked 0o777 = 0o700

theorem may_locked (access : Access) : (⟨true, 0o700⟩ : Attrs).may access = true := by
  cases access <;> decide

theorem may_newDir (h : p.masked 0o777 = 0o700) (access : Access) :
    (newDir p).attrs.may access := by
  unfold newDir
  rw [h]
  exact may_locked access

theorem suffix_tail {c : List String} (hc : c <:+ dir) (hne : c ≠ dir) : c <:+ dir.tail := by
  cases dir with
  | nil => exact absurd (List.suffix_nil.mp hc) hne
  | cons d dir => exact (List.suffix_cons_iff.mp hc).resolve_left hne

/-- The way to the file, once its parent has been locked. -/
theorem open_locked {t₁ : FileTree} {attrs : Attrs} (hmake : CanMake t (p.base absolute) dir)
    (hfilled : Filled p t (p.base absolute) dir t₁) (howned : attrs.owned)
    (habove : t.node (dir.tail ++ p.base absolute) = none → p.masked 0o777 = 0o700)
    (hdir : t'.node (dir ++ p.base absolute) = some (.dir { attrs with mode := 0o700 }))
    (hother : ∀ c, c <:+ dir → c ++ p.base absolute ≠ dir ++ p.base absolute →
      t'.node (c ++ p.base absolute) = t₁.node (c ++ p.base absolute)) :
    Open t' (p.base absolute) dir := by
  intro c hc
  by_cases heq : c = dir
  · subst heq
    refine ⟨{ attrs with mode := 0o700 }, hdir, ?_⟩
    rw [howned]
    exact may_locked .search
  · have hne : c ++ p.base absolute ≠ dir ++ p.base absolute := fun h =>
      heq (List.append_cancel_right h)
    obtain ⟨attrs', hnode, hsearch⟩ := hfilled.open hmake (List.tail_suffix dir)
      (fun hnone => may_newDir (habove hnone) .search) c (suffix_tail hc heq)
    exact ⟨attrs', by rw [hother c hc hne, hnode], hsearch⟩

/-- The directory of the key once `create_dir_all` has returned. -/
theorem lookup_parent {t₁ : FileTree} (hmake : CanMake t (p.base absolute) dir)
    (hfilled : Filled p t (p.base absolute) dir t₁)
    (howner : ∀ attrs, t.node (dir ++ p.base absolute) = some (.dir attrs) → attrs.owned)
    (h : Undisturbing p absolute name dir t) : ∃ attrs, attrs.owned ∧
      t₁.lookup p ⟨absolute, dir⟩ = .ok (.dir attrs) ∧
      t₁.node (dir ++ p.base absolute) = some (.dir attrs) := by
  obtain ⟨attrs, howned, hnode⟩ : ∃ attrs, attrs.owned ∧
      t₁.node (dir ++ p.base absolute) = some (.dir attrs) := by
    cases hn : t.node (dir ++ p.base absolute) with
    | none => exact ⟨_, rfl, hfilled.made dir List.suffix_rfl hn⟩
    | some n =>
      obtain ⟨-, attrs, rfl, -⟩ := hmake.open_of_some hn
      exact ⟨attrs, howner attrs hn, hfilled.kept _ _ hn⟩
  refine ⟨attrs, howned, ?_, hnode⟩
  cases dir with
  | nil =>
    have habsolute : absolute = true := by simpa using h.parent
    subst habsolute
    obtain ⟨attrs', hlookup, hroot⟩ := lookup_root t₁ p
    have hsame : t₁.node [] = some (.dir attrs) := hnode
    rw [hsame] at hroot
    rw [hlookup, ← Option.some.inj hroot]
  | cons d dir =>
    have hopen := hfilled.open hmake (List.suffix_cons d dir)
      fun hnone => may_newDir (h.above hnone) .search
    exact lookup_open hopen hnode

theorem lockParent_undisturbing (hmake : CanMake t (p.base absolute) dir)
    (howner : ∀ attrs, t.node (dir ++ p.base absolute) = some (.dir attrs) → attrs.owned)
    (h : Undisturbing p absolute name dir t) : ∃ (t' : FileTree) (attrs : Attrs),
      lockParent p ⟨absolute, name :: dir⟩ t = (.ok (), t') ∧ attrs.owned ∧
      t'.node (dir ++ p.base absolute) = some (.dir { attrs with mode := 0o700 }) ∧
      Open t' (p.base absolute) dir ∧
      t'.node (name :: (dir ++ p.base absolute)) = t.node (name :: (dir ++ p.base absolute)) := by
  obtain ⟨t₁, hcreate⟩ := createDirAll_ok hmake fun hnone =>
    ⟨may_newDir (h.above hnone) .write, may_newDir (h.above hnone) .search⟩
  have hfilled := createDirAll_filled hmake hcreate
  obtain ⟨attrs, howned, hlookup, hnode⟩ := lookup_parent hmake hfilled howner h
  obtain ⟨t₂, hset⟩ : ∃ t₂, t₁.setPermissions p ⟨absolute, dir⟩ 0o700 = .ok t₂ :=
    setPermissions_owned hlookup howned
  obtain ⟨n, hn, -, ht₂⟩ := setPermissions_ok hset
  obtain rfl := Option.some.inj (hnode.symm.trans hn)
  have hdir : t₂.node (dir ++ p.base absolute) = some (.dir { attrs with mode := 0o700 }) := by
    rw [ht₂, Function.update_self]
    rfl
  refine ⟨t₂, attrs, ?_, howned, hdir, ?_, ?_⟩
  · simp only [lockParent, Path.parent, hcreate, hset]
  · refine open_locked hmake hfilled howned h.above hdir fun c _ hne => ?_
    rw [ht₂, Function.update_of_ne hne]
  · rw [ht₂, Function.update_of_ne (List.cons_ne_self _ _), hfilled.entry]

theorem savePrivateKey_undisturbing (base64 : Base64) (key : List UInt8)
    (hmake : CanMake t (p.base absolute) dir)
    (howner : ∀ attrs, t.node (dir ++ p.base absolute) = some (.dir attrs) → attrs.owned)
    (h : Undisturbing p absolute name dir t) :
    ∃ t', savePrivateKey base64 p ⟨absolute, name :: dir⟩ key t = (.ok (), t') := by
  obtain ⟨t₁, attrs, hlock, howned, hdir, hopen, hold⟩ := lockParent_undisturbing hmake howner h
  have hwrite : (⟨attrs.owned, 0o700⟩ : Attrs).may .write := by
    rw [howned]
    exact may_locked .write
  have hmayWrite : ∀ n, t₁.node (name :: (dir ++ p.base absolute)) = some n →
      ∃ attrs content, n = .file attrs content ∧ attrs.may .write := by
    intro n hn
    obtain ⟨attrs', content, rfl, -, hmay⟩ := h.file n (hold ▸ hn)
    exact ⟨attrs', content, rfl, hmay⟩
  obtain ⟨t₂, hcreate⟩ := create_open hopen hdir hwrite hmayWrite
  obtain ⟨t₃, hline⟩ : ∃ t₃, writeBase64Line base64 p ⟨absolute, name :: dir⟩ key t₁ = .ok t₃ := by
    unfold writeBase64Line
    rw [hcreate]
    exact ⟨_, rfl⟩
  obtain ⟨fileAttrs, hcase, ht₃⟩ := writeBase64Line_ok hline
  have hfile : t₃.node (name :: (dir ++ p.base absolute)) =
      some (.file fileAttrs (keyLine base64 key)) := by
    rw [ht₃, Function.update_self]
  have hfileOwned : fileAttrs.owned := by
    rcases hcase with ⟨content, hn, -⟩ | ⟨-, rfl⟩
    · obtain ⟨attrs', content', heq, howned', -⟩ := h.file _ (hold ▸ hn)
      cases heq
      exact howned'
    · rfl
  obtain ⟨t₄, hset⟩ : ∃ t₄, t₃.setPermissions p ⟨absolute, name :: dir⟩ 0o600 = .ok t₄ :=
    setPermissions_owned (lookup_open (hopen.entry ht₃) hfile) hfileOwned
  refine ⟨t₄, ?_⟩
  simp only [savePrivateKey, hlock, hline, hset]

/-! ## The saved key -/

theorem trim_plain {s : List Char} (hs : ∀ c ∈ s, isWhitespace c = false) : trim s = s := by
  have hfront : s.dropWhile isWhitespace = s := by
    refine List.dropWhile_eq_self_iff.mpr fun hlen => ?_
    rw [hs _ (List.getElem_mem hlen)]
    exact Bool.false_ne_true
  unfold trim
  rw [hfront]
  refine List.rdropWhile_eq_self_iff.mpr fun hne => ?_
  rw [hs _ (List.getLast_mem hne)]
  exact Bool.false_ne_true

theorem trim_line {s : List Char} (hs : ∀ c ∈ s, isWhitespace c = false) :
    trim (s ++ ['\n']) = s := by
  have hback : (s ++ ['\n']).rdropWhile isWhitespace = s.rdropWhile isWhitespace :=
    List.rdropWhile_concat_pos _ _ _ (by decide)
  have htrim := trim_plain hs
  cases s with
  | nil => decide
  | cons c s =>
    have hhead : isWhitespace c = false := hs c (by simp)
    have hkeep : ∀ rest, (c :: rest).dropWhile isWhitespace = c :: rest := fun rest =>
      List.dropWhile_cons_of_neg (by rw [hhead]; exact Bool.false_ne_true)
    unfold trim at htrim ⊢
    rw [hkeep] at htrim
    rw [List.cons_append, hkeep, ← List.cons_append, hback, htrim]

/-- The line of a key is read back. -/
theorem decode_keyLine (hplain : ∀ bytes, ∀ c ∈ base64.encode bytes, isWhitespace c = false)
    (hkey : key.length = 32) : ∃ text, String.fromUTF8? ⟨⟨keyLine base64 key⟩⟩ = some text ∧
      decodePublicKey base64 (String.ofList (trim text.toList)) = .ok key := by
  refine ⟨String.ofList (base64.encode key ++ ['\n']), ?_, ?_⟩
  · have hread := Config.fromUTF8_utf8 (String.ofList (base64.encode key ++ ['\n']))
    rwa [String.toList_ofList] at hread
  · rw [String.toList_ofList, trim_line (hplain key)]
    simp [decodePublicKey, trim_plain (hplain key), base64.decode_encode, hkey]

/-- The key is in the file, and no other mode has changed. -/
structure KeySaved (base64 : Base64) (p : Process) (path : Path) (key : List UInt8)
    (t : FileTree) : Prop where
  succeeds : (savePrivateKey base64 p path key t).1 = .ok ()
  loads : loadPrivateKey base64 p path (savePrivateKey base64 p path key t).2 = .ok key
  mode : ∃ attrs content, (savePrivateKey base64 p path key t).2.node
    (path.comps ++ p.base path.absolute) = some (.file attrs content) ∧ attrs.mode = 0o600
  created : ∀ loc attrs, t.node loc = none →
    (savePrivateKey base64 p path key t).2.node loc = some (.dir attrs) → attrs.mode = 0o700
  kept : ∀ loc attrs, t.node loc = some (.dir attrs) → ∃ attrs',
    (savePrivateKey base64 p path key t).2.node loc = some (.dir attrs') ∧
      attrs'.mode = attrs.mode

theorem undisturbing_of_saved (hmake : CanMake t (p.base absolute) dir)
    (h : KeySaved base64 p ⟨absolute, name :: dir⟩ key t) : Undisturbing p absolute name dir t := by
  obtain ⟨hsucceeds, -, -, hcreated, hkept⟩ := h
  obtain ⟨t', hok⟩ : ∃ t', savePrivateKey base64 p ⟨absolute, name :: dir⟩ key t = (.ok (), t') :=
    ⟨_, Prod.ext hsucceeds rfl⟩
  rw [hok] at hcreated hkept
  obtain ⟨t₁, n, attrs, hfilled, hparent, hn, -, howned, hcase, ht'⟩ := savePrivateKey_ok hmake hok
  have hdir : t'.node (dir ++ p.base absolute) = some (n.chmod 0o700) := by
    rw [ht', Function.update_of_ne (List.cons_ne_self _ _).symm, Function.update_self]
  refine ⟨hparent, fun n' hn' => ?_, fun attrs' hattrs => ?_, fun hnone => ?_⟩
  · rcases hcase with ⟨content, hfile, hmay⟩ | hmissing
    · rw [hfile] at hn'
      exact ⟨attrs, content, (Option.some.inj hn').symm, howned, hmay⟩
    · rw [hmissing] at hn'
      cases hn'
  · obtain ⟨attrs'', hnode, hmode⟩ := hkept _ _ hattrs
    have hsame := hfilled.kept _ _ hattrs
    rw [hn] at hsame
    obtain rfl := Option.some.inj hsame
    rw [hdir] at hnode
    obtain rfl := Node.dir.inj (Option.some.inj hnode)
    exact hmode.symm
  · cases dir with
    | nil =>
      cases hmake with
      | present _ hdir' _ =>
        rw [List.tail_nil] at hnone
        rw [hnone] at hdir'
        cases hdir'
    | cons d dir =>
      have hmade := hfilled.made dir (List.suffix_cons d dir) hnone
      have hnode : t'.node (dir ++ p.base absolute) = some (newDir p) := by
        have hfile : dir ++ p.base absolute ≠ name :: (d :: dir ++ p.base absolute) :=
          suffix_append_ne (List.suffix_cons d dir)
        have habove : dir ++ p.base absolute ≠ d :: dir ++ p.base absolute :=
          (List.cons_ne_self _ _).symm
        rw [ht', Function.update_of_ne hfile, Function.update_of_ne habove, hmade]
      exact hcreated _ _ hnone hnode

/-- The tree that a save leaves: the missing directories have been made in `t₁`, then the parent
    and the file have been changed. -/
structure Left (base64 : Base64) (p : Process) (absolute : Bool) (name : String)
    (dir : List String) (key : List UInt8) (t t₁ t' : FileTree) (dirAttrs fileAttrs : Attrs) :
    Prop where
  filled : Filled p t (p.base absolute) dir t₁
  owned : dirAttrs.owned ∧ fileAttrs.owned
  parent : t'.node (dir ++ p.base absolute) = some (.dir { dirAttrs with mode := 0o700 })
  file : t'.node (name :: (dir ++ p.base absolute)) =
    some (.file { fileAttrs with mode := 0o600 } (keyLine base64 key))
  other : ∀ loc, loc ≠ name :: (dir ++ p.base absolute) → loc ≠ dir ++ p.base absolute →
    t'.node loc = t₁.node loc

theorem left_of_ok (hmake : CanMake t (p.base absolute) dir)
    (howner : ∀ attrs, t.node (dir ++ p.base absolute) = some (.dir attrs) → attrs.owned)
    (h : Undisturbing p absolute name dir t)
    (hok : savePrivateKey base64 p ⟨absolute, name :: dir⟩ key t = (.ok (), t')) :
    ∃ t₁ dirAttrs fileAttrs, Left base64 p absolute name dir key t t₁ t' dirAttrs fileAttrs := by
  obtain ⟨t₁, n, attrs, hfilled, -, hn, hnOwned, howned, -, ht'⟩ := savePrivateKey_ok hmake hok
  obtain ⟨dirAttrs, rfl⟩ : ∃ dirAttrs, n = .dir dirAttrs := by
    obtain ⟨attrs', -, -, hnode⟩ := lookup_parent hmake hfilled howner h
    exact ⟨attrs', Option.some.inj (hn.symm.trans hnode)⟩
  refine ⟨t₁, dirAttrs, attrs, hfilled, ⟨hnOwned, howned⟩, ?_, ?_, fun loc hne hne' => ?_⟩
  · rw [ht', Function.update_of_ne (List.cons_ne_self _ _).symm, Function.update_self]
    rfl
  · rw [ht', Function.update_self]
  · rw [ht', Function.update_of_ne hne, Function.update_of_ne hne']

namespace Left

variable {t₁ : FileTree} {dirAttrs fileAttrs : Attrs}

theorem loads (hleft : Left base64 p absolute name dir key t t₁ t' dirAttrs fileAttrs)
    (hplain : ∀ bytes, ∀ c ∈ base64.encode bytes, isWhitespace c = false)
    (hkey : key.length = 32) (hmake : CanMake t (p.base absolute) dir)
    (h : Undisturbing p absolute name dir t) :
    loadPrivateKey base64 p ⟨absolute, name :: dir⟩ t' = .ok key := by
  have hopen : Open t' (p.base absolute) dir :=
    open_locked hmake hleft.filled hleft.owned.1 h.above hleft.parent
      fun c hc hne => hleft.other _ (suffix_append_ne hc) hne
  have hread : (⟨fileAttrs.owned, 0o600⟩ : Attrs).may .read := by
    rw [hleft.owned.2]
    decide
  obtain ⟨text, htext, hdecode⟩ := decode_keyLine hplain hkey
  unfold loadPrivateKey
  rw [read_file (lookup_open hopen hleft.file) hread]
  simp only [htext, hdecode]
  rfl

/-- The new directories are the parent and those above it that were missing. -/
theorem created (hleft : Left base64 p absolute name dir key t t₁ t' dirAttrs fileAttrs)
    (h : Undisturbing p absolute name dir t) {loc : Loc} {attrs : Attrs}
    (hnone : t.node loc = none) (hnode : t'.node loc = some (.dir attrs)) :
    attrs.mode = 0o700 := by
  by_cases hloc : loc = dir ++ p.base absolute
  · rw [hloc, hleft.parent] at hnode
    rw [← Node.dir.inj (Option.some.inj hnode)]
  · have hne : loc ≠ name :: (dir ++ p.base absolute) := by
      rintro rfl
      rw [hleft.file] at hnode
      cases hnode
    rw [hleft.other loc hne hloc] at hnode
    by_cases hway : ∃ c, c <:+ dir ∧ loc = c ++ p.base absolute
    · obtain ⟨c, hc, rfl⟩ := hway
      rw [hleft.filled.made c hc hnone] at hnode
      have htail : c <:+ dir.tail := suffix_tail hc fun heq => hloc (by rw [heq])
      rw [← Node.dir.inj (Option.some.inj hnode)]
      exact h.above (node_none_of_suffix htail hnone)
    · rw [hleft.filled.other loc fun c hc heq => hway ⟨c, hc, heq⟩, hnone] at hnode
      cases hnode

theorem kept (hleft : Left base64 p absolute name dir key t t₁ t' dirAttrs fileAttrs)
    (h : Undisturbing p absolute name dir t) {loc : Loc} {attrs : Attrs}
    (hnode : t.node loc = some (.dir attrs)) :
    ∃ attrs', t'.node loc = some (.dir attrs') ∧ attrs'.mode = attrs.mode := by
  have hne : loc ≠ name :: (dir ++ p.base absolute) := by
    rintro rfl
    obtain ⟨_, _, hfalse, -⟩ := h.file _ hnode
    cases hfalse
  by_cases hloc : loc = dir ++ p.base absolute
  · subst hloc
    exact ⟨_, hleft.parent, (h.locked attrs hnode).symm⟩
  · exact ⟨attrs, by rw [hleft.other loc hne hloc, hleft.filled.kept _ _ hnode], rfl⟩

end Left

theorem saved_of_undisturbing
    (hplain : ∀ bytes, ∀ c ∈ base64.encode bytes, isWhitespace c = false)
    (hkey : key.length = 32) (hmake : CanMake t (p.base absolute) dir)
    (howner : ∀ attrs, t.node (dir ++ p.base absolute) = some (.dir attrs) → attrs.owned)
    (h : Undisturbing p absolute name dir t) :
    KeySaved base64 p ⟨absolute, name :: dir⟩ key t := by
  obtain ⟨t', hok⟩ := savePrivateKey_undisturbing base64 key hmake howner h
  obtain ⟨t₁, dirAttrs, fileAttrs, hleft⟩ := left_of_ok hmake howner h hok
  constructor
  · rw [hok]
  · rw [hok]
    exact hleft.loads hplain hkey hmake h
  · rw [hok]
    exact ⟨_, _, hleft.file, rfl⟩
  · rw [hok]
    exact fun loc attrs => hleft.created h
  · rw [hok]
    exact fun loc attrs => hleft.kept h

/-- Where the directory of the path can be written to by its owner: the key is saved and nothing
    else disturbed exactly if the path is more than a name, the key file can be written if it is
    there, and the directory has the mode `0700` already or is the only one that is missing. -/
theorem keySaved_iff (hplain : ∀ bytes, ∀ c ∈ base64.encode bytes, isWhitespace c = false)
    (hkey : key.length = 32) (hmake : CanMake t (p.base absolute) dir)
    (howner : ∀ attrs, t.node (dir ++ p.base absolute) = some (.dir attrs) → attrs.owned) :
    KeySaved base64 p ⟨absolute, name :: dir⟩ key t ↔ Undisturbing p absolute name dir t :=
  ⟨undisturbing_of_saved hmake, saved_of_undisturbing hplain hkey hmake howner⟩

end

/-! ## Keys in three places -/

theorem isWhitespace_encodeSymbol (n : ℕ) : isWhitespace (Base64.encodeSymbol n) = false := by
  have hall : ∀ c ∈ '=' :: Base64.alphabet, isWhitespace c = false :=
    List.forall_iff_forall_mem.mp (by decide)
  refine hall _ ?_
  unfold Base64.encodeSymbol
  rw [List.getD_eq_getElem?_getD]
  cases hget : Base64.alphabet[n]? with
  | none => exact List.mem_cons_self
  | some c => exact List.mem_cons_of_mem _ (List.mem_of_getElem? hget)

theorem isWhitespace_standard (bytes : List UInt8) :
    ∀ c ∈ Base64.standard.encode bytes, isWhitespace c = false := by
  have hpad : isWhitespace '=' = false := by decide
  show ∀ c ∈ Base64.encodeBytes bytes, isWhitespace c = false
  induction bytes using Base64.encodeBytes.induct with
  | case1 => simp [Base64.encodeBytes]
  | case2 a => simp [Base64.encodeBytes, isWhitespace_encodeSymbol, hpad]
  | case3 a b => simp [Base64.encodeBytes, isWhitespace_encodeSymbol, hpad]
  | case4 a b c rest ih =>
    simp only [Base64.encodeBytes, List.forall_mem_cons, isWhitespace_encodeSymbol, true_and]
    exact ih

/-- A process in `/srv`, which it owns. -/
def homeProcess : Process := ⟨0o022, ["srv"]⟩

def homeNode (loc : Loc) : Option Node :=
  if loc = [] ∨ loc = ["srv"] then some (.dir ⟨true, 0o755⟩) else none

theorem home_closed (name : String) (dir : Loc) (h : (homeNode (name :: dir)).isSome) :
    (homeNode dir).any Node.isDir := by
  unfold homeNode at h
  split at h
  · rename_i hloc
    obtain ⟨-, rfl⟩ : name = "srv" ∧ dir = [] := by simpa using hloc
    rfl
  · cases h

def homeTree : FileTree := ⟨homeNode, rfl, home_closed⟩

def sevens : List UInt8 := List.replicate 32 7

theorem open_home : Open homeTree [] ["srv"] := by
  intro c hc
  rcases List.suffix_cons_iff.mp hc with rfl | hc
  · exact ⟨⟨true, 0o755⟩, rfl, rfl⟩
  · rw [List.suffix_nil.mp hc]
    exact ⟨⟨true, 0o755⟩, rfl, rfl⟩

/-- A missing directory is created for the key. -/
theorem keySaved_iff_missing :
    KeySaved .standard homeProcess ⟨true, ["identity.key", "ghostport", "srv"]⟩ sevens
      homeTree := by
  refine (keySaved_iff isWhitespace_standard (by decide)
    (.missing (.present open_home rfl rfl) rfl) (by rintro _ ⟨⟩)).mpr
    ⟨.inl rfl, by rintro _ ⟨⟩, by rintro _ ⟨⟩, by rintro ⟨⟩⟩

/-- Under a bare name nothing is saved. In `/srv` the key is saved, and others are locked out of
    the directory. -/
theorem bareName_refused :
    (savePrivateKey .standard homeProcess ⟨false, ["identity.key"]⟩ sevens homeTree).1 =
        .error .notFound ∧
      CanMake homeTree (homeProcess.base false) [] ∧
      ¬ KeySaved .standard homeProcess ⟨false, ["identity.key"]⟩ sevens homeTree ∧
      (savePrivateKey .standard homeProcess ⟨true, ["identity.key", "srv"]⟩ sevens homeTree).1 =
        .ok () ∧
      homeTree.node ["srv"] = some (.dir ⟨true, 0o755⟩) ∧
      (savePrivateKey .standard homeProcess ⟨true, ["identity.key", "srv"]⟩ sevens homeTree).2.node
        ["srv"] = some (.dir ⟨true, 0o700⟩) ∧
      ¬ KeySaved .standard homeProcess ⟨true, ["identity.key", "srv"]⟩ sevens homeTree := by
  have hrefused : (savePrivateKey .standard homeProcess ⟨false, ["identity.key"]⟩ sevens
      homeTree).1 = .error .notFound := rfl
  have hlocked : (savePrivateKey .standard homeProcess ⟨true, ["identity.key", "srv"]⟩ sevens
      homeTree).2.node ["srv"] = some (.dir ⟨true, 0o700⟩) := rfl
  have hbare : Open homeTree ["srv"] [] := by
    intro c hc
    rw [List.suffix_nil.mp hc]
    exact ⟨⟨true, 0o755⟩, rfl, rfl⟩
  refine ⟨hrefused, .present hbare rfl rfl, fun h => ?_, rfl, rfl, hlocked, fun h => ?_⟩
  · have hok := h.succeeds
    rw [hrefused] at hok
    cases hok
  · obtain ⟨attrs, hnode, hmode⟩ := h.kept ["srv"] ⟨true, 0o755⟩ rfl
    rw [hlocked] at hnode
    obtain rfl := Node.dir.inj (Option.some.inj hnode)
    revert hmode
    decide

end Ghostport.Core
