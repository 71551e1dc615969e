import Mathlib.Logic.Function.Basic
import Mathlib.Data.List.Infix

/-!
# A tree of files with permissions

Directories and files with modes, and the calls of a process that looks up paths in the tree,
creates what they name and changes modes. A location is the list of the names on the way to it,
the last one first.

* `FileTree`: the entries of a directory are entries of a directory.
* `walk_open`, `locate_open`: a path is found where the directories on the way can be searched.
* `createDirAll_node`: what `createDirAll` has created when it succeeds.
* `createDirAll_ok`: when it succeeds.
-/

namespace Ghostport.Lib

/-! ## Trees -/

abbrev Loc := List String

abbrev FileMode := BitVec 12

inductive Access where
  | read
  | write
  | search
  deriving DecidableEq, Repr

/-- Its bit for all others. That of the owner is six places higher. -/
def Access.bit : Access → ℕ
  | read => 2
  | write => 1
  | search => 0

structure Attrs where
  /-- The process owns it. -/
  owned : Bool
  mode : FileMode
  deriving DecidableEq, Repr

def Attrs.may (attrs : Attrs) (access : Access) : Bool :=
  attrs.mode.getLsbD (if attrs.owned then access.bit + 6 else access.bit)

inductive Node where
  | dir (attrs : Attrs)
  | file (attrs : Attrs) (content : List UInt8)
  deriving DecidableEq, Repr

namespace Node

def attrs : Node → Attrs
  | dir attrs | file attrs _ => attrs

def isDir : Node → Bool
  | dir _ => true
  | file _ _ => false

def chmod (mode : FileMode) : Node → Node
  | dir attrs => dir { attrs with mode := mode }
  | file attrs content => file { attrs with mode := mode } content

def truncate : Node → Node
  | dir attrs => dir attrs
  | file attrs _ => file attrs []

def append (bytes : List UInt8) : Node → Node
  | dir attrs => dir attrs
  | file attrs content => file attrs (content ++ bytes)

theorem isDir_iff {n : Node} : n.isDir ↔ ∃ attrs, n = dir attrs := by
  cases n <;> simp [isDir]

theorem isDir_chmod (mode : FileMode) (n : Node) : (n.chmod mode).isDir = n.isDir := by
  cases n <;> rfl

theorem isDir_truncate (n : Node) : n.truncate.isDir = n.isDir := by
  cases n <;> rfl

theorem isDir_append (bytes : List UInt8) (n : Node) : (n.append bytes).isDir = n.isDir := by
  cases n <;> rfl

end Node

structure FileTree where
  node : Loc → Option Node
  root : (node []).any Node.isDir
  closed : ∀ name dir, (node (name :: dir)).isSome → (node dir).any Node.isDir

namespace FileTree

/-- A change of one node that leaves it what it is. -/
def modify (t : FileTree) (loc : Loc) (f : Node → Node) (hf : ∀ n, (f n).isDir = n.isDir) :
    FileTree where
  node := Function.update t.node loc ((t.node loc).map f)
  root := by
    have hroot := t.root
    by_cases heq : [] = loc
    · subst heq
      rw [Function.update_self]
      cases hn : t.node [] with
      | none =>
        rw [hn] at hroot
        cases hroot
      | some n =>
        rw [hn] at hroot
        simpa [hf] using hroot
    · rwa [Function.update_of_ne heq]
  closed name dir hsome := by
    have hold : (t.node (name :: dir)).isSome := by
      by_cases heq : name :: dir = loc
      · rw [heq, Function.update_self, Option.isSome_map] at hsome
        rwa [heq]
      · rwa [Function.update_of_ne heq] at hsome
    have hdir := t.closed name dir hold
    by_cases heq : dir = loc
    · subst heq
      rw [Function.update_self]
      cases hn : t.node dir with
      | none =>
        rw [hn] at hdir
        cases hdir
      | some n =>
        rw [hn] at hdir
        simpa [hf] using hdir
    · rwa [Function.update_of_ne heq]

/-- A new entry of a directory. -/
def insert (t : FileTree) (name : String) (dir : Loc) (n : Node)
    (hdir : (t.node dir).any Node.isDir) (hnone : t.node (name :: dir) = none) : FileTree where
  node := Function.update t.node (name :: dir) (some n)
  root := by
    rw [Function.update_of_ne (List.cons_ne_nil _ _).symm]
    exact t.root
  closed name' dir' hsome := by
    have hne : dir' ≠ name :: dir ∨ t.node (name' :: dir') = none := by
      by_cases heq : dir' = name :: dir
      · refine .inr (Option.not_isSome_iff_eq_none.mp fun hchild => ?_)
        have hparent := t.closed name' dir' hchild
        rw [heq, hnone] at hparent
        cases hparent
      · exact .inl heq
    by_cases heq : name' :: dir' = name :: dir
    · obtain ⟨rfl, rfl⟩ := List.cons.inj heq
      rw [Function.update_of_ne ((List.cons_ne_self _ _).symm)]
      exact hdir
    · rw [Function.update_of_ne heq] at hsome
      rcases hne with hne | hchild
      · rw [Function.update_of_ne hne]
        exact t.closed name' dir' hsome
      · rw [hchild] at hsome
        cases hsome

/-! ## Calls -/

inductive Errno where
  | notFound
  | notDir
  | isDir
  | exists
  | accessDenied
  | notPermitted
  deriving DecidableEq, Repr

/-- Its text, as `std::io::Error` prints it. -/
def Errno.display : Errno → String
  | notFound => "No such file or directory (os error 2)"
  | notDir => "Not a directory (os error 20)"
  | isDir => "Is a directory (os error 21)"
  | .exists => "File exists (os error 17)"
  | accessDenied => "Permission denied (os error 13)"
  | notPermitted => "Operation not permitted (os error 1)"

end FileTree

structure Process where
  umask : FileMode
  cwd : Loc

structure Path where
  absolute : Bool
  comps : List String
  deriving DecidableEq, Repr

/-- The path without its last name. The root and the empty path have none. -/
def Path.parent (path : Path) : Option Path :=
  match path.comps with
  | [] => none
  | _ :: dir => some { path with comps := dir }

def Path.display (path : Path) : String :=
  (if path.absolute then "/" else "") ++ "/".intercalate path.comps.reverse

/-- Where paths begin. -/
def Process.base (p : Process) (absolute : Bool) : Loc := if absolute then [] else p.cwd

/-- The mode of what is created with `mode`. -/
def Process.masked (p : Process) (mode : FileMode) : FileMode := mode &&& ~~~p.umask

namespace FileTree

/-- What is found below `base`. -/
def walk (t : FileTree) (base : Loc) : List String → Except Errno Node
  | [] =>
    match t.node base with
    | some n => .ok n
    | none => .error .notFound
  | name :: dir =>
    match t.walk base dir with
    | .error e => .error e
    | .ok (.file _ _) => .error .notDir
    | .ok (.dir attrs) =>
      if attrs.may .search then
        match t.node (name :: (dir ++ base)) with
        | some n => .ok n
        | none => .error .notFound
      else .error .accessDenied

/-- The directory of an entry, and the entry if it is there. -/
def locate (t : FileTree) (base : Loc) (name : String) (dir : List String) :
    Except Errno (Attrs × Option Node) :=
  match t.walk base dir with
  | .error e => .error e
  | .ok (.file _ _) => .error .notDir
  | .ok (.dir attrs) =>
    if attrs.may .search then .ok (attrs, t.node (name :: (dir ++ base)))
    else .error .accessDenied

theorem node_of_walk {t : FileTree} {base : Loc} {comps : List String} {n : Node}
    (h : t.walk base comps = .ok n) : t.node (comps ++ base) = some n := by
  cases comps with
  | nil =>
    unfold walk at h
    split at h
    · rename_i hn
      cases h
      exact hn
    · cases h
  | cons name dir =>
    unfold walk at h
    split at h
    · cases h
    · cases h
    · split at h
      · split at h
        · rename_i hn
          cases h
          exact hn
        · cases h
      · cases h

theorem vacant_of_locate {t : FileTree} {base : Loc} {name : String} {dir : List String}
    {attrs : Attrs} (h : t.locate base name dir = .ok (attrs, none)) :
    (t.node (dir ++ base)).any Node.isDir ∧ t.node (name :: (dir ++ base)) = none := by
  unfold locate at h
  split at h
  · cases h
  · cases h
  · rename_i hwalk
    split at h
    · obtain ⟨-, hnone⟩ := Prod.mk.inj (Except.ok.inj h)
      rw [node_of_walk hwalk]
      exact ⟨rfl, hnone⟩
    · cases h

/-- The path as the kernel resolves it. -/
def lookup (p : Process) (path : Path) (t : FileTree) : Except Errno Node :=
  if ¬ path.absolute ∧ path.comps = [] then .error .notFound
  else t.walk (p.base path.absolute) path.comps

/-- `mkdir`, with the default mode. -/
def mkdir (p : Process) (path : Path) (t : FileTree) : Except Errno FileTree :=
  match path.comps with
  | [] => .error (if path.absolute then .exists else .notFound)
  | name :: dir =>
    match h : t.locate (p.base path.absolute) name dir with
    | .error e => .error e
    | .ok (_, some _) => .error .exists
    | .ok (attrs, none) =>
      if attrs.may .write then
        .ok (t.insert name (dir ++ p.base path.absolute) (.dir ⟨true, p.masked 0o777⟩)
          (vacant_of_locate h).1 (vacant_of_locate h).2)
      else .error .accessDenied

/-- `File::create`. -/
def create (p : Process) (path : Path) (t : FileTree) : Except Errno FileTree :=
  match path.comps with
  | [] => .error (if path.absolute then .isDir else .notFound)
  | name :: dir =>
    match h : t.locate (p.base path.absolute) name dir with
    | .error e => .error e
    | .ok (_, some (.dir _)) => .error .isDir
    | .ok (_, some (.file attrs _)) =>
      if attrs.may .write then
        .ok (t.modify (name :: (dir ++ p.base path.absolute)) Node.truncate Node.isDir_truncate)
      else .error .accessDenied
    | .ok (attrs, none) =>
      if attrs.may .write then
        .ok (t.insert name (dir ++ p.base path.absolute) (.file ⟨true, p.masked 0o666⟩ [])
          (vacant_of_locate h).1 (vacant_of_locate h).2)
      else .error .accessDenied

/-- A write to a file that is open. -/
def writeAll (p : Process) (path : Path) (bytes : List UInt8) (t : FileTree) : FileTree :=
  t.modify (path.comps ++ p.base path.absolute) (Node.append bytes) (Node.isDir_append bytes)

/-- `fs::set_permissions`. -/
def setPermissions (p : Process) (path : Path) (mode : FileMode) (t : FileTree) :
    Except Errno FileTree :=
  match t.lookup p path with
  | .error e => .error e
  | .ok n =>
    if n.attrs.owned then
      .ok (t.modify (path.comps ++ p.base path.absolute) (Node.chmod mode) (Node.isDir_chmod mode))
    else .error .notPermitted

/-- `Path::is_dir`. -/
def isDir (p : Process) (path : Path) (t : FileTree) : Bool :=
  match t.lookup p path with
  | .ok n => n.isDir
  | .error _ => false

/-- `fs::read`. -/
def read (p : Process) (path : Path) (t : FileTree) : Except Errno (List UInt8) :=
  match t.lookup p path with
  | .error e => .error e
  | .ok n =>
    if n.attrs.may .read then
      match n with
      | .dir _ => .error .isDir
      | .file _ content => .ok content
    else .error .accessDenied

/-- `fs::create_dir_all`. -/
def createDirAll (p : Process) (absolute : Bool) :
    List String → FileTree → Except Errno Unit × FileTree
  -- nothing is created for the empty path, and the root is a directory
  | [], t => (.ok (), t)
  | name :: dir, t =>
    match t.mkdir p ⟨absolute, name :: dir⟩ with
    | .ok t => (.ok (), t)
    | .error .notFound =>
      match createDirAll p absolute dir t with
      | (.error e, t) => (.error e, t)
      | (.ok (), t) =>
        match t.mkdir p ⟨absolute, name :: dir⟩ with
        | .ok t => (.ok (), t)
        | .error e => if t.isDir p ⟨absolute, name :: dir⟩ then (.ok (), t) else (.error e, t)
    | .error e => if t.isDir p ⟨absolute, name :: dir⟩ then (.ok (), t) else (.error e, t)

/-! ## What the calls do -/

section

variable {p : Process} {t t' : FileTree} {base : Loc} {name : String} {dir comps : List String}
  {attrs : Attrs} {n : Node} {absolute : Bool} {path : Path} {mode : FileMode}

/-- The directories on the way from `base` are there, and can be searched. -/
def Open (t : FileTree) (base : Loc) (comps : List String) : Prop :=
  ∀ c, c <:+ comps → ∃ attrs, t.node (c ++ base) = some (.dir attrs) ∧ attrs.may .search

theorem Open.tail (h : Open t base (name :: dir)) : Open t base dir :=
  fun c hc => h c (hc.trans (List.suffix_cons _ _))

theorem walk_open (h : Open t base comps) : ∃ attrs, t.walk base comps = .ok (.dir attrs) ∧
    t.node (comps ++ base) = some (.dir attrs) ∧ attrs.may .search := by
  induction comps with
  | nil =>
    obtain ⟨attrs, hnode, hsearch⟩ := h [] List.suffix_rfl
    rw [List.nil_append] at hnode
    exact ⟨attrs, by simp only [walk, hnode], hnode, hsearch⟩
  | cons name dir ih =>
    obtain ⟨attrs, hnode, hsearch⟩ := h (name :: dir) List.suffix_rfl
    obtain ⟨parent, hwalk, -, hparent⟩ := ih h.tail
    have hnode' : t.node (name :: (dir ++ base)) = some (.dir attrs) := hnode
    exact ⟨attrs, by simp only [walk, hwalk, hparent, if_true, hnode'], hnode, hsearch⟩

theorem locate_open (h : Open t base dir) (name : String) : ∃ attrs,
    t.locate base name dir = .ok (attrs, t.node (name :: (dir ++ base))) ∧
      t.node (dir ++ base) = some (.dir attrs) := by
  obtain ⟨attrs, hwalk, hnode, hsearch⟩ := walk_open h
  exact ⟨attrs, by simp only [locate, hwalk, hsearch, if_true], hnode⟩

theorem locate_dir (h : Open t base dir) (hdir : t.node (dir ++ base) = some (.dir attrs))
    (name : String) : t.locate base name dir = .ok (attrs, t.node (name :: (dir ++ base))) := by
  obtain ⟨attrs', hlocate, hdir'⟩ := locate_open h name
  rw [hdir] at hdir'
  obtain rfl := Node.dir.inj (Option.some.inj hdir')
  exact hlocate

theorem lookup_open (h : Open t (p.base absolute) dir)
    (hn : t.node (name :: (dir ++ p.base absolute)) = some n) :
    t.lookup p ⟨absolute, name :: dir⟩ = .ok n := by
  obtain ⟨attrs, hwalk, -, hsearch⟩ := walk_open h
  simp [lookup, walk, hwalk, hsearch, hn]

theorem lookup_root (t : FileTree) (p : Process) : ∃ attrs,
    t.lookup p ⟨true, []⟩ = .ok (.dir attrs) ∧ t.node [] = some (.dir attrs) := by
  have hroot := t.root
  cases hn : t.node [] with
  | none =>
    rw [hn] at hroot
    cases hroot
  | some n =>
    rw [hn] at hroot
    obtain ⟨attrs, rfl⟩ := Node.isDir_iff.mp (by simpa using hroot)
    exact ⟨attrs, by simp [lookup, walk, Process.base, hn], rfl⟩

theorem node_of_lookup (h : t.lookup p path = .ok n) :
    t.node (path.comps ++ p.base path.absolute) = some n := by
  unfold lookup at h
  split at h
  · cases h
  · exact node_of_walk h

/-- Below a missing directory nothing is found. -/
theorem walk_below (h : t.walk base dir = .error .notFound) :
    t.walk base (name :: dir) = .error .notFound := by
  simp only [walk, h]

theorem walk_missing (h : Open t base dir) (hnone : t.node (name :: (dir ++ base)) = none) :
    t.walk base (name :: dir) = .error .notFound := by
  obtain ⟨attrs, hwalk, -, hsearch⟩ := walk_open h
  simp only [walk, hwalk, hsearch, if_true, hnone]

/-- An entry of the last directory does not matter on the way to it. -/
theorem Open.entry {x : Option Node} (h : Open t base dir)
    (hnode : t'.node = Function.update t.node (name :: (dir ++ base)) x) : Open t' base dir := by
  intro c hc
  have hne : c ++ base ≠ name :: (dir ++ base) := by
    intro heq
    have hlen := congrArg List.length heq
    have hle := hc.length_le
    simp only [List.length_append, List.length_cons] at hlen
    omega
  rw [hnode, Function.update_of_ne hne]
  exact h c hc

/-! ### `mkdir` -/

/-- A directory that the process creates. -/
def newDir (p : Process) : Node := .dir ⟨true, p.masked 0o777⟩

theorem node_of_mkdir (h : t.mkdir p ⟨absolute, name :: dir⟩ = .ok t') :
    t'.node = Function.update t.node (name :: (dir ++ p.base absolute)) (some (newDir p)) := by
  unfold mkdir at h
  simp only at h
  split at h
  · cases h
  · cases h
  · split at h
    · cases h
      rfl
    · cases h

theorem mkdir_vacant (hopen : Open t (p.base absolute) dir)
    (hdir : t.node (dir ++ p.base absolute) = some (.dir attrs)) (hwrite : attrs.may .write)
    (hnone : t.node (name :: (dir ++ p.base absolute)) = none) :
    ∃ t', t.mkdir p ⟨absolute, name :: dir⟩ = .ok t' := by
  have hlocate := locate_dir hopen hdir name
  rw [hnone] at hlocate
  unfold mkdir
  simp only
  split
  · rename_i hl
    rw [hlocate] at hl
    cases hl
  · rename_i hl
    rw [hlocate] at hl
    cases hl
  · rename_i attrs'' hl
    obtain ⟨rfl, -⟩ := Prod.mk.inj (Except.ok.inj (hlocate.symm.trans hl))
    rw [if_pos hwrite]
    exact ⟨_, rfl⟩

theorem mkdir_taken (hopen : Open t (p.base absolute) dir)
    (hsome : t.node (name :: (dir ++ p.base absolute)) = some n) :
    t.mkdir p ⟨absolute, name :: dir⟩ = .error .exists := by
  obtain ⟨attrs, hlocate, -⟩ := locate_open hopen name
  rw [hsome] at hlocate
  unfold mkdir
  simp only
  split
  · rename_i hl
    rw [hlocate] at hl
    cases hl
  · rfl
  · rename_i hl
    rw [hlocate] at hl
    cases hl

theorem mkdir_below (hmissing : t.walk (p.base absolute) dir = .error .notFound) :
    t.mkdir p ⟨absolute, name :: dir⟩ = .error .notFound := by
  have hlocate : t.locate (p.base absolute) name dir = .error .notFound := by
    simp only [locate, hmissing]
  unfold mkdir
  simp only
  split
  · rename_i hl
    rw [hlocate] at hl
    cases hl
    rfl
  · rename_i hl
    rw [hlocate] at hl
    cases hl
  · rename_i hl
    rw [hlocate] at hl
    cases hl

/-! ### `create_dir_all` -/

/-- The directory is there and can be written to, or it is missing, and with it those above it up
    to one that can be written to. -/
inductive CanMake (t : FileTree) (base : Loc) : List String → Prop
  | present {comps : List String} {attrs : Attrs} : Open t base comps →
    t.node (comps ++ base) = some (.dir attrs) → attrs.may .write → CanMake t base comps
  | missing {name : String} {dir : List String} : CanMake t base dir →
    t.node (name :: (dir ++ base)) = none → CanMake t base (name :: dir)

theorem CanMake.open_of_some (h : CanMake t base comps) (hn : t.node (comps ++ base) = some n) :
    Open t base comps ∧ ∃ attrs, n = .dir attrs ∧ attrs.may .write := by
  cases h with
  | present hopen hdir hwrite =>
    rw [hn] at hdir
    exact ⟨hopen, _, Option.some.inj hdir, hwrite⟩
  | missing _ hnone =>
    rw [List.cons_append, hnone] at hn
    cases hn

/-- The directories on the way that are there. -/
theorem CanMake.suffix (h : CanMake t base comps) {c : List String} (hc : c <:+ comps)
    (hn : t.node (c ++ base) = some n) : ∃ attrs, n = .dir attrs ∧ attrs.may .search := by
  induction h with
  | present hopen _ _ =>
    obtain ⟨attrs, hnode, hsearch⟩ := hopen c hc
    rw [hn] at hnode
    exact ⟨attrs, Option.some.inj hnode, hsearch⟩
  | missing _ hnone ih =>
    rcases List.suffix_cons_iff.mp hc with rfl | hc
    · rw [List.cons_append, hnone] at hn
      cases hn
    · exact ih hc

theorem CanMake.walk_missing (h : CanMake t base comps) (hnone : t.node (comps ++ base) = none) :
    t.walk base comps = .error .notFound := by
  induction h with
  | present _ hdir _ =>
    rw [hnone] at hdir
    cases hdir
  | @missing name dir hmake hmissing ih =>
    cases hn : t.node (dir ++ base) with
    | none => exact walk_below (ih hn)
    | some n => exact FileTree.walk_missing (hmake.open_of_some hn).1 hmissing

/-- The missing directories of the path have been created, and nothing else. -/
structure Filled (p : Process) (t : FileTree) (base : Loc) (comps : List String) (t' : FileTree) :
    Prop where
  made : ∀ c, c <:+ comps → t.node (c ++ base) = none → t'.node (c ++ base) = some (newDir p)
  kept : ∀ loc n, t.node loc = some n → t'.node loc = some n
  other : ∀ loc, (∀ c, c <:+ comps → loc ≠ c ++ base) → t'.node loc = t.node loc

theorem Filled.refl (h : Open t base comps) : Filled p t base comps t := by
  refine ⟨fun c hc hnone => ?_, fun _ _ hn => hn, fun _ _ => rfl⟩
  obtain ⟨attrs, hnode, -⟩ := h c hc
  rw [hnone] at hnode
  cases hnode

theorem suffix_append_ne {c : List String} (hc : c <:+ dir) :
    c ++ base ≠ name :: (dir ++ base) := by
  intro heq
  have hlen := congrArg List.length heq
  have hle := hc.length_le
  simp only [List.length_append, List.length_cons] at hlen
  omega

theorem Filled.cons {t₁ : FileTree} (h : Filled p t base dir t₁)
    (hnone : t.node (name :: (dir ++ base)) = none)
    (hnode : t'.node = Function.update t₁.node (name :: (dir ++ base)) (some (newDir p))) :
    Filled p t base (name :: dir) t' := by
  constructor
  · intro c hc hmissing
    rcases List.suffix_cons_iff.mp hc with rfl | hc
    · rw [hnode, List.cons_append, Function.update_self]
    · rw [hnode, Function.update_of_ne (suffix_append_ne hc), h.made c hc hmissing]
  · intro loc n hn
    have hne : loc ≠ name :: (dir ++ base) := by
      rintro rfl
      rw [hnone] at hn
      cases hn
    rw [hnode, Function.update_of_ne hne, h.kept loc n hn]
  · intro loc hloc
    have hne : loc ≠ name :: (dir ++ base) := hloc _ List.suffix_rfl
    rw [hnode, Function.update_of_ne hne]
    exact h.other loc fun c hc => hloc c (hc.trans (List.suffix_cons _ _))

/-- The entry below the directories that have been created. -/
theorem Filled.entry (h : Filled p t base dir t') :
    t'.node (name :: (dir ++ base)) = t.node (name :: (dir ++ base)) :=
  h.other _ fun _ hc => (suffix_append_ne hc).symm

/-- Nothing is below what is not there. -/
theorem node_none_of_suffix {c d : List String} (hd : d <:+ c) (hnone : t.node (d ++ base) = none) :
    t.node (c ++ base) = none := by
  induction c with
  | nil =>
    rw [List.suffix_nil.mp hd] at hnone
    exact hnone
  | cons name c ih =>
    rcases List.suffix_cons_iff.mp hd with rfl | hd
    · exact hnone
    · refine Option.not_isSome_iff_eq_none.mp fun hsome => ?_
      have hdir := t.closed name (c ++ base) hsome
      rw [ih hd] at hdir
      cases hdir

/-- The way is open where what is created can be searched. -/
theorem Filled.open (h : Filled p t base comps t') (hmake : CanMake t base comps)
    {c : List String} (hc : c <:+ comps)
    (hsearch : t.node (c ++ base) = none → (newDir p).attrs.may .search) : Open t' base c := by
  intro d hd
  cases hn : t.node (d ++ base) with
  | none =>
    exact ⟨_, h.made d (hd.trans hc) hn, hsearch (node_none_of_suffix hd hn)⟩
  | some n =>
    obtain ⟨attrs, rfl, hmay⟩ := hmake.suffix (hd.trans hc) hn
    exact ⟨attrs, h.kept _ _ hn, hmay⟩

theorem lookup_of_open (h : Open t (p.base absolute) (name :: dir)) : ∃ attrs,
    t.lookup p ⟨absolute, name :: dir⟩ = .ok (.dir attrs) ∧
      t.node (name :: (dir ++ p.base absolute)) = some (.dir attrs) := by
  obtain ⟨attrs, hnode, -⟩ := h (name :: dir) List.suffix_rfl
  exact ⟨attrs, lookup_open h.tail hnode, hnode⟩

theorem isDir_false (hnone : t.node (name :: (dir ++ p.base absolute)) = none) :
    t.isDir p ⟨absolute, name :: dir⟩ = false := by
  unfold isDir
  split
  · rename_i n hn
    have hnode : t.node (name :: (dir ++ p.base absolute)) = some n := node_of_lookup hn
    rw [hnone] at hnode
    cases hnode
  · rfl

theorem createDirAll_present (h : Open t (p.base absolute) comps) :
    createDirAll p absolute comps t = (.ok (), t) := by
  cases comps with
  | nil => rfl
  | cons name dir =>
    obtain ⟨attrs, hlookup, hnode⟩ := lookup_of_open h
    have hisDir : t.isDir p ⟨absolute, name :: dir⟩ = true := by
      simp only [isDir, hlookup, Node.isDir]
    simp only [createDirAll, mkdir_taken h.tail hnode, hisDir, if_true]

theorem createDirAll_vacant {t₁ : FileTree} (h : t.mkdir p ⟨absolute, name :: dir⟩ = .ok t₁) :
    createDirAll p absolute (name :: dir) t = (.ok (), t₁) := by
  simp only [createDirAll, h]

/-- What has been created when it succeeds. -/
theorem createDirAll_filled (h : CanMake t (p.base absolute) comps)
    (hok : createDirAll p absolute comps t = (.ok (), t')) :
    Filled p t (p.base absolute) comps t' := by
  induction h generalizing t' with
  | present hopen _ _ =>
    rw [createDirAll_present hopen] at hok
    obtain ⟨-, rfl⟩ := Prod.mk.inj hok
    exact .refl hopen
  | @missing name dir hmake hnone ih =>
    cases hn : t.node (dir ++ p.base absolute) with
    | some n =>
      obtain ⟨hopen, attrs, rfl, hwrite⟩ := hmake.open_of_some hn
      obtain ⟨t₁, hmkdir⟩ := mkdir_vacant hopen hn hwrite hnone
      rw [createDirAll_vacant hmkdir] at hok
      obtain ⟨-, rfl⟩ := Prod.mk.inj hok
      exact (Filled.refl hopen).cons hnone (node_of_mkdir hmkdir)
    | none =>
      simp only [createDirAll, mkdir_below (hmake.walk_missing hn)] at hok
      split at hok
      · cases hok
      · rename_i t₁ hparent
        have hfilled := ih hparent
        split at hok
        · rename_i t₂ hmkdir
          obtain ⟨-, rfl⟩ := Prod.mk.inj hok
          exact hfilled.cons hnone (node_of_mkdir hmkdir)
        · rw [isDir_false (hfilled.entry.trans hnone)] at hok
          cases hok

/-- It succeeds, unless it would have to create a directory in one that it has created and cannot
    enter or write to. -/
theorem createDirAll_ok (h : CanMake t (p.base absolute) comps)
    (hmode : t.node (comps.tail ++ p.base absolute) = none →
      (newDir p).attrs.may .write ∧ (newDir p).attrs.may .search) :
    ∃ t', createDirAll p absolute comps t = (.ok (), t') := by
  induction h with
  | present hopen _ _ => exact ⟨t, createDirAll_present hopen⟩
  | @missing name dir hmake hnone ih =>
    cases hn : t.node (dir ++ p.base absolute) with
    | some n =>
      obtain ⟨hopen, attrs, rfl, hwrite⟩ := hmake.open_of_some hn
      obtain ⟨t₁, hmkdir⟩ := mkdir_vacant hopen hn hwrite hnone
      exact ⟨t₁, createDirAll_vacant hmkdir⟩
    | none =>
      obtain ⟨hwrite, hsearch⟩ := hmode hn
      obtain ⟨t₁, hparent⟩ := ih fun _ => ⟨hwrite, hsearch⟩
      have hfilled := createDirAll_filled hmake hparent
      have hmade := hfilled.open hmake List.suffix_rfl fun _ => hsearch
      obtain ⟨t₂, hmkdir⟩ : ∃ t₂, t₁.mkdir p ⟨absolute, name :: dir⟩ = .ok t₂ :=
        mkdir_vacant hmade (hfilled.made dir List.suffix_rfl hn) hwrite
          (hfilled.entry.trans hnone)
      refine ⟨t₂, ?_⟩
      simp only [createDirAll, mkdir_below (hmake.walk_missing hn), hparent, hmkdir]

/-! ### Files -/

theorem setPermissions_ok (h : t.setPermissions p path mode = .ok t') :
    ∃ n, t.node (path.comps ++ p.base path.absolute) = some n ∧ n.attrs.owned ∧
      t'.node = Function.update t.node (path.comps ++ p.base path.absolute)
        (some (n.chmod mode)) := by
  unfold setPermissions at h
  split at h
  · cases h
  · rename_i n hn
    have hnode := node_of_lookup hn
    split at h
    · rename_i howned
      cases h
      refine ⟨n, hnode, howned, ?_⟩
      show Function.update t.node _ _ = _
      rw [hnode, Option.map_some]
    · cases h

theorem setPermissions_owned (h : t.lookup p path = .ok n) (howned : n.attrs.owned) :
    ∃ t', t.setPermissions p path mode = .ok t' := by
  unfold setPermissions
  rw [h]
  simp only [howned, if_true]
  exact ⟨_, rfl⟩

/-- A file that is truncated or created. -/
theorem create_ok (h : t.create p ⟨absolute, name :: dir⟩ = .ok t') : ∃ attrs,
    ((∃ content, t.node (name :: (dir ++ p.base absolute)) = some (.file attrs content) ∧
        attrs.may .write) ∨
      t.node (name :: (dir ++ p.base absolute)) = none ∧ attrs = ⟨true, p.masked 0o666⟩) ∧
    t'.node = Function.update t.node (name :: (dir ++ p.base absolute))
      (some (.file attrs [])) := by
  have hnode : ∀ {attrs : Attrs} {n : Option Node},
      t.locate (p.base absolute) name dir = .ok (attrs, n) →
        t.node (name :: (dir ++ p.base absolute)) = n := by
    intro attrs n hlocate
    unfold locate at hlocate
    split at hlocate
    · cases hlocate
    · cases hlocate
    · split at hlocate
      · exact (Prod.mk.inj (Except.ok.inj hlocate)).2
      · cases hlocate
  unfold create at h
  simp only at h
  split at h
  · cases h
  · cases h
  · rename_i attrs content hlocate
    split at h
    · rename_i hwrite
      cases h
      refine ⟨attrs, .inl ⟨content, hnode hlocate, hwrite⟩, ?_⟩
      show Function.update t.node _ _ = _
      rw [hnode hlocate]
      rfl
    · cases h
  · rename_i hlocate
    split at h
    · cases h
      exact ⟨_, .inr ⟨hnode hlocate, rfl⟩, rfl⟩
    · cases h

theorem create_open (hopen : Open t (p.base absolute) dir)
    (hdir : t.node (dir ++ p.base absolute) = some (.dir attrs)) (hwrite : attrs.may .write)
    (hfile : ∀ n, t.node (name :: (dir ++ p.base absolute)) = some n →
      ∃ attrs content, n = .file attrs content ∧ attrs.may .write) :
    ∃ t', t.create p ⟨absolute, name :: dir⟩ = .ok t' := by
  have hlocate := locate_dir hopen hdir name
  unfold create
  simp only
  split
  · rename_i hl
    rw [hlocate] at hl
    cases hl
  · rename_i hl
    obtain ⟨-, hn⟩ := Prod.mk.inj (Except.ok.inj (hlocate.symm.trans hl))
    obtain ⟨_, _, hfalse, -⟩ := hfile _ hn
    cases hfalse
  · rename_i hl
    obtain ⟨-, hn⟩ := Prod.mk.inj (Except.ok.inj (hlocate.symm.trans hl))
    obtain ⟨_, _, heq, hmay⟩ := hfile _ hn
    cases heq
    rw [if_pos hmay]
    exact ⟨_, rfl⟩
  · rename_i hl
    obtain ⟨rfl, -⟩ := Prod.mk.inj (Except.ok.inj (hlocate.symm.trans hl))
    rw [if_pos hwrite]
    exact ⟨_, rfl⟩

theorem node_writeAll {bytes : List UInt8}
    (hn : t.node (path.comps ++ p.base path.absolute) = some n) :
    (t.writeAll p path bytes).node =
      Function.update t.node (path.comps ++ p.base path.absolute) (some (n.append bytes)) := by
  show Function.update t.node _ _ = _
  rw [hn, Option.map_some]

theorem read_file {content : List UInt8} (h : t.lookup p path = .ok (.file attrs content))
    (hread : attrs.may .read) : t.read p path = .ok content := by
  unfold read
  rw [h]
  exact if_pos hread

/-! ### Changes off the way -/

/-- The directories on the way to what is found. -/
theorem open_of_walk (h : t.walk base (name :: dir) = .ok n) : Open t base dir := by
  induction dir generalizing name n with
  | nil =>
    intro c hc
    rw [List.suffix_nil.mp hc]
    unfold walk at h
    split at h
    · cases h
    · cases h
    · rename_i attrs hwalk
      split at h
      · rename_i hsearch
        exact ⟨attrs, node_of_walk hwalk, hsearch⟩
      · cases h
  | cons name' dir ih =>
    unfold walk at h
    split at h
    · cases h
    · cases h
    · rename_i attrs hwalk
      split at h
      · rename_i hsearch
        intro c hc
        rcases List.suffix_cons_iff.mp hc with rfl | hc
        · exact ⟨attrs, node_of_walk hwalk, hsearch⟩
        · exact ih hwalk c hc
      · cases h

theorem open_of_lookup (h : t.lookup p ⟨absolute, name :: dir⟩ = .ok n) :
    Open t (p.base absolute) dir := by
  unfold lookup at h
  rw [if_neg (by simp)] at h
  exact open_of_walk h

theorem setPermissions_lookup (h : t.setPermissions p path mode = .ok t') :
    ∃ n, t.lookup p path = .ok n := by
  unfold setPermissions at h
  split at h
  · cases h
  · rename_i n hn
    exact ⟨n, hn⟩

end

end FileTree

end Ghostport.Lib
