import Mathlib.Data.List.DropRight
import Mathlib.Data.List.TakeDrop
import Mathlib.Data.Nat.Digits.Defs

/-!
# HTTP/1.1 responses

A client reads a response from the bytes that have come so far: a status line, fields, an empty
line and a body whose length a `Content-Length` gives. Bodies that end in another way are not
read here.

Results:
* `read_append`: what has been read stays read when more bytes come.
* `read_text`: a response is read from its text, with nothing of what follows.
* `read_cut`: no response is read from a part of its text.
-/

namespace Ghostport.Lib.Http

structure Response where
  status : ℕ
  reason : List Char
  fields : List (List Char × List Char)
  body : List UInt8
  deriving DecidableEq, Repr

/-! ## Reading -/

def cr : UInt8 := 0x0d

def lf : UInt8 := 0x0a

/-- The lines up to the first empty one, and the bytes after it; `acc` is what has been read of
    the first, backwards. -/
def readHead : List UInt8 → List UInt8 → Option (List (List UInt8) × List UInt8)
  | _, [] => none
  | _, [_] => none
  | acc, a :: b :: s =>
    if a = cr ∧ b = lf then
      if acc = [] then some ([], s) else (readHead [] s).map fun p => (acc.reverse :: p.1, p.2)
    else readHead (a :: acc) (b :: s)

/-- The bytes of a head stand for characters. -/
def latin (line : List UInt8) : List Char := line.map fun b => Char.ofNat b.toNat

def isBlank (c : Char) : Bool := c = ' ' || c = '\t'

/-- What may stand in a reason and in the value of a field. -/
def isText (c : Char) : Bool := c = '\t' || (0x20 ≤ c.toNat && c.toNat ≠ 0x7f)

/-- What may stand in the name of a field. -/
def isToken (c : Char) : Bool := c.isAlphanum || "!#$%&'*+-.^_`|~".toList.contains c

def version : List Char := "HTTP/1.1 ".toList

/-- The status and the reason. -/
def readStatus (line : List Char) : Option (ℕ × List Char) :=
  if version.isPrefixOf line then
    match (line.drop version.length).span (· ≠ ' ') with
    | (code, ' ' :: reason) =>
      if code.length = 3 ∧ code.all Char.isDigit ∧ reason.all isText then
        some (Nat.ofDigitChars 10 code 0, reason)
      else none
    | _ => none
  else none

def trimBlanks (s : List Char) : List Char := (s.dropWhile isBlank).rdropWhile isBlank

def readField (line : List Char) : Option (List Char × List Char) :=
  match line.span (· ≠ ':') with
  | (name, ':' :: value) =>
    if name ≠ [] ∧ name.all isToken ∧ value.all isText then some (name, trimBlanks value) else none
  | _ => none

/-- The values of the fields of this name, which is in lower case. -/
def valuesOf (name : List Char) (fields : List (List Char × List Char)) : List (List Char) :=
  fields.filterMap fun f => if f.1.map Char.toLower = name then some f.2 else none

/-- The length of the body, if one field gives it. -/
def contentLength (fields : List (List Char × List Char)) : Option ℕ :=
  match valuesOf "content-length".toList fields with
  | [value] =>
    if value ≠ [] ∧ value.all Char.isDigit then some (Nat.ofDigitChars 10 value 0) else none
  | _ => none

/-- What a client makes of the bytes that have come. -/
inductive Read where
  | more
  | invalid
  | done (response : Response) (rest : List UInt8)
  deriving DecidableEq, Repr

/-- The body, behind a head with this status line and these fields. -/
def readBody (status : ℕ) (reason : List Char) (fields : List (List Char × List Char))
    (s : List UInt8) : Read :=
  match contentLength fields with
  | none => .invalid
  | some n =>
    if n ≤ s.length then .done ⟨status, reason, fields, s.take n⟩ (s.drop n) else .more

/-- What stands behind the lines of a head. -/
def readMessage (lines : List (List UInt8)) (s : List UInt8) : Read :=
  match lines with
  | [] => .invalid
  | first :: lines =>
    match readStatus (latin first), lines.mapM fun l => readField (latin l) with
    | some (status, reason), some fields => readBody status reason fields s
    | _, _ => .invalid

def read (s : List UInt8) : Read :=
  match readHead [] s with
  | none => .more
  | some (lines, rest) => readMessage lines rest

theorem valuesOf_cons_of_ne {name : List Char} {f : List Char × List Char}
    (h : f.1.map Char.toLower ≠ name) (fields : List (List Char × List Char)) :
    valuesOf name (f :: fields) = valuesOf name fields :=
  List.filterMap_cons_none (if_neg h)

theorem valuesOf_cons_of_eq {name : List Char} {f : List Char × List Char}
    (h : f.1.map Char.toLower = name) (fields : List (List Char × List Char)) :
    valuesOf name (f :: fields) = f.2 :: valuesOf name fields :=
  List.filterMap_cons_some (if_pos h)

/-! ## More bytes -/

theorem readHead_append {acc s : List UInt8} {p : List (List UInt8) × List UInt8}
    (h : readHead acc s = some p) (t : List UInt8) :
    readHead acc (s ++ t) = some (p.1, p.2 ++ t) := by
  fun_induction readHead acc s generalizing p with
  | case1 => cases h
  | case2 => cases h
  | case3 a b s hend =>
    cases h
    rw [List.cons_append, List.cons_append, readHead, if_pos hend, if_pos rfl]
  | case4 acc a b s hend hacc ih =>
    obtain ⟨q, hq, rfl⟩ := Option.map_eq_some_iff.mp h
    rw [List.cons_append, List.cons_append, readHead, if_pos hend, if_neg hacc, ih hq]
    rfl
  | case5 acc a b s hend ih =>
    rw [List.cons_append, List.cons_append, readHead, if_neg hend]
    exact ih h

/-- What more bytes make of a result. -/
def Read.append : Read → List UInt8 → Read
  | .more, _ => .more
  | .invalid, _ => .invalid
  | .done response rest, t => .done response (rest ++ t)

theorem readBody_append {status : ℕ} {reason : List Char} {fields : List (List Char × List Char)}
    {s : List UInt8} (h : readBody status reason fields s ≠ .more) (t : List UInt8) :
    readBody status reason fields (s ++ t) = (readBody status reason fields s).append t := by
  unfold readBody at h ⊢
  split
  · rfl
  · rename_i n hlength
    simp only [hlength] at h
    by_cases hle : n ≤ s.length
    · have hle' : n ≤ (s ++ t).length := by
        rw [List.length_append]
        omega
      rw [if_pos hle, if_pos hle', List.take_append_of_le_length hle,
        List.drop_append_of_le_length hle]
      rfl
    · exact absurd (if_neg hle) h

theorem readMessage_append {lines : List (List UInt8)} {s : List UInt8}
    (h : readMessage lines s ≠ .more) (t : List UInt8) :
    readMessage lines (s ++ t) = (readMessage lines s).append t := by
  cases lines with
  | nil => rfl
  | cons first lines =>
    unfold readMessage at h ⊢
    simp only at h ⊢
    split
    · rename_i hstatus hfields
      rw [hstatus, hfields] at h
      exact readBody_append h t
    · rfl

theorem read_append {s : List UInt8} (h : read s ≠ .more) (t : List UInt8) :
    read (s ++ t) = (read s).append t := by
  unfold read at h ⊢
  cases hhead : readHead [] s with
  | none => simp [hhead] at h
  | some p =>
    rw [hhead] at h
    rw [readHead_append hhead]
    exact readMessage_append h t

/-! ## Writing -/

def bytes (line : List Char) : List UInt8 := line.map fun c => c.toNat.toUInt8

def statusLine (status : ℕ) (reason : List Char) : List Char :=
  version ++ (Nat.toDigits 10 status ++ ' ' :: reason)

def fieldLine (f : List Char × List Char) : List Char := f.1 ++ ':' :: ' ' :: f.2

def Response.lines (r : Response) : List (List Char) :=
  statusLine r.status r.reason :: r.fields.map fieldLine

def Response.text (r : Response) : List UInt8 :=
  r.lines.flatMap (fun l => bytes l ++ [cr, lf]) ++ [cr, lf] ++ r.body

theorem trimBlanks_of_forall {s : List Char} (h : ∀ c ∈ s, isBlank c = false) :
    trimBlanks s = s := by
  have hfront : s.dropWhile isBlank = s := by
    cases s with
    | nil => rfl
    | cons c s => exact List.dropWhile_cons_of_neg (by simp [h c List.mem_cons_self])
  rw [trimBlanks, hfront, List.rdropWhile_eq_self_iff]
  intro hne
  simp [h _ (List.getLast_mem hne)]

/-- What a client can read of a response: three digits of status, characters of one byte, names
    and values as the format has them, and one length that is the length of the body. -/
structure Response.WellFormed (r : Response) : Prop where
  status : (Nat.toDigits 10 r.status).length = 3
  reason : ∀ c ∈ r.reason, isText c ∧ c.toNat < 256
  names : ∀ f ∈ r.fields, f.1 ≠ [] ∧ ∀ c ∈ f.1, isToken c
  values : ∀ f ∈ r.fields, (∀ c ∈ f.2, isText c ∧ c.toNat < 256) ∧ trimBlanks f.2 = f.2
  length : contentLength r.fields = some r.body.length

/-- A line that is not the end of a head. -/
def IsLine (l : List UInt8) : Prop := l ≠ [] ∧ cr ∉ l

theorem readHead_cons {acc s : List UInt8} {a : UInt8} (ha : a ≠ cr) (hs : s ≠ []) :
    readHead acc (a :: s) = readHead (a :: acc) s := by
  obtain ⟨b, s, rfl⟩ := List.exists_cons_of_ne_nil hs
  rw [readHead, if_neg fun hend => ha hend.1]

theorem readHead_end {acc : List UInt8} (hacc : acc ≠ []) (s : List UInt8) :
    readHead acc (cr :: lf :: s) = (readHead [] s).map fun p => (acc.reverse :: p.1, p.2) := by
  rw [readHead, if_pos ⟨rfl, rfl⟩, if_neg hacc]

theorem readHead_line {acc l : List UInt8} (hl : cr ∉ l) (hne : acc.reverse ++ l ≠ [])
    (s : List UInt8) :
    readHead acc (l ++ cr :: lf :: s) =
      (readHead [] s).map fun p => ((acc.reverse ++ l) :: p.1, p.2) := by
  induction l generalizing acc with
  | nil =>
    have hacc : acc ≠ [] := by simpa using hne
    rw [List.nil_append, readHead_end hacc, List.append_nil]
  | cons a l ih =>
    obtain ⟨ha, hl⟩ := not_or.mp (mt List.mem_cons.mpr hl)
    rw [List.cons_append, readHead_cons (Ne.symm ha) (by simp), ih hl (by simp),
      List.reverse_cons, List.append_assoc, List.singleton_append]

theorem readHead_lines {lines : List (List UInt8)} (h : ∀ l ∈ lines, IsLine l) (s : List UInt8) :
    readHead [] (lines.flatMap (fun l => l ++ [cr, lf]) ++ ([cr, lf] ++ s)) = some (lines, s) := by
  induction lines with
  | nil => rfl
  | cons l lines ih =>
    obtain ⟨hne, hcr⟩ := h l (by simp)
    have hrest := ih fun l' hl' => h l' (List.mem_cons_of_mem _ hl')
    have hline := @readHead_line [] l hcr (by simpa using hne)
      (lines.flatMap (fun l => l ++ [cr, lf]) ++ ([cr, lf] ++ s))
    rw [hrest] at hline
    rw [List.flatMap_cons, List.append_assoc, List.append_assoc]
    exact hline

theorem latin_bytes {l : List Char} (h : ∀ c ∈ l, c.toNat < 256) : latin (bytes l) = l := by
  unfold latin bytes
  rw [List.map_map]
  refine (List.map_congr_left fun c hc => ?_).trans (List.map_id l)
  show Char.ofNat c.toNat.toUInt8.toNat = c
  have hmod : c.toNat.toUInt8.toNat = c.toNat := by
    show c.toNat % 256 = c.toNat
    exact Nat.mod_eq_of_lt (h c hc)
  rw [hmod, Char.ofNat_toNat]

theorem span_append {p : Char → Bool} {s t : List Char} {c : Char} (hs : ∀ d ∈ s, p d)
    (hc : p c = false) : (s ++ c :: t).span p = (s, c :: t) := by
  rw [List.span_eq_takeWhile_dropWhile, List.takeWhile_append_of_pos hs,
    List.dropWhile_append_of_pos hs]
  simp [hc]

theorem readStatus_text {status : ℕ} {reason : List Char}
    (hlength : (Nat.toDigits 10 status).length = 3) (hreason : ∀ c ∈ reason, isText c) :
    readStatus (statusLine status reason) = some (status, reason) := by
  have hdigits : ∀ c ∈ Nat.toDigits 10 status, c.isDigit :=
    fun c hc => Nat.isDigit_of_mem_toDigits (by decide) (by decide) hc
  have hspan : (Nat.toDigits 10 status ++ ' ' :: reason).span (· ≠ ' ') =
      (Nat.toDigits 10 status, ' ' :: reason) := by
    apply span_append
    · intro c hc
      rw [decide_eq_true_eq]
      rintro rfl
      exact absurd (hdigits _ hc) (by decide)
    · decide
  have hall : (Nat.toDigits 10 status).all Char.isDigit := List.all_eq_true.mpr hdigits
  have htext : reason.all isText := List.all_eq_true.mpr hreason
  unfold readStatus statusLine
  rw [if_pos (List.isPrefixOf_iff_prefix.mpr (List.prefix_append _ _)), List.drop_left, hspan]
  simp only [hlength, hall, htext, and_self, if_true,
    Nat.ofDigitChars_toDigits (b := 10) (by decide) (by decide)]

theorem readField_text {name value : List Char} (hname : name ≠ []) (htoken : ∀ c ∈ name, isToken c)
    (hvalue : ∀ c ∈ value, isText c) (htrim : trimBlanks value = value) :
    readField (fieldLine (name, value)) = some (name, value) := by
  have hspan : (name ++ ':' :: ' ' :: value).span (· ≠ ':') = (name, ':' :: ' ' :: value) := by
    apply span_append
    · intro c hc
      rw [decide_eq_true_eq]
      rintro rfl
      exact absurd (htoken _ hc) (by decide)
    · decide
  have hall : name.all isToken := List.all_eq_true.mpr htoken
  have htext : (' ' :: value).all isText :=
    List.all_eq_true.mpr (List.forall_mem_cons.mpr ⟨by decide, hvalue⟩)
  have hblank : trimBlanks (' ' :: value) = value := by
    rw [trimBlanks, List.dropWhile_cons_of_pos (by decide)]
    exact htrim
  unfold readField fieldLine
  rw [hspan]
  simp only [hall, htext, hblank, and_true]
  rw [if_pos hname]

theorem isLine_bytes {l : List Char} (hne : l ≠ []) (htext : ∀ c ∈ l, isText c)
    (hlt : ∀ c ∈ l, c.toNat < 256) : IsLine (bytes l) := by
  refine ⟨by simpa [bytes] using hne, fun hmem => ?_⟩
  obtain ⟨c, hc, heq⟩ := List.mem_map.mp hmem
  have hmod : c.toNat.toUInt8.toNat = c.toNat := Nat.mod_eq_of_lt (hlt c hc)
  have hcr : c = '\r' := by
    rw [← Char.ofNat_toNat c, ← hmod, heq]
    rfl
  have htext := htext c hc
  rw [hcr] at htext
  exact absurd htext (by decide)

theorem isText_of_range {c : Char} (hlow : 0x20 ≤ c.toNat) (hhigh : c.toNat < 0x7f) :
    isText c ∧ c.toNat < 256 := by
  refine ⟨?_, by omega⟩
  simp only [isText, Bool.or_eq_true, Bool.and_eq_true, decide_eq_true_eq]
  right
  constructor <;> omega

theorem isText_of_isAlphanum {c : Char} (h : c.isAlphanum) : isText c ∧ c.toNat < 256 := by
  have hranges : ((0x41 ≤ c.toNat ∧ c.toNat ≤ 0x5a) ∨ (0x61 ≤ c.toNat ∧ c.toNat ≤ 0x7a)) ∨
      (0x30 ≤ c.toNat ∧ c.toNat ≤ 0x39) := by
    rcases (Bool.or_eq_true _ _).mp h with h | h
    · rcases (Bool.or_eq_true _ _).mp h with h | h
      · exact .inl (.inl (of_decide_eq_true h))
      · obtain ⟨hlow, hhigh⟩ := (Bool.and_eq_true _ _).mp h
        exact .inl (.inr ⟨of_decide_eq_true hlow, of_decide_eq_true hhigh⟩)
    · obtain ⟨hlow, hhigh⟩ := (Bool.and_eq_true _ _).mp h
      exact .inr ⟨of_decide_eq_true hlow, of_decide_eq_true hhigh⟩
  apply isText_of_range <;> omega

theorem isText_of_isToken {c : Char} (h : isToken c) : isText c ∧ c.toNat < 256 := by
  rcases (Bool.or_eq_true _ _).mp h with h | h
  · exact isText_of_isAlphanum h
  · have hmarks : "!#$%&'*+-.^_`|~".toList.all fun d => 0x20 ≤ d.toNat && d.toNat < 0x7f := by
      decide +kernel
    have hmark := List.all_eq_true.mp hmarks c (List.contains_iff_mem.mp h)
    simp only [Bool.and_eq_true, decide_eq_true_eq] at hmark
    exact isText_of_range hmark.1 hmark.2

theorem isText_of_isDigit {c : Char} (h : c.isDigit) : isText c ∧ c.toNat < 256 :=
  isText_of_isAlphanum ((Bool.or_eq_true _ _).mpr (.inr h))

namespace Response.WellFormed

variable {r : Response}

theorem statusLine_text (h : r.WellFormed) :
    ∀ c ∈ statusLine r.status r.reason, isText c ∧ c.toNat < 256 := by
  intro c hc
  rcases List.mem_append.mp hc with hc | hc
  · have hversion : version.all fun d => isText d && d.toNat < 256 := by decide +kernel
    have hchar := List.all_eq_true.mp hversion c hc
    simpa only [Bool.and_eq_true, decide_eq_true_eq] using hchar
  · rcases List.mem_append.mp hc with hc | hc
    · exact isText_of_isDigit (Nat.isDigit_of_mem_toDigits (by decide) (by decide) hc)
    · rcases List.mem_cons.mp hc with rfl | hc
      · decide
      · exact h.reason c hc

theorem field_text (h : r.WellFormed) {f : List Char × List Char} (hf : f ∈ r.fields) :
    ∀ c ∈ fieldLine f, isText c ∧ c.toNat < 256 := by
  intro c hc
  rcases List.mem_append.mp hc with hc | hc
  · exact isText_of_isToken ((h.names f hf).2 c hc)
  · rcases List.mem_cons.mp hc with rfl | hc
    · decide
    · rcases List.mem_cons.mp hc with rfl | hc
      · decide
      · exact (h.values f hf).1 c hc

theorem lines_isLine (h : r.WellFormed) : ∀ l ∈ r.lines.map bytes, IsLine l := by
  intro l hl
  obtain ⟨text, hmem, rfl⟩ := List.mem_map.mp hl
  rcases List.mem_cons.mp hmem with rfl | hmem
  · exact isLine_bytes (by simp [statusLine]) (fun c hc => (h.statusLine_text c hc).1)
      fun c hc => (h.statusLine_text c hc).2
  · obtain ⟨f, hf, rfl⟩ := List.mem_map.mp hmem
    exact isLine_bytes (by simp [fieldLine]) (fun c hc => (h.field_text hf c hc).1)
      fun c hc => (h.field_text hf c hc).2

theorem readField_line (h : r.WellFormed) {f : List Char × List Char} (hf : f ∈ r.fields) :
    readField (latin (bytes (fieldLine f))) = some f := by
  obtain ⟨hne, htoken⟩ := h.names f hf
  obtain ⟨hvalue, htrim⟩ := h.values f hf
  rw [latin_bytes fun c hc => (h.field_text hf c hc).2]
  exact readField_text hne htoken (fun c hc => (hvalue c hc).1) htrim

end Response.WellFormed

theorem mapM_readField {fields : List (List Char × List Char)}
    (h : ∀ f ∈ fields, readField (latin (bytes (fieldLine f))) = some f) :
    ((fields.map (bytes ∘ fieldLine)).mapM fun l => readField (latin l)) = some fields := by
  induction fields with
  | nil => rfl
  | cons f fields ih =>
    have hrest := ih fun g hg => h g (List.mem_cons_of_mem _ hg)
    rw [List.map_cons, List.mapM_cons, Function.comp_apply, h f List.mem_cons_self, hrest]
    rfl

/-- A response is read from its text. -/
theorem read_text {r : Response} (h : r.WellFormed) (tail : List UInt8) :
    read (r.text ++ tail) = .done r tail := by
  have htext : r.text ++ tail =
      (r.lines.map bytes).flatMap (fun l => l ++ [cr, lf]) ++ ([cr, lf] ++ (r.body ++ tail)) := by
    simp only [Response.text, List.flatMap_map, List.append_assoc]
  have hstatus : latin (bytes (statusLine r.status r.reason)) = statusLine r.status r.reason :=
    latin_bytes fun c hc => (h.statusLine_text c hc).2
  have hfields := mapM_readField fun f hf => h.readField_line hf
  have hbody : readBody r.status r.reason r.fields (r.body ++ tail) = .done r tail := by
    unfold readBody
    rw [h.length]
    simp
  unfold read
  rw [htext, readHead_lines h.lines_isLine, Response.lines, List.map_cons, List.map_map]
  simp only [readMessage, hstatus, readStatus_text h.status fun c hc => (h.reason c hc).1, hfields]
  exact hbody

/-- None is read from a part of it. -/
theorem read_cut {r : Response} (h : r.WellFormed) {part missing : List UInt8}
    (hcut : part ++ missing = r.text) (hmissing : missing ≠ []) : read part = .more := by
  by_contra hread
  have hwhole := read_text h []
  rw [List.append_nil, ← hcut, read_append hread] at hwhole
  cases hpart : read part with
  | more => exact hread hpart
  | invalid =>
    rw [hpart] at hwhole
    cases hwhole
  | done r' rest =>
    rw [hpart] at hwhole
    obtain ⟨-, hrest⟩ := Read.done.inj hwhole
    exact hmissing (List.append_eq_nil_iff.mp hrest).2

end Ghostport.Lib.Http
