import Mathlib.Algebra.Group.Nat.Defs
import Mathlib.Data.List.Basic

/-!
# Length-prefixed frames, and a reader that can be resumed

A frame is a payload after its length, in four bytes little endian. A `Reader`
is what one read of a frame keeps between two chunks of the stream; it takes
bytes out of the stream as they come, so whoever drops a reader drops the bytes
it has consumed.

* `read_spec`: on a stream of frames, a reader that keeps what it consumed
  yields the next payload and nothing of the frame after it, however the
  stream is cut.
* `finish_frame`, `finish_cut`, `finish_tooLong`: a read that nobody drops takes exactly
  the frame, finds that the stream ends before the frame does, or refuses its length.
-/

namespace Ghostport.Lib

/-! ## Frames -/

/-- `n` in four bytes, least significant first. -/
def le32 (n : ℕ) : List UInt8 :=
  [n.toUInt8, (n / 2 ^ 8).toUInt8, (n / 2 ^ 16).toUInt8, (n / 2 ^ 24).toUInt8]

def ofLe32 (bytes : List UInt8) : ℕ := bytes.foldr (fun b n => b.toNat + 2 ^ 8 * n) 0

@[simp] theorem length_le32 (n : ℕ) : (le32 n).length = 4 := rfl

theorem ofLe32_le32 {n : ℕ} (h : n < 2 ^ 32) : ofLe32 (le32 n) = n := by
  unfold ofLe32 le32
  simp only [List.foldr_cons, List.foldr_nil, Nat.toUInt8, UInt8.toNat_ofNat', Nat.reducePow]
  omega

/-- The length is taken modulo `2 ^ 32`, as a cast to 32 bits does. -/
def frame (payload : List UInt8) : List UInt8 := le32 (payload.length % 2 ^ 32) ++ payload

theorem frame_of_lt {payload : List UInt8} (h : payload.length < 2 ^ 32) :
    frame payload = le32 payload.length ++ payload := by
  rw [frame, Nat.mod_eq_of_lt h]

/-- A stream of frames. -/
def frames (payloads : List (List UInt8)) : List UInt8 := (payloads.map frame).flatten

@[simp] theorem frames_nil : frames [] = [] := rfl

@[simp] theorem frames_cons (payload : List UInt8) (payloads : List (List UInt8)) :
    frames (payload :: payloads) = frame payload ++ frames payloads := rfl

theorem frames_concat (payloads : List (List UInt8)) (payload : List UInt8) :
    frames (payloads ++ [payload]) = frames payloads ++ frame payload := by
  simp [frames]

/-! ## Readers -/

/-- A read in the middle of a frame, with the bytes it has taken. -/
inductive Reader where
  | header (got : List UInt8)
  | body (len : ℕ) (got : List UInt8)
  deriving DecidableEq, Repr

inductive Progress where
  | more (r : Reader)
  | tooLong (len : ℕ)
  | payload (bytes : List UInt8)
  deriving DecidableEq, Repr

namespace Reader

/-- A read that has taken nothing. -/
def init : Reader := .header []

/-- All bytes of the frame that are taken out of the stream. -/
def consumed : Reader → List UInt8
  | .header got => got
  | .body len got => le32 len ++ got

/-- How many bytes the read asks the stream for. -/
def want : Reader → ℕ
  | .header got => 4 - got.length
  | .body len got => len - got.length

/-- The stream gives `chunk`, at most as many bytes as the read asks for. Lengths above
    `max` are refused before the body is read. -/
def read (max : ℕ) (r : Reader) (chunk : List UInt8) : Progress :=
  match r with
  | .header got =>
    let got := got ++ chunk
    if got.length < 4 then .more (.header got)
    else
      let len := ofLe32 got
      if len > max then .tooLong len
      -- an empty buffer is filled without asking for a byte
      else if len = 0 then .payload []
      else .more (.body len [])
  | .body len got =>
    let got := got ++ chunk
    if got.length < len then .more (.body len got) else .payload got

/-- The read is not finished. -/
def Open (max : ℕ) : Reader → Prop
  | .header got => got.length < 4
  | .body len got => got.length < len ∧ len ≤ max

theorem open_init (max : ℕ) : Open max init := by
  simp [Open, init]

theorem consumed_init : init.consumed = [] := rfl

/-- Only a read that has taken nothing loses nothing when it is dropped. -/
theorem consumed_eq_nil {r : Reader} : r.consumed = [] ↔ r = init := by
  cases r with
  | header got => simp [consumed, init]
  | body len got => simp [consumed, init, le32]

end Reader

section

variable {max : ℕ} {payloads : List (List UInt8)}

/-- What is left of a stream that begins with a frame, once `header` is the length field. -/
theorem header_of_frame {payload tail header rest : List UInt8} (hlen : payload.length < 2 ^ 32)
    (hheader : header.length = 4) (h : header ++ rest = frame payload ++ tail) :
    header = le32 payload.length ∧ rest = payload ++ tail := by
  rw [frame_of_lt hlen, List.append_assoc] at h
  exact List.append_inj h (by rw [hheader, length_le32])

/-- A read that has not finished a frame, resumed with a chunk it asked for: it goes on with
    what it has consumed, or yields the payload. It does not refuse the length. -/
theorem read_frame (hmax : max < 2 ^ 32) {payload tail : List UInt8} (hlen : payload.length ≤ max)
    {r : Reader} (hopen : r.Open max) {chunk rest : List UInt8} (hchunk : chunk.length ≤ r.want)
    (h : r.consumed ++ (chunk ++ rest) = frame payload ++ tail) :
    match r.read max chunk with
    | .more r' => r'.Open max ∧ r'.consumed ++ rest = frame payload ++ tail
    | .tooLong _ => False
    | .payload bytes => bytes = payload ∧ rest = tail := by
  cases r with
  | header got =>
    simp only [Reader.Open, Reader.want, Reader.consumed] at hopen hchunk h
    rw [← List.append_assoc] at h
    simp only [Reader.read]
    by_cases hfour : (got ++ chunk).length < 4
    · rw [if_pos hfour]
      exact ⟨hfour, h⟩
    · have hheader : (got ++ chunk).length = 4 := by
        rw [List.length_append] at hfour ⊢
        omega
      obtain ⟨hle, hrest⟩ := header_of_frame (by omega) hheader h
      rw [if_neg hfour, hle, ofLe32_le32 (by omega), if_neg (by omega)]
      by_cases hzero : payload.length = 0
      · rw [if_pos hzero]
        have hnil : payload = [] := List.eq_nil_of_length_eq_zero hzero
        exact ⟨hnil.symm, by rw [hrest, hnil, List.nil_append]⟩
      · rw [if_neg hzero]
        refine ⟨⟨by simp; omega, hlen⟩, ?_⟩
        rw [← h, hle]
        simp [Reader.consumed]
  | body len got =>
    simp only [Reader.Open, Reader.want, Reader.consumed, List.append_assoc] at hopen hchunk h
    obtain ⟨hle, hrest⟩ := header_of_frame (by omega) (length_le32 len) h
    have hpl : len = payload.length := by
      rw [← ofLe32_le32 (n := len) (by omega), hle, ofLe32_le32 (by omega)]
    rw [← List.append_assoc] at hrest
    simp only [Reader.read]
    by_cases hmore : (got ++ chunk).length < len
    · rw [if_pos hmore]
      refine ⟨⟨hmore, hopen.2⟩, ?_⟩
      rw [← h]
      simp [Reader.consumed]
    · have hfull : (got ++ chunk).length = payload.length := by
        rw [List.length_append] at hmore ⊢
        omega
      rw [if_neg hmore]
      exact List.append_inj hrest hfull

/-- A read of a length above `max`, resumed with a chunk it asked for: it goes on with what it
    has consumed, or refuses the length. -/
theorem read_tooLong {n : ℕ} (hn : n < 2 ^ 32) (hlong : max < n) {got chunk rest tail : List UInt8}
    (hgot : got.length < 4) (hchunk : chunk.length ≤ (Reader.header got).want)
    (h : got ++ (chunk ++ rest) = le32 n ++ tail) :
    match (Reader.header got).read max chunk with
    | .more r' => ∃ got', r' = .header got' ∧ got'.length < 4 ∧ got' ++ rest = le32 n ++ tail
    | .tooLong len => len = n
    | .payload _ => False := by
  rw [← List.append_assoc] at h
  simp only [Reader.want] at hchunk
  simp only [Reader.read]
  by_cases hfour : (got ++ chunk).length < 4
  · rw [if_pos hfour]
    exact ⟨_, rfl, hfour, h⟩
  · have hheader : (got ++ chunk).length = (le32 n).length := by
      rw [List.length_append, length_le32] at *
      omega
    obtain ⟨hle, -⟩ := List.append_inj h hheader
    rw [if_neg hfour, hle, ofLe32_le32 hn, if_pos hlong]

/-- A read that has not finished a frame has not consumed it. -/
theorem Reader.Open.consumed_ne {r : Reader} (hopen : r.Open max) (hmax : max < 2 ^ 32)
    {payload tail : List UInt8} (hlen : payload.length ≤ max) :
    r.consumed ≠ frame payload ++ tail := by
  intro h
  rw [frame_of_lt (by omega)] at h
  cases r with
  | header got =>
    have hlength := congrArg List.length h
    simp only [Reader.consumed, List.length_append, length_le32] at hlength
    simp only [Reader.Open] at hopen
    omega
  | body len got =>
    simp only [Reader.Open] at hopen
    obtain ⟨hle, hgot⟩ := List.append_inj (by simpa [Reader.consumed] using h)
      (by rw [length_le32, length_le32])
    have hpl : len = payload.length := by
      rw [← ofLe32_le32 (n := len) (by omega), hle, ofLe32_le32 (by omega)]
    have hlength := congrArg List.length hgot
    rw [List.length_append] at hlength
    omega

/-- `read_frame` on a stream of frames, which may have ended. -/
theorem read_spec (hmax : max < 2 ^ 32) (hlen : ∀ p ∈ payloads, p.length ≤ max) {r : Reader}
    (hopen : r.Open max) {chunk rest : List UInt8} (hchunk : chunk.length ≤ r.want)
    (h : r.consumed ++ (chunk ++ rest) = frames payloads) :
    match r.read max chunk with
    | .more r' => r'.Open max ∧ r'.consumed ++ rest = frames payloads
    | .tooLong _ => False
    | .payload bytes => ∃ payloads', payloads = bytes :: payloads' ∧ rest = frames payloads' := by
  cases payloads with
  | nil =>
    rw [frames_nil, List.append_eq_nil_iff, List.append_eq_nil_iff] at h
    obtain ⟨hr, rfl, rfl⟩ := h
    rw [Reader.consumed_eq_nil.mp hr]
    exact ⟨by simp [Reader.Open], rfl⟩
  | cons payload payloads =>
    have hread := read_frame hmax (hlen payload (by simp)) hopen hchunk h
    cases hr : r.read max chunk with
    | more r' =>
      rw [hr] at hread
      exact hread
    | tooLong len =>
      rw [hr] at hread
      exact hread
    | payload bytes =>
      rw [hr] at hread
      obtain ⟨rfl, rfl⟩ := hread
      exact ⟨payloads, rfl, rfl⟩

end

/-! ## Reads that are not interrupted -/

/-- How a read ends. -/
inductive Outcome where
  /-- The stream ends first. -/
  | ended
  | tooLong (len : ℕ)
  | payload (bytes : List UInt8)
  deriving DecidableEq, Repr

namespace Reader

/-- Used for termination: a read with a header has a second part to go. -/
def parts : Reader → ℕ
  | .header _ => 1
  | .body _ _ => 0

/-- What a read of at most `want` bytes leaves of the chunks of a stream. -/
def leave (want : ℕ) (chunk : List UInt8) (chunks : List (List UInt8)) : List (List UInt8) :=
  if chunk.length ≤ want then chunks else chunk.drop want :: chunks

theorem flatten_leave (want : ℕ) (chunk : List UInt8) (chunks : List (List UInt8)) :
    chunk.take want ++ (leave want chunk chunks).flatten = (chunk :: chunks).flatten := by
  unfold leave
  split
  · rename_i hle
    rw [List.take_of_length_le hle, List.flatten_cons]
  · rw [List.flatten_cons, List.flatten_cons, ← List.append_assoc, List.take_append_drop]

/-- A read that is given all it asks for finishes the part it is in. -/
theorem parts_lt {max : ℕ} {r r' : Reader} {chunk : List UInt8} (hfull : chunk.length = r.want)
    (h : r.read max chunk = .more r') : r'.parts < r.parts := by
  cases r with
  | header got =>
    simp only [read, want, List.length_append] at h hfull
    rw [if_neg (by omega)] at h
    split_ifs at h
    cases h
    exact Nat.zero_lt_one
  | body len got =>
    simp only [read, want, List.length_append] at h hfull
    rw [if_neg (by omega)] at h
    cases h

/-- The read goes on until it has a frame or the stream ends. Each read of the stream finds
    a chunk of it, and takes no more than it asks for. -/
def finish (max : ℕ) (r : Reader) : List (List UInt8) → Outcome × List (List UInt8)
  | [] => (.ended, [])
  | chunk :: chunks =>
    match _h : r.read max (chunk.take r.want) with
    | .more r' => r'.finish max (leave r.want chunk chunks)
    | .tooLong len => (.tooLong len, leave r.want chunk chunks)
    | .payload bytes => (.payload bytes, leave r.want chunk chunks)
termination_by chunks => (chunks.length, r.parts)
decreasing_by
  unfold leave
  split
  · exact Prod.Lex.left _ _ (by simp)
  · rename_i hlong
    rw [List.length_cons, List.length_cons]
    exact Prod.Lex.right _ (parts_lt (by rw [List.length_take]; omega) _h)

theorem finish_cons (max : ℕ) (r : Reader) (chunk : List UInt8) (chunks : List (List UInt8)) :
    r.finish max (chunk :: chunks) =
      match r.read max (chunk.take r.want) with
      | .more r' => r'.finish max (leave r.want chunk chunks)
      | .tooLong len => (.tooLong len, leave r.want chunk chunks)
      | .payload bytes => (.payload bytes, leave r.want chunk chunks) := by
  rw [finish]
  split
  · rename_i hr
    rw [hr]
  · rename_i hr
    rw [hr]
  · rename_i hr
    rw [hr]

end Reader

section

variable {max : ℕ} {payload : List UInt8}

/-- A read that is not interrupted takes exactly one frame, however the stream is cut. -/
theorem finish_frame (hmax : max < 2 ^ 32) (hlen : payload.length ≤ max) {r : Reader}
    (hopen : r.Open max) {chunks : List (List UInt8)} {tail : List UInt8}
    (h : r.consumed ++ chunks.flatten = frame payload ++ tail) :
    (r.finish max chunks).1 = .payload payload ∧ (r.finish max chunks).2.flatten = tail := by
  induction r, chunks using Reader.finish.induct max with
  | case1 r =>
    rw [List.flatten_nil, List.append_nil] at h
    exact absurd h (hopen.consumed_ne hmax hlen)
  | case2 r chunk chunks r' hr ih =>
    rw [← Reader.flatten_leave r.want] at h
    have hread := read_frame hmax hlen hopen (List.length_take_le _ _) h
    rw [hr] at hread
    rw [Reader.finish_cons, hr]
    exact ih hread.1 hread.2
  | case3 r chunk chunks len hr =>
    rw [← Reader.flatten_leave r.want] at h
    have hread := read_frame hmax hlen hopen (List.length_take_le _ _) h
    rw [hr] at hread
    exact hread.elim
  | case4 r chunk chunks bytes hr =>
    rw [← Reader.flatten_leave r.want] at h
    have hread := read_frame hmax hlen hopen (List.length_take_le _ _) h
    rw [hr] at hread
    rw [Reader.finish_cons, hr]
    exact ⟨congrArg Outcome.payload hread.1, hread.2⟩

/-- On a stream that begins with a length above `max` it refuses this length. -/
theorem finish_tooLong {n : ℕ} (hn : n < 2 ^ 32) (hlong : max < n) {got : List UInt8}
    (hgot : got.length < 4) {chunks : List (List UInt8)} {tail : List UInt8}
    (h : got ++ chunks.flatten = le32 n ++ tail) :
    ((Reader.header got).finish max chunks).1 = .tooLong n := by
  generalize hr : Reader.header got = r
  induction r, chunks using Reader.finish.induct max generalizing got with
  | case1 r =>
    have hlength := congrArg List.length h
    rw [List.flatten_nil, List.append_nil, List.length_append, length_le32] at hlength
    omega
  | case2 r chunk chunks r' hread ih =>
    subst hr
    rw [← Reader.flatten_leave (Reader.header got).want] at h
    have hlength := read_tooLong hn hlong hgot (List.length_take_le _ _) h
    rw [hread] at hlength
    obtain ⟨got', rfl, hgot', h'⟩ := hlength
    rw [Reader.finish_cons, hread]
    exact ih hgot' h' rfl
  | case3 r chunk chunks len hread =>
    subst hr
    rw [← Reader.flatten_leave (Reader.header got).want] at h
    have hlength := read_tooLong hn hlong hgot (List.length_take_le _ _) h
    rw [hread] at hlength
    rw [Reader.finish_cons, hread]
    exact congrArg Outcome.tooLong hlength
  | case4 r chunk chunks bytes hread =>
    subst hr
    rw [← Reader.flatten_leave (Reader.header got).want] at h
    have hlength := read_tooLong hn hlong hgot (List.length_take_le _ _) h
    rw [hread] at hlength
    exact hlength.elim

/-- On a stream that ends inside a frame it yields nothing. -/
theorem finish_cut (hmax : max < 2 ^ 32) (hlen : payload.length ≤ max) {r : Reader}
    (hopen : r.Open max) {chunks : List (List UInt8)} {missing : List UInt8}
    (hmissing : missing ≠ []) (h : r.consumed ++ (chunks.flatten ++ missing) = frame payload) :
    (r.finish max chunks).1 = .ended := by
  induction r, chunks using Reader.finish.induct max with
  | case1 r => rw [Reader.finish]
  | case2 r chunk chunks r' hr ih =>
    rw [← Reader.flatten_leave r.want, List.append_assoc, ← List.append_nil (frame payload)] at h
    have hread := read_frame hmax hlen hopen (List.length_take_le _ _) h
    rw [hr] at hread
    rw [Reader.finish_cons, hr]
    exact ih hread.1 (hread.2.trans (List.append_nil _))
  | case3 r chunk chunks len hr =>
    rw [← Reader.flatten_leave r.want, List.append_assoc, ← List.append_nil (frame payload)] at h
    have hread := read_frame hmax hlen hopen (List.length_take_le _ _) h
    rw [hr] at hread
    exact hread.elim
  | case4 r chunk chunks bytes hr =>
    rw [← Reader.flatten_leave r.want, List.append_assoc, ← List.append_nil (frame payload)] at h
    have hread := read_frame hmax hlen hopen (List.length_take_le _ _) h
    rw [hr] at hread
    exact absurd (List.append_eq_nil_iff.mp hread.2).2 hmissing

end

end Ghostport.Lib
