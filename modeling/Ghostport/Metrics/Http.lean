import Ghostport.Core.Keys

/-!
# The request line of a scrape (`crates/ghostport-metrics/src/http.rs`)

A stream arrives in reads of at most 512 bytes. After each read `read_request_line` looks for a
newline in the buffer first, and then at its length.

Results:
* `readRequestLine_short`: a first line of at most 8192 bytes is read in one way only.
* `readRequestLine_long`: one that the last read cannot bring past the limit is too long.
* `segmentationFree_iff`: between them the result depends on the reads.
-/

namespace Ghostport.Metrics

open Ghostport.Core

/-! ## `String::from_utf8_lossy` -/

/-- A character of which some bytes have been read: its value so far, how many bytes are missing
    and the range of the next one. -/
structure Partial where
  value : ℕ
  missing : ℕ
  low : UInt8
  high : UInt8

/-- The first byte of a character. -/
def startChar (b : UInt8) : List Char × Option Partial :=
  let bits := b.toNat
  if b < 0x80 then ([Char.ofNat bits], none)
  else if 0xc2 ≤ b ∧ b ≤ 0xdf then ([], some ⟨bits % 32, 1, 0x80, 0xbf⟩)
  else if b = 0xe0 then ([], some ⟨bits % 16, 2, 0xa0, 0xbf⟩)
  else if b = 0xed then ([], some ⟨bits % 16, 2, 0x80, 0x9f⟩)
  else if 0xe1 ≤ b ∧ b ≤ 0xef then ([], some ⟨bits % 16, 2, 0x80, 0xbf⟩)
  else if b = 0xf0 then ([], some ⟨bits % 8, 3, 0x90, 0xbf⟩)
  else if 0xf1 ≤ b ∧ b ≤ 0xf3 then ([], some ⟨bits % 8, 3, 0x80, 0xbf⟩)
  else if b = 0xf4 then ([], some ⟨bits % 8, 3, 0x80, 0x8f⟩)
  else (['\uFFFD'], none)

def nextChar (b : UInt8) : Option Partial → List Char × Option Partial
  | none => startChar b
  | some p =>
    if p.low ≤ b ∧ b ≤ p.high then
      let value := p.value * 64 + b.toNat % 64
      if p.missing = 1 then ([Char.ofNat value], none)
      else ([], some ⟨value, p.missing - 1, 0x80, 0xbf⟩)
    else
      -- the bytes before this one are no character, and it is read anew
      ('\uFFFD' :: (startChar b).1, (startChar b).2)

def decodeFrom : Option Partial → List UInt8 → List Char
  | none, [] => []
  | some _, [] => ['\uFFFD']
  | p, b :: bytes => (nextChar b p).1 ++ decodeFrom (nextChar b p).2 bytes

def fromUtf8Lossy (bytes : List UInt8) : List Char := decodeFrom none bytes

example : fromUtf8Lossy [0x47, 0xe2, 0x82, 0xac, 0xf0, 0x9f, 0x41, 0xc0, 0x80, 0xe2] =
    ['G', '€', '\uFFFD', 'A', '\uFFFD', '\uFFFD', '\uFFFD'] := by decide

/-! ## Reading -/

def newline : UInt8 := 0x0a

/-- `MAX_REQUEST_LINE` (line 32). -/
def maxRequestLine : ℕ := 8192

/-- The length of `chunk` (line 88). -/
def chunkSize : ℕ := 512

/-- What a read returns once there is nothing more to read. -/
inductive Ending where
  | closed
  | failed (e : String)
  /-- The read does not return. -/
  | stalled
  deriving DecidableEq, Repr

def toLine (buf : List UInt8) : String := String.ofList (trim (fromUtf8Lossy buf))

/-- `read_request_line` (lines 86-111) from this buffer, with what the reads return. There is no
    result while it waits. -/
def readRequestLine (ending : Ending) :
    List UInt8 → List (List UInt8) → Option (Except String String)
  | buf, [] =>
    match ending with
    | .closed => some (.ok (toLine buf))
    | .failed e => some (.error e)
    | .stalled => none
  | buf, chunk :: chunks =>
    match (buf ++ chunk).findIdx? (· == newline) with
    | some pos => some (.ok (toLine ((buf ++ chunk).take pos)))
    | none =>
      if maxRequestLine < (buf ++ chunk).length then some (.error "request line too long")
      else readRequestLine ending (buf ++ chunk) chunks

/-- The bytes before the first newline. -/
def firstLine (stream : List UInt8) : List UInt8 := stream.takeWhile (· != newline)

/-- The stream is split into these reads. -/
structure Splits (stream : List UInt8) (chunks : List (List UInt8)) : Prop where
  flatten : chunks.flatten = stream
  size : ∀ chunk ∈ chunks, chunk ≠ [] ∧ chunk.length ≤ chunkSize

section

variable {ending : Ending} {buf chunk stream : List UInt8} {chunks : List (List UInt8)}

/-! ### The first line -/

theorem firstLine_of_not_mem {s : List UInt8} (hs : newline ∉ s) (t : List UInt8) :
    firstLine (s ++ t) = s ++ firstLine t := by
  refine List.takeWhile_append_of_pos fun b hb => ?_
  rw [bne_iff_ne]
  rintro rfl
  exact hs hb

theorem firstLine_append {s : List UInt8} (hs : newline ∈ s) (t : List UInt8) :
    firstLine (s ++ t) = firstLine s := by
  have hlong : (s.takeWhile (· != newline)).length ≠ s.length := by
    intro hlen
    have heq : s.takeWhile (· != newline) = s :=
      (List.takeWhile_prefix _).eq_of_length hlen
    have hne := List.takeWhile_eq_self_iff.mp heq newline hs
    simp at hne
  unfold firstLine
  rw [List.takeWhile_append, if_neg hlong]

theorem length_firstLine_lt (hs : newline ∈ stream) :
    (firstLine stream).length < stream.length := by
  have hle : (firstLine stream).length ≤ stream.length := (List.takeWhile_prefix _).length_le
  refine lt_of_le_of_ne hle fun hlen => ?_
  have heq : firstLine stream = stream := (List.takeWhile_prefix _).eq_of_length hlen
  have hne := List.takeWhile_eq_self_iff.mp heq newline hs
  simp at hne

theorem length_firstLine_of_not_mem {s t : List UInt8} (hs : newline ∉ s) :
    s.length ≤ (firstLine (s ++ t)).length := by
  rw [firstLine_of_not_mem hs, List.length_append]
  omega

/-! ### One read -/

theorem read_newline (h : newline ∈ buf ++ chunk) :
    readRequestLine ending buf (chunk :: chunks) =
      some (.ok (toLine (firstLine (buf ++ chunk)))) := by
  have hfind : (buf ++ chunk).findIdx? (· == newline) =
      some ((buf ++ chunk).findIdx (· == newline)) :=
    List.findIdx?_eq_some_of_exists ⟨newline, h, by simp⟩
  have hline : (buf ++ chunk).take ((buf ++ chunk).findIdx (· == newline)) =
      firstLine (buf ++ chunk) := by
    unfold firstLine
    rw [List.takeWhile_eq_take_findIdx_not]
    simp only [bne, Bool.not_not]
  rw [readRequestLine, hfind]
  simp only [hline]

theorem findIdx_of_not_mem (h : newline ∉ buf ++ chunk) :
    (buf ++ chunk).findIdx? (· == newline) = none := by
  refine List.findIdx?_eq_none_iff.mpr fun b hb => ?_
  rw [beq_eq_false_iff_ne]
  rintro rfl
  exact h hb

theorem read_tooLong (h : newline ∉ buf ++ chunk)
    (hlen : maxRequestLine < (buf ++ chunk).length) :
    readRequestLine ending buf (chunk :: chunks) = some (.error "request line too long") := by
  rw [readRequestLine, findIdx_of_not_mem h]
  simp only [if_pos hlen]

theorem read_more (h : newline ∉ buf ++ chunk) (hlen : (buf ++ chunk).length ≤ maxRequestLine) :
    readRequestLine ending buf (chunk :: chunks) =
      readRequestLine ending (buf ++ chunk) chunks := by
  rw [readRequestLine, findIdx_of_not_mem h]
  simp only [if_neg (not_lt.mpr hlen)]

/-- Reads that neither complete the line nor exceed the limit. -/
theorem read_append {front : List (List UInt8)} (h : newline ∉ buf ++ front.flatten)
    (hlen : (buf ++ front.flatten).length ≤ maxRequestLine) :
    readRequestLine ending buf (front ++ chunks) =
      readRequestLine ending (buf ++ front.flatten) chunks := by
  induction front generalizing buf with
  | nil => simp
  | cons chunk front ih =>
    have hassoc : buf ++ (chunk :: front).flatten = (buf ++ chunk) ++ front.flatten := by simp
    rw [hassoc] at h hlen ⊢
    have hnot : newline ∉ buf ++ chunk := fun hm => h (List.mem_append_left _ hm)
    have hshort : (buf ++ chunk).length ≤ maxRequestLine := by
      rw [List.length_append] at hlen
      omega
    rw [List.cons_append, read_more hnot hshort, ih h hlen]

/-- The read at which the loop is left, if there is one. -/
theorem leaves_or (chunks : List (List UInt8)) (h : newline ∉ buf)
    (hlen : buf.length ≤ maxRequestLine) :
    (newline ∉ buf ++ chunks.flatten ∧ (buf ++ chunks.flatten).length ≤ maxRequestLine) ∨
      ∃ front chunk rest, chunks = front ++ chunk :: rest ∧ newline ∉ buf ++ front.flatten ∧
        (buf ++ front.flatten).length ≤ maxRequestLine ∧
        (newline ∈ buf ++ front.flatten ++ chunk ∨
          maxRequestLine < (buf ++ front.flatten ++ chunk).length) := by
  induction chunks generalizing buf with
  | nil => simp [h, hlen]
  | cons chunk chunks ih =>
    by_cases hleave : newline ∈ buf ++ chunk ∨ maxRequestLine < (buf ++ chunk).length
    · exact .inr ⟨[], chunk, chunks, rfl, by simpa using h, by simpa using hlen,
        by simpa using hleave⟩
    · obtain ⟨hnot, hshort⟩ := not_or.mp hleave
      rcases ih hnot (not_lt.mp hshort) with hstay | ⟨front, c, rest, rfl, hfront, hsize, hc⟩
      · exact .inl (by simpa using hstay)
      · exact .inr ⟨chunk :: front, c, rest, rfl, by simpa using hfront, by simpa using hsize,
          by simpa using hc⟩

/-! ## All the reads of a stream -/

/-- What is read where no line is too long. -/
def lineRead (ending : Ending) (stream : List UInt8) : Option (Except String String) :=
  if newline ∈ stream then some (.ok (toLine (firstLine stream)))
  else readRequestLine ending stream []

theorem readRequestLine_short (hchunks : Splits stream chunks)
    (hline : (firstLine stream).length ≤ maxRequestLine) :
    readRequestLine ending [] chunks = lineRead ending stream := by
  unfold lineRead
  rcases leaves_or chunks List.not_mem_nil (Nat.zero_le _) with
    ⟨hnot, hlen⟩ | ⟨front, chunk, rest, rfl, hfront, hlen, hleave⟩
  · rw [List.nil_append, hchunks.flatten] at hnot
    have hall := @read_append ending [] [] chunks (by simpa [hchunks.flatten] using hnot) hlen
    rw [List.append_nil, List.nil_append, hchunks.flatten] at hall
    rw [hall, if_neg hnot]
  · have hstream : stream = (front.flatten ++ chunk) ++ rest.flatten := by
      rw [← hchunks.flatten]
      simp
    rw [List.nil_append] at hfront hleave
    have hnew : newline ∈ front.flatten ++ chunk := by
      rcases hleave with hnew | hlong
      · exact hnew
      · by_contra hnot
        have hle := length_firstLine_of_not_mem (t := rest.flatten) hnot
        rw [← hstream] at hle
        omega
    have hmem : newline ∈ stream := by
      rw [hstream]
      exact List.mem_append_left _ hnew
    rw [read_append (by simpa using hfront) hlen, read_newline (by simpa using hnew),
      if_pos hmem, List.nil_append, hstream, firstLine_append hnew]

theorem readRequestLine_long (hchunks : Splits stream chunks)
    (hline : maxRequestLine < (firstLine stream).length)
    (hfar : newline ∈ stream → maxRequestLine + chunkSize ≤ (firstLine stream).length) :
    readRequestLine ending [] chunks = some (.error "request line too long") := by
  have hstream : (firstLine stream).length ≤ stream.length := (List.takeWhile_prefix _).length_le
  rcases leaves_or chunks List.not_mem_nil (Nat.zero_le _) with
    ⟨-, hlen⟩ | ⟨front, chunk, rest, rfl, hfront, hlen, hleave⟩
  · rw [List.nil_append, hchunks.flatten] at hlen
    omega
  · have heq : stream = (front.flatten ++ chunk) ++ rest.flatten := by
      rw [← hchunks.flatten]
      simp
    rw [List.nil_append] at hfront hlen hleave
    have hsize : chunk.length ≤ chunkSize := (hchunks.size chunk (by simp)).2
    have hnot : newline ∉ front.flatten ++ chunk := by
      intro hnew
      have hfirst := length_firstLine_lt hnew
      rw [← firstLine_append hnew rest.flatten, ← heq, List.length_append] at hfirst
      have hmem : newline ∈ stream := by
        rw [heq]
        exact List.mem_append_left _ hnew
      have hle := hfar hmem
      omega
    rw [read_append (by simpa using hfront) (by simpa using hlen),
      read_tooLong (by simpa using hnot) (by simpa using hleave.resolve_left hnot)]

/-! ## Two ways to split a stream -/

/-- The stream in reads of one byte each. -/
def bytewise (stream : List UInt8) : List (List UInt8) := stream.map fun b => [b]

theorem splits_bytewise (stream : List UInt8) : Splits stream (bytewise stream) := by
  constructor
  · induction stream with
    | nil => rfl
    | cons b stream ih => exact congrArg (b :: ·) ih
  · intro chunk hchunk
    obtain ⟨b, -, rfl⟩ := List.mem_map.mp hchunk
    exact ⟨List.cons_ne_nil _ _, Nat.le_of_lt (show 1 < chunkSize by decide)⟩

theorem Splits.append {s t : List UInt8} {cs ds : List (List UInt8)} (hs : Splits s cs)
    (ht : Splits t ds) : Splits (s ++ t) (cs ++ ds) := by
  refine ⟨by rw [List.flatten_append, hs.flatten, ht.flatten], fun chunk hchunk => ?_⟩
  exact (List.mem_append.mp hchunk).elim (hs.size chunk) (ht.size chunk)

/-- A line that the last read brings past the limit is accepted. -/
theorem readRequestLine_leap {line rest : List UInt8} (hline : newline ∉ line)
    (hlong : maxRequestLine < line.length) (hnear : line.length < maxRequestLine + chunkSize) :
    ∃ chunks, Splits (line ++ newline :: rest) chunks ∧
      readRequestLine ending [] chunks = some (.ok (toLine line)) := by
  have htake : (line.take maxRequestLine).length = maxRequestLine :=
    List.length_take_of_le (le_of_lt hlong)
  have hdrop : (line.drop maxRequestLine ++ [newline]).length ≤ chunkSize := by
    rw [List.length_append, List.length_drop, List.length_singleton]
    omega
  have hfront := splits_bytewise (line.take maxRequestLine)
  have hleap : Splits (line.drop maxRequestLine ++ [newline])
      [line.drop maxRequestLine ++ [newline]] :=
    ⟨by simp, by simpa using hdrop⟩
  have hnot : newline ∉ line.take maxRequestLine := fun hm => hline (List.mem_of_mem_take hm)
  have hall : line.take maxRequestLine ++ (line.drop maxRequestLine ++ [newline]) =
      line ++ [newline] := by
    rw [← List.append_assoc, List.take_append_drop]
  have hfirst : firstLine (line ++ [newline]) = line := by
    rw [firstLine_of_not_mem hline]
    simp [firstLine]
  refine ⟨bytewise (line.take maxRequestLine) ++
    ([line.drop maxRequestLine ++ [newline]] ++ bytewise rest), ?_, ?_⟩
  · have hsplits := hfront.append (hleap.append (splits_bytewise rest))
    have hstream : line.take maxRequestLine ++ (line.drop maxRequestLine ++ [newline] ++ rest) =
        line ++ newline :: rest := by
      rw [← List.append_assoc, hall]
      simp
    rwa [hstream] at hsplits
  · rw [read_append (by simpa [hfront.flatten] using hnot)
        (by rw [List.nil_append, hfront.flatten, htake]),
      List.nil_append, hfront.flatten, List.singleton_append, read_newline (by rw [hall]; simp),
      hall, hfirst]

/-- The same line is too long if a read ends right behind the limit. -/
theorem readRequestLine_bytewise {text rest : List UInt8} (htext : newline ∉ text)
    (hlong : maxRequestLine < text.length) :
    readRequestLine ending [] (bytewise (text ++ newline :: rest)) =
      some (.error "request line too long") := by
  obtain ⟨front, b, tail, rfl, hfront⟩ : ∃ front b tail, text = front ++ b :: tail ∧
      front.length = maxRequestLine := by
    refine ⟨text.take maxRequestLine, text[maxRequestLine], text.drop (maxRequestLine + 1), ?_, ?_⟩
    · rw [← List.drop_eq_getElem_cons hlong, List.take_append_drop]
    · exact List.length_take_of_le (le_of_lt hlong)
  simp only [List.mem_append, List.mem_cons, not_or] at htext
  have hbytes : bytewise (front ++ b :: tail ++ newline :: rest) =
      bytewise front ++ [b] :: bytewise (tail ++ newline :: rest) := by
    simp [bytewise]
  have hflat := (splits_bytewise front).flatten
  rw [hbytes, read_append (by simpa [hflat] using htext.1) (by simp [hflat, hfront]),
    List.nil_append, hflat,
    read_tooLong (by simpa using ⟨htext.1, htext.2.1⟩) (by simp [hfront])]

/-- The result is the same for all reads, and no line above the limit is accepted. -/
structure SegmentationFree (ending : Ending) (stream : List UInt8) : Prop where
  same : ∀ chunks chunks', Splits stream chunks → Splits stream chunks' →
    readRequestLine ending [] chunks = readRequestLine ending [] chunks'
  bounded : maxRequestLine < (firstLine stream).length → ∀ chunks, Splits stream chunks →
    ∀ line, readRequestLine ending [] chunks ≠ some (.ok line)

/-- The first line ends, and is longer than the limit by less than a read. -/
def Straddles (stream : List UInt8) : Prop :=
  newline ∈ stream ∧ maxRequestLine < (firstLine stream).length ∧
    (firstLine stream).length < maxRequestLine + chunkSize

instance (stream : List UInt8) : Decidable (Straddles stream) :=
  inferInstanceAs (Decidable (newline ∈ stream ∧ maxRequestLine < (firstLine stream).length ∧
    (firstLine stream).length < maxRequestLine + chunkSize))

/-- The reads do not matter exactly if the first line does not straddle the limit. -/
theorem segmentationFree_iff (ending : Ending) (stream : List UInt8) :
    SegmentationFree ending stream ↔ ¬ Straddles stream := by
  constructor
  · rintro ⟨hsame, -⟩ ⟨hmem, hlong, hnear⟩
    obtain ⟨line, rest, rfl, hline⟩ := List.eq_append_cons_of_mem hmem
    have hfirst : firstLine (line ++ newline :: rest) = line := by
      rw [firstLine_of_not_mem hline]
      simp [firstLine]
    rw [hfirst] at hlong hnear
    obtain ⟨chunks, hchunks, haccepted⟩ : ∃ chunks, Splits (line ++ newline :: rest) chunks ∧
        readRequestLine ending [] chunks = some (.ok (toLine line)) :=
      readRequestLine_leap hline hlong hnear
    have hrejected : readRequestLine ending [] (bytewise (line ++ newline :: rest)) =
        some (.error "request line too long") := readRequestLine_bytewise hline hlong
    rw [hsame _ _ hchunks (splits_bytewise _), hrejected] at haccepted
    cases haccepted
  · intro h
    by_cases hshort : (firstLine stream).length ≤ maxRequestLine
    · refine ⟨fun chunks chunks' hchunks hchunks' => ?_, fun hlong => absurd hshort (by omega)⟩
      rw [readRequestLine_short hchunks hshort, readRequestLine_short hchunks' hshort]
    · have hlong := not_le.mp hshort
      have hfar : newline ∈ stream → maxRequestLine + chunkSize ≤ (firstLine stream).length := by
        intro hmem
        by_contra hnear
        exact h ⟨hmem, hlong, not_le.mp hnear⟩
      have hresult : ∀ chunks, Splits stream chunks →
          readRequestLine ending [] chunks = some (.error "request line too long") :=
        fun chunks hchunks => readRequestLine_long hchunks hlong hfar
      refine ⟨fun chunks chunks' hchunks hchunks' => ?_, fun _ chunks hchunks line => ?_⟩
      · rw [hresult chunks hchunks, hresult chunks' hchunks']
      · rw [hresult chunks hchunks]
        simp

end

/-! ### A line of 8193 bytes -/

/-- Sixteen full reads. -/
def fullReads : List (List UInt8) := List.replicate 16 (List.replicate chunkSize 0x41)

def paddedLine : List UInt8 := List.replicate (maxRequestLine + 1) 0x41

theorem flatten_fullReads : fullReads.flatten = List.replicate maxRequestLine 0x41 := by
  rw [fullReads, List.flatten_replicate_replicate]
  rfl

theorem splits_padded {last : List (List UInt8)} (hflat : last.flatten = [0x41, newline])
    (hsize : ∀ chunk ∈ last, chunk ≠ [] ∧ chunk.length ≤ chunkSize) :
    Splits (paddedLine ++ [newline]) (fullReads ++ last) := by
  constructor
  · rw [List.flatten_append, flatten_fullReads, hflat, paddedLine, List.replicate_succ',
      List.append_assoc, List.singleton_append]
  · intro chunk hchunk
    rcases List.mem_append.mp hchunk with hfull | hlast
    · rw [List.eq_of_mem_replicate hfull, List.length_replicate]
      exact ⟨List.ne_nil_of_length_pos (by rw [List.length_replicate]; decide), le_rfl⟩
    · exact hsize chunk hlast

/-- It is accepted where its last byte comes with the newline, and too long where it does not. -/
theorem paddedLine_either :
    Splits (paddedLine ++ [newline]) (fullReads ++ [[0x41, newline]]) ∧
      readRequestLine .closed [] (fullReads ++ [[0x41, newline]]) =
        some (.ok (toLine paddedLine)) ∧
      Splits (paddedLine ++ [newline]) (fullReads ++ [[0x41], [newline]]) ∧
      readRequestLine .closed [] (fullReads ++ [[0x41], [newline]]) =
        some (.error "request line too long") ∧
      ¬ SegmentationFree .closed (paddedLine ++ [newline]) := by
  have hnot : newline ∉ List.replicate maxRequestLine (0x41 : UInt8) := by
    rw [List.mem_replicate]
    decide
  have hfull : ∀ rest, readRequestLine .closed [] (fullReads ++ rest) =
      readRequestLine .closed (List.replicate maxRequestLine 0x41) rest := by
    intro rest
    rw [read_append (by simpa [flatten_fullReads] using hnot)
      (by simp [flatten_fullReads]), List.nil_append, flatten_fullReads]
  have hwhole : Splits (paddedLine ++ [newline]) (fullReads ++ [[0x41, newline]]) :=
    splits_padded rfl (by decide)
  have hcut : Splits (paddedLine ++ [newline]) (fullReads ++ [[0x41], [newline]]) :=
    splits_padded rfl (by decide)
  have haccepted : readRequestLine .closed [] (fullReads ++ [[0x41, newline]]) =
      some (.ok (toLine paddedLine)) := by
    rw [hfull, read_newline (by simp), firstLine_of_not_mem hnot, paddedLine,
      List.replicate_succ']
    rfl
  have hrejected : readRequestLine .closed [] (fullReads ++ [[0x41], [newline]]) =
      some (.error "request line too long") := by
    have hlonger : newline ∉ List.replicate maxRequestLine (0x41 : UInt8) ++ [0x41] := by
      rw [← List.replicate_succ', List.mem_replicate]
      decide
    rw [hfull, read_tooLong hlonger (by simp)]
  refine ⟨hwhole, haccepted, hcut, hrejected, fun h => ?_⟩
  rw [h.same _ _ hwhole hcut, hrejected] at haccepted
  cases haccepted

end Ghostport.Metrics
