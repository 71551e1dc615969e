import Ghostport.Core.Wire
import Ghostport.Lib.Http
import Ghostport.Metrics.Http
import Ghostport.Metrics.Render

/-!
# The response to a scrape (`crates/ghostport-metrics/src/http.rs`)

Results:
* `response_text`: what `http_response` writes is the text of a response whose length is right.
* `splitWhitespace_trim`: `trim` takes nothing from the words of a line.
* `scrape_answered`: what a client gets for a request whose first line is not too long.
-/

namespace Ghostport.Metrics

open Ghostport.Core Ghostport.Net
open Ghostport.Lib

/-! ## Model -/

/-- `str::split_whitespace`. -/
def splitWhitespace (s : List Char) : List (List Char) :=
  (s.splitOnP isWhitespace).filter (· ≠ [])

/-- `parse_request_path` (lines 115-123). -/
def parseRequestPath (requestLine : String) : Option String :=
  match splitWhitespace requestLine.toList with
  | method :: path :: _ => if method = "GET".toList then some (String.ofList path) else none
  | _ => none

/-- `http_response` (lines 64-69). -/
def httpResponse (status : ℕ) (reason contentType body : String) : String :=
  "HTTP/1.1 " ++ number status ++ " " ++ reason ++ "\r\nContent-Type: " ++ contentType ++
    "\r\nContent-Length: " ++ number (utf8 body.toList).length ++
    "\r\nConnection: close\r\n\r\n" ++ body

/-- `query_snapshot` (lines 71-81): `none` is what `timeout` makes of a query that takes longer
    than `QUERY_TIMEOUT`. -/
def querySnapshot (query : Option (Except String StatusSnapshot)) : Option StatusSnapshot :=
  match query with
  | some (.ok snapshot) => some snapshot
  | _ => none

/-- `handle_connection` (lines 44-62), with what `read_request_line` returns before
    `REQUEST_READ_TIMEOUT`: what it writes, if anything. -/
def handleConnection (requestLine : Option (Except String String))
    (query : Option (Except String StatusSnapshot)) : Option String :=
  match requestLine with
  | some (.ok line) =>
    match parseRequestPath line with
    | some "/metrics" =>
      some (httpResponse 200 "OK" "text/plain; version=0.0.4" (render (querySnapshot query)))
    | _ => some (httpResponse 404 "Not Found" "text/plain" "not found\n")
  | _ => none

/-! ## The text of a response -/

/-- What `http_response` writes, as a response. -/
def responseOf (status : ℕ) (reason contentType body : String) : Http.Response where
  status := status
  reason := reason.toList
  fields :=
    [("Content-Type".toList, contentType.toList),
      ("Content-Length".toList, decimal (utf8 body.toList).length),
      ("Connection".toList, "close".toList)]
  body := utf8 body.toList

/-- Texts of a head whose characters are all ASCII. -/
def IsAscii (s : String) : Prop := s.toList.all fun c => Http.isText c && c.toNat < 128

instance (s : String) : Decidable (IsAscii s) := inferInstanceAs (Decidable (_ = true))

theorem IsAscii.spec {s : String} (h : IsAscii s) :
    ∀ c ∈ s.toList, Http.isText c ∧ c.toNat < 128 := by
  intro c hc
  have hchar := List.all_eq_true.mp h c hc
  simpa only [Bool.and_eq_true, decide_eq_true_eq] using hchar

theorem IsAscii.latin {s : String} (h : IsAscii s) :
    ∀ c ∈ s.toList, Http.isText c ∧ c.toNat < 256 :=
  fun c hc => ⟨(h.spec c hc).1, lt_trans (h.spec c hc).2 (by decide)⟩

theorem utf8_ascii {text : List Char} (h : ∀ c ∈ text, c.toNat < 128) :
    utf8 text = Http.bytes text := by
  induction text with
  | nil => rfl
  | cons c text ih =>
    have hc : String.utf8EncodeChar c = [c.toNat.toUInt8] := by
      have hsize : c.utf8Size = 1 := by
        rw [Char.utf8Size_eq_one_iff, UInt32.le_iff_toNat_le]
        exact Nat.le_of_lt_succ (h c List.mem_cons_self)
      rw [String.utf8EncodeChar_eq_singleton hsize]
      rfl
    rw [utf8, List.flatMap_cons, hc, Http.bytes, List.map_cons, List.singleton_append]
    exact congrArg (_ :: ·) (ih fun d hd => h d (List.mem_cons_of_mem _ hd))

theorem ascii_decimal (n : ℕ) : ∀ c ∈ decimal n, c.toNat < 128 := by
  intro c hc
  have hdigit : c.isDigit := Nat.isDigit_of_mem_toDigits (by decide) (by decide) hc
  simp only [Char.isDigit, Bool.and_eq_true, decide_eq_true_eq, UInt32.le_iff_toNat_le] at hdigit
  exact Nat.lt_of_le_of_lt hdigit.2 (by decide)

theorem utf8_number (n : ℕ) : utf8 (number n).toList = Http.bytes (decimal n) := by
  rw [number, String.toList_ofList]
  exact utf8_ascii (ascii_decimal n)

theorem utf8_concat (s t : String) : utf8 (s ++ t).toList = utf8 s.toList ++ utf8 t.toList := by
  rw [String.toList_append]
  exact utf8_append _ _

theorem response_text {status : ℕ} {reason contentType : String} (body : String)
    (hreason : IsAscii reason) (htype : IsAscii contentType) :
    utf8 (httpResponse status reason contentType body).toList =
      (responseOf status reason contentType body).text := by
  have hhttp : utf8 "HTTP/1.1 ".toList = Http.bytes Http.version := by decide +kernel
  have hspace : utf8 " ".toList = Http.bytes [' '] := by decide +kernel
  have htypeField : utf8 "\r\nContent-Type: ".toList =
      [Http.cr, Http.lf] ++ Http.bytes ("Content-Type".toList ++ [':', ' ']) := by decide +kernel
  have hlengthField : utf8 "\r\nContent-Length: ".toList =
      [Http.cr, Http.lf] ++ Http.bytes ("Content-Length".toList ++ [':', ' ']) := by decide +kernel
  have hclose : utf8 "\r\nConnection: close\r\n\r\n".toList =
      [Http.cr, Http.lf] ++ Http.bytes ("Connection".toList ++ ':' :: ' ' :: "close".toList) ++
        [Http.cr, Http.lf, Http.cr, Http.lf] := by decide +kernel
  have hreason := utf8_ascii fun c hc => (hreason.spec c hc).2
  have htype := utf8_ascii fun c hc => (htype.spec c hc).2
  delta httpResponse
  simp only [utf8_concat, utf8_number, hhttp, hspace, htypeField, hlengthField, hclose, hreason,
    htype]
  unfold Http.Response.text Http.Response.lines Http.statusLine Http.fieldLine responseOf
  -- the literals are not to be evaluated
  generalize "Content-Type".toList = typeName
  generalize "Content-Length".toList = lengthName
  generalize "Connection".toList = connectionName
  generalize "close".toList = close
  simp only [List.map_cons, List.map_nil, List.flatMap_cons, List.flatMap_nil, List.append_nil,
    List.append_assoc, Http.bytes, List.map_append, List.cons_append, List.nil_append, decimal]

theorem splitWhitespace_cons {c : Char} (hc : isWhitespace c) (s : List Char) :
    splitWhitespace (c :: s) = splitWhitespace s := by
  unfold splitWhitespace
  rw [List.splitOnP_cons_eq_if_modifyHead, if_pos hc]
  rfl

theorem splitWhitespace_concat {c : Char} (hc : isWhitespace c) (s : List Char) :
    splitWhitespace (s ++ [c]) = splitWhitespace s := by
  unfold splitWhitespace
  rw [List.splitOnP_append_cons _ _ hc, List.splitOnP_nil, List.filter_append]
  simp

theorem splitWhitespace_dropWhile (s : List Char) :
    splitWhitespace (s.dropWhile isWhitespace) = splitWhitespace s := by
  induction s with
  | nil => rfl
  | cons c s ih =>
    by_cases hc : isWhitespace c
    · rw [List.dropWhile_cons_of_pos hc, ih, splitWhitespace_cons hc]
    · rw [List.dropWhile_cons_of_neg hc]

theorem splitWhitespace_rdropWhile (s : List Char) :
    splitWhitespace (s.rdropWhile isWhitespace) = splitWhitespace s := by
  induction s using List.reverseRecOn with
  | nil => rfl
  | append_singleton s c ih =>
    by_cases hc : isWhitespace c
    · rw [List.rdropWhile_concat_pos _ _ _ hc, ih, splitWhitespace_concat hc]
    · rw [List.rdropWhile_concat_neg _ _ _ hc]

theorem splitWhitespace_trim (s : List Char) : splitWhitespace (trim s) = splitWhitespace s := by
  rw [trim, splitWhitespace_rdropWhile, splitWhitespace_dropWhile]

theorem isDigit_decimal (n : ℕ) : ∀ c ∈ decimal n, c.isDigit :=
  fun _ hc => Nat.isDigit_of_mem_toDigits (by decide) (by decide) hc

theorem trimBlanks_decimal (n : ℕ) : Http.trimBlanks (decimal n) = decimal n := by
  apply Http.trimBlanks_of_forall
  intro c hc
  have hdigit := isDigit_decimal n c hc
  rw [Http.isBlank, Bool.or_eq_false_iff]
  constructor <;>
  · rw [decide_eq_false_iff_not]
    rintro rfl
    exact absurd hdigit (by decide)

theorem contentLength_responseOf (status : ℕ) (reason contentType body : String) :
    Http.contentLength (responseOf status reason contentType body).fields =
      some (utf8 body.toList).length := by
  have htype : "Content-Type".toList.map Char.toLower ≠ "content-length".toList := by
    decide +kernel
  have hlength : "Content-Length".toList.map Char.toLower = "content-length".toList := by
    decide +kernel
  have hclose : "Connection".toList.map Char.toLower ≠ "content-length".toList := by
    decide +kernel
  have hvalues : Http.valuesOf "content-length".toList
      (responseOf status reason contentType body).fields =
        [decimal (utf8 body.toList).length] := by
    rw [responseOf, Http.valuesOf_cons_of_ne htype, Http.valuesOf_cons_of_eq hlength,
      Http.valuesOf_cons_of_ne hclose]
    rfl
  have hdigits : (decimal (utf8 body.toList).length).all Char.isDigit :=
    List.all_eq_true.mpr (isDigit_decimal _)
  rw [Http.contentLength, hvalues]
  simp only
  rw [if_pos ⟨Nat.toDigits_ne_nil, hdigits⟩, decimal,
    Nat.ofDigitChars_toDigits (by decide) (by decide)]

theorem responseOf_wellFormed {status : ℕ} {reason contentType : String} (body : String)
    (hstatus : (decimal status).length = 3) (hreason : IsAscii reason)
    (htype : IsAscii contentType)
    (htrim : Http.trimBlanks contentType.toList = contentType.toList) :
    (responseOf status reason contentType body).WellFormed where
  status := hstatus
  reason := hreason.latin
  names := by
    have hnames : ["Content-Type", "Content-Length", "Connection"].all fun name =>
        !name.toList.isEmpty && name.toList.all Http.isToken := by decide +kernel
    have hname : ∀ name ∈ ["Content-Type", "Content-Length", "Connection"],
        name.toList ≠ [] ∧ ∀ c ∈ name.toList, Http.isToken c := by
      intro name hmem
      have hboth := List.all_eq_true.mp hnames name hmem
      simpa only [Bool.and_eq_true, Bool.not_eq_true', List.isEmpty_eq_false_iff,
        List.all_eq_true] using hboth
    intro f hf
    have hmem : f.1 ∈ (responseOf status reason contentType body).fields.map Prod.fst :=
      List.mem_map_of_mem hf
    obtain ⟨name, hname', heq⟩ := List.mem_map.mp (show f.1 ∈
      ["Content-Type", "Content-Length", "Connection"].map String.toList from hmem)
    exact heq ▸ hname name hname'
  values := by
    intro f hf
    simp only [responseOf, List.mem_cons, List.not_mem_nil, or_false] at hf
    rcases hf with rfl | rfl | rfl
    · exact ⟨htype.latin, htrim⟩
    · exact ⟨fun c hc => Http.isText_of_isDigit (isDigit_decimal _ c hc), trimBlanks_decimal _⟩
    · have hclose : IsAscii "close" := by decide +kernel
      exact ⟨hclose.latin, by decide +kernel⟩
  length := contentLength_responseOf status reason contentType body

/-! ## Scrapes -/

section

variable {ending : Ending} {stream : List UInt8} {chunks : List (List UInt8)}

/-- The path that the first line of a stream asks for. -/
def requestedPath (stream : List UInt8) : Option (List Char) :=
  match splitWhitespace (fromUtf8Lossy (firstLine stream)) with
  | method :: path :: _ => if method = "GET".toList then some path else none
  | _ => none

theorem parseRequestPath_toLine (stream : List UInt8) :
    parseRequestPath (toLine (firstLine stream)) =
      (requestedPath stream).map String.ofList := by
  unfold parseRequestPath requestedPath toLine
  rw [String.toList_ofList, splitWhitespace_trim]
  split
  · split <;> rfl
  · rfl

/-- The responses of the exporter are read by any client: all of a response with nothing of what
    follows, and none from a part of it. -/
structure Answers (text : String) (response : Http.Response) : Prop where
  read : ∀ tail, Http.read (utf8 text.toList ++ tail) = .done response tail
  cut : ∀ part missing, part ++ missing = utf8 text.toList → missing ≠ [] →
    Http.read part = .more

theorem answers_httpResponse {status : ℕ} {reason contentType : String} (body : String)
    (hstatus : (decimal status).length = 3) (hreason : IsAscii reason)
    (htype : IsAscii contentType)
    (htrim : Http.trimBlanks contentType.toList = contentType.toList) :
    Answers (httpResponse status reason contentType body)
      (responseOf status reason contentType body) := by
  have hwell := responseOf_wellFormed body hstatus hreason htype htrim
  have htext := @response_text status _ _ body hreason htype
  constructor
  case read =>
    intro tail
    rw [htext]
    exact Http.read_text hwell tail
  case cut =>
    intro part missing hcut hmissing
    rw [htext] at hcut
    exact Http.read_cut hwell hcut hmissing

/-- What a scrape is answered with. -/
def scrapeResponse (stream : List UInt8) (query : Option (Except String StatusSnapshot)) :
    Http.Response :=
  if requestedPath stream = some "/metrics".toList then
    responseOf 200 "OK" "text/plain; version=0.0.4" (render (querySnapshot query))
  else responseOf 404 "Not Found" "text/plain" "not found\n"

theorem handleConnection_line (stream : List UInt8)
    (query : Option (Except String StatusSnapshot)) :
    ∃ text, handleConnection (some (.ok (toLine (firstLine stream)))) query = some text ∧
      Answers text (scrapeResponse stream query) := by
  unfold handleConnection scrapeResponse
  simp only
  rw [parseRequestPath_toLine]
  by_cases hpath : requestedPath stream = some "/metrics".toList
  · rw [if_pos hpath, hpath]
    refine ⟨_, rfl, ?_⟩
    apply answers_httpResponse <;> decide +kernel
  · rw [if_neg hpath]
    have hother : (requestedPath stream).map String.ofList ≠ some "/metrics" := by
      intro hsome
      obtain ⟨path, hpath', heq⟩ := Option.map_eq_some_iff.mp hsome
      rw [hpath', ← heq, String.toList_ofList] at hpath
      exact hpath rfl
    split
    · rename_i heq
      exact absurd heq hother
    · refine ⟨_, rfl, ?_⟩
      apply answers_httpResponse <;> decide +kernel

theorem lineRead_closed (h : newline ∈ stream ∨ ending = .closed) :
    lineRead ending stream = some (.ok (toLine (firstLine stream))) := by
  unfold lineRead
  by_cases hmem : newline ∈ stream
  · rw [if_pos hmem]
  · obtain rfl := h.resolve_left hmem
    have hall := @firstLine_of_not_mem stream hmem []
    rw [List.append_nil] at hall
    rw [if_neg hmem, readRequestLine, hall, firstLine, List.takeWhile_nil, List.append_nil]

theorem handleConnection_open (hmem : newline ∉ stream) (hending : ending ≠ .closed)
    (query : Option (Except String StatusSnapshot)) :
    handleConnection (lineRead ending stream) query = none := by
  unfold lineRead
  rw [if_neg hmem]
  cases ending with
  | closed => exact absurd rfl hending
  | failed e => rfl
  | stalled => rfl

/-- However the bytes of a request come, and whatever the daemon answers: a line that ends, or
    that the other side ends, gets one response, which any client reads from the bytes written
    and from no part of them; nothing is written without a line. -/
theorem scrape_answered (ending : Ending) (query : Option (Except String StatusSnapshot))
    (hchunks : Splits stream chunks) (hline : (firstLine stream).length ≤ maxRequestLine) :
    (newline ∈ stream ∨ ending = .closed →
      ∃ text, handleConnection (readRequestLine ending [] chunks) query = some text ∧
        Answers text (scrapeResponse stream query)) ∧
    (newline ∉ stream → ending ≠ .closed →
      handleConnection (readRequestLine ending [] chunks) query = none) := by
  rw [readRequestLine_short hchunks hline]
  constructor
  · intro hend
    rw [lineRead_closed hend]
    exact handleConnection_line stream query
  · intro hmem hending
    exact handleConnection_open hmem hending query

end

/-- A request in two reads, while the daemon is down. -/
theorem scrape_answered_down :
    ∃ text, handleConnection (readRequestLine .stalled []
        [utf8 "GET /me".toList, utf8 "trics HTTP/1.1\r\n\r\n".toList]) none = some text ∧
      Answers text (responseOf 200 "OK" "text/plain; version=0.0.4" (render none)) := by
  have hchunks : Splits (utf8 "GET /metrics HTTP/1.1\r\n\r\n".toList)
      [utf8 "GET /me".toList, utf8 "trics HTTP/1.1\r\n\r\n".toList] :=
    ⟨by decide +kernel, by decide +kernel⟩
  have hpath : requestedPath (utf8 "GET /metrics HTTP/1.1\r\n\r\n".toList) =
      some "/metrics".toList := by decide +kernel
  have hanswer :=
    (scrape_answered .stalled none hchunks (by decide +kernel)).1 (.inl (by decide +kernel))
  rw [scrapeResponse, if_pos hpath] at hanswer
  exact hanswer

end Ghostport.Metrics
