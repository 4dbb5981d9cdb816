import OptimisticCache.Backend.Request
import OptimisticCache.Http.Status
import OptimisticCache.Text.Charset
import OptimisticCache.Url
/-!
# Messages of HTTP

A request as it is sent over a connection, and a response as it is received.  A
body may come with its length, in chunks, or up to the end of the connection.

Main results:

- Theorem {lit}`HttpRequest.isHeaderText_of_mem_headers`: all headers of a request
  to a well-formed address may be sent.
- Theorem {lit}`HttpResponse.splitLine_length`: what follows the first line is
  shorter than the whole.
-/

namespace OptimisticCache

/-- A request as it is sent. -/
structure HttpRequest where
  method : Method
  url : Url
  authorization : Option String
  userAgent : String
  /-- The payload as a text of JSON. -/
  payload : Option String

/-- A response as it is received. -/
structure HttpResponse where
  status : HttpStatus
  contentType : Option String
  body : List UInt8
deriving DecidableEq

namespace HttpRequest

/-- Whether a text may be sent in a header: it has no controls but tabs. -/
def isHeaderText (text : String) : Bool :=
  text.toList.all fun c => (0x20 ≤ c.toNat && c.toNat ≠ 0x7F) || c = '\t'

/-- The type of the payload. -/
def contentType (r : HttpRequest) : Option String :=
  r.payload.map fun _ => "application/json"

/-- The host and the port as they stand in the header of the request. -/
def hostText (r : HttpRequest) : List Char :=
  r.url.host.chars ++
    match r.url.port with
    | some p => ':' :: Decimal.digits p
    | none => []

/-- The headers of a request. -/
def headers (r : HttpRequest) : List (String × String) :=
  [("accept", "*/*"), ("user-agent", r.userAgent), ("host", String.ofList r.hostText),
    ("connection", "close")] ++
    (match r.authorization with
      | some a => [("authorization", a)]
      | none => []) ++
    match r.payload with
    | some p =>
      [("content-type", "application/json"), ("content-length", Decimal.natText p.utf8ByteSize)]
    | none => []

/-- The text that is sent over the connection. -/
def wire (r : HttpRequest) : String :=
  let line := r.method.name ++ " " ++ String.ofList r.url.target ++ " HTTP/1.1\r\n"
  let headers := r.headers.map fun h => h.1 ++ ": " ++ h.2 ++ "\r\n"
  line ++ String.join headers ++ "\r\n" ++ r.payload.getD ""

/-! ## Headers that may be sent -/

/-- A text without controls may be sent in a header. -/
theorem isHeaderText_ofList {cs : List Char}
    (h : ∀ c ∈ cs, 0x20 ≤ c.toNat ∧ c.toNat ≠ 0x7F) : isHeaderText (String.ofList cs) = true := by
  rw [isHeaderText, String.toList_ofList, List.all_eq_true]
  intro c hc
  simp [h c hc]

/-- A digit is no control. -/
theorem not_control_of_mem_digits {n : Nat} {c : Char} (h : c ∈ Decimal.digits n) :
    0x20 ≤ c.toNat ∧ c.toNat ≠ 0x7F := by
  have hdigit := Decimal.isDigit_of_mem_digits h
  unfold Decimal.isDigit Decimal.digit? at hdigit
  split at hdigit
  · omega
  · cases hdigit

/-- The host and port of an address that was read may be sent in a header. -/
theorem isHeaderText_hostText {r : HttpRequest} (h : r.url.WellFormed) :
    isHeaderText (String.ofList r.hostText) = true := by
  refine isHeaderText_ofList fun c hc => ?_
  rcases List.mem_append.mp hc with hhost | hport
  · obtain hallowed | rfl | rfl | rfl := h.host c hhost
    · simp only [Domain.isForbidden, Bool.or_eq_false_iff, decide_eq_false_iff_not] at hallowed
      omega
    all_goals decide
  · split at hport
    · rcases List.mem_cons.mp hport with rfl | hdigit
      · decide
      · exact not_control_of_mem_digits hdigit
    · cases hport

/-- All headers of a request may be sent, if those that its caller chose may. -/
theorem isHeaderText_of_mem_headers {r : HttpRequest} (hurl : r.url.WellFormed)
    (hagent : isHeaderText r.userAgent = true)
    (hauthorization : r.authorization.all isHeaderText = true) {header : String × String}
    (h : header ∈ r.headers) : isHeaderText header.2 = true := by
  rcases List.mem_append.mp h with h | hpayload
  · rcases List.mem_append.mp h with hfixed | hcredentials
    · simp only [List.mem_cons, List.not_mem_nil, or_false] at hfixed
      obtain rfl | rfl | rfl | rfl := hfixed
      · decide
      · exact hagent
      · exact isHeaderText_hostText hurl
      · decide
    · split at hcredentials
      · rename_i a ha
        obtain rfl := List.mem_singleton.mp hcredentials
        rwa [ha] at hauthorization
      · cases hcredentials
  · split at hpayload
    · simp only [List.mem_cons, List.not_mem_nil, or_false] at hpayload
      obtain rfl | rfl := hpayload
      · decide
      · exact isHeaderText_ofList fun _ => not_control_of_mem_digits
    · cases hpayload

end HttpRequest

namespace HttpResponse

/-! ## The body as a text -/

/-- The value of a parameter of a media type. -/
def parameter? (mediaType name : String) : Option String :=
  ((mediaType.toList.splitOn ';').drop 1).findSome? fun p =>
    match p.splitOn '=' with
    | key :: value :: more =>
      let bare (cs : List Char) : List Char :=
        ((cs.dropWhile (· = ' ')).reverse.dropWhile (· = ' ')).reverse
      let value := bare (List.intercalate ['='] (value :: more))
      if (String.ofList (bare key)).toLower = name then
        some (String.ofList (value.filter (· ≠ '"')))
      else none
    | _ => none

/-- The body as a text in the set that the content type tells, or in UTF-8. -/
def text (r : HttpResponse) : String :=
  let name := (r.contentType.bind fun t => parameter? t "charset").getD "utf-8"
  (Charset.ofName name).decode r.body

/-! ## Reading a response -/

/-- The bytes of a line end. -/
def lineEnd : List UInt8 :=
  [13, 10]

/-- The first line without its end, and what follows. -/
def splitLine : List UInt8 → Option (List UInt8 × List UInt8)
  | 13 :: 10 :: rest => some ([], rest)
  | b :: rest => (splitLine rest).map fun r => (b :: r.1, r.2)
  | [] => none

/-- The rest after the first line is shorter. -/
theorem splitLine_length {bytes line rest : List UInt8} (h : splitLine bytes = some (line, rest)) :
    rest.length < bytes.length := by
  fun_induction splitLine bytes generalizing line with
  | case1 rest' =>
    obtain ⟨_, rfl⟩ := Prod.mk.inj (Option.some.inj h)
    simp only [List.length_cons]
    omega
  | case2 b rest' _ ih =>
    obtain ⟨⟨line', rest''⟩, hsplit, heq⟩ := Option.map_eq_some_iff.mp h
    obtain ⟨_, rfl⟩ := Prod.mk.inj heq
    exact Nat.lt_succ_of_lt (ih hsplit)
  | case3 => cases h

/-- A line as a text. -/
def lineText (line : List UInt8) : String :=
  Charset.decode .western line

/-- The headers up to the blank line, with their names in lower case, and the bytes of the
body. -/
def headers (bytes : List UInt8) : Option (List (String × String) × List UInt8) :=
  match h : splitLine bytes with
  | none => none
  | some ([], rest) => some ([], rest)
  | some (line, rest) =>
    have := splitLine_length h
    match headers rest with
    | none => none
    | some (more, body) =>
      let cs := (lineText line).toList
      let value := (cs.dropWhile (· ≠ ':')).drop 1
      let value := ((value.dropWhile (· = ' ')).reverse.dropWhile (· = ' ')).reverse
      some (((String.ofList (cs.takeWhile (· ≠ ':'))).toLower, String.ofList value) :: more, body)
termination_by bytes.length

/-- The size in the line before a chunk. -/
def chunkSize? (line : List UInt8) : Option Nat :=
  match (lineText line).toList.takeWhile fun c => (Hex.value? c).isSome with
  | [] => none
  | digits => Ipv4.readDigits? 16 digits

/-- The bytes of a body that is sent in chunks, each after a line with its size; none if the
body breaks off. -/
def unchunk (bytes : List UInt8) : Option (List UInt8) :=
  match h : splitLine bytes with
  | none => none
  | some (line, rest) =>
    have := splitLine_length h
    match chunkSize? line with
    | none => none
    | some 0 => some []
    | some size =>
      if rest.length < size + 2 then none
      else (unchunk (rest.drop (size + 2))).map fun body => rest.take size ++ body
termination_by bytes.length

/-- The status in the first line of a response. -/
def statusOf (line : List UInt8) : Option HttpStatus :=
  match (lineText line).toList.splitOn ' ' with
  | version :: code :: _ =>
    if "HTTP/1.".toList.isPrefixOf version then (Decimal.readNat code).map HttpStatus.mk else none
  | _ => none

/-- Read the bytes that a connection brought until it was closed; none if they are no whole
response. -/
def ofBytes (bytes : List UInt8) : Option HttpResponse := do
  let (line, rest) ← splitLine bytes
  let status ← statusOf line
  let (headers, body) ← headers rest
  let contentType := headers.lookup "content-type"
  if status.code = 204 ∨ status.code = 304 then return ⟨status, contentType, []⟩
  if headers.lookup "transfer-encoding" = some "chunked" then
    return ⟨status, contentType, ← unchunk body⟩
  match headers.lookup "content-length" with
  | none => return ⟨status, contentType, body⟩
  | some length =>
    let size ← Decimal.readNat length.toList
    if body.length < size then none else return ⟨status, contentType, body.take size⟩

end HttpResponse
end OptimisticCache
