import OptimisticCache.Json.Parser
import OptimisticCache.Json.Record
import OptimisticCache.Text.Blank
/-!
# Answers of the backend

An answer is an envelope of a status, a message, the data and, for lists, the
page they are on.  A body that is no envelope is the data itself.

Main results:

- Theorem {lit}`Envelope.ofBody_without_data`: a body without a data member is
  the data itself.
-/

namespace OptimisticCache

/-- The page that a list is on. -/
structure Pagination where
  page : UInt64 := 0
  limit : UInt64 := 0
  total : UInt64 := 0
  totalPages : UInt64 := 0
deriving DecidableEq

namespace Pagination

/-- The fields of a page, each with its other names. -/
def fields : List Record.Field :=
  [⟨["page"], true⟩,
    ⟨["limit", "per_page", "pageSize"], true⟩,
    ⟨["total", "total_count", "totalCount"], true⟩,
    ⟨["total_pages", "totalPages", "pages"], true⟩]

/-- Read a page. -/
def ofJson? (v : Json) : Option Pagination :=
  match Record.slots? fields v with
  | some [page, limit, total, totalPages] => do
    let page ← Record.wordOrZero? page
    let limit ← Record.wordOrZero? limit
    let total ← Record.wordOrZero? total
    let totalPages ← Record.wordOrZero? totalPages
    pure { page, limit, total, totalPages }
  | _ => none

/-- A number of 64 bits as a value. -/
def wordJson (n : UInt64) : Json :=
  Json.int n.toNat

/-- Write a page. -/
def toJson (p : Pagination) : Json :=
  Json.ofMembers
    [("page", wordJson p.page),
      ("limit", wordJson p.limit),
      ("total", wordJson p.total),
      ("total_pages", wordJson p.totalPages)]

end Pagination

/-- What the backend answers. -/
structure Envelope where
  status : Json := .null
  message : Option String := none
  data : Json := .null
  pagination : Option Pagination := none
deriving DecidableEq

namespace Envelope

/-- The fields of an envelope. -/
def fields : List Record.Field :=
  [⟨["status"], true⟩, ⟨["message"], true⟩, ⟨["data"], true⟩, ⟨["pagination"], true⟩]

/-- A successful answer with data. -/
def ok (data : Json) : Envelope :=
  { status := .string "success", data }

/-- Read the page of an envelope: it may be missing or null. -/
def pagination? : Option Json → Option (Option Pagination)
  | none | some .null => some none
  | some v => (Pagination.ofJson? v).map some

/-- Read an envelope. -/
def ofJson? (v : Json) : Option Envelope :=
  match Record.slots? fields v with
  | some [status, message, data, pagination] => do
    let message ← Record.optionalText? message
    let pagination ← pagination? pagination
    pure { status := status.getD .null, message, data := data.getD .null, pagination }
  | _ => none

/-- Write an envelope; the page is left out if there is none. -/
def toJson (e : Envelope) : Json :=
  Json.ofMembers
    ([("status", e.status), ("message", Json.stringOrNull e.message), ("data", e.data)] ++
      match e.pagination with
      | some p => [("pagination", p.toJson)]
      | none => [])

/-- Whether a body has a data member, so that it may be an envelope. -/
def hasData (body : Json) : Bool :=
  (body.get? "data").isSome

/-- Interpret a decoded body. -/
def ofBody (body : Json) : Envelope :=
  if hasData body then (ofJson? body).getD { data := body } else { data := body }

/-- The members in which an error body may give its reason. -/
def reasonNames : List String :=
  ["message", "error", "detail"]

/-- The reason that the body of a refused request gives: a text member of a JSON body, else
the whole body without the blanks at its ends, else the fallback. -/
def errorReason (body fallback : String) : String :=
  match (Json.parse? body).bind fun v =>
      reasonNames.findSome? fun name => (v.get? name).bind Json.text? with
  | some reason => reason
  | none => if Text.isAllBlank body then fallback else Text.trim body

/-- A body without a data member is the data itself. -/
theorem ofBody_without_data {body : Json} (h : body.get? "data" = none) :
    ofBody body = { data := body } := by
  simp [ofBody, hasData, h]

end Envelope
end OptimisticCache
