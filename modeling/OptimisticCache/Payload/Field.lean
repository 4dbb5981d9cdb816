import OptimisticCache.Error
import OptimisticCache.Text.Blank
/-!
# Fields of a payload

Backends spell one field in several ways.  A field is looked for under a list of
candidate places, each a path of member names; a null counts as missing.

Main results:

- Theorem {lit}`Payload.pickCount_integer`: an integer in range is read exactly.
- Theorem {lit}`Payload.follow_append`: a path of two parts is followed one part
  after the other.
-/

namespace OptimisticCache

/-- The member names that lead to a field. -/
abbrev FieldPath := List String

/-- The path as it is written in messages. -/
def FieldPath.display (path : FieldPath) : String :=
  String.intercalate "." path

namespace Payload

/-- The value at the end of a path. -/
def follow (v : Json) : FieldPath → Option Json
  | [] => some v
  | name :: rest =>
    match v.get? name with
    | some inner => follow inner rest
    | none => none

/-- The value at the end of a path, unless it is null. -/
def lookup (v : Json) (path : FieldPath) : Option Json :=
  match follow v path with
  | some .null => none
  | found => found

/-- The first value that is present. -/
def pick (v : Json) (names : List FieldPath) : Option Json :=
  names.findSome? (lookup v)

/-- A string as it is and a number as its text. -/
def textOf? : Json → Option String
  | .string s => some s
  | .number n => some n.text
  | _ => none

/-- The first candidate that holds a string or a number, as a text. -/
def pickText (v : Json) (names : List FieldPath) : Option String :=
  names.findSome? fun path => (lookup v path).bind textOf?

/-- The whole number of 64 bits that a binary number stands for, unless it is as large as the end
of the range. -/
def realCount? (x : Binary64) : Option Count :=
  x.toInt?.bind fun n => if n.natAbs < 0x8000000000000000 then Count.ofInt? n else none

/-- The whole number of 64 bits that a number stands for.  An integer beyond the range is looked
at once more as the nearest binary number. -/
def wholeCount? : Number → Option Count
  | .integer n =>
    (Count.ofInt? n).or ((Binary64.ofNat? (decide (n < 0)) n.natAbs).bind realCount?)
  | .real x => realCount? x

/-- What a candidate says about a counter: nothing unless it is a number or a string, and
otherwise the whole number of 64 bits that it stands for, if there is one. -/
def countOf? : Json → Option (Option Count)
  | .number n => some (wholeCount? n)
  | .string s => some ((Decimal.readInt (Text.trimChars s.toList)).bind Count.ofInt?)
  | _ => none

/-- A counter: the first candidate that holds a number or a string decides, and zero is the
value when there is none.  What is not a whole number is refused rather than truncated. -/
def pickCount (subject : String) (v : Json) : List FieldPath → Except CacheError Count
  | [] => .ok Count.zero
  | path :: rest =>
    match lookup v path with
    | none => pickCount subject v rest
    | some found =>
      match countOf? found with
      | none => pickCount subject v rest
      | some (some c) => .ok c
      | some none => .error (.payload subject (.notWhole path.display found))

/-- The object inside a wrapper, if there is one under an accepted name. -/
def unwrap (wrappers : List String) (v : Json) : Json :=
  (wrappers.findSome? fun name => (v.get? name).filter Json.isObject).getD v

/-- The identifier of an object. -/
def requireId (subject : String) (v : Json) (names : List FieldPath) : Except CacheError String :=
  if v.isObject then
    match pickText v names with
    | some id => .ok id
    | none => .error (.payload subject .missingIdentifier)
  else .error (.payload subject (.notAnObject v))

/-- A path of two parts is followed one part after the other. -/
theorem follow_append (v : Json) (front back : FieldPath) :
    follow v (front ++ back) = (follow v front).bind fun inner => follow inner back := by
  induction front generalizing v with
  | nil => rfl
  | cons name front ih =>
    simp only [List.cons_append, follow]
    split
    · exact ih _
    · rfl

/-- A path that begins with a missing member leads nowhere. -/
theorem lookup_of_absent {v : Json} {name : String} (h : v.get? name = none) (rest : FieldPath) :
    lookup v (name :: rest) = none := by
  rw [lookup, follow, h]

/-- A text is found under its own name. -/
theorem lookup_text {v : Json} {name s : String} (h : v.get? name = some (.string s)) :
    lookup v [name] = some (.string s) := by
  simp [lookup, follow, h]

/-- An integer is found under its own name. -/
theorem lookup_int {v : Json} {name : String} {n : Int} (h : v.get? name = some (Json.int n)) :
    lookup v [name] = some (Json.int n) := by
  simp [lookup, follow, h, Json.int]

/-- A null counts as missing. -/
theorem lookup_null {v : Json} {name : String} (h : v.get? name = some .null) :
    lookup v [name] = none := by
  simp [lookup, follow, h]

/-- A string under the first name is the text that is picked. -/
theorem pickText_text {v : Json} {name s : String} (h : v.get? name = some (.string s))
    (rest : List FieldPath) : pickText v ([name] :: rest) = some s := by
  simp [pickText, lookup_text h, textOf?]

/-- A text that may be missing is read under its own name if nothing is found elsewhere. -/
theorem pickText_stringOrNull {v : Json} {name : String} {s : Option String}
    (h : v.get? name = some (Json.stringOrNull s)) {rest : List FieldPath}
    (hrest : ∀ path ∈ rest, lookup v path = none) : pickText v ([name] :: rest) = s := by
  cases s with
  | some s => exact pickText_text h rest
  | none =>
    have hnone : ∀ path ∈ rest, (lookup v path).bind textOf? = none := by
      intro path hpath
      rw [hrest path hpath]
      rfl
    simpa [pickText, lookup_null h] using hnone

/-- Without the wrapper an object is taken as it is. -/
theorem unwrap_of_absent {v : Json} {wrappers : List String}
    (h : ∀ name ∈ wrappers, v.get? name = none) : unwrap wrappers v = v := by
  have hnone : wrappers.findSome? (fun name => (v.get? name).filter Json.isObject) = none := by
    rw [List.findSome?_eq_none_iff]
    intro name hname
    rw [h name hname]
    rfl
  rw [unwrap, hnone]
  rfl

/-- A string under the first name is the id that is required. -/
theorem requireId_text {v : Json} {name id : String} (hobject : v.isObject = true)
    (h : v.get? name = some (.string id)) (subject : String) (rest : List FieldPath) :
    requireId subject v ([name] :: rest) = .ok id := by
  rw [requireId, if_pos hobject, pickText_text h]

/-- An integer in range is read exactly. -/
theorem pickCount_integer {subject : String} {v : Json} {path : FieldPath} {rest : List FieldPath}
    {c : Count} (h : lookup v path = some (Json.int c.value)) :
    pickCount subject v (path :: rest) = .ok c := by
  simp [pickCount, h, countOf?, Json.int, wholeCount?]

end Payload
end OptimisticCache
