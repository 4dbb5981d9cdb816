import OptimisticCache.Count
import OptimisticCache.Json
/-!
# Records in JSON

A record with fixed fields is read from an object, by the names of its fields, or
from an array, by their places.  A field may be given under any one of its
names, but not twice; members with other names are ignored.  In an array only
fields with a default may be missing, at the end, and nothing may follow the last
field.
-/

namespace OptimisticCache
namespace Record

/-- A field of a record. -/
structure Field where
  /-- The accepted names, the one that is written in front. -/
  names : List String
  /-- Whether the field has a default, so that it may be missing in an array. -/
  hasDefault : Bool
deriving DecidableEq

/-- The value given for a field by the members of an object: none if it is missing; the whole
reading fails if it is given twice. -/
def namedSlot? (members : List (String × Json)) (f : Field) : Option (Option Json) :=
  match members.filter fun m => f.names.contains m.1 with
  | [] => some none
  | [m] => some (some m.2)
  | _ => none

/-- The values given for all fields by the members of an object. -/
def namedSlots? (members : List (String × Json)) : List Field → Option (List (Option Json))
  | [] => some []
  | f :: fs =>
    match namedSlot? members f, namedSlots? members fs with
    | some slot, some slots => some (slot :: slots)
    | _, _ => none

/-- The values given for all fields by the items of an array. -/
def placedSlots? : List Field → List Json → Option (List (Option Json))
  | [], [] => some []
  | [], _ :: _ => none
  | f :: fs, [] =>
    if f.hasDefault then (placedSlots? fs []).map fun slots => none :: slots else none
  | _ :: fs, v :: vs => (placedSlots? fs vs).map fun slots => some v :: slots

/-- The values given for the fields of a record. -/
def slots? (fields : List Field) : Json → Option (List (Option Json))
  | .object members => namedSlots? members fields
  | .array items => placedSlots? fields items
  | _ => none

/-- A text that must be there. -/
def text? : Option Json → Option String
  | some (.string s) => some s
  | _ => none

/-- A text that may be missing or null. -/
def optionalText? : Option Json → Option (Option String)
  | none | some .null => some none
  | some (.string s) => some (some s)
  | _ => none

/-- A counter that must be there. -/
def count? : Option Json → Option Count
  | some (.number (.integer n)) => Count.ofInt? n
  | _ => none

/-- A number of 64 bits without a sign. -/
def word? : Json → Option UInt64
  | .number (.integer n) =>
    if 0 ≤ n ∧ n < UInt64.size then some (UInt64.ofNat n.toNat) else none
  | _ => none

/-- A number of 64 bits without a sign, zero if it is missing. -/
def wordOrZero? : Option Json → Option UInt64
  | none => some 0
  | some v => word? v

end Record
end OptimisticCache
