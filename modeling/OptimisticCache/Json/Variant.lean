import OptimisticCache.Json.Printer
/-!
# Named variants in JSON

A variant of a choice is given by its name, or by an object whose only member
has the name and is null.

Main results:

- Theorem {lit}`Variant.read_eq_ok_iff`: which values name a listed variant.
-/

namespace OptimisticCache
namespace Variant

/-- Why a value is no variant. -/
inductive Fault where
  /-- The name is not listed. -/
  | unknown (found : String) (expected : List String)
  /-- The value is neither a string nor an object. -/
  | notNamed (found : Json)
  /-- The object does not have exactly one member. -/
  | notSingle
  /-- The member is not null. -/
  | notUnit (found : Json)
deriving DecidableEq

/-- A character of a quoted text in a message. -/
def debugEscape (c : Char) : List Char :=
  if c = '"' ∨ c = '\\' then ['\\', c]
  else if c = '\n' then ['\\', 'n']
  else if c = '\r' then ['\\', 'r']
  else if c = '\t' then ['\\', 't']
  else if c.toNat = 0 then ['\\', '0']
  else if c.toNat < 32 ∨ (127 ≤ c.toNat ∧ c.toNat < 160) then
    "\\u\x7b".toList ++ (if c.toNat < 16 then [] else [Hex.lower (c.toNat / 16)]) ++
      [Hex.lower (c.toNat % 16), '\x7d']
  else [c]

/-- What a value is called in messages about its type. -/
def describe : Json → String
  | .null => "null"
  | .bool true => "boolean `true`"
  | .bool false => "boolean `false`"
  | .number (.integer n) => "integer `" ++ Decimal.intText n ++ "`"
  | .number n => "floating point `" ++ n.text ++ "`"
  | .string s => String.ofList ("string \"".toList ++ s.toList.flatMap debugEscape ++ ['"'])
  | .array _ => "sequence"
  | .object _ => "map"

/-- The names that were expected. -/
def expectation : List String → String
  | [] => "there are no variants"
  | [a] => "expected `" ++ a ++ "`"
  | [a, b] => "expected `" ++ a ++ "` or `" ++ b ++ "`"
  | names => "expected one of " ++ String.intercalate ", " (names.map fun n => "`" ++ n ++ "`")

/-- The fault in words. -/
def Fault.message : Fault → String
  | unknown found expected => "unknown variant `" ++ found ++ "`, " ++ expectation expected
  | notNamed found => "invalid type: " ++ describe found ++ ", expected string or map"
  | notSingle => "invalid value: map, expected map with a single key"
  | notUnit found => "invalid type: " ++ describe found ++ ", expected unit"

/-- Accept a listed name. -/
def listed (names : List String) (name : String) : Except Fault String :=
  if names.contains name then .ok name else .error (.unknown name names)

/-- Read the name of a variant. -/
def read (names : List String) : Json → Except Fault String
  | .string name => listed names name
  | .object [(name, content)] =>
    match listed names name with
    | .error fault => .error fault
    | .ok name => if content.isNull then .ok name else .error (.notUnit content)
  | .object _ => .error .notSingle
  | v => .error (.notNamed v)

/-- A name that is accepted is listed. -/
theorem listed_eq_ok_iff {names : List String} {found name : String} :
    listed names found = .ok name ↔ name ∈ names ∧ found = name := by
  by_cases hfound : found ∈ names
  · simp only [listed, List.contains_eq_mem, hfound, decide_true, if_true, Except.ok.injEq]
    exact ⟨fun h => ⟨h ▸ hfound, h⟩, And.right⟩
  · simp only [listed, List.contains_eq_mem, hfound, decide_false, Bool.false_eq_true, if_false,
      reduceCtorEq, false_iff]
    rintro ⟨hname, rfl⟩
    exact hfound hname

/-- A variant is read from a listed name, or from an object that gives null to a listed name and
nothing else, and from no other value. -/
theorem read_eq_ok_iff {names : List String} {v : Json} {name : String} :
    read names v = .ok name ↔
      name ∈ names ∧ (v = .string name ∨ v = .object [(name, .null)]) := by
  unfold read
  split
  · simp [listed_eq_ok_iff]
  · rename_i found content
    cases hlisted : listed names found with
    | error fault =>
      have hnot : found = name → name ∉ names := by
        rintro rfl hmem
        rw [listed_eq_ok_iff.mpr ⟨hmem, rfl⟩] at hlisted
        cases hlisted
      simp only [reduceCtorEq, Json.object.injEq, List.cons.injEq, Prod.mk.injEq, false_or,
        false_iff]
      rintro ⟨hmem, ⟨hname, -⟩, -⟩
      exact hnot hname hmem
    | ok found' =>
      obtain ⟨hmem, rfl⟩ := listed_eq_ok_iff.mp hlisted
      cases content <;> simp [Json.isNull]
      rintro rfl
      exact hmem
  · rename_i hsingle
    simp only [reduceCtorEq, Json.object.injEq, false_or, false_iff]
    rintro ⟨-, rfl⟩
    exact hsingle _ _ rfl
  · rename_i v hstring hobject hother
    simp only [reduceCtorEq, false_iff]
    rintro ⟨-, rfl | rfl⟩
    · exact hstring _ rfl
    · exact hother _ rfl

end Variant
end OptimisticCache
