import OptimisticCache.Binary64
import OptimisticCache.Table
import OptimisticCache.Text.Order
/-!
# JSON values

A number is an integer or a finite binary number; the two are different values
even when they stand for the same amount.  The members of an object stand in the
order of their names.

Main results:

- Theorem {lit}`Json.same_refl`: every value agrees with itself.
- Theorems {lit}`Json.get?_setMember_self` and {lit}`Json.get?_setMember_of_ne`: what a
  member assignment does to the members of an object.
-/

namespace OptimisticCache

instance : KeyOrder String where
  before := Text.before
  irrefl := Text.before_irrefl
  trans := Text.before_trans
  total := Text.before_total

/-- A JSON number. -/
inductive Number where
  | integer (n : Int)
  | real (x : Binary64)
deriving DecidableEq

/-- A JSON value. -/
inductive Json where
  | null
  | bool (b : Bool)
  | number (n : Number)
  | string (s : String)
  | array (items : List Json)
  | object (members : List (String × Json))
deriving Inhabited

namespace Number

/-- Equality of numbers of one kind: the two zeros agree. -/
def same : Number → Number → Bool
  | .integer m, .integer n => m = n
  | .real x, .real y => x.same y
  | _, _ => false

theorem same_refl (n : Number) : same n n = true := by
  cases n with
  | integer n => simp [same]
  | real x => exact Binary64.same_refl x

end Number

namespace Json

/-! ## Equality -/

mutual

/-- Agreement of values: numbers are compared as numbers, so the two zeros agree. -/
def same : Json → Json → Bool
  | .null, .null => true
  | .bool a, .bool b => a = b
  | .number a, .number b => a.same b
  | .string a, .string b => a = b
  | .array as, .array bs => sameItems as bs
  | .object as, .object bs => sameMembers as bs
  | _, _ => false

/-- Agreement of the items of two arrays. -/
def sameItems : List Json → List Json → Bool
  | [], [] => true
  | a :: as, b :: bs => same a b && sameItems as bs
  | _, _ => false

/-- Agreement of the members of two objects. -/
def sameMembers : List (String × Json) → List (String × Json) → Bool
  | [], [] => true
  | (m, a) :: as, (n, b) :: bs => decide (m = n) && same a b && sameMembers as bs
  | _, _ => false

end

mutual

/-- Every value agrees with itself. -/
theorem same_refl : ∀ v : Json, same v v = true
  | .null => rfl
  | .bool b => by simp [same]
  | .number n => by simp [same, Number.same_refl]
  | .string s => by simp [same]
  | .array items => by simp [same, sameItems_refl items]
  | .object members => by simp [same, sameMembers_refl members]

theorem sameItems_refl : ∀ items : List Json, sameItems items items = true
  | [] => rfl
  | v :: rest => by simp [sameItems, same_refl v, sameItems_refl rest]

theorem sameMembers_refl : ∀ members : List (String × Json), sameMembers members members = true
  | [] => rfl
  | (name, v) :: rest => by simp [sameMembers, same_refl v, sameMembers_refl rest]

end

mutual

/-- Equality of values is decidable. -/
def decEq : (v w : Json) → Decidable (v = w)
  | .null, .null => isTrue rfl
  | .bool a, .bool b =>
    if h : a = b then isTrue (h ▸ rfl) else isFalse fun e => h (Json.bool.inj e)
  | .number a, .number b =>
    if h : a = b then isTrue (h ▸ rfl) else isFalse fun e => h (Json.number.inj e)
  | .string a, .string b =>
    if h : a = b then isTrue (h ▸ rfl) else isFalse fun e => h (Json.string.inj e)
  | .array as, .array bs =>
    match decEqItems as bs with
    | isTrue h => isTrue (h ▸ rfl)
    | isFalse h => isFalse fun e => h (Json.array.inj e)
  | .object as, .object bs =>
    match decEqMembers as bs with
    | isTrue h => isTrue (h ▸ rfl)
    | isFalse h => isFalse fun e => h (Json.object.inj e)
  | .null, .bool _ | .null, .number _ | .null, .string _ | .null, .array _ | .null, .object _
  | .bool _, .null | .bool _, .number _ | .bool _, .string _ | .bool _, .array _
  | .bool _, .object _ | .number _, .null | .number _, .bool _ | .number _, .string _
  | .number _, .array _ | .number _, .object _ | .string _, .null | .string _, .bool _
  | .string _, .number _ | .string _, .array _ | .string _, .object _ | .array _, .null
  | .array _, .bool _ | .array _, .number _ | .array _, .string _ | .array _, .object _
  | .object _, .null | .object _, .bool _ | .object _, .number _ | .object _, .string _
  | .object _, .array _ => isFalse nofun

/-- Equality of lists of values is decidable. -/
def decEqItems : (as bs : List Json) → Decidable (as = bs)
  | [], [] => isTrue rfl
  | [], _ :: _ => isFalse nofun
  | _ :: _, [] => isFalse nofun
  | a :: as, b :: bs =>
    match decEq a b, decEqItems as bs with
    | isTrue h, isTrue h' => isTrue (h ▸ h' ▸ rfl)
    | isFalse h, _ => isFalse fun e => h (List.cons.inj e).1
    | _, isFalse h => isFalse fun e => h (List.cons.inj e).2

/-- Equality of lists of members is decidable. -/
def decEqMembers : (as bs : List (String × Json)) → Decidable (as = bs)
  | [], [] => isTrue rfl
  | [], _ :: _ => isFalse nofun
  | _ :: _, [] => isFalse nofun
  | (m, a) :: as, (n, b) :: bs =>
    if hn : m = n then
      match decEq a b, decEqMembers as bs with
      | isTrue h, isTrue h' => isTrue (hn ▸ h ▸ h' ▸ rfl)
      | isFalse h, _ => isFalse fun e => h (Prod.mk.inj (List.cons.inj e).1).2
      | _, isFalse h => isFalse fun e => h (List.cons.inj e).2
    else isFalse fun e => hn (Prod.mk.inj (List.cons.inj e).1).1

end

instance : DecidableEq Json :=
  decEq

/-! ## Members -/

/-- A whole number as a value. -/
def int (n : Int) : Json :=
  .number (.integer n)

/-- A text as a value, null if there is none. -/
def stringOrNull : Option String → Json
  | some s => .string s
  | none => .null

/-- The object with the given members; of two members with one name the later stays. -/
def ofMembers (members : List (String × Json)) : Json :=
  .object (Table.ofList members)

/-- The member of an object; other values have none. -/
def get? (name : String) : Json → Option Json
  | .object members => Table.get? name members
  | _ => none

/-- Set a member of an object; other values stay as they are. -/
def setMember (v : Json) (name : String) (w : Json) : Json :=
  match v with
  | .object members => .object (Table.insert name w members)
  | other => other

/-- Whether the value is an object. -/
def isObject : Json → Bool
  | .object _ => true
  | _ => false

/-- Whether the value is null. -/
def isNull : Json → Bool
  | .null => true
  | _ => false

/-- The text of a string value. -/
def text? : Json → Option String
  | .string s => some s
  | _ => none

/-- The items of an array. -/
def items? : Json → Option (List Json)
  | .array items => some items
  | _ => none

/-- A member that was set has the value it was set to. -/
theorem get?_setMember_self {v : Json} (h : v.isObject = true) (name : String) (w : Json) :
    (v.setMember name w).get? name = some w := by
  cases v with
  | object members => exact Table.get?_insert_self name w members
  | _ => cases h

/-- Setting a member leaves the other ones alone. -/
theorem get?_setMember_of_ne {name other : String} (h : other ≠ name) (v w : Json) :
    (v.setMember name w).get? other = v.get? other := by
  cases v with
  | object members => exact Table.get?_insert_of_ne h w members
  | _ => rfl

/-- Nothing is set in a value that is no object. -/
theorem setMember_of_not_object {v : Json} (h : v.isObject = false) (name : String) (w : Json) :
    v.setMember name w = v := by
  cases v with
  | object members => cases h
  | _ => rfl

/-- Of several members with one name the last one counts. -/
theorem get?_ofMembers (name : String) (members : List (String × Json)) :
    (ofMembers members).get? name = Table.get? name members.reverse :=
  Table.get?_ofList name members

/-- Setting a member is the same as giving it last. -/
theorem setMember_ofMembers (members : List (String × Json)) (name : String) (w : Json) :
    (ofMembers members).setMember name w = ofMembers (members ++ [(name, w)]) := by
  simp [ofMembers, setMember, Table.ofList]

/-- Objects that are built from lists with the same last values are the same. -/
theorem ofMembers_eq_of_get? {members members' : List (String × Json)}
    (h : ∀ name, Table.get? name members.reverse = Table.get? name members'.reverse) :
    ofMembers members = ofMembers members' := by
  apply congrArg object
  apply Table.eq_of_get? (Table.sorted_ofList _) (Table.sorted_ofList _)
  intro name
  rw [Table.get?_ofList, Table.get?_ofList, h]

/-- Setting a member puts it in the place of the values it had: a member that only others follow may
be given there as well as last. -/
theorem setMember_ofMembers_place (front old : List (String × Json))
    {back : List (String × Json)} {name : String} (hold : ∀ member ∈ old, member.1 = name)
    (hback : name ∉ Table.keys back) (w : Json) :
    (ofMembers (front ++ old ++ back)).setMember name w =
      ofMembers (front ++ (name, w) :: back) := by
  rw [setMember_ofMembers]
  apply ofMembers_eq_of_get?
  intro other
  by_cases hname : name = other
  · subst hname
    have hnone : Table.get? name back.reverse = none :=
      Table.get?_eq_none_of_not_mem (by simpa [Table.keys] using hback)
    simp [Table.get?_append, Table.get?_cons, hnone]
  · have hnone : Table.get? other old.reverse = none :=
      Table.get?_eq_none_of_not_mem fun hmem => by
        obtain ⟨member, hmember, rfl⟩ := List.mem_map.mp hmem
        exact hname (hold member (List.mem_reverse.mp hmember)).symm
    simp [Table.get?_append, Table.get?_cons, hname, hnone]

/-- Setting a member that was given once gives it another value. -/
theorem setMember_ofMembers_replace (front : List (String × Json)) {back : List (String × Json)}
    {name : String} (hback : name ∉ Table.keys back) (v w : Json) :
    (ofMembers (front ++ (name, v) :: back)).setMember name w =
      ofMembers (front ++ (name, w) :: back) := by
  have hplace := setMember_ofMembers_place front [(name, v)] (by simp) hback w
  rwa [List.append_assoc] at hplace

/-- Setting a new member is the same as giving it first. -/
theorem setMember_ofMembers_new {name : String} {members : List (String × Json)}
    (h : name ∉ Table.keys members) (w : Json) :
    (ofMembers members).setMember name w = ofMembers ((name, w) :: members) :=
  setMember_ofMembers_place [] [] (by simp) h w

/-- What a value is called in messages. -/
def kindName : Json → String
  | .null => "null"
  | .bool _ => "a boolean"
  | .number _ => "a number"
  | .string _ => "a string"
  | .array _ => "an array"
  | .object _ => "an object"

end Json
end OptimisticCache
