import OptimisticCache.Count
import OptimisticCache.Json
import OptimisticCache.Text.Decimal
/-!
# Cached items and values

A cached value is a list of items or a single record.  An item that reflects a
mutation not yet confirmed carries the identity of that mutation as its marker;
an item the server has not created yet is a placeholder, told by the first
characters of its id.

Main results:

- Theorem {lit}`Item.placeholder_isPlaceholder`: a placeholder is told by its id.
- Theorem {lit}`CacheValue.ids_list`: the ids of a list are those of its items.
-/

namespace OptimisticCache

/-- The identity of one mutation; the items that it wrote carry it as their marker. -/
structure MutationId where
  number : Nat
deriving DecidableEq

/-- The identity of a mutation as a text. -/
def MutationId.display (m : MutationId) : String :=
  "mut_" ++ Decimal.natText m.number

/-- One object in the cache. -/
structure Item where
  id : String
  data : Json
  marker : Option MutationId
deriving DecidableEq

namespace Item

/-- The characters that the id of a placeholder begins with. -/
def placeholderStart : List Char :=
  ['t', 'm', 'p', '-']

/-- The id of the `n`th placeholder. -/
def placeholderId (n : Nat) : String :=
  let ds := Decimal.digits n
  String.ofList (placeholderStart ++ "00000000-0000-4000-8000-".toList ++
    List.replicate (12 - ds.length) '0' ++ ds)

/-- An item as the server knows it. -/
def new (id : String) (data : Json) : Item :=
  ⟨id, data, none⟩

/-- An item that stands for an object not created yet; object data gets its id. -/
def placeholder (id : String) (marker : MutationId) (data : Json) : Item :=
  ⟨id, data.setMember "id" (.string id), some marker⟩

/-- Whether the item reflects an unconfirmed mutation. -/
def isProvisional (i : Item) : Bool :=
  i.marker.isSome

/-- Whether the item carries the marker of the given mutation. -/
def isMarkedBy (i : Item) (m : MutationId) : Bool :=
  i.marker = some m

/-- Whether the item exists only here, not on the server. -/
def isPlaceholder (i : Item) : Bool :=
  placeholderStart.isPrefixOf i.id.toList

/-- The item with the marker of a mutation. -/
def marked (i : Item) (m : MutationId) : Item :=
  { i with marker := some m }

/-- The item without a marker. -/
def confirmed (i : Item) : Item :=
  { i with marker := none }

/-- A field of the item's data. -/
def field? (i : Item) (name : String) : Option Json :=
  i.data.get? name

/-- A field of the item's data that holds an integer of 64 bits. -/
def count? (i : Item) (name : String) : Option Count :=
  match i.field? name with
  | some (.number (.integer n)) => Count.ofInt? n
  | _ => none

/-- Set a field of object data; other data stays. -/
def setField (i : Item) (name : String) (v : Json) : Item :=
  { i with data := i.data.setMember name v }

/-- Agreement of items: the data is compared as JSON values are. -/
def same (i j : Item) : Bool :=
  i.id = j.id && i.data.same j.data && decide (i.marker = j.marker)

/-- Write an item; the marker is left out if there is none. -/
def toJson (i : Item) : Json :=
  Json.ofMembers
    ([("id", .string i.id), ("data", i.data)] ++
      match i.marker with
      | some m => [("provisional", Json.int m.number)]
      | none => [])

theorem same_refl (i : Item) : same i i = true := by
  simp [same, Json.same_refl]

/-- Items that are shown as the same have one id. -/
theorem id_eq_of_same {i j : Item} (h : same i j = true) : i.id = j.id := by
  simp only [same, Bool.and_eq_true, decide_eq_true_eq] at h
  exact h.1.1

/-- They belong to the same pending mutation, or both to none. -/
theorem marker_eq_of_same {i j : Item} (h : same i j = true) : i.marker = j.marker := by
  simp only [same, Bool.and_eq_true, decide_eq_true_eq] at h
  exact h.2

/-- The id alone tells whether an item is a placeholder. -/
theorem isPlaceholder_eq_of_id_eq {i j : Item} (h : i.id = j.id) :
    i.isPlaceholder = j.isPlaceholder := by
  rw [isPlaceholder, isPlaceholder, h]

/-- A placeholder is told by its id. -/
theorem placeholder_isPlaceholder (n : Nat) (m : MutationId) (data : Json) :
    (placeholder (placeholderId n) m data).isPlaceholder = true := by
  simp [isPlaceholder, placeholder, placeholderId, List.isPrefixOf_iff_prefix,
    List.append_assoc]

/-- Different placeholders have different ids. -/
theorem placeholderId_injective {n n' : Nat} (h : placeholderId n = placeholderId n') : n = n' := by
  have hlists := String.ofList_injective h
  simp only [List.append_assoc, List.append_cancel_left_eq] at hlists
  have hvalues := congrArg Decimal.value? hlists
  rw [Decimal.value?_replicate_zero, Decimal.value?_replicate_zero, Decimal.value_digits,
    Decimal.value_digits] at hvalues
  exact Option.some.inj hvalues

/-- A confirmed item reflects no mutation. -/
@[simp]
theorem confirmed_marker (i : Item) : i.confirmed.marker = none :=
  rfl

/-- A marked item reflects the mutation it is marked with. -/
@[simp]
theorem marked_marker (i : Item) (m : MutationId) : (i.marked m).marker = some m :=
  rfl

end Item

/-- The value under one key: a list of items, or a single record. -/
inductive CacheValue where
  | list (items : List Item)
  | record (item : Item)
deriving DecidableEq

namespace CacheValue

/-- The items of a value; a record is one item. -/
def items : CacheValue → List Item
  | list is => is
  | record i => [i]

/-- Whether the value is a list. -/
def isList : CacheValue → Bool
  | list _ => true
  | record _ => false

/-- Whether the value is a record. -/
def isRecord : CacheValue → Bool
  | list _ => false
  | record _ => true

/-- The number of items. -/
def size (v : CacheValue) : Nat :=
  v.items.length

/-- The ids of the items, in order. -/
def ids (v : CacheValue) : List String :=
  v.items.map Item.id

/-- The first item with an id. -/
def find? (v : CacheValue) (id : String) : Option Item :=
  v.items.find? fun i => i.id = id

/-- Whether some item carries the marker of a mutation. -/
def containsMarker (v : CacheValue) (m : MutationId) : Bool :=
  v.items.any fun i => i.isMarkedBy m

/-- Whether some item is provisional. -/
def hasProvisional (v : CacheValue) : Bool :=
  v.items.any Item.isProvisional

/-- Agreement of lists of items. -/
def sameItems : List Item → List Item → Bool
  | [], [] => true
  | a :: as, b :: bs => a.same b && sameItems as bs
  | _, _ => false

/-- Agreement of values. -/
def same : CacheValue → CacheValue → Bool
  | list as, list bs => sameItems as bs
  | record a, record b => a.same b
  | _, _ => false

/-- Write a value, with the kind it is of. -/
def toJson : CacheValue → Json
  | list items => Json.ofMembers [("kind", .string "list"), ("value", .array (items.map Item.toJson))]
  | record item => Json.ofMembers [("kind", .string "record"), ("value", item.toJson)]

/-- A mutation is pending in a value exactly if an item of the value is marked with it. -/
theorem containsMarker_iff {v : CacheValue} {m : MutationId} :
    v.containsMarker m = true ↔ ∃ i ∈ v.items, i.marker = some m := by
  simp [containsMarker, Item.isMarkedBy]

/-- The ids of a list are those of its items. -/
@[simp]
theorem ids_list (is : List Item) : (list is).ids = is.map Item.id :=
  rfl

/-- A record has one id. -/
@[simp]
theorem ids_record (i : Item) : (record i).ids = [i.id] :=
  rfl

/-- Every list of items agrees with itself. -/
theorem sameItems_refl (is : List Item) : sameItems is is = true := by
  induction is with
  | nil => rfl
  | cons i is ih => simp [sameItems, Item.same_refl, ih]

/-- Lists that agree carry the same markers. -/
theorem any_isMarkedBy_of_sameItems {is js : List Item} (h : sameItems is js = true)
    (m : MutationId) :
    (is.any fun i => i.isMarkedBy m) = js.any fun i => i.isMarkedBy m := by
  induction is generalizing js with
  | nil =>
    cases js with
    | nil => rfl
    | cons j js => cases h
  | cons i is ih =>
    cases js with
    | nil => cases h
    | cons j js =>
      simp only [sameItems, Bool.and_eq_true] at h
      have hhead : i.isMarkedBy m = j.isMarkedBy m := by
        simp [Item.isMarkedBy, Item.marker_eq_of_same h.1]
      rw [List.any_cons, List.any_cons, hhead, ih h.2]

/-- Of two lists that agree, the one has an item that agrees with any given item of the other. -/
theorem exists_same_of_sameItems {is js : List Item} (h : sameItems is js = true) {j : Item}
    (hj : j ∈ js) : ∃ i ∈ is, i.same j = true := by
  induction is generalizing js with
  | nil =>
    cases js with
    | nil => cases hj
    | cons j' js => cases h
  | cons i is ih =>
    cases js with
    | nil => cases h
    | cons j' js =>
      simp only [sameItems, Bool.and_eq_true] at h
      rcases List.mem_cons.mp hj with rfl | hj
      · exact ⟨i, List.mem_cons_self, h.1⟩
      · rcases ih h.2 hj with ⟨i', hi', hsame⟩
        exact ⟨i', List.mem_cons_of_mem i hi', hsame⟩

/-- Values that agree carry the same markers. -/
theorem containsMarker_eq_of_same {v w : CacheValue} (h : same v w = true) (m : MutationId) :
    v.containsMarker m = w.containsMarker m := by
  cases v with
  | list is =>
    cases w with
    | list js => exact any_isMarkedBy_of_sameItems h m
    | record j => cases h
  | record i =>
    cases w with
    | list js => cases h
    | record j => simp [containsMarker, items, Item.isMarkedBy, Item.marker_eq_of_same h]

end CacheValue
end OptimisticCache
