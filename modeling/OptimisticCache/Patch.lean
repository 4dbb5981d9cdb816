import OptimisticCache.Item
/-!
# Provisional changes

A patch changes the value under one key before the server has answered: it puts
a placeholder into a list, edits an item, or drops an item.  What it touches
carries the marker of the mutation.  A patch that does not fit the value leaves
the key as it is.

Main results:

- Theorem {lit}`Patch.effect_of_apply`: the ways in which a patch takes effect.
- Theorem {lit}`Item.exists_changeFirst_eq`: an edit changes the first item that it
  is meant for and no other one.
-/

namespace OptimisticCache

/-- A change of one field of an item. -/
inductive FieldEdit where
  /-- Set the field to a value. -/
  | set (field : String) (value : Json)
  /-- Change a counter, which never drops below zero. -/
  | add (field : String) (delta : Count)
deriving DecidableEq

namespace FieldEdit

/-- The field that is changed. -/
def field : FieldEdit → String
  | set f _ | add f _ => f

/-- The value that the field gets. -/
def result (i : Item) : FieldEdit → Json
  | set _ v => v
  | add f delta => Json.int (((i.count? f).getD Count.zero).adjust delta).value

/-- The item after the edit; data that is no object stays. -/
def apply (e : FieldEdit) (i : Item) : Item :=
  i.setField e.field (e.result i)

end FieldEdit

/-- The item after all edits, with the marker of a mutation. -/
def Item.edited (i : Item) (edits : List FieldEdit) (m : MutationId) : Item :=
  (edits.foldl (fun i e => e.apply i) i).marked m

/-- How the authoritative result of a mutation is folded in. -/
inductive MergeRule where
  /-- A new object: it replaces its placeholder, or is merged in. -/
  | insert
  /-- The object with an id was edited. -/
  | update (id : String)
  /-- The object with an id was removed. -/
  | remove (id : String)
deriving DecidableEq

/-- A provisional change of the value under one key. -/
inductive Patch where
  /-- Put a placeholder in front of a list. -/
  | prepend (data : Json)
  /-- Put a placeholder behind a list. -/
  | append (data : Json)
  /-- Edit the item with an id, in a list or as the record. -/
  | update (id : String) (edits : List FieldEdit)
  /-- Drop the item with an id from a list. -/
  | remove (id : String)
deriving DecidableEq

/-- Replace the first item that satisfies a condition by its image. -/
def Item.changeFirst (p : Item → Bool) (f : Item → Item) : List Item → List Item
  | [] => []
  | i :: is => if p i then f i :: is else i :: changeFirst p f is

/-- After the first item was changed, every item is the changed one or was there before. -/
theorem Item.mem_changeFirst {p : Item → Bool} {f : Item → Item} {i : Item} {is : List Item}
    (h : i ∈ changeFirst p f is) : (∃ j ∈ is, i = f j) ∨ i ∈ is := by
  induction is with
  | nil => cases h
  | cons j js ih =>
    simp only [changeFirst] at h
    split at h
    · rcases List.mem_cons.mp h with rfl | h
      · exact Or.inl ⟨j, by simp, rfl⟩
      · exact Or.inr (by simp [h])
    · rcases List.mem_cons.mp h with rfl | h
      · exact Or.inr (by simp)
      · rcases ih h with ⟨j', hj', rfl⟩ | h
        · exact Or.inl ⟨j', by simp [hj'], rfl⟩
        · exact Or.inr (by simp [h])

/-- A change that keeps the id of the item that it meets keeps all ids. -/
theorem Item.map_id_changeFirst {p : Item → Bool} {f : Item → Item}
    (hf : ∀ i, p i = true → (f i).id = i.id) (is : List Item) :
    (changeFirst p f is).map Item.id = is.map Item.id := by
  induction is with
  | nil => rfl
  | cons i is ih =>
    unfold changeFirst
    by_cases hi : p i = true
    · rw [if_pos hi, List.map_cons, List.map_cons, hf i hi]
    · rw [if_neg hi, List.map_cons, List.map_cons, ih]

/-- Changing the first item of two lists in a row that satisfies a condition. -/
theorem Item.changeFirst_append (p : Item → Bool) (f : Item → Item) (is js : List Item) :
    changeFirst p f (is ++ js) =
      if is.any p then changeFirst p f is ++ js else is ++ changeFirst p f js := by
  induction is with
  | nil => rfl
  | cons i is ih =>
    by_cases hi : p i = true
    · simp [changeFirst, hi]
    · rw [List.cons_append, changeFirst, changeFirst, if_neg hi, if_neg hi, ih, List.any_cons,
        Bool.eq_false_iff.mpr hi, Bool.false_or]
      split <;> rfl

/-- Nothing is changed if no item satisfies the condition. -/
theorem Item.changeFirst_of_any_eq_false {p : Item → Bool} {is : List Item}
    (h : is.any p = false) (f : Item → Item) : changeFirst p f is = is := by
  have hnil := changeFirst_append p f is []
  simpa [h, changeFirst] using hnil

/-- If there is an item that satisfies a condition, the first of them is changed. -/
theorem Item.exists_changeFirst_eq {p : Item → Bool} {is : List Item} (h : is.any p = true)
    (f : Item → Item) :
    ∃ front i back, is = front ++ i :: back ∧ front.any p = false ∧ p i = true ∧
      changeFirst p f is = front ++ f i :: back := by
  induction is with
  | nil => cases h
  | cons j js ih =>
    by_cases hj : p j = true
    · exact ⟨[], j, js, rfl, rfl, hj, if_pos hj⟩
    · have hjs : js.any p = true := by simpa [hj] using h
      rcases ih hjs with ⟨front, i, back, rfl, hfront, hi, hchange⟩
      refine ⟨j :: front, i, back, rfl, by simp [hj, hfront], hi, ?_⟩
      rw [changeFirst, if_neg hj, hchange, List.cons_append]

namespace Patch

/-- Add to one counter of the item with an id. -/
def increment (id field : String) (delta : Count) : Patch :=
  update id [.add field delta]

/-- How the result of a mutation with this patch is folded in. -/
def rule : Patch → MergeRule
  | prepend _ | append _ => .insert
  | update id _ => .update id
  | remove id => .remove id

/-- The value after the patch, on behalf of a mutation; `freshId` is the id of the
placeholder if one is needed.  None means that the key stays as it is: only an insertion
makes a value where none is cached, a list with the placeholder alone. -/
def apply (freshId : String) (m : MutationId) : Patch → Option CacheValue → Option CacheValue
  | prepend data, none | append data, none => some (.list [Item.placeholder freshId m data])
  | prepend data, some (.list items) => some (.list (Item.placeholder freshId m data :: items))
  | append data, some (.list items) => some (.list (items ++ [Item.placeholder freshId m data]))
  | update id edits, some (.list items) =>
    if items.any fun i => i.id = id then
      some (.list (Item.changeFirst (fun i => i.id = id) (fun i => i.edited edits m) items))
    else none
  | update id edits, some (.record item) =>
    if item.id = id then some (.record (item.edited edits m)) else none
  | remove id, some (.list items) =>
    if items.any fun i => i.id = id then some (.list (items.eraseP fun i => i.id = id)) else none
  | prepend _, some (.record _) | append _, some (.record _) | update _ _, none
  | remove _, none | remove _, some (.record _) => none

/-- The data of the placeholder that a patch inserts, if it inserts one. -/
def inserts? : Patch → Option Json
  | prepend data | append data => some data
  | update _ _ | remove _ => none

/-- What a patch that takes effect makes of the value under its key. -/
inductive Effect (freshId : String) (m : MutationId) :
    Patch → Option CacheValue → CacheValue → Prop where
  | created {p : Patch} {data : Json} (h : p.inserts? = some data) :
    Effect freshId m p none (.list [Item.placeholder freshId m data])
  | inserted {p : Patch} {data : Json} (h : p.inserts? = some data) (front back : List Item) :
    Effect freshId m p (some (.list (front ++ back)))
      (.list (front ++ Item.placeholder freshId m data :: back))
  | changed (id : String) (edits : List FieldEdit) (items : List Item) :
    Effect freshId m (update id edits) (some (.list items))
      (.list (Item.changeFirst (fun i => i.id = id) (fun i => i.edited edits m) items))
  | edited (item : Item) (edits : List FieldEdit) :
    Effect freshId m (update item.id edits) (some (.record item)) (.record (item.edited edits m))
  | removed (id : String) (items : List Item) :
    Effect freshId m (remove id) (some (.list items)) (.list (items.eraseP fun i => i.id = id))

/-- A patch takes effect in one of five ways. -/
theorem effect_of_apply {p : Patch} {freshId : String} {m : MutationId}
    {current : Option CacheValue} {v : CacheValue} (h : apply freshId m p current = some v) :
    Effect freshId m p current v := by
  rcases current with _ | items | item
  · cases p with
    | prepend data | append data =>
      cases h
      exact .created rfl
    | update id edits | remove id => cases h
  · cases p with
    | prepend data =>
      cases h
      exact .inserted rfl [] items
    | append data =>
      cases h
      have hinserted : Effect freshId m (append data) (some (.list (items ++ [])))
          (.list (items ++ [Item.placeholder freshId m data])) := .inserted rfl items []
      rwa [List.append_nil] at hinserted
    | update id edits =>
      simp only [apply] at h
      split at h
      · cases h
        exact .changed id edits items
      · cases h
    | remove id =>
      simp only [apply] at h
      split at h
      · cases h
        exact .removed id items
      · cases h
  · cases p with
    | prepend data | append data | remove id => cases h
    | update id edits =>
      simp only [apply] at h
      split at h
      · rename_i hid
        cases h
        subst hid
        exact .edited item edits
      · cases h

end Patch
end OptimisticCache
