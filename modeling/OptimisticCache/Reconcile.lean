import OptimisticCache.Patch
/-!
# Reconciliation

When a mutation commits, the authoritative item that the server answered with is
folded into the values that the mutation had patched.  Afterwards no item carries
the marker of the mutation: its placeholders are replaced or dropped, and the
items it had edited lose the marker.

Main results:

- Theorem {lit}`Reconcile.containsMarker_stripMarker`: stripping leaves no item
  with the marker.
- Theorem {lit}`Reconcile.value_absent`: an absent key gets a value only from an
  insertion with an item.
- Theorem {lit}`Reconcile.value_present`: a cached value gets the merged one, or stays.
-/

namespace OptimisticCache
namespace Reconcile

/-- Replace the first item that satisfies a condition. -/
def replaceFirst (p : Item → Bool) (s : Item) (items : List Item) : List Item :=
  Item.changeFirst p (fun _ => s) items

/-- Whether an item is a placeholder of the mutation. -/
def isOwnPlaceholder (m : MutationId) (i : Item) : Bool :=
  i.isMarkedBy m && i.isPlaceholder

/-- Fold a new item in: in place of an item with its id, else in place of the placeholder of
the mutation, else in front. -/
def insertItem (m : MutationId) (s : Item) (items : List Item) : List Item :=
  if items.any fun i => i.id = s.id then replaceFirst (fun i => i.id = s.id) s items
  else if items.any (isOwnPlaceholder m) then replaceFirst (isOwnPlaceholder m) s items
  else s :: items

/-- Drop the placeholders of the mutation and confirm the items it had edited. -/
def stripMarker (m : MutationId) (items : List Item) : List Item :=
  (items.filter fun i => !isOwnPlaceholder m i).map fun i =>
    if i.isMarkedBy m then i.confirmed else i

/-- Fold the authoritative item into a list, before the marker is stripped. -/
def mergeList (m : MutationId) (rule : MergeRule) (authoritative : Option Item)
    (items : List Item) : List Item :=
  match rule, authoritative with
  | .insert, some s => insertItem m s items
  | .insert, none => items
  | .update id, some s => if s.id = id then replaceFirst (fun i => i.id = id) s items else items
  | .update _, none => items
  | .remove id, _ => items.eraseP fun i => i.id = id

/-- A list after the mutation. -/
def list (m : MutationId) (rule : MergeRule) (authoritative : Option Item)
    (items : List Item) : List Item :=
  stripMarker m (mergeList m rule authoritative items)

/-- A record without the marker of the mutation. -/
def stripRecord (m : MutationId) (record : Item) : Item :=
  if record.isMarkedBy m then record.confirmed else record

/-- A record after the mutation: the authoritative item if it is about this record. -/
def record (m : MutationId) (rule : MergeRule) (authoritative : Option Item)
    (record : Item) : Item :=
  match rule, authoritative with
  | .update id, some s => if record.id = id ∧ s.id = id then s else stripRecord m record
  | _, _ => stripRecord m record

/-- The outcome for a cached value. -/
def present (m : MutationId) (rule : MergeRule) (authoritative : Option Item) :
    CacheValue → CacheValue
  | .list items => .list (list m rule authoritative items)
  | .record item => .record (record m rule authoritative item)

/-- The replacement of the value under a key, or none when nothing changes. -/
def value (m : MutationId) (rule : MergeRule) (authoritative : Option Item) :
    Option CacheValue → Option CacheValue
  | none =>
    match rule, authoritative with
    | .insert, some s => some (.list [s])
    | _, _ => none
  | some current =>
    let next := present m rule authoritative current
    if current.same next then none else some next

/-- An item in place of another one with its id changes no id. -/
theorem map_id_replaceFirst_of_id (s : Item) (id : String) (hs : s.id = id) (is : List Item) :
    (replaceFirst (fun i => i.id = id) s is).map Item.id = is.map Item.id := by
  apply Item.map_id_changeFirst
  intro i hi
  rw [hs, of_decide_eq_true hi]

/-- Stripping leaves no item with the marker. -/
theorem containsMarker_stripMarker (m : MutationId) (items : List Item) :
    (stripMarker m items).any (fun i => i.isMarkedBy m) = false := by
  rw [List.any_eq_false]
  intro i hi
  obtain ⟨j, _, rfl⟩ := List.mem_map.mp hi
  by_cases h : j.marker = some m
  · simp [Item.isMarkedBy, h]
  · simp [Item.isMarkedBy, h]

/-- An absent key gets a value only from an insertion with an item. -/
theorem value_absent {m : MutationId} {rule : MergeRule} {authoritative : Option Item}
    {v : CacheValue} (h : value m rule authoritative none = some v) :
    rule = .insert ∧ ∃ s, authoritative = some s ∧ v = .list [s] := by
  unfold value at h
  dsimp only at h
  split at h
  · exact ⟨rfl, _, rfl, (Option.some.inj h).symm⟩
  · cases h

/-- A cached value gets no value but the merged one. -/
theorem value_present {m : MutationId} {rule : MergeRule} {authoritative : Option Item}
    {current v : CacheValue} (h : value m rule authoritative (some current) = some v) :
    v = present m rule authoritative current := by
  simp only [value] at h
  split at h
  · cases h
  · exact (Option.some.inj h).symm

end Reconcile
end OptimisticCache
