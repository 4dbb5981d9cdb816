import OptimisticCache.Payload.Chain
import OptimisticCache.Payload.Comment
import OptimisticCache.Payload.Project
/-!
# Payloads of a query

The data that answers a query is a single object, or the rows of a list for the
collection kinds; the rows may stand in an object under one of several names.

Main results:

- Theorem {lit}`Payload.exists_normalizeItem_of_normalizeValue`: the items of an
  answer are read from payloads of the kind that was asked for.
-/

namespace OptimisticCache
namespace Payload

/-- Normalize one object of a kind. -/
def normalizeItem (entity : Entity) (v : Json) : Except CacheError Item :=
  match entity with
  | .comments | .userComments => (Comment.normalize v).map Comment.toItem
  | .project => (Project.normalize v).map Project.toItem
  | .chainPosts => (ChainPost.normalize v).map ChainPost.toItem
  | .chain => (Chain.normalize v).map Chain.toItem

/-- The names under which the rows of a list may stand. -/
def rowNames : List String :=
  ["items", "results", "comments", "posts", "rows"]

/-- The rows of a list payload. -/
def rows? : Json → Option (List Json)
  | .array rows => some rows
  | v => rowNames.findSome? fun name => (v.get? name).bind Json.items?

/-- Normalize rows in order; the first bad row decides the error. -/
def normalizeRows (entity : Entity) : List Json → Except CacheError (List Item)
  | [] => .ok []
  | row :: rest => do
    let item ← normalizeItem entity row
    let items ← normalizeRows entity rest
    pure (item :: items)

/-- Normalize the data that answers a query into the value that is cached. -/
def normalizeValue (entity : Entity) (data : Json) : Except CacheError CacheValue :=
  if entity.isCollection then
    match rows? data with
    | some rows => (normalizeRows entity rows).map CacheValue.list
    | none => .error (.payload entity.name (.notAList data))
  else (normalizeItem entity data).map CacheValue.record

/-- Rows are normalized if the first one is and the others are. -/
theorem exists_of_normalizeRows_cons {entity : Entity} {row : Json} {rest : List Json}
    {items : List Item} (h : normalizeRows entity (row :: rest) = .ok items) :
    ∃ item items', normalizeItem entity row = .ok item ∧ normalizeRows entity rest = .ok items' ∧
      items = item :: items' := by
  simp only [normalizeRows, bind, Except.bind, pure, Except.pure] at h
  split at h
  · cases h
  · rename_i item hitem
    split at h
    · cases h
    · rename_i items' hitems
      exact ⟨item, items', hitem, hitems, (Except.ok.inj h).symm⟩

/-- The items of a list are read from its rows. -/
theorem exists_normalizeItem_of_normalizeRows {entity : Entity} {rows : List Json}
    {items : List Item} (h : normalizeRows entity rows = .ok items) :
    ∀ i ∈ items, ∃ row, normalizeItem entity row = .ok i := by
  induction rows generalizing items with
  | nil =>
    obtain rfl := Except.ok.inj h
    exact List.forall_mem_nil _
  | cons row rest ih =>
    rcases exists_of_normalizeRows_cons h with ⟨item, items', hitem, hitems, rfl⟩
    exact List.forall_mem_cons.mpr ⟨⟨row, hitem⟩, ih hitems⟩

/-- The items of the answer to a query are read from payloads of its kind. -/
theorem exists_normalizeItem_of_normalizeValue {entity : Entity} {data : Json} {value : CacheValue}
    (h : normalizeValue entity data = .ok value) :
    ∀ i ∈ value.items, ∃ payload, normalizeItem entity payload = .ok i := by
  unfold normalizeValue at h
  split at h
  · split at h
    · rcases CacheError.exists_of_map_eq_ok h with ⟨items, hitems, rfl⟩
      exact exists_normalizeItem_of_normalizeRows hitems
    · cases h
  · rcases CacheError.exists_of_map_eq_ok h with ⟨item, hitem, rfl⟩
    exact List.forall_mem_singleton.mpr ⟨data, hitem⟩

end Payload
end OptimisticCache
