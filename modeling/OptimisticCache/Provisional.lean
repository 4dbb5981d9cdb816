import OptimisticCache.Snapshot
/-!
# Provisional values

A mutation begins by patching the keys it affects, one after the other, and
recording what it replaced.  Every placeholder gets an id of its own from a
supply that is never used twice.

Main results:

- Theorem {lit}`Provisional.agenda_begin`: patches leave the agenda of refetches
  alone.
-/

namespace OptimisticCache
namespace Provisional

/-- What is left after patching: the store, the snapshot of what was replaced, and the
number of the next placeholder. -/
structure Begun where
  store : Store
  snapshot : Snapshot
  nextPlaceholder : Nat
deriving DecidableEq

/-- Replace the value of a key and record what was there, if the value changes. -/
def replace (b : Begun) (k : QueryKey) (update : Option CacheValue → Option CacheValue)
    (now : Int) : Begun :=
  let (previous, store) := b.store.replaceWith k update now
  if (update (previous.map Entry.value)).isSome then
    { b with store, snapshot := b.snapshot.record k previous }
  else { b with store }

/-- Apply one patch. -/
def applyOne (m : MutationId) (now : Int) (b : Begun) (p : QueryKey × Patch) : Begun :=
  let patched := replace b p.1 (p.2.apply (Item.placeholderId b.nextPlaceholder) m) now
  if p.2.inserts?.isSome then { patched with nextPlaceholder := b.nextPlaceholder + 1 } else patched

/-- Apply patches in order on behalf of a mutation.  Only keys whose value changed are in
the snapshot. -/
def begin (store : Store) (nextPlaceholder : Nat) (m : MutationId)
    (patches : List (QueryKey × Patch)) (now : Int) : Begun :=
  patches.foldl (applyOne m now) ⟨store, Snapshot.empty m now, nextPlaceholder⟩

/-- Replace the value of one key by what `update` makes of it, with a snapshot. -/
def beginWith (store : Store) (m : MutationId) (k : QueryKey)
    (update : Option CacheValue → Option CacheValue) (now : Int) : Snapshot × Store :=
  let b := replace ⟨store, Snapshot.empty m now, 0⟩ k update now
  (b.snapshot, b.store)

/-- A step of a begun mutation replaces the value in the store that it has reached. -/
theorem store_replace (b : Begun) (k : QueryKey)
    (update : Option CacheValue → Option CacheValue) (now : Int) :
    (replace b k update now).store = (b.store.replaceWith k update now).2 := by
  unfold replace
  dsimp only
  split <;> rfl

/-- Applying a patch replaces the value of its key by what the patch makes of it. -/
theorem store_applyOne (m : MutationId) (now : Int) (b : Begun) (p : QueryKey × Patch) :
    (applyOne m now b p).store =
      (b.store.replaceWith p.1 (p.2.apply (Item.placeholderId b.nextPlaceholder) m) now).2 := by
  unfold applyOne
  dsimp only
  split
  · exact store_replace b p.1 _ now
  · exact store_replace b p.1 _ now

/-- Patches leave the agenda of refetches alone. -/
theorem agenda_begin (store : Store) (next : Nat) (m : MutationId)
    (ps : List (QueryKey × Patch)) (now : Int) :
    (begin store next m ps now).store.agenda = store.agenda := by
  have hfold : ∀ b : Begun, (ps.foldl (applyOne m now) b).store.agenda = b.store.agenda := by
    induction ps with
    | nil => intro b; rfl
    | cons p ps ih =>
      intro b
      rw [List.foldl_cons, ih, store_applyOne, Store.agenda_replaceWith]
  exact hfold ⟨store, Snapshot.empty m now, next⟩

end Provisional
end OptimisticCache
