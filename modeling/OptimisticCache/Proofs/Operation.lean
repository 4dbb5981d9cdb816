import OptimisticCache.Subscription
/-!
# Operations on a store

The operations that a store is exposed to, as data, so that statements can range
over every run of them.  Reads that only look do not change the store and are left
out.

An operation writes the entry of at most one key.  All other entries keep their
value and their instant, and an invalidation is the only thing that changes their
stale bit.

Main results:

- Theorem {lit}`Store.entryAt?_perform`: what an operation does to an entry that it
  does not write.
-/

namespace OptimisticCache

/-- One operation on a store. -/
inductive StoreOp where
  | get (k : QueryKey) (now : Int)
  | subscribe (k : QueryKey)
  | unsubscribe (sub : Subscription)
  | invalidate (k : QueryKey)
  | set (k : QueryKey) (v : CacheValue) (now : Int)
  /-- The result of a refetch is stored. -/
  | setFetched (k : QueryKey) (v : CacheValue) (now : Int)
  | replaceWith (k : QueryKey) (update : Option CacheValue → Option CacheValue) (now : Int)
  | remove (k : QueryKey)
  /-- A worker takes the first waiting key off the refetch queue. -/
  | takeQueued
  /-- The refetch slot of a key is freed. -/
  | completeRefetch (k : QueryKey)

namespace StoreOp

/-- Whether the operation writes the entry of a key. -/
def writes (k : QueryKey) : StoreOp → Bool
  | set k' _ _ | setFetched k' _ _ | replaceWith k' _ _ | remove k' => k = k'
  | get _ _ | subscribe _ | unsubscribe _ | invalidate _ | takeQueued | completeRefetch _ => false

/-- Whether the operation invalidates a key. -/
def invalidates (k : QueryKey) : StoreOp → Bool
  | invalidate k' => k = k'
  | _ => false

end StoreOp

/-- The entry after its key was invalidated, if it was. -/
def Entry.invalidatedIf (e : Entry) (invalidated : Bool) : Entry :=
  { e with stale := e.stale || invalidated }

@[simp]
theorem Entry.invalidatedIf_false (e : Entry) : e.invalidatedIf false = e := by
  simp [invalidatedIf]

@[simp]
theorem Entry.invalidatedIf_invalidatedIf (e : Entry) (a b : Bool) :
    (e.invalidatedIf a).invalidatedIf b = e.invalidatedIf (a || b) := by
  simp [invalidatedIf, Bool.or_assoc]

@[simp]
theorem Entry.map_invalidatedIf_false (e : Option Entry) :
    e.map (fun e => e.invalidatedIf false) = e := by
  cases e <;> simp

namespace Store

/-- The store after an operation. -/
def perform (s : Store) : StoreOp → Store
  | .get k now => (s.get k now).2
  | .subscribe k => (s.subscribe k).2
  | .unsubscribe sub => s.unsubscribe sub
  | .invalidate k => (s.invalidate k).2
  | .set k v now => s.set k v now
  | .setFetched k v now => s.setFetched k v now
  | .replaceWith k update now => (s.replaceWith k update now).2
  | .remove k => (s.remove k).2
  | .takeQueued => (s.takeQueued.map Prod.snd).getD s
  | .completeRefetch k => s.completeRefetch k

/-- Taking a key from the queue leaves all entries alone. -/
@[simp]
theorem entryAt?_takeQueued (s : Store) (k : QueryKey) :
    ((s.takeQueued.map Prod.snd).getD s).entryAt? k = s.entryAt? k := by
  unfold takeQueued
  split <;> rfl

/-- An operation that does not write a key leaves its entry as it is, except that an
invalidation makes it stale. -/
theorem entryAt?_perform {o : StoreOp} {k : QueryKey} (h : o.writes k = false) (s : Store) :
    (s.perform o).entryAt? k =
      (s.entryAt? k).map fun e => e.invalidatedIf (o.invalidates k) := by
  cases o with
  | get k' now => simp [perform, StoreOp.invalidates]
  | subscribe k' => simp [perform, StoreOp.invalidates]
  | unsubscribe sub => simp [perform, StoreOp.invalidates]
  | invalidate k' =>
    simp only [perform, entryAt?_invalidate, StoreOp.invalidates]
    by_cases hk : k = k'
    · subst hk
      simp [Entry.invalidatedIf]
    · simp [hk]
  | set k' v now =>
    have hk : k ≠ k' := by simpa [StoreOp.writes] using h
    simp [perform, entryAt?_set, hk, StoreOp.invalidates]
  | setFetched k' v now =>
    have hk : k ≠ k' := by simpa [StoreOp.writes] using h
    simp [perform, entryAt?_setFetched, hk, StoreOp.invalidates]
  | replaceWith k' update now =>
    have hk : k ≠ k' := by simpa [StoreOp.writes] using h
    simp [perform, entryAt?_replaceWith, hk, StoreOp.invalidates]
  | remove k' =>
    have hk : k ≠ k' := by simpa [StoreOp.writes] using h
    simp [perform, entryAt?_remove, hk, StoreOp.invalidates]
  | takeQueued => simp [perform, StoreOp.invalidates]
  | completeRefetch k' => simp [perform, StoreOp.invalidates]

end Store
end OptimisticCache
