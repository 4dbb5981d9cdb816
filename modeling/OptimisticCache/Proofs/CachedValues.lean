import OptimisticCache.Proofs.Commit
import OptimisticCache.Proofs.Rollback
/-!
# Properties of all cached values

A property of keys and values holds throughout a store if it holds of every value that
is cached, and throughout a snapshot if it holds of every value that is recorded.  Every
write of the store keeps it, provided that what is written has it: a value that is
stored, what a patch or a merge makes of a value that has it, or a value that a snapshot
puts back.

Main results:

- Theorem {lit}`Store.All.perform`: operations on the store.
- Theorems {lit}`Store.All.begin` and {lit}`Snapshot.All.begin`: the begin of a
  mutation, and what it records.
- Theorems {lit}`Store.All.commit`, {lit}`Store.All.rollback` and
  {lit}`Store.All.restore`: the end of a mutation.
-/

namespace OptimisticCache

/-- Every cached value has a property, which may depend on its key. -/
def Store.All (P : QueryKey → CacheValue → Prop) (s : Store) : Prop :=
  ∀ k v, s.peek k = some v → P k v

/-- Every recorded value has a property. -/
def Snapshot.All (P : QueryKey → CacheValue → Prop) (s : Snapshot) : Prop :=
  ∀ k v, s.previous? k = some (some v) → P k v

/-- What makes a value under a key of the value that is there keeps a property. -/
def Keeps (P : QueryKey → CacheValue → Prop) (k : QueryKey)
    (update : Option CacheValue → Option CacheValue) : Prop :=
  ∀ current v, (∀ c, current = some c → P k c) → update current = some v → P k v

/-- What the operation stores has a property. -/
def StoreOp.Stores (P : QueryKey → CacheValue → Prop) : StoreOp → Prop
  | .set k v _ | .setFetched k v _ => P k v
  | .replaceWith k update _ => Keeps P k update
  | .get _ _ | .subscribe _ | .unsubscribe _ | .invalidate _ | .remove _ | .takeQueued
  | .completeRefetch _ => True

variable {P : QueryKey → CacheValue → Prop}

namespace Store.All

variable {s s' : Store} {k : QueryKey} {now : Int}

/-- Anything holds of all values of an empty store. -/
theorem empty (P : QueryKey → CacheValue → Prop) (staleTime : Option Nat) :
    (Store.empty staleTime).All P := by
  intro k v hv
  cases hv

/-- What holds of all values is told by the entries. -/
theorem of_entryAt? (h : s.All P) (hs' : ∀ k, s'.entryAt? k = s.entryAt? k) : s'.All P := by
  intro k v hv
  rw [peek_of_entryAt? (hs' k)] at hv
  exact h k v hv

/-- The property holds after one key got a new entry, if it holds of the new value. -/
theorem of_written {e : Option Entry} (h : s.All P)
    (hs' : ∀ k', s'.entryAt? k' = if k' = k then e else s.entryAt? k')
    (he : ∀ v, e.map Entry.value = some v → P k v) : s'.All P := by
  intro k' v hv
  unfold peek at hv
  rw [hs'] at hv
  by_cases hk : k' = k
  · rw [if_pos hk] at hv
    exact hk ▸ he v hv
  · rw [if_neg hk] at hv
    exact h k' v hv

/-- A value that satisfies it may be set. -/
theorem set (h : s.All P) {v : CacheValue} (hv : P k v) : (s.set k v now).All P :=
  h.of_written (entryAt?_set s k · v now) fun _ hw => Option.some.inj hw ▸ hv

/-- A value that satisfies it may be fetched. -/
theorem setFetched (h : s.All P) {v : CacheValue} (hv : P k v) : (s.setFetched k v now).All P :=
  h.of_written (entryAt?_setFetched s k · v now) fun _ hw => Option.some.inj hw ▸ hv

/-- A replacement needs to have the property for the value that it replaces only. -/
theorem replaceWith {update : Option CacheValue → Option CacheValue} (h : s.All P)
    (hupdate : ∀ v, update (s.peek k) = some v → P k v) : (s.replaceWith k update now).2.All P := by
  apply h.of_written (entryAt?_replaceWith s k · update now)
  intro v hv
  cases hnew : update (s.peek k) with
  | none =>
    rw [hnew] at hv
    exact h k v hv
  | some w =>
    rw [hnew] at hv
    exact Option.some.inj hv ▸ hupdate w hnew

/-- Invalidations keep it. -/
theorem invalidateAll (h : s.All P) (ks : List QueryKey) : (s.invalidateAll ks).All P := by
  intro k v hv
  rw [peek_invalidateAll] at hv
  exact h k v hv

/-- So does every operation that stores only values with it. -/
theorem perform (h : s.All P) {o : StoreOp} (ho : o.Stores P) : (s.perform o).All P := by
  cases o with
  | get k now => exact h.of_entryAt? (entryAt?_get s k · now)
  | subscribe k => exact h.of_entryAt? fun _ => rfl
  | unsubscribe sub => exact h.of_entryAt? fun _ => rfl
  | takeQueued => exact h.of_entryAt? (entryAt?_takeQueued s)
  | completeRefetch k => exact h.of_entryAt? fun _ => rfl
  | invalidate k => exact h.invalidateAll [k]
  | set k v now => exact h.set ho
  | setFetched k v now => exact h.setFetched ho
  | remove k => exact h.of_written (entryAt?_remove s k) fun v hv => by cases hv
  | replaceWith k update now => exact h.replaceWith fun v => ho (s.peek k) v (h k)

/-- Merges keep a property that each of them keeps. -/
theorem mergeAll (h : s.All P) {m : MutationId} {authoritative : Option Item}
    {targets : List (QueryKey × MergeRule)}
    (htargets : ∀ target ∈ targets, Keeps P target.1 (Reconcile.value m target.2 authoritative))
    (now : Int) : (s.mergeAll m authoritative now targets).All P := by
  induction targets generalizing s with
  | nil => exact h
  | cons target rest ih =>
    apply ih
    · exact h.replaceWith fun v => htargets target List.mem_cons_self _ v (h target.1)
    · intro other hother
      exact htargets other (List.mem_cons_of_mem target hother)

/-- A snapshot puts back what it recorded. -/
theorem restore (h : s.All P) {snapshot : Snapshot} (hnodup : snapshot.keys.Nodup)
    (hsnapshot : snapshot.All P) : (snapshot.restore s).2.All P := by
  intro k v hv
  unfold peek at hv
  rw [Snapshot.entryAt?_restore hnodup] at hv
  rcases hrecorded : snapshot.recorded? k with _ | _ | old
  · rw [hrecorded] at hv
    exact h k v hv
  · rw [hrecorded] at hv
    cases hv
  · rw [hrecorded] at hv
    apply hsnapshot k
    rw [Snapshot.previous?, hrecorded]
    exact congrArg some hv

/-- Patches keep a property that each of them keeps. -/
theorem begin (h : s.All P) {m : MutationId} {ps : List (QueryKey × Patch)}
    (hps : ∀ p ∈ ps, ∀ freshId, Keeps P p.1 (p.2.apply freshId m)) (next : Nat) (now : Int) :
    (Provisional.begin s next m ps now).store.All P := by
  have hfold : ∀ b : Provisional.Begun, b.store.All P →
      (ps.foldl (Provisional.applyOne m now) b).store.All P := by
    induction ps with
    | nil => exact fun _ hb => hb
    | cons p ps ih =>
      intro b hb
      apply ih fun q hq => hps q (List.mem_cons_of_mem p hq)
      rw [Provisional.store_applyOne]
      exact hb.replaceWith fun v => hps p List.mem_cons_self _ _ v (hb p.1)
  exact hfold _ h

/-- A commit keeps a property that each of its merges keeps. -/
theorem commit (h : s.All P) {p : PendingMutation} {authoritative : Option Item}
    (htargets : ∀ target ∈ p.targets, Keeps P target.1 (Reconcile.value p.id target.2 authoritative))
    (dependencies : DependencyMap) (now : Int) :
    (p.commit s dependencies authoritative now).2.2.All P := by
  cases hp : p.state with
  | pending =>
    rw [PendingMutation.commit_store hp]
    exact (h.mergeAll htargets now).invalidateAll _
  | committed | rolledBack =>
    rw [PendingMutation.commit_settled (by rw [hp]; rfl)]
    exact h

/-- A rollback puts back what was recorded. -/
theorem rollback (h : s.All P) {p : PendingMutation}
    (hsnapshot : ∀ snapshot, p.snapshot = some snapshot → snapshot.keys.Nodup ∧ snapshot.All P) :
    (p.rollback s).2.2.All P := by
  unfold PendingMutation.rollback
  split
  · cases hrecorded : p.snapshot with
    | none => exact h
    | some snapshot =>
      rcases hsnapshot snapshot hrecorded with ⟨hnodup, hall⟩
      exact h.restore hnodup hall
  · exact h

end Store.All

/-- A begin records values that were in the store. -/
theorem Snapshot.All.begin {s : Store} (h : s.All P) (next : Nat) (m : MutationId)
    (ps : List (QueryKey × Patch)) (now : Int) :
    (Provisional.begin s next m ps now).snapshot.All P := by
  intro k v hv
  rw [previous?, Provisional.recorded?_begin] at hv
  split at hv
  · exact h k v (Option.some.inj hv)
  · cases hv

end OptimisticCache
