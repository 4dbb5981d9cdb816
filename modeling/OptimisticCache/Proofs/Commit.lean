import OptimisticCache.Mutation.Pending
import OptimisticCache.Proofs.Operation
/-!
# What a commit does to the store

A commit first merges the authoritative item into each target in turn, then
invalidates the keys that depend on the mutation.  Both halves are folds over the
store, seen here through the entry of each key.

Main results:

- Theorems {lit}`PendingMutation.commit_store` and
  {lit}`PendingMutation.commit_outcome`: a pending mutation commits, and its store
  is the merged and invalidated one.
- Theorem {lit}`Store.entryAt?_invalidateAll`: the invalidations set stale bits and
  nothing else.
- Theorem {lit}`PendingMutation.entryAt?_commit_of_not_mem`: a commit leaves the keys
  that it neither merges nor invalidates alone.
-/

namespace OptimisticCache
namespace Store

/-- Merge the authoritative item of a mutation into one target. -/
def merge (s : Store) (m : MutationId) (authoritative : Option Item) (now : Int)
    (target : QueryKey × MergeRule) : Store :=
  (s.replaceWith target.1 (Reconcile.value m target.2 authoritative) now).2

/-- Merge the authoritative item into all targets in order. -/
def mergeAll (s : Store) (m : MutationId) (authoritative : Option Item) (now : Int)
    (targets : List (QueryKey × MergeRule)) : Store :=
  targets.foldl (fun s target => s.merge m authoritative now target) s

/-- Invalidate keys in order. -/
def invalidateAll (s : Store) (ks : List QueryKey) : Store :=
  ks.foldl (fun s k => (s.invalidate k).2) s

variable {s : Store} {m : MutationId} {authoritative : Option Item} {now : Int} {k : QueryKey}

/-- Merging into a key leaves the entries of the others alone. -/
theorem entryAt?_merge_of_ne {target : QueryKey × MergeRule} (h : k ≠ target.1) :
    (s.merge m authoritative now target).entryAt? k = s.entryAt? k :=
  entryAt?_replaceWith_of_ne h s _ now

/-- The other keys show what they showed. -/
theorem peek_merge_of_ne {target : QueryKey × MergeRule} (h : k ≠ target.1) :
    (s.merge m authoritative now target).peek k = s.peek k :=
  peek_of_entryAt? (entryAt?_merge_of_ne h)

/-- The value under a key after a merge into it. -/
theorem peek_merge_self (s : Store) (m : MutationId) (authoritative : Option Item) (now : Int)
    (target : QueryKey × MergeRule) :
    (s.merge m authoritative now target).peek target.1 =
      (Reconcile.value m target.2 authoritative (s.peek target.1)).or (s.peek target.1) :=
  peek_replaceWith_self s target.1 _ now

/-- Keys that are no targets hold what they held. -/
theorem entryAt?_mergeAll_of_not_mem {targets : List (QueryKey × MergeRule)}
    (h : k ∉ targets.map Prod.fst) :
    (s.mergeAll m authoritative now targets).entryAt? k = s.entryAt? k := by
  induction targets generalizing s with
  | nil => rfl
  | cons target rest ih =>
    simp only [List.map_cons, List.mem_cons, not_or] at h
    have hrest : ((s.merge m authoritative now target).mergeAll m authoritative now rest).entryAt? k =
        (s.merge m authoritative now target).entryAt? k := ih h.2
    exact hrest.trans (entryAt?_merge_of_ne h.1)

/-- The value under a key that is merged once. -/
theorem peek_mergeAll_of_once {front back : List (QueryKey × MergeRule)}
    (hfront : k ∉ front.map Prod.fst) (hback : k ∉ back.map Prod.fst) (s : Store) (m : MutationId)
    (authoritative : Option Item) (now : Int) (rule : MergeRule) :
    (s.mergeAll m authoritative now (front ++ (k, rule) :: back)).peek k =
      (Reconcile.value m rule authoritative (s.peek k)).or (s.peek k) := by
  let s' := s.mergeAll m authoritative now front
  have hbefore : s'.peek k = s.peek k := peek_of_entryAt? (entryAt?_mergeAll_of_not_mem hfront)
  have hsplit : s.mergeAll m authoritative now (front ++ (k, rule) :: back) =
      (s'.merge m authoritative now (k, rule)).mergeAll m authoritative now back := by
    unfold mergeAll
    rw [List.foldl_append, List.foldl_cons]
    rfl
  have hafter : (s.mergeAll m authoritative now (front ++ (k, rule) :: back)).peek k =
      (s'.merge m authoritative now (k, rule)).peek k := by
    rw [hsplit]
    exact peek_of_entryAt? (entryAt?_mergeAll_of_not_mem hback)
  rw [hafter, ← hbefore]
  exact peek_merge_self s' m authoritative now (k, rule)

/-- Invalidations set the stale bits of the keys that are cached and nothing else. -/
theorem entryAt?_invalidateAll (s : Store) (ks : List QueryKey) (k : QueryKey) :
    (s.invalidateAll ks).entryAt? k =
      (s.entryAt? k).map fun e => e.invalidatedIf (decide (k ∈ ks)) := by
  induction ks generalizing s with
  | nil => simp [invalidateAll]
  | cons k' ks ih =>
    have hrest : ((s.invalidate k').2.invalidateAll ks).entryAt? k =
        ((s.invalidate k').2.entryAt? k).map fun e => e.invalidatedIf (decide (k ∈ ks)) := ih _
    change ((s.invalidate k').2.invalidateAll ks).entryAt? k = _
    rw [hrest, entryAt?_invalidate]
    by_cases hk : k = k'
    · subst hk
      simp [Entry.invalidatedIf, Function.comp_def]
    · simp [hk]

/-- Invalidations change no value. -/
theorem peek_invalidateAll (s : Store) (ks : List QueryKey) (k : QueryKey) :
    (s.invalidateAll ks).peek k = s.peek k := by
  unfold peek
  rw [entryAt?_invalidateAll, Option.map_map]
  rfl

end Store

namespace PendingMutation

/-- The mutation once it has settled: its snapshot is gone. -/
def settled (p : PendingMutation) (state : MutationState) : PendingMutation :=
  { p with snapshot := none, state }

/-- The store after one target is the one that it was merged into. -/
theorem store_mergeTarget (m : MutationId) (authoritative : Option Item) (now : Int)
    (acc : List QueryKey × Store) (target : QueryKey × MergeRule) :
    (mergeTarget m authoritative now acc target).2 = acc.2.merge m authoritative now target := by
  unfold mergeTarget Store.merge
  dsimp only
  split <;> rfl

/-- A merge that replaces the value of its key notes the key, once. -/
theorem keys_mergeTarget (m : MutationId) (authoritative : Option Item) (now : Int)
    (acc : List QueryKey × Store) (target : QueryKey × MergeRule) :
    (mergeTarget m authoritative now acc target).1 =
      if (Reconcile.value m target.2 authoritative (acc.2.peek target.1)).isSome &&
          !acc.1.contains target.1 then
        acc.1 ++ [target.1]
      else acc.1 := by
  unfold mergeTarget Store.peek
  simp only [Store.replaceWith_previous]
  split <;> rfl

/-- The store after all targets is the one that all were merged into. -/
theorem store_foldl_mergeTarget (m : MutationId) (authoritative : Option Item) (now : Int)
    (acc : List QueryKey × Store) (targets : List (QueryKey × MergeRule)) :
    (targets.foldl (mergeTarget m authoritative now) acc).2 =
      acc.2.mergeAll m authoritative now targets := by
  induction targets generalizing acc with
  | nil => rfl
  | cons target rest ih =>
    rw [List.foldl_cons, ih, store_mergeTarget]
    rfl

/-- The store after the listed keys is the one in which all were invalidated. -/
theorem store_foldl_invalidateOne (acc : List (QueryKey × Invalidation) × Store)
    (ks : List QueryKey) : (ks.foldl invalidateOne acc).2 = acc.2.invalidateAll ks := by
  induction ks generalizing acc with
  | nil => rfl
  | cons k ks ih =>
    rw [List.foldl_cons, ih]
    rfl

variable {p : PendingMutation} {store : Store} {dependencies : DependencyMap}
  {authoritative : Option Item} {now : Int}

/-- The store after a commit: the targets are merged, then the dependent keys invalidated. -/
theorem commit_store (h : p.state = .pending) (store : Store) (dependencies : DependencyMap)
    (authoritative : Option Item) (now : Int) :
    (p.commit store dependencies authoritative now).2.2 =
      (store.mergeAll p.id authoritative now p.targets).invalidateAll
        (dependencies.keysFor p.kind p.scope) := by
  simp only [commit, h, MutationState.isPending, if_true]
  rw [store_foldl_invalidateOne, store_foldl_mergeTarget]

/-- A pending mutation commits, and is committed then. -/
theorem commit_outcome (h : p.state = .pending) (store : Store) (dependencies : DependencyMap)
    (authoritative : Option Item) (now : Int) :
    ∃ settlement, (p.commit store dependencies authoritative now).1 = .ok settlement ∧
      settlement.mutation = p.id ∧ settlement.state = .committed := by
  simp [commit, h, MutationState.isPending]

/-- A commit settles the mutation as committed. -/
theorem commit_pending (h : p.state = .pending) (store : Store) (dependencies : DependencyMap)
    (authoritative : Option Item) (now : Int) :
    (p.commit store dependencies authoritative now).2.1 = p.settled .committed := by
  simp [commit, settled, h, MutationState.isPending]

/-- A commit leaves the keys that it neither merges nor invalidates alone. -/
theorem entryAt?_commit_of_not_mem (h : p.state = .pending) {k : QueryKey}
    (htarget : k ∉ p.targets.map Prod.fst) (hdependent : k ∉ dependencies.keysFor p.kind p.scope) :
    (p.commit store dependencies authoritative now).2.2.entryAt? k = store.entryAt? k := by
  rw [commit_store h, Store.entryAt?_invalidateAll, Store.entryAt?_mergeAll_of_not_mem htarget]
  simp [hdependent]

end PendingMutation
end OptimisticCache
