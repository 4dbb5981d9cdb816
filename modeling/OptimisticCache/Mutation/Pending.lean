import OptimisticCache.Mutation.Dependency
import OptimisticCache.Mutation
import OptimisticCache.Provisional
import OptimisticCache.Reconcile
/-!
# Pending mutations

A mutation is pending from its first patch until it settles.  A commit folds the
authoritative item into the patched keys and invalidates the queries that depend
on the mutation; a rollback puts the snapshot back; a mutation whose outcome will
never be known is abandoned, which hands its snapshot out.  A settled mutation
holds no snapshot and cannot settle again.

Main results:

- Theorem {lit}`PendingMutation.commit_settled`: a settled mutation is not
  committed, and nothing changes.
- Theorem {lit}`PendingMutation.rollback_settled`: nor is it rolled back.
-/

namespace OptimisticCache

/-- What settling a mutation did to the cache. -/
structure Settlement where
  mutation : MutationId
  state : MutationState
  /-- The keys that were merged by a commit, or restored by a rollback. -/
  reconciled : List QueryKey
  /-- The dependent keys that a commit invalidated, and what became of each. -/
  invalidated : List (QueryKey × Invalidation)
deriving DecidableEq

namespace Settlement

/-- Whether the mutation committed. -/
def isCommitted (s : Settlement) : Bool :=
  s.state = .committed

/-- Whether a refetch of the key was scheduled. -/
def refetchScheduled (s : Settlement) (k : QueryKey) : Bool :=
  s.invalidated.any fun p => p.1 = k && decide (p.2 = .refetchScheduled)

end Settlement

/-- One mutation and the snapshot that can undo it. -/
structure PendingMutation where
  id : MutationId
  kind : MutationKind
  scope : Scope
  targets : List (QueryKey × MergeRule)
  snapshot : Option Snapshot
  state : MutationState
deriving DecidableEq

namespace PendingMutation

/-- Track a mutation whose patches were applied already. -/
def track (kind : MutationKind) (scope : Scope) (snapshot : Snapshot)
    (targets : List (QueryKey × MergeRule)) : PendingMutation :=
  ⟨snapshot.mutation, kind, scope, targets, some snapshot, .pending⟩

/-- Apply patches and track the mutation.  Answers also the store and the number of the next
placeholder. -/
def begin (store : Store) (nextPlaceholder : Nat) (id : MutationId) (kind : MutationKind)
    (scope : Scope) (patches : List (QueryKey × Patch)) (now : Int) :
    PendingMutation × Store × Nat :=
  let b := Provisional.begin store nextPlaceholder id patches now
  (track kind scope b.snapshot (patches.map fun p => (p.1, p.2.rule)), b.store, b.nextPlaceholder)

/-- Fold the authoritative item into one key, and note the key if its value changed. -/
def mergeTarget (m : MutationId) (authoritative : Option Item) (now : Int)
    (acc : List QueryKey × Store) (target : QueryKey × MergeRule) : List QueryKey × Store :=
  let update := Reconcile.value m target.2 authoritative
  let (previous, store) := acc.2.replaceWith target.1 update now
  if (update (previous.map Entry.value)).isSome && !acc.1.contains target.1 then
    (acc.1 ++ [target.1], store)
  else (acc.1, store)

/-- Invalidate one key, and note what became of it. -/
def invalidateOne (acc : List (QueryKey × Invalidation) × Store) (k : QueryKey) :
    List (QueryKey × Invalidation) × Store :=
  let (outcome, store) := acc.2.invalidate k
  (acc.1 ++ [(k, outcome)], store)

/-- Merge the authoritative item and invalidate the dependent keys. -/
def commit (p : PendingMutation) (store : Store) (dependencies : DependencyMap)
    (authoritative : Option Item) (now : Int) :
    Except CacheError Settlement × PendingMutation × Store :=
  if p.state.isPending then
    let (reconciled, merged) := p.targets.foldl (mergeTarget p.id authoritative now) ([], store)
    let (invalidated, store) :=
      (dependencies.keysFor p.kind p.scope).foldl invalidateOne ([], merged)
    (.ok ⟨p.id, .committed, reconciled, invalidated⟩,
      { p with snapshot := none, state := .committed }, store)
  else (.error (.settled .commit p.id p.state), p, store)

/-- Put every patched key back. -/
def rollback (p : PendingMutation) (store : Store) :
    Except CacheError Settlement × PendingMutation × Store :=
  if p.state.isPending then
    let (restored, store) :=
      match p.snapshot with
      | some s => s.restore store
      | none => ([], store)
    (.ok ⟨p.id, .rolledBack, restored, []⟩,
      { p with snapshot := none, state := .rolledBack }, store)
  else (.error (.settled .rollback p.id p.state), p, store)

/-- Give the mutation up and hand its snapshot out; none once it has settled. -/
def abandon (p : PendingMutation) : Option Snapshot × PendingMutation :=
  if p.state.isPending then (p.snapshot, { p with snapshot := none, state := .rolledBack })
  else (none, p)

/-- A settled mutation is not committed, and nothing changes. -/
theorem commit_settled {p : PendingMutation} (h : p.state.isPending = false) (store : Store)
    (dependencies : DependencyMap) (authoritative : Option Item) (now : Int) :
    p.commit store dependencies authoritative now =
      (.error (.settled .commit p.id p.state), p, store) := by
  simp [commit, h]

/-- A settled mutation is not rolled back, and nothing changes. -/
theorem rollback_settled {p : PendingMutation} (h : p.state.isPending = false) (store : Store) :
    p.rollback store = (.error (.settled .rollback p.id p.state), p, store) := by
  simp [rollback, h]

/-- A settled mutation hands nothing out. -/
theorem abandon_settled {p : PendingMutation} (h : p.state.isPending = false) :
    p.abandon = (none, p) := by
  simp [abandon, h]

end PendingMutation
end OptimisticCache
