import OptimisticCache.Proofs.Commit
import OptimisticCache.Proofs.Rollback
/-!
# Procedures on a store

Everything that is done to a store, as data: the single operations, and the procedures
of a mutation, each of which writes several keys one after the other.  A mutation and a
snapshot are given with a procedure as they are, so that nothing depends on where they
come from.

A procedure is made of strokes, and a stroke writes the entry of one key at most.  Which
strokes a procedure is made of does not depend on the store, so what holds of every run
of strokes holds of every run of procedures, and also in the middle of one.

Main results:

- Theorem {lit}`Store.proceedAll_eq`: a run of procedures is the run of their strokes.
-/

namespace OptimisticCache

/-! ## Strokes -/

/-- A piece of work on a store that writes one key at most. -/
inductive Stroke where
  | operate (o : StoreOp)
  /-- A recorded entry is put back. -/
  | putBack (r : QueryKey × Option Entry)

namespace Store

/-- The store after a stroke. -/
def strike (s : Store) : Stroke → Store
  | .operate o => s.perform o
  | .putBack r => Snapshot.restoreRecord s r

/-- The store after strokes in order. -/
def strikeAll (s : Store) (xs : List Stroke) : Store :=
  xs.foldl strike s

/-- Without strokes a store stays as it is. -/
@[simp]
theorem strikeAll_nil (s : Store) : s.strikeAll [] = s :=
  rfl

@[simp]
theorem strikeAll_cons (s : Store) (x : Stroke) (xs : List Stroke) :
    s.strikeAll (x :: xs) = (s.strike x).strikeAll xs :=
  rfl

/-- Strokes in a row are struck part after part. -/
theorem strikeAll_append (s : Store) (xs ys : List Stroke) :
    s.strikeAll (xs ++ ys) = (s.strikeAll xs).strikeAll ys :=
  List.foldl_append

end Store

namespace Stroke

/-- The strokes of a begin: each patch replaces the value of its key, and those that insert draw
a placeholder each. -/
def ofPatches (m : MutationId) (now : Int) : Nat → List (QueryKey × Patch) → List Stroke
  | _, [] => []
  | next, p :: rest =>
    operate (.replaceWith p.1 (p.2.apply (Item.placeholderId next) m) now) ::
      ofPatches m now (if p.2.inserts?.isSome then next + 1 else next) rest

/-- A commit merges into one target. -/
def ofMerge (m : MutationId) (authoritative : Option Item) (now : Int)
    (target : QueryKey × MergeRule) : Stroke :=
  operate (.replaceWith target.1 (Reconcile.value m target.2 authoritative) now)

end Stroke

namespace PendingMutation

/-- The strokes of a commit: the targets are merged, then the dependent keys invalidated.  A
mutation that has settled makes none. -/
def commitStrokes (p : PendingMutation) (dependencies : DependencyMap)
    (authoritative : Option Item) (now : Int) : List Stroke :=
  if p.state.isPending then
    p.targets.map (Stroke.ofMerge p.id authoritative now) ++
      (dependencies.keysFor p.kind p.scope).map fun k => .operate (.invalidate k)
  else []

/-- The strokes of a rollback, and of the restore of an abandoned mutation. -/
def undoStrokes (p : PendingMutation) : List Stroke :=
  if p.state.isPending then (p.snapshot.toList.flatMap Snapshot.records).map .putBack else []

end PendingMutation

/-! ## Procedures -/

/-- What is done to a store. -/
inductive Procedure where
  | operate (o : StoreOp)
  | begin (l : Launch)
  | commit (p : PendingMutation) (dependencies : DependencyMap) (authoritative : Option Item)
      (now : Int)
  | undo (p : PendingMutation) (u : Undo)
  /-- A snapshot is put back, without its mutation. -/
  | restore (snapshot : Snapshot)

namespace Procedure

/-- The strokes that a procedure is made of. -/
def strokes : Procedure → List Stroke
  | operate o => [.operate o]
  | begin l => Stroke.ofPatches l.id l.now l.nextPlaceholder l.patches
  | commit p dependencies authoritative now => p.commitStrokes dependencies authoritative now
  | undo p _ => p.undoStrokes
  | restore snapshot => snapshot.records.map .putBack

end Procedure

namespace Store

/-- The store after a procedure. -/
def proceed (s : Store) : Procedure → Store
  | .operate o => s.perform o
  | .begin l => l.store s
  | .commit p dependencies authoritative now => (p.commit s dependencies authoritative now).2.2
  | .undo p u => p.undo s u
  | .restore snapshot => (snapshot.restore s).2

/-- The store after procedures in order. -/
def proceedAll (s : Store) (ts : List Procedure) : Store :=
  ts.foldl proceed s

@[simp]
theorem proceedAll_cons (s : Store) (t : Procedure) (ts : List Procedure) :
    s.proceedAll (t :: ts) = (s.proceed t).proceedAll ts :=
  rfl

end Store

/-! ## The strokes of each procedure -/

/-- Applying patches is a row of strokes, one for each patch. -/
theorem Provisional.store_foldl_applyOne (m : MutationId) (now : Int) (b : Begun)
    (ps : List (QueryKey × Patch)) :
    (ps.foldl (applyOne m now) b).store =
      b.store.strikeAll (Stroke.ofPatches m now b.nextPlaceholder ps) := by
  induction ps generalizing b with
  | nil => rfl
  | cons p ps ih =>
    rw [List.foldl_cons, ih, store_applyOne, nextPlaceholder_applyOne]
    rfl

namespace Store

/-- Merging is a row of strokes, one for each target. -/
theorem strikeAll_ofMerge (s : Store) (m : MutationId) (authoritative : Option Item) (now : Int)
    (targets : List (QueryKey × MergeRule)) :
    s.strikeAll (targets.map (Stroke.ofMerge m authoritative now)) =
      s.mergeAll m authoritative now targets :=
  List.foldl_map

/-- Invalidations are strokes. -/
theorem strikeAll_invalidate (s : Store) (ks : List QueryKey) :
    s.strikeAll (ks.map fun k => .operate (.invalidate k)) = s.invalidateAll ks :=
  List.foldl_map

/-- Restoring a snapshot is a row of strokes, one for each record. -/
theorem strikeAll_putBack (s : Store) (snapshot : Snapshot) :
    s.strikeAll (snapshot.records.map .putBack) = (snapshot.restore s).2 :=
  List.foldl_map

end Store

namespace PendingMutation

/-- A commit is a row of strokes: it merges, and then it invalidates. -/
theorem store_commit (p : PendingMutation) (s : Store) (dependencies : DependencyMap)
    (authoritative : Option Item) (now : Int) :
    (p.commit s dependencies authoritative now).2.2 =
      s.strikeAll (p.commitStrokes dependencies authoritative now) := by
  unfold commitStrokes
  cases hp : p.state.isPending with
  | false =>
    rw [commit_settled hp]
    rfl
  | true =>
    rw [if_pos rfl, Store.strikeAll_append, Store.strikeAll_ofMerge, Store.strikeAll_invalidate]
    exact commit_store (MutationState.isPending_iff.mp hp) s dependencies authoritative now

/-- Undoing is a row of strokes as well. -/
theorem undo_eq (p : PendingMutation) (s : Store) (u : Undo) :
    p.undo s u = s.strikeAll p.undoStrokes := by
  unfold undoStrokes
  cases hp : p.state.isPending with
  | false =>
    cases u with
    | rollback => simp [undo, rollback_settled hp]
    | abandon => simp [undo, abandon_settled hp]
  | true =>
    cases hsnapshot : p.snapshot with
    | none =>
      cases u with
      | rollback => simp [undo, rollback, hp, hsnapshot]
      | abandon => simp [undo, abandon, hp, hsnapshot]
    | some snapshot =>
      rw [undo_of_pending (MutationState.isPending_iff.mp hp) hsnapshot,
        ← Store.strikeAll_putBack]
      simp

end PendingMutation

namespace Store

/-- A procedure is the run of its strokes. -/
theorem proceed_eq (s : Store) (t : Procedure) : s.proceed t = s.strikeAll t.strokes := by
  cases t with
  | operate o => rfl
  | begin l => exact Provisional.store_foldl_applyOne l.id l.now _ l.patches
  | commit p dependencies authoritative now => exact p.store_commit s dependencies authoritative now
  | undo p u => exact p.undo_eq s u
  | restore snapshot => exact (strikeAll_putBack s snapshot).symm

/-- A run of procedures is the run of their strokes. -/
theorem proceedAll_eq (s : Store) (ts : List Procedure) :
    s.proceedAll ts = s.strikeAll (ts.flatMap Procedure.strokes) := by
  induction ts generalizing s with
  | nil => rfl
  | cons t ts ih => rw [proceedAll_cons, ih, proceed_eq, List.flatMap_cons, strikeAll_append]

end Store
end OptimisticCache
