import OptimisticCache.Client
import OptimisticCache.Proofs.Operation
import OptimisticCache.Proofs.Recording
/-!
# Rollback is exact

A run between the begin of a mutation and its end consists of operations on the
store and of other mutations that begin and are undone inside the run, nested to
any depth.

The argument is one invariant about keys: a run that writes no entry of a key leaves
the entry as it was, except that it is stale if the key was invalidated.  The nested
mutations do not disturb this, whatever they patch, because each of them puts back
what it changed and the stale bit survives both its begin and its end.

Main results:

- Theorem {lit}`NestedRun.entryAt?_run`: what a run does to a key that it does not
  write.
- Theorem {lit}`Launch.undo_exact`: undoing a mutation gives each key that it changed
  its old entry back, and leaves every other key as the run left it.
-/

namespace OptimisticCache

/-- What a mutation is begun with. -/
structure Launch where
  id : MutationId
  nextPlaceholder : Nat
  kind : MutationKind
  scope : Scope
  patches : List (QueryKey × Patch)
  now : Int

namespace Launch

/-- The mutation that is begun. -/
def pending (l : Launch) (s : Store) : PendingMutation :=
  (PendingMutation.begin s l.nextPlaceholder l.id l.kind l.scope l.patches l.now).1

/-- The store with the provisional values. -/
def store (l : Launch) (s : Store) : Store :=
  (PendingMutation.begin s l.nextPlaceholder l.id l.kind l.scope l.patches l.now).2.1

/-- The snapshot of what the provisional values replaced. -/
def snapshot (l : Launch) (s : Store) : Snapshot :=
  (Provisional.begin s l.nextPlaceholder l.id l.patches l.now).snapshot

/-- Whether the begin changes a key: one of the patches takes effect on it. -/
def changes (l : Launch) (s : Store) (k : QueryKey) : Bool :=
  Provisional.changedBy s l.nextPlaceholder l.id l.patches l.now k

end Launch

/-- What the next mutation of a client is begun with. -/
def Client.launch (c : Client) (kind : MutationKind) (scope : Scope)
    (patches : List (QueryKey × Patch)) (now : Int) : Launch :=
  ⟨⟨c.started + 1⟩, c.nextPlaceholder, kind, scope, patches, now⟩

/-- How a pending mutation is undone. -/
inductive Undo where
  /-- It is rolled back. -/
  | rollback
  /-- It is abandoned and its snapshot is restored. -/
  | abandon
deriving DecidableEq

/-- The store after a mutation is undone. -/
def PendingMutation.undo (p : PendingMutation) (s : Store) : Undo → Store
  | .rollback => (p.rollback s).2.2
  | .abandon =>
    match p.abandon.1 with
    | some snapshot => (snapshot.restore s).2
    | none => s

/-- A run of operations with mutations that begin and are undone inside it. -/
inductive NestedRun where
  | done
  | perform (o : StoreOp) (rest : NestedRun)
  /-- A mutation begins, a run goes on inside it, it is undone, and the run goes on. -/
  | mutation (l : Launch) (inside : NestedRun) (u : Undo) (rest : NestedRun)

namespace NestedRun

/-- The store after a run. -/
def run : NestedRun → Store → Store
  | done, s => s
  | perform o rest, s => rest.run (s.perform o)
  | mutation l inside u rest, s => rest.run ((l.pending s).undo (inside.run (l.store s)) u)

/-- Whether an operation of the run, at any depth, writes the entry of a key. -/
def writes (k : QueryKey) : NestedRun → Bool
  | done => false
  | perform o rest => o.writes k || rest.writes k
  | mutation _ inside _ rest => inside.writes k || rest.writes k

/-- Whether a key is invalidated in the run, at any depth. -/
def invalidates (k : QueryKey) : NestedRun → Bool
  | done => false
  | perform o rest => o.invalidates k || rest.invalidates k
  | mutation _ inside _ rest => inside.invalidates k || rest.invalidates k

end NestedRun

/-! ## One mutation -/

/-- Undoing a pending mutation restores its snapshot. -/
theorem PendingMutation.undo_of_pending {p : PendingMutation} {snapshot : Snapshot}
    (hstate : p.state = .pending) (hsnapshot : p.snapshot = some snapshot) (s : Store) (u : Undo) :
    p.undo s u = (snapshot.restore s).2 := by
  cases u with
  | rollback => simp [undo, rollback, hstate, hsnapshot, MutationState.isPending]
  | abandon => simp [undo, abandon, hstate, hsnapshot, MutationState.isPending]

namespace Launch

@[simp]
theorem pending_id (l : Launch) (s : Store) : (l.pending s).id = l.id :=
  Provisional.mutation_begin s l.nextPlaceholder l.id l.patches l.now

/-- The keys that a commit merges are those that the begin patched. -/
theorem targets_keys (l : Launch) (s : Store) :
    (l.pending s).targets.map Prod.fst = l.patches.map Prod.fst := by
  simp [pending, PendingMutation.begin, PendingMutation.track, Function.comp_def]

/-- Undoing puts the old entries of the changed keys back and leaves the other keys alone. -/
theorem entryAt?_undo (l : Launch) (s s' : Store) (u : Undo) (k : QueryKey) :
    ((l.pending s).undo s' u).entryAt? k =
      if l.changes s k then Snapshot.putBack (s.entryAt? k) (s'.entryAt? k)
      else s'.entryAt? k := by
  have hundo : (l.pending s).undo s' u = ((l.snapshot s).restore s').2 :=
    PendingMutation.undo_of_pending rfl rfl s' u
  have hnodup : (l.snapshot s).keys.Nodup := Provisional.nodup_keys_begin s _ _ _ _
  have hrecorded : (l.snapshot s).recorded? k =
      if l.changes s k then some (s.entryAt? k) else none :=
    Provisional.recorded?_begin s _ _ _ _ k
  rw [hundo, Snapshot.entryAt?_restore hnodup, hrecorded]
  by_cases hk : l.changes s k = true
  · rw [if_pos hk, if_pos hk]
  · rw [if_neg hk, if_neg hk]

/-- A key that the run does not change holds what it held. -/
theorem entryAt?_store_of_not_changes {l : Launch} {s : Store} {k : QueryKey}
    (h : l.changes s k = false) : (l.store s).entryAt? k = s.entryAt? k :=
  Provisional.entryAt?_begin_of_not_changes h

/-- A changed key gets its old entry back if nothing but invalidations happened to it since
the begin: its stale bit passed through the provisional entry. -/
theorem entryAt?_undo_of_changes {l : Launch} {s s' : Store} {k : QueryKey} {invalidated : Bool}
    (hk : l.changes s k = true)
    (hs' : s'.entryAt? k =
      ((l.store s).entryAt? k).map fun e => e.invalidatedIf invalidated) (u : Undo) :
    ((l.pending s).undo s' u).entryAt? k =
      (s.entryAt? k).map fun e => e.invalidatedIf invalidated := by
  rcases Provisional.entryAt?_begin_of_changes hk with ⟨v, hv⟩
  have hbegun : (l.store s).entryAt? k =
      some ⟨v, l.now, ((s.entryAt? k).map Entry.stale).getD false⟩ := hv
  rw [entryAt?_undo, if_pos hk, hs', hbegun]
  cases s.entryAt? k with
  | none => rfl
  | some e => simp [Snapshot.putBack, Entry.invalidatedIf]

/-- A key whose entry is as the begin left it gets its old entry back. -/
theorem entryAt?_undo_of_same (l : Launch) {s s' : Store} {k : QueryKey}
    (h : s'.entryAt? k = (l.store s).entryAt? k) (u : Undo) :
    ((l.pending s).undo s' u).entryAt? k = s.entryAt? k := by
  by_cases hk : l.changes s k = true
  · have hsame : s'.entryAt? k = ((l.store s).entryAt? k).map fun e => e.invalidatedIf false := by
      rw [h, Entry.map_invalidatedIf_false]
    rw [entryAt?_undo_of_changes hk hsame, Entry.map_invalidatedIf_false]
  · simp only [Bool.not_eq_true] at hk
    rw [entryAt?_undo, hk, h]
    exact entryAt?_store_of_not_changes hk

/-- Undone at once, a mutation leaves every entry as it was. -/
theorem entryAt?_undo_store (l : Launch) (s : Store) (u : Undo) (k : QueryKey) :
    ((l.pending s).undo (l.store s) u).entryAt? k = s.entryAt? k :=
  l.entryAt?_undo_of_same rfl u

/-- A run that only patches leaves the agenda alone. -/
theorem agenda_store (l : Launch) (s : Store) : (l.store s).agenda = s.agenda :=
  Provisional.agenda_begin s l.nextPlaceholder l.id l.patches l.now

/-- Undoing leaves the scheduled keys scheduled. -/
theorem scheduled_undo_store (l : Launch) (s : Store) (u : Undo) :
    ((l.pending s).undo (l.store s) u).scheduled = s.scheduled := by
  rw [PendingMutation.undo_of_pending rfl rfl, ← Store.scheduled_agenda, Snapshot.agenda_restore,
    agenda_store, Store.scheduled_agenda]

end Launch

/-! ## Runs -/

/-- A run leaves the entry of a key that it does not write as it was, except that it is stale
if the key was invalidated. -/
theorem NestedRun.entryAt?_run {r : NestedRun} {k : QueryKey} (h : r.writes k = false) (s : Store) :
    (r.run s).entryAt? k = (s.entryAt? k).map fun e => e.invalidatedIf (r.invalidates k) := by
  induction r generalizing s with
  | done => simp [run, invalidates]
  | perform o rest ih =>
    rcases Bool.or_eq_false_iff.mp h with ⟨ho, hrest⟩
    rw [run, ih hrest, Store.entryAt?_perform ho, Option.map_map]
    simp [invalidates, Function.comp_def]
  | mutation l inside u rest ihInside ihRest =>
    rcases Bool.or_eq_false_iff.mp h with ⟨hinside, hrest⟩
    have hundone : ((l.pending s).undo (inside.run (l.store s)) u).entryAt? k =
        (s.entryAt? k).map fun e => e.invalidatedIf (inside.invalidates k) := by
      have hrun := ihInside hinside (l.store s)
      by_cases hk : l.changes s k = true
      · exact Launch.entryAt?_undo_of_changes hk hrun u
      · simp only [Bool.not_eq_true] at hk
        rw [Launch.entryAt?_undo, hk, hrun, Launch.entryAt?_store_of_not_changes hk]
        rfl
    rw [run, ihRest hrest, hundone, Option.map_map]
    simp [invalidates, Function.comp_def]

/-- After any run that writes no key changed by the begin, undoing a mutation gives every
changed key the value and the instant it had before the begin, stale if it was stale before or
was invalidated since; an absent key is absent again.  The other keys are as the run left
them. -/
theorem Launch.undo_exact (l : Launch) (s : Store) (r : NestedRun) (u : Undo)
    (h : ∀ k, l.changes s k = true → r.writes k = false) :
    (∀ k, l.changes s k = true →
      ((l.pending s).undo (r.run (l.store s)) u).entryAt? k =
        (s.entryAt? k).map fun e => { e with stale := e.stale || r.invalidates k }) ∧
    (∀ k, l.changes s k = false →
      ((l.pending s).undo (r.run (l.store s)) u).entryAt? k =
        (r.run (l.store s)).entryAt? k) := by
  constructor
  · intro k hk
    exact entryAt?_undo_of_changes hk (NestedRun.entryAt?_run (h k hk) _) u
  · intro k hk
    rw [entryAt?_undo, hk]
    rfl

/-- A comment is added to a list, a nested mutation drops another comment from it, the list is
invalidated and the project is stored meanwhile, and both are undone: the list is as it was,
and stale. -/
theorem Launch.undo_exact_nested :
    let l : Launch :=
      ⟨⟨1⟩, 1, .createComment, {},
        [(.comments "p1", .prepend .null), (.comments "p1", .append .null)], 5⟩
    let inner : Launch := ⟨⟨2⟩, 3, .deleteComment, {}, [(.comments "p1", .remove "c1")], 6⟩
    let s := (Store.empty none).set (.comments "p1") (.list [Item.new "c1" .null]) 0
    let r : NestedRun :=
      .mutation inner
        (.perform (.invalidate (.comments "p1"))
          (.perform (.set (.project "p1") (.record (Item.new "p1" .null)) 7) .done))
        .abandon .done
    (∀ k, l.changes s k = true → r.writes k = false) ∧
      ((l.pending s).undo (r.run (l.store s)) .rollback).entryAt? (.comments "p1") =
        some ⟨.list [Item.new "c1" .null], 0, true⟩ := by
  intro l inner s r
  have h : ∀ k, l.changes s k = true → r.writes k = false := by
    intro k hk
    by_cases hkey : k = .comments "p1"
    · subst hkey
      rfl
    · simp [Launch.changes, Provisional.changedBy, Provisional.changes, l, Ne.symm hkey] at hk
  refine ⟨h, ?_⟩
  exact (undo_exact l s r .rollback h).1 (.comments "p1") rfl

end OptimisticCache
