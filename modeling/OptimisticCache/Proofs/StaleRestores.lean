import OptimisticCache.Proofs.Agenda
/-!
# What a rollback tells of invalidations

A rollback puts an entry back as it was before the mutation began.  If the key was
invalidated meanwhile, the old entry has to come back stale.  What tells the rollback
is the stale bit of the entry that it replaces, and that bit does not last: a value
that is stored clears it, and so does a removal.  The old entry then comes back as
fresh as it was.

The stale bit of a key is thus followed through a run: every action sets it, clears
it or leaves it alone, and a patch leaves it alone.

Main results:

- Theorem {lit}`Ensemble.staleBit_step`: the effect of any action on the stale bit of
  a key.
- Theorem {lit}`Ensemble.entryAt?_undone`: the entry that a rollback leaves under a key
  that the mutation had changed.
-/

namespace OptimisticCache

/-- Whether a key is cached and its entry was invalidated. -/
def Store.staleBit (s : Store) (k : QueryKey) : Bool :=
  ((s.entryAt? k).map Entry.stale).getD false

/-- What an operation does to the stale bit of a key: it sets it, clears it, or neither.  A key
that is not cached cannot be marked. -/
def StoreOp.staling (s : Store) (k : QueryKey) : StoreOp → Option Bool
  | .invalidate k' => if k = k' ∧ s.contains k' = true then some true else none
  | .set k' _ _ | .remove k' => if k = k' then some false else none
  | .setFetched k' _ _ => if k = k' then some (s.isScheduled k') else none
  | .get .. | .subscribe _ | .unsubscribe _ | .replaceWith .. | .takeQueued | .completeRefetch _ =>
    none

namespace Store

variable {s s' : Store} {k : QueryKey}

/-- The stale bit of a key is told by its entry. -/
theorem staleBit_of_entryAt? (h : s'.entryAt? k = s.entryAt? k) : s'.staleBit k = s.staleBit k := by
  unfold staleBit
  rw [h]

/-- A key that is written has the bit of its new entry. -/
theorem staleBit_of_written {k' : QueryKey} {e : Option Entry}
    (h : s'.entryAt? k = if k = k' then e else s.entryAt? k) :
    s'.staleBit k =
      (if k = k' then some ((e.map Entry.stale).getD false) else none).getD (s.staleBit k) := by
  unfold staleBit
  rw [h]
  by_cases hk : k = k'
  · rw [if_pos hk, if_pos hk]
    rfl
  · rw [if_neg hk, if_neg hk]
    rfl

/-- An invalidation sets the bit of a key that is cached. -/
theorem staleBit_of_invalidatedIf {invalidated : Bool}
    (h : s'.entryAt? k = (s.entryAt? k).map fun e => e.invalidatedIf invalidated) :
    s'.staleBit k = (s.contains k && invalidated || s.staleBit k) := by
  unfold staleBit contains
  rw [h]
  cases s.entryAt? k with
  | none => rfl
  | some e => simp [Entry.invalidatedIf, Bool.or_comm]

/-- A replacement keeps the bit. -/
theorem staleBit_replaceWith (s : Store) (k k' : QueryKey)
    (update : Option CacheValue → Option CacheValue) (now : Int) :
    (s.replaceWith k update now).2.staleBit k' = s.staleBit k' := by
  by_cases hk : k' = k
  · subst hk
    unfold staleBit
    rw [entryAt?_replaceWith, if_pos rfl]
    cases update (s.peek k') <;> rfl
  · exact staleBit_of_entryAt? (entryAt?_replaceWith_of_ne hk s update now)

/-- Merging changes no stale bit. -/
theorem staleBit_mergeAll (s : Store) (m : MutationId) (authoritative : Option Item) (now : Int)
    (targets : List (QueryKey × MergeRule)) (k : QueryKey) :
    (s.mergeAll m authoritative now targets).staleBit k = s.staleBit k := by
  induction targets generalizing s with
  | nil => rfl
  | cons target rest ih =>
    have hrest : ((s.merge m authoritative now target).mergeAll m authoritative now rest).staleBit k =
        (s.merge m authoritative now target).staleBit k := ih _
    exact hrest.trans (staleBit_replaceWith s target.1 k _ now)

/-- Restoring clears the bit of a key that was absent, and sets the bit of a key that was
stale. -/
theorem staleBit_restore {snapshot : Snapshot} (h : snapshot.keys.Nodup) (s : Store)
    (k : QueryKey) :
    (snapshot.restore s).2.staleBit k =
      match snapshot.recorded? k with
      | some (some e) => e.stale || s.staleBit k
      | some none => false
      | none => s.staleBit k := by
  unfold staleBit
  rw [Snapshot.entryAt?_restore h]
  rcases snapshot.recorded? k with _ | _ | e <;> rfl

/-- An operation sets the stale bit of a key, clears it, or leaves it as it is. -/
theorem staleBit_perform (s : Store) (o : StoreOp) (k : QueryKey) :
    (s.perform o).staleBit k = (o.staling s k).getD (s.staleBit k) := by
  cases o with
  | get k' now => exact staleBit_of_entryAt? (entryAt?_get s k' k now)
  | subscribe k' => rfl
  | unsubscribe sub => rfl
  | invalidate k' =>
    have hinvalidated : (s.perform (.invalidate k')).entryAt? k =
        (s.entryAt? k).map fun e => e.invalidatedIf (decide (k = k')) :=
      entryAt?_perform rfl s
    rw [staleBit_of_invalidatedIf hinvalidated, StoreOp.staling, getD_ite_some_true]
    by_cases hk : k = k'
    · simp [hk]
    · simp [hk]
  | set k' v now => exact staleBit_of_written (entryAt?_set s k' k v now)
  | setFetched k' v now => exact staleBit_of_written (entryAt?_setFetched s k' k v now)
  | replaceWith k' update now => exact staleBit_replaceWith s k' k update now
  | remove k' => exact staleBit_of_written (entryAt?_remove s k' k)
  | takeQueued => exact staleBit_of_entryAt? (entryAt?_takeQueued s k)
  | completeRefetch k' => rfl

end Store

/-- A commit sets the bits of the keys that depend on its mutation, if they are cached after the
merges, and keeps the others. -/
theorem PendingMutation.staleBit_commit {p : PendingMutation} (h : p.state = .pending)
    (store : Store) (dependencies : DependencyMap) (authoritative : Option Item) (now : Int)
    (k : QueryKey) :
    (p.commit store dependencies authoritative now).2.2.staleBit k =
      ((store.mergeAll p.id authoritative now p.targets).contains k &&
          decide (k ∈ dependencies.keysFor p.kind p.scope) ||
        store.staleBit k) := by
  rw [commit_store h, Store.staleBit_of_invalidatedIf (Store.entryAt?_invalidateAll _ _ k),
    Store.staleBit_mergeAll]

namespace Ensemble

/-- What an action does to the stale bit of a key: it sets it, clears it, or neither.  A commit
marks the keys that depend on its mutation, if they are cached after the merge; undoing a
mutation brings back an entry that was stale before, or the absence of an entry. -/
def staling (k : QueryKey) (e : Ensemble) : Action → Option Bool
  | .operate o => o.staling e.store k
  | .begin .. => none
  | .commit m dependencies authoritative now =>
    match e.pending? m with
    | some p =>
      if k ∈ dependencies.keysFor p.kind p.scope ∧
          (e.store.mergeAll p.id authoritative now p.targets).contains k = true then some true
      else none
    | none => none
  | .undo m _ =>
    match (e.snapshot? m).bind fun snapshot => snapshot.recorded? k with
    | some (some old) => if old.stale = true then some true else none
    | some none => some false
    | none => none

variable {e : Ensemble} {m : MutationId}

/-- A mutation that begins changes no stale bit. -/
theorem staleBit_step_begin (k : QueryKey) (e : Ensemble) (kind : MutationKind) (scope : Scope)
    (patches : List (QueryKey × Patch)) (now : Int) :
    (e.step (.begin kind scope patches now)).store.staleBit k = e.store.staleBit k := by
  obtain ⟨hstore, _⟩ := step_begin e kind scope patches now
  rw [hstore]
  let l := e.client.launch kind scope patches now
  by_cases hk : l.changes e.store k = true
  · rcases Provisional.entryAt?_begin_of_changes hk with ⟨v, hv⟩
    have hbegun : (l.store e.store).entryAt? k = some ⟨v, now, e.store.staleBit k⟩ := hv
    unfold Store.staleBit
    rw [hbegun]
    rfl
  · rw [Bool.not_eq_true] at hk
    exact Store.staleBit_of_entryAt? (Launch.entryAt?_store_of_not_changes hk)

/-- A commit marks the keys that depend on its mutation, if they are cached after its merges. -/
theorem staleBit_step_commit (k : QueryKey) (e : Ensemble) (m : MutationId)
    (dependencies : DependencyMap) (authoritative : Option Item) (now : Int) :
    (e.step (.commit m dependencies authoritative now)).store.staleBit k =
      (staling k e (.commit m dependencies authoritative now)).getD (e.store.staleBit k) := by
  cases hpending : e.pending? m with
  | none =>
    rw [step_commit_of_not_isPending (not_isPending_of_pending? hpending), staling, hpending]
    rfl
  | some p =>
    rcases pending?_eq_some_iff.mp hpending with ⟨hm, hp⟩
    have hstore : (e.step (.commit m dependencies authoritative now)).store =
        (p.commit e.store dependencies authoritative now).2.2 :=
      congrArg Ensemble.store (step_commit hm hp dependencies authoritative now)
    rw [hstore, PendingMutation.staleBit_commit hp, staling, hpending]
    simp only [getD_ite_some_true, Bool.decide_and, Bool.decide_eq_true]
    rw [Bool.and_comm]

/-- Undoing sets the stale bits that were recorded, and clears those of recorded absences. -/
theorem staleBit_step_undo (h : e.Tracked) (k : QueryKey) (m : MutationId) (u : Undo) :
    (e.step (.undo m u)).store.staleBit k = (staling k e (.undo m u)).getD (e.store.staleBit k) := by
  cases hpending : e.pending? m with
  | none =>
    have hsettled : e.isPending m = false := not_isPending_of_pending? hpending
    rw [step_undo_of_not_isPending hsettled, staling, snapshot?_eq_none_of_not_isPending hsettled]
    rfl
  | some p =>
    rcases pending?_eq_some_iff.mp hpending with ⟨hm, hp⟩
    rcases h.snapshot m p hm hp with ⟨snapshot, hsnapshot, hnodup, _⟩
    have hrestored : (e.step (.undo m u)).store = (snapshot.restore e.store).2 := by
      rw [step_undo hm hp]
      exact PendingMutation.undo_of_pending hp hsnapshot e.store u
    have htaken : e.snapshot? m = some snapshot :=
      snapshot?_eq_some_iff.mpr ⟨p, hm, hp, hsnapshot⟩
    rw [hrestored, Store.staleBit_restore hnodup, staling, htaken, Option.bind_some]
    rcases snapshot.recorded? k with _ | _ | old
    · rfl
    · rfl
    · simp only [getD_ite_some_true, Bool.decide_eq_true]

/-- An action sets the stale bit of a key, clears it, or leaves it as it is. -/
theorem staleBit_step (k : QueryKey) (h : e.Tracked) (a : Action) :
    (e.step a).store.staleBit k = (staling k e a).getD (e.store.staleBit k) := by
  cases a with
  | operate o => exact Store.staleBit_perform e.store o k
  | begin kind scope patches now => exact staleBit_step_begin k e kind scope patches now
  | commit m dependencies authoritative now =>
    exact staleBit_step_commit k e m dependencies authoritative now
  | undo m u => exact staleBit_step_undo h k m u

/-! ## The entry after a rollback -/

/-- A mutation begins in any state that is reached, others act in any way, and the mutation is
undone.  A key that its begin changed has its old entry back, or is absent as before.  The entry
is stale if and only if it was stale before the begin, or the last action since then with an
effect on the stale bit of the key had set it. -/
theorem entryAt?_undone (c : Client) (before during : List Action) (kind : MutationKind)
    (scope : Scope) (patches : List (QueryKey × Patch)) (now : Int) (k : QueryKey) (u : Undo) :
    let e := (ofClient c).run before
    let l := e.client.launch kind scope patches now
    let begun := e.step (.begin kind scope patches now)
    l.changes e.store k = true → (∀ a ∈ during, a.settles l.id = false) →
    ((begun.run during).step (.undo l.id u)).store.entryAt? k =
      (e.store.entryAt? k).map fun old =>
        { old with
          stale := old.stale || decide (lastEffect step (staling k) begun during = some true) } := by
  intro e l begun hk hduring
  have htracked : begun.Tracked := tracked_step (tracked_run (tracked_ofClient c) before) _
  rcases step_begin e kind scope patches now with ⟨_, hstarted, hmutation⟩
  have hpending : (begun.run during).mutation? l.id =
      some (l.pending e.store) := by
    rw [mutation?_run hduring (Nat.le_of_eq hstarted.symm), hmutation, if_pos rfl]
  have hundone : ((begun.run during).step (.undo l.id u)).store =
      (l.pending e.store).undo (begun.run during).store u := by
    rw [step_undo hpending rfl]
    rfl
  have hbit : (begun.run during).store.staleBit k =
      (lastEffect step (staling k) begun during).getD (e.store.staleBit k) := by
    rw [← staleBit_step_begin k e kind scope patches now]
    exact bit_foldl (fun e => e.store.staleBit k) Tracked (fun _ a h => tracked_step h a)
      (fun _ a h => staleBit_step k h a) htracked during
  have hstale : (((begun.run during).store.entryAt? k).map Entry.stale).getD false =
      (lastEffect step (staling k) begun during).getD (e.store.staleBit k) := hbit
  rw [hundone, Launch.entryAt?_undo, if_pos hk]
  unfold Snapshot.putBack
  rw [hstale]
  unfold Store.staleBit
  cases e.store.entryAt? k with
  | none => rfl
  | some old =>
    cases lastEffect step (staling k) begun during <;> cases old.stale <;> simp

/-- While a comment is being added, its list is stored anew and then invalidated: rolled back,
the list is stale. -/
theorem entryAt?_undone_stale :
    let k := QueryKey.comments "p1"
    let v := CacheValue.list [Item.new "c1" .null]
    let before : List Action := [.operate (.set k v 0)]
    let during : List Action := [.operate (.set k (.list []) 2), .operate (.invalidate k)]
    let patches := [(k, Patch.prepend .null)]
    let e := (ofClient { store := .empty none }).run before
    let l := e.client.launch .createComment {} patches 1
    let begun := e.step (.begin .createComment {} patches 1)
    l.changes e.store k = true ∧ (∀ a ∈ during, a.settles l.id = false) ∧
      ((begun.run during).step (.undo l.id .rollback)).store.entryAt? k = some ⟨v, 0, true⟩ := by
  intro k v before during patches e l begun
  have hk : l.changes e.store k = true := by decide +kernel
  have hduring : ∀ a ∈ during, a.settles l.id = false := by simp [during, Action.settles]
  have hlast : lastEffect step (staling k) begun during = some true := by decide +kernel
  have hold : e.store.entryAt? k = some ⟨v, 0, false⟩ := by decide +kernel
  have hentry : ((begun.run during).step (.undo l.id .rollback)).store.entryAt? k =
      (e.store.entryAt? k).map fun old =>
        { old with
          stale := old.stale || decide (lastEffect step (staling k) begun during = some true) } :=
    entryAt?_undone { store := .empty none } before during .createComment {} patches 1 k .rollback
      hk hduring
  refine ⟨hk, hduring, ?_⟩
  rw [hentry, hold, hlast]
  rfl

/-- While a comment is being added, its list is invalidated and then stored anew: rolled back,
the list from before the invalidation is fresh. -/
theorem fresh_restore_of_invalidated :
    let k := QueryKey.comments "p1"
    let v := CacheValue.list [Item.new "c1" .null]
    let e := (ofClient { store := .empty none }).run [.operate (.set k v 0)]
    let begun := e.step (.begin .createComment {} [(k, .prepend .null)] 1)
    let during : List Action := [.operate (.invalidate k), .operate (.set k (.list []) 2)]
    (e.client.launch .createComment {} [(k, .prepend .null)] 1).changes e.store k = true ∧
      ((begun.run during).step (.undo ⟨1⟩ .rollback)).store.entryAt? k = some ⟨v, 0, false⟩ := by
  decide +kernel

end Ensemble
end OptimisticCache
