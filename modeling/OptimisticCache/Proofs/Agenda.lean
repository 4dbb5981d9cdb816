import OptimisticCache.Proofs.Ensemble
/-!
# The agenda of refetches

Besides its entries a store keeps an agenda: which keys are scheduled for a refetch,
which keys wait in the queue and who reads it, and how many subscriptions each key
has.  Writes, patches, merges and restored snapshots leave the agenda alone.  What
is left to look at are the accesses that schedule a key, the steps that free its
slot, and the subscriptions.

Whether a key is scheduled is a bit that every action sets, clears or leaves alone,
so that after a run the last action with an effect on it counts.

Main results:

- Theorem {lit}`bit_foldl`: a bit after a run through states with an invariant.
- Theorem {lit}`Store.isScheduled_perform` and {lit}`Ensemble.isScheduled_step`: the
  effect of an operation, and of any action, on the scheduled keys.
-/

namespace OptimisticCache

/-! ## A bit and the actions with an effect on it -/

section LastEffect

variable {σ α : Type} {step : σ → α → σ} {effect : σ → α → Option Bool}

/-- What the last action of a run with an effect did: it set the bit or cleared it.  None if no
action had an effect. -/
def lastEffect (step : σ → α → σ) (effect : σ → α → Option Bool) : σ → List α → Option Bool
  | _, [] => none
  | s, a :: as => (lastEffect step effect (step s a) as).or (effect s a)

/-- The bit after a run is as its last effect left it, and as it was if there was none. -/
theorem bit_foldl (bit : σ → Bool) (inv : σ → Prop) (hinv : ∀ s a, inv s → inv (step s a))
    (h : ∀ s a, inv s → bit (step s a) = (effect s a).getD (bit s)) {s : σ} (hs : inv s)
    (as : List α) : bit (as.foldl step s) = (lastEffect step effect s as).getD (bit s) := by
  induction as generalizing s with
  | nil => rfl
  | cons a as ih =>
    rw [List.foldl_cons, ih (hinv s a hs), h s a hs, lastEffect]
    cases lastEffect step effect (step s a) as <;> rfl

end LastEffect

/-! ## Steps that leave the agenda alone -/

/-- Merging schedules nothing and takes nothing off the queue. -/
theorem Store.agenda_mergeAll (s : Store) (m : MutationId) (authoritative : Option Item) (now : Int)
    (targets : List (QueryKey × MergeRule)) :
    (s.mergeAll m authoritative now targets).agenda = s.agenda := by
  induction targets generalizing s with
  | nil => rfl
  | cons target rest ih =>
    have hrest : ((s.merge m authoritative now target).mergeAll m authoritative now rest).agenda =
        (s.merge m authoritative now target).agenda := ih _
    exact hrest.trans (agenda_replaceWith s target.1 _ now)

/-- Merging changes no count of subscribers. -/
theorem Store.subscriberCount_mergeAll (s : Store) (m : MutationId) (authoritative : Option Item)
    (now : Int) (targets : List (QueryKey × MergeRule)) (k : QueryKey) :
    (s.mergeAll m authoritative now targets).subscriberCount k = s.subscriberCount k := by
  rw [← subscriberCount_agenda, agenda_mergeAll, subscriberCount_agenda]

/-- Merging leaves the scheduled keys scheduled and adds none. -/
theorem Store.isScheduled_mergeAll (s : Store) (m : MutationId) (authoritative : Option Item)
    (now : Int) (targets : List (QueryKey × MergeRule)) (k : QueryKey) :
    (s.mergeAll m authoritative now targets).isScheduled k = s.isScheduled k := by
  rw [← isScheduled_agenda, agenda_mergeAll, isScheduled_agenda]

/-- Undoing leaves the agenda alone. -/
theorem PendingMutation.agenda_undo (p : PendingMutation) (s : Store) (u : Undo) :
    (p.undo s u).agenda = s.agenda := by
  cases u with
  | rollback =>
    unfold undo rollback
    dsimp only
    split
    · split
      · exact Snapshot.agenda_restore _ s
      · rfl
    · rfl
  | abandon =>
    unfold undo
    dsimp only
    split
    · exact Snapshot.agenda_restore _ s
    · rfl

/-! ## Steps that change the agenda -/

namespace Store

/-- After a key was scheduled it is, and so are those that were. -/
theorem isScheduled_schedule (s : Store) (k k' : QueryKey) :
    (s.schedule k).isScheduled k' = (decide (k' = k) || s.isScheduled k') := by
  unfold schedule
  split
  · rename_i hscheduled
    by_cases hk : k' = k
    · rw [hk, hscheduled]
      simp
    · simp [hk]
  · simp [isScheduled]

/-- Completing a refetch frees the slot of its key only. -/
theorem isScheduled_completeRefetch (s : Store) (k k' : QueryKey) :
    (s.completeRefetch k).isScheduled k' = (decide (k' ≠ k) && s.isScheduled k') := by
  by_cases hk : k' = k
  · simp [isScheduled, completeRefetch, hk]
  · simp [isScheduled, completeRefetch, hk]

@[simp]
theorem subscriberCount_schedule (s : Store) (k k' : QueryKey) :
    (s.schedule k).subscriberCount k' = s.subscriberCount k' := by
  unfold schedule
  split <;> rfl

@[simp]
theorem reader_schedule (s : Store) (k : QueryKey) : (s.schedule k).reader = s.reader := by
  unfold schedule
  split <;> rfl

/-- The agenda says all that scheduling depends on. -/
theorem agenda_schedule (s : Store) (k : QueryKey) :
    (s.schedule k).agenda = s.agenda.schedule k := by
  unfold schedule
  by_cases h : s.isScheduled k = true
  · have h' : s.agenda.isScheduled k = true := h
    rw [if_pos h, if_pos h']
  · have h' : ¬ s.agenda.isScheduled k = true := h
    rw [if_neg h, if_neg h']
    rfl

/-- An invalidation schedules its key if somebody listens. -/
theorem agenda_invalidate (s : Store) (k : QueryKey) :
    (s.invalidate k).2.agenda = if 0 < s.subscriberCount k then s.agenda.schedule k else s.agenda := by
  unfold invalidate
  dsimp only
  split
  · rw [agenda_schedule, agenda_publish, agenda_markStale]
  · split <;> simp

/-- A read schedules its key if it is stale and somebody listens. -/
theorem agenda_get (s : Store) (k : QueryKey) (now : Int) :
    (s.get k now).2.agenda =
      if s.isStale k now && 0 < s.subscriberCount k then s.agenda.schedule k else s.agenda := by
  unfold get isStale
  cases s.entryAt? k with
  | none => rfl
  | some e =>
    dsimp only
    split
    · exact agenda_schedule s k
    · rfl

/-- The view of a step that schedules a key under a condition. -/
theorem isScheduled_of_agenda_ite {s s' : Store} {k : QueryKey} {c : Prop} [Decidable c]
    (h : s'.agenda = if c then s.agenda.schedule k else s.agenda) (k' : QueryKey) :
    s'.isScheduled k' = (decide (k' = k ∧ c) || s.isScheduled k') := by
  rw [← isScheduled_agenda, h]
  by_cases hc : c
  · simp [hc, isScheduled_schedule]
  · simp [hc]

/-- Scheduling a key or not changes no count of subscribers. -/
theorem subscriberCount_of_agenda_ite {s s' : Store} {k : QueryKey} {c : Prop} [Decidable c]
    (h : s'.agenda = if c then s.agenda.schedule k else s.agenda) (k' : QueryKey) :
    s'.subscriberCount k' = s.subscriberCount k' := by
  rw [← subscriberCount_agenda, h]
  split <;> simp

/-- An invalidation schedules the key exactly if someone subscribes to it. -/
theorem isScheduled_invalidate (s : Store) (k k' : QueryKey) :
    (s.invalidate k).2.isScheduled k' =
      (decide (k' = k ∧ 0 < s.subscriberCount k) || s.isScheduled k') :=
  isScheduled_of_agenda_ite (agenda_invalidate s k) k'

@[simp]
theorem subscriberCount_invalidate (s : Store) (k k' : QueryKey) :
    (s.invalidate k).2.subscriberCount k' = s.subscriberCount k' :=
  subscriberCount_of_agenda_ite (agenda_invalidate s k) k'

/-- Invalidations change no count of subscribers. -/
theorem subscriberCount_invalidateAll (s : Store) (ks : List QueryKey) (k : QueryKey) :
    (s.invalidateAll ks).subscriberCount k = s.subscriberCount k := by
  induction ks generalizing s with
  | nil => rfl
  | cons k' ks ih => exact (ih _).trans (subscriberCount_invalidate s k' k)

/-- Invalidations schedule the keys that somebody listens to. -/
theorem isScheduled_invalidateAll (s : Store) (ks : List QueryKey) (k : QueryKey) :
    (s.invalidateAll ks).isScheduled k =
      (decide (k ∈ ks ∧ 0 < s.subscriberCount k) || s.isScheduled k) := by
  induction ks generalizing s with
  | nil => simp [invalidateAll]
  | cons k' ks ih =>
    change ((s.invalidate k').2.invalidateAll ks).isScheduled k = _
    rw [ih, subscriberCount_invalidate, isScheduled_invalidate]
    by_cases hk : k = k'
    · subst hk
      cases s.isScheduled k <;> simp
    · simp [hk]

/-- What becomes of an invalidation: it depends on the subscriptions, and on whether the key is
cached. -/
theorem invalidate_outcome (s : Store) (k : QueryKey) :
    (s.invalidate k).1 =
      if 0 < s.subscriberCount k then .refetchScheduled
      else if s.contains k then .markedStale
      else .absent := by
  unfold invalidate
  dsimp only
  split
  · rfl
  · split <;> rfl

end Store

namespace PendingMutation

/-- The invalidations of a commit do not get in each other's way. -/
theorem outcomes_foldl_invalidateOne (outcomes : List (QueryKey × Invalidation)) (s : Store)
    (ks : List QueryKey) :
    (ks.foldl invalidateOne (outcomes, s)).1 =
      outcomes ++ ks.map fun k => (k, (s.invalidate k).1) := by
  induction ks generalizing outcomes s with
  | nil => simp
  | cons k ks ih =>
    have hsame : ∀ k', ((s.invalidate k).2.invalidate k').1 = (s.invalidate k').1 := by
      intro k'
      have hcached : (s.invalidate k).2.contains k' = s.contains k' := by
        unfold Store.contains
        rw [Store.entryAt?_invalidate]
        split
        · rename_i hk
          rw [hk, Option.isSome_map]
        · rfl
      rw [Store.invalidate_outcome, Store.invalidate_outcome, Store.subscriberCount_invalidate,
        hcached]
    change (ks.foldl invalidateOne (outcomes ++ [(k, (s.invalidate k).1)], (s.invalidate k).2)).1 = _
    rw [ih]
    simp [hsame]

variable {p : PendingMutation} {store : Store} {dependencies : DependencyMap}
  {authoritative : Option Item} {now : Int}

/-- What a commit reports. -/
theorem commit_report (h : p.state = .pending) (store : Store) (dependencies : DependencyMap)
    (authoritative : Option Item) (now : Int) :
    (p.commit store dependencies authoritative now).1 =
      .ok ⟨p.id, .committed,
        (p.targets.foldl (mergeTarget p.id authoritative now) ([], store)).1,
        (dependencies.keysFor p.kind p.scope).map fun k =>
          (k, ((store.mergeAll p.id authoritative now p.targets).invalidate k).1)⟩ := by
  simp only [commit, h, MutationState.isPending, if_true]
  rw [outcomes_foldl_invalidateOne, store_foldl_mergeTarget, List.nil_append]

/-- Neither does the commit that they are part of. -/
theorem subscriberCount_commit (h : p.state = .pending) (k : QueryKey) :
    (p.commit store dependencies authoritative now).2.2.subscriberCount k =
      store.subscriberCount k := by
  rw [commit_store h, Store.subscriberCount_invalidateAll, Store.subscriberCount_mergeAll]

/-- A commit schedules the keys that depend on its mutation and that somebody listens to. -/
theorem isScheduled_commit (h : p.state = .pending) (k : QueryKey) :
    (p.commit store dependencies authoritative now).2.2.isScheduled k =
      (decide (k ∈ dependencies.keysFor p.kind p.scope ∧ 0 < store.subscriberCount k) ||
        store.isScheduled k) := by
  rw [commit_store h, Store.isScheduled_invalidateAll, Store.subscriberCount_mergeAll,
    Store.isScheduled_mergeAll]

end PendingMutation

/-! ## The effect on the scheduled keys -/

/-- What an operation does to the refetch slot of a key: it schedules the key, frees the slot,
or neither. -/
def StoreOp.scheduling (s : Store) (k : QueryKey) : StoreOp → Option Bool
  | .get k' now =>
    if k = k' ∧ (s.isStale k' now && 0 < s.subscriberCount k') = true then some true else none
  | .invalidate k' => if k = k' ∧ 0 < s.subscriberCount k' then some true else none
  | .set k' _ _ | .completeRefetch k' => if k = k' then some false else none
  | .subscribe _ | .unsubscribe _ | .setFetched .. | .replaceWith .. | .remove _ | .takeQueued =>
    none

/-- What an effect that schedules under a condition leaves behind. -/
theorem getD_ite_some_true (c : Prop) [Decidable c] (b : Bool) :
    (if c then some true else none).getD b = (decide c || b) := by
  split <;> simp [*]

/-- What an effect that frees a slot under a condition leaves behind. -/
theorem getD_ite_some_false (c : Prop) [Decidable c] (b : Bool) :
    (if c then some false else none).getD b = (decide (¬ c) && b) := by
  split <;> simp [*]

/-- An operation schedules a key, frees its slot, or leaves the slot as it is. -/
theorem Store.isScheduled_perform (s : Store) (o : StoreOp) (k : QueryKey) :
    (s.perform o).isScheduled k = (o.scheduling s k).getD (s.isScheduled k) := by
  cases o with
  | get k' now =>
    rw [StoreOp.scheduling, getD_ite_some_true]
    exact isScheduled_of_agenda_ite (agenda_get s k' now) k
  | invalidate k' =>
    rw [StoreOp.scheduling, getD_ite_some_true]
    exact isScheduled_invalidate s k' k
  | set k' v now =>
    rw [StoreOp.scheduling, getD_ite_some_false]
    exact isScheduled_completeRefetch (s.putEntry k' _) k' k
  | completeRefetch k' =>
    rw [StoreOp.scheduling, getD_ite_some_false]
    exact isScheduled_completeRefetch s k' k
  | subscribe k' => rfl
  | unsubscribe sub => rfl
  | setFetched k' v now => rfl
  | replaceWith k' update now =>
    rw [← isScheduled_agenda, perform, agenda_replaceWith]
    rfl
  | remove k' =>
    rw [← isScheduled_agenda, perform, agenda_remove]
    rfl
  | takeQueued =>
    unfold perform takeQueued
    dsimp only
    split <;> rfl

namespace Ensemble

/-- What an action does to the refetch slot of a key.  A commit schedules the keys that depend
on its mutation if somebody listens to them. -/
def scheduling (k : QueryKey) (e : Ensemble) : Action → Option Bool
  | .operate o => o.scheduling e.store k
  | .commit m dependencies _ _ =>
    match e.pending? m with
    | some p =>
      if k ∈ dependencies.keysFor p.kind p.scope ∧ 0 < e.store.subscriberCount k then some true
      else none
    | none => none
  | .begin .. | .undo .. => none

/-- A commit schedules the keys that it invalidates, if someone subscribes to them. -/
theorem isScheduled_step_commit (k : QueryKey) (e : Ensemble) (m : MutationId)
    (dependencies : DependencyMap) (authoritative : Option Item) (now : Int) :
    (e.step (.commit m dependencies authoritative now)).store.isScheduled k =
      (scheduling k e (.commit m dependencies authoritative now)).getD (e.store.isScheduled k) := by
  cases hpending : e.pending? m with
  | none =>
    rw [step_commit_of_not_isPending (not_isPending_of_pending? hpending), scheduling, hpending]
    rfl
  | some p =>
    rcases pending?_eq_some_iff.mp hpending with ⟨hm, hp⟩
    have hstore : (e.step (.commit m dependencies authoritative now)).store =
        (p.commit e.store dependencies authoritative now).2.2 :=
      congrArg Ensemble.store (step_commit hm hp dependencies authoritative now)
    rw [hstore, PendingMutation.isScheduled_commit hp, scheduling, hpending]
    exact (getD_ite_some_true _ _).symm

/-- An action schedules a key, frees its slot, or leaves the slot as it is. -/
theorem isScheduled_step (k : QueryKey) (e : Ensemble) (a : Action) :
    (e.step a).store.isScheduled k = (scheduling k e a).getD (e.store.isScheduled k) := by
  cases a with
  | operate o => exact Store.isScheduled_perform e.store o k
  | begin kind scope patches now =>
    obtain ⟨hstore, _⟩ := step_begin e kind scope patches now
    rw [hstore, ← Store.isScheduled_agenda, Launch.agenda_store]
    rfl
  | commit m dependencies authoritative now =>
    exact isScheduled_step_commit k e m dependencies authoritative now
  | undo m u =>
    rcases step_undo_cases e m u with hsame | ⟨p, _, _, hstep⟩
    · rw [hsame]
      rfl
    · have hagenda : (e.step (.undo m u)).store.agenda = e.store.agenda := by
        rw [hstep]
        exact PendingMutation.agenda_undo p e.store u
      rw [← Store.isScheduled_agenda, hagenda]
      rfl

end Ensemble
end OptimisticCache
