import OptimisticCache.Proofs.Commit
import OptimisticCache.Proofs.Rollback
/-!
# Many mutations at once

An ensemble is a client with all the mutations that it has begun so far, settled or
not.  Its actions are operations on the store, and the begin, the commit and the
undoing of a mutation; they may be interleaved in any way, and nothing keeps two
pending mutations off one key.

Main results:

- Theorems {lit}`Ensemble.step_commit_cases` and {lit}`Ensemble.step_undo_cases`: a
  mutation settles once; to settle it again, or one that was never begun, changes
  nothing.
- Theorem {lit}`Ensemble.tracked_run`: in every state that is reached, a mutation is
  registered under its own identity, and while it is pending it holds a snapshot of
  some of its targets.
-/

namespace OptimisticCache

/-- A client and the mutations it has begun. -/
structure Ensemble where
  client : Client
  /-- The mutation with an identity, if it was begun. -/
  mutation? : MutationId → Option PendingMutation

/-- The mutation after it is undone. -/
def PendingMutation.undone (p : PendingMutation) (s : Store) : Undo → PendingMutation
  | .rollback => (p.rollback s).2.1
  | .abandon => p.abandon.2

namespace Ensemble

/-- One action of an ensemble. -/
inductive Action where
  /-- The store is operated on. -/
  | operate (o : StoreOp)
  | begin (kind : MutationKind) (scope : Scope) (patches : List (QueryKey × Patch)) (now : Int)
  | commit (m : MutationId) (dependencies : DependencyMap) (authoritative : Option Item) (now : Int)
  | undo (m : MutationId) (u : Undo)

/-- The ensemble of a client that has begun nothing. -/
def ofClient (c : Client) : Ensemble :=
  ⟨c, fun _ => none⟩

/-- The store of the client. -/
def store (e : Ensemble) : Store :=
  e.client.store

/-- Whether a mutation was begun and has not settled. -/
def isPending (e : Ensemble) (m : MutationId) : Bool :=
  (e.mutation? m).any fun p => p.state.isPending

/-- The snapshot of a mutation that is pending. -/
def snapshot? (e : Ensemble) (m : MutationId) : Option Snapshot :=
  (e.mutation? m).bind fun p => if p.state.isPending then p.snapshot else none

/-- The mutation with an identity, if it was begun and has not settled. -/
def pending? (e : Ensemble) (m : MutationId) : Option PendingMutation :=
  (e.mutation? m).filter fun p => p.state.isPending

/-- Put down what became of a mutation and of the store. -/
def update (e : Ensemble) (m : MutationId) (p : PendingMutation) (store : Store) : Ensemble :=
  ⟨{ e.client with store }, fun m' => if m' = m then some p else e.mutation? m'⟩

/-- The ensemble after one action.  A mutation that was never begun cannot settle. -/
def step (e : Ensemble) : Action → Ensemble
  | .operate o => { e with client := { e.client with store := e.store.perform o } }
  | .begin kind scope patches now =>
    let (p, client) := e.client.beginPending kind scope patches now
    { e with client }.update p.id p client.store
  | .commit m dependencies authoritative now =>
    match e.mutation? m with
    | some p =>
      let (_, p', store) := p.commit e.store dependencies authoritative now
      e.update m p' store
    | none => e
  | .undo m u =>
    match e.mutation? m with
    | some p => e.update m (p.undone e.store u) (p.undo e.store u)
    | none => e

/-- The ensemble after a run of actions. -/
def run (e : Ensemble) (as : List Action) : Ensemble :=
  as.foldl step e

variable {e : Ensemble} {m : MutationId} {p : PendingMutation}

/-- A run without actions changes nothing. -/
@[simp]
theorem run_nil (e : Ensemble) : e.run [] = e :=
  rfl

@[simp]
theorem run_cons (e : Ensemble) (a : Action) (as : List Action) :
    e.run (a :: as) = (e.step a).run as :=
  rfl

/-- A run may be cut anywhere. -/
theorem run_append (e : Ensemble) (as bs : List Action) : e.run (as ++ bs) = (e.run as).run bs :=
  List.foldl_append

/-! ## Pending mutations -/

/-- A mutation is pending if it was begun and has not settled. -/
theorem isPending_iff : e.isPending m = true ↔ ∃ p, e.mutation? m = some p ∧ p.state = .pending := by
  unfold isPending
  cases e.mutation? m with
  | none => simp
  | some p => cases hp : p.state <;> simp [MutationState.isPending, hp]

/-- Pending mutations have their snapshots, settled ones have none. -/
theorem snapshot?_eq_some_iff {s : Snapshot} :
    e.snapshot? m = some s ↔
      ∃ p, e.mutation? m = some p ∧ p.state = .pending ∧ p.snapshot = some s := by
  unfold snapshot?
  cases e.mutation? m with
  | none => simp
  | some p => cases hp : p.state <;> simp [MutationState.isPending, hp]

/-- A pending mutation is one that is known and has not settled. -/
theorem pending?_eq_some_iff :
    e.pending? m = some p ↔ e.mutation? m = some p ∧ p.state = .pending := by
  unfold pending?
  rw [Option.filter_eq_some_iff]
  cases p.state <;> simp [MutationState.isPending]

/-- What is not found among the pending mutations is not pending. -/
theorem not_isPending_of_pending? (h : e.pending? m = none) : e.isPending m = false := by
  rw [Bool.eq_false_iff]
  intro hpending
  rcases isPending_iff.mp hpending with ⟨p, hp⟩
  rw [pending?_eq_some_iff.mpr hp] at h
  cases h

/-- Whoever has a snapshot is pending. -/
theorem isPending_of_snapshot? {s : Snapshot} (h : e.snapshot? m = some s) :
    e.isPending m = true := by
  rcases snapshot?_eq_some_iff.mp h with ⟨p, hp, hstate, _⟩
  exact isPending_iff.mpr ⟨p, hp, hstate⟩

/-- A mutation that is not pending has no snapshot. -/
theorem snapshot?_eq_none_of_not_isPending (h : e.isPending m = false) : e.snapshot? m = none := by
  rw [Option.eq_none_iff_forall_ne_some]
  intro s hs
  rw [isPending_of_snapshot? hs] at h
  cases h

/-- Once a mutation has settled it is not pending any more, and the others are as before. -/
theorem isPending_update_settled {state : MutationState} (h : state ≠ .pending) (e : Ensemble)
    (m m' : MutationId) (p : PendingMutation) (s : Store) :
    (e.update m (p.settled state) s).isPending m' = (decide (m' ≠ m) && e.isPending m') := by
  unfold isPending update
  by_cases hm : m' = m
  · cases state with
    | pending => exact absurd rfl h
    | committed | rolledBack => simp [PendingMutation.settled, MutationState.isPending, hm]
  · simp [hm]

/-- A mutation that has settled has no snapshot any more, and the others keep theirs. -/
theorem snapshot?_update_settled {state : MutationState} (h : state ≠ .pending) (e : Ensemble)
    (m m' : MutationId) (p : PendingMutation) (s : Store) :
    (e.update m (p.settled state) s).snapshot? m' = if m' = m then none else e.snapshot? m' := by
  by_cases hm : m' = m
  · have hsettled : (e.update m (p.settled state) s).isPending m' = false := by
      simp [isPending_update_settled h, hm]
    rw [if_pos hm, snapshot?_eq_none_of_not_isPending hsettled]
  · simp [snapshot?, update, hm]

/-- Putting back what was there changes nothing. -/
theorem update_same (h : e.mutation? m = some p) : e.update m p e.store = e := by
  have hmutation : (fun m' => if m' = m then some p else e.mutation? m') = e.mutation? := by
    funext m'
    by_cases hm : m' = m
    · rw [if_pos hm, hm, h]
    · rw [if_neg hm]
  unfold update
  rw [hmutation]
  rfl

/-! ## What one action leaves -/

/-- A begin registers a pending mutation under the next identity. -/
theorem step_begin (e : Ensemble) (kind : MutationKind) (scope : Scope)
    (patches : List (QueryKey × Patch)) (now : Int) :
    let l := e.client.launch kind scope patches now
    let e' := e.step (.begin kind scope patches now)
    e'.store = l.store e.store ∧ e'.client.started = e.client.started + 1 ∧
      ∀ m, e'.mutation? m = if m = l.id then some (l.pending e.store) else e.mutation? m := by
  refine ⟨rfl, rfl, ?_⟩
  intro m
  rw [← Launch.pending_id (e.client.launch kind scope patches now) e.store]
  rfl

/-- After a begin the new mutation has its snapshot, and the others keep theirs. -/
theorem snapshot?_step_begin (e : Ensemble) (kind : MutationKind) (scope : Scope)
    (patches : List (QueryKey × Patch)) (now : Int) (m : MutationId) :
    let l := e.client.launch kind scope patches now
    (e.step (.begin kind scope patches now)).snapshot? m =
      if m = l.id then some (l.snapshot e.store) else e.snapshot? m := by
  intro l
  rcases step_begin e kind scope patches now with ⟨_, _, hmutation⟩
  unfold snapshot?
  rw [hmutation]
  by_cases hm : m = l.id
  · rw [if_pos hm, if_pos hm]
    rfl
  · rw [if_neg hm, if_neg hm]

/-- What is not pending has settled, or was never begun. -/
theorem state_isPending_of_not_isPending (h : e.isPending m = false) (hm : e.mutation? m = some p) :
    p.state.isPending = false := by
  simpa [isPending, hm] using h

/-- A commit settles a pending mutation. -/
theorem step_commit (hm : e.mutation? m = some p) (hp : p.state = .pending)
    (dependencies : DependencyMap) (authoritative : Option Item) (now : Int) :
    e.step (.commit m dependencies authoritative now) =
      e.update m (p.settled .committed) (p.commit e.store dependencies authoritative now).2.2 := by
  simp only [step, hm]
  rw [PendingMutation.commit_pending hp]

/-- The store after a commit: the targets are merged, then the dependent keys invalidated. -/
theorem store_step_commit (hm : e.mutation? m = some p) (hp : p.state = .pending)
    (dependencies : DependencyMap) (authoritative : Option Item) (now : Int) :
    (e.step (.commit m dependencies authoritative now)).store =
      (e.store.mergeAll p.id authoritative now p.targets).invalidateAll
        (dependencies.keysFor p.kind p.scope) := by
  rw [step_commit hm hp]
  exact PendingMutation.commit_store hp e.store dependencies authoritative now

/-- A mutation that is not pending cannot be committed. -/
theorem step_commit_of_not_isPending (h : e.isPending m = false) (dependencies : DependencyMap)
    (authoritative : Option Item) (now : Int) :
    e.step (.commit m dependencies authoritative now) = e := by
  cases hm : e.mutation? m with
  | none => simp [step, hm]
  | some p =>
    simp only [step, hm]
    rw [PendingMutation.commit_settled (state_isPending_of_not_isPending h hm)]
    exact update_same hm

/-- A commit settles a pending mutation, or changes nothing. -/
theorem step_commit_cases (e : Ensemble) (m : MutationId) (dependencies : DependencyMap)
    (authoritative : Option Item) (now : Int) :
    e.step (.commit m dependencies authoritative now) = e ∨
      ∃ p, e.mutation? m = some p ∧ p.state = .pending ∧
        e.step (.commit m dependencies authoritative now) =
          e.update m (p.settled .committed)
            (p.commit e.store dependencies authoritative now).2.2 := by
  cases hpending : e.isPending m with
  | false => exact Or.inl (step_commit_of_not_isPending hpending dependencies authoritative now)
  | true =>
    rcases isPending_iff.mp hpending with ⟨p, hm, hp⟩
    exact Or.inr ⟨p, hm, hp, step_commit hm hp dependencies authoritative now⟩

/-- Undoing settles a pending mutation. -/
theorem step_undo (hm : e.mutation? m = some p) (hp : p.state = .pending) (u : Undo) :
    e.step (.undo m u) = e.update m (p.settled .rolledBack) (p.undo e.store u) := by
  have hundone : p.undone e.store u = p.settled .rolledBack := by
    cases u with
    | rollback =>
      simp [PendingMutation.undone, PendingMutation.rollback, PendingMutation.settled, hp,
        MutationState.isPending]
    | abandon =>
      simp [PendingMutation.undone, PendingMutation.abandon, PendingMutation.settled, hp,
        MutationState.isPending]
  simp only [step, hm]
  rw [hundone]

/-- A mutation that is not pending cannot be undone. -/
theorem step_undo_of_not_isPending (h : e.isPending m = false) (u : Undo) :
    e.step (.undo m u) = e := by
  cases hm : e.mutation? m with
  | none => simp [step, hm]
  | some p =>
    have hp := state_isPending_of_not_isPending h hm
    have hsame : p.undone e.store u = p ∧ p.undo e.store u = e.store := by
      cases u with
      | rollback =>
        simp [PendingMutation.undone, PendingMutation.undo, PendingMutation.rollback_settled hp]
      | abandon =>
        simp [PendingMutation.undone, PendingMutation.undo, PendingMutation.abandon_settled hp]
    simp only [step, hm]
    rw [hsame.1, hsame.2]
    exact update_same hm

/-- Undoing settles a pending mutation, or changes nothing. -/
theorem step_undo_cases (e : Ensemble) (m : MutationId) (u : Undo) :
    e.step (.undo m u) = e ∨
      ∃ p, e.mutation? m = some p ∧ p.state = .pending ∧
        e.step (.undo m u) = e.update m (p.settled .rolledBack) (p.undo e.store u) := by
  cases hpending : e.isPending m with
  | false => exact Or.inl (step_undo_of_not_isPending hpending u)
  | true =>
    rcases isPending_iff.mp hpending with ⟨p, hm, hp⟩
    exact Or.inr ⟨p, hm, hp, step_undo hm hp u⟩

/-! ## Every mutation is tracked -/

/-- Every mutation is registered under its own identity, which was given out before.  While it
is pending it holds a snapshot, of some of its targets and each of them once. -/
structure Tracked (e : Ensemble) : Prop where
  id_eq : ∀ m p, e.mutation? m = some p → p.id = m
  begun : ∀ m p, e.mutation? m = some p → m.number ≤ e.client.started
  snapshot : ∀ m p, e.mutation? m = some p → p.state = .pending →
    ∃ s, p.snapshot = some s ∧ s.keys.Nodup ∧ ∀ k ∈ s.keys, k ∈ p.targets.map Prod.fst

/-- Every pending mutation of a tracked ensemble has a snapshot. -/
theorem Tracked.exists_snapshot? (h : e.Tracked) {m : MutationId} (hm : e.isPending m = true) :
    ∃ s, e.snapshot? m = some s := by
  rcases isPending_iff.mp hm with ⟨p, hp, hstate⟩
  rcases h.snapshot m p hp hstate with ⟨s, hs, _⟩
  exact ⟨s, snapshot?_eq_some_iff.mpr ⟨p, hp, hstate, hs⟩⟩

/-- The numbers of pending mutations have been given out. -/
theorem Tracked.number_le (h : e.Tracked) {m : MutationId} {s : Snapshot}
    (hs : e.snapshot? m = some s) : m.number ≤ e.client.started := by
  rcases snapshot?_eq_some_iff.mp hs with ⟨p, hp, _⟩
  exact h.begun m p hp

/-- A client without mutations is tracked. -/
theorem tracked_ofClient (c : Client) : (ofClient c).Tracked :=
  ⟨fun _ _ h => (by cases h), fun _ _ h => (by cases h), fun _ _ h => (by cases h)⟩

/-- Settling a mutation keeps the ensemble tracked. -/
theorem tracked_update_settled (h : e.Tracked) (hm : e.mutation? m = some p) {state : MutationState}
    (hstate : state ≠ .pending) (s : Store) : (e.update m (p.settled state) s).Tracked := by
  constructor
  · intro m' q hq
    by_cases hm' : m' = m
    · simp only [update, hm', if_true, Option.some.injEq] at hq
      rw [← hq, hm']
      exact h.id_eq m p hm
    · simp only [update, hm', if_false] at hq
      exact h.id_eq m' q hq
  · intro m' q hq
    by_cases hm' : m' = m
    · exact hm' ▸ h.begun m p hm
    · simp only [update, hm', if_false] at hq
      exact h.begun m' q hq
  · intro m' q hq hpending
    by_cases hm' : m' = m
    · simp only [update, hm', if_true, Option.some.injEq] at hq
      rw [← hq] at hpending
      exact absurd hpending hstate
    · simp only [update, hm', if_false] at hq
      exact h.snapshot m' q hq hpending

/-- The snapshot of a begin is of keys that it changed, which are among its targets. -/
theorem tracked_begin (h : e.Tracked) (kind : MutationKind) (scope : Scope)
    (patches : List (QueryKey × Patch)) (now : Int) :
    (e.step (.begin kind scope patches now)).Tracked := by
  rcases step_begin e kind scope patches now with ⟨_, hstarted, hmutation⟩
  constructor
  · intro m q hq
    rw [hmutation] at hq
    split at hq
    · rename_i hm
      rw [← Option.some.inj hq, hm, Launch.pending_id]
    · exact h.id_eq m q hq
  · intro m q hq
    rw [hmutation] at hq
    rw [hstarted]
    split at hq
    · rename_i hm
      rw [hm]
      exact Nat.le_refl _
    · exact Nat.le_succ_of_le (h.begun m q hq)
  · intro m q hq hpending
    rw [hmutation] at hq
    split at hq
    · obtain rfl := Option.some.inj hq
      let l := e.client.launch kind scope patches now
      refine ⟨l.snapshot e.store, rfl, Provisional.nodup_keys_begin e.store _ _ _ _, ?_⟩
      intro k hk
      rw [Launch.targets_keys]
      exact Provisional.mem_keys_of_changes (Provisional.mem_keys_begin.mp hk)
    · exact h.snapshot m q hq hpending

/-- Every action keeps the ensemble tracked. -/
theorem tracked_step (h : e.Tracked) (a : Action) : (e.step a).Tracked := by
  cases a with
  | operate o => exact ⟨h.id_eq, h.begun, h.snapshot⟩
  | begin kind scope patches now => exact tracked_begin h kind scope patches now
  | commit m dependencies authoritative now =>
    rcases step_commit_cases e m dependencies authoritative now with hsame | ⟨p, hm, _, hstep⟩
    · rw [hsame]
      exact h
    · rw [hstep]
      exact tracked_update_settled h hm (by decide) _
  | undo m u =>
    rcases step_undo_cases e m u with hsame | ⟨p, hm, _, hstep⟩
    · rw [hsame]
      exact h
    · rw [hstep]
      exact tracked_update_settled h hm (by decide) _

/-- Every mutation stays tracked through a run. -/
theorem tracked_run (h : e.Tracked) (as : List Action) : (e.run as).Tracked := by
  induction as generalizing e with
  | nil => exact h
  | cons a as ih => exact ih (tracked_step h a)

/-! ## A mutation that stays pending -/

/-- Whether an action settles a mutation, if it is pending. -/
def Action.settles (m : MutationId) : Action → Bool
  | commit m' .. | undo m' _ => m' = m
  | operate _ | begin .. => false

/-- A mutation that was begun is left alone by the actions that do not settle it. -/
theorem mutation?_step {a : Action} (ha : a.settles m = false)
    (hm : m.number ≤ e.client.started) : (e.step a).mutation? m = e.mutation? m := by
  cases a with
  | operate o => rfl
  | begin kind scope patches now =>
    rcases step_begin e kind scope patches now with ⟨_, _, hmutation⟩
    have hne : m ≠ (e.client.launch kind scope patches now).id := by
      rintro rfl
      exact absurd hm (Nat.not_succ_le_self _)
    rw [hmutation, if_neg hne]
  | commit m' dependencies authoritative now =>
    have hne : m ≠ m' := by simpa [Action.settles, eq_comm] using ha
    rcases step_commit_cases e m' dependencies authoritative now with hsame | ⟨p, _, _, hstep⟩
    · rw [hsame]
    · rw [hstep]
      exact if_neg hne
  | undo m' u =>
    have hne : m ≠ m' := by simpa [Action.settles, eq_comm] using ha
    rcases step_undo_cases e m' u with hsame | ⟨p, _, _, hstep⟩
    · rw [hsame]
    · rw [hstep]
      exact if_neg hne

/-- Identities are given out and never taken back. -/
theorem started_le_step (e : Ensemble) (a : Action) :
    e.client.started ≤ (e.step a).client.started := by
  cases a with
  | operate o => exact Nat.le_refl _
  | begin kind scope patches now => exact Nat.le_succ _
  | commit m dependencies authoritative now =>
    rcases step_commit_cases e m dependencies authoritative now with hsame | ⟨p, _, _, hstep⟩
    · exact Nat.le_of_eq (by rw [hsame])
    · rw [hstep]
      exact Nat.le_refl _
  | undo m u =>
    rcases step_undo_cases e m u with hsame | ⟨p, _, _, hstep⟩
    · exact Nat.le_of_eq (by rw [hsame])
    · rw [hstep]
      exact Nat.le_refl _

/-- A run without a settlement of a mutation leaves it as it is. -/
theorem mutation?_run {as : List Action} (has : ∀ a ∈ as, a.settles m = false)
    (hm : m.number ≤ e.client.started) : (e.run as).mutation? m = e.mutation? m := by
  induction as generalizing e with
  | nil => rfl
  | cons a as ih =>
    have hrest : ∀ a ∈ as, a.settles m = false := fun b hb => has b (List.mem_cons_of_mem a hb)
    rw [run_cons, ih hrest (Nat.le_trans hm (started_le_step e a))]
    exact mutation?_step (has a List.mem_cons_self) hm

end Ensemble
end OptimisticCache
