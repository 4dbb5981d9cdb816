import OptimisticCache.Proofs.Agenda
/-!
# A mutation settles once

A mutation can be called to commit, to roll back or to be abandoned as often as one likes.
It obeys the first of these calls, whatever it is, and refuses all others.  A refusal comes
before anything is done, so it leaves the store as it is, and there is no snapshot left
that could be put back a second time.

A mutation does not own its store.  Between the calls the store is worked on in any way,
by other mutations, by a worker or by anybody else, and nothing that is said here depends
on it.

Main results:

- Theorem {lit}`PendingMutation.call_of_pending`: a pending mutation obeys every call.
- Theorem {lit}`Custody.pending_run`: what became of a mutation after a run is decided by
  the first call.
- Theorem {lit}`Custody.settles_once`: which call of a run is obeyed and what the others
  leave.
-/

namespace OptimisticCache

/-! ## Calls -/

/-- A call to settle a mutation. -/
inductive SettleCall where
  | commit (dependencies : DependencyMap) (authoritative : Option Item) (now : Int)
  | rollback
  | abandon

/-- The answer to a call. -/
inductive SettleAnswer where
  /-- The mutation reports how it settled, or why it cannot. -/
  | report (result : Except CacheError Settlement)
  /-- The snapshot is handed out, if there is one. -/
  | handOut (snapshot : Option Snapshot)

namespace SettleCall

/-- The state that the call takes a pending mutation to. -/
def outcome : SettleCall → MutationState
  | commit .. => .committed
  | rollback | abandon => .rolledBack

/-- The answer of a mutation that has settled before. -/
def refusal (p : PendingMutation) : SettleCall → SettleAnswer
  | commit .. => .report (.error (.settled .commit p.id p.state))
  | rollback => .report (.error (.settled .rollback p.id p.state))
  | abandon => .handOut none

@[simp]
theorem isPending_outcome (c : SettleCall) : c.outcome.isPending = false := by
  cases c <;> rfl

end SettleCall

namespace PendingMutation

/-- Call a mutation to settle on a store. -/
def call (p : PendingMutation) (s : Store) : SettleCall → SettleAnswer × PendingMutation × Store
  | .commit dependencies authoritative now =>
    let (result, p', s') := p.commit s dependencies authoritative now
    (.report result, p', s')
  | .rollback =>
    let (result, p', s') := p.rollback s
    (.report result, p', s')
  | .abandon => (.handOut p.abandon.1, p.abandon.2, s)

/-- The mutations that were just made, by a begin or to track patches applied before. -/
inductive Opened : PendingMutation → Prop
  | begin (store : Store) (nextPlaceholder : Nat) (id : MutationId) (kind : MutationKind)
      (scope : Scope) (patches : List (QueryKey × Patch)) (now : Int) :
      Opened (PendingMutation.begin store nextPlaceholder id kind scope patches now).1
  | track (kind : MutationKind) (scope : Scope) (snapshot : Snapshot)
      (targets : List (QueryKey × MergeRule)) : Opened (track kind scope snapshot targets)

/-- What a call that is obeyed answers and leaves: the mutation has settled and given its
snapshot up.  A commit merges and invalidates, a rollback puts the snapshot back, and an abandoned
mutation hands it out and leaves the store alone. -/
inductive Obeys (p : PendingMutation) (s : Store) :
    SettleCall → SettleAnswer × PendingMutation × Store → Prop
  | commit {dependencies : DependencyMap} {authoritative : Option Item} {now : Int}
      {settlement : Settlement} (hmutation : settlement.mutation = p.id)
      (hstate : settlement.state = .committed) :
      Obeys p s (.commit dependencies authoritative now)
        (.report (.ok settlement), p.settled .committed,
          (s.mergeAll p.id authoritative now p.targets).invalidateAll
            (dependencies.keysFor p.kind p.scope))
  | rollback {snapshot : Snapshot} (hsnapshot : p.snapshot = some snapshot) :
      Obeys p s .rollback
        (.report (.ok ⟨p.id, .rolledBack, snapshot.keys, []⟩), p.settled .rolledBack,
          (snapshot.restore s).2)
  | abandon {snapshot : Snapshot} (hsnapshot : p.snapshot = some snapshot) :
      Obeys p s .abandon (.handOut (some snapshot), p.settled .rolledBack, s)

variable {p : PendingMutation}

/-- An opened mutation is pending. -/
theorem Opened.state (h : p.Opened) : p.state = .pending := by
  cases h <;> rfl

/-- An opened mutation has its snapshot. -/
theorem Opened.exists_snapshot (h : p.Opened) : ∃ snapshot, p.snapshot = some snapshot := by
  cases h with
  | begin => exact ⟨_, rfl⟩
  | track kind scope snapshot targets => exact ⟨snapshot, rfl⟩

/-- A pending mutation with its snapshot obeys every call. -/
theorem call_of_pending {snapshot : Snapshot} (hstate : p.state = .pending)
    (hsnapshot : p.snapshot = some snapshot) (s : Store) (c : SettleCall) :
    p.Obeys s c (p.call s c) := by
  cases c with
  | commit dependencies authoritative now =>
    obtain ⟨settlement, hresult, hmutation, hcommitted⟩ :=
      commit_outcome hstate s dependencies authoritative now
    have hcall : p.call s (.commit dependencies authoritative now) =
        (.report (.ok settlement), p.settled .committed,
          (s.mergeAll p.id authoritative now p.targets).invalidateAll
            (dependencies.keysFor p.kind p.scope)) := by
      simp only [call, hresult, commit_pending hstate, commit_store hstate]
    rw [hcall]
    exact .commit hmutation hcommitted
  | rollback =>
    have hcall : p.call s .rollback =
        (.report (.ok ⟨p.id, .rolledBack, snapshot.keys, []⟩), p.settled .rolledBack,
          (snapshot.restore s).2) := by
      simp [call, rollback, settled, hstate, hsnapshot, MutationState.isPending, Snapshot.restore]
    rw [hcall]
    exact .rollback hsnapshot
  | abandon =>
    have hcall : p.call s .abandon = (.handOut (some snapshot), p.settled .rolledBack, s) := by
      simp [call, abandon, settled, hstate, hsnapshot, MutationState.isPending]
    rw [hcall]
    exact .abandon hsnapshot

/-- A mutation that has settled refuses every call, and nothing changes. -/
theorem call_of_settled (h : p.state.isPending = false) (s : Store) (c : SettleCall) :
    p.call s c = (c.refusal p, p, s) := by
  cases c with
  | commit dependencies authoritative now =>
    rw [call, commit_settled h]
    rfl
  | rollback =>
    rw [call, rollback_settled h]
    rfl
  | abandon =>
    rw [call, abandon_settled h]
    rfl

/-- The first call settles the mutation with its outcome. -/
theorem Obeys.pending_eq {s : Store} {c : SettleCall}
    {r : SettleAnswer × PendingMutation × Store} (h : p.Obeys s c r) :
    r.2.1 = p.settled c.outcome := by
  cases h <;> rfl

end PendingMutation

/-! ## Runs -/

/-- A mutation and the store that it is settled on. -/
structure Custody where
  pending : PendingMutation
  store : Store

namespace Custody

/-- What happens next: the mutation is called to settle, or the store is worked on. -/
inductive Turn where
  | call (c : SettleCall)
  | work (f : Store → Store)

/-- The call of a turn, if it is one. -/
def Turn.call? : Turn → Option SettleCall
  | call c => some c
  | work _ => none

/-- The mutation and the store after a turn. -/
def step (h : Custody) : Turn → Custody
  | .call c =>
    let (_, pending, store) := h.pending.call h.store c
    ⟨pending, store⟩
  | .work f => { h with store := f h.store }

/-- The mutation and the store after a run of turns. -/
def run (h : Custody) (ts : List Turn) : Custody :=
  ts.foldl step h

/-- The first call of a run. -/
def firstCall? (ts : List Turn) : Option SettleCall :=
  ts.findSome? Turn.call?

variable {h : Custody}

@[simp]
theorem run_cons (h : Custody) (t : Turn) (ts : List Turn) : h.run (t :: ts) = (h.step t).run ts :=
  rfl

/-- A mutation that has settled stays as it is. -/
theorem pending_step_of_settled (hp : h.pending.state.isPending = false) (t : Turn) :
    (h.step t).pending = h.pending := by
  cases t with
  | call c =>
    simp only [step]
    rw [PendingMutation.call_of_settled hp]
  | work f => rfl

/-- A settled mutation stays as it is, whatever is called. -/
theorem pending_run_of_settled (hp : h.pending.state.isPending = false) (ts : List Turn) :
    (h.run ts).pending = h.pending := by
  induction ts generalizing h with
  | nil => rfl
  | cons t ts ih =>
    have hstep : (h.step t).pending = h.pending := pending_step_of_settled hp t
    rw [run_cons, ih (by rw [hstep]; exact hp), hstep]

/-- What became of a mutation is decided by the first call: without one it is as it was, and
otherwise it has settled as that call asked. -/
theorem pending_run {snapshot : Snapshot} (hstate : h.pending.state = .pending)
    (hsnapshot : h.pending.snapshot = some snapshot) (ts : List Turn) :
    (h.run ts).pending =
      match firstCall? ts with
      | some c => h.pending.settled c.outcome
      | none => h.pending := by
  induction ts generalizing h with
  | nil => rfl
  | cons t ts ih =>
    cases t with
    | work f => exact ih hstate hsnapshot
    | call c =>
      have hstep : (h.step (.call c)).pending = h.pending.settled c.outcome :=
        (PendingMutation.call_of_pending hstate hsnapshot h.store c).pending_eq
      have hsettled : (h.step (.call c)).pending.state.isPending = false := by
        rw [hstep]
        exact c.isPending_outcome
      rw [run_cons, pending_run_of_settled hsettled, hstep]
      rfl

/-- A mutation, however it was made, is called to settle any number of times, with any arguments,
while the store is worked on in between.  In every state it has its snapshot exactly while it is
pending.  As long as it was not called it is as it was made, and obeys the next call.  From the
first call on it has settled as that call asked, for good, and every call is refused: a commit or a
rollback by an error that names the state, an abandonment by handing nothing out.  A call that is
refused leaves the mutation and the whole store as they are. -/
theorem settles_once {p : PendingMutation} (hp : p.Opened) (s : Store) (ts : List Turn) :
    let h := (Custody.mk p s).run ts
    h.pending.snapshot.isSome = h.pending.state.isPending ∧
    (firstCall? ts = none →
      h.pending = p ∧ p.state = .pending ∧ ∀ c, p.Obeys h.store c (p.call h.store c)) ∧
    ∀ first, firstCall? ts = some first →
      h.pending = p.settled first.outcome ∧
      (∀ c, h.pending.call h.store c = (c.refusal h.pending, h.pending, h.store)) ∧
      ∀ later, (h.run later).pending = h.pending := by
  intro h
  obtain ⟨snapshot, hsnapshot⟩ := hp.exists_snapshot
  have hrun : h.pending =
      match firstCall? ts with
      | some c => p.settled c.outcome
      | none => p := pending_run hp.state hsnapshot ts
  cases hfirst : firstCall? ts with
  | none =>
    rw [hfirst] at hrun
    refine ⟨?_, ?_, ?_⟩
    · rw [hrun, hsnapshot, hp.state]
      rfl
    · exact fun _ =>
        ⟨hrun, hp.state, PendingMutation.call_of_pending hp.state hsnapshot h.store⟩
    · intro first hsome
      cases hsome
  | some first =>
    rw [hfirst] at hrun
    have hsettled : h.pending.state.isPending = false := by
      rw [hrun]
      exact first.isPending_outcome
    refine ⟨?_, ?_, ?_⟩
    · rw [hsettled, hrun]
      rfl
    · intro hnone
      cases hnone
    · intro first' hsome
      obtain rfl := Option.some.inj hsome
      exact ⟨hrun, PendingMutation.call_of_settled hsettled h.store,
        pending_run_of_settled hsettled⟩

/-- A creation is rolled back after its list was invalidated, and the list is stored anew.  To
commit the creation then is an error, there is nothing to hand out, and the new list stays. -/
theorem settles_once_rolledBack :
    let k := QueryKey.comments "p1"
    let s := (Store.empty none).set k (.list [Item.new "c1" .null]) 0
    let l : Launch := ⟨⟨1⟩, 1, .createComment, .ofProject "p1" none, [(k, .prepend .null)], 1⟩
    let h := (Custody.mk (l.pending s) (l.store s)).run
      [.work fun s => (s.invalidate k).2, .call .rollback, .work fun s => s.set k (.list []) 2]
    (l.pending s).Opened ∧ h.pending.state = .rolledBack ∧
      h.pending.call h.store (.commit .standard none 3) =
        (.report (.error (.settled .commit ⟨1⟩ .rolledBack)), h.pending, h.store) ∧
      h.pending.call h.store .abandon = (.handOut none, h.pending, h.store) ∧
      h.store.entryAt? k = some ⟨.list [], 2, false⟩ := by
  intro k s l h
  have hp : (l.pending s).Opened := .begin s 1 ⟨1⟩ .createComment _ _ 1
  obtain ⟨-, -, hsettled⟩ := settles_once hp (l.store s)
    [.work fun s => (s.invalidate k).2, .call .rollback, .work fun s => s.set k (.list []) 2]
  obtain ⟨hpending, hrefused, -⟩ := hsettled .rollback rfl
  have hstate : h.pending.state = .rolledBack := congrArg PendingMutation.state hpending
  exact ⟨hp, hstate, hrefused (.commit .standard none 3), hrefused .abandon,
    Store.entryAt?_set _ k k _ 2⟩

end Custody
end OptimisticCache
