import OptimisticCache.Proofs.Attended
/-!
# What an answered fetch leaves

While a fetch is out its worker waits for the answer, and all others may act in any
way.  The answer is stored as it comes.  Whether it is stale then is not asked of the
entry but of the refetch slot of the key: the answer is stale if the key was scheduled
while the fetch was out and its slot was not freed since.

An invalidation schedules its key only if somebody listens at that moment.  If the
last subscription was dropped before, the invalidation marks the old entry, the answer
replaces it, and nothing is left of the invalidation.

Main results:

- Theorem {lit}`Attended.isScheduled_step`: the effect of any action on the slot of a
  key.
- Theorem {lit}`Attended.entryAt?_delivered`: the entry that an answered fetch leaves.
-/

namespace OptimisticCache
namespace Worker

/-- Taking a key from the queue leaves the scheduled keys scheduled. -/
theorem isScheduled_take (w : Worker) (s : Store) (k : QueryKey) :
    (w.take s).2.isScheduled k = s.isScheduled k := by
  unfold take Store.takeQueued
  cases w.phase <;> cases s.queue <;> rfl

/-- Freeing takes the slot of the held key and of no other one. -/
theorem isScheduled_free (w : Worker) (s : Store) (k : QueryKey) :
    (w.free s).2.isScheduled k = (decide (w.phase.held? ≠ some k) && s.isScheduled k) := by
  cases hphase : w.phase with
  | holding k' =>
    have hfreed : (w.free s).2 = s.completeRefetch k' := by
      unfold free
      rw [hphase]
      dsimp only
      split <;> rfl
    rw [hfreed, Store.isScheduled_completeRefetch]
    simp [Phase.held?, eq_comm]
  | idle => simp [free, hphase, Phase.held?]
  | fetching k' => simp [free, hphase, Phase.held?]

/-- The answer to a fetch changes no slot. -/
theorem isScheduled_deliver (w : Worker) (s : Store) (answer : Except CacheError CacheValue)
    (now : Int) (k : QueryKey) : (w.deliver s answer now).2.isScheduled k = s.isScheduled k := by
  unfold deliver
  split <;> rfl

end Worker

namespace Attended

/-- Whether an action answers the fetch that is out. -/
def Action.delivers : Action → Bool
  | deliver .. => true
  | act .. | attach | take | free => false

/-- What an action does to the refetch slot of a key: it schedules the key, frees the slot, or
neither. -/
def scheduling (k : QueryKey) (a : Attended) : Action → Option Bool
  | .act b _ => Ensemble.scheduling k a.ensemble b
  | .free => if a.held? = some k then some false else none
  | .attach | .take | .deliver .. => none

variable {a : Attended} {w : Worker} {k : QueryKey}

/-- The held key is the one that the worker has taken and not freed. -/
theorem held?_eq_some_iff : a.held? = some k ↔ ∃ w, a.worker = some w ∧ w.phase = .holding k := by
  unfold held?
  cases a.worker with
  | none => simp
  | some w => cases hphase : w.phase <;> simp [Worker.Phase.held?, hphase]

/-- What the worker does to the slots, if there is a worker. -/
theorem isScheduled_work {f : Worker → Store → Worker × Store}
    (hf : ∀ w s, (f w s).2.isScheduled k = s.isScheduled k) (a : Attended) :
    (a.work f).store.isScheduled k = a.store.isScheduled k := by
  cases hw : a.worker with
  | none => rw [work_of_none hw]
  | some w =>
    rw [work_of_worker hw]
    exact hf w a.store

/-- An action schedules a key, frees its slot, or leaves the slot as it is. -/
theorem isScheduled_step (k : QueryKey) (a : Attended) (b : Action) :
    (a.step b).store.isScheduled k = (scheduling k a b).getD (a.store.isScheduled k) := by
  cases b with
  | act b hb => exact Ensemble.isScheduled_step k a.ensemble b
  | attach =>
    unfold step Worker.attach Store.claimQueue
    cases a.store.reader <;> rfl
  | take => exact isScheduled_work (fun w s => Worker.isScheduled_take w s k) a
  | free =>
    rw [scheduling, getD_ite_some_false]
    cases hw : a.worker with
    | none =>
      have hheld : a.held? ≠ some k := by simp [held?, hw]
      change (a.work Worker.free).store.isScheduled k = _
      rw [work_of_none hw, decide_eq_true hheld, Bool.true_and]
    | some w =>
      have hheld : a.held? = w.phase.held? := by simp [held?, hw]
      rw [step_free hw, hheld]
      exact Worker.isScheduled_free w a.store k
  | deliver answer now =>
    exact isScheduled_work (fun w s => Worker.isScheduled_deliver w s answer now k) a

/-- While its fetch is out a worker waits for the answer. -/
theorem worker_step_of_fetching (h : a.Queued) (hw : a.worker = some w)
    (hphase : w.phase = .fetching k) {b : Action} (hb : b.delivers = false) :
    (a.step b).worker = some w := by
  cases b with
  | act b _ => exact hw
  | attach =>
    rw [step_attach_of_worker h hw]
    exact hw
  | take =>
    have htake : (w.take a.store).1 = w := by simp [Worker.take, hphase]
    rw [step_take hw, worker_put, htake]
  | free =>
    have hfree : (w.free a.store).1 = w := by simp [Worker.free, hphase]
    rw [step_free hw, worker_put, hfree]
  | deliver answer now => cases hb

/-- A worker stays with its fetch until the answer is delivered. -/
theorem worker_run_of_fetching (h : a.Queued) (hw : a.worker = some w)
    (hphase : w.phase = .fetching k) {as : List Action} (has : ∀ b ∈ as, b.delivers = false) :
    (a.run as).worker = some w := by
  induction as generalizing a with
  | nil => exact hw
  | cons b as ih =>
    have hb : b.delivers = false := has b List.mem_cons_self
    have hrest : ∀ b ∈ as, b.delivers = false := fun b' hb' => has b' (List.mem_cons_of_mem b hb')
    exact ih (queued_step h b) (worker_step_of_fetching h hw hphase hb) hrest

/-- The worker frees the slot of a key that somebody listens to, the fetch goes out, all others
act in any way, and the answer is stored.  It is stale if and only if the last action with an
effect on the slot of the key, while the fetch was out, scheduled the key. -/
theorem entryAt?_delivered (staleTime : Option Nat) (before during : List Action) {k : QueryKey}
    (hheld : ((new staleTime).run before).held? = some k)
    (hlive : 0 < ((new staleTime).run before).store.subscriberCount k)
    (hduring : ∀ b ∈ during, b.delivers = false) (v : CacheValue) (now : Int) :
    let sent := ((new staleTime).run before).step .free
    ((sent.run during).step (.deliver (.ok v) now)).store.entryAt? k =
      some ⟨v, now, decide (lastEffect step (scheduling k) sent during = some true)⟩ := by
  intro sent
  have hqueued : ((new staleTime).run before).Queued := queued_run (queued_new staleTime) before
  rcases held?_eq_some_iff.mp hheld with ⟨w, hw, hphase⟩
  -- the slot is free when the fetch goes out
  have hsent : sent = ((new staleTime).run before).put { w with phase := .fetching k }
      (((new staleTime).run before).store.completeRefetch k) := by
    change ((new staleTime).run before).step .free = _
    rw [step_free hw, Worker.free_of_live hphase hlive]
  have hfree : sent.store.isScheduled k = false := by
    rw [hsent, store_put, Store.isScheduled_completeRefetch]
    simp
  -- nobody but the worker moves on meanwhile
  have hworker : sent.worker = some { w with phase := .fetching k } := by
    rw [hsent, worker_put]
  have hwaiting : (sent.run during).worker = some { w with phase := .fetching k } :=
    worker_run_of_fetching (queued_step hqueued .free) hworker rfl hduring
  have hscheduled : (sent.run during).store.isScheduled k =
      decide (lastEffect step (scheduling k) sent during = some true) := by
    have hlast : (sent.run during).store.isScheduled k =
        (lastEffect step (scheduling k) sent during).getD (sent.store.isScheduled k) :=
      bit_foldl (fun a => a.store.isScheduled k) Queued (fun _ b h => queued_step h b)
        (fun a b _ => isScheduled_step k a b) (queued_step hqueued .free) during
    rw [hlast, hfree]
    cases lastEffect step (scheduling k) sent during <;> simp
  rw [step_deliver hwaiting, Worker.deliver_ok rfl, store_put, Store.entryAt?_setFetched,
    if_pos rfl, hscheduled]

/-- A list that somebody listens to is invalidated once more while its fetch is out: the answer
is stale. -/
theorem entryAt?_delivered_again :
    let k := QueryKey.comments "p1"
    let v := CacheValue.list [Item.new "c1" .null]
    let before : List Action :=
      [.act (.operate (.set k v 0)) rfl, .act (.operate (.subscribe k)) rfl, .attach,
        .act (.operate (.invalidate k)) rfl, .take]
    let during : List Action := [.act (.operate (.invalidate k)) rfl]
    let sent := ((new none).run before).step .free
    ((new none).run before).held? = some k ∧
      0 < ((new none).run before).store.subscriberCount k ∧
      (∀ b ∈ during, b.delivers = false) ∧
      ((sent.run during).step (.deliver (.ok v) 9)).store.entryAt? k = some ⟨v, 9, true⟩ := by
  intro k v before during sent
  have hheld : ((new none).run before).held? = some k := by decide +kernel
  have hlive : 0 < ((new none).run before).store.subscriberCount k := by decide +kernel
  have hduring : ∀ b ∈ during, b.delivers = false := by simp [during, Action.delivers]
  have hlast : lastEffect step (scheduling k) sent during = some true := by decide +kernel
  have hentry : ((sent.run during).step (.deliver (.ok v) 9)).store.entryAt? k =
      some ⟨v, 9, decide (lastEffect step (scheduling k) sent during = some true)⟩ :=
    entryAt?_delivered none before during hheld hlive hduring v 9
  refine ⟨hheld, hlive, hduring, ?_⟩
  rw [hentry, decide_eq_true hlast]

/-- The last subscription to a list is dropped while its fetch is out, and then the list is
invalidated: the answer from before the invalidation is fresh. -/
theorem invalidation_lost_while_fetching :
    let k := QueryKey.comments "p1"
    let v := CacheValue.list [Item.new "c1" .null]
    let before : List Action :=
      [.act (.operate (.set k v 0)) rfl, .act (.operate (.subscribe k)) rfl, .attach,
        .act (.operate (.invalidate k)) rfl, .take, .free]
    let unsubscribed := ((new none).run before).step (.act (.operate (.unsubscribe ⟨k, 1⟩)) rfl)
    let invalidated := unsubscribed.step (.act (.operate (.invalidate k)) rfl)
    unsubscribed.worker = some ⟨.fetching k, 0⟩ ∧
      invalidated.store.entryAt? k = some ⟨v, 0, true⟩ ∧
      (invalidated.step (.deliver (.ok v) 9)).store.entryAt? k = some ⟨v, 9, false⟩ := by
  decide +kernel

end Attended
end OptimisticCache
