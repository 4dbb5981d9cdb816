import Mathlib.Data.List.Perm.Basic
import OptimisticCache.Proofs.Delivery
/-!
# Who listens, and what is scheduled

A subscription is handed out when it is opened and given back when it is dropped, so
that nobody drops one that is not open.  An audience is a client with its worker and
with the subscriptions that are open.

Whether a key is scheduled for a refetch is told by the history alone.  A trigger is an
invalidation of the key, also one by a commit, or a read that finds the key stale.  A
trigger schedules the key if somebody listens at that moment; the value that is stored,
the end of a refetch and the attempt of the worker free the slot again; and nothing
else touches it.

Main results:

- Theorem {lit}`bit_foldl_iff`: a bit is set after a run if and only if an action set
  it, or it was set before, and none cleared it later.
- Theorem {lit}`Audience.counted_run`: the count of a key is the number of its open
  subscriptions.
- Theorem {lit}`Audience.isScheduled_run`: a key is scheduled if and only if it was
  triggered while somebody listened and its slot was not freed since.
-/

namespace OptimisticCache

/-! ## A bit and its history -/

section History

variable {σ α : Type} {step : σ → α → σ} {effect : σ → α → Option Bool}

/-- What the action at a position of a run does to a bit: it sets it, or clears it. -/
def EffectAt (step : σ → α → σ) (effect : σ → α → Option Bool) (s : σ) (as : List α) (n : Nat)
    (b : Bool) : Prop :=
  ∃ a, as[n]? = some a ∧ effect ((as.take n).foldl step s) a = some b

variable {s : σ} {a : α} {as : List α} {n : Nat} {b : Bool}

/-- Without steps there is no effect. -/
@[simp]
theorem effectAt_nil : ¬ EffectAt step effect s [] n b := by
  rintro ⟨a, ha, _⟩
  cases ha

/-- The first step has its effect on the state from the beginning. -/
@[simp]
theorem effectAt_cons_zero : EffectAt step effect s (a :: as) 0 b ↔ effect s a = some b := by
  simp [EffectAt]

/-- A later step has its effect on what the first one left. -/
@[simp]
theorem effectAt_cons_succ :
    EffectAt step effect s (a :: as) (n + 1) b ↔ EffectAt step effect (step s a) as n b := by
  simp [EffectAt]

/-- A bit is set after a run if and only if some action set it, or it was set before, and no
action after that cleared it. -/
theorem bit_foldl_iff (bit : σ → Bool) (h : ∀ s a, bit (step s a) = (effect s a).getD (bit s))
    (s : σ) (as : List α) :
    bit (as.foldl step s) = true ↔
      (∃ n, EffectAt step effect s as n true ∧ ∀ m, n < m → ¬ EffectAt step effect s as m false) ∨
        bit s = true ∧ ∀ m, ¬ EffectAt step effect s as m false := by
  induction as generalizing s with
  | nil => simp
  | cons a as ih =>
    have hnever : (∀ m, ¬ EffectAt step effect s (a :: as) m false) ↔
        effect s a ≠ some false ∧ ∀ m, ¬ EffectAt step effect (step s a) as m false := by
      rw [← Nat.and_forall_add_one]
      simp
    have hset : (∃ n, EffectAt step effect s (a :: as) n true ∧
          ∀ m, n < m → ¬ EffectAt step effect s (a :: as) m false) ↔
        (effect s a = some true ∧ ∀ m, ¬ EffectAt step effect (step s a) as m false) ∨
          ∃ n, EffectAt step effect (step s a) as n true ∧
            ∀ m, n < m → ¬ EffectAt step effect (step s a) as m false := by
      rw [← Nat.or_exists_add_one]
      refine or_congr (and_congr effectAt_cons_zero ?_)
        (exists_congr fun n => and_congr effectAt_cons_succ ?_)
      · rw [← Nat.and_forall_add_one]
        simp
      · rw [← Nat.and_forall_add_one]
        simp
    rw [List.foldl_cons, ih, h, hnever, hset]
    -- the first action sets the bit, clears it, or leaves it as it was
    rcases effect s a with _ | _ | _
    · simp
    · simp
    · constructor
      · rintro (hlater | ⟨_, hkept⟩)
        · exact Or.inl (Or.inr hlater)
        · exact Or.inl (Or.inl ⟨rfl, hkept⟩)
      · rintro ((⟨_, hkept⟩ | hlater) | ⟨_, _, hkept⟩)
        · exact Or.inr ⟨rfl, hkept⟩
        · exact Or.inl hlater
        · exact Or.inr ⟨rfl, hkept⟩

end History

/-! ## What leaves the subscriptions alone -/

/-- Whether an operation opens or drops a subscription. -/
def StoreOp.subscribes : StoreOp → Bool
  | .subscribe _ | .unsubscribe _ => true
  | .get .. | .invalidate _ | .set .. | .setFetched .. | .replaceWith .. | .remove _ | .takeQueued
  | .completeRefetch _ => false

/-- Only subscribing and unsubscribing change the subscribers of a key. -/
theorem Store.subscriberCount_perform {o : StoreOp} (h : o.subscribes = false) (s : Store)
    (k : QueryKey) : (s.perform o).subscriberCount k = s.subscriberCount k := by
  cases o with
  | get k' now => exact subscriberCount_of_agenda_ite (agenda_get s k' now) k
  | subscribe k' => cases h
  | unsubscribe sub => cases h
  | invalidate k' => exact subscriberCount_invalidate s k' k
  | set k' v now => rfl
  | setFetched k' v now => rfl
  | replaceWith k' update now =>
    rw [← subscriberCount_agenda, perform, agenda_replaceWith, subscriberCount_agenda]
  | remove k' =>
    rw [← subscriberCount_agenda, perform, agenda_remove, subscriberCount_agenda]
  | takeQueued =>
    unfold perform takeQueued
    dsimp only
    split <;> rfl
  | completeRefetch k' => rfl

namespace Ensemble

/-- Whether an action opens or drops a subscription. -/
def Action.subscribes : Action → Bool
  | .operate o => o.subscribes
  | .begin .. | .commit .. | .undo .. => false

/-- No action of mutations changes the subscribers of a key. -/
theorem subscriberCount_step {a : Action} (h : a.subscribes = false) (e : Ensemble)
    (k : QueryKey) : (e.step a).store.subscriberCount k = e.store.subscriberCount k := by
  cases a with
  | operate o => exact Store.subscriberCount_perform h e.store k
  | begin kind scope patches now =>
    obtain ⟨hstore, _⟩ := step_begin e kind scope patches now
    rw [hstore, ← Store.subscriberCount_agenda, Launch.agenda_store, Store.subscriberCount_agenda]
  | commit m dependencies authoritative now =>
    rcases step_commit_cases e m dependencies authoritative now with hsame | ⟨p, _, hp, hstep⟩
    · rw [hsame]
    · rw [hstep]
      exact PendingMutation.subscriberCount_commit hp k
  | undo m u =>
    rcases step_undo_cases e m u with hsame | ⟨p, _, _, hstep⟩
    · rw [hsame]
    · have hagenda : (e.step (.undo m u)).store.agenda = e.store.agenda := by
        rw [hstep]
        exact PendingMutation.agenda_undo p e.store u
      rw [← Store.subscriberCount_agenda, hagenda, Store.subscriberCount_agenda]

end Ensemble

namespace Worker

/-- Taking a key from the queue changes no count of subscribers. -/
theorem subscriberCount_take (w : Worker) (s : Store) (k : QueryKey) :
    (w.take s).2.subscriberCount k = s.subscriberCount k := by
  unfold take Store.takeQueued
  cases w.phase <;> cases s.queue <;> rfl

/-- Neither does freeing a slot. -/
theorem subscriberCount_free (w : Worker) (s : Store) (k : QueryKey) :
    (w.free s).2.subscriberCount k = s.subscriberCount k := by
  unfold free
  split
  · split <;> rfl
  · rfl

/-- Neither does the answer to a fetch. -/
theorem subscriberCount_deliver (w : Worker) (s : Store) (answer : Except CacheError CacheValue)
    (now : Int) (k : QueryKey) :
    (w.deliver s answer now).2.subscriberCount k = s.subscriberCount k := by
  unfold deliver
  split <;> rfl

end Worker

namespace Attended

/-- Whether an action opens or drops a subscription. -/
def Action.subscribes : Action → Bool
  | .act b _ => b.subscribes
  | .attach | .take | .free | .deliver .. => false

/-- A worker changes no count of subscribers if its moves do not. -/
theorem subscriberCount_work {f : Worker → Store → Worker × Store} {k : QueryKey}
    (hf : ∀ w s, (f w s).2.subscriberCount k = s.subscriberCount k) (a : Attended) :
    (a.work f).store.subscriberCount k = a.store.subscriberCount k := by
  cases hw : a.worker with
  | none => rw [work_of_none hw]
  | some w =>
    rw [work_of_worker hw]
    exact hf w a.store

/-- The subscriptions of a key change only where one is opened or dropped. -/
theorem subscriberCount_step {b : Action} (h : b.subscribes = false) (a : Attended)
    (k : QueryKey) : (a.step b).store.subscriberCount k = a.store.subscriberCount k := by
  cases b with
  | act b _ => exact Ensemble.subscriberCount_step h a.ensemble k
  | attach =>
    unfold step Worker.attach Store.claimQueue
    cases a.store.reader <;> rfl
  | take => exact subscriberCount_work (fun w s => Worker.subscriberCount_take w s k) a
  | free => exact subscriberCount_work (fun w s => Worker.subscriberCount_free w s k) a
  | deliver answer now =>
    exact subscriberCount_work (fun w s => Worker.subscriberCount_deliver w s answer now k) a

end Attended

/-! ## Open subscriptions -/

/-- A client with its worker, and the subscriptions that are open, the latest in front. -/
structure Audience where
  attended : Attended
  subscriptions : List Subscription

namespace Audience

/-- What happens next. -/
inductive Action where
  | subscribe (k : QueryKey)
  /-- The `n`th open subscription is dropped. -/
  | drop (n : Nat)
  /-- A client or its worker does anything else. -/
  | act (b : Attended.Action) (h : b.subscribes = false)

/-- An empty client without a worker, to which nobody listens. -/
def new (staleTime : Option Nat) : Audience :=
  ⟨.new staleTime, []⟩

/-- The store of the client. -/
def store (a : Audience) : Store :=
  a.attended.store

/-- The number of subscriptions to a key that were opened and not dropped yet. -/
def live (a : Audience) (k : QueryKey) : Nat :=
  a.subscriptions.countP fun sub => sub.key = k

/-- The audience after an action. -/
def step (a : Audience) : Action → Audience
  | .subscribe k =>
    ⟨a.attended.step (.act (.operate (.subscribe k)) rfl),
      (a.store.subscribe k).1 :: a.subscriptions⟩
  | .drop n =>
    match a.subscriptions[n]? with
    | some sub =>
      ⟨a.attended.step (.act (.operate (.unsubscribe sub)) rfl), a.subscriptions.eraseIdx n⟩
    | none => a
  | .act b _ => { a with attended := a.attended.step b }

/-- The audience after a run of actions. -/
def run (a : Audience) (as : List Action) : Audience :=
  as.foldl step a

/-- The store counts the open subscriptions of every key. -/
def Counted (a : Audience) : Prop :=
  ∀ k, a.store.subscriberCount k = a.live k

variable {a : Audience} {k : QueryKey}

/-- Dropping an open subscription leaves one less of its key. -/
theorem live_drop {n : Nat} {sub : Subscription} (hn : a.subscriptions[n]? = some sub) :
    a.live k = (if k = sub.key then 1 else 0) + (a.step (.drop n)).live k := by
  rcases List.getElem?_eq_some_iff.mp hn with ⟨hlt, hsub⟩
  have hperm : (sub :: a.subscriptions.eraseIdx n).Perm a.subscriptions := by
    rw [← hsub]
    exact List.getElem_cons_eraseIdx_perm hlt
  have hstep : (a.step (.drop n)).subscriptions = a.subscriptions.eraseIdx n := by
    simp [step, hn]
  unfold live
  rw [← hperm.countP_eq, List.countP_cons, hstep, Nat.add_comm]
  simp [eq_comm]

/-- After every step the counts are those of the live subscriptions. -/
theorem counted_step (h : a.Counted) (b : Action) : (a.step b).Counted := by
  intro k
  cases b with
  | subscribe k' =>
    have hcount : (a.step (.subscribe k')).store.subscriberCount k =
        if k = k' then a.store.subscriberCount k' + 1 else a.store.subscriberCount k :=
      Store.subscriberCount_subscribe a.store k' k
    have hlive : (a.step (.subscribe k')).live k = a.live k + if k' = k then 1 else 0 := by
      unfold live
      simp [step, List.countP_cons, Store.subscribe]
    rw [hcount, hlive, h k, h k']
    by_cases hk : k = k'
    · simp [hk]
    · simp [hk, Ne.symm hk]
  | drop n =>
    cases hn : a.subscriptions[n]? with
    | none =>
      have hstep : a.step (.drop n) = a := by simp [step, hn]
      rw [hstep]
      exact h k
    | some sub =>
      have hstore : (a.step (.drop n)).store = a.store.unsubscribe sub := by
        simp only [step, hn]
        rfl
      have hlive := live_drop (k := k) hn
      rw [hstore, Store.subscriberCount_unsubscribe, h k, h sub.key]
      by_cases hk : k = sub.key
      · subst hk
        rw [if_pos rfl] at hlive ⊢
        omega
      · rw [if_neg hk] at hlive ⊢
        omega
  | act b hb =>
    exact (Attended.subscriberCount_step hb a.attended k).trans (h k)

/-- In every state that is reached, the count of a key is the number of its open
subscriptions. -/
theorem counted_run (h : a.Counted) (as : List Action) : (a.run as).Counted := by
  induction as generalizing a with
  | nil => exact h
  | cons b as ih => exact ih (counted_step h b)

/-- A new store counts no subscribers. -/
theorem counted_new (staleTime : Option Nat) : (new staleTime).Counted :=
  fun _ => rfl

/-! ## Triggers -/

/-- Whether an action is a trigger for a key: it invalidates the key, on its own or by the commit
of a mutation that the key depends on, or it reads the key, which is cached and stale. -/
def triggers (a : Audience) (k : QueryKey) : Action → Prop
  | .act (.act (.operate (.invalidate k')) _) _ => k = k'
  | .act (.act (.operate (.get k' now)) _) _ => k = k' ∧ a.store.isStale k' now = true
  | .act (.act (.commit m dependencies _ _) _) _ =>
    ∃ p, a.attended.ensemble.pending? m = some p ∧ k ∈ dependencies.keysFor p.kind p.scope
  | _ => False

/-- Whether an action frees the refetch slot of a key: it stores a value, it ends a refetch, or
the worker goes on with the key that it holds. -/
def frees (a : Audience) (k : QueryKey) : Action → Prop
  | .act (.act (.operate (.set k' _ _)) _) _ => k = k'
  | .act (.act (.operate (.completeRefetch k')) _) _ => k = k'
  | .act .free _ => a.attended.held? = some k
  | _ => False

/-- Whether an action is one of those that have nothing to do with the refetch slots: somebody
comes or goes, a mutation begins or is rolled back, a value is replaced or removed, or the
result of a refetch is stored. -/
def Action.isQuiet : Action → Bool
  | .subscribe _ | .drop _ => true
  | .act (.act (.begin ..) _) _ | .act (.act (.undo ..) _) _ => true
  | .act (.act (.operate (.replaceWith ..)) _) _ | .act (.act (.operate (.remove _)) _) _ => true
  | .act (.act (.operate (.setFetched ..)) _) _ | .act (.deliver ..) _ => true
  | _ => false

/-- What an action does to the refetch slot of a key: it schedules the key, frees the slot, or
neither. -/
def scheduling (k : QueryKey) (a : Audience) : Action → Option Bool
  | .subscribe _ | .drop _ => none
  | .act b _ => Attended.scheduling k a.attended b

/-- After a step a key is scheduled as the step says, or as it was before. -/
theorem isScheduled_step (k : QueryKey) (a : Audience) (b : Action) :
    (a.step b).store.isScheduled k = (scheduling k a b).getD (a.store.isScheduled k) := by
  cases b with
  | subscribe k' => rfl
  | drop n =>
    unfold step
    dsimp only
    split <;> rfl
  | act b _ => exact Attended.isScheduled_step k a.attended b

theorem ite_some_eq_some {c : Prop} [Decidable c] {b b' : Bool} :
    (if c then some b else none) = some b' ↔ c ∧ b = b' := by
  by_cases hc : c <;> simp [hc]

/-- An action schedules a key if it is a trigger for it and somebody listens. -/
theorem scheduling_eq_some_true_iff (h : a.Counted) (b : Action) :
    scheduling k a b = some true ↔ a.triggers k b ∧ 0 < a.live k := by
  rw [← h k]
  cases b with
  | subscribe k' => simp [scheduling, triggers]
  | drop n => simp [scheduling, triggers]
  | act b hb =>
    cases b with
    | act b _ =>
      cases b with
      | operate o =>
        cases o with
        | get k' now =>
          simp only [scheduling, Attended.scheduling, Ensemble.scheduling, StoreOp.scheduling,
            triggers, ite_some_eq_some, Bool.and_eq_true, decide_eq_true_eq, and_true]
          constructor
          · rintro ⟨rfl, hstale, hlive⟩
            exact ⟨⟨rfl, hstale⟩, hlive⟩
          · rintro ⟨⟨rfl, hstale⟩, hlive⟩
            exact ⟨rfl, hstale, hlive⟩
        | invalidate k' =>
          simp only [scheduling, Attended.scheduling, Ensemble.scheduling, StoreOp.scheduling,
            triggers, ite_some_eq_some, and_true]
          constructor
          · rintro ⟨rfl, hlive⟩
            exact ⟨rfl, hlive⟩
          · rintro ⟨rfl, hlive⟩
            exact ⟨rfl, hlive⟩
        | set k' v now | completeRefetch k' =>
          simp [scheduling, Attended.scheduling, Ensemble.scheduling, StoreOp.scheduling, triggers]
        | subscribe k' | unsubscribe sub => cases hb
        | setFetched k' v now | replaceWith k' update now | remove k' | takeQueued =>
          simp [scheduling, Attended.scheduling, Ensemble.scheduling, StoreOp.scheduling, triggers]
      | begin kind scope patches now =>
        simp [scheduling, Attended.scheduling, Ensemble.scheduling, triggers]
      | commit m dependencies authoritative now =>
        simp only [scheduling, Attended.scheduling, Ensemble.scheduling, triggers]
        cases a.attended.ensemble.pending? m with
        | none => simp
        | some p => simp [Nat.pos_iff_ne_zero, store, Attended.store]
      | undo m u => simp [scheduling, Attended.scheduling, Ensemble.scheduling, triggers]
    | attach | take | deliver answer now => simp [scheduling, Attended.scheduling, triggers]
    | free => simp [scheduling, Attended.scheduling, triggers]

/-- An action frees the slot of a key in one of three ways. -/
theorem scheduling_eq_some_false_iff (b : Action) :
    scheduling k a b = some false ↔ a.frees k b := by
  cases b with
  | subscribe k' => simp [scheduling, frees]
  | drop n => simp [scheduling, frees]
  | act b hb =>
    cases b with
    | act b _ =>
      cases b with
      | operate o =>
        cases o <;>
          simp [scheduling, Attended.scheduling, Ensemble.scheduling, StoreOp.scheduling, frees]
      | begin kind scope patches now =>
        simp [scheduling, Attended.scheduling, Ensemble.scheduling, frees]
      | commit m dependencies authoritative now =>
        simp only [scheduling, Attended.scheduling, Ensemble.scheduling, frees, iff_false]
        cases a.attended.ensemble.pending? m with
        | none => simp
        | some p => simp
      | undo m u => simp [scheduling, Attended.scheduling, Ensemble.scheduling, frees]
    | attach | take | deliver answer now => simp [scheduling, Attended.scheduling, frees]
    | free => simp [scheduling, Attended.scheduling, frees]

/-- A quiet action schedules nothing and frees nothing. -/
theorem scheduling_of_isQuiet {b : Action} (h : b.isQuiet = true) (k : QueryKey) (a : Audience) :
    scheduling k a b = none := by
  unfold Action.isQuiet at h
  split at h <;> first | rfl | cases h

/-! ## The history of a key -/

/-- The action at a position of a run from the beginning is a trigger for a key, while somebody
listens to it. -/
def TriggeredAt (staleTime : Option Nat) (as : List Action) (k : QueryKey) (n : Nat) : Prop :=
  ∃ b, as[n]? = some b ∧ ((new staleTime).run (as.take n)).triggers k b ∧
    0 < ((new staleTime).run (as.take n)).live k

/-- The action at a position of a run from the beginning frees the slot of a key. -/
def FreedAt (staleTime : Option Nat) (as : List Action) (k : QueryKey) (n : Nat) : Prop :=
  ∃ b, as[n]? = some b ∧ ((new staleTime).run (as.take n)).frees k b

/-- The steps that schedule a key are its triggers while somebody listens. -/
theorem effectAt_true_iff (staleTime : Option Nat) (as : List Action) (k : QueryKey) (n : Nat) :
    EffectAt step (scheduling k) (new staleTime) as n true ↔ TriggeredAt staleTime as k n := by
  have hcounted : ((as.take n).foldl step (new staleTime)).Counted :=
    counted_run (counted_new staleTime) (as.take n)
  unfold EffectAt TriggeredAt
  simp only [scheduling_eq_some_true_iff hcounted]
  rfl

/-- The steps that take a key off the schedule are those that free its slot. -/
theorem effectAt_false_iff (staleTime : Option Nat) (as : List Action) (k : QueryKey) (n : Nat) :
    EffectAt step (scheduling k) (new staleTime) as n false ↔ FreedAt staleTime as k n := by
  unfold EffectAt FreedAt
  simp only [scheduling_eq_some_false_iff]
  rfl

/-- In every state that is reached, the store counts the subscriptions to a key that were opened
and not dropped yet, and the key is scheduled if and only if at some point it was triggered while
somebody listened, and nothing has freed its slot since.  No patch, merge or rollback, no
replaced, removed or refetched value, and nobody who comes or goes changes what is scheduled. -/
theorem isScheduled_run (staleTime : Option Nat) (as : List Action) (k : QueryKey) :
    let a := (new staleTime).run as
    a.store.subscriberCount k = a.live k ∧
      (a.store.isScheduled k = true ↔
        ∃ n, TriggeredAt staleTime as k n ∧ ∀ m, n < m → ¬ FreedAt staleTime as k m) ∧
      (∀ b, b.isQuiet = true → (a.step b).store.isScheduled k = a.store.isScheduled k) ∧
      ∀ m authoritative now targets,
        (a.store.mergeAll m authoritative now targets).isScheduled k = a.store.isScheduled k := by
  intro a
  refine ⟨counted_run (counted_new staleTime) as k, ?_, ?_, ?_⟩
  · have hbit := bit_foldl_iff (fun a : Audience => a.store.isScheduled k)
      (fun a b => isScheduled_step k a b) (new staleTime) as
    have hnew : (new staleTime).store.isScheduled k = false := rfl
    simp only [effectAt_true_iff, effectAt_false_iff, hnew, Bool.false_eq_true, false_and,
      or_false] at hbit
    exact hbit
  · intro b hb
    rw [isScheduled_step, scheduling_of_isQuiet hb]
    rfl
  · intro m authoritative now targets
    rw [← Store.isScheduled_agenda, Store.agenda_mergeAll, Store.isScheduled_agenda]

/-- A list is invalidated while somebody listens: it is scheduled, and stays so when the last
subscription is dropped. -/
theorem isScheduled_run_dropped :
    let k := QueryKey.comments "p1"
    let as : List Action := [.subscribe k, .act (.act (.operate (.invalidate k)) rfl) rfl]
    ((new none).run as).store.subscriberCount k = 1 ∧ TriggeredAt none as k 1 ∧
      (∀ m, 1 < m → ¬ FreedAt none as k m) ∧ ((new none).run as).store.isScheduled k = true ∧
      (((new none).run as).step (.drop 0)).store.isScheduled k = true := by
  intro k as
  have htriggered : TriggeredAt none as k 1 := ⟨_, rfl, rfl, by decide +kernel⟩
  have hkept : ∀ m, 1 < m → ¬ FreedAt none as k m := by
    rintro m hm ⟨b, hb, _⟩
    have hlt : m < 2 := (List.getElem?_eq_some_iff.mp hb).1
    omega
  have hlive : ((new none).run as).live k = 1 := by decide +kernel
  obtain ⟨hcount, hiff, hquiet, _⟩ := isScheduled_run none as k
  have hscheduled : ((new none).run as).store.isScheduled k = true :=
    hiff.mpr ⟨1, htriggered, hkept⟩
  exact ⟨hcount.trans hlive, htriggered, hkept, hscheduled,
    (hquiet (.drop 0) rfl).trans hscheduled⟩

end Audience
end OptimisticCache
