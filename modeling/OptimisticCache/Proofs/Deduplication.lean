import Mathlib.Data.List.Nodup
import OptimisticCache.Proofs.Delivery
import OptimisticCache.Proofs.Draining
/-!
# How often a key waits

A key is queued when it becomes scheduled, and not again as long as it stays so.  That
would keep a key from waiting twice if a key stayed scheduled for as long as it waits.
But a value that is stored, and the end of a refetch, free the slot of a key and leave
the key in the queue, and so does a worker that held the key from before.  A key that
is triggered again from there waits twice, and a worker that drains the queue sends as
many requests for it.

Main results:

- Theorem {lit}`Attended.requests_eq_count`: a worker that drains the queue requests a
  key that somebody listens to as often as it waits.
- Theorem {lit}`Attended.queue_nodup_iff`: no key waits twice as long as no key is
  scheduled while it waits with a free slot, and a waiting key has a free slot only
  after an action freed it.
-/

namespace OptimisticCache

/-! ## What an action appends to the queue -/

namespace Store

/-- What is appended to the queue are the keys that became scheduled, each of them once. -/
structure Appends (s s' : Store) (news : List QueryKey) : Prop where
  queue : s'.queue = s.queue ++ news
  nodup : news.Nodup
  mem_iff : ∀ k, k ∈ news ↔ s.isScheduled k = false ∧ s'.isScheduled k = true

variable {s s' s'' : Store} {news more : List QueryKey} {k : QueryKey}

/-- Whoever schedules nothing appends nothing. -/
theorem Appends.nothing (hqueue : s'.queue = s.queue)
    (hscheduled : ∀ k, s'.isScheduled k = true → s.isScheduled k = true) : s.Appends s' [] := by
  refine ⟨by rw [hqueue, List.append_nil], List.nodup_nil, ?_⟩
  intro k
  refine iff_of_false List.not_mem_nil ?_
  rintro ⟨hfree, hk⟩
  rw [hscheduled k hk] at hfree
  cases hfree

/-- Without a change of the agenda nothing is appended to the queue. -/
theorem Appends.of_agenda (h : s'.agenda = s.agenda) : s.Appends s' [] := by
  refine .nothing ?_ ?_
  · rw [← queue_agenda, h, queue_agenda]
  · intro k hk
    rw [← isScheduled_agenda, h] at hk
    exact hk

/-- Only the agenda counts. -/
theorem Appends.congr {t t' : Store} (h : s.Appends s' news) (hs : t.agenda = s.agenda)
    (hs' : t'.agenda = s'.agenda) : t.Appends t' news := by
  constructor
  · rw [← queue_agenda t, hs, ← queue_agenda t', hs']
    exact h.queue
  · exact h.nodup
  · intro k
    rw [← isScheduled_agenda t, hs, ← isScheduled_agenda t', hs']
    exact h.mem_iff k

/-- Two actions in a row, neither of which frees a slot. -/
theorem Appends.trans (h : s.Appends s' news) (h' : s'.Appends s'' more)
    (hkept : ∀ k, s.isScheduled k = true → s'.isScheduled k = true)
    (hkept' : ∀ k, s'.isScheduled k = true → s''.isScheduled k = true) :
    s.Appends s'' (news ++ more) := by
  constructor
  · rw [h'.queue, h.queue, List.append_assoc]
  · refine List.nodup_append'.mpr ⟨h.nodup, h'.nodup, ?_⟩
    intro k hnew hmore
    have hscheduled : s'.isScheduled k = true := ((h.mem_iff k).mp hnew).2
    rw [((h'.mem_iff k).mp hmore).1] at hscheduled
    cases hscheduled
  · intro k
    have hfirst := hkept k
    have hsecond := hkept' k
    rw [List.mem_append, h.mem_iff, h'.mem_iff]
    revert hfirst hsecond
    cases s.isScheduled k <;> cases s'.isScheduled k <;> cases s''.isScheduled k <;> simp

/-- Scheduling appends to the queue, or nothing happens to it. -/
theorem appends_schedule (hlive : s.reader ≠ .gone) (k : QueryKey) :
    ∃ news, s.Appends (s.schedule k) news := by
  by_cases hk : s.isScheduled k = true
  · have hsame : s.schedule k = s := by
      unfold schedule
      rw [if_pos hk]
    rw [hsame]
    exact ⟨[], .of_agenda rfl⟩
  · refine ⟨[k], ?_, List.nodup_singleton k, ?_⟩
    · unfold schedule
      rw [if_neg hk]
      simp [hlive]
    · intro k'
      rw [isScheduled_schedule, List.mem_singleton]
      by_cases hsame : k' = k
      · subst hsame
        simpa using hk
      · simp [hsame]

/-- So does scheduling under a condition. -/
theorem appends_of_agenda_ite (hlive : s.reader ≠ .gone) {c : Prop} [Decidable c]
    (h : s'.agenda = if c then s.agenda.schedule k else s.agenda) : ∃ news, s.Appends s' news := by
  by_cases hc : c
  · rw [if_pos hc] at h
    rcases appends_schedule hlive k with ⟨news, hnews⟩
    exact ⟨news, hnews.congr rfl (h.trans (agenda_schedule s k).symm)⟩
  · rw [if_neg hc] at h
    exact ⟨[], .of_agenda h⟩

/-- An invalidation leaves the reader of the queue alone. -/
theorem reader_invalidate (s : Store) (k : QueryKey) : (s.invalidate k).2.reader = s.reader := by
  rw [← reader_agenda, agenda_invalidate]
  split <;> simp

/-- The keys that a commit schedules are queued one after the other. -/
theorem appends_invalidateAll (hlive : s.reader ≠ .gone) (ks : List QueryKey) :
    ∃ news, s.Appends (s.invalidateAll ks) news := by
  induction ks generalizing s with
  | nil => exact ⟨[], .of_agenda rfl⟩
  | cons k ks ih =>
    rcases appends_of_agenda_ite hlive (agenda_invalidate s k) with ⟨news, hnews⟩
    have hlive' : (s.invalidate k).2.reader ≠ .gone := by
      rw [reader_invalidate]
      exact hlive
    rcases ih hlive' with ⟨more, hmore⟩
    refine ⟨news ++ more, hnews.trans hmore ?_ ?_⟩
    · intro k' hk'
      rw [isScheduled_invalidate, hk', Bool.or_true]
    · intro k' hk'
      change ((s.invalidate k).2.invalidateAll ks).isScheduled k' = true
      rw [isScheduled_invalidateAll, hk', Bool.or_true]

/-- Freeing a slot leaves the queue as it is. -/
theorem appends_completeRefetch (s : Store) (k : QueryKey) : s.Appends (s.completeRefetch k) [] := by
  refine .nothing rfl ?_
  intro k' hk'
  rw [isScheduled_completeRefetch, Bool.and_eq_true] at hk'
  exact hk'.2

/-- Every operation but taking a key only appends to the queue. -/
theorem appends_perform (hlive : s.reader ≠ .gone) {o : StoreOp} (ho : o ≠ .takeQueued) :
    ∃ news, s.Appends (s.perform o) news := by
  cases o with
  | get k now => exact appends_of_agenda_ite hlive (agenda_get s k now)
  | subscribe k => exact ⟨[], .nothing rfl fun _ => id⟩
  | unsubscribe sub => exact ⟨[], .nothing rfl fun _ => id⟩
  | invalidate k => exact appends_of_agenda_ite hlive (agenda_invalidate s k)
  | set k v now =>
    have hfreed := appends_completeRefetch (s.putEntry k (Entry.fresh v now)) k
    exact ⟨[], hfreed.congr rfl rfl⟩
  | setFetched k v now => exact ⟨[], .of_agenda (agenda_setFetched s k v now)⟩
  | replaceWith k update now => exact ⟨[], .of_agenda (agenda_replaceWith s k update now)⟩
  | remove k => exact ⟨[], .of_agenda (agenda_remove s k)⟩
  | takeQueued => exact absurd rfl ho
  | completeRefetch k => exact ⟨[], appends_completeRefetch s k⟩

end Store

/-- So does every action of mutations that takes no key. -/
theorem Ensemble.appends_step {e : Ensemble} (hlive : e.store.reader ≠ .gone) {a : Action}
    (ha : a.takesQueued = false) : ∃ news, e.store.Appends (e.step a).store news := by
  cases a with
  | operate o =>
    have ho : o ≠ .takeQueued := by
      rintro rfl
      cases ha
    exact Store.appends_perform hlive ho
  | begin kind scope patches now =>
    obtain ⟨hstore, _⟩ := step_begin e kind scope patches now
    rw [hstore]
    exact ⟨[], .of_agenda (Launch.agenda_store _ _)⟩
  | commit m dependencies authoritative now =>
    rcases step_commit_cases e m dependencies authoritative now with hsame | ⟨p, hm, hp, _⟩
    · rw [hsame]
      exact ⟨[], .of_agenda rfl⟩
    · have hmerged : (e.store.mergeAll p.id authoritative now p.targets).agenda = e.store.agenda :=
        Store.agenda_mergeAll _ _ _ _ _
      have hlive' : (e.store.mergeAll p.id authoritative now p.targets).reader ≠ .gone := by
        rw [← Store.reader_agenda, hmerged]
        exact hlive
      rcases Store.appends_invalidateAll hlive' (dependencies.keysFor p.kind p.scope) with
        ⟨news, hnews⟩
      rw [store_step_commit hm hp]
      exact ⟨news, hnews.congr hmerged.symm rfl⟩
  | undo m u =>
    rcases step_undo_cases e m u with hsame | ⟨p, _, _, hstep⟩
    · rw [hsame]
      exact ⟨[], .of_agenda rfl⟩
    · rw [hstep]
      exact ⟨[], .of_agenda (PendingMutation.agenda_undo p e.store u)⟩

namespace Attended

variable {a : Attended} {b : Action} {k : QueryKey} {rest : List QueryKey}

/-- A worker takes the first key of the queue or none, and touches no slot. -/
theorem step_take_cases (a : Attended) :
    a.store.Appends (a.step .take).store [] ∨
      (a.step .take).store.queue = a.store.queue.tail ∧
        ∀ k, (a.step .take).store.isScheduled k = a.store.isScheduled k := by
  have hslots : ∀ k, (a.step .take).store.isScheduled k = a.store.isScheduled k :=
    fun k => isScheduled_step k a .take
  have hkept : (a.step .take).store.queue = a.store.queue →
      a.store.Appends (a.step .take).store [] :=
    fun hqueue => .nothing hqueue fun k hk => (hslots k).symm.trans hk
  cases hw : a.worker with
  | none =>
    have hstep : a.step .take = a := work_of_none hw Worker.take
    exact Or.inl (hkept (by rw [hstep]))
  | some w =>
    have hstore : (a.step .take).store = (w.take a.store).2 := by rw [step_take hw, store_put]
    cases hphase : w.phase with
    | idle =>
      refine Or.inr ⟨?_, hslots⟩
      rw [hstore]
      cases hqueue : a.store.queue <;> simp [Worker.take, hphase, Store.takeQueued, hqueue]
    | holding k' => exact Or.inl (hkept (by simp [hstore, Worker.take, hphase]))
    | fetching k' => exact Or.inl (hkept (by simp [hstore, Worker.take, hphase]))

/-- A worker that moves without taking a key appends nothing. -/
theorem appends_work {f : Worker → Store → Worker × Store}
    (hf : ∀ (w : Worker) (s : Store), s.Appends (f w s).2 []) (a : Attended) :
    a.store.Appends (a.work f).store [] := by
  cases hw : a.worker with
  | none =>
    rw [work_of_none hw]
    exact .of_agenda rfl
  | some w =>
    rw [work_of_worker hw]
    exact hf w a.store

/-- An action appends the keys that it schedules to the queue, or it takes the first key off. -/
theorem appends_step_or_take (h : a.Queued) (b : Action) :
    (∃ news, a.store.Appends (a.step b).store news) ∨
      (a.step b).store.queue = a.store.queue.tail ∧
        ∀ k, (a.step b).store.isScheduled k = a.store.isScheduled k := by
  cases b with
  | act b hb => exact Or.inl (Ensemble.appends_step (Store.Queued.reader_ne_gone h) hb)
  | attach =>
    refine Or.inl ⟨[], .nothing ?_ ?_⟩
    · unfold step Worker.attach Store.claimQueue
      cases a.store.reader <;> rfl
    · intro k hk
      exact (isScheduled_step k a .attach).symm.trans hk
  | take => exact (step_take_cases a).imp_left fun hnothing => ⟨[], hnothing⟩
  | free =>
    refine Or.inl ⟨[], appends_work (fun w s => ?_) a⟩
    unfold Worker.free
    split
    · split <;> exact Store.appends_completeRefetch s _
    · exact .of_agenda rfl
  | deliver answer now =>
    refine Or.inl ⟨[], appends_work (fun w s => ?_) a⟩
    unfold Worker.deliver
    split <;> exact .of_agenda rfl

/-! ## Keys that wait twice -/

/-- Whether an action schedules a key that waits in the queue already, its slot having been
freed. -/
def Requeues (a : Attended) (b : Action) (k : QueryKey) : Prop :=
  k ∈ a.store.queue ∧ a.store.isScheduled k = false ∧ (a.step b).store.isScheduled k = true

/-- If no key waits twice, this remains so unless a key is scheduled that waits already. -/
theorem nodup_step_iff (h : a.Queued) (hnodup : a.store.queue.Nodup) (b : Action) :
    (a.step b).store.queue.Nodup ↔ ∀ k, ¬ a.Requeues b k := by
  rcases appends_step_or_take h b with ⟨news, hnews⟩ | ⟨hqueue, hslots⟩
  · rw [hnews.queue, List.nodup_append']
    constructor
    · rintro ⟨_, _, hdisjoint⟩ k ⟨hwaits, hscheduled⟩
      exact hdisjoint hwaits ((hnews.mem_iff k).mpr hscheduled)
    · intro hnever
      refine ⟨hnodup, hnews.nodup, ?_⟩
      intro k hwaits hnew
      exact hnever k ⟨hwaits, (hnews.mem_iff k).mp hnew⟩
  · refine iff_of_true (hqueue ▸ hnodup.tail) ?_
    rintro k ⟨_, hfree, hscheduled⟩
    rw [hslots k, hfree] at hscheduled
    cases hscheduled

/-- A key that waits and is not scheduled waited before, and its slot was free before or was
freed by the action. -/
theorem free_before_step (h : a.Queued) (hwaits : k ∈ (a.step b).store.queue)
    (hfree : (a.step b).store.isScheduled k = false) :
    k ∈ a.store.queue ∧ (a.store.isScheduled k = false ∨ scheduling k a b = some false) := by
  constructor
  · rcases appends_step_or_take h b with ⟨news, hnews⟩ | ⟨hqueue, _⟩
    · rw [hnews.queue, List.mem_append] at hwaits
      rcases hwaits with hwaits | hnew
      · exact hwaits
      · rw [((hnews.mem_iff k).mp hnew).2] at hfree
        cases hfree
    · rw [hqueue] at hwaits
      exact List.mem_of_mem_tail hwaits
  · rw [isScheduled_step] at hfree
    cases heffect : scheduling k a b with
    | none =>
      rw [heffect] at hfree
      exact Or.inl hfree
    | some scheduled =>
      rw [heffect] at hfree
      exact Or.inr (congrArg some hfree)

/-- A run is its beginning and one step more. -/
theorem run_take_succ {as : List Action} {n : Nat} (hb : as[n]? = some b) (a : Attended) :
    a.run (as.take (n + 1)) = (a.run (as.take n)).step b := by
  rw [List.take_add_one, hb]
  exact List.foldl_append

/-- As long as no key waits twice, nothing schedules a key that waits. -/
theorem nodup_run_iff (h : a.Queued) (hnodup : a.store.queue.Nodup) (as : List Action) :
    (∀ n, (a.run (as.take n)).store.queue.Nodup) ↔
      ∀ n b k, as[n]? = some b → ¬ (a.run (as.take n)).Requeues b k := by
  constructor
  · intro hnodups n b k hb
    have hlater := hnodups (n + 1)
    rw [run_take_succ hb] at hlater
    exact (nodup_step_iff (queued_run h _) (hnodups n) b).mp hlater k
  · intro hnever n
    induction n with
    | zero => exact hnodup
    | succ n ih =>
      cases hb : as[n]? with
      | none =>
        rw [List.take_add_one, hb]
        simpa using ih
      | some b =>
        rw [run_take_succ hb]
        exact (nodup_step_iff (queued_run h _) ih b).mpr fun k => hnever n b k hb

/-- A key that waits while its slot is free had its slot freed while it waited. -/
theorem freed_of_waits (h : a.Queued) (hscheduled : ∀ k ∈ a.store.queue, a.store.isScheduled k = true)
    (as : List Action) (n : Nat) (hwaits : k ∈ (a.run (as.take n)).store.queue)
    (hfree : (a.run (as.take n)).store.isScheduled k = false) :
    ∃ m b, m < n ∧ as[m]? = some b ∧ k ∈ (a.run (as.take m)).store.queue ∧
      scheduling k (a.run (as.take m)) b = some false := by
  induction n with
  | zero =>
    have hfree' : a.store.isScheduled k = false := hfree
    rw [hscheduled k hwaits] at hfree'
    cases hfree'
  | succ n ih =>
    cases hb : as[n]? with
    | none =>
      rw [List.take_add_one, hb] at hwaits hfree
      simp only [Option.toList_none, List.append_nil] at hwaits hfree
      rcases ih hwaits hfree with ⟨m, b, hm, hfreed⟩
      exact ⟨m, b, Nat.lt_succ_of_lt hm, hfreed⟩
    | some b =>
      rw [run_take_succ hb] at hwaits hfree
      rcases free_before_step (queued_run h _) hwaits hfree with ⟨hwaits', hfree' | hfreed⟩
      · rcases ih hwaits' hfree' with ⟨m, b, hm, hfreed⟩
        exact ⟨m, b, Nat.lt_succ_of_lt hm, hfreed⟩
      · exact ⟨n, b, Nat.lt_succ_self n, hb, hwaits', hfreed⟩

/-! ## What draining the queue costs -/

/-- The key whose fetch is out. -/
def fetching? (a : Attended) : Option QueryKey :=
  a.worker.bind fun w =>
    match w.phase with
    | .fetching k => some k
    | .idle | .holding _ => none

/-- The key that the worker requests in an attempt. -/
def requested? (a : Attended) : Option QueryKey :=
  (a.run [.take, .free]).fetching?

/-- How often a key is requested in the first attempts of the worker alone. -/
def requests (a : Attended) (answers : Nat → Except CacheError CacheValue) (clock : Nat → Int)
    (k : QueryKey) (n : Nat) : Nat :=
  (List.range n).countP fun i => (a.attempts answers clock i).requested? = some k

/-- A resting worker asks for the first waiting key, if someone still subscribes to it. -/
theorem requested?_of_waiting (h : a.Resting) (hwaiting : a.waiting = k :: rest) :
    a.requested? = if 0 < a.store.subscriberCount k then some k else none := by
  rcases h with ⟨w, hw, hphase⟩
  let holding : Worker := { w with phase := .holding k }
  let taken : Store := { a.store with queue := rest }
  have hfreed : a.run [.take, .free] = a.put (holding.free taken).1 (holding.free taken).2 :=
    step_free_of_waiting hw hphase hwaiting
  unfold requested?
  rw [hfreed]
  by_cases hlive : 0 < a.store.subscriberCount k
  · have hsent : holding.free taken = ({ w with phase := .fetching k }, taken.completeRefetch k) :=
      Worker.free_of_live rfl hlive
    rw [hsent, if_pos hlive]
    rfl
  · have hpassed : holding.free taken = ({ w with phase := .idle }, taken.completeRefetch k) :=
      Worker.free_of_dead rfl hlive
    rw [hpassed, if_neg hlive]
    rfl

/-- Every time that a key waits costs one request, if somebody listens to it. -/
theorem requests_eq_count (h : a.Resting) (answers : Nat → Except CacheError CacheValue)
    (clock : Nat → Int) (k : QueryKey) {n : Nat} (hn : n ≤ a.waiting.length) :
    a.requests answers clock k n =
      if 0 < a.store.subscriberCount k then (a.waiting.take n).count k else 0 := by
  induction n with
  | zero => simp [requests]
  | succ n ih =>
    have hbefore := ih (Nat.le_of_succ_le hn)
    rcases waiting_attempts h answers clock (Nat.le_of_succ_le hn) with ⟨hresting, hwaiting, hcount⟩
    rw [List.drop_eq_getElem_cons hn] at hwaiting
    have hrequested := requested?_of_waiting hresting hwaiting
    rw [hcount] at hrequested
    unfold requests at hbefore ⊢
    rw [List.range_succ, List.countP_append, hbefore, List.countP_singleton, hrequested,
      List.take_add_one, List.getElem?_eq_getElem hn, List.count_append]
    by_cases hk : a.waiting[n] = k
    · subst hk
      by_cases hlive : 0 < a.store.subscriberCount a.waiting[n]
      · simp [hlive]
      · simp [hlive]
    · by_cases hlive : 0 < a.store.subscriberCount k
      · simp [hlive, hk]
      · simp [hlive, hk]

/-- A worker that goes through a queue in which no key waits twice requests each key at most
once. -/
theorem requests_le_one (h : a.Resting) (hheld : a.held? = none) (hnodup : a.store.queue.Nodup)
    (answers : Nat → Except CacheError CacheValue) (clock : Nat → Int) (k : QueryKey) :
    a.requests answers clock k a.waiting.length ≤ 1 := by
  have hwaiting : a.waiting = a.store.queue := by
    unfold waiting
    rw [hheld]
    rfl
  rw [requests_eq_count h answers clock k (Nat.le_refl _), List.take_length, hwaiting]
  split
  · exact List.nodup_iff_count_le_one.mp hnodup k
  · exact Nat.zero_le 1

/-- Through a whole run no key waits twice if and only if no action ever schedules a key that
waits with a free slot.  A key that waits with a free slot had it freed while it waited, by a
value that was stored, the end of a refetch or the worker that held the key from before.  And
where no key waits twice, a worker that goes through the queue requests each key at most
once. -/
theorem queue_nodup_iff (staleTime : Option Nat) (as : List Action) :
    let reached := fun n => (new staleTime).run (as.take n)
    ((∀ n, (reached n).store.queue.Nodup) ↔
        ∀ n b k, as[n]? = some b → ¬ (reached n).Requeues b k) ∧
      (∀ n k, k ∈ (reached n).store.queue → (reached n).store.isScheduled k = false →
        ∃ m b, m < n ∧ as[m]? = some b ∧ k ∈ (reached m).store.queue ∧
          scheduling k (reached m) b = some false) ∧
      ∀ n, (reached n).Resting → (reached n).held? = none → (reached n).store.queue.Nodup →
        ∀ answers clock k, (reached n).requests answers clock k (reached n).waiting.length ≤ 1 := by
  intro reached
  have hqueued : (new staleTime).Queued := queued_new staleTime
  refine ⟨nodup_run_iff hqueued List.nodup_nil as, ?_, ?_⟩
  · intro n k hwaits hfree
    exact freed_of_waits hqueued (fun _ hk => absurd hk List.not_mem_nil) as n hwaits hfree
  · intro n hresting hheld hnodup answers clock k
    exact requests_le_one hresting hheld hnodup answers clock k

/-- A list is invalidated twice, with a failed attempt of the worker in between: at no time it
waits twice, and it is requested once more. -/
theorem queue_nodup_iff_in_turn :
    let k := QueryKey.comments "p1"
    let invalidate : Action := .act (.operate (.invalidate k)) rfl
    let as : List Action :=
      [.act (.operate (.subscribe k)) rfl, .attach, invalidate, .take, .free,
        .deliver (.error (.unroutable k)) 1, invalidate]
    let reached := fun n => (new none).run (as.take n)
    (∀ n b k, as[n]? = some b → ¬ (reached n).Requeues b k) ∧
      (∀ n, (reached n).store.queue.Nodup) ∧ (reached 7).store.queue = [k] ∧
      (reached 7).Resting ∧ (reached 7).held? = none ∧
      ∀ answers clock, (reached 7).requests answers clock k (reached 7).waiting.length ≤ 1 := by
  intro k invalidate as reached
  have hnodup : ∀ n, (reached n).store.queue.Nodup := by
    intro n
    by_cases hn : n < 7
    · have hsmall : ∀ n < 7, (reached n).store.queue.Nodup := by decide +kernel
      exact hsmall n hn
    · have hall : as.take n = as := List.take_of_length_le (Nat.le_of_not_lt hn)
      have hlast : ((new none).run as).store.queue.Nodup := by decide +kernel
      change ((new none).run (as.take n)).store.queue.Nodup
      rw [hall]
      exact hlast
  have hresting : (reached 7).Resting := ⟨⟨.idle, 0⟩, by decide +kernel, nofun⟩
  have hheld : (reached 7).held? = none := by decide +kernel
  obtain ⟨hiff, _, hcost⟩ := queue_nodup_iff none as
  exact ⟨hiff.mp hnodup, hnodup, by decide +kernel, hresting, hheld,
    fun answers clock => hcost 7 hresting hheld (hnodup 7) answers clock k⟩

/-- A list is invalidated, stored anew and invalidated again before a worker comes: it waits
twice, and the worker requests it twice. -/
theorem requested_twice :
    let k := QueryKey.comments "p1"
    let v := CacheValue.list [Item.new "c1" .null]
    let as : List Action :=
      [.act (.operate (.subscribe k)) rfl, .act (.operate (.invalidate k)) rfl,
        .act (.operate (.set k v 0)) rfl, .act (.operate (.invalidate k)) rfl, .attach]
    let a := (new none).run as
    a.store.queue = [k, k] ∧ ¬ a.store.queue.Nodup ∧
      a.requests (fun _ => .ok v) (fun _ => 1) k a.waiting.length = 2 := by
  decide +kernel

end Attended
end OptimisticCache
