import OptimisticCache.Proofs.Agenda
import OptimisticCache.Worker
/-!
# A client and its refetch worker

A client with its mutations, and a worker that takes keys from the refetch queue of
its store.  The steps of the worker come between the actions of all others in any
way: it takes a key; it looks for subscriptions to the key and frees its slot, which
counts as one step, and sends the fetch if there are any; and it is answered.  Nobody
else takes keys from the queue, for it is handed out once.

The scheduled keys and the queue drift apart: a value that is stored frees the slot
of its key but leaves the key in the queue, so that a key can wait twice, and keys
wait that are not scheduled.  The other way round nothing is lost.

Main results:

- Theorem {lit}`Attended.queued_run`: in every state that is reached, a scheduled key
  waits in the queue, or the worker holds it and has not freed its slot.
-/

namespace OptimisticCache

/-- Whether an action takes a key off the refetch queue. -/
def Ensemble.Action.takesQueued : Ensemble.Action → Bool
  | .operate .takeQueued => true
  | _ => false

/-- The key that a worker has taken and whose slot it has not freed yet. -/
def Worker.Phase.held? : Worker.Phase → Option QueryKey
  | .holding k => some k
  | .idle | .fetching _ => none

namespace Worker

variable {w : Worker} {k : QueryKey} {s : Store}

/-- If somebody listens to the key that is held, its slot is freed and the fetch goes out. -/
theorem free_of_live (h : w.phase = .holding k) (hlive : 0 < s.subscriberCount k) :
    w.free s = ({ w with phase := .fetching k }, s.completeRefetch k) := by
  have hcount : ¬ s.subscriberCount k = 0 := Nat.pos_iff_ne_zero.mp hlive
  unfold free
  rw [h]
  simp only [hcount, if_false]

/-- If nobody listens to the key that is held, its slot is freed and that is all. -/
theorem free_of_dead (h : w.phase = .holding k) (hdead : ¬ 0 < s.subscriberCount k) :
    w.free s = ({ w with phase := .idle }, s.completeRefetch k) := by
  have hcount : s.subscriberCount k = 0 := Nat.eq_zero_of_not_pos hdead
  unfold free
  rw [h]
  simp only [hcount, if_true]

/-- A fetched value is stored and counted, and the worker waits for a key again. -/
theorem deliver_ok (h : w.phase = .fetching k) (s : Store) (v : CacheValue) (now : Int) :
    w.deliver s (.ok v) now = (⟨.idle, w.refetched + 1⟩, s.setFetched k v now) := by
  unfold deliver
  rw [h]

/-- A failed fetch leaves the store alone. -/
theorem deliver_failed (h : w.phase = .fetching k) (s : Store) (e : CacheError) (now : Int) :
    w.deliver s (.error e) now = ({ w with phase := .idle }, s) := by
  unfold deliver
  rw [h]

/-- Nothing is delivered to a worker that waits for a key. -/
theorem deliver_of_idle (h : w.phase = .idle) (s : Store) (answer : Except CacheError CacheValue)
    (now : Int) : w.deliver s answer now = (w, s) := by
  unfold deliver
  rw [h]

end Worker

/-- A client with the mutations it has begun, and its worker, once one is attached. -/
structure Attended where
  ensemble : Ensemble
  worker : Option Worker

namespace Attended

/-- One action of a client or of its worker. -/
inductive Action where
  /-- Somebody else acts, who does not take keys off the queue. -/
  | act (a : Ensemble.Action) (h : a.takesQueued = false)
  /-- A worker is attached, unless one was attached before. -/
  | attach
  /-- The worker takes a key. -/
  | take
  /-- The worker frees the slot of its key, and sends the fetch if somebody listens. -/
  | free
  /-- The fetch of the worker is answered. -/
  | deliver (answer : Except CacheError CacheValue) (now : Int)

/-- An empty client without a worker. -/
def new (staleTime : Option Nat) : Attended :=
  ⟨.ofClient { store := .empty staleTime }, none⟩

/-- The store of the client. -/
def store (a : Attended) : Store :=
  a.ensemble.store

/-- The key that the worker holds. -/
def held? (a : Attended) : Option QueryKey :=
  a.worker.bind fun w => w.phase.held?

/-- Put down what became of the worker and of the store. -/
def put (a : Attended) (w : Worker) (store : Store) : Attended :=
  ⟨{ a.ensemble with client := { a.ensemble.client with store } }, some w⟩

/-- The worker does something, if there is one. -/
def work (a : Attended) (f : Worker → Store → Worker × Store) : Attended :=
  match a.worker with
  | some w => a.put (f w a.store).1 (f w a.store).2
  | none => a

/-- The client and its worker after one action. -/
def step (a : Attended) : Action → Attended
  | .act b _ => { a with ensemble := a.ensemble.step b }
  | .attach =>
    match Worker.attach a.store with
    | (.ok w, store) => a.put w store
    | (.error _, _) => a
  | .take => a.work Worker.take
  | .free => a.work Worker.free
  | .deliver answer now => a.work fun w s => w.deliver s answer now

/-- The client and its worker after a run of actions. -/
def run (a : Attended) (as : List Action) : Attended :=
  as.foldl step a

variable {a : Attended} {w : Worker} {k : QueryKey}

/-- What a worker does to the store, if there is one. -/
theorem work_of_worker (h : a.worker = some w) (f : Worker → Store → Worker × Store) :
    a.work f = a.put (f w a.store).1 (f w a.store).2 := by
  unfold work
  rw [h]

/-- Without a worker nothing is done. -/
theorem work_of_none (h : a.worker = none) (f : Worker → Store → Worker × Store) :
    a.work f = a := by
  unfold work
  rw [h]

/-- A worker takes a key from the store that it attends. -/
theorem step_take (h : a.worker = some w) :
    a.step .take = a.put (w.take a.store).1 (w.take a.store).2 :=
  work_of_worker h Worker.take

/-- A worker frees the slot of its key in that store. -/
theorem step_free (h : a.worker = some w) :
    a.step .free = a.put (w.free a.store).1 (w.free a.store).2 :=
  work_of_worker h Worker.free

/-- A worker is given the answer to its fetch. -/
theorem step_deliver (h : a.worker = some w) (answer : Except CacheError CacheValue) (now : Int) :
    a.step (.deliver answer now) =
      a.put (w.deliver a.store answer now).1 (w.deliver a.store answer now).2 :=
  work_of_worker h fun w s => w.deliver s answer now

@[simp]
theorem store_put (a : Attended) (w : Worker) (s : Store) : (a.put w s).store = s :=
  rfl

@[simp]
theorem worker_put (a : Attended) (w : Worker) (s : Store) : (a.put w s).worker = some w :=
  rfl

/-- The phase of the worker says which key it holds. -/
@[simp]
theorem held?_put (a : Attended) (w : Worker) (s : Store) : (a.put w s).held? = w.phase.held? :=
  rfl

end Attended

/-! ## Every scheduled key waits -/

namespace Store

/-- The queue has a reader, or nobody asked for it yet; and every scheduled key waits in it,
but for the one that the reader holds. -/
structure Queued (s : Store) (attended : Bool) (held : Option QueryKey) : Prop where
  reader : s.reader = if attended then .claimed else .unclaimed
  waits : ∀ k, s.isScheduled k = true → k ∈ s.queue ∨ held = some k

variable {s s' : Store} {attended : Bool} {held : Option QueryKey}

/-- Whether scheduled keys wait or are held is told by the agenda. -/
theorem Queued.of_agenda (h : s.Queued attended held) (hs : s'.agenda = s.agenda) :
    s'.Queued attended held := by
  constructor
  · rw [← reader_agenda, hs]
    exact h.reader
  · intro k hk
    rw [← isScheduled_agenda, hs] at hk
    rw [← queue_agenda, hs]
    exact h.waits k hk

/-- Where scheduled keys wait, the queue is still open. -/
theorem Queued.reader_ne_gone (h : s.Queued attended held) : s.reader ≠ .gone := by
  rw [h.reader]
  cases attended <;> decide

/-- A key that is scheduled enters the queue. -/
theorem Queued.schedule (h : s.Queued attended held) (k : QueryKey) :
    (s.schedule k).Queued attended held := by
  have hlive : s.reader ≠ .gone := h.reader_ne_gone
  refine ⟨(reader_schedule s k).trans h.reader, ?_⟩
  intro k' hk'
  unfold Store.schedule at hk' ⊢
  by_cases hscheduled : s.isScheduled k = true
  · rw [if_pos hscheduled] at hk' ⊢
    exact h.waits k' hk'
  · rw [if_neg hscheduled] at hk' ⊢
    simp only [isScheduled, List.contains_iff_mem, List.mem_cons] at hk'
    simp only [hlive, if_false, List.mem_append, List.mem_singleton]
    rcases hk' with rfl | hk'
    · exact Or.inl (Or.inr rfl)
    · rcases h.waits k' (by simpa [isScheduled] using hk') with hwaits | hheld
      · exact Or.inl (Or.inl hwaits)
      · exact Or.inr hheld

/-- Scheduled keys still wait or are held after another key was scheduled or not. -/
theorem Queued.of_agenda_ite (h : s.Queued attended held) {k : QueryKey} {c : Prop} [Decidable c]
    (hs : s'.agenda = if c then s.agenda.schedule k else s.agenda) : s'.Queued attended held := by
  by_cases hc : c
  · rw [if_pos hc, ← agenda_schedule] at hs
    exact (h.schedule k).of_agenda hs
  · rw [if_neg hc] at hs
    exact h.of_agenda hs

/-- A slot that is freed is missed by nobody. -/
theorem Queued.completeRefetch (h : s.Queued attended held) (k : QueryKey) :
    (s.completeRefetch k).Queued attended held := by
  refine ⟨h.reader, ?_⟩
  intro k' hk'
  rw [isScheduled_completeRefetch, Bool.and_eq_true] at hk'
  exact h.waits k' hk'.2

/-- So they do after several invalidations. -/
theorem Queued.invalidateAll (h : s.Queued attended held) (ks : List QueryKey) :
    (s.invalidateAll ks).Queued attended held := by
  induction ks generalizing s with
  | nil => exact h
  | cons k ks ih => exact ih (h.of_agenda_ite (agenda_invalidate s k))

/-- So they do after any operation but taking a key from the queue. -/
theorem Queued.perform (h : s.Queued attended held) {o : StoreOp} (ho : o ≠ .takeQueued) :
    (s.perform o).Queued attended held := by
  cases o with
  | get k now => exact h.of_agenda_ite (agenda_get s k now)
  | subscribe k => exact ⟨h.reader, h.waits⟩
  | unsubscribe sub => exact ⟨h.reader, h.waits⟩
  | invalidate k => exact h.of_agenda_ite (agenda_invalidate s k)
  | set k v now =>
    have hput : (s.putEntry k (Entry.fresh v now)).Queued attended held := h.of_agenda rfl
    exact (hput.completeRefetch k).of_agenda rfl
  | setFetched k v now => exact h.of_agenda rfl
  | replaceWith k update now => exact h.of_agenda (agenda_replaceWith s k update now)
  | remove k => exact h.of_agenda (agenda_remove s k)
  | takeQueued => exact absurd rfl ho
  | completeRefetch k => exact h.completeRefetch k

end Store

/-- An action of anybody but the worker leaves every scheduled key waiting. -/
theorem Ensemble.queued_step {e : Ensemble} {attended : Bool} {held : Option QueryKey}
    (h : e.store.Queued attended held) {a : Action} (ha : a.takesQueued = false) :
    (e.step a).store.Queued attended held := by
  cases a with
  | operate o =>
    have ho : o ≠ .takeQueued := by
      rintro rfl
      cases ha
    exact h.perform ho
  | begin kind scope patches now =>
    obtain ⟨hstore, _⟩ := step_begin e kind scope patches now
    rw [hstore]
    exact h.of_agenda (Launch.agenda_store _ _)
  | commit m dependencies authoritative now =>
    cases hpending : e.pending? m with
    | none =>
      rw [step_commit_of_not_isPending (not_isPending_of_pending? hpending)]
      exact h
    | some p =>
      rcases pending?_eq_some_iff.mp hpending with ⟨hm, hp⟩
      have hmerged : (e.store.mergeAll p.id authoritative now p.targets).Queued attended held :=
        h.of_agenda (Store.agenda_mergeAll _ _ _ _ _)
      rw [store_step_commit hm hp]
      exact hmerged.invalidateAll _
  | undo m u =>
    rcases step_undo_cases e m u with hsame | ⟨p, _, _, hstep⟩
    · rw [hsame]
      exact h
    · rw [hstep]
      exact h.of_agenda (PendingMutation.agenda_undo p e.store u)

namespace Worker

variable {w : Worker} {s : Store}

/-- The worker takes a key that waits, and holds it. -/
theorem queued_take (h : s.Queued true w.phase.held?) :
    (w.take s).2.Queued true (w.take s).1.phase.held? := by
  cases hphase : w.phase with
  | idle =>
    rw [hphase] at h
    cases hqueue : s.queue with
    | nil => simpa [take, hphase, Store.takeQueued, hqueue] using h
    | cons k rest =>
      have htake : w.take s = ({ w with phase := .holding k }, { s with queue := rest }) := by
        simp [take, hphase, Store.takeQueued, hqueue]
      rw [htake]
      refine ⟨h.reader, ?_⟩
      intro k' hk'
      rcases h.waits k' hk' with hwaits | hheld
      · rw [hqueue] at hwaits
        rcases List.mem_cons.mp hwaits with rfl | hrest
        · exact Or.inr rfl
        · exact Or.inl hrest
      · cases hheld
  | holding k => simpa [take, hphase] using h
  | fetching k => simpa [take, hphase] using h

/-- The key that the worker holds is not scheduled once its slot is freed. -/
theorem queued_free (h : s.Queued true w.phase.held?) :
    (w.free s).2.Queued true (w.free s).1.phase.held? := by
  cases hphase : w.phase with
  | holding k =>
    have hfreed : (s.completeRefetch k).Queued true none := by
      refine ⟨h.reader, ?_⟩
      intro k' hk'
      rw [Store.isScheduled_completeRefetch, Bool.and_eq_true, decide_eq_true_eq] at hk'
      rcases h.waits k' hk'.2 with hwaits | hheld
      · exact Or.inl hwaits
      · rw [hphase] at hheld
        exact absurd (Option.some.inj hheld).symm hk'.1
    unfold free
    rw [hphase]
    dsimp only
    split <;> exact hfreed
  | idle => simpa [free, hphase] using h
  | fetching k => simpa [free, hphase] using h

/-- So they do after an answer was delivered, which takes no slot. -/
theorem queued_deliver (h : s.Queued true w.phase.held?) (answer : Except CacheError CacheValue)
    (now : Int) :
    (w.deliver s answer now).2.Queued true (w.deliver s answer now).1.phase.held? := by
  cases hphase : w.phase with
  | fetching k =>
    rw [hphase] at h
    cases answer with
    | ok v =>
      simp only [deliver, hphase]
      exact h.of_agenda (Store.agenda_setFetched s k v now)
    | error e =>
      simp only [deliver, hphase]
      exact h
  | idle => simpa [deliver, hphase] using h
  | holding k => simpa [deliver, hphase] using h

end Worker

namespace Attended

/-- The worker reads the queue, and every scheduled key waits in it, but for the one that the
worker holds. -/
def Queued (a : Attended) : Prop :=
  a.store.Queued a.worker.isSome a.held?

variable {a : Attended}

/-- In a new store nothing is scheduled. -/
theorem queued_new (staleTime : Option Nat) : (new staleTime).Queued :=
  ⟨rfl, fun _ hk => (by cases hk)⟩

/-- What a worker may do is judged by the store and the key that it holds. -/
theorem queued_work (h : a.Queued) {f : Worker → Store → Worker × Store}
    (hf : ∀ w s, s.Queued true w.phase.held? → (f w s).2.Queued true (f w s).1.phase.held?) :
    (a.work f).Queued := by
  cases hw : a.worker with
  | none =>
    rw [work_of_none hw]
    exact h
  | some w =>
    rw [work_of_worker hw]
    have hqueued : a.store.Queued true w.phase.held? := by
      simpa [Queued, held?, hw] using h
    exact hf w a.store hqueued

/-- The queue is handed to the first worker only. -/
theorem step_attach_of_worker (h : a.Queued) {w : Worker} (hw : a.worker = some w) :
    a.step .attach = a := by
  have hreader : a.store.reader = .claimed := by
    simpa [hw] using h.reader
  simp [step, Worker.attach, Store.claimQueue, hreader]

/-- Starting a worker leaves the scheduled keys where they are, and a second one is not started. -/
theorem queued_attach (h : a.Queued) : (a.step .attach).Queued := by
  cases hw : a.worker with
  | none =>
    have hqueued : a.store.Queued false none := by
      simpa [Queued, held?, hw] using h
    have hattach : a.step .attach = a.put {} { a.store with reader := .claimed } := by
      have hreader : a.store.reader = .unclaimed := hqueued.reader
      simp [step, Worker.attach, Store.claimQueue, hreader]
    rw [hattach]
    exact ⟨rfl, hqueued.waits⟩
  | some w =>
    rw [step_attach_of_worker h hw]
    exact h

/-- After every step all scheduled keys wait or are held. -/
theorem queued_step (h : a.Queued) (b : Action) : (a.step b).Queued := by
  cases b with
  | act b hb => exact Ensemble.queued_step h hb
  | attach => exact queued_attach h
  | take => exact queued_work h fun _ _ => Worker.queued_take
  | free => exact queued_work h fun _ _ => Worker.queued_free
  | deliver answer now =>
    exact queued_work h fun _ _ hqueued => Worker.queued_deliver hqueued answer now

/-- In every state that is reached, a scheduled key waits in the queue, or the worker holds it
and has not freed its slot. -/
theorem queued_run (h : a.Queued) (as : List Action) : (a.run as).Queued := by
  induction as generalizing a with
  | nil => exact h
  | cons b as ih => exact ih (queued_step h b)

end Attended
end OptimisticCache
