import OptimisticCache.Proofs.EventLog
/-!
# What a subscription receives

A listener opens a subscription and drains it from time to time, while the store goes on
being worked on.  Draining leaves the store alone, so the other listeners are part of
what is done to the store, and one listener is enough to look at.

What is done to the store is given by strokes, which make up all procedures, so that a
drain may also come in the middle of one.

Every event that was ever published has a position in the log, counted from the first
one.  A drain settles all positions between the one before it and the end of the log,
once and for all: those among the latest events are received if they are of the key, the
others are lost.  So an event is received or not by the distance between its position and
the length of the log at the first drain after it.

Main results:

- Theorem {lit}`Listener.run_procedures`: runs of procedures are among the runs.
- Theorem {lit}`Listener.received_run`: which events have been received after a run.
- Theorem {lit}`Listener.received_of_keepsUp`: a listener that never falls further behind
  than the kept events misses none.
- Theorem {lit}`Listener.listen_receives`: both, for a subscription that is opened at any
  moment.
-/

namespace OptimisticCache

/-- A subscription, the store that it is of, and what has been received so far. -/
structure Listener where
  store : Store
  sub : Subscription
  received : List CacheEvent

namespace Listener

/-- Open a subscription and listen. -/
def listen (s : Store) (k : QueryKey) : Listener :=
  ⟨(s.subscribe k).2, (s.subscribe k).1, []⟩

/-- What happens next: something is done to the store, or the listener drains its
subscription. -/
inductive Turn where
  | strike (x : Stroke)
  | drain

/-- The listener after a turn. -/
def step (l : Listener) : Turn → Listener
  | .strike x => { l with store := l.store.strike x }
  | .drain =>
    let (events, sub) := l.sub.drain l.store.events
    { l with sub, received := l.received ++ events }

/-- The listener after a run of turns. -/
def run (l : Listener) (ts : List Turn) : Listener :=
  ts.foldl step l

/-- All events that were ever published, the first in front. -/
def log (l : Listener) : List CacheEvent :=
  l.store.events.reverse

/-- The lengths of the log at the drains of a run. -/
def marks (l : Listener) : List Turn → List Nat
  | [] => []
  | .strike x :: ts => (l.step (.strike x)).marks ts
  | .drain :: ts => l.log.length :: (l.step .drain).marks ts

/-- Whether the event at a position is among the latest ones at the first drain after it. -/
def keptAt (marks : List Nat) (position : Nat) : Bool :=
  (marks.find? fun m => position < m).any fun m => m ≤ position + Subscription.capacity

/-- How many events the listener has not looked at. -/
def behind (l : Listener) : Nat :=
  l.log.length - l.sub.seen

/-- The listener has not looked past the end of the log. -/
def Placed (l : Listener) : Prop :=
  l.sub.seen ≤ l.log.length

variable {l : Listener} {ts : List Turn}

@[simp]
theorem run_nil (l : Listener) : l.run [] = l :=
  rfl

@[simp]
theorem run_cons (l : Listener) (t : Turn) (ts : List Turn) : l.run (t :: ts) = (l.step t).run ts :=
  rfl

/-- The strokes of procedures, as turns, are the procedures. -/
theorem run_procedures (l : Listener) (ps : List Procedure) :
    l.run ((ps.flatMap Procedure.strokes).map .strike) = { l with store := l.store.proceedAll ps } := by
  rw [Store.proceedAll_eq]
  generalize ps.flatMap Procedure.strokes = xs
  induction xs generalizing l with
  | nil => rfl
  | cons x xs ih => exact ih (l.step (.strike x))

/-! ## The log only grows -/

/-- What waits for a listener are the events of its key among the latest that it has not looked
at. -/
theorem wanted_eq (l : Listener) :
    l.sub.wanted l.store.events =
      (l.log.drop (max l.sub.seen (l.log.length - Subscription.capacity))).filter
        fun e => e.key = l.sub.key := by
  simp only [Subscription.wanted, Subscription.waiting, Subscription.oldest, log,
    List.length_reverse]

/-- A drain receives what waits and takes the listener to the end of the log. -/
theorem step_drain (h : l.Placed) :
    l.step .drain =
      ⟨l.store, ⟨l.sub.key, l.log.length⟩, l.received ++ l.sub.wanted l.store.events⟩ := by
  have hlength : l.log.length = l.store.events.length := List.length_reverse
  unfold Placed at h
  rw [hlength] at h ⊢
  simp only [step, Subscription.drain_eq, Subscription.caughtUp]
  rw [Nat.max_eq_right h]

/-- A turn publishes one event at most, behind all others. -/
theorem exists_log_step (h : l.Placed) (t : Turn) :
    ∃ news, (l.step t).log = l.log ++ news ∧ news.length ≤ 1 := by
  cases t with
  | strike x =>
    obtain ⟨news, hevents, hlength, _⟩ := l.store.exists_news [x]
    have hstep : (l.step (.strike x)).store.events = news ++ l.store.events := hevents
    refine ⟨news.reverse, ?_, by simpa using hlength⟩
    unfold log
    rw [hstep, List.reverse_append]
  | drain =>
    rw [step_drain h]
    exact ⟨[], (List.append_nil _).symm, Nat.zero_le 1⟩

/-- No turn takes a listener past the end of the log. -/
theorem placed_step (h : l.Placed) (t : Turn) : (l.step t).Placed := by
  cases t with
  | strike x =>
    obtain ⟨news, hlog, _⟩ := exists_log_step h (.strike x)
    unfold Placed
    rw [hlog, List.length_append]
    exact Nat.le_add_right_of_le h
  | drain =>
    rw [step_drain h]
    exact Nat.le_refl _

/-- A run only adds to the log. -/
theorem exists_log_run (h : l.Placed) (ts : List Turn) : ∃ news, (l.run ts).log = l.log ++ news := by
  induction ts generalizing l with
  | nil => exact ⟨[], (List.append_nil _).symm⟩
  | cons t ts ih =>
    obtain ⟨first, hfirst, _⟩ := exists_log_step h t
    obtain ⟨rest, hrest⟩ := ih (placed_step h t)
    refine ⟨first ++ rest, ?_⟩
    rw [run_cons, hrest, hfirst, List.append_assoc]

/-- The events after the position of the listener: those of now, and those to come. -/
theorem drop_log_run (h : l.Placed) (ts : List Turn) :
    (l.run ts).log.drop l.sub.seen =
      l.log.drop l.sub.seen ++ (l.run ts).log.drop l.log.length := by
  obtain ⟨news, hlog⟩ := exists_log_run h ts
  rw [hlog, List.drop_append_of_le_length h, List.drop_left]

/-! ## What is received -/

/-- The first drain past a position decides whether its event is still kept. -/
theorem keptAt_cons_of_lt {m position : Nat} (h : position < m) (marks : List Nat) :
    keptAt (m :: marks) position = decide (m - Subscription.capacity ≤ position) := by
  simp [keptAt, h]

/-- An event that is followed by 255 others is received, and with one more it is lost. -/
example : keptAt [256] 0 = true ∧ keptAt [257] 0 = false := by decide

/-- A drain that does not get past a position decides nothing about it. -/
theorem keptAt_cons_of_le {m position : Nat} (h : m ≤ position) (marks : List Nat) :
    keptAt (m :: marks) position = keptAt marks position := by
  simp [keptAt, Nat.not_lt.mpr h]

/-- Of the positions from some one on, those from a bound on are behind as many as lie before the
bound. -/
theorem map_filter_zipIdx {α : Type} (q : α → Bool) (bound : Nat) (xs : List α) (n : Nat) :
    ((xs.zipIdx n).filter fun p => q p.1 && decide (bound ≤ p.2)).map Prod.fst =
      (xs.drop (bound - n)).filter q := by
  induction xs generalizing n with
  | nil => simp
  | cons x xs ih =>
    rw [List.zipIdx_cons, List.filter_cons]
    by_cases h : bound ≤ n
    · have hnext : bound - (n + 1) = 0 := by omega
      have hhere : bound - n = 0 := by omega
      rw [hhere, List.drop_zero, List.filter_cons]
      cases q x <;> simp [h, ih, hnext]
    · have hhere : bound - n = (bound - (n + 1)) + 1 := by omega
      rw [hhere, List.drop_succ_cons, ← ih]
      simp [h]

/-- The positions that a drain settles: the events among the latest are received. -/
theorem wanted_eq_settled (l : Listener) (marks : List Nat) :
    (((l.log.drop l.sub.seen).zipIdx l.sub.seen).filter fun p =>
        p.1.key = l.sub.key && keptAt (l.log.length :: marks) p.2).map Prod.fst =
      l.sub.wanted l.store.events := by
  have hsettled : ∀ p ∈ (l.log.drop l.sub.seen).zipIdx l.sub.seen,
      (decide (p.1.key = l.sub.key) && keptAt (l.log.length :: marks) p.2) =
        (decide (p.1.key = l.sub.key) &&
          decide (l.log.length - Subscription.capacity ≤ p.2)) := by
    intro p hp
    have hle := List.le_snd_of_mem_zipIdx hp
    have hlt := List.snd_lt_add_of_mem_zipIdx hp
    rw [List.length_drop] at hlt
    rw [keptAt_cons_of_lt (by omega)]
  rw [List.filter_congr hsettled,
    map_filter_zipIdx fun e : CacheEvent => decide (e.key = l.sub.key), List.drop_drop, wanted_eq]
  congr 2
  omega

/-- After a run, the events that have been received are those of the key that were among the
latest ones at the first drain after them. -/
theorem received_run (h : l.Placed) (ts : List Turn) :
    (l.run ts).received =
      l.received ++
        ((((l.run ts).log.drop l.sub.seen).zipIdx l.sub.seen).filter fun p =>
          p.1.key = l.sub.key && keptAt (l.marks ts) p.2).map Prod.fst := by
  induction ts generalizing l with
  | nil => simp [marks, keptAt]
  | cons t ts ih =>
    have hnext := ih (placed_step h t)
    cases t with
    | strike x => exact hnext
    | drain =>
      -- this drain settles the positions up to the end of the log, the rest of the run those after it
      have hdrop := drop_log_run h (.drain :: ts)
      rw [run_cons] at hdrop ⊢
      have hlength : l.sub.seen + (l.log.drop l.sub.seen).length = l.log.length := by
        rw [List.length_drop]
        exact Nat.add_sub_of_le h
      have hlater : ∀ p ∈ (((l.step .drain).run ts).log.drop l.log.length).zipIdx l.log.length,
          (decide (p.1.key = l.sub.key) && keptAt (l.log.length :: (l.step .drain).marks ts) p.2) =
            (decide (p.1.key = l.sub.key) && keptAt ((l.step .drain).marks ts) p.2) := by
        intro p hp
        rw [keptAt_cons_of_le (List.le_snd_of_mem_zipIdx hp)]
      rw [hdrop, List.zipIdx_append, hlength, List.filter_append, List.map_append, marks,
        List.filter_congr hlater, wanted_eq_settled, ← List.append_assoc]
      rw [step_drain h] at hnext ⊢
      exact hnext

/-- A listener that is not too far behind misses nothing. -/
theorem wanted_of_behind_le (h : l.behind ≤ Subscription.capacity) :
    l.sub.wanted l.store.events =
      (l.log.drop l.sub.seen).filter fun e => e.key = l.sub.key := by
  unfold behind at h
  rw [wanted_eq, Nat.max_eq_left (by omega)]

/-- A listener that never falls further behind than the kept events has received, with those that
wait for it, all events of its key since it looked last. -/
theorem received_of_keepsUp (h : l.Placed)
    (hts : ∀ n, (l.run (ts.take n)).behind ≤ Subscription.capacity) :
    (l.run ts).received ++ (l.run ts).sub.wanted (l.run ts).store.events =
      l.received ++ ((l.run ts).log.drop l.sub.seen).filter fun e => e.key = l.sub.key := by
  induction ts generalizing l with
  | nil =>
    have hnow : l.behind ≤ Subscription.capacity := hts 0
    rw [run_nil, wanted_of_behind_le hnow]
  | cons t ts ih =>
    have hnext := ih (placed_step h t) fun n => hts (n + 1)
    cases t with
    | strike x => exact hnext
    | drain =>
      have hnow : l.behind ≤ Subscription.capacity := hts 0
      have hdrop := drop_log_run h (.drain :: ts)
      rw [run_cons] at hdrop ⊢
      rw [hdrop, List.filter_append, ← wanted_of_behind_le hnow, ← List.append_assoc]
      rw [step_drain h] at hnext ⊢
      exact hnext

/-! ## A subscription from its beginning -/

/-- A listener begins at the end of the log. -/
theorem placed_listen (s : Store) (k : QueryKey) : (listen s k).Placed := by
  unfold Placed log
  rw [List.length_reverse]
  exact Nat.le_refl _

/-- A turn leaves a listener at most one event further behind. -/
theorem behind_step_le (h : l.Placed) (t : Turn) : (l.step t).behind ≤ l.behind + 1 := by
  cases t with
  | strike x =>
    obtain ⟨news, hlog, hlength⟩ := exists_log_step h (.strike x)
    have hseen : (l.step (.strike x)).sub.seen = l.sub.seen := rfl
    unfold behind
    rw [hlog, hseen, List.length_append]
    omega
  | drain =>
    rw [step_drain h]
    exact Nat.le_trans (Nat.le_of_eq (Nat.sub_self _)) (Nat.zero_le _)

/-- With each turn a listener falls behind by one event at most. -/
theorem behind_run_le (h : l.Placed) (ts : List Turn) : (l.run ts).behind ≤ l.behind + ts.length := by
  induction ts generalizing l with
  | nil => exact Nat.le_refl _
  | cons t ts ih =>
    have hstep := behind_step_le h t
    have hrest := ih (placed_step h t)
    rw [run_cons, List.length_cons]
    omega

/-- A subscription that is opened at any moment, worked past and drained in any order: the events
published since then are the end of the log, and those received are, in order and each once, the
events of the key that were among the latest ones at the first drain after them.  If the listener
never falls further behind than the kept events, then the events that it has received, with those
that one more drain receives, are all events of the key. -/
theorem listen_receives (s : Store) (k : QueryKey) (ts : List Turn) :
    let start := listen s k
    let final := start.run ts
    ∃ sent, final.store.events.reverse = s.events.reverse ++ sent ∧
      final.received =
        ((sent.zipIdx s.events.length).filter fun p =>
          p.1.key = k && keptAt (start.marks ts) p.2).map Prod.fst ∧
      ((∀ n, (start.run (ts.take n)).behind ≤ Subscription.capacity) →
        final.received ++ (final.sub.drain final.store.events).1 =
          sent.filter fun e => e.key = k) := by
  intro start final
  have hplaced : start.Placed := placed_listen s k
  obtain ⟨sent, hsent⟩ := exists_log_run hplaced ts
  have hlog : final.store.events.reverse = s.events.reverse ++ sent := hsent
  have hdrop : final.log.drop start.sub.seen = sent := by
    have hseen : start.sub.seen = s.events.reverse.length := List.length_reverse.symm
    unfold log
    rw [hlog, hseen, List.drop_left]
  refine ⟨sent, hlog, ?_, fun hts => ?_⟩
  · have hreceived := received_run hplaced ts
    rw [hdrop] at hreceived
    exact hreceived
  · have hreceived := received_of_keepsUp hplaced hts
    rw [hdrop] at hreceived
    rw [Subscription.drain_eq]
    exact hreceived

/-- A listener to a list of comments: the list and the project are stored, the events are received,
and the list is invalidated. -/
theorem listen_receives_short :
    let k := QueryKey.comments "p1"
    let ts : List Turn :=
      [.strike (.operate (.set k (.list []) 0)),
        .strike (.operate (.set (.project "p1") (.list []) 1)), .drain,
        .strike (.operate (.invalidate k))]
    let start := listen (Store.empty none) k
    let final := start.run ts
    (∀ n, (start.run (ts.take n)).behind ≤ Subscription.capacity) ∧
      final.received ++ (final.sub.drain final.store.events).1 = [.updated k, .invalidated k] := by
  intro k ts start final
  have hkeepsUp : ∀ n, (start.run (ts.take n)).behind ≤ Subscription.capacity := by
    intro n
    have hturns : start.behind + (ts.take n).length ≤ 4 :=
      Nat.le_trans (Nat.le_of_eq (Nat.zero_add _)) (List.length_take_le' n ts)
    have hbehind := behind_run_le (placed_listen (Store.empty none) k) (ts.take n)
    exact Nat.le_trans hbehind (Nat.le_trans hturns (by decide))
  obtain ⟨sent, hsent, _, hall⟩ := listen_receives (Store.empty none) k ts
  obtain rfl : sent = [.updated k, .updated (.project "p1"), .invalidated k] := hsent.symm
  exact ⟨hkeepsUp, hall hkeepsUp⟩

end Listener
end OptimisticCache
