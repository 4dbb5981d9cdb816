import OptimisticCache.Proofs.Attended
/-!
# Draining the refetch queue

A worker that is left alone makes one attempt after the other: it takes a key, frees
its slot, and stores what is fetched if somebody subscribes to the key.  Nothing that
an attempt does puts a key into the queue, so each attempt shortens the line of
waiting keys by one, and the worker stops once it has been through the line.

Main results:

- Theorem {lit}`Attended.attempt_of_waiting`: what one attempt does.
- Theorem {lit}`Attended.drained_run`: in every state that is reached no scheduled key
  is lost, and a worker that is left alone drains the queue.
-/

namespace OptimisticCache
namespace Attended

/-- The keys that wait for an attempt of the worker, the next one in front: the key it holds,
and those in the queue. -/
def waiting (a : Attended) : List QueryKey :=
  a.held?.toList ++ a.store.queue

/-- Whether a worker is attached and has no fetch out. -/
def Resting (a : Attended) : Prop :=
  ∃ w, a.worker = some w ∧ ∀ k, w.phase ≠ .fetching k

/-- One attempt of the worker alone: it takes the next key, unless it holds one, frees the slot,
and is answered. -/
def attempt (a : Attended) (answer : Except CacheError CacheValue) (now : Int) : Attended :=
  a.run [.take, .free, .deliver answer now]

/-- What an attempt on a key stores: the answer, if somebody subscribes to the key. -/
def fetched? (a : Attended) (k : QueryKey) (answer : Except CacheError CacheValue) :
    Option CacheValue :=
  if 0 < a.store.subscriberCount k then answer.toOption else none

/-- The first attempts of the worker alone, with the answers and the instants of each. -/
def attempts (a : Attended) (answers : Nat → Except CacheError CacheValue) (clock : Nat → Int) :
    Nat → Attended
  | 0 => a
  | n + 1 => (a.attempts answers clock n).attempt (answers n) (clock n)

variable {a : Attended} {w : Worker} {k : QueryKey} {rest : List QueryKey}

/-! ## One attempt -/

/-- Only what was put last counts. -/
theorem put_put (a : Attended) (w w' : Worker) (s s' : Store) :
    (a.put w s).put w' s' = a.put w' s' :=
  rfl

/-- The next key leaves the line: the worker holds it already, or it was first in the queue. -/
theorem step_take_of_waiting (hw : a.worker = some w) (hphase : ∀ k, w.phase ≠ .fetching k)
    (h : a.waiting = k :: rest) :
    a.step .take = a.put { w with phase := .holding k } { a.store with queue := rest } := by
  have hheld : a.held? = w.phase.held? := by simp [held?, hw]
  unfold waiting at h
  rw [hheld] at h
  rw [step_take hw]
  cases hcase : w.phase with
  | idle =>
    have hqueue : a.store.queue = k :: rest := by
      simpa [hcase, Worker.Phase.held?] using h
    simp [Worker.take, hcase, Store.takeQueued, hqueue]
  | holding k' =>
    rw [hcase] at h
    obtain ⟨rfl, hrest⟩ : k' = k ∧ a.store.queue = rest := List.cons.inj h
    have htake : w.take a.store = (w, a.store) := by simp [Worker.take, hcase]
    rw [htake, ← hcase, ← hrest]
  | fetching k' => exact absurd hcase (hphase k')

/-- The next key leaves the line and its slot is freed. -/
theorem step_free_of_waiting (hw : a.worker = some w) (hphase : ∀ k, w.phase ≠ .fetching k)
    (h : a.waiting = k :: rest) :
    let holding : Worker := { w with phase := .holding k }
    let taken : Store := { a.store with queue := rest }
    (a.step .take).step .free = a.put (holding.free taken).1 (holding.free taken).2 := by
  intro holding taken
  have htaken : a.step .take = a.put holding taken := step_take_of_waiting hw hphase h
  rw [htaken, step_free rfl, put_put, store_put]

/-- An attempt takes the next key, frees its slot, and stores what is fetched. -/
theorem attempt_of_waiting (h : a.Resting) (hwaiting : a.waiting = k :: rest)
    (answer : Except CacheError CacheValue) (now : Int) :
    let freed := ({ a.store with queue := rest } : Store).completeRefetch k
    let stored :=
      match a.fetched? k answer with
      | some v => freed.setFetched k v now
      | none => freed
    ∃ w, w.phase = .idle ∧ a.attempt answer now = a.put w stored := by
  intro freed stored
  rcases h with ⟨w, hw, hphase⟩
  let holding : Worker := { w with phase := .holding k }
  let taken : Store := { a.store with queue := rest }
  have hfreed : (a.step .take).step .free =
      a.put (holding.free taken).1 (holding.free taken).2 := step_free_of_waiting hw hphase hwaiting
  have hattempt : a.attempt answer now =
      a.put ((holding.free taken).1.deliver (holding.free taken).2 answer now).1
        ((holding.free taken).1.deliver (holding.free taken).2 answer now).2 := by
    change ((a.step .take).step .free).step (.deliver answer now) = _
    rw [hfreed, step_deliver rfl, put_put, store_put]
  by_cases hlive : 0 < a.store.subscriberCount k
  · have hsent : holding.free taken = ({ w with phase := .fetching k }, freed) :=
      Worker.free_of_live rfl hlive
    rw [hsent] at hattempt
    cases answer with
    | ok v =>
      have hstored : stored = freed.setFetched k v now := by
        simp [stored, fetched?, hlive, Except.toOption]
      rw [Worker.deliver_ok rfl] at hattempt
      exact ⟨_, rfl, by rw [hattempt, hstored]⟩
    | error e =>
      have hstored : stored = freed := by
        simp [stored, fetched?, hlive, Except.toOption]
      rw [Worker.deliver_failed rfl] at hattempt
      exact ⟨_, rfl, by rw [hattempt, hstored]⟩
  · have hpassed : holding.free taken = ({ w with phase := .idle }, freed) :=
      Worker.free_of_dead rfl hlive
    have hstored : stored = freed := by
      simp [stored, fetched?, hlive]
    rw [hpassed, Worker.deliver_of_idle rfl] at hattempt
    exact ⟨_, rfl, by rw [hattempt, hstored]⟩

/-- An attempt shortens the line by one key. -/
theorem waiting_attempt (h : a.Resting) (hwaiting : a.waiting = k :: rest)
    (answer : Except CacheError CacheValue) (now : Int) :
    (a.attempt answer now).Resting ∧ (a.attempt answer now).waiting = rest := by
  rcases attempt_of_waiting h hwaiting answer now with ⟨w, hidle, hattempt⟩
  rw [hattempt]
  constructor
  · refine ⟨w, rfl, ?_⟩
    intro k' hk'
    rw [hidle] at hk'
    cases hk'
  · unfold waiting
    rw [held?_put, hidle, store_put]
    split <;> rfl

/-- An attempt changes no count of subscribers. -/
theorem subscriberCount_attempt (h : a.Resting) (hwaiting : a.waiting = k :: rest)
    (answer : Except CacheError CacheValue) (now : Int) (k' : QueryKey) :
    (a.attempt answer now).store.subscriberCount k' = a.store.subscriberCount k' := by
  rcases attempt_of_waiting h hwaiting answer now with ⟨w, _, hattempt⟩
  rw [hattempt, store_put]
  split <;> rfl

/-- What is fetched is stored and fresh, for the slot of the key is free. -/
theorem entryAt?_attempt (h : a.Resting) (hwaiting : a.waiting = k :: rest)
    (answer : Except CacheError CacheValue) (now : Int) (k' : QueryKey) :
    (a.attempt answer now).store.entryAt? k' =
      match (if k' = k then a.fetched? k answer else none) with
      | some v => some (Entry.fresh v now)
      | none => a.store.entryAt? k' := by
  rcases attempt_of_waiting h hwaiting answer now with ⟨w, _, hattempt⟩
  let freed := ({ a.store with queue := rest } : Store).completeRefetch k
  have hfree : freed.isScheduled k = false := by
    rw [Store.isScheduled_completeRefetch]
    simp
  rw [hattempt, store_put]
  cases a.fetched? k answer with
  | none =>
    simp only [ite_self]
    rfl
  | some v =>
    change (freed.setFetched k v now).entryAt? k' = _
    rw [Store.entryAt?_setFetched, hfree]
    by_cases hk : k' = k
    · rw [if_pos hk, if_pos hk]
      rfl
    · rw [if_neg hk, if_neg hk]
      rfl

/-! ## The last fetch of a key -/

/-- Whether an attempt on the keys of a line is on one key, and answered with a value. -/
def Fetches (ks : List QueryKey) (answers : Nat → Except CacheError CacheValue) (k : QueryKey)
    (i : Nat) (v : CacheValue) : Prop :=
  ks[i]? = some k ∧ answers i = .ok v

/-- Whether an attempt is the last one that fetches a value of a key. -/
def FetchesLast (ks : List QueryKey) (answers : Nat → Except CacheError CacheValue)
    (k : QueryKey) (i : Nat) (v : CacheValue) : Prop :=
  Fetches ks answers k i v ∧ ∀ j w, i < j → ¬ Fetches ks answers k j w

/-- The last of the first attempts that fetches a value of a key, and the value. -/
def lastFetch? (ks : List QueryKey) (answers : Nat → Except CacheError CacheValue)
    (k : QueryKey) : Nat → Option (Nat × CacheValue)
  | 0 => none
  | n + 1 =>
    match (if ks[n]? = some k then (answers n).toOption else none) with
    | some v => some (n, v)
    | none => lastFetch? ks answers k n

variable {ks : List QueryKey} {answers : Nat → Except CacheError CacheValue} {clock : Nat → Int}
  {n i : Nat} {v : CacheValue}

/-- Which attempts fetch a key, and with which value. -/
theorem fetches_iff : Fetches ks answers k n v ↔
    (if ks[n]? = some k then (answers n).toOption else none) = some v := by
  unfold Fetches
  by_cases hline : ks[n]? = some k
  · cases hanswer : answers n <;> simp [hline, Except.toOption]
  · simp [hline]

/-- Without a last fetch there is none. -/
theorem not_fetches_of_lastFetch?_eq_none (h : lastFetch? ks answers k n = none) (hi : i < n)
    (v : CacheValue) : ¬ Fetches ks answers k i v := by
  induction n with
  | zero => exact absurd hi (Nat.not_lt_zero i)
  | succ n ih =>
    unfold lastFetch? at h
    split at h
    · cases h
    · rename_i hnone
      rcases Nat.lt_succ_iff_lt_or_eq.mp hi with hlt | rfl
      · exact ih h hlt
      · rw [fetches_iff, hnone]
        nofun

/-- No fetch comes after the last one. -/
theorem fetches_of_lastFetch?_eq_some (h : lastFetch? ks answers k n = some (i, v)) :
    Fetches ks answers k i v ∧ ∀ j w, i < j → j < n → ¬ Fetches ks answers k j w := by
  induction n with
  | zero => cases h
  | succ n ih =>
    unfold lastFetch? at h
    split at h
    · rename_i w hfetched
      obtain ⟨rfl, rfl⟩ := Prod.mk.inj (Option.some.inj h)
      refine ⟨fetches_iff.mpr hfetched, ?_⟩
      intro j w hj hlt
      omega
    · rename_i hnone
      rcases ih h with ⟨hfetches, hlast⟩
      refine ⟨hfetches, ?_⟩
      intro j w hj hlt
      rcases Nat.lt_succ_iff_lt_or_eq.mp hlt with hlt | rfl
      · exact hlast j w hj hlt
      · rw [fetches_iff, hnone]
        nofun

/-- No attempt goes beyond the line. -/
theorem Fetches.lt_length (h : Fetches ks answers k i v) : i < ks.length :=
  (List.getElem?_eq_some_iff.mp h.1).1

/-- A key that is fetched at all is fetched a last time. -/
theorem lastFetch?_of_fetches (h : Fetches ks answers k i v) :
    ∃ j w, lastFetch? ks answers k ks.length = some (j, w) ∧ FetchesLast ks answers k j w := by
  cases hlast : lastFetch? ks answers k ks.length with
  | none => exact absurd h (not_fetches_of_lastFetch?_eq_none hlast h.lt_length v)
  | some f =>
    rcases fetches_of_lastFetch?_eq_some hlast with ⟨hfetches, hlater⟩
    exact ⟨f.1, f.2, rfl, hfetches, fun j w hj hw => hlater j w hj hw.lt_length hw⟩

/-! ## All attempts -/

/-- The attempts go through the line, and change no subscription. -/
theorem waiting_attempts (h : a.Resting) (answers : Nat → Except CacheError CacheValue)
    (clock : Nat → Int) (hn : n ≤ a.waiting.length) :
    (a.attempts answers clock n).Resting ∧
      (a.attempts answers clock n).waiting = a.waiting.drop n ∧
      ∀ k, (a.attempts answers clock n).store.subscriberCount k = a.store.subscriberCount k := by
  induction n with
  | zero => exact ⟨h, rfl, fun _ => rfl⟩
  | succ n ih =>
    rcases ih (Nat.le_of_succ_le hn) with ⟨hresting, hwaiting, hcount⟩
    rw [List.drop_eq_getElem_cons hn] at hwaiting
    rcases waiting_attempt hresting hwaiting (answers n) (clock n) with ⟨hresting', hwaiting'⟩
    refine ⟨hresting', hwaiting', ?_⟩
    intro k
    rw [← hcount k]
    exact subscriberCount_attempt hresting hwaiting (answers n) (clock n) k

/-- A key that somebody listens to has what was fetched last, fresh; every other key keeps its
entry. -/
theorem entryAt?_attempts (h : a.Resting) (answers : Nat → Except CacheError CacheValue)
    (clock : Nat → Int) (hn : n ≤ a.waiting.length) (k : QueryKey) :
    (a.attempts answers clock n).store.entryAt? k =
      match (if 0 < a.store.subscriberCount k then lastFetch? a.waiting answers k n else none) with
      | some (i, v) => some (Entry.fresh v (clock i))
      | none => a.store.entryAt? k := by
  induction n with
  | zero => simp [attempts, lastFetch?]
  | succ n ih =>
    have hbefore := ih (Nat.le_of_succ_le hn)
    rcases waiting_attempts h answers clock (Nat.le_of_succ_le hn) with ⟨hresting, hwaiting, hcount⟩
    rw [List.drop_eq_getElem_cons hn] at hwaiting
    have hline : a.waiting[n]? = some a.waiting[n] := List.getElem?_eq_getElem hn
    rw [attempts, entryAt?_attempt hresting hwaiting, fetched?, hcount, lastFetch?, hline, hbefore]
    by_cases hlive : 0 < a.store.subscriberCount k
    · by_cases hk : k = a.waiting[n]
      · simp only [← hk, if_pos hlive, if_true]
        cases (answers n).toOption <;> rfl
      · have hk' : ¬ some a.waiting[n] = some k := fun h => hk (Option.some.inj h).symm
        simp only [if_pos hlive, if_neg hk, if_neg hk']
    · by_cases hk : k = a.waiting[n]
      · simp only [← hk, if_neg hlive, if_true]
      · simp only [if_neg hlive, if_neg hk]

/-- A worker that is left alone attempts the keys that wait, each as often as it waits, and
stops: no key is scheduled any more, a key that somebody listens to has what was fetched last,
fresh, and all other keys keep their entries. -/
structure Drains (a : Attended) (answers : Nat → Except CacheError CacheValue)
    (clock : Nat → Int) : Prop where
  goes_on : ∀ i < a.waiting.length, (a.attempts answers clock i).waiting ≠ []
  stops : (a.attempts answers clock a.waiting.length).waiting = []
  unscheduled : ∀ k, (a.attempts answers clock a.waiting.length).store.isScheduled k = false
  refreshed : ∀ k, 0 < a.store.subscriberCount k →
    (∃ i v, Fetches a.waiting answers k i v) →
    ∃ i v, FetchesLast a.waiting answers k i v ∧
      (a.attempts answers clock a.waiting.length).store.entryAt? k = some ⟨v, clock i, false⟩
  kept : ∀ k, a.store.subscriberCount k = 0 ∨ (∀ i v, ¬ Fetches a.waiting answers k i v) →
    (a.attempts answers clock a.waiting.length).store.entryAt? k = a.store.entryAt? k

/-- Over all attempts the scheduled keys wait or are held. -/
theorem queued_attempts (h : a.Queued) (answers : Nat → Except CacheError CacheValue)
    (clock : Nat → Int) (n : Nat) : (a.attempts answers clock n).Queued := by
  induction n with
  | zero => exact h
  | succ n ih => exact queued_run ih _

/-- As many attempts as keys wait drain the queue. -/
theorem drains (h : a.Queued) (hresting : a.Resting)
    (answers : Nat → Except CacheError CacheValue) (clock : Nat → Int) :
    a.Drains answers clock := by
  have hstops : (a.attempts answers clock a.waiting.length).waiting = [] := by
    rw [(waiting_attempts hresting answers clock (Nat.le_refl _)).2.1, List.drop_length]
  have hentry := entryAt?_attempts hresting answers clock (Nat.le_refl a.waiting.length)
  constructor
  · intro i hi
    rw [(waiting_attempts hresting answers clock (Nat.le_of_lt hi)).2.1]
    simpa using hi
  · exact hstops
  · intro k
    rw [Bool.eq_false_iff]
    intro hscheduled
    -- a key that is still scheduled would still be in the line
    rcases List.append_eq_nil_iff.mp hstops with ⟨hheld, hqueue⟩
    rcases (queued_attempts h answers clock _).waits k hscheduled with hmem | hmem
    · rw [hqueue] at hmem
      cases hmem
    · rw [hmem] at hheld
      cases hheld
  · rintro k hlive ⟨i, v, hfetches⟩
    rcases lastFetch?_of_fetches hfetches with ⟨j, w, hlast, hfetchesLast⟩
    refine ⟨j, w, hfetchesLast, ?_⟩
    rw [hentry, if_pos hlive, hlast]
    rfl
  · intro k hk
    have hnone : (if 0 < a.store.subscriberCount k then
        lastFetch? a.waiting answers k a.waiting.length else none) = none := by
      rcases hk with hdead | hnever
      · simp [hdead]
      · cases hlast : lastFetch? a.waiting answers k a.waiting.length with
        | none => simp
        | some f => exact absurd (fetches_of_lastFetch?_eq_some hlast).1 (hnever f.1 f.2)
    rw [hentry, hnone]

/-- In every state that is reached, a scheduled key waits in the queue, or the worker holds it
and has not freed its slot.  From there, unless a fetch is out, the worker alone drains the
queue. -/
theorem drained_run (staleTime : Option Nat) (as : List Action) :
    let a := (new staleTime).run as
    (∀ k, a.store.isScheduled k = true → k ∈ a.store.queue ∨ a.held? = some k) ∧
      (a.Resting → ∀ answers clock, a.Drains answers clock) := by
  intro a
  have hqueued : a.Queued := queued_run (queued_new staleTime) as
  exact ⟨hqueued.waits, fun hresting answers clock => drains hqueued hresting answers clock⟩

/-- A list is invalidated, stored anew and invalidated again before the worker takes it, so that
it waits twice.  The first attempt fetches it, the second one fails. -/
theorem drained_run_repeated :
    let k := QueryKey.comments "p1"
    let v := CacheValue.list [Item.new "c1" .null]
    let as : List Action :=
      [.act (.operate (.subscribe k)) rfl, .attach, .act (.operate (.set k v 0)) rfl,
        .act (.operate (.invalidate k)) rfl, .act (.operate (.set k v 1)) rfl,
        .act (.operate (.invalidate k)) rfl, .take]
    let a := (new none).run as
    let answers := fun i => if i = 0 then Except.ok v else Except.error (.unroutable k)
    a.waiting = [k, k] ∧ a.store.entryAt? k = some ⟨v, 1, true⟩ ∧ a.Resting ∧
      a.Drains answers (fun i => 2 + i) := by
  intro k v as a answers
  have hwaiting : a.waiting = [k, k] := by decide +kernel
  have hentry : a.store.entryAt? k = some ⟨v, 1, true⟩ := by decide +kernel
  have hresting : a.Resting := ⟨⟨.holding k, 0⟩, by decide +kernel, nofun⟩
  exact ⟨hwaiting, hentry, hresting, (drained_run none as).2 hresting answers (fun i => 2 + i)⟩

end Attended
end OptimisticCache
