import OptimisticCache.Proofs.Footprints
/-!
# Independent mutations are serializable

Mutations whose footprints are disjoint take turns on one client: at its first turn a
mutation begins, at its second one it settles.  However their turns are mixed, each of
them leaves on its footprint what it would leave on its own, and reports the same; the
other keys are left alone, and the keys that are scheduled are those that the commits
schedule.  So the outcome is that of any serial run, where each mutation settles before
the next one begins.

Main results:

- Theorem {lit}`Workload.follows_turn`: one turn of a mutation concerns this mutation
  only.
- Theorem {lit}`Workload.run_eq_serial`: any mix of turns ends as any serial run does.
-/

namespace OptimisticCache

/-- Mutations that take turns on one client. -/
structure Workload (ι : Type) where
  client : Client
  /-- The mutations that have begun. -/
  mutation? : ι → Option PendingMutation
  /-- What the mutations that have settled report. -/
  settlement? : ι → Option Settlement

namespace Workload

variable {ι : Type} [DecidableEq ι]

/-- A client on which no mutation has begun. -/
def ofClient (c : Client) : Workload ι :=
  ⟨c, fun _ => none, fun _ => none⟩

/-- The store of the client. -/
def store (w : Workload ι) : Store :=
  w.client.store

/-- Put down what became of a mutation. -/
def update (w : Workload ι) (client : Client) (i : ι) (p : PendingMutation)
    (report : Option Settlement) : Workload ι :=
  ⟨client, fun j => if j = i then some p else w.mutation? j,
    fun j => if j = i then report else w.settlement? j⟩

/-- One turn of a mutation, at some time: it begins, or it settles if it has begun.  A mutation
that has settled is refused. -/
def turn (tasks : ι → Task) (w : Workload ι) (turn : ι × Int) : Workload ι :=
  let (i, now) := turn
  match w.mutation? i with
  | none =>
    let (p, client) :=
      w.client.beginPending (tasks i).kind (tasks i).scope (tasks i).patches now
    w.update client i p none
  | some p =>
    match (tasks i).ending.settle p w.store w.client.dependencies now with
    | (.ok x, p, store) => w.update { w.client with store } i p (some x)
    | (.error _, p, store) => w.update { w.client with store } i p (w.settlement? i)

/-- The workload after some turns. -/
def run (tasks : ι → Task) (w : Workload ι) (turns : List (ι × Int)) : Workload ι :=
  turns.foldl (turn tasks) w

/-- The turns of mutations that run one after the other, each at its two times. -/
def serial (order : List ι) (times : ι → Int × Int) : List (ι × Int) :=
  order.flatMap fun i => [(i, (times i).1), (i, (times i).2)]

end Workload

namespace Task

/-- What is left of a mutation after some of its two turns. -/
def At (t : Task) (c : Client) (s : Store) (mutation? : Option PendingMutation)
    (settlement? : Option Settlement) : Nat → Prop
  | 0 => mutation? = none ∧ settlement? = none ∧
    ∀ k ∈ t.footprint c.dependencies, s.entryAt? k = c.store.entryAt? k
  | 1 => settlement? = none ∧ ∃ p, mutation? = some p ∧ t.Waits c p s
  | _ => ∃ p x, mutation? = some p ∧ settlement? = some x ∧
    Agree (t.footprint c.dependencies) (.ok x, p, s) (t.aloneSettled c)

variable {t : Task} {c : Client} {s s' : Store} {mutation? : Option PendingMutation}
  {settlement? : Option Settlement} {n : Nat}

/-- Only the footprint matters. -/
theorem At.congr (h : t.At c s mutation? settlement? n)
    (hs : ∀ k ∈ t.footprint c.dependencies, s'.entryAt? k = s.entryAt? k) :
    t.At c s' mutation? settlement? n := by
  match n, h with
  | 0, ⟨hmutation, hsettlement, hsame⟩ =>
    exact ⟨hmutation, hsettlement, fun k hk => (hs k hk).trans (hsame k hk)⟩
  | 1, ⟨hsettlement, p, hmutation, hwaits⟩ => exact ⟨hsettlement, p, hmutation, hwaits.congr hs⟩
  | n + 2, ⟨p, x, hmutation, hsettlement, hagree⟩ =>
    refine ⟨p, x, hmutation, hsettlement, hagree.report, ?_, ?_⟩
    · intro k hk
      rw [← hagree.peek k hk]
      exact Store.peek_of_entryAt? (hs k hk)
    · intro k hk
      rw [← hagree.stale k hk]
      exact Store.staleBit_of_entryAt? (hs k hk)

end Task

namespace Workload

variable {ι : Type} [DecidableEq ι]

/-- A workload in which each mutation has had some of its turns. -/
structure Follows (tasks : ι → Task) (c : Client) (turns : ι → Nat) (w : Workload ι) : Prop where
  dependencies : w.client.dependencies = c.dependencies
  drawn : c.nextPlaceholder ≤ w.client.nextPlaceholder
  subscribed : ∀ k, w.store.subscriberCount k = c.store.subscriberCount k
  scheduled : ∀ k, w.store.isScheduled k = true ↔
    c.store.isScheduled k = true ∨ ∃ i, turns i = 2 ∧ (tasks i).Schedules c k
  /-- What is on no footprint is as it was. -/
  outside : ∀ k, (∀ i, k ∉ (tasks i).footprint c.dependencies) →
    w.store.entryAt? k = c.store.entryAt? k
  task : ∀ i, (tasks i).At c w.store (w.mutation? i) (w.settlement? i) (turns i)

variable {tasks : ι → Task} {c : Client} {turns : ι → Nat} {w : Workload ι}

omit [DecidableEq ι] in
theorem follows_ofClient (tasks : ι → Task) (c : Client) :
    (ofClient c).Follows tasks c fun _ => 0 := by
  refine ⟨rfl, Nat.le_refl _, fun _ => rfl, ?_, fun _ _ => rfl, fun _ => ⟨rfl, rfl, fun _ _ => rfl⟩⟩
  intro k
  simp [ofClient, store]

/-- A turn of one mutation: it touches its own footprint only, and schedules keys when it is its
second one. -/
theorem Follows.advance (h : w.Follows tasks c turns)
    (hdisjoint : ∀ i j, i ≠ j → ∀ k ∈ (tasks i).footprint c.dependencies,
      k ∉ (tasks j).footprint c.dependencies)
    {w' : Workload ι} {i : ι} {n : Nat} (hturns : turns i ≠ 2)
    (hdependencies : w'.client.dependencies = w.client.dependencies)
    (hdrawn : w.client.nextPlaceholder ≤ w'.client.nextPlaceholder)
    (hsubscribed : ∀ k, w'.store.subscriberCount k = w.store.subscriberCount k)
    (hscheduled : ∀ k, w'.store.isScheduled k = true ↔
      w.store.isScheduled k = true ∨ n = 2 ∧ (tasks i).Schedules c k)
    (hframe : ∀ k, k ∉ (tasks i).footprint c.dependencies → w'.store.entryAt? k = w.store.entryAt? k)
    (hothers : ∀ j, j ≠ i → w'.mutation? j = w.mutation? j ∧ w'.settlement? j = w.settlement? j)
    (hi : (tasks i).At c w'.store (w'.mutation? i) (w'.settlement? i) n) :
    w'.Follows tasks c fun j => if j = i then n else turns j := by
  constructor
  · exact hdependencies.trans h.dependencies
  · exact Nat.le_trans h.drawn hdrawn
  · exact fun k => (hsubscribed k).trans (h.subscribed k)
  · intro k
    rw [hscheduled, h.scheduled]
    constructor
    · rintro ((hinitial | ⟨j, hj, hschedules⟩) | ⟨rfl, hschedules⟩)
      · exact Or.inl hinitial
      · have hji : j ≠ i := fun hji => hturns (hji ▸ hj)
        exact Or.inr ⟨j, by rw [if_neg hji, hj], hschedules⟩
      · exact Or.inr ⟨i, if_pos rfl, hschedules⟩
    · rintro (hinitial | ⟨j, hj, hschedules⟩)
      · exact Or.inl (Or.inl hinitial)
      · by_cases hji : j = i
        · subst hji
          rw [if_pos rfl] at hj
          exact Or.inr ⟨hj, hschedules⟩
        · rw [if_neg hji] at hj
          exact Or.inl (Or.inr ⟨j, hj, hschedules⟩)
  · intro k hk
    rw [hframe k (hk i), h.outside k hk]
  · intro j
    by_cases hji : j = i
    · subst hji
      rw [if_pos rfl]
      exact hi
    · rcases hothers j hji with ⟨hmutation, hsettlement⟩
      rw [if_neg hji, hmutation, hsettlement]
      exact (h.task j).congr fun k hk => hframe k (hdisjoint j i hji k hk)

section Turns

variable (hc : c.store.Unmarked) (hsound : ∀ i, (tasks i).Sound c.nextPlaceholder)
  (hdisjoint : ∀ i j, i ≠ j → ∀ k ∈ (tasks i).footprint c.dependencies,
    k ∉ (tasks j).footprint c.dependencies)

include hc hsound hdisjoint

/-- A mutation begins at its first turn. -/
theorem follows_begin (h : w.Follows tasks c turns) {i : ι} (hi : turns i = 0) (now : Int) :
    (turn tasks w (i, now)).Follows tasks c fun j => if j = i then 1 else turns j := by
  have htask := h.task i
  rw [hi] at htask
  rcases htask with ⟨hmutation, _, hsame⟩
  let l := (tasks i).launch w.client now
  have hturn : turn tasks w (i, now) =
      w.update (w.client.beginPending (tasks i).kind (tasks i).scope (tasks i).patches now).2 i
        (l.pending w.store) none := by
    simp only [turn, hmutation]
    rfl
  have hagenda : (l.store w.store).agenda = w.store.agenda := Launch.agenda_store l w.store
  rw [hturn]
  apply h.advance hdisjoint
  · rw [hi]
    decide
  · rfl
  · exact Provisional.nextPlaceholder_le_begin w.store _ l.id (tasks i).patches now
  · intro k
    change (l.store w.store).subscriberCount k = _
    rw [← Store.subscriberCount_agenda, hagenda, Store.subscriberCount_agenda]
  · intro k
    change (l.store w.store).isScheduled k = true ↔ _
    rw [← Store.isScheduled_agenda, hagenda, Store.isScheduled_agenda]
    simp
  · exact fun k hk => Task.entryAt?_begin hk w.client now
  · exact fun j hj => ⟨if_neg hj, if_neg hj⟩
  · exact ⟨if_pos rfl, _, if_pos rfl, Task.waits_begin hc (hsound i) h.drawn hsame now⟩

/-- A mutation settles at its second turn. -/
theorem follows_settle (h : w.Follows tasks c turns) {i : ι} (hi : turns i = 1) (now : Int) :
    (turn tasks w (i, now)).Follows tasks c fun j => if j = i then 2 else turns j := by
  have htask := h.task i
  rw [hi] at htask
  rcases htask with ⟨_, p, hmutation, hwaits⟩
  let o := (tasks i).ending.settle p w.store c.dependencies now
  have hagree : Task.Agree ((tasks i).footprint c.dependencies) o ((tasks i).aloneSettled c) :=
    hwaits.settle hc (hsound i) h.subscribed now
  rcases hagree.report with ⟨x, x', hx, hx', hreport⟩
  have hturn : turn tasks w (i, now) = w.update { w.client with store := o.2.2 } i o.2.1 (some x) := by
    have ho : (tasks i).ending.settle p w.store w.client.dependencies now = (.ok x, o.2) := by
      rw [h.dependencies, ← hx]
    simp only [turn, hmutation, ho]
  rw [hturn]
  apply h.advance hdisjoint
  · rw [hi]
    decide
  · rfl
  · exact Nat.le_refl _
  · exact hwaits.subscriberCount_settle now
  · intro k
    exact (hwaits.isScheduled_settle h.subscribed now k).trans (by simp)
  · exact fun k hk => hwaits.entryAt?_settle hk now
  · exact fun j hj => ⟨if_neg hj, if_neg hj⟩
  · exact ⟨o.2.1, x, if_pos rfl, if_pos rfl, ⟨x, x', rfl, hx', hreport⟩, hagree.peek, hagree.stale⟩

/-- One turn of a mutation that has not had both of its turns. -/
theorem follows_turn (h : w.Follows tasks c turns) {i : ι} (hi : turns i < 2) (now : Int) :
    (turn tasks w (i, now)).Follows tasks c fun j => if j = i then turns i + 1 else turns j := by
  match hn : turns i with
  | 0 => exact follows_begin hc hsound hdisjoint h hn now
  | 1 => exact follows_settle hc hsound hdisjoint h hn now
  | n + 2 => omega

/-- A run in which no mutation has more than its two turns. -/
theorem follows_run (h : w.Follows tasks c turns) (schedule : List (ι × Int))
    (hschedule : ∀ i, turns i + (schedule.map Prod.fst).count i ≤ 2) :
    (w.run tasks schedule).Follows tasks c fun i =>
      turns i + (schedule.map Prod.fst).count i := by
  induction schedule generalizing w turns with
  | nil => exact h
  | cons step rest ih =>
    obtain ⟨i, now⟩ := step
    have hcount : ∀ j, turns j + (((i, now) :: rest).map Prod.fst).count j =
        (if j = i then turns i + 1 else turns j) + (rest.map Prod.fst).count j := by
      intro j
      rw [List.map_cons, List.count_cons]
      by_cases hj : j = i
      · subst hj
        simp
        omega
      · simp [hj, Ne.symm hj]
    have hi : turns i < 2 := by
      have hle := hschedule i
      rw [hcount i, if_pos rfl] at hle
      omega
    have hrest := ih (follows_turn hc hsound hdisjoint h hi now) fun j => hcount j ▸ hschedule j
    simp only [hcount]
    exact hrest

/-- After a schedule that gives every mutation its two turns, everything has settled. -/
theorem follows_complete {schedule : List (ι × Int)}
    (hschedule : ∀ i, (schedule.map Prod.fst).count i = 2) :
    ((ofClient c).run tasks schedule).Follows tasks c fun _ => 2 := by
  have hrun := follows_run hc hsound hdisjoint (follows_ofClient tasks c) schedule
    fun i => by simp [hschedule i]
  simpa only [hschedule] using hrun

end Turns

/-! ## Two runs -/

omit [DecidableEq ι] in
/-- What was scheduled and settled in two complete runs is the same. -/
theorem Follows.outcome {w w' : Workload ι} (h : w.Follows tasks c fun _ => 2)
    (h' : w'.Follows tasks c fun _ => 2) :
    (∀ k, w.store.peek k = w'.store.peek k ∧ w.store.staleBit k = w'.store.staleBit k ∧
      w.store.isScheduled k = w'.store.isScheduled k) ∧
    ∀ i, ∃ x x', w.settlement? i = some x ∧ w'.settlement? i = some x' ∧ x.Agrees x' := by
  constructor
  · intro k
    have hscheduled : w.store.isScheduled k = w'.store.isScheduled k := by
      rw [Bool.eq_iff_iff, h.scheduled, h'.scheduled]
    by_cases hk : ∃ i, k ∈ (tasks i).footprint c.dependencies
    · rcases hk with ⟨i, hi⟩
      rcases h.task i with ⟨p, x, _, _, hagree⟩
      rcases h'.task i with ⟨p', x', _, _, hagree'⟩
      exact ⟨(hagree.peek k hi).trans (hagree'.peek k hi).symm,
        (hagree.stale k hi).trans (hagree'.stale k hi).symm, hscheduled⟩
    · have houtside : ∀ i, k ∉ (tasks i).footprint c.dependencies := fun i hi => hk ⟨i, hi⟩
      have hentry : w.store.entryAt? k = w'.store.entryAt? k :=
        (h.outside k houtside).trans (h'.outside k houtside).symm
      exact ⟨Store.peek_of_entryAt? hentry, Store.staleBit_of_entryAt? hentry, hscheduled⟩
  · intro i
    rcases h.task i with ⟨p, x, _, hx, hagree⟩
    rcases h'.task i with ⟨p', x', _, hx', hagree'⟩
    rcases hagree.report with ⟨_, y, hsame, hy, hreport⟩
    rcases hagree'.report with ⟨_, y', hsame', hy', hreport'⟩
    cases hsame
    cases hsame'
    obtain rfl : y = y' := Except.ok.inj (hy.symm.trans hy')
    exact ⟨x, x', hx, hx', hreport.1.trans hreport'.1.symm, hreport.2.1.trans hreport'.2.1.symm,
      hreport.2.2.trans hreport'.2.2.symm⟩

/-- In a serial run every mutation has its two turns. -/
theorem count_serial {order : List ι} (horder : order.Nodup) {i : ι} (hi : i ∈ order)
    (times : ι → Int × Int) : ((serial order times).map Prod.fst).count i = 2 := by
  have hdouble : ∀ order : List ι,
      ((serial order times).map Prod.fst).count i = 2 * order.count i := by
    intro order
    induction order with
    | nil => rfl
    | cons j rest ih =>
      unfold serial at ih ⊢
      rw [List.flatMap_cons, List.map_append, List.count_append, ih, List.count_cons]
      by_cases hj : j = i
      · simp [hj]
        omega
      · simp [hj]
  rw [hdouble, horder.count, if_pos hi]

/-- Mutations with disjoint footprints take turns on a client whose store holds nothing
provisional, in any mix of turns in which each of them begins and later settles.  All keys end
with the values, the stale bits and the scheduled refetches that any serial run ends with, and
each mutation reports the same as there. -/
theorem run_eq_serial (tasks : ι → Task) (c : Client) (hc : c.store.Unmarked)
    (hsound : ∀ i, (tasks i).Sound c.nextPlaceholder)
    (hdisjoint : ∀ i j, i ≠ j → ∀ k ∈ (tasks i).footprint c.dependencies,
      k ∉ (tasks j).footprint c.dependencies)
    (schedule : List (ι × Int)) (hschedule : ∀ i, (schedule.map Prod.fst).count i = 2)
    (order : List ι) (hnodup : order.Nodup) (hall : ∀ i, i ∈ order) (times : ι → Int × Int) :
    let mixed := (ofClient c).run tasks schedule
    let ordered := (ofClient c).run tasks (serial order times)
    (∀ k, mixed.store.peek k = ordered.store.peek k ∧
      mixed.store.staleBit k = ordered.store.staleBit k ∧
      mixed.store.isScheduled k = ordered.store.isScheduled k) ∧
    ∀ i, ∃ x x', mixed.settlement? i = some x ∧ ordered.settlement? i = some x' ∧ x.Agrees x' := by
  intro mixed ordered
  have hmixed : mixed.Follows tasks c fun _ => 2 :=
    follows_complete hc hsound hdisjoint hschedule
  have hordered : ordered.Follows tasks c fun _ => 2 :=
    follows_complete hc hsound hdisjoint fun i => count_serial hnodup (hall i) times
  exact hmixed.outcome hordered

/-- A comment and a post are created at the same time.  The post is refused while the request for
the comment is out. -/
theorem run_eq_serial_crossed :
    let c : Client := { store := Store.empty none }
    let tasks : Bool → Task
      | true => ⟨.createComment, Scope.ofProject "p1" none, [(.comments "p1", .prepend .null)],
          .commit (some (Item.new "c1" .null))⟩
      | false => ⟨.createChainPost, Scope.ofChain "h1" none, [(.chainPosts "h1", .prepend .null)],
          .rollback⟩
    let schedule : List (Bool × Int) := [(true, 1), (false, 2), (false, 3), (true, 4)]
    let times : Bool → Int × Int := fun _ => (5, 6)
    let mixed := (ofClient c).run tasks schedule
    let ordered := (ofClient c).run tasks (serial [false, true] times)
    c.store.Unmarked ∧ (∀ i, (tasks i).Sound c.nextPlaceholder) ∧
      (∀ i j, i ≠ j → ∀ k ∈ (tasks i).footprint c.dependencies,
        k ∉ (tasks j).footprint c.dependencies) ∧
      (∀ i, (schedule.map Prod.fst).count i = 2) ∧
      ∀ k, mixed.store.peek k = ordered.store.peek k := by
  intro c tasks schedule times mixed ordered
  have hc : c.store.Unmarked := Store.unmarked_empty none
  have hsound : ∀ i, (tasks i).Sound c.nextPlaceholder := by
    intro i
    cases i with
    | true =>
      have hname : Item.NotDrawn 1 "c1" :=
        Item.notDrawn_of_not_isPlaceholder (show (Item.new "c1" .null).isPlaceholder = false by decide) 1
      refine ⟨?_, ?_⟩
      · rintro s ⟨⟩
        rfl
      · rintro id (⟨q, hq, hid⟩ | ⟨s, ⟨⟩, rfl⟩)
        · obtain rfl := List.mem_singleton.mp hq
          cases hid
        · exact hname
    | false =>
      refine ⟨?_, ?_⟩
      · rintro s ⟨⟩
      · rintro id (⟨q, hq, hid⟩ | ⟨s, ⟨⟩, _⟩)
        obtain rfl := List.mem_singleton.mp hq
        cases hid
  have hdisjoint : ∀ i j, i ≠ j → ∀ k ∈ (tasks i).footprint c.dependencies,
      k ∉ (tasks j).footprint c.dependencies := by
    decide
  have hschedule : ∀ i, (schedule.map Prod.fst).count i = 2 := by decide
  refine ⟨hc, hsound, hdisjoint, hschedule, ?_⟩
  intro k
  exact ((run_eq_serial tasks c hc hsound hdisjoint schedule hschedule [false, true] (by decide)
    (by decide) times).1 k).1

end Workload
end OptimisticCache
