import OptimisticCache.Store
/-!
# Subscriptions

A subscription expresses interest in one key: while it lives, stale accesses of
the key schedule refetches, and it receives the events of the key.  A reader
that falls behind loses the oldest events: only the latest ones of the whole
store are kept for it.

A reader looks at one event at a time.  It passes over the events of other keys, and a
reader that fell behind is moved to the oldest event that is kept before it looks on.

Main results:

- Theorem {lit}`Subscription.yields_nextEvent`: the next event is the first of the key
  among those that wait.
- Theorem {lit}`Subscription.drain_eq`: a drain receives the events of the key that
  wait.
-/

namespace OptimisticCache

/-- Active interest in one key. -/
structure Subscription where
  key : QueryKey
  /-- The number of events that were published before the first unread one. -/
  seen : Nat
deriving DecidableEq

namespace Store

/-- Set the number of live subscriptions of a key. -/
def setSubscribers (s : Store) (k : QueryKey) (n : Nat) : Store :=
  { s with subscribers := Table.insert k n s.subscribers }

/-- Open a subscription. -/
def subscribe (s : Store) (k : QueryKey) : Subscription × Store :=
  (⟨k, s.events.length⟩, s.setSubscribers k (s.subscriberCount k + 1))

/-- Drop a subscription. -/
def unsubscribe (s : Store) (sub : Subscription) : Store :=
  s.setSubscribers sub.key (s.subscriberCount sub.key - 1)

@[simp]
theorem entryAt?_subscribe (s : Store) (k k' : QueryKey) :
    (s.subscribe k).2.entryAt? k' = s.entryAt? k' :=
  rfl

@[simp]
theorem entryAt?_unsubscribe (s : Store) (sub : Subscription) (k : QueryKey) :
    (s.unsubscribe sub).entryAt? k = s.entryAt? k :=
  rfl

/-- The count of one key is set, those of the others stay. -/
theorem subscriberCount_setSubscribers (s : Store) (k k' : QueryKey) (n : Nat) :
    (s.setSubscribers k n).subscriberCount k' = if k' = k then n else s.subscriberCount k' := by
  unfold subscriberCount setSubscribers
  rw [Table.get?_insert]
  split <;> rfl

/-- Opening a subscription adds one to the count of its key. -/
theorem subscriberCount_subscribe (s : Store) (k k' : QueryKey) :
    (s.subscribe k).2.subscriberCount k' =
      if k' = k then s.subscriberCount k + 1 else s.subscriberCount k' :=
  subscriberCount_setSubscribers s k k' _

/-- Dropping a subscription takes one from the count of its key. -/
theorem subscriberCount_unsubscribe (s : Store) (sub : Subscription) (k : QueryKey) :
    (s.unsubscribe sub).subscriberCount k =
      if k = sub.key then s.subscriberCount sub.key - 1 else s.subscriberCount k :=
  subscriberCount_setSubscribers s sub.key k _

end Store

/-- What a reader finds when it looks once. -/
inductive Reception where
  | event (e : CacheEvent)
  /-- The reader fell behind, and so many events are lost to it. -/
  | lagged (skipped : Nat)
  /-- Nothing waits. -/
  | empty
deriving DecidableEq

namespace Subscription

/-! ## Receiving -/

/-- How many of the latest events are kept for readers that fall behind. -/
def capacity : Nat :=
  256

/-- The position of the oldest event that is kept, counted from the first one ever published. -/
def oldest (events : List CacheEvent) : Nat :=
  events.length - capacity

/-- Look once.  A reader that fell behind is told so, and moves to the oldest event that is
kept. -/
def receive (sub : Subscription) (events : List CacheEvent) : Reception × Subscription :=
  if sub.seen + capacity < events.length then
    (.lagged (oldest events - sub.seen), { sub with seen := oldest events })
  else
    match events.reverse[sub.seen]? with
    | some e => (.event e, { sub with seen := sub.seen + 1 })
    | none => (.empty, sub)

variable {sub next : Subscription} {events : List CacheEvent} {e : CacheEvent}

/-- What a look comes to: the reader is moved past the lost events, or past the event that it gets,
or nothing waits for it. -/
inductive Looks (sub : Subscription) (events : List CacheEvent) : Reception × Subscription → Prop
  | lagged (h : sub.seen < oldest events) :
      Looks sub events (.lagged (oldest events - sub.seen), { sub with seen := oldest events })
  | event (hkept : oldest events ≤ sub.seen) (h : sub.seen < events.reverse.length) :
      Looks sub events (.event events.reverse[sub.seen], { sub with seen := sub.seen + 1 })
  | empty (h : events.length ≤ sub.seen) : Looks sub events (.empty, sub)

/-- A reception is a look at the events. -/
theorem looks_receive (sub : Subscription) (events : List CacheEvent) :
    sub.Looks events (sub.receive events) := by
  unfold receive
  by_cases hlag : sub.seen + capacity < events.length
  · rw [if_pos hlag]
    exact .lagged (Nat.lt_sub_of_add_lt hlag)
  · rw [if_neg hlag]
    by_cases hseen : sub.seen < events.reverse.length
    · rw [List.getElem?_eq_getElem hseen]
      exact .event (Nat.sub_le_of_le_add (Nat.le_of_not_lt hlag)) hseen
    · rw [List.getElem?_eq_none (Nat.le_of_not_lt hseen)]
      rw [List.length_reverse] at hseen
      exact .empty (Nat.le_of_not_lt hseen)

/-- Whatever a reception gave was found by a look. -/
theorem looks_of_receive {r : Reception × Subscription} (h : sub.receive events = r) :
    sub.Looks events r :=
  h ▸ looks_receive sub events

/-- Unless nothing waits, a look takes the reader on. -/
theorem seen_receive {r : Reception} (h : sub.receive events = (r, next)) (hr : r ≠ .empty) :
    sub.seen < next.seen ∧ next.seen ≤ events.length := by
  cases looks_of_receive h with
  | lagged hlag => exact ⟨hlag, Nat.sub_le _ _⟩
  | event _ hseen =>
    rw [List.length_reverse] at hseen
    exact ⟨Nat.lt_succ_self _, hseen⟩
  | empty _ => exact absurd rfl hr

/-- The next event of the key, if one waits.  Events of other keys and the news of lost events are
passed over. -/
def nextEvent (sub : Subscription) (events : List CacheEvent) : Option CacheEvent × Subscription :=
  match _h : sub.receive events with
  | (.event e, next) => if e.key = sub.key then (some e, next) else next.nextEvent events
  | (.lagged _, next) => next.nextEvent events
  | (.empty, next) => (none, next)
termination_by events.length - sub.seen
decreasing_by
  · have hseen := seen_receive _h nofun
    exact Nat.sub_lt_sub_left (Nat.lt_of_lt_of_le hseen.1 hseen.2) hseen.1
  · have hseen := seen_receive _h nofun
    exact Nat.sub_lt_sub_left (Nat.lt_of_lt_of_le hseen.1 hseen.2) hseen.1

/-- The events that wait for the subscription, the oldest first: those published since it
last looked, of which only the latest are kept. -/
def waiting (sub : Subscription) (events : List CacheEvent) : List CacheEvent :=
  events.reverse.drop (max sub.seen (oldest events))

/-- The subscription once nothing waits for it. -/
def caughtUp (sub : Subscription) (events : List CacheEvent) : Subscription :=
  { sub with seen := max sub.seen events.length }

/-- Once the reader has caught up nothing waits. -/
@[simp]
theorem waiting_caughtUp (sub : Subscription) (events : List CacheEvent) :
    (sub.caughtUp events).waiting events = [] := by
  apply List.drop_eq_nil_of_le
  simp only [List.length_reverse, caughtUp]
  omega

/-- A reader that fell behind has the kept events before it. -/
theorem waiting_of_lagged (h : sub.seen < oldest events) :
    sub.waiting events = { sub with seen := oldest events }.waiting events := by
  unfold waiting
  rw [Nat.max_eq_right (Nat.le_of_lt h), Nat.max_self]

/-- A reader that is not behind the kept events has the one at its position before it. -/
theorem waiting_of_seen (hkept : oldest events ≤ sub.seen) (h : sub.seen < events.reverse.length) :
    sub.waiting events =
      events.reverse[sub.seen] :: { sub with seen := sub.seen + 1 }.waiting events := by
  unfold waiting
  rw [Nat.max_eq_left hkept, Nat.max_eq_left (Nat.le_succ_of_le hkept)]
  exact List.drop_eq_getElem_cons h

/-- A reader at the end of the log has caught up. -/
theorem caughtUp_of_le (h : events.length ≤ sub.seen) : sub.caughtUp events = sub := by
  unfold caughtUp
  rw [Nat.max_eq_left h]

/-- A reader that is moved on, but not past the last event, has the same to catch up with. -/
theorem caughtUp_of_moved (hkey : next.key = sub.key) (hseen : sub.seen ≤ next.seen)
    (hle : next.seen ≤ events.length) : next.caughtUp events = sub.caughtUp events := by
  unfold caughtUp
  rw [hkey, Nat.max_eq_right hle, Nat.max_eq_right (Nat.le_trans hseen hle)]

/-- The events of the key that wait, the oldest first. -/
def wanted (sub : Subscription) (events : List CacheEvent) : List CacheEvent :=
  (sub.waiting events).filter fun e => e.key = sub.key

/-- A look at the events puts the one that it finds in front of those that wait still. -/
theorem wanted_of_event (h : sub.receive events = (.event e, next)) :
    next.key = sub.key ∧
      sub.wanted events = if e.key = sub.key then e :: next.wanted events else next.wanted events := by
  cases looks_of_receive h with
  | event hkept hseen =>
    refine ⟨rfl, ?_⟩
    unfold wanted
    rw [waiting_of_seen hkept hseen, List.filter_cons]
    simp

/-- Falling behind loses no event that is still kept. -/
theorem wanted_of_lagged {skipped : Nat} (h : sub.receive events = (.lagged skipped, next)) :
    next.key = sub.key ∧ sub.wanted events = next.wanted events := by
  cases looks_of_receive h with
  | lagged hlag =>
    refine ⟨rfl, ?_⟩
    unfold wanted
    rw [waiting_of_lagged hlag]

/-- If nothing is found, nothing of the key waits. -/
theorem wanted_of_empty (h : sub.receive events = (.empty, next)) :
    next = sub.caughtUp events ∧ sub.wanted events = [] := by
  cases looks_of_receive h with
  | empty hseen =>
    have hsame := caughtUp_of_le hseen
    refine ⟨hsame.symm, ?_⟩
    rw [wanted, ← hsame, waiting_caughtUp]
    rfl

/-- What a wait for the next event comes to: the first event that is wanted, where the others are
wanted still, or nothing at all. -/
inductive Yields (sub : Subscription) (events : List CacheEvent) :
    Option CacheEvent × Subscription → Prop
  | event {e : CacheEvent} {next : Subscription} (hseen : sub.seen < next.seen)
      (hle : next.seen ≤ events.length) (hkey : next.key = sub.key)
      (hwanted : sub.wanted events = e :: next.wanted events) : Yields sub events (some e, next)
  | nothing (h : sub.wanted events = []) : Yields sub events (none, sub.caughtUp events)

/-- A look that finds nothing for the key leaves everything to the looks after it. -/
theorem Yields.of_moved {r : Option CacheEvent × Subscription} (hseen : sub.seen < next.seen)
    (hle : next.seen ≤ events.length) (hkey : next.key = sub.key)
    (hwanted : sub.wanted events = next.wanted events) (h : next.Yields events r) :
    sub.Yields events r := by
  cases h with
  | event hseen' hle' hkey' hwanted' =>
    exact .event (Nat.lt_trans hseen hseen') hle' (hkey'.trans hkey) (hwanted.trans hwanted')
  | nothing h =>
    rw [caughtUp_of_moved hkey (Nat.le_of_lt hseen) hle]
    exact .nothing (hwanted.trans h)

/-- The next event is the first of the key among those that wait. -/
theorem yields_nextEvent (sub : Subscription) (events : List CacheEvent) :
    sub.Yields events (sub.nextEvent events) := by
  fun_induction nextEvent sub events with
  | case1 sub e next hlook hkey =>
    obtain ⟨hseen, hle⟩ := seen_receive hlook nofun
    obtain ⟨hsame, hwanted⟩ := wanted_of_event hlook
    rw [if_pos hkey] at hwanted
    exact .event hseen hle hsame hwanted
  | case2 sub e next hlook hkey ih =>
    obtain ⟨hseen, hle⟩ := seen_receive hlook nofun
    obtain ⟨hsame, hwanted⟩ := wanted_of_event hlook
    rw [if_neg hkey] at hwanted
    exact ih.of_moved hseen hle hsame hwanted
  | case3 sub skipped next hlook ih =>
    obtain ⟨hseen, hle⟩ := seen_receive hlook nofun
    obtain ⟨hsame, hwanted⟩ := wanted_of_lagged hlook
    exact ih.of_moved hseen hle hsame hwanted
  | case4 sub next hlook =>
    obtain ⟨rfl, hwanted⟩ := wanted_of_empty hlook
    exact .nothing hwanted

/-- Whatever the next event is, it was yielded by looks. -/
theorem yields_of_nextEvent {r : Option CacheEvent × Subscription}
    (h : sub.nextEvent events = r) : sub.Yields events r :=
  h ▸ yields_nextEvent sub events

/-- Every event takes the reader further, up to the end of the log at most. -/
theorem seen_nextEvent (h : sub.nextEvent events = (some e, next)) :
    sub.seen < next.seen ∧ next.seen ≤ events.length := by
  cases yields_of_nextEvent h with
  | event hseen hle _ _ => exact ⟨hseen, hle⟩

/-! ## Draining -/

/-- Receive events of the key until none waits. -/
def drain (sub : Subscription) (events : List CacheEvent) : List CacheEvent × Subscription :=
  match _h : sub.nextEvent events with
  | (some e, next) =>
    let rest := next.drain events
    (e :: rest.1, rest.2)
  | (none, next) => ([], next)
termination_by events.length - sub.seen
decreasing_by
  have hseen := seen_nextEvent _h
  exact Nat.sub_lt_sub_left (Nat.lt_of_lt_of_le hseen.1 hseen.2) hseen.1

/-- A drain receives the events of the key that wait, and then the reader has caught up. -/
theorem drain_eq (sub : Subscription) (events : List CacheEvent) :
    sub.drain events = (sub.wanted events, sub.caughtUp events) := by
  fun_induction drain sub events with
  | case1 sub e next hnext rest ih =>
    cases yields_of_nextEvent hnext with
    | event hseen hle hkey hwanted =>
      simp only [rest, ih]
      rw [hwanted, caughtUp_of_moved hkey (Nat.le_of_lt hseen) hle]
  | case2 sub next hnext =>
    cases yields_of_nextEvent hnext with
    | nothing hwanted => rw [hwanted]

end Subscription
end OptimisticCache
