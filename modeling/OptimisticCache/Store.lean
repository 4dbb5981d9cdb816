import OptimisticCache.Item
import OptimisticCache.Query.Key
/-!
# The store

The store holds one entry per query: its value, the instant it was stored, and
whether it is known to be stale.  It counts the subscriptions of each query,
remembers which queries are scheduled for a refetch, and publishes every change
as an event.

The refetch queue is separate from the set of scheduled queries: a query enters
the queue when it becomes scheduled, and leaves the set when it is stored anew or
when its refetch begins.

Main results:

- Theorems {lit}`Store.entryAt?_set` and {lit}`Store.entryAt?_remove`: what a write
  does to the entry of every key.
- Theorem {lit}`Store.entryAt?_invalidate`: an invalidation changes the stale bit
  of one entry and nothing else.
- Theorems {lit}`Store.agenda_replaceWith` and {lit}`Store.agenda_remove`: replacing
  and removing a value schedules nothing.
-/

namespace OptimisticCache

/-- A cached value and how fresh it is. -/
structure Entry where
  value : CacheValue
  /-- The instant of the last write, in milliseconds. -/
  updatedAt : Int
  stale : Bool
deriving DecidableEq

namespace Entry

/-- An entry written now. -/
def fresh (value : CacheValue) (now : Int) : Entry :=
  ⟨value, now, false⟩

/-- Whether an entry is old: it was written at least `limit` milliseconds ago.  An entry from
the future is never old. -/
def isOld (e : Entry) (limit : Option Nat) (now : Int) : Bool :=
  match limit with
  | some limit => 0 ≤ now - e.updatedAt && (limit : Int) ≤ now - e.updatedAt
  | none => false

/-- Whether an entry is stale: it was invalidated, or it is old. -/
def isStale (e : Entry) (limit : Option Nat) (now : Int) : Bool :=
  e.stale || e.isOld limit now

end Entry

/-- A published change. -/
inductive CacheEvent where
  | updated (key : QueryKey)
  | invalidated (key : QueryKey)
  | removed (key : QueryKey)
deriving DecidableEq

/-- The key that changed. -/
def CacheEvent.key : CacheEvent → QueryKey
  | updated k | invalidated k | removed k => k

/-- What an invalidation did. -/
inductive Invalidation where
  /-- Nothing was cached and nobody listened. -/
  | absent
  /-- The entry is stale and waits for the next access with a subscriber. -/
  | markedStale
  /-- Somebody listens, and a refetch is scheduled. -/
  | refetchScheduled
deriving DecidableEq

/-- Who reads the refetch queue. -/
inductive QueueReader where
  /-- Nobody has asked for it. -/
  | unclaimed
  /-- A worker reads it. -/
  | claimed
  /-- Its reader is gone, so keys are no longer queued. -/
  | gone
deriving DecidableEq

/-- The cache of queries. -/
structure Store where
  entries : List (QueryKey × Entry) := []
  /-- The number of live subscriptions of each key. -/
  subscribers : List (QueryKey × Nat) := []
  scheduled : List QueryKey := []
  /-- The keys that wait for a refetch, the first to be taken in front. -/
  queue : List QueryKey := []
  reader : QueueReader := .unclaimed
  /-- All events published so far, the latest in front. -/
  events : List CacheEvent := []
  /-- The age in milliseconds from which an entry counts as stale. -/
  staleTime : Option Nat := none
deriving DecidableEq

namespace Store

/-- The empty store. -/
def empty (staleTime : Option Nat) : Store :=
  { staleTime }

/-! ## Reading -/

/-- The entry of a key. -/
def entryAt? (s : Store) (k : QueryKey) : Option Entry :=
  Table.get? k s.entries

/-- The value of a key, without any effect. -/
def peek (s : Store) (k : QueryKey) : Option CacheValue :=
  (s.entryAt? k).map Entry.value

/-- Whether a key is cached. -/
def contains (s : Store) (k : QueryKey) : Bool :=
  (s.entryAt? k).isSome

/-- Whether a key is cached and stale. -/
def isStale (s : Store) (k : QueryKey) (now : Int) : Bool :=
  match s.entryAt? k with
  | some e => e.isStale s.staleTime now
  | none => false

/-- The number of live subscriptions of a key. -/
def subscriberCount (s : Store) (k : QueryKey) : Nat :=
  (Table.get? k s.subscribers).getD 0

/-- Whether a refetch of the key is scheduled. -/
def isScheduled (s : Store) (k : QueryKey) : Bool :=
  s.scheduled.contains k

/-- The scheduled keys in order. -/
def scheduledKeys (s : Store) : List QueryKey :=
  QueryKey.sorted s.scheduled

/-- The cached keys in order. -/
def keys (s : Store) : List QueryKey :=
  Table.keys s.entries

/-- The number of entries. -/
def size (s : Store) : Nat :=
  s.entries.length

/-- The cached values in order of their keys. -/
def dump (s : Store) : List (QueryKey × CacheValue) :=
  s.entries.map fun p => (p.1, p.2.value)

/-! ## Small steps -/

/-- Publish an event. -/
def publish (s : Store) (e : CacheEvent) : Store :=
  { s with events := e :: s.events }

/-- Put an entry under a key. -/
def putEntry (s : Store) (k : QueryKey) (e : Entry) : Store :=
  { s with entries := Table.insert k e s.entries }

/-- Schedule a refetch and queue the key, unless one is scheduled already. -/
def schedule (s : Store) (k : QueryKey) : Store :=
  if s.isScheduled k then s
  else
    { s with
      scheduled := k :: s.scheduled
      queue := if s.reader = .gone then s.queue else s.queue ++ [k] }

/-- Take a key off the scheduled set. -/
def completeRefetch (s : Store) (k : QueryKey) : Store :=
  { s with scheduled := s.scheduled.filter fun k' => k' ≠ k }

/-! ## Operations -/

/-- Read a value.  Reading a stale entry while somebody listens schedules a refetch. -/
def get (s : Store) (k : QueryKey) (now : Int) : Option CacheValue × Store :=
  match s.entryAt? k with
  | none => (none, s)
  | some e =>
    (some e.value,
      if e.isStale s.staleTime now && 0 < s.subscriberCount k then s.schedule k else s)

/-- Store a fresh value; a scheduled refetch of the key is satisfied. -/
def set (s : Store) (k : QueryKey) (v : CacheValue) (now : Int) : Store :=
  ((s.putEntry k (Entry.fresh v now)).completeRefetch k).publish (.updated k)

/-- Store the result of a refetch.  A key that was invalidated again meanwhile stays stale
and keeps its scheduled refetch. -/
def setFetched (s : Store) (k : QueryKey) (v : CacheValue) (now : Int) : Store :=
  (s.putEntry k ⟨v, now, s.isScheduled k⟩).publish (.updated k)

/-- Replace the value of a key by what `update` makes of it; none leaves the key untouched.
The stale bit is kept.  Answers the entry that was there before. -/
def replaceWith (s : Store) (k : QueryKey) (update : Option CacheValue → Option CacheValue)
    (now : Int) : Option Entry × Store :=
  let previous := s.entryAt? k
  match update (previous.map Entry.value) with
  | none => (previous, s)
  | some next =>
    let stale := (previous.map Entry.stale).getD false
    (previous, (s.putEntry k ⟨next, now, stale⟩).publish (.updated k))

/-- Put back an entry recorded earlier.  A key invalidated meanwhile stays stale. -/
def restoreEntry (s : Store) (k : QueryKey) (e : Entry) : Store :=
  let stale := ((s.entryAt? k).map Entry.stale).getD false
  (s.putEntry k { e with stale := e.stale || stale }).publish (.updated k)

/-- Take a key out. -/
def remove (s : Store) (k : QueryKey) : Option CacheValue × Store :=
  match s.entryAt? k with
  | none => (none, s)
  | some e =>
    (some e.value, { s with entries := Table.erase k s.entries }.publish (.removed k))

/-- Set the stale bit of an entry, if there is one. -/
def markStale (s : Store) (k : QueryKey) : Store :=
  match s.entryAt? k with
  | none => s
  | some e => s.putEntry k { e with stale := true }

/-- Mark a key stale.  If somebody listens, its refetch is scheduled right away. -/
def invalidate (s : Store) (k : QueryKey) : Invalidation × Store :=
  let marked := (s.markStale k).publish (.invalidated k)
  if 0 < s.subscriberCount k then (.refetchScheduled, marked.schedule k)
  else if s.contains k then (.markedStale, marked)
  else (.absent, marked)

/-- Hand the refetch queue to a reader; only the first caller gets it. -/
def claimQueue (s : Store) : Bool × Store :=
  match s.reader with
  | .unclaimed => (true, { s with reader := .claimed })
  | _ => (false, s)

/-- The reader of the refetch queue is gone, and with it the keys that wait. -/
def dropQueue (s : Store) : Store :=
  { s with reader := .gone, queue := [] }

/-- The next key of the refetch queue. -/
def takeQueued (s : Store) : Option (QueryKey × Store) :=
  match s.queue with
  | [] => none
  | k :: rest => some (k, { s with queue := rest })

/-! ## The view of the entries -/

/-- A key whose entry is the same has the same value. -/
theorem peek_of_entryAt? {s s' : Store} {k : QueryKey} (h : s'.entryAt? k = s.entryAt? k) :
    s'.peek k = s.peek k :=
  congrArg (Option.map Entry.value) h

@[simp]
theorem entryAt?_publish (s : Store) (e : CacheEvent) (k : QueryKey) :
    (s.publish e).entryAt? k = s.entryAt? k :=
  rfl

@[simp]
theorem entryAt?_schedule (s : Store) (k k' : QueryKey) : (s.schedule k).entryAt? k' = s.entryAt? k' := by
  unfold schedule
  split <;> rfl

@[simp]
theorem entryAt?_completeRefetch (s : Store) (k k' : QueryKey) :
    (s.completeRefetch k).entryAt? k' = s.entryAt? k' :=
  rfl

/-- Putting an entry changes what its key holds and nothing else. -/
theorem entryAt?_putEntry (s : Store) (k k' : QueryKey) (e : Entry) :
    (s.putEntry k e).entryAt? k' = if k' = k then some e else s.entryAt? k' :=
  Table.get?_insert k k' e s.entries

@[simp]
theorem entryAt?_get (s : Store) (k k' : QueryKey) (now : Int) :
    (s.get k now).2.entryAt? k' = s.entryAt? k' := by
  unfold get
  split
  · rfl
  · dsimp only
    split
    · exact entryAt?_schedule s k k'
    · rfl

/-- Storing a value makes the entry of the key fresh and keeps the others. -/
theorem entryAt?_set (s : Store) (k k' : QueryKey) (v : CacheValue) (now : Int) :
    (s.set k v now).entryAt? k' = if k' = k then some (Entry.fresh v now) else s.entryAt? k' :=
  entryAt?_putEntry s k k' _

/-- A fetched value is fresh, unless another refetch of the key is scheduled by then. -/
theorem entryAt?_setFetched (s : Store) (k k' : QueryKey) (v : CacheValue) (now : Int) :
    (s.setFetched k v now).entryAt? k' =
      if k' = k then some ⟨v, now, s.isScheduled k⟩ else s.entryAt? k' :=
  entryAt?_putEntry s k k' _

/-- A restored entry is stale if it was recorded so, or if the present entry is. -/
theorem entryAt?_restoreEntry (s : Store) (k k' : QueryKey) (e : Entry) :
    (s.restoreEntry k e).entryAt? k' =
      if k' = k then
        some { e with stale := e.stale || ((s.entryAt? k).map Entry.stale).getD false }
      else s.entryAt? k' :=
  entryAt?_putEntry s k k' _

/-- Replacing a value gives back the entry from before. -/
@[simp]
theorem replaceWith_previous (s : Store) (k : QueryKey)
    (update : Option CacheValue → Option CacheValue) (now : Int) :
    (s.replaceWith k update now).1 = s.entryAt? k := by
  unfold replaceWith
  dsimp only
  split <;> rfl

/-- A replaced value keeps its stale bit and is published; without a new value nothing happens. -/
theorem replaceWith_store (s : Store) (k : QueryKey)
    (update : Option CacheValue → Option CacheValue) (now : Int) :
    (s.replaceWith k update now).2 =
      match update (s.peek k) with
      | some v =>
        (s.putEntry k ⟨v, now, ((s.entryAt? k).map Entry.stale).getD false⟩).publish (.updated k)
      | none => s := by
  unfold replaceWith peek
  dsimp only
  cases update ((s.entryAt? k).map Entry.value) <;> rfl

/-- A replacement writes one entry, and none if the key is left untouched. -/
theorem entryAt?_replaceWith (s : Store) (k k' : QueryKey)
    (update : Option CacheValue → Option CacheValue) (now : Int) :
    (s.replaceWith k update now).2.entryAt? k' =
      if k' = k then
        match update (s.peek k) with
        | some v => some ⟨v, now, ((s.entryAt? k).map Entry.stale).getD false⟩
        | none => s.entryAt? k
      else s.entryAt? k' := by
  rw [replaceWith_store]
  cases update (s.peek k) with
  | some v => exact entryAt?_putEntry s k k' _
  | none =>
    by_cases h : k' = k
    · simp [h]
    · simp [h]

/-- A replacement leaves the new value, or the old one if the key is left untouched. -/
theorem peek_replaceWith_self (s : Store) (k : QueryKey)
    (update : Option CacheValue → Option CacheValue) (now : Int) :
    (s.replaceWith k update now).2.peek k = (update (s.peek k)).or (s.peek k) := by
  unfold peek
  rw [entryAt?_replaceWith, if_pos rfl]
  unfold peek
  cases update ((s.entryAt? k).map Entry.value) <;> rfl

/-- Replacing a value leaves the other keys alone. -/
theorem entryAt?_replaceWith_of_ne {k k' : QueryKey} (h : k' ≠ k) (s : Store)
    (update : Option CacheValue → Option CacheValue) (now : Int) :
    (s.replaceWith k update now).2.entryAt? k' = s.entryAt? k' := by
  rw [entryAt?_replaceWith, if_neg h]

/-- Other keys show the same value as before. -/
theorem peek_replaceWith_of_ne {k k' : QueryKey} (h : k' ≠ k) (s : Store)
    (update : Option CacheValue → Option CacheValue) (now : Int) :
    (s.replaceWith k update now).2.peek k' = s.peek k' :=
  peek_of_entryAt? (entryAt?_replaceWith_of_ne h s update now)

/-- Taking a key out removes its entry and keeps the others. -/
theorem entryAt?_remove (s : Store) (k k' : QueryKey) :
    (s.remove k).2.entryAt? k' = if k' = k then none else s.entryAt? k' := by
  unfold remove
  split
  · rename_i hnone
    dsimp only
    split
    · rename_i h
      rw [h, hnone]
    · rfl
  · exact Table.get?_erase k k' s.entries

/-- Marking a key stale changes no value and no other key. -/
theorem entryAt?_markStale (s : Store) (k k' : QueryKey) :
    (s.markStale k).entryAt? k' =
      if k' = k then (s.entryAt? k).map (fun e => { e with stale := true }) else s.entryAt? k' := by
  unfold markStale
  split
  · rename_i hnone
    split
    · rename_i h
      rw [h, hnone]
      rfl
    · rfl
  · rename_i e he
    rw [entryAt?_putEntry, he]
    rfl

/-- An invalidation changes the stale bit of one entry and nothing else. -/
theorem entryAt?_invalidate (s : Store) (k k' : QueryKey) :
    (s.invalidate k).2.entryAt? k' =
      if k' = k then (s.entryAt? k).map (fun e => { e with stale := true }) else s.entryAt? k' := by
  have h : ((s.markStale k).publish (.invalidated k)).entryAt? k' =
      if k' = k then (s.entryAt? k).map (fun e => { e with stale := true }) else s.entryAt? k' :=
    entryAt?_markStale s k k'
  unfold invalidate
  dsimp only
  split
  · rw [entryAt?_schedule]
    exact h
  · split <;> exact h

/-! ## The agenda of refetches -/

/-- A store without its entries and its events: the scheduled keys, the queue and its reader, and
the subscriptions. -/
def agenda (s : Store) : Store :=
  { s with entries := [], events := [] }

@[simp]
theorem scheduled_agenda (s : Store) : s.agenda.scheduled = s.scheduled :=
  rfl

@[simp]
theorem queue_agenda (s : Store) : s.agenda.queue = s.queue :=
  rfl

@[simp]
theorem reader_agenda (s : Store) : s.agenda.reader = s.reader :=
  rfl

@[simp]
theorem isScheduled_agenda (s : Store) (k : QueryKey) : s.agenda.isScheduled k = s.isScheduled k :=
  rfl

@[simp]
theorem subscriberCount_agenda (s : Store) (k : QueryKey) :
    s.agenda.subscriberCount k = s.subscriberCount k :=
  rfl

/-- Publishing an event leaves the agenda alone. -/
@[simp]
theorem agenda_publish (s : Store) (e : CacheEvent) : (s.publish e).agenda = s.agenda :=
  rfl

/-- So does storing a fetched value: the slot of the key was freed before its fetch. -/
@[simp]
theorem agenda_setFetched (s : Store) (k : QueryKey) (v : CacheValue) (now : Int) :
    (s.setFetched k v now).agenda = s.agenda :=
  rfl

/-- Restoring an entry schedules nothing and takes nothing off the queue. -/
@[simp]
theorem agenda_restoreEntry (s : Store) (k : QueryKey) (e : Entry) :
    (s.restoreEntry k e).agenda = s.agenda :=
  rfl

/-- A key is marked stale apart from being scheduled. -/
@[simp]
theorem agenda_markStale (s : Store) (k : QueryKey) : (s.markStale k).agenda = s.agenda := by
  unfold markStale
  split <;> rfl

/-- Replacing a value leaves the agenda alone. -/
@[simp]
theorem agenda_replaceWith (s : Store) (k : QueryKey)
    (update : Option CacheValue → Option CacheValue) (now : Int) :
    (s.replaceWith k update now).2.agenda = s.agenda := by
  rw [replaceWith_store]
  split <;> rfl

/-- A removed key may still wait for its refetch. -/
@[simp]
theorem agenda_remove (s : Store) (k : QueryKey) : (s.remove k).2.agenda = s.agenda := by
  unfold remove
  split <;> rfl

end Store
end OptimisticCache
