import OptimisticCache.Error
import OptimisticCache.Store
/-!
# The refetch worker

A worker takes keys from the refetch queue one at a time.  A key that nobody
subscribes to any more is passed over.  Otherwise the slot of the key is freed
before its fetch goes out, so that an invalidation that comes in meanwhile
schedules another round; the result is then stored, and a failed fetch leaves the
stale entry in place.
-/

namespace OptimisticCache
namespace Worker

/-- What a worker is doing. -/
inductive Phase where
  /-- It waits for a key. -/
  | idle
  /-- It has taken a key whose slot is not freed yet. -/
  | holding (key : QueryKey)
  /-- The fetch of a key is out. -/
  | fetching (key : QueryKey)
deriving DecidableEq

end Worker

/-- A worker and the number of its successful refetches. -/
structure Worker where
  phase : Worker.Phase := .idle
  refetched : Nat := 0
deriving DecidableEq

namespace Worker

/-- An idle worker takes the next key of the queue, if there is one. -/
def take (w : Worker) (s : Store) : Worker × Store :=
  match w.phase, s.takeQueued with
  | .idle, some (k, s) => ({ w with phase := .holding k }, s)
  | _, _ => (w, s)

/-- The worker frees the slot of the key it holds, and goes on to fetch it if somebody
subscribes to it. -/
def free (w : Worker) (s : Store) : Worker × Store :=
  match w.phase with
  | .holding k =>
    if s.subscriberCount k = 0 then ({ w with phase := .idle }, s.completeRefetch k)
    else ({ w with phase := .fetching k }, s.completeRefetch k)
  | _ => (w, s)

/-- The fetch that is out is answered. -/
def deliver (w : Worker) (s : Store) (answer : Except CacheError CacheValue) (now : Int) :
    Worker × Store :=
  match w.phase, answer with
  | .fetching k, .ok v => (⟨.idle, w.refetched + 1⟩, s.setFetched k v now)
  | .fetching _, .error _ => ({ w with phase := .idle }, s)
  | _, _ => (w, s)

/-- Attach a worker to a store; a store has at most one in its life. -/
def attach (s : Store) : Except CacheError Worker × Store :=
  match s.claimQueue with
  | (true, s) => (.ok {}, s)
  | (false, s) => (.error (.config .workerAttached), s)

/-- Taking a key from the queue leaves all entries alone. -/
@[simp]
theorem entryAt?_take (w : Worker) (s : Store) (k : QueryKey) :
    (w.take s).2.entryAt? k = s.entryAt? k := by
  unfold take Store.takeQueued
  cases w.phase <;> cases s.queue <;> rfl

/-- So does freeing the slot of a key. -/
@[simp]
theorem entryAt?_free (w : Worker) (s : Store) (k : QueryKey) :
    (w.free s).2.entryAt? k = s.entryAt? k := by
  unfold free
  split
  · split <;> rfl
  · rfl

/-- So does starting a worker. -/
@[simp]
theorem entryAt?_attach (s : Store) (k : QueryKey) : (attach s).2.entryAt? k = s.entryAt? k := by
  unfold attach Store.claimQueue
  cases s.reader <;> rfl

end Worker
end OptimisticCache
