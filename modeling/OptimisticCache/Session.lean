import OptimisticCache.Client
import OptimisticCache.Worker
/-!
# Sessions

A session runs a client against a backend whose answers are given in advance, and
a refetch worker beside it.  The worker only moves when the session lets it, and
then goes on until nothing is left to do or the read it waits for is held back.
-/

namespace OptimisticCache

/-- The prepared answers of a backend. -/
structure Script where
  /-- The answers to reads, by path. -/
  answers : List (String × Except BackendFailure Envelope) := []
  /-- The paths whose next read is held back, once for each time they stand here. -/
  held : List String := []

namespace Script

/-- Prepare the answer to the reads of a path. -/
def serve (s : Script) (path : String) (answer : Except BackendFailure Envelope) : Script :=
  { s with answers := Table.insert path answer s.answers }

/-- Hold the next read of a path back. -/
def hold (s : Script) (path : String) : Script :=
  { s with held := path :: s.held }

/-- The answer to a read; nothing is found at a path that is not prepared. -/
def answer (s : Script) (path : String) : Except BackendFailure Envelope :=
  (Table.get? path s.answers).getD (.error (.ofStatus 404 (path ++ " not found")))

/-- The backend that gives one answer to every write. -/
def backend (s : Script) (reply : Except BackendFailure Envelope) : Backend where
  send _ := reply
  read := s.answer

end Script

/-- A client, its prepared backend and its worker. -/
structure Session where
  client : Client
  script : Script := {}
  worker : Option Worker := none
  /-- The paths of the reads that are held back, the oldest first. -/
  parked : List String := []

namespace Session

/-- Replace the store. -/
def withStore (s : Session) (store : Store) : Session :=
  { s with client := { s.client with store } }

/-- The worker takes the next key and fetches it, unless the read is held back. -/
def attempt (s : Session) (w : Worker) (now : Int) : Session :=
  let (w, store) := w.take s.client.store
  let (w, store) := w.free store
  let s := { s.withStore store with worker := some w }
  match w.phase with
  | .fetching k =>
    match k.path? with
    | none =>
      let (w, store) := w.deliver store (.error (.unroutable k)) now
      { s.withStore store with worker := some w }
    | some path =>
      let s := { s with client := s.client.note (.read path) }
      if s.script.held.contains path then
        { s with
          script := { s.script with held := s.script.held.erase path }
          parked := s.parked ++ [path] }
      else
        let (w, store) := w.deliver s.client.store (k.valueOf (s.script.answer path)) now
        { s.withStore store with worker := some w }
  | _ => s

/-- The worker goes on for at most so many keys. -/
def turn (s : Session) (now : Int) : Nat → Session
  | 0 => s
  | more + 1 =>
    match s.worker with
    | some w =>
      if w.phase = .idle ∧ s.client.store.queue ≠ [] then (s.attempt w now).turn now more else s
    | none => s

/-- Let the worker go on until it is idle or waits.  A refetch adds no keys to the queue. -/
def runIdle (s : Session) (now : Int) : Session :=
  s.turn now s.client.store.queue.length

/-- Attach a worker. -/
def spawnWorker (s : Session) : Except CacheError Unit × Session :=
  match Worker.attach s.client.store with
  | (.ok w, store) => (.ok (), { s.withStore store with worker := some w })
  | (.error e, store) => (.error e, s.withStore store)

/-- Take the worker away; the keys that wait are gone with it.  Answers whether there was one. -/
def dropWorker (s : Session) : Bool × Session :=
  match s.worker with
  | some _ => (true, { s.withStore s.client.store.dropQueue with worker := none })
  | none => (false, s)

/-- Answer the oldest read of a path that is held back, and let the worker go on.  Answers
whether there was one. -/
def release (s : Session) (path : String) (answer : Except BackendFailure Envelope) (now : Int) :
    Bool × Session :=
  if s.parked.contains path then
    let s := { s with parked := s.parked.erase path }
    match s.worker with
    | some w =>
      match w.phase with
      | .fetching k =>
        let (w, store) := w.deliver s.client.store (k.valueOf answer) now
        (true, { s.withStore store with worker := some w }.runIdle now)
      | _ => (true, s.runIdle now)
    | none => (true, s)
  else (false, s.runIdle now)

/-- Give up a mutation in flight.  The worker, which was waiting before, moves first; then the
snapshot is put back, unless nothing is left to do so. -/
def dropMutation (s : Session) (f : InFlight) (restores : Bool) (now : Int) : Session :=
  let s := s.runIdle now
  if restores then { s with client := s.client.drop f } else s

end Session
end OptimisticCache
