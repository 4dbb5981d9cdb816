import OptimisticCache.Backend.Envelope
import OptimisticCache.Mutation.Pending
import OptimisticCache.Payload.Resource
/-!
# The client

A client joins a store, a backend and a dependency map.  Queries are read from
the backend and cached; mutations show their provisional values at once, send one
request, and settle by its answer: by a commit if it succeeds, by a rollback
otherwise.  Every use of the backend is noted.

Main results:

- Theorem {lit}`Client.fetchQuery_error`: a failed read leaves the store alone.
- Theorem {lit}`Client.getOrFetch_fresh`: a fresh value is answered without a
  request.
-/

namespace OptimisticCache

/-- The answers of a backend. -/
structure Backend where
  send : Request → Except BackendFailure Envelope
  read : String → Except BackendFailure Envelope

/-- The backend that gives one answer to every call. -/
def Backend.answering (answer : Except BackendFailure Envelope) : Backend where
  send _ := answer
  read _ := answer

/-- A cache that talks to a backend. -/
structure Client where
  store : Store
  dependencies : DependencyMap := .standard
  /-- How many mutations were started. -/
  started : Nat := 0
  nextPlaceholder : Nat := 1
  /-- The uses of the backend so far, the latest in front. -/
  calls : List Call := []

/-- A committed mutation: what it did to the cache, and the data of the answer. -/
structure MutationOutcome where
  settlement : Settlement
  data : Json
deriving DecidableEq

/-- A mutation whose request is out. -/
structure InFlight where
  mutation : Mutation
  pending : PendingMutation

/-- The value that an answer gives a query. -/
def QueryKey.valueOf (k : QueryKey) (answer : Except BackendFailure Envelope) :
    Except CacheError CacheValue :=
  match answer with
  | .ok envelope => Payload.normalizeValue k.entity envelope.data
  | .error failure => .error (.request failure)

namespace Client

/-- Note a use of the backend. -/
def note (c : Client) (call : Call) : Client :=
  { c with calls := call :: c.calls }

/-! ## Queries -/

/-- Read a query from the backend, without caching it. -/
def readQuery (c : Client) (b : Backend) (k : QueryKey) : Except CacheError CacheValue × Client :=
  match k.path? with
  | some path => (k.valueOf (b.read path), c.note (.read path))
  | none => (.error (.unroutable k), c)

/-- Read a query from the backend and cache it. -/
def fetchQuery (c : Client) (b : Backend) (k : QueryKey) (now : Int) :
    Except CacheError CacheValue × Client :=
  match c.readQuery b k with
  | (.ok v, c) => (.ok v, { c with store := c.store.set k v now })
  | (.error e, c) => (.error e, c)

/-- The cached value if it is fresh, and a read otherwise. -/
def getOrFetch (c : Client) (b : Backend) (k : QueryKey) (now : Int) :
    Except CacheError CacheValue × Client :=
  if c.store.isStale k now then c.fetchQuery b k now
  else
    match c.store.peek k with
    | some v => (.ok v, c)
    | none => c.fetchQuery b k now

/-! ## Mutations -/

/-- Start a mutation of some kind with patches of its own. -/
def beginPending (c : Client) (kind : MutationKind) (scope : Scope)
    (patches : List (QueryKey × Patch)) (now : Int) : PendingMutation × Client :=
  let (pending, store, next) :=
    PendingMutation.begin c.store c.nextPlaceholder ⟨c.started + 1⟩ kind scope patches now
  (pending, { c with store, started := c.started + 1, nextPlaceholder := next })

/-- Show the provisional values of a mutation and send its request. -/
def start (c : Client) (m : Mutation) (now : Int) : InFlight × Client :=
  let (pending, c) := c.beginPending m.kind m.scope m.patches now
  (⟨m, pending⟩, c.note (.send m.request))

/-- Settle a mutation by the answer to its request. -/
def settle (c : Client) (f : InFlight) (answer : Except BackendFailure Envelope) (now : Int) :
    Except CacheError MutationOutcome × Client :=
  match answer with
  | .ok envelope =>
    let item := f.mutation.usableItem envelope.data
    match f.pending.commit c.store c.dependencies item now with
    | (.ok settlement, _, store) => (.ok ⟨settlement, envelope.data⟩, { c with store })
    | (.error e, _, store) => (.error e, { c with store })
  | .error failure =>
    match f.pending.rollback c.store with
    | (.ok _, _, store) => (.error (.request failure), { c with store })
    | (.error e, _, store) => (.error e, { c with store })

/-- Run a mutation with its effect on the cache. -/
def mutate (c : Client) (b : Backend) (m : Mutation) (now : Int) :
    Except CacheError MutationOutcome × Client :=
  let (f, c) := c.start m now
  c.settle f (b.send m.request) now

/-- Give up a mutation whose request is out: its snapshot is put back. -/
def drop (c : Client) (f : InFlight) : Client :=
  match f.pending.abandon.1 with
  | some snapshot => { c with store := (snapshot.restore c.store).2 }
  | none => c

/-! ## Failed and cached reads -/

/-- Reading a query sends a call and leaves the store alone. -/
theorem store_readQuery (c : Client) (b : Backend) (k : QueryKey) :
    (c.readQuery b k).2.store = c.store := by
  unfold readQuery
  split <;> rfl

/-- A failed read leaves the store alone. -/
theorem fetchQuery_error {c : Client} {b : Backend} {k : QueryKey} {now : Int} {e : CacheError}
    (h : (c.fetchQuery b k now).1 = .error e) : (c.fetchQuery b k now).2.store = c.store := by
  have hstore := store_readQuery c b k
  unfold fetchQuery at h ⊢
  split at h
  · cases h
  · rename_i hread
    rw [hread] at hstore
    exact hstore

/-- A fresh value is answered without a request. -/
theorem getOrFetch_fresh {c : Client} {k : QueryKey} {v : CacheValue} {now : Int} (b : Backend)
    (hfresh : c.store.isStale k now = false) (hv : c.store.peek k = some v) :
    c.getOrFetch b k now = (.ok v, c) := by
  simp [getOrFetch, hfresh, hv]

end Client
end OptimisticCache
