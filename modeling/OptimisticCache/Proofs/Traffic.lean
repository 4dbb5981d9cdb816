import OptimisticCache.Client
import OptimisticCache.Mutation.Catalogue
import OptimisticCache.Proofs.CachedValues
import OptimisticCache.Worker
/-!
# The traffic of a client

A client at work: queries are fetched, mutations of the catalogue are started and
settled by answers or given up, a worker fetches again what was invalidated, and
readers come and go.  Everything happens one step at a time and in any order, and
every answer may be anything.

A read whose request is out does not hold anything of the store, so it is one step, at
the time its answer is stored; this also covers a read that was sent because nothing
fresh was cached.  A mutation is in flight from its start, where its provisional values
are cached, until its answer comes in.  If it is given up before that, its snapshot is put back
some time later, or never.

A property of cached values holds throughout every run if the answers to queries have
it and the patches and merges of the catalogue keep it.  It may take for granted that
all items that the run normalizes, from answers to queries and to mutations, are of some
kind.

Main results:

- Theorem {lit}`Traffic.all_step`: every step keeps such a property, in the store and
  in the snapshots of the mutations in flight.
- Theorems {lit}`Traffic.all_run_of_normalized` and {lit}`Traffic.all_run`: so does
  every run.
-/

namespace OptimisticCache

/-- A client at work. -/
structure Traffic where
  client : Client
  /-- The mutations whose requests are out. -/
  flights : List InFlight := []
  /-- The snapshots of mutations that were given up, which wait to be put back. -/
  abandoned : List Snapshot := []
  worker : Option Worker := none

namespace Traffic

/-- What readers and the program around a client do to the store. -/
inductive Access where
  | get (k : QueryKey) (now : Int)
  | subscribe (k : QueryKey)
  | unsubscribe (sub : Subscription)
  | invalidate (k : QueryKey)
  | remove (k : QueryKey)

/-- The operation on the store. -/
def Access.op : Access → StoreOp
  | get k now => .get k now
  | subscribe k => .subscribe k
  | unsubscribe sub => .unsubscribe sub
  | invalidate k => .invalidate k
  | remove k => .remove k

/-- One step of the traffic. -/
inductive Action where
  /-- A query is read from the backend and cached. -/
  | fetch (b : Backend) (k : QueryKey) (now : Int)
  /-- A query is answered from the cache if it is fresh there, and fetched otherwise. -/
  | getOrFetch (b : Backend) (k : QueryKey) (now : Int)
  /-- A mutation is started. -/
  | start (m : CatalogueMutation) (createdAt : String) (now : Int)
  /-- The `n`th mutation in flight is answered. -/
  | settle (n : Nat) (answer : Except BackendFailure Envelope) (now : Int)
  /-- The `n`th mutation in flight is given up. -/
  | abandon (n : Nat)
  /-- The `n`th snapshot that waits is put back. -/
  | restore (n : Nat)
  | access (a : Access)
  /-- A worker is attached, unless one was attached before. -/
  | attach
  /-- The worker takes a key. -/
  | take
  /-- The worker frees the slot of its key, and goes on to fetch it if somebody listens. -/
  | free
  /-- The fetch of the worker is answered. -/
  | deliver (b : Backend) (now : Int)

/-- Replace the store. -/
def withStore (t : Traffic) (store : Store) : Traffic :=
  { t with client := { t.client with store } }

/-- The worker makes a move, if there is one. -/
def moveWorker (t : Traffic) (move : Worker → Store → Worker × Store) : Traffic :=
  match t.worker with
  | some w =>
    let (w, store) := move w t.client.store
    { t.withStore store with worker := some w }
  | none => t

/-- The traffic after one step. -/
def step (t : Traffic) : Action → Traffic
  | .fetch b k now => { t with client := (t.client.fetchQuery b k now).2 }
  | .getOrFetch b k now => { t with client := (t.client.getOrFetch b k now).2 }
  | .start m createdAt now =>
    let (f, client) := t.client.start (m.toMutation createdAt) now
    { t with client, flights := t.flights ++ [f] }
  | .settle n answer now =>
    match t.flights[n]? with
    | some f =>
      { t with
        client := (t.client.settle f answer now).2
        flights := t.flights.eraseIdx n }
    | none => t
  | .abandon n =>
    match t.flights[n]? with
    | some f =>
      { t with
        flights := t.flights.eraseIdx n
        abandoned := t.abandoned ++ f.pending.abandon.1.toList }
    | none => t
  | .restore n =>
    match t.abandoned[n]? with
    | some s =>
      { t.withStore (s.restore t.client.store).2 with abandoned := t.abandoned.eraseIdx n }
    | none => t
  | .access a => t.withStore (t.client.store.perform a.op)
  | .attach =>
    match Worker.attach t.client.store with
    | (.ok w, store) => { t.withStore store with worker := some w }
    | (.error _, store) => t.withStore store
  | .take => t.moveWorker Worker.take
  | .free => t.moveWorker Worker.free
  | .deliver b now =>
    match t.worker with
    | some w =>
      match w.phase with
      | .fetching k =>
        let (answer, client) := t.client.readQuery b k
        let (w, store) := w.deliver client.store answer now
        { t with client := { client with store }, worker := some w }
      | _ => t
    | none => t

/-- The traffic after a run of steps. -/
def run (t : Traffic) (as : List Action) : Traffic :=
  as.foldl step t

/-- A client with an empty store that has done nothing. -/
def idle (staleTime : Option Nat) (dependencies : DependencyMap) : Traffic where
  client := { store := Store.empty staleTime, dependencies }

/-! ## Normalized items -/

/-- The items that reading a query normalizes. -/
def answeredItems (c : Client) (b : Backend) (k : QueryKey) : List Item :=
  match (c.readQuery b k).1 with
  | .ok v => v.items
  | .error _ => []

/-- The items that a step normalizes from an answer of the backend. -/
def normalized (t : Traffic) : Action → List Item
  | .fetch b k _ => answeredItems t.client b k
  | .getOrFetch b k now =>
    if t.client.store.isStale k now ∨ t.client.store.peek k = none then answeredItems t.client b k
    else []
  | .settle n answer _ =>
    match t.flights[n]?, answer with
    | some f, .ok envelope => (f.mutation.usableItem envelope.data).toList
    | _, _ => []
  | .deliver b _ =>
    match t.worker.map Worker.phase with
    | some (.fetching k) => answeredItems t.client b k
    | _ => []
  | .start .. | .abandon _ | .restore _ | .access _ | .attach | .take | .free => []

/-! ## Properties of all cached values -/

/-- The answers to queries have a property, and the mutations of the catalogue keep it, provided
that what is normalized is of some kind. -/
structure PreservesWhen (Q : Item → Prop) (P : QueryKey → CacheValue → Prop) : Prop where
  answered : ∀ k answer v, QueryKey.valueOf k answer = .ok v → (∀ i ∈ v.items, Q i) → P k v
  patched : ∀ (cm : CatalogueMutation) createdAt, ∀ p ∈ cm.patches createdAt, ∀ freshId m,
    Keeps P p.1 (p.2.apply freshId m)
  merged : ∀ (cm : CatalogueMutation) createdAt data,
    (∀ i, (cm.toMutation createdAt).usableItem data = some i → Q i) →
    ∀ p ∈ cm.patches createdAt, ∀ m,
      Keeps P p.1 (Reconcile.value m p.2.rule ((cm.toMutation createdAt).usableItem data))

/-- The answers to queries have a property, and the mutations of the catalogue keep it. -/
structure Preserves (P : QueryKey → CacheValue → Prop) : Prop where
  answered : ∀ k answer v, QueryKey.valueOf k answer = .ok v → P k v
  patched : ∀ (cm : CatalogueMutation) createdAt, ∀ p ∈ cm.patches createdAt, ∀ freshId m,
    Keeps P p.1 (p.2.apply freshId m)
  merged : ∀ (cm : CatalogueMutation) createdAt data, ∀ p ∈ cm.patches createdAt, ∀ m,
    Keeps P p.1 (Reconcile.value m p.2.rule ((cm.toMutation createdAt).usableItem data))

theorem Preserves.preservesWhen {P : QueryKey → CacheValue → Prop} (hP : Preserves P)
    (Q : Item → Prop) : PreservesWhen Q P where
  answered k answer v h _ := hP.answered k answer v h
  patched := hP.patched
  merged cm createdAt data _ := hP.merged cm createdAt data

/-- A snapshot that can be put back, with values that all have a property. -/
def Restorable (P : QueryKey → CacheValue → Prop) (s : Snapshot) : Prop :=
  s.keys.Nodup ∧ s.All P

/-- A mutation of the catalogue is in flight, and what it recorded can be put back. -/
structure Flying (P : QueryKey → CacheValue → Prop) (f : InFlight) : Prop where
  mutation : ∃ cm createdAt, f.mutation = CatalogueMutation.toMutation cm createdAt
  targets : f.pending.targets = f.mutation.targets
  recorded : ∀ s, f.pending.snapshot = some s → Restorable P s

/-- All values in the store, and all values that may be put back there, have a property. -/
structure All (P : QueryKey → CacheValue → Prop) (t : Traffic) : Prop where
  stored : t.client.store.All P
  flights : ∀ f ∈ t.flights, Flying P f
  abandoned : ∀ s ∈ t.abandoned, Restorable P s

variable {Q : Item → Prop} {P : QueryKey → CacheValue → Prop} {c : Client} {t : Traffic}

/-- Nothing is cached in the beginning. -/
theorem all_idle (P : QueryKey → CacheValue → Prop) (staleTime : Option Nat)
    (dependencies : DependencyMap) : All P (idle staleTime dependencies) :=
  ⟨Store.All.empty P staleTime, List.forall_mem_nil _, List.forall_mem_nil _⟩

/-! ### Reads -/

/-- A query is answered with a value that has the property. -/
theorem answered_readQuery (hP : PreservesWhen Q P) {b : Backend} {k : QueryKey}
    (hQ : ∀ i ∈ answeredItems c b k, Q i) {v : CacheValue} (h : (c.readQuery b k).1 = .ok v) :
    P k v := by
  unfold answeredItems at hQ
  rw [h] at hQ
  unfold Client.readQuery at h
  split at h
  · exact hP.answered k _ v h hQ
  · cases h

/-- A fetch caches only what its answer allows. -/
theorem all_fetchQuery (hP : PreservesWhen Q P) (h : c.store.All P) {b : Backend} {k : QueryKey}
    (hQ : ∀ i ∈ answeredItems c b k, Q i) (now : Int) : (c.fetchQuery b k now).2.store.All P := by
  have hstore := Client.store_readQuery c b k
  have hanswered : ∀ v, (c.readQuery b k).1 = .ok v → P k v := fun _ => answered_readQuery hP hQ
  unfold Client.fetchQuery
  split
  · rename_i v c' hread
    rw [hread] at hstore hanswered
    rw [show c'.store = c.store from hstore]
    exact h.set (hanswered v rfl)
  · rename_i e c' hread
    rw [hread] at hstore
    rw [show c'.store = c.store from hstore]
    exact h

/-- So does a read that fetches if it has to. -/
theorem all_getOrFetch (hP : PreservesWhen Q P) (h : c.store.All P) {b : Backend} {k : QueryKey}
    {now : Int}
    (hQ : c.store.isStale k now = true ∨ c.store.peek k = none → ∀ i ∈ answeredItems c b k, Q i) :
    (c.getOrFetch b k now).2.store.All P := by
  unfold Client.getOrFetch
  split
  · rename_i hstale
    exact all_fetchQuery hP h (hQ (Or.inl hstale)) now
  · split
    · exact h
    · rename_i habsent
      exact all_fetchQuery hP h (hQ (Or.inr habsent)) now

/-! ### Mutations -/

/-- A mutation that begins patches values within what holds of all. -/
theorem all_start (hP : PreservesWhen Q P) (h : c.store.All P) (m : CatalogueMutation)
    (createdAt : String) (now : Int) :
    (c.start (m.toMutation createdAt) now).2.store.All P ∧
      Flying P (c.start (m.toMutation createdAt) now).1 := by
  constructor
  · exact h.begin (hP.patched m createdAt · · · _) _ now
  · refine ⟨⟨m, createdAt, rfl⟩, rfl, ?_⟩
    rintro s ⟨⟩
    exact ⟨Provisional.nodup_keys_begin _ _ _ _ _, Snapshot.All.begin h _ _ _ _⟩

/-- A mutation that settles merges or restores within it. -/
theorem all_settle (hP : PreservesWhen Q P) (h : c.store.All P) {f : InFlight} (hf : Flying P f)
    {answer : Except BackendFailure Envelope}
    (hQ : ∀ envelope, answer = .ok envelope →
      ∀ i, f.mutation.usableItem envelope.data = some i → Q i) (now : Int) :
    (c.settle f answer now).2.store.All P := by
  rcases hf.mutation with ⟨cm, createdAt, hmutation⟩
  cases answer with
  | error failure =>
    have hstore : (c.settle f (.error failure) now).2.store = (f.pending.rollback c.store).2.2 := by
      unfold Client.settle
      dsimp only
      split
      · rename_i hroll
        rw [hroll]
      · rename_i hroll
        rw [hroll]
    rw [hstore]
    exact h.rollback hf.recorded
  | ok envelope =>
    have hstore : (c.settle f (.ok envelope) now).2.store =
        (f.pending.commit c.store c.dependencies (f.mutation.usableItem envelope.data) now).2.2 := by
      unfold Client.settle
      dsimp only
      split
      · rename_i hcommit
        rw [hcommit]
      · rename_i hcommit
        rw [hcommit]
    rw [hstore]
    apply h.commit
    intro target htarget
    have husable := hQ envelope rfl
    rw [hmutation] at husable
    rw [hf.targets, hmutation] at htarget
    rcases List.mem_map.mp htarget with ⟨p, hp, rfl⟩
    rw [hmutation]
    exact hP.merged cm createdAt envelope.data husable p hp _

/-- A mutation that is given up hands out a snapshot that can be put back. -/
theorem restorable_abandon {f : InFlight} (hf : Flying P f) {s : Snapshot}
    (hs : s ∈ f.pending.abandon.1.toList) : Restorable P s := by
  unfold PendingMutation.abandon at hs
  split at hs
  · exact hf.recorded s (Option.mem_toList.mp hs)
  · cases hs

/-! ### The worker -/

/-- An answer that is delivered to a worker is stored within it. -/
theorem all_deliver (h : c.store.All P) {w : Worker} {k : QueryKey} (hw : w.phase = .fetching k)
    {answer : Except CacheError CacheValue} (hanswer : ∀ v, answer = .ok v → P k v) (now : Int) :
    (w.deliver c.store answer now).2.All P := by
  unfold Worker.deliver
  rw [hw]
  cases answer with
  | ok v => exact h.setFetched (hanswer v rfl)
  | error e => exact h

/-- A worker that changes no entry keeps it. -/
theorem all_moveWorker (h : t.All P) {move : Worker → Store → Worker × Store}
    (hmove : ∀ w s k, (move w s).2.entryAt? k = s.entryAt? k) : (t.moveWorker move).All P := by
  unfold moveWorker
  split
  · exact ⟨h.stored.of_entryAt? (hmove _ _), h.flights, h.abandoned⟩
  · exact h

/-! ### Runs -/

/-- Every step keeps a property of all cached values that answers have and the catalogue keeps. -/
theorem all_step (hP : PreservesWhen Q P) (h : t.All P) {a : Action}
    (hQ : ∀ i ∈ t.normalized a, Q i) : (t.step a).All P := by
  cases a with
  | fetch b k now => exact ⟨all_fetchQuery hP h.stored hQ now, h.flights, h.abandoned⟩
  | getOrFetch b k now =>
    refine ⟨all_getOrFetch hP h.stored fun hread => ?_, h.flights, h.abandoned⟩
    rwa [normalized, if_pos hread] at hQ
  | start m createdAt now =>
    rcases all_start hP h.stored m createdAt now with ⟨hstored, hflying⟩
    refine ⟨hstored, ?_, h.abandoned⟩
    intro f hf
    rcases List.mem_append.mp hf with hf | hf
    · exact h.flights f hf
    · obtain rfl := List.mem_singleton.mp hf
      exact hflying
  | settle n answer now =>
    unfold step
    dsimp only
    split
    · rename_i f hf
      refine ⟨?_, ?_, h.abandoned⟩
      · refine all_settle hP h.stored (h.flights f (List.mem_of_getElem? hf)) ?_ now
        rintro envelope rfl i hi
        simp only [normalized, hf] at hQ
        exact hQ i (Option.mem_toList.mpr hi)
      · exact fun g hg => h.flights g (List.mem_of_mem_eraseIdx hg)
    · exact h
  | abandon n =>
    unfold step
    dsimp only
    split
    · rename_i f hf
      refine ⟨h.stored, fun g hg => h.flights g (List.mem_of_mem_eraseIdx hg), ?_⟩
      intro s hs
      rcases List.mem_append.mp hs with hs | hs
      · exact h.abandoned s hs
      · exact restorable_abandon (h.flights f (List.mem_of_getElem? hf)) hs
    · exact h
  | restore n =>
    unfold step
    dsimp only
    split
    · rename_i s hs
      rcases h.abandoned s (List.mem_of_getElem? hs) with ⟨hnodup, hrecorded⟩
      refine ⟨h.stored.restore hnodup hrecorded, h.flights, ?_⟩
      exact fun s' hs' => h.abandoned s' (List.mem_of_mem_eraseIdx hs')
    · exact h
  | access a =>
    have hop : a.op.Stores P := by cases a <;> trivial
    exact ⟨h.stored.perform hop, h.flights, h.abandoned⟩
  | attach =>
    have hstored : (Worker.attach t.client.store).2.All P :=
      h.stored.of_entryAt? (Worker.entryAt?_attach t.client.store)
    unfold step
    dsimp only
    split
    · rename_i hattach
      rw [hattach] at hstored
      exact ⟨hstored, h.flights, h.abandoned⟩
    · rename_i hattach
      rw [hattach] at hstored
      exact ⟨hstored, h.flights, h.abandoned⟩
  | take => exact all_moveWorker h Worker.entryAt?_take
  | free => exact all_moveWorker h Worker.entryAt?_free
  | deliver b now =>
    unfold step
    dsimp only
    split
    · rename_i w hw
      split
      · rename_i k hphase
        have hstore : (t.client.readQuery b k).2.store.All P := by
          rw [Client.store_readQuery]
          exact h.stored
        refine ⟨?_, h.flights, h.abandoned⟩
        rw [normalized, hw, Option.map_some, hphase] at hQ
        exact all_deliver hstore hphase (fun v => answered_readQuery hP hQ) now
      · exact h
    · exact h

/-- Every run keeps such a property, if all items that it normalizes are of the kind. -/
theorem all_run_of_normalized (hP : PreservesWhen Q P) (h : t.All P) {as : List Action}
    (hQ : ∀ n a, as[n]? = some a → ∀ i ∈ (t.run (as.take n)).normalized a, Q i) :
    (t.run as).All P := by
  induction as generalizing t with
  | nil => exact h
  | cons a as ih => exact ih (all_step hP h (hQ 0 a rfl)) fun n => hQ (n + 1)

/-- Every run keeps a property that does not depend on what is normalized. -/
theorem all_run (hP : Preserves P) (h : t.All P) (as : List Action) : (t.run as).All P :=
  all_run_of_normalized (hP.preservesWhen fun _ => True) h fun _ _ _ _ _ => trivial

end Traffic
end OptimisticCache
