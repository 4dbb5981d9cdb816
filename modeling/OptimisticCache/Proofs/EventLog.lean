import OptimisticCache.Proofs.Procedure
/-!
# The event log tells the truth

A store publishes an event for every entry that it writes, takes out or marks stale.  The
log of these events is enough to know which keys are cached, and how long an entry has
been as it is.

The argument looks at one stroke at a time.  A stroke publishes one event at most; the
entries of all other keys stay as they are, and if it publishes nothing then all entries
do.  An event says what it leaves behind: an update a cached key, a removal an absent
one, and an invalidation what was there.

Main results:

- Theorem {lit}`Store.announces_strike`: what a stroke changes is announced by the event
  that it publishes.
- Theorem {lit}`Store.truthful_strikeAll`: after any strokes the latest write event of a
  key says whether the key is cached.
- Theorem {lit}`Store.log_tells`: both over every run of procedures, whole or cut off in
  the middle.
-/

namespace OptimisticCache

/-! ## Events -/

namespace CacheEvent

/-- Whether the event reports that an entry was written or taken out. -/
def isWrite : CacheEvent → Bool
  | updated _ | removed _ => true
  | invalidated _ => false

/-- Whether the key of an event is cached afterwards, if one knows whether it was before. -/
def leaves (cached : Bool) : CacheEvent → Bool
  | updated _ => true
  | removed _ => false
  | invalidated _ => cached

end CacheEvent

namespace Store

/-- The latest event that reports a write of a key. -/
def lastWrite? (s : Store) (k : QueryKey) : Option CacheEvent :=
  s.events.find? fun e => e.isWrite && e.key = k

/-- A change of a store that publishes one event: the event says whether its key is cached now, and
the entries of the other keys are as before. -/
structure Tells (s : Store) (e : CacheEvent) (s' : Store) : Prop where
  events_eq : s'.events = e :: s.events
  entryAt?_of_ne : ∀ k, k ≠ e.key → s'.entryAt? k = s.entryAt? k
  contains_key : s'.contains e.key = e.leaves (s.contains e.key)

/-- A change of a store that publishes nothing: all entries are as before. -/
structure Silent (s s' : Store) : Prop where
  events_eq : s'.events = s.events
  entryAt?_eq : ∀ k, s'.entryAt? k = s.entryAt? k

/-- A change of a store that is announced by one event at most. -/
def Announces (s s' : Store) : Prop :=
  s.Silent s' ∨ ∃ e, s.Tells e s'

/-- The log of a store tells which keys are cached. -/
def Truthful (s : Store) : Prop :=
  ∀ k, s.contains k = true ↔ s.lastWrite? k = some (.updated k)

variable {s s' : Store} {k : QueryKey} {e : CacheEvent}

/-- Whether a key is cached is told by its entry. -/
theorem contains_of_entryAt? (h : s'.entryAt? k = s.entryAt? k) : s'.contains k = s.contains k :=
  congrArg Option.isSome h

/-! ## Operations -/

@[simp]
theorem events_schedule (s : Store) (k : QueryKey) : (s.schedule k).events = s.events := by
  unfold schedule
  split <;> rfl

/-- Taking a key from the queue publishes nothing. -/
theorem events_takeQueued (s : Store) :
    ((s.takeQueued.map Prod.snd).getD s).events = s.events := by
  unfold takeQueued
  split <;> rfl

/-- Writing an entry and publishing the update. -/
theorem tells_updated {entry : Entry} (hevents : s'.events = .updated k :: s.events)
    (hentries : ∀ k', s'.entryAt? k' = if k' = k then some entry else s.entryAt? k') :
    s.Tells (.updated k) s' where
  events_eq := hevents
  entryAt?_of_ne := fun k' hk => (hentries k').trans (if_neg hk)
  contains_key := by
    have hself : s'.entryAt? k = some entry := by rw [hentries, if_pos rfl]
    exact congrArg Option.isSome hself

/-- Reading publishes no event and changes no entry. -/
theorem announces_get (s : Store) (k : QueryKey) (now : Int) : s.Announces (s.get k now).2 := by
  refine .inl ⟨?_, fun k' => entryAt?_get s k k' now⟩
  unfold get
  split
  · rfl
  · dsimp only
    split
    · exact events_schedule s k
    · rfl

/-- Every invalidation is published. -/
theorem events_invalidate (s : Store) (k : QueryKey) :
    (s.invalidate k).2.events = .invalidated k :: s.events := by
  have hmarked : ((s.markStale k).publish (.invalidated k)).events = .invalidated k :: s.events := by
    unfold markStale
    split <;> rfl
  unfold invalidate
  dsimp only
  split
  · rw [events_schedule]
    exact hmarked
  · split <;> exact hmarked

/-- An invalidation makes no key present and none absent. -/
theorem announces_invalidate (s : Store) (k : QueryKey) : s.Announces (s.invalidate k).2 := by
  refine .inr ⟨.invalidated k, events_invalidate s k, ?_, ?_⟩
  · intro k' hk
    rw [entryAt?_invalidate]
    exact if_neg hk
  · unfold contains
    rw [entryAt?_invalidate]
    simp [CacheEvent.key, CacheEvent.leaves]

/-- A replaced value is announced by its update. -/
theorem announces_replaceWith (s : Store) (k : QueryKey)
    (update : Option CacheValue → Option CacheValue) (now : Int) :
    s.Announces (s.replaceWith k update now).2 := by
  rw [replaceWith_store]
  cases update (s.peek k) with
  | none => exact .inl ⟨rfl, fun _ => rfl⟩
  | some v => exact .inr ⟨_, tells_updated rfl fun k' => entryAt?_putEntry s k k' _⟩

/-- A removed key is announced by its removal. -/
theorem announces_remove (s : Store) (k : QueryKey) : s.Announces (s.remove k).2 := by
  have hentries : ∀ k', (s.remove k).2.entryAt? k' = if k' = k then none else s.entryAt? k' :=
    fun k' => entryAt?_remove s k k'
  cases hk : s.entryAt? k with
  | none =>
    have hsame : (s.remove k).2 = s := by
      unfold remove
      rw [hk]
    rw [hsame]
    exact .inl ⟨rfl, fun _ => rfl⟩
  | some entry =>
    refine .inr ⟨.removed k, ?_, ?_, ?_⟩
    · unfold remove
      rw [hk]
      rfl
    · intro k' hne
      rw [hentries]
      exact if_neg hne
    · unfold contains
      rw [hentries]
      simp [CacheEvent.key, CacheEvent.leaves]

/-- Every operation announces the changes that it makes. -/
theorem announces_perform (s : Store) (o : StoreOp) : s.Announces (s.perform o) := by
  cases o with
  | get k now => exact announces_get s k now
  | subscribe k => exact .inl ⟨rfl, fun _ => rfl⟩
  | unsubscribe sub => exact .inl ⟨rfl, fun _ => rfl⟩
  | invalidate k => exact announces_invalidate s k
  | set k v now => exact .inr ⟨_, tells_updated rfl fun k' => entryAt?_set s k k' v now⟩
  | setFetched k v now =>
    exact .inr ⟨_, tells_updated rfl fun k' => entryAt?_setFetched s k k' v now⟩
  | replaceWith k update now => exact announces_replaceWith s k update now
  | remove k => exact announces_remove s k
  | takeQueued => exact .inl ⟨events_takeQueued s, entryAt?_takeQueued s⟩
  | completeRefetch k => exact .inl ⟨rfl, fun _ => rfl⟩

/-- What a stroke changes is announced by the event that it publishes. -/
theorem announces_strike (s : Store) (x : Stroke) : s.Announces (s.strike x) := by
  cases x with
  | operate o => exact announces_perform s o
  | putBack r =>
    unfold strike Snapshot.restoreRecord
    dsimp only
    split
    · exact .inr ⟨_, tells_updated rfl fun k' => entryAt?_restoreEntry s r.1 k' _⟩
    · exact announces_remove s r.1

/-! ## The latest write event -/

/-- The latest write to a key after one more event. -/
theorem Tells.lastWrite? (h : s.Tells e s') (k : QueryKey) :
    s'.lastWrite? k = if e.isWrite ∧ e.key = k then some e else s.lastWrite? k := by
  unfold Store.lastWrite?
  rw [h.events_eq, List.find?_cons]
  cases e.isWrite with
  | false => simp
  | true => by_cases hk : e.key = k <;> simp [hk]

/-- An event says whether its key is cached, and the other keys are not concerned. -/
theorem Truthful.of_tells (hs : s.Truthful) (h : s.Tells e s') : s'.Truthful := by
  intro k
  by_cases hk : e.key = k
  · subst hk
    rw [h.contains_key, h.lastWrite?]
    cases e with
    | updated k => simp [CacheEvent.leaves, CacheEvent.isWrite, CacheEvent.key]
    | removed k => simp [CacheEvent.leaves, CacheEvent.isWrite, CacheEvent.key]
    | invalidated k => exact hs k
  · rw [contains_of_entryAt? (h.entryAt?_of_ne k (Ne.symm hk)), h.lastWrite?,
      if_neg fun hwrite => hk hwrite.2]
    exact hs k

/-- A log that tells which keys are present still does after announced changes. -/
theorem Truthful.of_announces (hs : s.Truthful) (h : s.Announces s') : s'.Truthful := by
  rcases h with hsilent | ⟨e, htells⟩
  · intro k
    rw [contains_of_entryAt? (hsilent.entryAt?_eq k), Store.lastWrite?, hsilent.events_eq]
    exact hs k
  · exact hs.of_tells htells

/-- In an empty store the log tells of no key. -/
theorem truthful_empty (staleTime : Option Nat) : (empty staleTime).Truthful := by
  intro k
  simp [empty, contains, entryAt?, lastWrite?]

/-- After any strokes the latest write event of a key says whether the key is cached. -/
theorem truthful_strikeAll (hs : s.Truthful) (xs : List Stroke) : (s.strikeAll xs).Truthful := by
  induction xs generalizing s with
  | nil => exact hs
  | cons x xs ih => exact ih (hs.of_announces (announces_strike s x))

/-! ## The events of a run -/

/-- Strokes publish one event each at most, and an entry that they change is among the keys of
these events. -/
theorem exists_news (s : Store) (xs : List Stroke) :
    ∃ news, (s.strikeAll xs).events = news ++ s.events ∧ news.length ≤ xs.length ∧
      ∀ k, (s.strikeAll xs).entryAt? k = s.entryAt? k ∨ ∃ e ∈ news, e.key = k := by
  induction xs generalizing s with
  | nil => exact ⟨[], rfl, Nat.le_refl _, fun _ => .inl rfl⟩
  | cons x xs ih =>
    obtain ⟨news, hevents, hlength, hentries⟩ := ih (s.strike x)
    rw [strikeAll_cons, List.length_cons]
    -- the log has the latest event in front, so that of the first stroke comes last among the news
    rcases announces_strike s x with hsilent | ⟨e, htells⟩
    · refine ⟨news, by rw [hevents, hsilent.events_eq], Nat.le_succ_of_le hlength, fun k => ?_⟩
      rw [← hsilent.entryAt?_eq k]
      exact hentries k
    · refine ⟨news ++ [e], by simp [hevents, htells.events_eq], by simp [hlength], fun k => ?_⟩
      by_cases hk : e.key = k
      · exact .inr ⟨e, by simp, hk⟩
      · rcases hentries k with hsame | ⟨e', he', hkey⟩
        · exact .inl (hsame.trans (htells.entryAt?_of_ne k (Ne.symm hk)))
        · exact .inr ⟨e', List.mem_append_left _ he', hkey⟩

/-- Over every run of procedures from an empty store, looked at after each of its strokes: the
procedures leave what so many strokes leave; a key is cached exactly when its latest write event is
an update; and from one moment to a later one, with one event a stroke at most, every entry is as
it was unless an event of its key was published in between. -/
theorem log_tells (staleTime : Option Nat) (ts : List Procedure) :
    let strokes := ts.flatMap Procedure.strokes
    let after (n : Nat) := (empty staleTime).strikeAll (strokes.take n)
    (∀ j, (empty staleTime).proceedAll (ts.take j) =
      after ((ts.take j).flatMap Procedure.strokes).length) ∧
    (∀ n k, (after n).contains k = true ↔ (after n).lastWrite? k = some (.updated k)) ∧
    ∀ n d, ∃ news, (after (n + d)).events = news ++ (after n).events ∧ news.length ≤ d ∧
      ∀ k, (after (n + d)).entryAt? k = (after n).entryAt? k ∨ ∃ e ∈ news, e.key = k := by
  intro strokes after
  refine ⟨fun j => ?_, fun n => ?_, fun n d => ?_⟩
  · have hsplit : strokes = (ts.take j).flatMap Procedure.strokes ++
        (ts.drop j).flatMap Procedure.strokes := by
      rw [← List.flatMap_append, List.take_append_drop]
    simp only [after]
    rw [proceedAll_eq, hsplit, List.take_left]
  · exact truthful_strikeAll (truthful_empty staleTime) (strokes.take n)
  · have hafter : after (n + d) = (after n).strikeAll ((strokes.drop n).take d) := by
      simp only [after]
      rw [← strikeAll_append, List.take_add]
    obtain ⟨news, hevents, hlength, hentries⟩ := exists_news (after n) ((strokes.drop n).take d)
    rw [hafter]
    exact ⟨news, hevents, Nat.le_trans hlength (List.length_take_le _ _), hentries⟩

end Store
end OptimisticCache
