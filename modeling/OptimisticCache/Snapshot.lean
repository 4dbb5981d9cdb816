import OptimisticCache.Patch
import OptimisticCache.Store
/-!
# Snapshots

Before a mutation patches a key, the entry of the key is recorded; the snapshot
of a mutation holds these records and can put every one of them back.  When a
key is patched more than once, the oldest record counts.

Main results:

- Theorem {lit}`Snapshot.recorded?_record`: what a record adds to the view
  of a snapshot.
- Theorem {lit}`Snapshot.entryAt?_restore`: restoring puts back what was recorded
  and leaves the other keys alone.
-/

namespace OptimisticCache

/-- The entries of the keys that a mutation patched, as they were before. -/
structure Snapshot where
  mutation : MutationId
  /-- The recorded keys in order, each with the entry it had, if any. -/
  records : List (QueryKey × Option Entry)
  takenAt : Int
deriving DecidableEq

namespace Snapshot

/-- The snapshot of a mutation that has not patched anything. -/
def empty (mutation : MutationId) (now : Int) : Snapshot :=
  ⟨mutation, [], now⟩

/-- The recorded entry of a key: none when the key was not patched, and an absent entry when
it was not cached. -/
def recorded? (s : Snapshot) (k : QueryKey) : Option (Option Entry) :=
  Table.get? k s.records

/-- The recorded value of a key. -/
def previous? (s : Snapshot) (k : QueryKey) : Option (Option CacheValue) :=
  (s.recorded? k).map fun e => e.map Entry.value

/-- Record the entry of a key; an older record of the key stays. -/
def record (s : Snapshot) (k : QueryKey) (previous : Option Entry) : Snapshot :=
  if (s.recorded? k).isSome then s
  else { s with records := s.records ++ [(k, previous)] }

/-- The recorded keys, in the order they were patched. -/
def keys (s : Snapshot) : List QueryKey :=
  s.records.map Prod.fst

/-- The number of recorded keys. -/
def size (s : Snapshot) : Nat :=
  s.records.length

/-- Put one recorded entry back; a key that was absent is removed again. -/
def restoreRecord (store : Store) (r : QueryKey × Option Entry) : Store :=
  match r.2 with
  | some e => store.restoreEntry r.1 e
  | none => (store.remove r.1).2

/-- Put every recorded entry back.  Answers the restored keys. -/
def restore (s : Snapshot) (store : Store) : List QueryKey × Store :=
  (s.keys, s.records.foldl restoreRecord store)

/-- A record is seen unless the key was recorded before; the other keys keep theirs. -/
theorem recorded?_record (s : Snapshot) (k k' : QueryKey) (previous : Option Entry) :
    (s.record k previous).recorded? k' =
      if k' = k ∧ s.recorded? k = none then some previous else s.recorded? k' := by
  unfold record
  cases hk : s.recorded? k with
  | some e => simp
  | none =>
    simp only [Option.isSome_none, Bool.false_eq_true, if_false, and_true]
    rw [recorded?, Table.get?_append, Table.get?_cons, Table.get?_nil]
    by_cases h : k' = k
    · subst h
      unfold recorded? at hk
      simp [hk]
    · rw [if_neg h, if_neg (Ne.symm h), Option.or_none]
      rfl

/-- Restoring a record leaves the other keys alone. -/
theorem entryAt?_restoreRecord_of_ne {k : QueryKey} {r : QueryKey × Option Entry} (h : k ≠ r.1)
    (store : Store) : (restoreRecord store r).entryAt? k = store.entryAt? k := by
  unfold restoreRecord
  split
  · rw [Store.entryAt?_restoreEntry, if_neg h]
  · rw [Store.entryAt?_remove, if_neg h]

/-- The keys of a snapshot are those with a record. -/
theorem mem_keys_iff {s : Snapshot} {k : QueryKey} :
    k ∈ s.keys ↔ (s.recorded? k).isSome = true :=
  Table.mem_keys_iff

/-- A key is recorded once, in the order of the first records. -/
theorem keys_record (s : Snapshot) (k : QueryKey) (previous : Option Entry) :
    (s.record k previous).keys = if k ∈ s.keys then s.keys else s.keys ++ [k] := by
  unfold record
  by_cases hk : k ∈ s.keys
  · rw [if_pos (mem_keys_iff.mp hk), if_pos hk]
  · rw [if_neg (mt mem_keys_iff.mpr hk), if_neg hk]
    simp [keys]

/-- No key is recorded twice. -/
theorem nodup_keys_record {s : Snapshot} (h : s.keys.Nodup) (k : QueryKey)
    (previous : Option Entry) : (s.record k previous).keys.Nodup := by
  rw [keys_record]
  split
  · exact h
  · rename_i hk
    rw [List.nodup_append]
    refine ⟨h, by simp, ?_⟩
    rintro a ha b hb rfl
    exact hk (List.mem_singleton.mp hb ▸ ha)

/-- What a key holds once a record of it was put back: the recorded entry, which stays stale
if the key is stale now. -/
def putBack (previous current : Option Entry) : Option Entry :=
  previous.map fun e => { e with stale := e.stale || (current.map Entry.stale).getD false }

/-- Restoring a record puts back what the key held. -/
theorem entryAt?_restoreRecord_self (store : Store) (r : QueryKey × Option Entry) :
    (restoreRecord store r).entryAt? r.1 = putBack r.2 (store.entryAt? r.1) := by
  unfold restoreRecord
  cases r.2 with
  | some e => simp [Store.entryAt?_restoreEntry, putBack]
  | none => simp [Store.entryAt?_remove, putBack]

/-- Records of different keys are restored independently of each other. -/
theorem entryAt?_foldl_restoreRecord {rs : List (QueryKey × Option Entry)}
    (h : (Table.keys rs).Nodup) (store : Store) (k : QueryKey) :
    (rs.foldl restoreRecord store).entryAt? k =
      match Table.get? k rs with
      | some previous => putBack previous (store.entryAt? k)
      | none => store.entryAt? k := by
  induction rs generalizing store with
  | nil => rfl
  | cons r rs ih =>
    obtain ⟨k', previous⟩ := r
    obtain ⟨hhead, htail⟩ := List.nodup_cons.mp h
    rw [List.foldl_cons, ih htail, Table.get?_cons]
    by_cases hk : k' = k
    · subst hk
      -- the key occurs once, so the records behind it leave it alone
      have hnone : Table.get? k' rs = none := by
        simpa using mt Table.mem_keys_iff.mpr hhead
      rw [hnone, if_pos rfl]
      exact entryAt?_restoreRecord_self store (k', previous)
    · rw [if_neg hk, entryAt?_restoreRecord_of_ne (Ne.symm hk)]

/-- Restoring puts back what was recorded and leaves the other keys alone. -/
theorem entryAt?_restore {s : Snapshot} (h : s.keys.Nodup) (store : Store) (k : QueryKey) :
    (s.restore store).2.entryAt? k =
      match s.recorded? k with
      | some previous => putBack previous (store.entryAt? k)
      | none => store.entryAt? k :=
  entryAt?_foldl_restoreRecord h store k

/-- Restoring leaves the agenda of refetches alone. -/
theorem agenda_restore (s : Snapshot) (store : Store) : (s.restore store).2.agenda = store.agenda := by
  have hfold : ∀ rs : List (QueryKey × Option Entry),
      (rs.foldl restoreRecord store).agenda = store.agenda := by
    intro rs
    induction rs generalizing store with
    | nil => rfl
    | cons r rs ih =>
      rw [List.foldl_cons, ih]
      unfold restoreRecord
      split <;> simp
  exact hfold s.records

end Snapshot
end OptimisticCache
