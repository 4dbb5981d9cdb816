import OptimisticCache.Proofs.CanonicalKeys
import OptimisticCache.Proofs.Procedure
import OptimisticCache.Proofs.Reads
import OptimisticCache.Proofs.Settlement
/-!
# The entries of a store are a table

A store finds an entry by its key, so what counts is that no key has two entries.  Every
stroke writes the table of entries once at most: it puts an entry under a key, or takes
one out.  So the keys stay in order, and each stays there once, through any procedures
and through whatever a client does.

Main results:

- Theorem {lit}`Table.perm_ofList`: building a table from values of different keys loses
  and changes none of them.
- Theorem {lit}`Store.written_strike`: what one stroke does to the table of entries.
- Theorem {lit}`Store.nodup_keys_proceedAll`: after any procedures each key has one entry
  at most.
- Theorems {lit}`Client.sorted_fetchQuery` and {lit}`Client.sorted_mutate`: so do the
  reads and the mutations of a client.
-/

namespace OptimisticCache

/-! ## Tables of distinct keys -/

namespace Table

variable {α β : Type} [DecidableEq α] [KeyOrder α]

/-- A new key goes in between the others. -/
theorem perm_insert {k : α} {t : List (α × β)} (h : k ∉ keys t) (v : β) :
    (insert k v t).Perm ((k, v) :: t) := by
  induction t with
  | nil => exact .refl _
  | cons p t ih =>
    obtain ⟨k', v'⟩ := p
    rw [keys, List.map_cons, List.mem_cons, not_or] at h
    rw [insert, if_neg (Ne.symm h.1)]
    split
    · exact .refl _
    · exact ((ih h.2).cons (k', v')).trans (.swap (k, v) (k', v') t)

/-- Inserting new keys one after the other adds their entries. -/
theorem perm_foldl_insert {ps t : List (α × β)} (h : (keys (t ++ ps)).Nodup) :
    (ps.foldl (fun t p => insert p.1 p.2 t) t).Perm (t ++ ps) := by
  induction ps generalizing t with
  | nil =>
    rw [List.append_nil]
    exact .refl t
  | cons p ps ih =>
    have hnew : p.1 ∉ keys t := by
      rw [keys, List.map_append, List.nodup_append] at h
      exact fun hmem => h.2.2 p.1 hmem p.1 List.mem_cons_self rfl
    have hmoved : (insert p.1 p.2 t ++ ps).Perm (t ++ p :: ps) :=
      ((perm_insert hnew p.2).append_right ps).trans List.perm_middle.symm
    exact (ih ((hmoved.map Prod.fst).nodup_iff.mpr h)).trans hmoved

/-- A table that is built from values of different keys has all of them. -/
theorem perm_ofList {ps : List (α × β)} (h : (keys ps).Nodup) : (ofList ps).Perm ps :=
  perm_foldl_insert h

omit [DecidableEq α] in
/-- A table in order has each key once. -/
theorem Sorted.nodup {t : List (α × β)} (h : Sorted t) : (keys t).Nodup :=
  List.Pairwise.imp ne_of_before h

end Table

/-! ## Stores are tables -/

/-- A table after one write at most. -/
inductive Table.Written {α β : Type} [DecidableEq α] [KeyOrder α] (t : List (α × β)) :
    List (α × β) → Prop
  | kept : Written t t
  | put (k : α) (v : β) : Written t (insert k v t)
  | erased (k : α) : Written t (erase k t)

/-- A table stays sorted however it is written. -/
theorem Table.Written.sorted {α β : Type} [DecidableEq α] [KeyOrder α] {t t' : List (α × β)}
    (h : Written t t') (ht : Sorted t) : Sorted t' := by
  cases h with
  | kept => exact ht
  | put k v => exact insert_sorted k v ht
  | erased k => exact sorted_erase k ht

namespace Store

/-- Scheduling writes no entry. -/
theorem entries_schedule (s : Store) (k : QueryKey) : (s.schedule k).entries = s.entries := by
  unfold schedule
  split <;> rfl

/-- Reading writes no entry. -/
theorem entries_get (s : Store) (k : QueryKey) (now : Int) :
    (s.get k now).2.entries = s.entries := by
  unfold get
  split
  · rfl
  · dsimp only
    split
    · exact entries_schedule s k
    · rfl

/-- Taking a key from the queue writes no entry. -/
theorem entries_takeQueued (s : Store) :
    ((s.takeQueued.map Prod.snd).getD s).entries = s.entries := by
  unfold takeQueued
  split <;> rfl

/-- Marking a key stale writes its entry at most. -/
theorem written_markStale (s : Store) (k : QueryKey) :
    Table.Written s.entries (s.markStale k).entries := by
  unfold markStale
  split
  · exact .kept
  · exact .put k _

/-- So does an invalidation. -/
theorem written_invalidate (s : Store) (k : QueryKey) :
    Table.Written s.entries (s.invalidate k).2.entries := by
  have hmarked : Table.Written s.entries ((s.markStale k).publish (.invalidated k)).entries :=
    written_markStale s k
  unfold invalidate
  dsimp only
  split
  · rwa [entries_schedule]
  · split <;> exact hmarked

/-- So does replacing a value. -/
theorem written_replaceWith (s : Store) (k : QueryKey)
    (update : Option CacheValue → Option CacheValue) (now : Int) :
    Table.Written s.entries (s.replaceWith k update now).2.entries := by
  rw [replaceWith_store]
  split
  · exact .put k _
  · exact .kept

/-- Removing a key takes its entry out at most. -/
theorem written_remove (s : Store) (k : QueryKey) :
    Table.Written s.entries (s.remove k).2.entries := by
  unfold remove
  split
  · exact .kept
  · exact .erased k

/-- A stroke writes the table of entries once at most. -/
theorem written_strike (s : Store) (x : Stroke) :
    Table.Written s.entries (s.strike x).entries := by
  cases x with
  | putBack r =>
    obtain ⟨k, previous⟩ := r
    cases previous with
    | some e => exact .put k _
    | none => exact written_remove s k
  | operate o =>
    cases o with
    | get k now =>
      rw [show (s.strike (.operate (.get k now))).entries = s.entries from entries_get s k now]
      exact .kept
    | takeQueued =>
      rw [show (s.strike (.operate .takeQueued)).entries = s.entries from entries_takeQueued s]
      exact .kept
    | subscribe k => exact .kept
    | unsubscribe sub => exact .kept
    | completeRefetch k => exact .kept
    | invalidate k => exact written_invalidate s k
    | set k v now => exact .put k _
    | setFetched k v now => exact .put k _
    | remove k => exact written_remove s k
    | replaceWith k update now => exact written_replaceWith s k update now

/-- The entries of a store stay in the order of their keys, whatever is done to it. -/
theorem sorted_strikeAll {s : Store} (h : Table.Sorted s.entries) (xs : List Stroke) :
    Table.Sorted (s.strikeAll xs).entries := by
  induction xs generalizing s with
  | nil => exact h
  | cons x xs ih => exact ih ((written_strike s x).sorted h)

/-- The entries stay sorted through every procedure. -/
theorem sorted_proceed {s : Store} (h : Table.Sorted s.entries) (t : Procedure) :
    Table.Sorted (s.proceed t).entries := by
  rw [proceed_eq]
  exact sorted_strikeAll h t.strokes

/-- No store has two entries for one key, whatever was done to it. -/
theorem nodup_keys_proceedAll (staleTime : Option Nat) (ts : List Procedure) :
    ((empty staleTime).proceedAll ts).keys.Nodup := by
  rw [proceedAll_eq]
  have hsorted := sorted_strikeAll (s := empty staleTime) Table.sorted_nil
    (ts.flatMap Procedure.strokes)
  exact hsorted.nodup

end Store

/-! ## Clients -/

/-- The keys of a store are those that hold an entry. -/
theorem Store.mem_keys_congr {s s' : Store} {k : QueryKey} (h : s'.entryAt? k = s.entryAt? k) :
    k ∈ s'.keys ↔ k ∈ s.keys := by
  unfold Store.keys
  rw [Table.mem_keys_iff, Table.mem_keys_iff]
  exact Eq.to_iff (congrArg (fun e : Option Entry => e.isSome = true) h)

namespace Client

variable {c : Client}

/-- The entries stay sorted through a whole mutation. -/
theorem sorted_mutate (h : Table.Sorted c.store.entries) (b : Backend) (m : Mutation) (now : Int) :
    Table.Sorted (c.mutate b m now).2.store.entries := by
  have hbegun := Store.sorted_proceed h (.begin (c.launchOf m now))
  cases hsend : b.send m.request with
  | error failure =>
    rw [mutate_of_error hsend]
    exact Store.sorted_proceed hbegun (.undo _ .rollback)
  | ok envelope =>
    obtain ⟨settlement, -, -, hmutate⟩ := mutate_of_ok c hsend now
    rw [hmutate]
    exact Store.sorted_proceed hbegun (.commit _ c.dependencies (m.usableItem envelope.data) now)

/-- So they do through a fetch. -/
theorem sorted_fetchQuery (h : Table.Sorted c.store.entries) (b : Backend) (k : QueryKey)
    (now : Int) : Table.Sorted (c.fetchQuery b k now).2.store.entries := by
  cases hpath : k.path? with
  | none => rwa [fetchQuery_of_no_path hpath]
  | some path =>
    rw [fetchQuery_of_path hpath]
    cases k.valueOf (b.read path) with
    | ok v => exact Store.sorted_proceed h (.operate (.set k v now))
    | error e => exact h

/-- A read caches its own key at most. -/
theorem mem_keys_fetchQuery {b : Backend} {k k' : QueryKey} {now : Int}
    (h : k' ∈ (c.fetchQuery b k now).2.store.keys) : k' = k ∨ k' ∈ c.store.keys := by
  by_cases hk : k' = k
  · exact .inl hk
  · refine .inr ((Store.mem_keys_congr ?_).mp h)
    cases hresult : (c.fetchQuery b k now).1 with
    | ok v => exact ((caches_of_fetchQuery hresult).others k' hk).1
    | error e => rw [fetchQuery_error hresult]

end Client
end OptimisticCache
