import OptimisticCache.Provisional
/-!
# What a begin records

A key is changed by a list of patches when one of them takes effect on it, in the
state that the patches before it left.  The snapshot records exactly the changed
keys, each with the entry it had before the first patch, however often it is
patched.

Main results:

- Theorem {lit}`Provisional.recorded?_begin`: the record of a changed key is its
  entry before the begin, and an unchanged key has none.
- Theorems {lit}`Provisional.entryAt?_begin_of_changes` and
  {lit}`Provisional.entryAt?_begin_of_not_changes`: a changed key is cached after
  the begin and keeps its stale bit; an unchanged one keeps its entry.
- Theorem {lit}`Provisional.nodup_keys_begin`: no key is recorded twice.
-/

namespace OptimisticCache
namespace Provisional

/-- Whether a patch takes effect on its key. -/
def takesEffect (m : MutationId) (b : Begun) (p : QueryKey × Patch) : Bool :=
  (p.2.apply (Item.placeholderId b.nextPlaceholder) m (b.store.peek p.1)).isSome

/-- Whether one of the patches takes effect on a key when they are applied in order. -/
def changes (m : MutationId) (now : Int) (k : QueryKey) : Begun → List (QueryKey × Patch) → Bool
  | _, [] => false
  | b, p :: ps => (decide (p.1 = k) && takesEffect m b p) || changes m now k (applyOne m now b p) ps

variable {m : MutationId} {now : Int} {k : QueryKey} {b : Begun} {p : QueryKey × Patch}
  {ps : List (QueryKey × Patch)}

/-! ## One patch -/

/-- What one patch leaves under each key. -/
theorem entryAt?_applyOne (m : MutationId) (now : Int) (b : Begun) (p : QueryKey × Patch)
    (k : QueryKey) :
    (applyOne m now b p).store.entryAt? k =
      if k = p.1 then
        match p.2.apply (Item.placeholderId b.nextPlaceholder) m (b.store.peek p.1) with
        | some v => some ⟨v, now, ((b.store.entryAt? p.1).map Entry.stale).getD false⟩
        | none => b.store.entryAt? p.1
      else b.store.entryAt? k := by
  rw [store_applyOne]
  exact Store.entryAt?_replaceWith b.store p.1 k _ now

/-- A patch that takes effect records the entry that it replaces. -/
theorem snapshot_applyOne (m : MutationId) (now : Int) (b : Begun) (p : QueryKey × Patch) :
    (applyOne m now b p).snapshot =
      if takesEffect m b p then b.snapshot.record p.1 (b.store.entryAt? p.1) else b.snapshot := by
  have h : (applyOne m now b p).snapshot =
      (replace b p.1 (p.2.apply (Item.placeholderId b.nextPlaceholder) m) now).snapshot := by
    unfold applyOne
    dsimp only
    split <;> rfl
  rw [h]
  unfold replace
  simp only [Store.replaceWith_previous]
  change (if takesEffect m b p = true then _ else _ : Begun).snapshot = _
  split <;> rfl

/-- It leaves a value with the stale bit from before. -/
theorem entryAt?_applyOne_of_takesEffect (now : Int) (hk : p.1 = k)
    (h : takesEffect m b p = true) :
    ∃ v, (applyOne m now b p).store.entryAt? k =
      some ⟨v, now, ((b.store.entryAt? k).map Entry.stale).getD false⟩ := by
  subst hk
  rcases Option.isSome_iff_exists.mp h with ⟨v, hv⟩
  refine ⟨v, ?_⟩
  rw [entryAt?_applyOne, if_pos rfl, hv]

/-- Otherwise the key holds what it held. -/
theorem entryAt?_applyOne_of_not_takesEffect (now : Int)
    (h : (decide (p.1 = k) && takesEffect m b p) = false) :
    (applyOne m now b p).store.entryAt? k = b.store.entryAt? k := by
  rw [entryAt?_applyOne]
  split
  · rename_i hk
    subst hk
    have hnone : p.2.apply (Item.placeholderId b.nextPlaceholder) m (b.store.peek p.1) = none := by
      simpa [takesEffect] using h
    rw [hnone]
  · rfl

/-- A key that is recorded already keeps its record. -/
theorem recorded?_applyOne (m : MutationId) (now : Int) (b : Begun) (p : QueryKey × Patch)
    (k : QueryKey) :
    (applyOne m now b p).snapshot.recorded? k =
      match b.snapshot.recorded? k with
      | some r => some r
      | none => if decide (p.1 = k) && takesEffect m b p then some (b.store.entryAt? k) else none := by
  rw [snapshot_applyOne]
  by_cases heffect : takesEffect m b p = true
  · rw [if_pos heffect, Snapshot.recorded?_record]
    by_cases hk : p.1 = k
    · subst hk
      cases b.snapshot.recorded? p.1 <;> simp [heffect]
    · simp only [Ne.symm hk, false_and, if_false, hk, decide_false, Bool.false_and,
        Bool.false_eq_true]
      cases b.snapshot.recorded? k <;> rfl
  · simp only [Bool.not_eq_true] at heffect
    simp only [heffect, Bool.false_eq_true, if_false, Bool.and_false]
    cases b.snapshot.recorded? k <;> rfl

/-- A patch draws a placeholder if it inserts one. -/
theorem nextPlaceholder_applyOne (m : MutationId) (now : Int) (b : Begun) (p : QueryKey × Patch) :
    (applyOne m now b p).nextPlaceholder =
      if p.2.inserts?.isSome then b.nextPlaceholder + 1 else b.nextPlaceholder := by
  unfold applyOne
  dsimp only
  split
  · rfl
  · unfold replace
    dsimp only
    split <;> rfl

/-- A patch uses up placeholder numbers and gives none back. -/
theorem nextPlaceholder_le_applyOne (m : MutationId) (now : Int) (b : Begun)
    (p : QueryKey × Patch) : b.nextPlaceholder ≤ (applyOne m now b p).nextPlaceholder := by
  rw [nextPlaceholder_applyOne]
  split <;> omega

/-! ## All patches, from any state -/

/-- So do several patches. -/
theorem nextPlaceholder_le_foldl (m : MutationId) (now : Int) (b : Begun)
    (ps : List (QueryKey × Patch)) :
    b.nextPlaceholder ≤ (ps.foldl (applyOne m now) b).nextPlaceholder := by
  induction ps generalizing b with
  | nil => exact Nat.le_refl _
  | cons p ps ih => exact Nat.le_trans (nextPlaceholder_le_applyOne m now b p) (ih _)

/-- Patches that do not change a key leave its entry alone. -/
theorem entryAt?_foldl_of_not_changes (h : changes m now k b ps = false) :
    (ps.foldl (applyOne m now) b).store.entryAt? k = b.store.entryAt? k := by
  induction ps generalizing b with
  | nil => rfl
  | cons p ps ih =>
    rcases Bool.or_eq_false_iff.mp h with ⟨hp, hrest⟩
    rw [List.foldl_cons, ih hrest]
    exact entryAt?_applyOne_of_not_takesEffect now hp

/-- Patches that change a key leave a value with the stale bit from before. -/
theorem entryAt?_foldl_of_changes (h : changes m now k b ps = true) :
    ∃ v, (ps.foldl (applyOne m now) b).store.entryAt? k =
      some ⟨v, now, ((b.store.entryAt? k).map Entry.stale).getD false⟩ := by
  induction ps generalizing b with
  | nil => cases h
  | cons p ps ih =>
    rw [List.foldl_cons]
    by_cases hrest : changes m now k (applyOne m now b p) ps = true
    · rcases ih hrest with ⟨v, hv⟩
      refine ⟨v, ?_⟩
      rw [hv]
      by_cases hp : (decide (p.1 = k) && takesEffect m b p) = true
      · rcases Bool.and_eq_true_iff.mp hp with ⟨hk, heffect⟩
        rcases entryAt?_applyOne_of_takesEffect now (of_decide_eq_true hk) heffect with ⟨w, hw⟩
        rw [hw]
        rfl
      · rw [entryAt?_applyOne_of_not_takesEffect now (Bool.eq_false_iff.mpr hp)]
    · simp only [Bool.not_eq_true] at hrest
      simp only [changes, hrest, Bool.or_false] at h
      rcases Bool.and_eq_true_iff.mp h with ⟨hk, heffect⟩
      rw [entryAt?_foldl_of_not_changes hrest]
      exact entryAt?_applyOne_of_takesEffect now (of_decide_eq_true hk) heffect

/-- A key is recorded as it was before the first patch that changed it. -/
theorem recorded?_foldl (m : MutationId) (now : Int) (b : Begun) (ps : List (QueryKey × Patch))
    (k : QueryKey) :
    (ps.foldl (applyOne m now) b).snapshot.recorded? k =
      match b.snapshot.recorded? k with
      | some r => some r
      | none => if changes m now k b ps then some (b.store.entryAt? k) else none := by
  induction ps generalizing b with
  | nil => cases h : b.snapshot.recorded? k <;> simp [changes, h]
  | cons p ps ih =>
    rw [List.foldl_cons, ih, recorded?_applyOne]
    cases b.snapshot.recorded? k with
    | some r => rfl
    | none =>
      by_cases hp : (decide (p.1 = k) && takesEffect m b p) = true
      · simp [changes, hp]
      · -- the patch left the key alone, so a later record sees the same entry
        have hsame := entryAt?_applyOne_of_not_takesEffect now (Bool.eq_false_iff.mpr hp)
        simp only [hp, changes, Bool.false_or, hsame]
        simp

/-- No key is recorded twice. -/
theorem nodup_keys_foldl (h : b.snapshot.keys.Nodup) :
    (ps.foldl (applyOne m now) b).snapshot.keys.Nodup := by
  induction ps generalizing b with
  | nil => exact h
  | cons p ps ih =>
    rw [List.foldl_cons]
    apply ih
    rw [snapshot_applyOne]
    split
    · exact Snapshot.nodup_keys_record h _ _
    · exact h

/-- The snapshot stays the one of the mutation. -/
theorem mutation_foldl (m : MutationId) (now : Int) (b : Begun) (ps : List (QueryKey × Patch)) :
    (ps.foldl (applyOne m now) b).snapshot.mutation = b.snapshot.mutation := by
  induction ps generalizing b with
  | nil => rfl
  | cons p ps ih =>
    rw [List.foldl_cons, ih, snapshot_applyOne]
    unfold Snapshot.record
    split
    · split <;> rfl
    · rfl

/-- A key is changed only if it is patched. -/
theorem mem_keys_of_changes (h : changes m now k b ps = true) : k ∈ ps.map Prod.fst := by
  induction ps generalizing b with
  | nil => cases h
  | cons p ps ih =>
    rcases Bool.or_eq_true_iff.mp h with hp | hrest
    · simp [of_decide_eq_true (Bool.and_eq_true_iff.mp hp).1]
    · exact List.mem_cons_of_mem _ (ih hrest)

/-- Keys without a patch show what they showed. -/
theorem peek_foldl_of_not_mem (h : k ∉ ps.map Prod.fst) (b : Begun) :
    (ps.foldl (applyOne m now) b).store.peek k = b.store.peek k := by
  have hchanges : changes m now k b ps = false := by
    rw [Bool.eq_false_iff]
    intro hchanged
    exact h (mem_keys_of_changes hchanged)
  exact Store.peek_of_entryAt? (entryAt?_foldl_of_not_changes hchanges)

/-! ## A begin -/

variable {store : Store} {next : Nat}

/-- Whether a begin changes a key: one of its patches takes effect on it. -/
def changedBy (store : Store) (next : Nat) (m : MutationId) (patches : List (QueryKey × Patch))
    (now : Int) (k : QueryKey) : Bool :=
  changes m now k ⟨store, Snapshot.empty m now, next⟩ patches

/-- After a mutation began, the keys that it changed hold values with their old stale bits. -/
theorem entryAt?_begin_of_changes (h : changedBy store next m ps now k = true) :
    ∃ v, (begin store next m ps now).store.entryAt? k =
      some ⟨v, now, ((store.entryAt? k).map Entry.stale).getD false⟩ :=
  entryAt?_foldl_of_changes h

/-- The other keys hold what they held. -/
theorem entryAt?_begin_of_not_changes (h : changedBy store next m ps now k = false) :
    (begin store next m ps now).store.entryAt? k = store.entryAt? k :=
  entryAt?_foldl_of_not_changes h

/-- A beginning mutation uses up placeholder numbers and gives none back. -/
theorem nextPlaceholder_le_begin (store : Store) (next : Nat) (m : MutationId)
    (ps : List (QueryKey × Patch)) (now : Int) : next ≤ (begin store next m ps now).nextPlaceholder :=
  nextPlaceholder_le_foldl m now ⟨store, Snapshot.empty m now, next⟩ ps

/-- What a begin leaves of the value under a key that it patches once; the patch draws its
placeholder after those before it. -/
theorem peek_begin_split {front back : List (QueryKey × Patch)} (hfront : k ∉ front.map Prod.fst)
    (hback : k ∉ back.map Prod.fst) (store : Store) (next : Nat) (m : MutationId) (patch : Patch)
    (now : Int) :
    (begin store next m (front ++ (k, patch) :: back) now).store.peek k =
      (patch.apply (Item.placeholderId (begin store next m front now).nextPlaceholder) m
        (store.peek k)).or (store.peek k) := by
  let b := front.foldl (applyOne m now) ⟨store, Snapshot.empty m now, next⟩
  have hbefore : b.store.peek k = store.peek k := peek_foldl_of_not_mem hfront _
  unfold begin
  rw [List.foldl_append, List.foldl_cons, peek_foldl_of_not_mem hback, store_applyOne,
    Store.peek_replaceWith_self]
  exact congrArg (fun v => (patch.apply _ m v).or v) hbefore

/-- What a begin leaves of the value under a key that it patches once, whatever placeholder the
patch draws. -/
theorem peek_begin_of_once {front back : List (QueryKey × Patch)} (hfront : k ∉ front.map Prod.fst)
    (hback : k ∉ back.map Prod.fst) (store : Store) (next : Nat) (m : MutationId) (patch : Patch)
    (now : Int) :
    ∃ n, (begin store next m (front ++ (k, patch) :: back) now).store.peek k =
      (patch.apply (Item.placeholderId n) m (store.peek k)).or (store.peek k) :=
  ⟨_, peek_begin_split hfront hback store next m patch now⟩

/-- The snapshot belongs to the mutation. -/
@[simp]
theorem mutation_begin (store : Store) (next : Nat) (m : MutationId)
    (ps : List (QueryKey × Patch)) (now : Int) :
    (begin store next m ps now).snapshot.mutation = m :=
  mutation_foldl m now _ ps

/-- The snapshot records the changed keys with the entries they had before the begin. -/
theorem recorded?_begin (store : Store) (next : Nat) (m : MutationId)
    (ps : List (QueryKey × Patch)) (now : Int) (k : QueryKey) :
    (begin store next m ps now).snapshot.recorded? k =
      if changedBy store next m ps now k then some (store.entryAt? k) else none :=
  recorded?_foldl m now ⟨store, Snapshot.empty m now, next⟩ ps k

/-- The snapshot is of the changed keys. -/
theorem mem_keys_begin :
    k ∈ (begin store next m ps now).snapshot.keys ↔ changedBy store next m ps now k = true := by
  rw [Snapshot.mem_keys_iff, recorded?_begin]
  split
  · rename_i hchanged
    simp [hchanged]
  · rename_i hchanged
    simp [hchanged]

/-- No key is recorded twice. -/
theorem nodup_keys_begin (store : Store) (next : Nat) (m : MutationId)
    (ps : List (QueryKey × Patch)) (now : Int) : (begin store next m ps now).snapshot.keys.Nodup :=
  nodup_keys_foldl List.nodup_nil

end Provisional
end OptimisticCache
