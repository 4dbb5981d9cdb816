import OptimisticCache.Proofs.Commit
import OptimisticCache.Proofs.Recording
/-!
# Where markers come from and where they go

The markers in a store change in few ways.  A begin puts the marker of its own
mutation under the keys that it changes; a commit takes the marker of its own
mutation out of its targets; a snapshot brings the markers back that it recorded.
Nothing else makes a marker appear.

Main results:

- Theorem {lit}`Store.carries_begin`: a begin adds its own marker only, and only
  under the keys that it changes.
- Theorem {lit}`Store.carries_commit`: a commit adds no marker, and its own is gone
  from every target.
- Theorem {lit}`Store.carries_restore`: a restored key carries what was recorded.
-/

namespace OptimisticCache

/-- Whether there is a value with an item that carries the marker of a mutation. -/
def carriesMarker (v : Option CacheValue) (m : MutationId) : Bool :=
  v.any fun v => v.containsMarker m

/-- Whether an item under a key carries the marker of a mutation. -/
def Store.carries (s : Store) (k : QueryKey) (m : MutationId) : Bool :=
  carriesMarker (s.peek k) m

/-- Nothing in the store is provisional. -/
def Store.Unmarked (s : Store) : Prop :=
  ∀ k v, s.peek k = some v → v.hasProvisional = false

/-- The operation stores no value with provisional items; a replacement may keep those that
were there. -/
def StoreOp.Unmarked : StoreOp → Prop
  | .set _ v _ | .setFetched _ v _ => v.hasProvisional = false
  | .replaceWith _ update _ =>
    ∀ current v m, update current = some v → v.containsMarker m = true →
      carriesMarker current m = true
  | .get _ _ | .subscribe _ | .unsubscribe _ | .invalidate _ | .remove _ | .takeQueued
  | .completeRefetch _ => True

/-- Whether an item recorded under a key carries the marker of a mutation. -/
def Snapshot.carries (s : Snapshot) (k : QueryKey) (m : MutationId) : Bool :=
  carriesMarker (s.previous? k).join m

/-- An absent value carries no marker. -/
@[simp]
theorem carriesMarker_none (m : MutationId) : carriesMarker none m = false :=
  rfl

@[simp]
theorem carriesMarker_some (v : CacheValue) (m : MutationId) :
    carriesMarker (some v) m = v.containsMarker m :=
  rfl

/-- A key carries a mutation if an item that it shows is marked with it. -/
theorem Store.carries_iff {s : Store} {k : QueryKey} {m : MutationId} :
    s.carries k m = true ↔ ∃ v, s.peek k = some v ∧ ∃ i ∈ v.items, i.marker = some m := by
  unfold Store.carries
  cases s.peek k with
  | none => simp
  | some v =>
    rw [carriesMarker_some, CacheValue.containsMarker_iff]
    simp

/-- What a key carries is told by its entry. -/
theorem Store.carries_eq_of_entryAt? {s s' : Store} {k : QueryKey}
    (h : s'.entryAt? k = s.entryAt? k) (m : MutationId) : s'.carries k m = s.carries k m := by
  unfold Store.carries Store.peek
  rw [h]

/-- A value without provisional items carries no marker. -/
theorem CacheValue.containsMarker_of_not_hasProvisional {v : CacheValue}
    (h : v.hasProvisional = false) (m : MutationId) : v.containsMarker m = false := by
  rw [Bool.eq_false_iff]
  intro hm
  rcases containsMarker_iff.mp hm with ⟨i, hi, hmarker⟩
  have hprovisional : v.hasProvisional = true :=
    List.any_eq_true.mpr ⟨i, hi, by simp [Item.isProvisional, hmarker]⟩
  rw [h] at hprovisional
  cases hprovisional

/-- A store without markers carries no mutation. -/
theorem Store.Unmarked.carries {s : Store} (h : s.Unmarked) (k : QueryKey) (m : MutationId) :
    s.carries k m = false := by
  unfold Store.carries
  cases hv : s.peek k with
  | none => rfl
  | some v => exact CacheValue.containsMarker_of_not_hasProvisional (h k v hv) m

/-- An empty store has no markers. -/
theorem Store.unmarked_empty (staleTime : Option Nat) : (Store.empty staleTime).Unmarked := by
  intro k v hv
  cases hv

/-- Storing a value without markers brings none in. -/
theorem Store.Unmarked.set {s : Store} (h : s.Unmarked) (k : QueryKey) {v : CacheValue}
    (hv : v.hasProvisional = false) (now : Int) : (s.set k v now).Unmarked := by
  intro k' v' hv'
  unfold Store.peek at hv'
  rw [Store.entryAt?_set] at hv'
  split at hv'
  · cases hv'
    exact hv
  · exact h k' v' hv'

/-! ## Patches -/

/-- An item after a patch is marked by the mutation, or was there before. -/
theorem Patch.mem_apply {p : Patch} {freshId : String} {m : MutationId}
    {current : Option CacheValue} {v : CacheValue} {i : Item}
    (h : p.apply freshId m current = some v) (hi : i ∈ v.items) :
    i.marker = some m ∨ ∃ c, current = some c ∧ i ∈ c.items := by
  cases effect_of_apply h with
  | created _ =>
    obtain rfl := List.mem_singleton.mp hi
    exact Or.inl rfl
  | inserted _ front back =>
    rcases List.mem_append.mp hi with hi | hi
    · exact Or.inr ⟨_, rfl, List.mem_append_left back hi⟩
    · rcases List.mem_cons.mp hi with rfl | hi
      · exact Or.inl rfl
      · exact Or.inr ⟨_, rfl, List.mem_append_right front hi⟩
  | changed id edits items =>
    rcases Item.mem_changeFirst hi with ⟨j, _, rfl⟩ | hi
    · exact Or.inl rfl
    · exact Or.inr ⟨_, rfl, hi⟩
  | edited item edits =>
    obtain rfl := List.mem_singleton.mp hi
    exact Or.inl rfl
  | removed id items => exact Or.inr ⟨_, rfl, List.mem_of_mem_eraseP hi⟩

/-- A patch adds no marker but that of its mutation. -/
theorem Patch.carriesMarker_apply {p : Patch} {freshId : String} {m m' : MutationId}
    {current : Option CacheValue} {v : CacheValue} (h : p.apply freshId m current = some v)
    (hv : v.containsMarker m' = true) : m' = m ∨ carriesMarker current m' = true := by
  rcases CacheValue.containsMarker_iff.mp hv with ⟨i, hi, hmarker⟩
  rcases mem_apply h hi with hown | ⟨c, rfl, hc⟩
  · rw [hmarker] at hown
    exact Or.inl (Option.some.inj hown)
  · exact Or.inr (CacheValue.containsMarker_iff.mpr ⟨i, hc, hmarker⟩)

/-! ## Reconciliation -/

namespace Reconcile

variable {m m' : MutationId} {rule : MergeRule} {authoritative : Option Item} {i : Item}

/-- An insertion brings in no item but the inserted one. -/
theorem mem_insertItem {s : Item} {is : List Item} (h : i ∈ insertItem m s is) : i = s ∨ i ∈ is := by
  unfold insertItem replaceFirst at h
  split at h
  · rcases Item.mem_changeFirst h with ⟨_, _, rfl⟩ | h
    · exact Or.inl rfl
    · exact Or.inr h
  · split at h
    · rcases Item.mem_changeFirst h with ⟨_, _, rfl⟩ | h
      · exact Or.inl rfl
      · exact Or.inr h
    · exact List.mem_cons.mp h

/-- An item of a merged list is the authoritative one, or was there before. -/
theorem mem_mergeList {is : List Item} (h : i ∈ mergeList m rule authoritative is) :
    authoritative = some i ∨ i ∈ is := by
  unfold mergeList at h
  split at h
  · rcases mem_insertItem h with rfl | h
    · exact Or.inl rfl
    · exact Or.inr h
  · exact Or.inr h
  · split at h
    · rcases Item.mem_changeFirst h with ⟨_, _, rfl⟩ | h
      · exact Or.inl rfl
      · exact Or.inr h
    · exact Or.inr h
  · exact Or.inr h
  · exact Or.inr (List.mem_of_mem_eraseP h)

/-- After a marker was stripped no item has it. -/
theorem mem_stripMarker {is : List Item} (h : i ∈ stripMarker m is) :
    i.marker = none ∨ (i ∈ is ∧ i.marker ≠ some m) := by
  rcases List.mem_map.mp h with ⟨j, hj, rfl⟩
  by_cases hm : j.isMarkedBy m = true
  · rw [if_pos hm]
    exact Or.inl rfl
  · rw [if_neg hm]
    refine Or.inr ⟨(List.mem_filter.mp hj).1, ?_⟩
    simpa [Item.isMarkedBy] using hm

/-- The items of a merged value have their ids and their data from the authoritative item, or from
items that were there before. -/
theorem exists_of_mem_present {v : CacheValue} (h : i ∈ (present m rule authoritative v).items) :
    ∃ j, (authoritative = some j ∨ j ∈ v.items) ∧ i.id = j.id ∧ i.data = j.data := by
  cases v with
  | list is =>
    rcases List.mem_map.mp h with ⟨j, hj, rfl⟩
    refine ⟨j, mem_mergeList (List.mem_filter.mp hj).1, ?_⟩
    split <;> exact ⟨rfl, rfl⟩
  | record r =>
    have hstrip : (stripRecord m r).id = r.id ∧ (stripRecord m r).data = r.data := by
      unfold stripRecord
      split <;> exact ⟨rfl, rfl⟩
    obtain rfl := List.mem_singleton.mp h
    unfold record
    split
    · split
      · exact ⟨_, Or.inl rfl, rfl, rfl⟩
      · exact ⟨r, Or.inr List.mem_cons_self, hstrip⟩
    · exact ⟨r, Or.inr List.mem_cons_self, hstrip⟩

/-- Once merged, a value carries no marker that it did not carry before, and not that of the
mutation, provided that the authoritative item carries none. -/
theorem containsMarker_present (h : ∀ s, authoritative = some s → s.marker = none)
    {v : CacheValue} (hv : (present m rule authoritative v).containsMarker m' = true) :
    m' ≠ m ∧ v.containsMarker m' = true := by
  rcases CacheValue.containsMarker_iff.mp hv with ⟨i, hi, hmarker⟩
  have hitem : i.marker = none ∨ (i ∈ v.items ∧ i.marker ≠ some m) := by
    cases v with
    | list is =>
      rcases mem_stripMarker hi with hnone | ⟨hmem, hne⟩
      · exact Or.inl hnone
      · rcases mem_mergeList hmem with hauth | hmem
        · exact Or.inl (h i hauth)
        · exact Or.inr ⟨hmem, hne⟩
    | record r =>
      have hstrip : (stripRecord m r).marker = none ∨
          (stripRecord m r ∈ [r] ∧ (stripRecord m r).marker ≠ some m) := by
        unfold stripRecord
        by_cases hm : r.isMarkedBy m = true
        · rw [if_pos hm]
          exact Or.inl rfl
        · rw [if_neg hm]
          exact Or.inr ⟨List.mem_singleton.mpr rfl, by simpa [Item.isMarkedBy] using hm⟩
      obtain rfl := List.mem_singleton.mp hi
      unfold record
      split
      · rename_i s
        split
        · exact Or.inl (h s rfl)
        · exact hstrip
      · exact hstrip
  rcases hitem with hnone | ⟨hmem, hne⟩
  · rw [hmarker] at hnone
    cases hnone
  · refine ⟨?_, CacheValue.containsMarker_iff.mpr ⟨i, hmem, hmarker⟩⟩
    rintro rfl
    exact hne hmarker

end Reconcile

/-! ## Begin, commit and restore -/

namespace Store

variable {s : Store} {m m' : MutationId} {authoritative : Option Item} {now : Int} {k : QueryKey}

/-- Merging brings no marker into a key, and it takes that of its mutation out of the target. -/
theorem carries_merge (h : ∀ i, authoritative = some i → i.marker = none)
    {target : QueryKey × MergeRule}
    (hc : (s.merge m authoritative now target).carries k m' = true) :
    s.carries k m' = true ∧ (k = target.1 → m' ≠ m) := by
  by_cases hk : k = target.1
  · subst hk
    have hmerged : m' ≠ m ∧ s.carries target.1 m' = true := by
      unfold carries at hc ⊢
      rw [peek_merge_self] at hc
      cases hcurrent : s.peek target.1 with
      | none =>
        cases hv : Reconcile.value m target.2 authoritative none with
        | none => simp [hcurrent, hv] at hc
        | some v =>
          rcases Reconcile.value_absent hv with ⟨_, i, hi, rfl⟩
          simp [hcurrent, hv, CacheValue.containsMarker, CacheValue.items, Item.isMarkedBy,
            h i hi] at hc
      | some c =>
        -- a value that is left alone agrees with the merged one, so both carry the same markers
        have hnext : (Reconcile.present m target.2 authoritative c).containsMarker m' = true := by
          rw [hcurrent] at hc
          simp only [Reconcile.value] at hc
          by_cases hsame : c.same (Reconcile.present m target.2 authoritative c) = true
          · rw [if_pos hsame] at hc
            rw [← CacheValue.containsMarker_eq_of_same hsame]
            exact hc
          · rw [if_neg hsame] at hc
            exact hc
        exact Reconcile.containsMarker_present h hnext
    exact ⟨hmerged.2, fun _ => hmerged.1⟩
  · rw [carries_eq_of_entryAt? (entryAt?_merge_of_ne hk)] at hc
    exact ⟨hc, fun hk' => absurd hk' hk⟩

/-- So does merging into several targets. -/
theorem carries_mergeAll (h : ∀ i, authoritative = some i → i.marker = none)
    {targets : List (QueryKey × MergeRule)}
    (hc : (s.mergeAll m authoritative now targets).carries k m' = true) :
    s.carries k m' = true ∧ (k ∈ targets.map Prod.fst → m' ≠ m) := by
  induction targets generalizing s with
  | nil => exact ⟨hc, fun hk => absurd hk List.not_mem_nil⟩
  | cons target rest ih =>
    rcases ih hc with ⟨hmerged, hrest⟩
    rcases carries_merge h hmerged with ⟨hbefore, hhead⟩
    refine ⟨hbefore, fun hk => ?_⟩
    rcases List.mem_cons.mp hk with hk | hk
    · exact hhead hk
    · exact hrest hk

/-- A commit adds no marker, and the marker of its mutation is gone from every target. -/
theorem carries_commit {p : PendingMutation} (hp : p.state = .pending)
    {dependencies : DependencyMap} (h : ∀ i, authoritative = some i → i.marker = none)
    (hc : (p.commit s dependencies authoritative now).2.2.carries k m' = true) :
    s.carries k m' = true ∧ (k ∈ p.targets.map Prod.fst → m' ≠ p.id) := by
  rw [PendingMutation.commit_store hp] at hc
  unfold carries at hc
  rw [peek_invalidateAll] at hc
  exact carries_mergeAll h hc

/-- A patch brings in no marker but that of its mutation, and only where it takes effect. -/
theorem carries_applyOne {b : Provisional.Begun} {p : QueryKey × Patch}
    (hc : (Provisional.applyOne m now b p).store.carries k m' = true) :
    b.store.carries k m' = true ∨
      (m' = m ∧ (decide (p.1 = k) && Provisional.takesEffect m b p) = true) := by
  by_cases heffect : (decide (p.1 = k) && Provisional.takesEffect m b p) = true
  · rcases Bool.and_eq_true_iff.mp heffect with ⟨hk, hsome⟩
    obtain rfl := of_decide_eq_true hk
    rcases Option.isSome_iff_exists.mp hsome with ⟨v, hv⟩
    unfold carries peek at hc
    rw [Provisional.entryAt?_applyOne, if_pos rfl, hv] at hc
    rcases Patch.carriesMarker_apply hv hc with hown | hbefore
    · exact Or.inr ⟨hown, heffect⟩
    · exact Or.inl hbefore
  · have hsame := Provisional.entryAt?_applyOne_of_not_takesEffect now
      (Bool.eq_false_iff.mpr heffect)
    rw [carries_eq_of_entryAt? hsame] at hc
    exact Or.inl hc

/-- So do several patches. -/
theorem carries_foldl_applyOne {b : Provisional.Begun} {ps : List (QueryKey × Patch)}
    (hc : (ps.foldl (Provisional.applyOne m now) b).store.carries k m' = true) :
    b.store.carries k m' = true ∨ (m' = m ∧ Provisional.changes m now k b ps = true) := by
  induction ps generalizing b with
  | nil => exact Or.inl hc
  | cons p ps ih =>
    rcases ih hc with hone | ⟨hown, hrest⟩
    · rcases carries_applyOne hone with hbefore | ⟨hown, heffect⟩
      · exact Or.inl hbefore
      · exact Or.inr ⟨hown, by simp [Provisional.changes, heffect]⟩
    · exact Or.inr ⟨hown, by simp [Provisional.changes, hrest]⟩

/-- A begin adds its own marker only, and only under the keys that it changes. -/
theorem carries_begin {next : Nat} {ps : List (QueryKey × Patch)}
    (hc : (Provisional.begin s next m ps now).store.carries k m' = true) :
    s.carries k m' = true ∨ (m' = m ∧ Provisional.changedBy s next m ps now k = true) :=
  carries_foldl_applyOne hc

/-- The snapshot of a begin carries what the changed keys carried before. -/
theorem carries_snapshot_begin (s : Store) (next : Nat) (m : MutationId)
    (ps : List (QueryKey × Patch)) (now : Int) (k : QueryKey) (m' : MutationId) :
    (Provisional.begin s next m ps now).snapshot.carries k m' =
      (Provisional.changedBy s next m ps now k && s.carries k m') := by
  unfold Snapshot.carries Snapshot.previous?
  rw [Provisional.recorded?_begin]
  by_cases hchanged : Provisional.changedBy s next m ps now k = true
  · rw [if_pos hchanged, hchanged]
    rfl
  · rw [if_neg hchanged, Bool.eq_false_iff.mpr hchanged]
    rfl

/-- A restored key carries the markers that were recorded, and the other keys keep theirs. -/
theorem carries_restore {snapshot : Snapshot} (h : snapshot.keys.Nodup) (s : Store)
    (k : QueryKey) (m : MutationId) :
    (snapshot.restore s).2.carries k m =
      if k ∈ snapshot.keys then snapshot.carries k m else s.carries k m := by
  unfold carries peek Snapshot.carries Snapshot.previous?
  rw [Snapshot.entryAt?_restore h]
  by_cases hk : k ∈ snapshot.keys
  · rcases Option.isSome_iff_exists.mp (Snapshot.mem_keys_iff.mp hk) with ⟨previous, hprevious⟩
    rw [if_pos hk, hprevious]
    cases previous <;> rfl
  · have hnone : snapshot.recorded? k = none := by
      simpa using mt Snapshot.mem_keys_iff.mpr hk
    rw [if_neg hk, hnone]

/-- An operation that does not write a key leaves its markers alone. -/
theorem carries_perform_of_not_writes {o : StoreOp} (h : o.writes k = false) (s : Store)
    (m : MutationId) : (s.perform o).carries k m = s.carries k m := by
  unfold carries peek
  rw [entryAt?_perform h, Option.map_map]
  rfl

/-- An operation that stores only values without provisional items adds no marker. -/
theorem carries_perform {o : StoreOp} (h : o.Unmarked)
    (hc : (s.perform o).carries k m = true) : s.carries k m = true := by
  by_cases hwrites : o.writes k = true
  · cases o with
    | get k' now | subscribe k' | unsubscribe sub | invalidate k' | takeQueued | completeRefetch k' =>
      cases hwrites
    | set k' v now =>
      obtain rfl : k = k' := of_decide_eq_true hwrites
      have hv : v.containsMarker m = true := by
        simpa [carries, peek, perform, entryAt?_set, Entry.fresh] using hc
      rw [CacheValue.containsMarker_of_not_hasProvisional h] at hv
      cases hv
    | setFetched k' v now =>
      obtain rfl : k = k' := of_decide_eq_true hwrites
      have hv : v.containsMarker m = true := by
        simpa [carries, peek, perform, entryAt?_setFetched] using hc
      rw [CacheValue.containsMarker_of_not_hasProvisional h] at hv
      cases hv
    | replaceWith k' update now =>
      obtain rfl : k = k' := of_decide_eq_true hwrites
      simp only [carries, perform, peek_replaceWith_self] at hc
      cases hv : update (s.peek k) with
      | none => simpa [hv, carries] using hc
      | some v => exact h (s.peek k) v m hv (by simpa [hv] using hc)
    | remove k' =>
      obtain rfl : k = k' := of_decide_eq_true hwrites
      simp [carries, peek, perform, entryAt?_remove] at hc
  · rw [carries_perform_of_not_writes (Bool.eq_false_iff.mpr hwrites)] at hc
    exact hc

end Store
end OptimisticCache
