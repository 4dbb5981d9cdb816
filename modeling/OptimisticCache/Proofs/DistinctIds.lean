import OptimisticCache.Proofs.CachedValues
import OptimisticCache.Proofs.Ensemble
import OptimisticCache.Proofs.ListOutcome
/-!
# No item stands twice in a list

As long as the values that are stored hold no id twice, no list in the store ever
does, nor does a list in the snapshot of a mutation that is pending.  A patch adds one
placeholder, whose id is new; a merge puts the authoritative item in place of the item
with its id, if there is one; everything else keeps ids or drops them.  Since a
snapshot is taken of a store whose lists are in order, it puts such lists back, however
the mutations overlap.

A creation that commits therefore finds at most one item with the id of its
authoritative item, and leaves exactly one, whatever has been written to the list
since the mutation began.

Main results:

- Theorem {lit}`Ensemble.idsDistinct_step`: every action keeps the ids of all lists
  distinct.
- Theorem {lit}`Store.holdsOnce_merge_insert`: a creation leaves its authoritative item
  once.
- Theorem {lit}`Ensemble.idsDistinct_and_holdsOnce`: both, in every state of a run.
-/

namespace OptimisticCache

/-- No id stands twice in the value. -/
def CacheValue.IdsDistinct (v : CacheValue) : Prop :=
  v.ids.Nodup

/-- No value in the store holds an id twice. -/
def Store.IdsDistinct (s : Store) : Prop :=
  s.All fun _ v => v.IdsDistinct

/-- No value in the snapshot holds an id twice. -/
def Snapshot.IdsDistinct (s : Snapshot) : Prop :=
  s.All fun _ v => v.IdsDistinct

/-- The operation stores no value that holds an id twice. -/
def StoreOp.IdsDistinct (o : StoreOp) : Prop :=
  o.Stores fun _ v => v.IdsDistinct

/-- The key holds a list with exactly one item of the id of `s`, and this item agrees with `s`. -/
def Store.HoldsOnce (store : Store) (k : QueryKey) (s : Item) : Prop :=
  ∃ is i, store.peek k = some (.list is) ∧ is.filter (fun j => j.id = s.id) = [i] ∧
    i.same s = true

/-- No item in the store has the id of the `n`th placeholder. -/
def Store.Unused (s : Store) (n : Nat) : Prop :=
  ∀ k v, s.peek k = some v → Item.placeholderId n ∉ v.ids

/-- A store without placeholders uses no id of one. -/
theorem Store.unused_of_notPlaceholder {s : Store}
    (h : ∀ k v, s.peek k = some v → ∀ i ∈ v.items, i.isPlaceholder = false) (n : Nat) :
    s.Unused n := by
  intro k v hv hid
  rcases List.mem_map.mp hid with ⟨i, hi, hin⟩
  have hplaceholder : i.isPlaceholder = true :=
    (Item.isPlaceholder_eq_of_id_eq hin).trans (Item.placeholder_isPlaceholder n ⟨0⟩ .null)
  rw [h k v hv i hi] at hplaceholder
  cases hplaceholder

/-- A record has one item only. -/
theorem CacheValue.idsDistinct_record (i : Item) : (record i).IdsDistinct := by
  simp [IdsDistinct]

/-! ## Lists -/

namespace Reconcile

variable {m : MutationId} {rule : MergeRule} {authoritative : Option Item} {s : Item}
  {is : List Item}

/-- A new item in place of another one is not there twice. -/
theorem nodup_ids_replaceFirst {p : Item → Bool} (h : (is.map Item.id).Nodup)
    (hnew : s.id ∉ is.map Item.id) : ((replaceFirst p s is).map Item.id).Nodup := by
  unfold replaceFirst
  induction is with
  | nil => exact h
  | cons i is ih =>
    rcases List.nodup_cons.mp h with ⟨hhead, htail⟩
    simp only [List.map_cons, List.mem_cons, not_or] at hnew
    unfold Item.changeFirst
    by_cases hi : p i = true
    · rw [if_pos hi]
      exact List.nodup_cons.mpr ⟨hnew.2, htail⟩
    · rw [if_neg hi]
      refine List.nodup_cons.mpr ⟨?_, ih htail hnew.2⟩
      intro hmem
      rcases List.mem_map.mp hmem with ⟨j, hj, hid⟩
      rcases Item.mem_changeFirst hj with ⟨_, _, rfl⟩ | hj
      · exact hnew.1 hid
      · exact hhead (List.mem_map.mpr ⟨j, hj, hid⟩)

/-- An insertion brings no id in twice. -/
theorem nodup_ids_insertItem (h : (is.map Item.id).Nodup) (m : MutationId) (s : Item) :
    ((insertItem m s is).map Item.id).Nodup := by
  unfold insertItem
  by_cases hany : (is.any fun i => i.id = s.id) = true
  · rw [if_pos hany, map_id_replaceFirst_of_id s s.id rfl]
    exact h
  · have hnew : s.id ∉ is.map Item.id := by simpa using hany
    rw [if_neg hany]
    split
    · exact nodup_ids_replaceFirst h hnew
    · exact List.nodup_cons.mpr ⟨hnew, h⟩

/-- Neither does a merge. -/
theorem nodup_ids_mergeList (h : (is.map Item.id).Nodup) :
    ((mergeList m rule authoritative is).map Item.id).Nodup := by
  unfold mergeList
  split
  · exact nodup_ids_insertItem h m _
  · exact h
  · rename_i id s
    split
    · rename_i hs
      rw [map_id_replaceFirst_of_id s id hs]
      exact h
    · exact h
  · exact h
  · exact (List.eraseP_sublist.map Item.id).nodup h

/-- Stripping a marker drops items and adds none. -/
theorem map_id_stripMarker_sublist (m : MutationId) (is : List Item) :
    ((stripMarker m is).map Item.id).Sublist (is.map Item.id) := by
  have hids : (stripMarker m is).map Item.id =
      (is.filter fun i => !isOwnPlaceholder m i).map Item.id := by
    rw [stripMarker, List.map_map]
    apply List.map_congr_left
    intro i _
    by_cases hi : i.isMarkedBy m = true
    · simp [hi, Item.confirmed]
    · simp [hi]
  rw [hids]
  exact List.filter_sublist.map Item.id

/-- A merge makes no id stand twice. -/
theorem idsDistinct_value {current : Option CacheValue} {v : CacheValue}
    (h : ∀ c, current = some c → c.IdsDistinct) (hv : value m rule authoritative current = some v) :
    v.IdsDistinct := by
  cases current with
  | none =>
    rcases value_absent hv with ⟨_, s, _, rfl⟩
    simp [CacheValue.IdsDistinct]
  | some c =>
    have hpresent : (present m rule authoritative c).IdsDistinct := by
      cases c with
      | list is =>
        have hmerged : ((mergeList m rule authoritative is).map Item.id).Nodup :=
          nodup_ids_mergeList (h _ rfl)
        exact (map_id_stripMarker_sublist m _).nodup hmerged
      | record r => exact CacheValue.idsDistinct_record _
    rw [value_present hv]
    exact hpresent

/-! ### The authoritative item -/

/-- An unmarked item is neither dropped nor confirmed. -/
theorem mem_stripMarker_of_unmarked {i : Item} (h : i ∈ is) (hi : i.marker = none) :
    i ∈ stripMarker m is := by
  have hmarked : i.isMarkedBy m = false := by simp [Item.isMarkedBy, hi]
  refine List.mem_map.mpr ⟨i, List.mem_filter.mpr ⟨h, ?_⟩, by simp [hmarked]⟩
  simp [isOwnPlaceholder, hmarked]

/-- A replacement is in the list afterwards. -/
theorem mem_replaceFirst_self {p : Item → Bool} (h : is.any p = true) :
    s ∈ replaceFirst p s is := by
  unfold replaceFirst
  induction is with
  | nil => cases h
  | cons i is ih =>
    unfold Item.changeFirst
    by_cases hi : p i = true
    · rw [if_pos hi]
      exact List.mem_cons_self
    · rw [if_neg hi]
      rw [List.any_cons, Bool.or_eq_true] at h
      exact List.mem_cons_of_mem i (ih (h.resolve_left hi))

/-- An inserted item is in the list afterwards. -/
theorem mem_insertItem_self (m : MutationId) (s : Item) (is : List Item) :
    s ∈ insertItem m s is := by
  unfold insertItem
  split
  · rename_i hany
    exact mem_replaceFirst_self hany
  · split
    · rename_i hany
      exact mem_replaceFirst_self hany
    · exact List.mem_cons_self

/-- A list with an item that agrees with the authoritative one keeps such an item, unless the
item is removed. -/
theorem exists_same_mergeList (h : ∃ i ∈ is, i.same s = true) (hrule : rule ≠ .remove s.id) :
    ∃ i ∈ mergeList m rule (some s) is, i.same s = true := by
  rcases h with ⟨i, hi, hsame⟩
  have hid : i.id = s.id := Item.id_eq_of_same hsame
  cases rule with
  | insert => exact ⟨s, mem_insertItem_self m s is, Item.same_refl s⟩
  | update id =>
    unfold mergeList
    by_cases hs : s.id = id
    · have hany : (is.any fun j => j.id = id) = true :=
        List.any_eq_true.mpr ⟨i, hi, decide_eq_true (hid.trans hs)⟩
      simp only [if_pos hs]
      exact ⟨s, mem_replaceFirst_self hany, Item.same_refl s⟩
    · simp only [if_neg hs]
      exact ⟨i, hi, hsame⟩
  | remove id =>
    have hne : i.id ≠ id := by
      rintro rfl
      exact hrule (by rw [hid])
    have hkept : i ∈ is.eraseP fun j => j.id = id :=
      (List.mem_eraseP_of_neg (by simpa using hne)).mpr hi
    exact ⟨i, hkept, hsame⟩

/-- After an insertion of an unmarked item into a list or under an absent key, an item that
agrees with it is there. -/
theorem exists_same_insert (hs : s.marker = none) {current : Option CacheValue}
    (hcurrent : ∀ r, current ≠ some (.record r)) :
    ∃ js, (value m .insert (some s) current).or current = some (.list js) ∧
      ∃ i ∈ js, i.same s = true := by
  rcases current with _ | is | r
  · exact ⟨[s], rfl, s, List.mem_singleton.mpr rfl, Item.same_refl s⟩
  · have hmem : s ∈ list m .insert (some s) is :=
      mem_stripMarker_of_unmarked (mem_insertItem_self m s is) hs
    rcases value_or_cases m .insert (some s) (.list is) with hnew | ⟨hkept, hagree⟩
    · exact ⟨_, hnew, s, hmem, Item.same_refl s⟩
    · exact ⟨is, hkept, CacheValue.exists_same_of_sameItems hagree hmem⟩
  · exact absurd rfl (hcurrent r)

/-- An item that agrees with the unmarked authoritative one stays through every merge but its
removal. -/
theorem exists_same_value (hs : s.marker = none) (hrule : rule ≠ .remove s.id)
    (h : ∃ i ∈ is, i.same s = true) :
    ∃ js, (value m rule (some s) (some (.list is))).or (some (.list is)) = some (.list js) ∧
      ∃ i ∈ js, i.same s = true := by
  rcases value_or_cases m rule (some s) (.list is) with hnew | ⟨hkept, _⟩
  · rcases exists_same_mergeList (m := m) h hrule with ⟨i, hi, hsame⟩
    have hi' : i ∈ list m rule (some s) is :=
      mem_stripMarker_of_unmarked hi ((Item.marker_eq_of_same hsame).trans hs)
    exact ⟨_, hnew, i, hi', hsame⟩
  · exact ⟨is, hkept, h⟩

end Reconcile

/-! ## Patches -/

namespace Patch

variable {p : Patch} {freshId : String} {m : MutationId} {current : Option CacheValue}
  {v : CacheValue}

/-- A patch adds no id but that of its placeholder. -/
theorem mem_ids_apply {id : String} (hv : p.apply freshId m current = some v) (hid : id ∈ v.ids) :
    (p.inserts?.isSome = true ∧ id = freshId) ∨ ∃ c, current = some c ∧ id ∈ c.ids := by
  cases effect_of_apply hv with
  | created hp => exact Or.inl ⟨by rw [hp]; rfl, List.mem_singleton.mp hid⟩
  | inserted hp front back =>
    rw [CacheValue.ids_list, List.map_append, List.mem_append] at hid
    rcases hid with hid | hid
    · exact Or.inr ⟨_, rfl, by simp [hid]⟩
    · rcases List.mem_cons.mp hid with hid | hid
      · exact Or.inl ⟨by rw [hp]; rfl, hid⟩
      · exact Or.inr ⟨_, rfl, by simp [hid]⟩
  | changed target edits items =>
    rw [CacheValue.ids_list, Item.map_id_changeFirst fun i _ => Item.edited_id edits m i] at hid
    exact Or.inr ⟨_, rfl, hid⟩
  | edited item edits => exact Or.inr ⟨_, rfl, by simpa [Item.edited_id] using hid⟩
  | removed target items =>
    exact Or.inr ⟨_, rfl, (List.eraseP_sublist.map Item.id).subset hid⟩

/-- A patch makes no id stand twice if the id of its placeholder is new. -/
theorem idsDistinct_apply (h : ∀ c, current = some c → c.IdsDistinct)
    (hnew : p.inserts?.isSome = true → ∀ c, current = some c → freshId ∉ c.ids)
    (hv : p.apply freshId m current = some v) : v.IdsDistinct := by
  cases effect_of_apply hv with
  | created _ => simp [CacheValue.IdsDistinct]
  | @inserted _ data hp front back =>
    have hfresh : freshId ∉ (front ++ back).map Item.id := hnew (by rw [hp]; rfl) _ rfl
    have hperm : ((front ++ Item.placeholder freshId m data :: back).map Item.id).Perm
        (freshId :: (front ++ back).map Item.id) := List.perm_middle.map Item.id
    exact hperm.nodup_iff.mpr (List.nodup_cons.mpr ⟨hfresh, h _ rfl⟩)
  | changed target edits items =>
    rw [CacheValue.IdsDistinct, CacheValue.ids_list,
      Item.map_id_changeFirst fun i _ => Item.edited_id edits m i]
    exact h _ rfl
  | edited item edits => exact CacheValue.idsDistinct_record _
  | removed target items => exact (List.eraseP_sublist.map Item.id).nodup (h _ rfl)

end Patch

/-! ## Writes of the store -/

namespace Store

variable {s : Store} {k : QueryKey} {now : Int}

/-- Ids stay distinct when an answer is merged into several keys. -/
theorem IdsDistinct.mergeAll (h : s.IdsDistinct) (m : MutationId) (authoritative : Option Item)
    (now : Int) (targets : List (QueryKey × MergeRule)) :
    (s.mergeAll m authoritative now targets).IdsDistinct :=
  All.mergeAll h (fun _ _ _ _ hc hv => Reconcile.idsDistinct_value hc hv) now

/-- In a store whose lists hold no id twice, one item that agrees with `s` is the only one with
its id. -/
theorem HoldsOnce.of_mem (h : s.IdsDistinct) {is : List Item} (hk : s.peek k = some (.list is))
    {a i : Item} (hi : i ∈ is) (hsame : i.same a = true) : s.HoldsOnce k a := by
  have hid : i.id = a.id := Item.id_eq_of_same hsame
  rcases List.append_of_mem hi with ⟨front, back, rfl⟩
  have hnodup : (front.map Item.id ++ i.id :: back.map Item.id).Nodup := by
    have hids : CacheValue.IdsDistinct (.list (front ++ i :: back)) := h k _ hk
    rw [CacheValue.IdsDistinct, CacheValue.ids_list, List.map_append, List.map_cons] at hids
    exact hids
  rcases List.nodup_append.mp hnodup with ⟨_, htail, hdisjoint⟩
  have hfront : front.filter (fun j => j.id = a.id) = [] := by
    rw [List.filter_eq_nil_iff]
    intro j hj hja
    refine hdisjoint j.id (List.mem_map_of_mem hj) i.id List.mem_cons_self ?_
    rw [of_decide_eq_true hja, hid]
  have hback : back.filter (fun j => j.id = a.id) = [] := by
    rw [List.filter_eq_nil_iff]
    intro j hj hja
    apply (List.nodup_cons.mp htail).1
    rw [hid, ← of_decide_eq_true hja]
    exact List.mem_map_of_mem hj
  refine ⟨_, i, hk, ?_, hsame⟩
  rw [List.filter_append, hfront, List.filter_cons, hback, if_pos (decide_eq_true hid)]
  rfl

/-- A creation leaves its authoritative item once in a list, or under an absent key. -/
theorem holdsOnce_merge_insert (h : s.IdsDistinct) {a : Item} (ha : a.marker = none)
    (hk : ∀ r, s.peek k ≠ some (.record r)) (m : MutationId) (now : Int) :
    (s.merge m (some a) now (k, .insert)).HoldsOnce k a := by
  rcases Reconcile.exists_same_insert (m := m) ha hk with ⟨js, hjs, i, hi, hsame⟩
  rw [← peek_merge_self s m (some a) now (k, .insert)] at hjs
  exact HoldsOnce.of_mem (h.mergeAll m (some a) now [(k, .insert)]) hjs hi hsame

/-- A key that holds an answer once still does when the answer is merged into a key, unless it is to
be removed there. -/
theorem HoldsOnce.merge (h : s.IdsDistinct) {a : Item} (ha : a.marker = none)
    (honce : s.HoldsOnce k a) {target : QueryKey × MergeRule} (htarget : target ≠ (k, .remove a.id))
    (m : MutationId) (now : Int) : (s.merge m (some a) now target).HoldsOnce k a := by
  rcases honce with ⟨is, i, hk, hfilter, hsame⟩
  by_cases hkey : k = target.1
  · subst hkey
    have hi : i ∈ is := (List.mem_filter.mp (hfilter ▸ List.mem_singleton.mpr rfl)).1
    have hrule : target.2 ≠ .remove a.id := fun hrule => htarget (Prod.ext rfl hrule)
    rcases Reconcile.exists_same_value (m := m) ha hrule ⟨i, hi, hsame⟩ with ⟨js, hjs, j, hj, hja⟩
    rw [← hk, ← peek_merge_self s m (some a) now target] at hjs
    exact HoldsOnce.of_mem (h.mergeAll m (some a) now [target]) hjs hj hja
  · refine ⟨is, i, ?_, hfilter, hsame⟩
    rw [peek_merge_of_ne hkey]
    exact hk

/-- The authoritative item stays there once through all merges but its removal. -/
theorem HoldsOnce.mergeAll (h : s.IdsDistinct) {a : Item} (ha : a.marker = none)
    (honce : s.HoldsOnce k a) {targets : List (QueryKey × MergeRule)}
    (htargets : (k, .remove a.id) ∉ targets) (m : MutationId) (now : Int) :
    (s.mergeAll m (some a) now targets).HoldsOnce k a := by
  induction targets generalizing s with
  | nil => exact honce
  | cons target rest ih =>
    rcases not_or.mp (mt List.mem_cons.mpr htargets) with ⟨hhead, htail⟩
    exact ih (h.mergeAll m (some a) now [target]) (honce.merge h ha (Ne.symm hhead) m now) htail

/-- Invalidations leave it there. -/
theorem HoldsOnce.invalidateAll {a : Item} (h : s.HoldsOnce k a) (ks : List QueryKey) :
    (s.invalidateAll ks).HoldsOnce k a := by
  rcases h with ⟨is, i, hk, h⟩
  exact ⟨is, i, (peek_invalidateAll s ks k).trans hk, h⟩

/-- Merges do not turn a key that holds no record into one that does. -/
theorem peek_mergeAll_ne_record (h : ∀ r, s.peek k ≠ some (.record r)) (m : MutationId)
    (authoritative : Option Item) (now : Int) (targets : List (QueryKey × MergeRule)) :
    ∀ r, (s.mergeAll m authoritative now targets).peek k ≠ some (.record r) := by
  induction targets generalizing s with
  | nil => exact h
  | cons target rest ih =>
    apply ih
    intro r hr
    by_cases hkey : k = target.1
    · subst hkey
      rw [peek_merge_self] at hr
      rcases hcurrent : s.peek target.1 with _ | is | r'
      · rw [hcurrent, Option.or_none] at hr
        rcases Reconcile.value_absent hr with ⟨_, i, _, hlist⟩
        cases hlist
      · rw [hcurrent] at hr
        rcases Reconcile.value_or_cases m target.2 authoritative (.list is) with hnew | ⟨hkept, _⟩
        · rw [hnew] at hr
          cases hr
        · rw [hkept] at hr
          cases hr
      · exact h r' hcurrent
    · rw [peek_merge_of_ne hkey] at hr
      exact h r hr

end Store

/-! ## A begin -/

namespace Provisional

variable {m : MutationId} {now : Int} {b : Begun} {p : QueryKey × Patch}
  {ps : List (QueryKey × Patch)} {n : Nat}

/-- A placeholder that is drawn later stays unused. -/
theorem unused_applyOne (h : b.store.Unused n)
    (hn : (applyOne m now b p).nextPlaceholder ≤ n) : (applyOne m now b p).store.Unused n := by
  intro k v hv hid
  rw [store_applyOne] at hv
  by_cases hk : k = p.1
  · subst hk
    rw [Store.peek_replaceWith_self] at hv
    cases hnew : p.2.apply (Item.placeholderId b.nextPlaceholder) m (b.store.peek p.1) with
    | none =>
      rw [hnew] at hv
      exact h p.1 v hv hid
    | some w =>
      rw [hnew] at hv
      obtain rfl := Option.some.inj hv
      rcases Patch.mem_ids_apply hnew hid with ⟨hneeds, hid⟩ | ⟨c, hc, hid⟩
      · have hsame := Item.placeholderId_injective hid
        rw [nextPlaceholder_applyOne, if_pos hneeds] at hn
        omega
      · exact h p.1 c hc hid
  · rw [Store.peek_replaceWith_of_ne hk] at hv
    exact h k v hv hid

/-- Patches make no id stand twice if every placeholder that they draw is unused before. -/
theorem idsDistinct_foldl (h : b.store.IdsDistinct)
    (hnew : ∀ n, b.nextPlaceholder ≤ n → n < (ps.foldl (applyOne m now) b).nextPlaceholder →
      b.store.Unused n) :
    (ps.foldl (applyOne m now) b).store.IdsDistinct := by
  induction ps generalizing b with
  | nil => exact h
  | cons p ps ih =>
    have hnext := nextPlaceholder_applyOne m now b p
    have hlast := nextPlaceholder_le_foldl m now (applyOne m now b p) ps
    apply ih
    · rw [store_applyOne]
      apply h.replaceWith
      intro v hv
      refine Patch.idsDistinct_apply (h p.1) ?_ hv
      intro hneeds c hc
      rw [if_pos hneeds] at hnext
      exact hnew b.nextPlaceholder (Nat.le_refl _)
        (by rw [List.foldl_cons]; omega) p.1 c hc
    · intro n hn hlt
      apply unused_applyOne _ hn
      apply hnew n _ hlt
      split at hnext <;> omega

end Provisional

/-! ## Runs -/

namespace Ensemble

/-- No list in the store holds an id twice, and no list in the snapshot of a pending mutation. -/
structure IdsDistinct (e : Ensemble) : Prop where
  stored : e.store.IdsDistinct
  recorded : ∀ m s, e.snapshot? m = some s → s.IdsDistinct

/-- What the action stores on its own account holds no id twice. -/
def Action.IdsDistinct : Action → Prop
  | operate o => o.IdsDistinct
  | begin .. | commit .. | undo .. => True

/-- Every placeholder that the action draws has a new id: no item in the store has it. -/
def DrawsNew (e : Ensemble) (a : Action) : Prop :=
  ∀ n, e.client.nextPlaceholder ≤ n → n < (e.step a).client.nextPlaceholder → e.store.Unused n

variable {e : Ensemble} {a : Action}

/-- An operation on the store draws no placeholder. -/
theorem drawsNew_operate (e : Ensemble) (o : StoreOp) : e.DrawsNew (.operate o) := by
  intro n hle hlt
  exact absurd hlt (Nat.not_lt.mpr hle)

/-- A client without mutations has no snapshots to look at. -/
theorem idsDistinct_ofClient {c : Client} (h : c.store.IdsDistinct) : (ofClient c).IdsDistinct :=
  ⟨h, fun _ _ hs => by cases hs⟩

/-- Settling a mutation only drops its snapshot. -/
theorem idsDistinct_update_settled (h : e.IdsDistinct) {state : MutationState}
    (hstate : state ≠ .pending) (m : MutationId) (p : PendingMutation) {s : Store}
    (hs : s.IdsDistinct) : (e.update m (p.settled state) s).IdsDistinct := by
  refine ⟨hs, ?_⟩
  intro m' snapshot hsnapshot
  rw [snapshot?_update_settled hstate] at hsnapshot
  split at hsnapshot
  · cases hsnapshot
  · exact h.recorded m' snapshot hsnapshot

/-- A begin records the lists that were in the store. -/
theorem idsDistinct_begin (h : e.IdsDistinct) {kind : MutationKind} {scope : Scope}
    {patches : List (QueryKey × Patch)} {now : Int}
    (hnew : e.DrawsNew (.begin kind scope patches now)) :
    (e.step (.begin kind scope patches now)).IdsDistinct := by
  constructor
  · exact Provisional.idsDistinct_foldl h.stored hnew
  · intro m s hs
    rw [snapshot?_step_begin] at hs
    split at hs
    · obtain rfl := Option.some.inj hs
      exact Snapshot.All.begin h.stored _ _ _ _
    · exact h.recorded m s hs

/-- Every action keeps the ids of all lists distinct. -/
theorem idsDistinct_step (ht : e.Tracked) (h : e.IdsDistinct) (ha : a.IdsDistinct)
    (hnew : e.DrawsNew a) : (e.step a).IdsDistinct := by
  cases a with
  | operate o => exact ⟨h.stored.perform ha, h.recorded⟩
  | begin kind scope patches now => exact idsDistinct_begin h hnew
  | commit m dependencies authoritative now =>
    rcases step_commit_cases e m dependencies authoritative now with hsame | ⟨p, _, hp, hstep⟩
    · rw [hsame]
      exact h
    · rw [hstep, PendingMutation.commit_store hp]
      exact idsDistinct_update_settled h (by decide) m p ((h.stored.mergeAll _ _ _ _).invalidateAll _)
  | undo m u =>
    rcases step_undo_cases e m u with hsame | ⟨p, hm, hp, hstep⟩
    · rw [hsame]
      exact h
    · rcases ht.snapshot m p hm hp with ⟨s, hs, hnodup, _⟩
      have hrecorded := h.recorded m s (snapshot?_eq_some_iff.mpr ⟨p, hm, hp, hs⟩)
      rw [hstep, PendingMutation.undo_of_pending hp hs]
      exact idsDistinct_update_settled h (by decide) m p (h.stored.restore hnodup hrecorded)

/-- Ids stay distinct over a whole run in which every placeholder is new. -/
theorem idsDistinct_run {as : List Action} (ht : e.Tracked) (h : e.IdsDistinct)
    (has : ∀ a ∈ as, a.IdsDistinct)
    (hnew : ∀ front a back, as = front ++ a :: back → (e.run front).DrawsNew a) :
    (e.run as).IdsDistinct := by
  induction as generalizing e with
  | nil => exact h
  | cons a as ih =>
    have hstep : (e.step a).IdsDistinct :=
      idsDistinct_step ht h (has a List.mem_cons_self) (hnew [] a as rfl)
    apply ih (tracked_step ht a) hstep
    · intro b hb
      exact has b (List.mem_cons_of_mem a hb)
    · intro front b back hsplit
      exact hnew (a :: front) b back (by rw [hsplit]; rfl)

/-- In every state of a run, no list in the store holds an id twice, and no list in the snapshot
of a pending mutation.  If a pending mutation commits from there with an unmarked item, each of
its creations leaves, under a key that holds no record, exactly one item with the id of this
item, and the one agrees with it; so does the whole commit, unless the mutation goes on to
remove that id from the key. -/
theorem idsDistinct_and_holdsOnce (c : Client) (as : List Action) (hc : c.store.IdsDistinct)
    (has : ∀ a ∈ as, a.IdsDistinct)
    (hnew : ∀ front a back, as = front ++ a :: back → ((ofClient c).run front).DrawsNew a) :
    let e := (ofClient c).run as
    e.IdsDistinct ∧
    ∀ m p, e.pending? m = some p → ∀ dependencies s now, s.marker = none →
      ∀ front k back, p.targets = front ++ (k, .insert) :: back →
        (∀ r, e.store.peek k ≠ some (.record r)) →
        ((e.store.mergeAll m (some s) now front).merge m (some s) now (k, .insert)).HoldsOnce k s ∧
        ((k, .remove s.id) ∉ back →
          (e.step (.commit m dependencies (some s) now)).store.HoldsOnce k s) := by
  intro e
  have ht : e.Tracked := tracked_run (tracked_ofClient c) as
  have he : e.IdsDistinct :=
    idsDistinct_run (tracked_ofClient c) (idsDistinct_ofClient hc) has hnew
  refine ⟨he, ?_⟩
  intro m p hpending dependencies s now hs front k back htargets hk
  rcases pending?_eq_some_iff.mp hpending with ⟨hm, hp⟩
  let before := e.store.mergeAll m (some s) now front
  have hbefore : before.IdsDistinct := he.stored.mergeAll m (some s) now front
  have hmerged : (before.merge m (some s) now (k, .insert)).HoldsOnce k s :=
    Store.holdsOnce_merge_insert hbefore hs
      (Store.peek_mergeAll_ne_record hk m (some s) now front) m now
  refine ⟨hmerged, ?_⟩
  intro hback
  have hrest : ((before.merge m (some s) now (k, .insert)).mergeAll m (some s) now back).HoldsOnce
      k s :=
    hmerged.mergeAll (hbefore.mergeAll m (some s) now [(k, .insert)]) hs hback m now
  have hstore : (e.step (.commit m dependencies (some s) now)).store =
      ((before.merge m (some s) now (k, .insert)).mergeAll m (some s) now back).invalidateAll
        (dependencies.keysFor p.kind p.scope) := by
    rw [store_step_commit hm hp, htargets, ht.id_eq m p hm]
    unfold Store.mergeAll
    rw [List.foldl_append, List.foldl_cons]
    rfl
  rw [hstore]
  exact hrest.invalidateAll _

/-- While a comment is being created, the list is fetched again and has the new comment already:
once the creation commits, the comment is there once. -/
theorem idsDistinct_and_holdsOnce_refetched :
    let c : Client := { store := Store.empty none }
    let created := Item.new "c2" .null
    let as : List Action :=
      [.operate (.set (.comments "p1") (.list [Item.new "c1" .null]) 0),
        .begin .createComment {} [(.comments "p1", .prepend .null)] 1,
        .operate (.setFetched (.comments "p1") (.list [created, Item.new "c1" .null]) 2)]
    c.store.IdsDistinct ∧ (∀ a ∈ as, a.IdsDistinct) ∧
      (∀ front a back, as = front ++ a :: back → ((ofClient c).run front).DrawsNew a) ∧
      (((ofClient c).run as).step (.commit ⟨1⟩ .standard (some created) 3)).store.HoldsOnce
        (.comments "p1") created := by
  intro c created as
  have hc : c.store.IdsDistinct := by
    intro k v hv
    cases hv
  have has : ∀ a ∈ as, a.IdsDistinct := by
    simp [as, created, Action.IdsDistinct, StoreOp.IdsDistinct, StoreOp.Stores,
      CacheValue.IdsDistinct, Item.new]
  have hnew : ∀ front a back, as = front ++ a :: back → ((ofClient c).run front).DrawsNew a := by
    intro front a back hsplit
    simp only [as] at hsplit
    rcases front with _ | ⟨a₁, _ | ⟨a₂, _ | ⟨a₃, front⟩⟩⟩
    · cases hsplit
      exact drawsNew_operate _ _
    · cases hsplit
      intro n _ _
      apply Store.unused_of_notPlaceholder
      intro k v hv i hi
      have hlist : v = .list [Item.new "c1" .null] := by
        change ((Store.empty none).set (.comments "p1") (.list [Item.new "c1" .null]) 0).peek k =
          some v at hv
        unfold Store.peek at hv
        rw [Store.entryAt?_set] at hv
        split at hv
        · exact (Option.some.inj hv).symm
        · cases hv
      subst hlist
      obtain rfl := List.mem_singleton.mp hi
      decide
    · cases hsplit
      exact drawsNew_operate _ _
    · simp at hsplit
  refine ⟨hc, has, hnew, ?_⟩
  have h := (idsDistinct_and_holdsOnce c as hc has hnew).2 ⟨1⟩ _ rfl .standard created 3 rfl []
    (.comments "p1")
    [] rfl (by rintro r ⟨⟩)
  exact h.2 List.not_mem_nil

end Ensemble
end OptimisticCache
