import OptimisticCache.Proofs.Agenda
import OptimisticCache.Proofs.MergedItems
/-!
# Lists that reflect an outcome

A merge is over when it gives back what it was given.  A list reflects the outcome of a
mutation if nothing in it carries the marker, and the first item with the id that the
rule is about is as the answer says: the answered one, or gone.  These are exactly the
lists that a merge leaves alone, although it does several things that might have
cancelled each other: a new item makes the list longer and a dropped placeholder makes
it shorter, but a placeholder was a marked item, and after the merge there is none.

So the merge of a list has a merge that leaves it alone, and a list that was fetched
after the mutation took effect stays, on whichever side of the commit it lands.

Main results:

- Theorem {lit}`Reconcile.value_list_eq_none_iff`: a merge leaves a list alone if and
  only if the list reflects the outcome.
- Theorem {lit}`Reconcile.reflects_list`: a merged list reflects the outcome.
- Theorem {lit}`PendingMutation.commit_of_reflects`: a commit leaves such a list alone.
- Theorem {lit}`Reconcile.value_eq_none_iff_reflects`: all three, and a second merge.
-/

namespace OptimisticCache

/-! ## Agreement of lists -/

namespace CacheValue

theorem length_eq_of_sameItems {is js : List Item} (h : sameItems is js = true) :
    is.length = js.length := by
  induction is generalizing js with
  | nil =>
    cases js with
    | nil => rfl
    | cons j js => cases h
  | cons i is ih =>
    cases js with
    | nil => cases h
    | cons j js =>
      simp only [sameItems, Bool.and_eq_true] at h
      rw [List.length_cons, List.length_cons, ih h.2]

/-- Lists that differ at one place agree if the items there do. -/
theorem sameItems_at (front : List Item) (i j : Item) (back : List Item) :
    sameItems (front ++ i :: back) (front ++ j :: back) = i.same j := by
  induction front with
  | nil => simp [sameItems, sameItems_refl]
  | cons k front ih => simp [sameItems, Item.same_refl, ih]

end CacheValue

theorem Item.find?_of_any_eq_false {p : Item → Bool} {is : List Item} (h : is.any p = false) :
    is.find? p = none := by
  rw [List.find?_eq_none]
  exact List.any_eq_false.mp h

/-- The first item that satisfies a condition. -/
theorem Item.find?_of_first {p : Item → Bool} {front : List Item} {i : Item}
    (hfront : front.any p = false) (hi : p i = true) (back : List Item) :
    (front ++ i :: back).find? p = some i := by
  rw [List.find?_append, find?_of_any_eq_false hfront, Option.none_or, List.find?_cons_of_pos hi]

namespace Reconcile

/-- A list shows the outcome of a mutation. -/
def Shows (rule : MergeRule) (authoritative : Option Item) (is : List Item) : Prop :=
  match rule, authoritative with
  | .insert, some s => ∃ i, is.find? (fun i => i.id = s.id) = some i ∧ i.same s = true
  | .update id, some s =>
    s.id = id → ∀ i, is.find? (fun i => i.id = id) = some i → i.same s = true
  | .remove id, _ => ∀ i ∈ is, i.id ≠ id
  | .insert, none | .update _, none => True

/-- A list reflects the outcome of a mutation: it shows the outcome, and no item carries the
marker. -/
def Reflects (m : MutationId) (rule : MergeRule) (authoritative : Option Item)
    (is : List Item) : Prop :=
  (∀ i ∈ is, i.marker ≠ some m) ∧ Shows rule authoritative is

variable {m : MutationId} {rule : MergeRule} {authoritative : Option Item} {s : Item}
  {is : List Item} {id : String}

/-! ## What a merge leaves alone -/

/-- A replacement leaves a list alone if there is nothing to replace, or the first item to replace
agrees with the new one. -/
theorem sameItems_replaceFirst_iff (id : String) (s : Item) (is : List Item) :
    CacheValue.sameItems is (replaceFirst (fun i => i.id = id) s is) = true ↔
      ∀ i, is.find? (fun i => i.id = id) = some i → i.same s = true := by
  cases hany : is.any fun i => i.id = id with
  | false =>
    rw [replaceFirst, Item.changeFirst_of_any_eq_false hany, Item.find?_of_any_eq_false hany]
    simp [CacheValue.sameItems_refl]
  | true =>
    obtain ⟨front, i, back, rfl, hfront, hi, hchange⟩ :=
      Item.exists_changeFirst_eq hany fun _ => s
    rw [replaceFirst, hchange, CacheValue.sameItems_at, Item.find?_of_first hfront hi]
    simp

/-- An insertion leaves a list without placeholders of the mutation alone if and only if the first
item with the new id agrees with the new item. -/
theorem sameItems_insertItem_iff (s : Item) (h : is.any (isOwnPlaceholder m) = false) :
    CacheValue.sameItems is (insertItem m s is) = true ↔
      ∃ i, is.find? (fun i => i.id = s.id) = some i ∧ i.same s = true := by
  cases hany : is.any fun i => i.id = s.id with
  | true =>
    obtain ⟨front, i, back, rfl, hfront, hi, -⟩ := Item.exists_changeFirst_eq hany fun _ => s
    rw [insertItem, if_pos hany, sameItems_replaceFirst_iff, Item.find?_of_first hfront hi]
    simp
  | false =>
    rw [insertItem, hany, h, Item.find?_of_any_eq_false hany]
    constructor
    · intro hsame
      -- the new item in front makes the list longer
      have hlength := CacheValue.length_eq_of_sameItems hsame
      simp at hlength
    · rintro ⟨i, hi, -⟩
      cases hi

/-- A removal leaves a list alone if and only if there is nothing to remove. -/
theorem sameItems_eraseP_iff (id : String) (is : List Item) :
    CacheValue.sameItems is (is.eraseP fun i => i.id = id) = true ↔ ∀ i ∈ is, i.id ≠ id := by
  constructor
  · intro hsame i hi hid
    have hlength := CacheValue.length_eq_of_sameItems hsame
    have herased : (is.eraseP fun i => i.id = id).length = is.length - 1 :=
      List.length_eraseP_of_mem hi (by simpa using hid)
    have hpos := List.length_pos_of_mem hi
    omega
  · intro hother
    have herased : (is.eraseP fun i => i.id = id) = is :=
      List.eraseP_of_forall_not fun i hi => by simpa using hother i hi
    rw [herased]
    exact CacheValue.sameItems_refl is

/-- The first pass of a merge leaves a list without the marker alone if and only if the list shows
the outcome. -/
theorem sameItems_mergeList_iff (h : ∀ i ∈ is, i.marker ≠ some m) :
    CacheValue.sameItems is (mergeList m rule authoritative is) = true ↔
      Shows rule authoritative is := by
  cases rule with
  | insert =>
    cases authoritative with
    | none => simp [mergeList, Shows, CacheValue.sameItems_refl]
    | some s =>
      apply sameItems_insertItem_iff
      rw [List.any_eq_false]
      intro i hi
      simp [isOwnPlaceholder, Item.isMarkedBy, h i hi]
  | update id =>
    cases authoritative with
    | none => simp [mergeList, Shows, CacheValue.sameItems_refl]
    | some s =>
      by_cases hs : s.id = id
      · rw [mergeList, if_pos hs, sameItems_replaceFirst_iff]
        simp [Shows, hs]
      · simp [mergeList, Shows, hs, CacheValue.sameItems_refl]
  | remove id => exact sameItems_eraseP_iff id is

/-- A merge leaves a list alone if and only if the list reflects the outcome. -/
theorem value_list_eq_none_iff (ha : ∀ s, authoritative = some s → s.marker ≠ some m)
    (is : List Item) :
    value m rule authoritative (some (.list is)) = none ↔ Reflects m rule authoritative is := by
  have hsame : value m rule authoritative (some (.list is)) = none ↔
      CacheValue.sameItems is (list m rule authoritative is) = true :=
    value_eq_none_iff m rule authoritative (.list is)
  rw [hsame]
  have hstrip : (∀ i ∈ is, i.marker ≠ some m) →
      list m rule authoritative is = mergeList m rule authoritative is := by
    intro hunmarked
    apply stripMarker_of_unmarked
    intro i hi
    have hmarker : i.marker ≠ some m := by
      rcases mem_mergeList hi with hs | hi
      · exact ha i hs
      · exact hunmarked i hi
    simpa [Item.isMarkedBy] using hmarker
  constructor
  · intro hagree
    have hunmarked : ∀ i ∈ is, i.marker ≠ some m := by
      have hany := CacheValue.any_isMarkedBy_of_sameItems hagree m
      rw [list, containsMarker_stripMarker] at hany
      simpa [Item.isMarkedBy] using hany
    rw [hstrip hunmarked] at hagree
    exact ⟨hunmarked, (sameItems_mergeList_iff hunmarked).mp hagree⟩
  · rintro ⟨hunmarked, hshows⟩
    rw [hstrip hunmarked]
    exact (sameItems_mergeList_iff hunmarked).mpr hshows

/-! ## What a merge leaves -/

/-- Stripping brings no id into a list. -/
theorem exists_id_of_mem_stripMarker {i : Item} (h : i ∈ stripMarker m is) :
    ∃ j ∈ is, j.id = i.id :=
  List.mem_map.mp ((map_id_stripMarker_sublist m is).subset (List.mem_map_of_mem h))

/-- The first item with an id stays the first one if it does not carry the marker. -/
theorem find?_stripMarker_of_first {front : List Item} (hs : s.marker ≠ some m)
    (hfront : front.any (fun i => i.id = s.id) = false) (back : List Item) :
    (stripMarker m (front ++ s :: back)).find? (fun i => i.id = s.id) = some s := by
  rw [stripMarker_append, stripMarker_cons_of_unmarked hs]
  apply Item.find?_of_first
  · rw [List.any_eq_false]
    intro i hi
    obtain ⟨j, hj, hid⟩ := exists_id_of_mem_stripMarker hi
    rw [← hid]
    exact List.any_eq_false.mp hfront j hj
  · exact decide_eq_true rfl

/-- After an insertion the new item is the first one with its id. -/
theorem exists_insertItem_eq (m : MutationId) (s : Item) (is : List Item) :
    ∃ front back, insertItem m s is = front ++ s :: back ∧
      front.any (fun i => i.id = s.id) = false := by
  unfold insertItem
  cases hany : is.any fun i => i.id = s.id with
  | true =>
    obtain ⟨front, i, back, rfl, hfront, -, hchange⟩ := Item.exists_changeFirst_eq hany fun _ => s
    exact ⟨front, back, by simpa [replaceFirst] using hchange, hfront⟩
  | false =>
    cases hown : is.any (isOwnPlaceholder m) with
    | true =>
      obtain ⟨front, i, back, rfl, -, -, hchange⟩ := Item.exists_changeFirst_eq hown fun _ => s
      refine ⟨front, back, by simpa [replaceFirst] using hchange, ?_⟩
      rw [List.any_append, Bool.or_eq_false_iff] at hany
      exact hany.1
    | false => exact ⟨[], is, by simp, rfl⟩

/-- A merged list shows the outcome; if an item was removed, provided that its id stood once. -/
theorem shows_list (ha : ∀ s, authoritative = some s → s.marker ≠ some m)
    (hnodup : ∀ id, rule = .remove id → (is.map Item.id).Nodup) :
    Shows rule authoritative (list m rule authoritative is) := by
  cases rule with
  | insert =>
    cases authoritative with
    | none => trivial
    | some s =>
      obtain ⟨front, back, hinsert, hfront⟩ := exists_insertItem_eq m s is
      refine ⟨s, ?_, Item.same_refl s⟩
      change (stripMarker m (insertItem m s is)).find? (fun i => i.id = s.id) = some s
      rw [hinsert]
      exact find?_stripMarker_of_first (ha s rfl) hfront back
  | update id =>
    cases authoritative with
    | none => trivial
    | some s =>
      rintro rfl i hi
      rw [list, mergeList, if_pos rfl, replaceFirst] at hi
      cases hany : is.any fun i => i.id = s.id with
      | true =>
        obtain ⟨front, j, back, rfl, hfront, -, hchange⟩ :=
          Item.exists_changeFirst_eq hany fun _ => s
        rw [hchange, find?_stripMarker_of_first (ha s rfl) hfront] at hi
        rw [← Option.some.inj hi]
        exact Item.same_refl s
      | false =>
        rw [Item.changeFirst_of_any_eq_false hany] at hi
        obtain ⟨j, hj, hid⟩ := exists_id_of_mem_stripMarker (List.mem_of_find?_eq_some hi)
        have hfound := List.find?_some hi
        rw [← hid] at hfound
        exact absurd hfound (List.any_eq_false.mp hany j hj)
  | remove id =>
    intro i hi hid
    obtain ⟨j, hj, hji⟩ := exists_id_of_mem_stripMarker hi
    change j ∈ is.eraseP fun i => i.id = id at hj
    rw [ListChange.eraseP_eq_deleted (hnodup id rfl)] at hj
    have hne := (List.mem_filter.mp hj).2
    simp [hji, hid] at hne

/-- A merged list reflects the outcome. -/
theorem reflects_list (ha : ∀ s, authoritative = some s → s.marker ≠ some m)
    (hnodup : ∀ id, rule = .remove id → (is.map Item.id).Nodup) :
    Reflects m rule authoritative (list m rule authoritative is) := by
  refine ⟨?_, shows_list ha hnodup⟩
  intro i hi
  have hgone := List.any_eq_false.mp (containsMarker_stripMarker m _) i hi
  simpa [Item.isMarkedBy] using hgone

end Reconcile

/-! ## Commits -/

namespace PendingMutation

variable {m : MutationId} {authoritative : Option Item} {now : Int} {k : QueryKey}

/-- A merge into a key that has its outcome already does not show under the key. -/
theorem mergeTarget_of_settled {target : QueryKey × MergeRule} {acc : List QueryKey × Store}
    (h : target.1 = k → Reconcile.value m target.2 authoritative (acc.2.peek k) = none)
    (hk : k ∉ acc.1) :
    (mergeTarget m authoritative now acc target).2.entryAt? k = acc.2.entryAt? k ∧
      k ∉ (mergeTarget m authoritative now acc target).1 := by
  rw [store_mergeTarget, keys_mergeTarget]
  by_cases htarget : target.1 = k
  · subst htarget
    rw [Store.merge, Store.entryAt?_replaceWith, if_pos rfl, h rfl]
    exact ⟨rfl, hk⟩
  · refine ⟨Store.entryAt?_merge_of_ne (Ne.symm htarget), ?_⟩
    split
    · simp [hk, Ne.symm htarget]
    · exact hk

theorem foldl_mergeTarget_of_settled {targets : List (QueryKey × MergeRule)}
    {acc : List QueryKey × Store}
    (h : ∀ rule, (k, rule) ∈ targets →
      Reconcile.value m rule authoritative (acc.2.peek k) = none)
    (hk : k ∉ acc.1) :
    (targets.foldl (mergeTarget m authoritative now) acc).2.entryAt? k = acc.2.entryAt? k ∧
      k ∉ (targets.foldl (mergeTarget m authoritative now) acc).1 := by
  induction targets generalizing acc with
  | nil => exact ⟨rfl, hk⟩
  | cons target rest ih =>
    let acc' := mergeTarget m authoritative now acc target
    have htarget : target.1 = k →
        Reconcile.value m target.2 authoritative (acc.2.peek k) = none := by
      intro hkey
      exact h target.2 (hkey ▸ List.mem_cons_self)
    have hstep : acc'.2.entryAt? k = acc.2.entryAt? k ∧ k ∉ acc'.1 :=
      mergeTarget_of_settled htarget hk
    have hrest : ∀ rule, (k, rule) ∈ rest →
        Reconcile.value m rule authoritative (acc'.2.peek k) = none := by
      intro rule hrule
      rw [Store.peek_of_entryAt? hstep.1]
      exact h rule (List.mem_cons_of_mem _ hrule)
    obtain ⟨hentry, hkeys⟩ := ih hrest hstep.2
    exact ⟨hentry.trans hstep.1, hkeys⟩

variable {p : PendingMutation} {store : Store} {is : List Item}

/-- A commit leaves a list that reflects its outcome alone, and does not count it as merged.  If
the list depends on the mutation, it is marked like any other. -/
theorem commit_of_reflects (hp : p.state = .pending)
    (ha : ∀ s, authoritative = some s → s.marker ≠ some p.id)
    (hk : store.peek k = some (.list is))
    (hreflects : ∀ rule, (k, rule) ∈ p.targets → Reconcile.Reflects p.id rule authoritative is)
    (dependencies : DependencyMap) (now : Int) :
    (∃ settlement, (p.commit store dependencies authoritative now).1 = .ok settlement ∧
      k ∉ settlement.reconciled) ∧
      (p.commit store dependencies authoritative now).2.2.entryAt? k =
        (store.entryAt? k).map fun e =>
          e.invalidatedIf (decide (k ∈ dependencies.keysFor p.kind p.scope)) := by
  have hsettled : ∀ rule, (k, rule) ∈ p.targets →
      Reconcile.value p.id rule authoritative (store.peek k) = none := by
    intro rule hrule
    rw [hk, Reconcile.value_list_eq_none_iff ha]
    exact hreflects rule hrule
  let merged := p.targets.foldl (mergeTarget p.id authoritative now) ([], store)
  have hmerged : merged.2.entryAt? k = store.entryAt? k ∧ k ∉ merged.1 :=
    foldl_mergeTarget_of_settled hsettled List.not_mem_nil
  refine ⟨⟨_, commit_report hp store dependencies authoritative now, hmerged.2⟩, ?_⟩
  rw [commit_store hp, ← store_foldl_mergeTarget p.id authoritative now ([], store),
    Store.entryAt?_invalidateAll, hmerged.1]

end PendingMutation

/-- A list that is stored is there. -/
theorem Store.peek_perform_of_stored {o : StoreOp} {k : QueryKey} {v : CacheValue} {landed : Int}
    (h : o = .set k v landed ∨ o = .setFetched k v landed) (store : Store) :
    (store.perform o).peek k = some v := by
  rcases h with rfl | rfl
  · simp [perform, peek, entryAt?_set, Entry.fresh]
  · simp [perform, peek, entryAt?_setFetched]

namespace Reconcile

/-- A merge leaves a list alone if and only if the list reflects the outcome.  So a second merge
changes nothing, provided that a removed id stood once.  And a refetched list that reflects the
outcome of a pending mutation stays as it was fetched, whether the refetch lands before the commit,
which at most marks the list as stale, or after it. -/
theorem value_eq_none_iff_reflects (m : MutationId) (rule : MergeRule)
    (authoritative : Option Item) (ha : ∀ s, authoritative = some s → s.marker ≠ some m)
    (is : List Item) :
    (value m rule authoritative (some (.list is)) = none ↔ Reflects m rule authoritative is) ∧
    ((∀ id, rule = .remove id → (is.map Item.id).Nodup) →
      value m rule authoritative
        ((value m rule authoritative (some (.list is))).or (some (.list is))) = none) ∧
    ∀ (p : PendingMutation) (k : QueryKey) (o : StoreOp) (landed : Int) (store : Store)
      (dependencies : DependencyMap) (now : Int),
      p.state = .pending → p.id = m →
      (∀ rule, (k, rule) ∈ p.targets → Reflects m rule authoritative is) →
      o = .set k (.list is) landed ∨ o = .setFetched k (.list is) landed →
        let refetched := store.perform o
        let early := p.commit refetched dependencies authoritative now
        let late := p.commit store dependencies authoritative now
        (∃ settlement, early.1 = .ok settlement ∧ k ∉ settlement.reconciled) ∧
        early.2.2.entryAt? k = ((refetched.entryAt? k).map fun e =>
          e.invalidatedIf (decide (k ∈ dependencies.keysFor p.kind p.scope))) ∧
        early.2.2.peek k = some (.list is) ∧ (late.2.2.perform o).peek k = some (.list is) := by
  refine ⟨value_list_eq_none_iff ha is, ?_, ?_⟩
  · intro hnodup
    cases hvalue : value m rule authoritative (some (.list is)) with
    | none => exact hvalue
    | some next =>
      rw [Option.some_or, value_present hvalue, present, value_list_eq_none_iff ha]
      exact reflects_list ha hnodup
  · intro p k o landed store dependencies now hp hm hreflects ho refetched early late
    subst hm
    have hfetched : refetched.peek k = some (.list is) := Store.peek_perform_of_stored ho store
    obtain ⟨hreport, hentry⟩ :=
      PendingMutation.commit_of_reflects hp ha hfetched hreflects dependencies now
    refine ⟨hreport, hentry, ?_, Store.peek_perform_of_stored ho late.2.2⟩
    rw [← hfetched]
    unfold Store.peek
    rw [hentry, Option.map_map]
    rfl

/-- A comment is created, and its list is fetched before the answer is there.  Merged, the list with
the placeholder holds the comment, and is not merged again; the fetched list is not merged at all,
but it is marked. -/
theorem value_eq_none_iff_reflects_created :
    let m : MutationId := ⟨1⟩
    let created := Item.new "c1" .null
    let before := [Item.placeholder "tmp-1" m .null]
    let k := QueryKey.comments "p1"
    let p : PendingMutation :=
      ⟨m, .createComment, .ofProject "p1" none, [(k, .insert)], none, .pending⟩
    let store := (Store.empty none).set k (.list before) 0
    let o := StoreOp.setFetched k (.list [created]) 1
    let once := value m .insert (some created) (some (.list before))
    (∀ s, some created = some s → s.marker ≠ some m) ∧
      once = some (.list [created]) ∧ value m .insert (some created) once = none ∧
      Reflects m .insert (some created) [created] ∧
      (p.commit (store.perform o) .standard (some created) 2).2.2.entryAt? k =
        some ⟨.list [created], 1, true⟩ := by
  intro m created before k p store o once
  have ha : ∀ s, some created = some s → s.marker ≠ some m := by
    intro s hs
    rw [← Option.some.inj hs]
    exact nofun
  have honce : once = some (.list [created]) := by decide +kernel
  have hagain : value m .insert (some created) (once.or (some (.list before))) = none :=
    (value_eq_none_iff_reflects m .insert (some created) ha before).2.1 nofun
  obtain ⟨hreflects, -, hrefetched⟩ :=
    value_eq_none_iff_reflects m .insert (some created) ha [created]
  have hsettled : Reflects m .insert (some created) [created] := hreflects.mp (by decide +kernel)
  have htargets : ∀ rule, (k, rule) ∈ p.targets → Reflects m rule (some created) [created] := by
    intro rule hrule
    obtain ⟨-, rfl⟩ := Prod.mk.inj (List.mem_singleton.mp hrule)
    exact hsettled
  obtain ⟨-, hentry, -⟩ := hrefetched p k o 1 store .standard 2 rfl rfl htargets (Or.inr rfl)
  refine ⟨ha, honce, ?_, hsettled, ?_⟩
  · rw [honce] at hagain ⊢
    exact hagain
  · rw [hentry]
    decide +kernel

end Reconcile
end OptimisticCache
