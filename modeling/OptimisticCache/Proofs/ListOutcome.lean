import OptimisticCache.Proofs.Markers
/-!
# One list through a patch and a merge

A mutation that runs on its own changes a list twice: its patch is applied, and
when it commits the authoritative item is merged into what the patch left.  For a
list as the server sent it, with distinct ids and nothing provisional, the two
together amount to one plain change of the list.

Main results:

- Theorem {lit}`Patch.outcome_prepend`: a creation puts the authoritative item in
  place of the item with its id, or else in front.
- Theorem {lit}`Patch.outcome_remove`: a deletion drops the item with the id.
- Theorem {lit}`Patch.outcome_update`: an edit leaves the authoritative item, or
  else the edited one.
-/

namespace OptimisticCache

/-- A list as the server sent it: the ids are distinct, and no item is a placeholder or
provisional. -/
structure ServerList (is : List Item) : Prop where
  nodup : (is.map Item.id).Nodup
  notPlaceholder : ∀ i ∈ is, i.isPlaceholder = false
  unmarked : ∀ i ∈ is, i.marker = none

/-- The empty list is one that a server can give. -/
theorem ServerList.nil : ServerList [] :=
  ⟨List.nodup_nil, by simp, by simp⟩

/-- No item of a server is marked. -/
theorem ServerList.isMarkedBy {is : List Item} (h : ServerList is) (m : MutationId) :
    ∀ i ∈ is, i.isMarkedBy m = false := by
  intro i hi
  simp [Item.isMarkedBy, h.unmarked i hi]

/-! ## Plain changes of a list -/

namespace ListChange

/-- The list with every item changed that has an id. -/
def changeAt (id : String) (f : Item → Item) (is : List Item) : List Item :=
  is.map fun i => if i.id = id then f i else i

/-- The list after a creation: the answered item takes the place of the item with its id, or
else stands in front. -/
def created (answered : Option Item) (is : List Item) : List Item :=
  match answered with
  | some s => if is.any fun i => i.id = s.id then changeAt s.id (fun _ => s) is else s :: is
  | none => is

/-- The list after a deletion. -/
def deleted (id : String) (is : List Item) : List Item :=
  is.filter fun i => i.id ≠ id

/-- The list after an edit of one item: the answered item if it is about this one, or else the
item with the edit. -/
def edited (id : String) (edit : Item → Item) (answered : Option Item) (is : List Item) :
    List Item :=
  match answered with
  | some s => if s.id = id then changeAt id (fun _ => s) is else changeAt id edit is
  | none => changeAt id edit is

variable {id : String} {f : Item → Item} {is : List Item}

/-- After a change at an id the items are changed ones and those from before. -/
theorem mem_changeAt {j : Item} (h : j ∈ changeAt id f is) :
    (∃ i ∈ is, j = f i) ∨ j ∈ is := by
  rcases List.mem_map.mp h with ⟨i, hi, rfl⟩
  by_cases hid : i.id = id
  · rw [if_pos hid]
    exact Or.inl ⟨i, hi, rfl⟩
  · rw [if_neg hid]
    exact Or.inr hi

/-- After a replacement at an id the items are the new one and those from before. -/
theorem mem_changeAt_const {s j : Item} (h : j ∈ changeAt id (fun _ => s) is) : j = s ∨ j ∈ is := by
  rcases mem_changeAt h with ⟨_, _, hj⟩ | hj
  · exact Or.inl hj
  · exact Or.inr hj

/-- Without an item of the id nothing is changed. -/
theorem changeAt_of_not_any (h : (is.any fun i => i.id = id) = false) : changeAt id f is = is := by
  have hsame : ∀ i ∈ is, (if i.id = id then f i else i) = i := by
    intro i hi
    rw [if_neg]
    simpa using List.any_eq_false.mp h i hi
  rw [changeAt, List.map_congr_left hsame, List.map_id']

/-- A change that keeps ids keeps them all. -/
theorem map_id_changeAt (hf : ∀ i, (f i).id = i.id) (id : String) (is : List Item) :
    (changeAt id f is).map Item.id = is.map Item.id := by
  rw [changeAt, List.map_map]
  apply List.map_congr_left
  intro i _
  by_cases hid : i.id = id
  · simp [hid, hf]
  · simp [hid]

/-- Of two changes at one id, the first of which keeps ids, the second sees the outcome of the
first. -/
theorem changeAt_changeAt (hf : ∀ i, (f i).id = i.id) (id : String) (g : Item → Item)
    (is : List Item) : changeAt id g (changeAt id f is) = changeAt id (fun i => g (f i)) is := by
  rw [changeAt, changeAt, List.map_map]
  apply List.map_congr_left
  intro i _
  by_cases hid : i.id = id
  · simp [hid, hf]
  · simp [hid]

/-- With distinct ids, changing the first item with an id changes every item with it. -/
theorem changeFirst_eq_changeAt (h : (is.map Item.id).Nodup) (id : String) (f : Item → Item) :
    Item.changeFirst (fun i => i.id = id) f is = changeAt id f is := by
  induction is with
  | nil => rfl
  | cons i is ih =>
    rcases List.nodup_cons.mp h with ⟨hhead, htail⟩
    by_cases hi : i.id = id
    · have hrest : (is.any fun j => j.id = id) = false := by
        rw [List.any_eq_false]
        intro j hj hid
        apply hhead
        rw [hi, ← of_decide_eq_true hid]
        exact List.mem_map_of_mem hj
      have hsame : changeAt id f (i :: is) = f i :: changeAt id f is := by
        simp [changeAt, hi]
      rw [hsame, changeAt_of_not_any hrest]
      simp [Item.changeFirst, hi]
    · have hsame : changeAt id f (i :: is) = i :: changeAt id f is := by
        simp [changeAt, hi]
      rw [hsame, ← ih htail]
      simp [Item.changeFirst, hi]

/-- With distinct ids, dropping the first item with an id drops every item with it. -/
theorem eraseP_eq_deleted (h : (is.map Item.id).Nodup) (id : String) :
    (is.eraseP fun i => i.id = id) = deleted id is := by
  induction is with
  | nil => rfl
  | cons i is ih =>
    rcases List.nodup_cons.mp h with ⟨hhead, htail⟩
    by_cases hi : i.id = id
    · have hrest : ∀ j ∈ is, decide (j.id ≠ id) = true := by
        intro j hj
        rw [decide_eq_true_eq]
        intro hid
        apply hhead
        rw [hi, ← hid]
        exact List.mem_map_of_mem hj
      rw [deleted, List.filter_cons_of_neg (by simp [hi]), List.filter_eq_self.mpr hrest]
      simp [hi]
    · rw [deleted, List.filter_cons_of_pos (by simp [hi])]
      have hrest : is.filter (fun i => i.id ≠ id) = is.eraseP fun i => i.id = id := (ih htail).symm
      rw [hrest]
      simp [hi]

end ListChange

/-! ## Edited items -/

namespace Item

/-- An item after edits, without a marker of its own. -/
def withEdits (edits : List FieldEdit) (i : Item) : Item :=
  edits.foldl (fun i e => e.apply i) i

/-- Edits keep the id and the marker of an item. -/
theorem withEdits_keeps (edits : List FieldEdit) (i : Item) :
    (i.withEdits edits).id = i.id ∧ (i.withEdits edits).marker = i.marker := by
  induction edits generalizing i with
  | nil => exact ⟨rfl, rfl⟩
  | cons e edits ih => exact ih (e.apply i)

/-- An edited item keeps its id. -/
theorem edited_id (edits : List FieldEdit) (m : MutationId) (i : Item) :
    (i.edited edits m).id = i.id :=
  (withEdits_keeps edits i).1

/-- Once confirmed, an item that was not provisional is left with the edits alone. -/
theorem edited_confirmed (edits : List FieldEdit) (m : MutationId) {i : Item}
    (h : i.marker = none) : (i.edited edits m).confirmed = i.withEdits edits := by
  have hmarker : (i.withEdits edits).marker = none := (withEdits_keeps edits i).2.trans h
  change { i.withEdits edits with marker := none } = i.withEdits edits
  rw [← hmarker]

end Item

/-! ## Merging -/

namespace Reconcile

variable {m : MutationId} {rule : MergeRule} {authoritative : Option Item} {is : List Item}

/-- Nothing is stripped from items without the marker. -/
theorem stripMarker_of_unmarked (h : ∀ i ∈ is, i.isMarkedBy m = false) : stripMarker m is = is := by
  have hfilter : (is.filter fun i => !isOwnPlaceholder m i) = is := by
    apply List.filter_eq_self.mpr
    intro i hi
    simp [isOwnPlaceholder, h i hi]
  have hmap : ∀ i ∈ is, (if i.isMarkedBy m then i.confirmed else i) = i := by
    intro i hi
    simp [h i hi]
  rw [stripMarker, hfilter, List.map_congr_left hmap, List.map_id']

/-- A marker is stripped item by item. -/
theorem stripMarker_append (m : MutationId) (is js : List Item) :
    stripMarker m (is ++ js) = stripMarker m is ++ stripMarker m js := by
  simp [stripMarker]

/-- The placeholder of the mutation is dropped. -/
theorem stripMarker_cons_of_own {placeholder : Item}
    (h : isOwnPlaceholder m placeholder = true) (js : List Item) :
    stripMarker m (placeholder :: js) = stripMarker m js := by
  simp [stripMarker, h]

/-- An item that the mutation did not mark stays. -/
theorem stripMarker_cons_of_unmarked {s : Item} (hs : s.marker ≠ some m) (js : List Item) :
    stripMarker m (s :: js) = s :: stripMarker m js := by
  simp [stripMarker, isOwnPlaceholder, Item.isMarkedBy, hs]

/-- A cached value is left alone if and only if the merged one agrees with it. -/
theorem value_eq_none_iff (m : MutationId) (rule : MergeRule) (authoritative : Option Item)
    (v : CacheValue) :
    value m rule authoritative (some v) = none ↔
      v.same (present m rule authoritative v) = true := by
  unfold value
  dsimp only
  split <;> simp [*]

/-- A cached value is replaced by the merged one, or left alone because the merged one agrees with
it. -/
theorem value_or_cases (m : MutationId) (rule : MergeRule) (authoritative : Option Item)
    (v : CacheValue) :
    (value m rule authoritative (some v)).or (some v) = some (present m rule authoritative v) ∨
      ((value m rule authoritative (some v)).or (some v) = some v ∧
        v.same (present m rule authoritative v) = true) := by
  cases hvalue : value m rule authoritative (some v) with
  | none => exact Or.inr ⟨Option.none_or, (value_eq_none_iff m rule authoritative v).mp hvalue⟩
  | some next => exact Or.inl (congrArg some (value_present hvalue))

/-- A list that carries the marker of the mutation is replaced by the merged one. -/
theorem value_or_of_marked (h : ∃ i ∈ is, i.isMarkedBy m = true) :
    (value m rule authoritative (some (.list is))).or (some (.list is)) =
      some (.list (list m rule authoritative is)) := by
  rcases value_or_cases m rule authoritative (.list is) with hnew | ⟨-, hsame⟩
  · exact hnew
  · -- the merged list would carry the marker as well
    have hmarkers := CacheValue.any_isMarkedBy_of_sameItems hsame m
    rw [list, containsMarker_stripMarker, List.any_eq_false] at hmarkers
    obtain ⟨i, hi, hmarked⟩ := h
    exact absurd hmarked (hmarkers i hi)

/-- A list that the merge gives back is left alone. -/
theorem value_or_of_fixed (h : list m rule authoritative is = is) :
    (value m rule authoritative (some (.list is))).or (some (.list is)) = some (.list is) := by
  rcases value_or_cases m rule authoritative (.list is) with hnew | ⟨hkept, -⟩
  · rw [hnew, present, h]
  · exact hkept

/-! ### A new item -/

/-- Nothing is stripped from what a server gave. -/
theorem stripMarker_of_server {s : Item} {js : List Item} (h : ServerList is)
    (hs : s.marker = none) (hjs : ∀ i ∈ js, i = s ∨ i ∈ is) : stripMarker m js = js := by
  apply stripMarker_of_unmarked
  intro i hi
  rcases hjs i hi with rfl | hi
  · simp [Item.isMarkedBy, hs]
  · exact h.isMarkedBy m i hi

/-- An item that the list has already is found by its id, which no placeholder has. -/
theorem insertItem_of_any {s placeholder : Item} (h : ServerList is)
    (hplaceholder : isOwnPlaceholder m placeholder = true)
    (hid : (is.any fun i => i.id = s.id) = true) :
    insertItem m s (placeholder :: is) =
      placeholder :: ListChange.changeAt s.id (fun _ => s) is := by
  have hne : placeholder.id ≠ s.id := by
    intro heq
    rcases List.any_eq_true.mp hid with ⟨i, hi, hi'⟩
    have hserver := h.notPlaceholder i hi
    have hown := (Bool.and_eq_true_iff.mp hplaceholder).2
    unfold Item.isPlaceholder at hserver hown
    rw [of_decide_eq_true hi', ← heq, hown] at hserver
    cases hserver
  rw [← ListChange.changeFirst_eq_changeAt h.nodup]
  simp [insertItem, replaceFirst, Item.changeFirst, hid, hne]

/-- A new item takes the place of the placeholder. -/
theorem insertItem_of_not_any {s placeholder : Item}
    (hplaceholder : isOwnPlaceholder m placeholder = true)
    (hid : (is.any fun i => i.id = s.id) = false) :
    insertItem m s (placeholder :: is) = s :: is := by
  by_cases hsame : placeholder.id = s.id
  · simp [insertItem, replaceFirst, Item.changeFirst, hsame]
  · simp [insertItem, replaceFirst, Item.changeFirst, hsame, hid, hplaceholder]

/-- The placeholder in front of a list of the server makes way for the answered item. -/
theorem list_insert_placeholder {placeholder : Item} (h : ServerList is)
    (hplaceholder : isOwnPlaceholder m placeholder = true)
    (hauth : ∀ s, authoritative = some s → s.marker = none) :
    list m .insert authoritative (placeholder :: is) = ListChange.created authoritative is := by
  cases authoritative with
  | none =>
    exact (stripMarker_cons_of_own hplaceholder is).trans
      (stripMarker_of_unmarked (h.isMarkedBy m))
  | some s =>
    by_cases hid : (is.any fun i => i.id = s.id) = true
    · have hcreated : ListChange.created (some s) is = ListChange.changeAt s.id (fun _ => s) is :=
        if_pos hid
      rw [list, mergeList, insertItem_of_any h hplaceholder hid,
        stripMarker_cons_of_own hplaceholder, hcreated]
      apply stripMarker_of_server h (hauth s rfl)
      intro j hj
      exact ListChange.mem_changeAt_const hj
    · have hcreated : ListChange.created (some s) is = s :: is := if_neg hid
      rw [list, mergeList, insertItem_of_not_any hplaceholder (Bool.eq_false_iff.mpr hid), hcreated]
      apply stripMarker_of_server h (hauth s rfl)
      intro i hi
      exact List.mem_cons.mp hi

/-! ### An edited item -/

/-- Stripping an edited list drops nothing, since an edited item keeps its id and is no
placeholder. -/
theorem stripMarker_changeAt_edited (h : ServerList is) (id : String) (edits : List FieldEdit) :
    stripMarker m (ListChange.changeAt id (fun i => i.edited edits m) is) =
      ListChange.changeAt id (Item.withEdits edits) is := by
  have hfilter : ((ListChange.changeAt id (fun i => i.edited edits m) is).filter fun j =>
      !isOwnPlaceholder m j) = ListChange.changeAt id (fun i => i.edited edits m) is := by
    apply List.filter_eq_self.mpr
    intro j hj
    have hplaceholder : j.isPlaceholder = false := by
      rcases ListChange.mem_changeAt hj with ⟨i, hi, rfl⟩ | hj
      · unfold Item.isPlaceholder
        rw [Item.edited_id]
        exact h.notPlaceholder i hi
      · exact h.notPlaceholder j hj
    simp [isOwnPlaceholder, hplaceholder]
  rw [stripMarker, hfilter, ListChange.changeAt, ListChange.changeAt, List.map_map]
  apply List.map_congr_left
  intro i hi
  by_cases hid : i.id = id
  · have hmarked : (i.edited edits m).isMarkedBy m = true := by
      simp [Item.edited, Item.isMarkedBy]
    simp [hid, hmarked, Item.edited_confirmed edits m (h.unmarked i hi)]
  · simp [hid, h.isMarkedBy m i hi]

/-- The answered item takes the place of the edited one. -/
theorem replaceFirst_changeAt_edited (h : ServerList is) (id : String) (edits : List FieldEdit)
    (s : Item) :
    replaceFirst (fun i => i.id = id) s (ListChange.changeAt id (fun i => i.edited edits m) is) =
      ListChange.changeAt id (fun _ => s) is := by
  have hids : ∀ i : Item, (i.edited edits m).id = i.id := Item.edited_id edits m
  have hnodup : ((ListChange.changeAt id (fun i => i.edited edits m) is).map Item.id).Nodup := by
    rw [ListChange.map_id_changeAt hids]
    exact h.nodup
  rw [replaceFirst, ListChange.changeFirst_eq_changeAt hnodup, ListChange.changeAt_changeAt hids]

/-- The edited list loses the marker when the answered item is merged into it. -/
theorem list_update_edited (h : ServerList is) (id : String) (edits : List FieldEdit)
    (hauth : ∀ s, authoritative = some s → s.marker = none) :
    list m (.update id) authoritative (ListChange.changeAt id (fun i => i.edited edits m) is) =
      ListChange.edited id (Item.withEdits edits) authoritative is := by
  cases authoritative with
  | none => exact stripMarker_changeAt_edited h id edits
  | some s =>
    by_cases hs : s.id = id
    · simp only [list, mergeList, ListChange.edited, if_pos hs, replaceFirst_changeAt_edited h]
      apply stripMarker_of_server h (hauth s rfl)
      intro j hj
      exact ListChange.mem_changeAt_const hj
    · simp only [list, mergeList, ListChange.edited, if_neg hs]
      exact stripMarker_changeAt_edited h id edits

/-- A list without the edited item stays as it is. -/
theorem list_update_of_not_any (h : ServerList is) {id : String}
    (hany : (is.any fun i => i.id = id) = false) : list m (.update id) authoritative is = is := by
  have hreplaced : ∀ s, replaceFirst (fun i => i.id = id) s is = is := by
    intro s
    rw [replaceFirst, ListChange.changeFirst_eq_changeAt h.nodup,
      ListChange.changeAt_of_not_any hany]
  have hmerged : mergeList m (.update id) authoritative is = is := by
    cases authoritative with
    | none => rfl
    | some s => simp [mergeList, hreplaced]
  rw [list, hmerged]
  exact stripMarker_of_unmarked (h.isMarkedBy m)

end Reconcile

/-! ## A patch and the merge of its rule -/

namespace Patch

/-- What a mutation that runs on its own leaves of the value under a key that it patches once:
the patch is applied, and the authoritative item is merged into the result. -/
def outcome (p : Patch) (freshId : String) (m : MutationId) (authoritative : Option Item)
    (current : Option CacheValue) : Option CacheValue :=
  let patched := (p.apply freshId m current).or current
  (Reconcile.value m p.rule authoritative patched).or patched

variable {m : MutationId} {authoritative : Option Item} {freshId : String}

/-- A creation leaves the list with the answered item; without one, it leaves the list as it
was, empty if there was none. -/
theorem outcome_prepend {n : Nat} {current : Option (List Item)} (h : ServerList (current.getD []))
    (hauth : ∀ s, authoritative = some s → s.marker = none) (data : Json) :
    (prepend data).outcome (Item.placeholderId n) m authoritative (current.map .list) =
      some (.list (ListChange.created authoritative (current.getD []))) := by
  let placeholder := Item.placeholder (Item.placeholderId n) m data
  have hown : Reconcile.isOwnPlaceholder m placeholder = true := by
    have hid : placeholder.isPlaceholder = true := Item.placeholder_isPlaceholder n m data
    have hmarked : placeholder.isMarkedBy m = true := by
      simp [placeholder, Item.isMarkedBy, Item.placeholder]
    rw [Reconcile.isOwnPlaceholder, hid, hmarked]
    rfl
  have hpatched : ((prepend data).apply (Item.placeholderId n) m (current.map .list)).or
      (current.map .list) = some (.list (placeholder :: current.getD [])) := by
    cases current <;> rfl
  rw [outcome, hpatched, Reconcile.value_or_of_marked]
  · rw [rule, Reconcile.list_insert_placeholder h hown hauth]
  · exact ⟨placeholder, List.mem_cons_self, (Bool.and_eq_true_iff.mp hown).1⟩

/-- A deletion leaves the list without the item, and nothing where there was nothing. -/
theorem outcome_remove {current : Option (List Item)} (h : ∀ is, current = some is → ServerList is)
    (id : String) :
    (remove id).outcome freshId m authoritative (current.map .list) =
      (current.map (ListChange.deleted id)).map .list := by
  cases current with
  | none => rfl
  | some is =>
    have hserver := h is rfl
    have hdeleted : (is.eraseP fun i => i.id = id) = ListChange.deleted id is :=
      ListChange.eraseP_eq_deleted hserver.nodup id
    have hgone : ∀ i ∈ ListChange.deleted id is, ¬ decide (i.id = id) = true := by
      intro i hi
      simpa using (List.mem_filter.mp hi).2
    have hpatched : ((remove id).apply freshId m (some (.list is))).or (some (.list is)) =
        some (.list (ListChange.deleted id is)) := by
      rw [← hdeleted]
      by_cases hany : (is.any fun i => i.id = id) = true
      · simp only [apply, if_pos hany]
        rfl
      · have hsame : (is.eraseP fun i => i.id = id) = is := by
          apply List.eraseP_of_forall_not
          simpa using hany
        simp only [apply, if_neg hany, hsame]
        rfl
    have hfixed : Reconcile.list m (.remove id) authoritative (ListChange.deleted id is) =
        ListChange.deleted id is := by
      rw [Reconcile.list, Reconcile.mergeList, List.eraseP_of_forall_not hgone]
      apply Reconcile.stripMarker_of_unmarked
      intro i hi
      exact hserver.isMarkedBy m i (List.mem_filter.mp hi).1
    rw [Option.map_some, Option.map_some, Option.map_some, outcome, hpatched]
    exact Reconcile.value_or_of_fixed hfixed

/-- An edit leaves the list with the answered item, if it is about the edited one, and else
with the edit; there is nothing to edit where there was nothing. -/
theorem outcome_update {current : Option (List Item)} (h : ∀ is, current = some is → ServerList is)
    (hauth : ∀ s, authoritative = some s → s.marker = none) (id : String)
    (edits : List FieldEdit) :
    (update id edits).outcome freshId m authoritative (current.map .list) =
      (current.map (ListChange.edited id (Item.withEdits edits) authoritative)).map .list := by
  cases current with
  | none => rfl
  | some is =>
    have hserver := h is rfl
    rw [Option.map_some, Option.map_some, Option.map_some, outcome]
    by_cases hany : (is.any fun i => i.id = id) = true
    · have hpatched : ((update id edits).apply freshId m (some (.list is))).or (some (.list is)) =
          some (.list (ListChange.changeAt id (fun i => i.edited edits m) is)) := by
        simp only [apply, if_pos hany, ListChange.changeFirst_eq_changeAt hserver.nodup]
        rfl
      have hmarked : ∃ j ∈ ListChange.changeAt id (fun i => i.edited edits m) is,
          j.isMarkedBy m = true := by
        rcases List.any_eq_true.mp hany with ⟨i, hi, hid⟩
        refine ⟨i.edited edits m, ?_, by simp [Item.edited, Item.isMarkedBy]⟩
        exact List.mem_map.mpr ⟨i, hi, if_pos (of_decide_eq_true hid)⟩
      rw [hpatched, Reconcile.value_or_of_marked hmarked, rule,
        Reconcile.list_update_edited hserver id edits hauth]
    · simp only [Bool.not_eq_true] at hany
      have hpatched : ((update id edits).apply freshId m (some (.list is))).or (some (.list is)) =
          some (.list is) := by
        simp [apply, hany]
      have hedited : ListChange.edited id (Item.withEdits edits) authoritative is = is := by
        unfold ListChange.edited
        split
        · split <;> exact ListChange.changeAt_of_not_any hany
        · exact ListChange.changeAt_of_not_any hany
      rw [hpatched, hedited]
      exact Reconcile.value_or_of_fixed (Reconcile.list_update_of_not_any hserver hany)

end Patch
end OptimisticCache
