import OptimisticCache.Proofs.DistinctIds
/-!
# A list with pending creations

Any number of creations have put a placeholder each into one list, in front or behind.
A placeholder keeps its place between the others until its own mutation commits.  The
answered item then takes this place or, if the list had an item with its id from the
start, the place of that item.  Since no two answers share an id, no commit sees what
another one did.

The list is described by the cells of the creations in front, the old list with the
answered items that it had already, and the cells of the creations behind.  A commit
changes one cell, or the old list.

Main results:

- Theorems {lit}`Reconcile.list_insert_none` and {lit}`Reconcile.list_insert_some`:
  what a commit makes of a list with one placeholder of its mutation.
- Theorem {lit}`Creation.list_arrangement`: a commit takes one creation of the
  arrangement into the settled ones.
- Theorem {lit}`Creation.arrangement_of_perm`: in whatever order all have committed,
  the same list is left.
-/

namespace OptimisticCache

/-! ## One commit -/

namespace Reconcile

variable {m : MutationId} {s placeholder : Item} {is front back : List Item}

/-- Stripping drops the placeholder of the mutation and nothing else. -/
theorem stripMarker_of_placeholder (hown : isOwnPlaceholder m placeholder = true)
    (hfront : ∀ i ∈ front, i.isMarkedBy m = false) (hback : ∀ i ∈ back, i.isMarkedBy m = false) :
    stripMarker m (front ++ placeholder :: back) = front ++ back := by
  rw [stripMarker_append, stripMarker_cons_of_own hown, stripMarker_of_unmarked hfront,
    stripMarker_of_unmarked hback]

/-- Putting an unmarked item in brings no marker in. -/
theorem isMarkedBy_of_mem_replaceFirst {p : Item → Bool} (hs : s.marker = none)
    (h : ∀ i ∈ is, i.isMarkedBy m = false) : ∀ i ∈ replaceFirst p s is, i.isMarkedBy m = false := by
  intro i hi
  rcases Item.mem_changeFirst hi with ⟨_, _, rfl⟩ | hi
  · simp [Item.isMarkedBy, hs]
  · exact h i hi

/-- Without an answered item the placeholder is gone. -/
theorem list_insert_none (hown : isOwnPlaceholder m placeholder = true)
    (hfront : ∀ i ∈ front, i.isMarkedBy m = false) (hback : ∀ i ∈ back, i.isMarkedBy m = false) :
    list m .insert none (front ++ placeholder :: back) = front ++ back :=
  stripMarker_of_placeholder hown hfront hback

/-- The answered item takes the place of the first item with its id, and the placeholder is
gone; if there is no such item, it takes the place of the placeholder. -/
theorem list_insert_some (hown : isOwnPlaceholder m placeholder = true)
    (hfront : ∀ i ∈ front, i.isMarkedBy m = false) (hback : ∀ i ∈ back, i.isMarkedBy m = false)
    (hs : s.marker = none) (hid : placeholder.id ≠ s.id) :
    list m .insert (some s) (front ++ placeholder :: back) =
      if (front ++ back).any (fun i => i.id = s.id) then
        replaceFirst (fun i => i.id = s.id) s (front ++ back)
      else front ++ s :: back := by
  have hany : (front ++ placeholder :: back).any (fun i => i.id = s.id) =
      (front ++ back).any fun i => i.id = s.id := by
    simp [hid]
  rw [list, mergeList, insertItem, hany]
  by_cases hpresent : (front ++ back).any (fun i => i.id = s.id) = true
  · rw [if_pos hpresent, if_pos hpresent, replaceFirst, Item.changeFirst_append, replaceFirst,
      Item.changeFirst_append]
    by_cases hfirst : front.any (fun i => i.id = s.id) = true
    · rw [if_pos hfirst, if_pos hfirst]
      exact stripMarker_of_placeholder hown (isMarkedBy_of_mem_replaceFirst hs hfront) hback
    · rw [if_neg hfirst, if_neg hfirst, Item.changeFirst, if_neg (by simpa using hid)]
      exact stripMarker_of_placeholder hown hfront (isMarkedBy_of_mem_replaceFirst hs hback)
  · have hnotOwn : front.any (isOwnPlaceholder m) = false := by
      rw [List.any_eq_false]
      intro i hi
      simp [isOwnPlaceholder, hfront i hi]
    have hownAny : (front ++ placeholder :: back).any (isOwnPlaceholder m) = true := by
      simp [hown]
    rw [if_neg hpresent, if_neg hpresent, if_pos hownAny, replaceFirst, Item.changeFirst_append,
      hnotOwn, if_neg Bool.false_ne_true, Item.changeFirst, if_pos hown]
    apply stripMarker_of_unmarked
    intro i hi
    rcases List.mem_append.mp hi with hi | hi
    · exact hfront i hi
    · rcases List.mem_cons.mp hi with rfl | hi
      · simp [Item.isMarkedBy, hs]
      · exact hback i hi

/-- Replacements at different ids do not interfere. -/
theorem replaceFirst_comm {s t : Item} (h : s.id ≠ t.id) (is : List Item) :
    replaceFirst (fun i => i.id = s.id) s (replaceFirst (fun i => i.id = t.id) t is) =
      replaceFirst (fun i => i.id = t.id) t (replaceFirst (fun i => i.id = s.id) s is) := by
  unfold replaceFirst
  induction is with
  | nil => rfl
  | cons i is ih =>
    by_cases hs : i.id = s.id
    · have ht : i.id ≠ t.id := fun ht => h (hs.symm.trans ht)
      simp [Item.changeFirst, hs, h]
    · by_cases ht : i.id = t.id
      · simp [Item.changeFirst, ht, Ne.symm h]
      · simp [Item.changeFirst, hs, ht, ih]

end Reconcile

/-! ## The list while creations are pending -/

/-- A creation on the list: its mutation, and the placeholder that it put there. -/
structure Creation where
  id : MutationId
  placeholder : Item

namespace Creation

/-- The answers are unmarked, no two of them share an id, and none has the id of a placeholder. -/
structure Answers (result : MutationId → Option Item) (cs : List Creation) : Prop where
  unmarked : ∀ c ∈ cs, ∀ s, result c.id = some s → s.marker = none
  distinct : ∀ c ∈ cs, ∀ c' ∈ cs, ∀ s s', result c.id = some s → result c'.id = some s' →
    s.id = s'.id → c.id = c'.id
  notPlaceholder : ∀ c ∈ cs, ∀ c' ∈ cs, ∀ s, result c.id = some s → s.id ≠ c'.placeholder.id

/-- What a committed creation leaves in the place of its placeholder: the answered item, unless
there is none or the list had an item with its id. -/
def settled (result : MutationId → Option Item) (base : List Item) (c : Creation) : List Item :=
  match result c.id with
  | some s => if base.any fun i => i.id = s.id then [] else [s]
  | none => []

/-- What stands in the place of a creation once the mutations in `done` have committed. -/
def cell (result : MutationId → Option Item) (base : List Item) (done : List MutationId)
    (c : Creation) : List Item :=
  if c.id ∈ done then c.settled result base else [c.placeholder]

/-- The list in which each answered item has taken the place of the first item with its id. -/
def merged (answers : List Item) (base : List Item) : List Item :=
  answers.foldl (fun is s => Reconcile.replaceFirst (fun i => i.id = s.id) s is) base

/-- The list with the creations in front of it and behind it, once the mutations in `done` have
committed. -/
def arrangement (result : MutationId → Option Item) (base : List Item)
    (front back : List Creation) (done : List MutationId) : List Item :=
  front.flatMap (cell result base done) ++ merged (done.filterMap result) base ++
    back.flatMap (cell result base done)

/-- The list once all creations have committed. -/
def finalList (result : MutationId → Option Item) (base : List Item)
    (front back : List Creation) : List Item :=
  front.flatMap (settled result base) ++
    merged ((front ++ back).filterMap fun c => result c.id) base ++
    back.flatMap (settled result base)

variable {result : MutationId → Option Item} {base : List Item} {done : List MutationId}
  {cs front back : List Creation}

/-- What the answers to some creations are like holds of fewer ones too. -/
theorem Answers.mono (h : Answers result cs) {cs' : List Creation} (hsub : ∀ c ∈ cs', c ∈ cs) :
    Answers result cs' :=
  ⟨fun c hc => h.unmarked c (hsub c hc),
    fun c hc c' hc' => h.distinct c (hsub c hc) c' (hsub c' hc'),
    fun c hc c' hc' => h.notPlaceholder c (hsub c hc) c' (hsub c' hc')⟩

/-! ### The old list -/

/-- A merged list holds the answers and what was there before. -/
theorem mem_merged {i : Item} {answers : List Item} (h : i ∈ merged answers base) :
    i ∈ answers ∨ i ∈ base := by
  unfold merged at h
  induction answers generalizing base with
  | nil => exact Or.inr h
  | cons s answers ih =>
    rcases ih h with h | h
    · exact Or.inl (List.mem_cons_of_mem s h)
    · rcases Item.mem_changeFirst h with ⟨_, _, rfl⟩ | h
      · exact Or.inl List.mem_cons_self
      · exact Or.inr h

/-- Merging answers into a list keeps its ids in their places. -/
theorem map_id_merged (answers base : List Item) :
    (merged answers base).map Item.id = base.map Item.id := by
  unfold merged
  induction answers generalizing base with
  | nil => rfl
  | cons s answers ih =>
    rw [List.foldl_cons, ih, Reconcile.map_id_replaceFirst_of_id s s.id rfl]

/-- The old list has an item with some id if it had one at the start. -/
theorem any_id_merged (answers base : List Item) (id : String) :
    ((merged answers base).any fun i => i.id = id) = base.any fun i => i.id = id := by
  have hmap : ∀ is : List Item,
      (is.any fun i => i.id = id) = (is.map Item.id).any fun other => other = id := by
    intro is
    rw [List.any_map]
    rfl
  rw [hmap, hmap, map_id_merged]

/-- The order of the answers does not matter to the old list, since no two share an id. -/
theorem merged_perm {answers answers' : List Item} (h : answers.Perm answers')
    (hdistinct : (answers.map Item.id).Nodup) (base : List Item) :
    merged answers base = merged answers' base := by
  unfold merged
  induction h generalizing base with
  | nil => rfl
  | cons s _ ih => exact ih (List.nodup_cons.mp hdistinct).2 _
  | swap s t rest =>
    have hne : s.id ≠ t.id := by
      intro heq
      apply (List.nodup_cons.mp hdistinct).1
      rw [heq.symm]
      exact List.mem_cons_self
    rw [List.foldl_cons, List.foldl_cons, List.foldl_cons, List.foldl_cons,
      Reconcile.replaceFirst_comm hne]
  | trans h _ ih ih' =>
    exact (ih hdistinct base).trans (ih' ((h.map Item.id).nodup_iff.mp hdistinct) base)

/-! ### One commit among the others -/

/-- The cells of other creations do not change when a mutation commits. -/
theorem flatMap_cell_of_not_mem {m : MutationId} (h : m ∉ cs.map Creation.id) :
    cs.flatMap (cell result base (done ++ [m])) = cs.flatMap (cell result base done) := by
  have hcell : ∀ c ∈ cs, cell result base (done ++ [m]) c = cell result base done c := by
    intro c hc
    have hne : c.id ≠ m := by
      rintro rfl
      exact h (List.mem_map_of_mem hc)
    simp [cell, hne]
  rw [List.flatMap_def, List.flatMap_def, List.map_congr_left hcell]

/-- The cells of the creations but one, which stands between `left` and `right`. -/
theorem mem_cells_of_others {c : Creation} {left right cs : List Creation} {i : Item}
    (hcs : cs = left ++ c :: right) (hnodup : (cs.map Creation.id).Nodup)
    (hi : i ∈ (left ++ right).flatMap (cell result base done)) :
    ∃ c' ∈ cs, c'.id ≠ c.id ∧ i ∈ c'.cell result base done := by
  rcases List.mem_flatMap.mp hi with ⟨c', hc', hi⟩
  have hperm : (cs.map Creation.id).Perm ((c :: (left ++ right)).map Creation.id) := by
    rw [hcs]
    exact List.perm_middle.map Creation.id
  have hnew := (List.nodup_cons.mp (hperm.nodup_iff.mp hnodup)).1
  refine ⟨c', ?_, ?_, hi⟩
  · rw [hcs]
    exact List.perm_middle.mem_iff.mpr (List.mem_cons_of_mem c hc')
  · intro heq
    exact hnew (heq ▸ List.mem_map_of_mem hc')

variable (result base) in
/-- The placeholder of a creation stands between the cells of the others, in front of the old list
or behind it.  When its mutation commits, either its cell becomes empty, or the old list stays
and the cell holds what the commit leaves there. -/
theorem exists_place {c : Creation} (hc : c ∈ front ++ back)
    (hnodup : ((front ++ back).map Creation.id).Nodup) (hnew : c.id ∉ done) :
    let old := merged (done.filterMap result) base
    let new := merged ((done ++ [c.id]).filterMap result) base
    ∃ before behind left right,
      arrangement result base front back done = before ++ c.placeholder :: behind ∧
      before ++ behind = left ++ old ++ right ∧
      (∀ i ∈ left ++ right, ∃ c' ∈ front ++ back, c'.id ≠ c.id ∧ i ∈ c'.cell result base done) ∧
      (c.settled result base = [] →
        arrangement result base front back (done ++ [c.id]) = left ++ new ++ right) ∧
      (new = old → arrangement result base front back (done ++ [c.id]) =
        before ++ c.settled result base ++ behind) := by
  intro old new
  let cells := fun cs : List Creation => cs.flatMap (cell result base done)
  have hopen : c.cell result base done = [c.placeholder] := if_neg hnew
  have hdone : c.cell result base (done ++ [c.id]) = c.settled result base :=
    if_pos (List.mem_append_right done List.mem_cons_self)
  have hothers : ∀ left right, front ++ back = left ++ c :: right →
      c.id ∉ (left ++ right).map Creation.id := by
    intro left right hsplit
    rw [hsplit] at hnodup
    exact (List.nodup_cons.mp ((List.perm_middle.map Creation.id).nodup_iff.mp hnodup)).1
  rcases List.mem_append.mp hc with hfront | hback
  · rcases List.append_of_mem hfront with ⟨front₁, front₂, rfl⟩
    have hsplit : front₁ ++ c :: front₂ ++ back = front₁ ++ c :: (front₂ ++ back) := by simp
    have hrest := hothers _ _ hsplit
    simp only [List.map_append, List.mem_append, not_or] at hrest
    refine ⟨cells front₁, cells front₂ ++ (old ++ cells back), cells front₁ ++ cells front₂,
      cells back, ?_, ?_, ?_, ?_, ?_⟩
    · simp [arrangement, cells, hopen, old]
    · simp
    · intro i hi
      exact mem_cells_of_others hsplit hnodup (by simpa [cells] using hi)
    · intro hempty
      simp [arrangement, cells, hdone, hempty, new, flatMap_cell_of_not_mem hrest.1,
        flatMap_cell_of_not_mem hrest.2.1, flatMap_cell_of_not_mem hrest.2.2]
    · intro hsame
      simp [arrangement, cells, hdone, ← hsame, new, flatMap_cell_of_not_mem hrest.1,
        flatMap_cell_of_not_mem hrest.2.1, flatMap_cell_of_not_mem hrest.2.2]
  · rcases List.append_of_mem hback with ⟨back₁, back₂, rfl⟩
    have hsplit : front ++ (back₁ ++ c :: back₂) = front ++ back₁ ++ c :: back₂ := by simp
    have hrest := hothers _ _ hsplit
    simp only [List.map_append, List.mem_append, not_or] at hrest
    refine ⟨cells front ++ (old ++ cells back₁), cells back₂, cells front,
      cells back₁ ++ cells back₂, ?_, ?_, ?_, ?_, ?_⟩
    · simp [arrangement, cells, hopen, old]
    · simp
    · intro i hi
      exact mem_cells_of_others hsplit hnodup (by simpa [cells] using hi)
    · intro hempty
      simp [arrangement, cells, hdone, hempty, new, flatMap_cell_of_not_mem hrest.1.1,
        flatMap_cell_of_not_mem hrest.1.2, flatMap_cell_of_not_mem hrest.2]
    · intro hsame
      simp [arrangement, cells, hdone, ← hsame, new, flatMap_cell_of_not_mem hrest.1.1,
        flatMap_cell_of_not_mem hrest.1.2, flatMap_cell_of_not_mem hrest.2]

/-- An item in the cell of another creation has another marker, and another id than the answered
item. -/
theorem Answers.of_mem_cell (h : Answers result cs)
    (hown : ∀ c ∈ cs, Reconcile.isOwnPlaceholder c.id c.placeholder = true) {c c' : Creation}
    (hc : c ∈ cs) (hc' : c' ∈ cs) (hne : c'.id ≠ c.id) {i : Item}
    (hi : i ∈ c'.cell result base done) :
    i.isMarkedBy c.id = false ∧ ∀ s, result c.id = some s → i.id ≠ s.id := by
  unfold cell at hi
  split at hi
  · unfold settled at hi
    split at hi
    · rename_i s' hs'
      split at hi
      · cases hi
      · obtain rfl := List.mem_singleton.mp hi
        refine ⟨by simp [Item.isMarkedBy, h.unmarked c' hc' i hs'], ?_⟩
        intro s hs hid
        exact hne (h.distinct c' hc' c hc i s hs' hs hid)
    · cases hi
  · obtain rfl := List.mem_singleton.mp hi
    have hmarked : c'.placeholder.marker = some c'.id := by
      simpa [Item.isMarkedBy] using (Bool.and_eq_true_iff.mp (hown c' hc')).1
    exact ⟨by simp [Item.isMarkedBy, hmarked, hne], fun s hs =>
      (h.notPlaceholder c hc c' hc' s hs).symm⟩

/-- No item of a merged list is marked by a creation that is done. -/
theorem Answers.isMarkedBy_of_mem_merged (h : Answers result cs) {m : MutationId}
    (hdone : ∀ m ∈ done, m ∈ cs.map Creation.id) (hbase : ∀ i ∈ base, i.isMarkedBy m = false) :
    ∀ i ∈ merged (done.filterMap result) base, i.isMarkedBy m = false := by
  intro i hi
  rcases mem_merged hi with hi | hi
  · rcases List.mem_filterMap.mp hi with ⟨m', hm', hi⟩
    rcases List.mem_map.mp (hdone m' hm') with ⟨c, hc, rfl⟩
    simp [Item.isMarkedBy, h.unmarked c hc i hi]
  · exact hbase i hi

/-- A commit takes one creation into the settled ones. -/
theorem list_arrangement (hanswers : Answers result (front ++ back))
    (hown : ∀ c ∈ front ++ back, Reconcile.isOwnPlaceholder c.id c.placeholder = true)
    (hnodup : ((front ++ back).map Creation.id).Nodup)
    (hdone : ∀ m ∈ done, m ∈ (front ++ back).map Creation.id) {c : Creation}
    (hc : c ∈ front ++ back) (hnew : c.id ∉ done) (hbase : ∀ i ∈ base, i.isMarkedBy c.id = false) :
    Reconcile.list c.id .insert (result c.id) (arrangement result base front back done) =
      arrangement result base front back (done ++ [c.id]) := by
  rcases exists_place result base hc hnodup hnew with
    ⟨before, behind, left, right, harranged, hsplit, hothers, hempty, hplaced⟩
  have hsides : ∀ i ∈ left ++ right,
      i.isMarkedBy c.id = false ∧ ∀ s, result c.id = some s → i.id ≠ s.id := by
    intro i hi
    rcases hothers i hi with ⟨c', hc', hne, hi⟩
    exact hanswers.of_mem_cell hown hc hc' hne hi
  have hrest : ∀ i ∈ before ++ behind, i.isMarkedBy c.id = false := by
    intro i hi
    rw [hsplit] at hi
    rcases List.mem_append.mp hi with hi | hi
    · rcases List.mem_append.mp hi with hi | hi
      · exact (hsides i (List.mem_append_left right hi)).1
      · exact hanswers.isMarkedBy_of_mem_merged hdone hbase i hi
    · exact (hsides i (List.mem_append_right left hi)).1
  have hbefore : ∀ i ∈ before, i.isMarkedBy c.id = false :=
    fun i hi => hrest i (List.mem_append_left behind hi)
  have hbehind : ∀ i ∈ behind, i.isMarkedBy c.id = false :=
    fun i hi => hrest i (List.mem_append_right before hi)
  rw [harranged]
  cases hs : result c.id with
  | none =>
    have hcell : c.settled result base = [] := by simp [settled, hs]
    rw [Reconcile.list_insert_none (hown c hc) hbefore hbehind, hsplit, hempty hcell]
    simp [List.filterMap_append, hs]
  | some s =>
    have hside : ∀ side : List Item, (∀ i ∈ side, i ∈ left ++ right) →
        side.any (fun i => i.id = s.id) = false := by
      intro side hsub
      rw [List.any_eq_false]
      intro i hi
      simpa using (hsides i (hsub i hi)).2 s hs
    have hleft := hside left fun i hi => List.mem_append_left right hi
    have hright := hside right fun i hi => List.mem_append_right left hi
    have hnewMerged : merged ((done ++ [c.id]).filterMap result) base =
        Reconcile.replaceFirst (fun i => i.id = s.id) s (merged (done.filterMap result) base) := by
      simp [merged, List.filterMap_append, hs]
    rw [Reconcile.list_insert_some (hown c hc) hbefore hbehind (hanswers.unmarked c hc s hs)
      (hanswers.notPlaceholder c hc c hc s hs).symm, hsplit, List.any_append, List.any_append,
      hleft, hright, any_id_merged, Bool.false_or, Bool.or_false]
    by_cases hpresent : base.any (fun i => i.id = s.id) = true
    · have hcell : c.settled result base = [] := by simp [settled, hs, hpresent]
      rw [if_pos hpresent, hempty hcell, hnewMerged, Reconcile.replaceFirst,
        Item.changeFirst_append, List.any_append, hleft, any_id_merged, hpresent,
        Item.changeFirst_append, hleft]
      rfl
    · simp only [Bool.not_eq_true] at hpresent
      have hsame : merged ((done ++ [c.id]).filterMap result) base =
          merged (done.filterMap result) base := by
        rw [hnewMerged]
        exact Item.changeFirst_of_any_eq_false ((any_id_merged _ _ _).trans hpresent) _
      rw [hpresent, if_neg Bool.false_ne_true, hplaced hsame]
      simp [settled, hs, hpresent]

/-- The answers of different creations have different ids. -/
theorem Answers.nodup_ids (h : Answers result cs) (hnodup : (cs.map Creation.id).Nodup) :
    ((cs.filterMap fun c => result c.id).map Item.id).Nodup := by
  induction cs with
  | nil => exact List.nodup_nil
  | cons c cs ih =>
    rcases List.nodup_cons.mp hnodup with ⟨hhead, htail⟩
    have hrest := ih (h.mono fun c' hc' => List.mem_cons_of_mem c hc') htail
    cases hs : result c.id with
    | none => simpa [List.filterMap_cons, hs] using hrest
    | some s =>
      rw [List.filterMap_cons, hs, List.map_cons]
      refine List.nodup_cons.mpr ⟨?_, hrest⟩
      intro hmem
      rcases List.mem_map.mp hmem with ⟨s', hs', hid⟩
      rcases List.mem_filterMap.mp hs' with ⟨c', hc', hs'⟩
      have hsame := h.distinct c' (List.mem_cons_of_mem c hc') c List.mem_cons_self s' s hs' hs hid
      exact hhead (hsame ▸ List.mem_map_of_mem hc')

/-- Once all creations have committed, in whatever order, the arrangement is the final list. -/
theorem arrangement_of_perm (h : Answers result (front ++ back))
    (hnodup : ((front ++ back).map Creation.id).Nodup)
    (hdone : done.Perm ((front ++ back).map Creation.id)) :
    arrangement result base front back done = finalList result base front back := by
  have hcell : ∀ cs : List Creation, (∀ c ∈ cs, c ∈ front ++ back) →
      cs.flatMap (cell result base done) = cs.flatMap (settled result base) := by
    intro cs hsub
    rw [List.flatMap_def, List.flatMap_def]
    congr 1
    apply List.map_congr_left
    intro c hc
    exact if_pos (hdone.mem_iff.mpr (List.mem_map_of_mem (hsub c hc)))
  have hanswers : (done.filterMap result).Perm ((front ++ back).filterMap fun c => result c.id) := by
    have hperm := hdone.filterMap result
    rwa [List.filterMap_map] at hperm
  have hids : ((done.filterMap result).map Item.id).Nodup :=
    (hanswers.map Item.id).nodup_iff.mpr (h.nodup_ids hnodup)
  rw [arrangement, finalList, hcell front fun c hc => List.mem_append_left back hc,
    hcell back fun c hc => List.mem_append_right front hc, merged_perm hanswers hids]

end Creation

end OptimisticCache
