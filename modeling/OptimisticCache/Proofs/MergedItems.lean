import Mathlib.Data.List.Forall2
import OptimisticCache.Proofs.DistinctIds
/-!
# What a merge touches

A merge is about the marker of its mutation, the id that its rule names and the id of
the authoritative item.  What has none of them stays as it is, where it is.  This is
said item by item: every item of a list has an outcome, which is nothing or one item,
and the list after the merge consists of these outcomes in their order, with nothing
but a new item in front.

The algorithm works otherwise, on the whole list twice.  The first pass changes the
list at one place at most; the second drops the placeholders of the mutation and takes
the marker off the rest.  An item that the first pass leaves alone gets its outcome
from the second.

Main results:

- Theorem {lit}`Reconcile.change_mergeList`: the first pass changes one place.
- Theorem {lit}`Reconcile.touchesOnly_list`: what becomes of each item of a list.
- Theorem {lit}`Reconcile.TouchesOnly.filter_eq`: the items that are of no concern are
  the same as before, up to the marker.
- Theorem {lit}`Reconcile.value_touchesOnly`: the same for whatever a key holds.
-/

namespace OptimisticCache

/-- The id that a rule names. -/
def MergeRule.id? : MergeRule → Option String
  | insert => none
  | update id | remove id => some id

namespace Reconcile

/-- An id that a merge is about: the rule names it, or the authoritative item has it. -/
def Concerns (rule : MergeRule) (authoritative : Option Item) (id : String) : Prop :=
  rule.id? = some id ∨ authoritative.map Item.id = some id

instance (rule : MergeRule) (authoritative : Option Item) (id : String) :
    Decidable (Concerns rule authoritative id) :=
  inferInstanceAs (Decidable (_ ∨ _))

/-- What may become of an item of a list: nothing, or one item. -/
structure Outcome (m : MutationId) (rule : MergeRule) (authoritative : Option Item) (i : Item)
    (outcome : Option Item) : Prop where
  /-- An item of no concern without the marker stays as it is. -/
  kept : ¬ Concerns rule authoritative i.id → i.marker ≠ some m → outcome = some i
  /-- An item of no concern that was edited loses the marker only. -/
  confirmed : ¬ Concerns rule authoritative i.id → i.marker = some m → i.isPlaceholder = false →
    outcome = some i.confirmed
  /-- A placeholder of the mutation is gone, or replaced. -/
  settled : i.marker = some m → i.isPlaceholder = true → outcome = none ∨ outcome = authoritative
  /-- Nothing else can become of an item. -/
  possible : outcome = none ∨ outcome = authoritative ∨ outcome = some (stripRecord m i)

/-- The list after a merge consists of the outcomes of the items, in their order; an insertion may
put its item in front. -/
def TouchesOnly (m : MutationId) (rule : MergeRule) (authoritative : Option Item)
    (before after : List Item) : Prop :=
  ∃ front outcomes, List.Forall₂ (Outcome m rule authoritative) before outcomes ∧
    after = front ++ outcomes.filterMap id ∧
    (front = [] ∨ (rule = .insert ∧ front = authoritative.toList))

/-- The record after a merge: the authoritative item, or one that agrees with it, if the rule is an
update and all three ids agree, and else the record without the marker of the mutation. -/
structure RecordOutcome (m : MutationId) (rule : MergeRule) (authoritative : Option Item)
    (before after : Item) : Prop where
  answered : ∀ s, rule = .update before.id → authoritative = some s → s.id = before.id →
    after = s ∨ (after = before ∧ before.same s = true)
  kept : (∀ s, rule = .update before.id → authoritative = some s → s.id ≠ before.id) →
    before.marker ≠ some m → after = before
  confirmed : (∀ s, rule = .update before.id → authoritative = some s → s.id ≠ before.id) →
    before.marker = some m → after = before.confirmed

variable {m : MutationId} {rule : MergeRule} {authoritative : Option Item} {i s : Item}
  {is js : List Item}

/-! ## The first pass -/

/-- The changes of a list at one place. -/
inductive Change (m : MutationId) (rule : MergeRule) (authoritative : Option Item) :
    List Item → List Item → Prop
  | nowhere (is : List Item) : Change m rule authoritative is is
  | replaced {front back : List Item} {i s : Item}
      (hi : isOwnPlaceholder m i = true ∨ Concerns rule authoritative i.id)
      (hs : authoritative = some s) :
      Change m rule authoritative (front ++ i :: back) (front ++ s :: back)
  | dropped {front back : List Item} {i : Item} (hi : Concerns rule authoritative i.id) :
      Change m rule authoritative (front ++ i :: back) (front ++ back)
  | added {is : List Item} {s : Item} (hrule : rule = .insert) (hs : authoritative = some s) :
      Change m rule authoritative is (s :: is)

/-- Replacing an item that the answer is about is a change that the merge may make. -/
theorem change_replaceFirst {p : Item → Bool} (hs : authoritative = some s)
    (hp : ∀ i, p i = true → isOwnPlaceholder m i = true ∨ Concerns rule authoritative i.id)
    (is : List Item) : Change m rule authoritative is (replaceFirst p s is) := by
  cases hany : is.any p with
  | false =>
    rw [replaceFirst, Item.changeFirst_of_any_eq_false hany]
    exact .nowhere is
  | true =>
    obtain ⟨front, i, back, rfl, -, hi, hchange⟩ := Item.exists_changeFirst_eq hany fun _ => s
    rw [replaceFirst, hchange]
    exact .replaced (hp i hi) hs

/-- The first pass changes a list at one place at most. -/
theorem change_mergeList (m : MutationId) (rule : MergeRule) (authoritative : Option Item)
    (is : List Item) : Change m rule authoritative is (mergeList m rule authoritative is) := by
  cases rule with
  | insert =>
    cases authoritative with
    | none => exact .nowhere is
    | some s =>
      change Change m .insert (some s) is (insertItem m s is)
      unfold insertItem
      split
      · refine change_replaceFirst rfl ?_ is
        intro i hi
        exact Or.inr (Or.inr (by simp [of_decide_eq_true hi]))
      · split
        · exact change_replaceFirst rfl (fun _ => Or.inl) is
        · exact .added rfl rfl
  | update id =>
    cases authoritative with
    | none => exact .nowhere is
    | some s =>
      by_cases hs : s.id = id
      · rw [mergeList, if_pos hs]
        refine change_replaceFirst rfl ?_ is
        intro i hi
        exact Or.inr (Or.inl (by simp [MergeRule.id?, of_decide_eq_true hi]))
      · rw [mergeList, if_neg hs]
        exact .nowhere is
  | remove id =>
    change Change m (.remove id) authoritative is (is.eraseP fun i => i.id = id)
    rcases List.exists_or_eq_self_of_eraseP (fun i : Item => decide (i.id = id)) is with
      hsame | ⟨i, front, back, -, hi, rfl, herased⟩
    · rw [hsame]
      exact .nowhere is
    · rw [herased]
      exact .dropped (Or.inl (by simp [MergeRule.id?, of_decide_eq_true hi]))

/-! ## The second pass -/

/-- What the second pass leaves of an item. -/
def remains? (m : MutationId) (i : Item) : Option Item :=
  if isOwnPlaceholder m i then none else some (stripRecord m i)

/-- Stripping a marker leaves what remains of every item. -/
theorem stripMarker_eq_filterMap (m : MutationId) (is : List Item) :
    stripMarker m is = (is.map (remains? m)).filterMap id := by
  induction is with
  | nil => rfl
  | cons i is ih =>
    by_cases hi : isOwnPlaceholder m i = true
    · rw [stripMarker_cons_of_own hi, ih]
      simp [remains?, hi]
    · have hcons : stripMarker m (i :: is) = stripRecord m i :: stripMarker m is := by
        simp [stripMarker, hi, stripRecord]
      rw [hcons, ih]
      simp [remains?, hi]

/-- An item of another mutation remains as it is. -/
theorem remains?_of_unmarked (hi : i.marker ≠ some m) : remains? m i = some i := by
  simp [remains?, isOwnPlaceholder, stripRecord, Item.isMarkedBy, hi]

/-- An item may remain without the marker. -/
theorem outcome_remains (m : MutationId) (rule : MergeRule) (authoritative : Option Item)
    (i : Item) : Outcome m rule authoritative i (remains? m i) where
  kept _ hi := remains?_of_unmarked hi
  confirmed _ hi hplaceholder := by
    simp [remains?, isOwnPlaceholder, stripRecord, Item.isMarkedBy, hi, hplaceholder]
  settled hi hplaceholder := by
    simp [remains?, isOwnPlaceholder, Item.isMarkedBy, hi, hplaceholder]
  possible := by
    unfold remains?
    split
    · exact Or.inl rfl
    · exact Or.inr (Or.inr rfl)

/-- An item that the answer is about may be replaced by it. -/
theorem outcome_replaced (hi : isOwnPlaceholder m i = true ∨ Concerns rule authoritative i.id) :
    Outcome m rule authoritative i authoritative where
  kept hother hmarker := by
    have hown : isOwnPlaceholder m i = false := by
      simp [isOwnPlaceholder, Item.isMarkedBy, hmarker]
    exact absurd hi (by simp [hown, hother])
  confirmed hother _ hplaceholder := by
    have hown : isOwnPlaceholder m i = false := by simp [isOwnPlaceholder, hplaceholder]
    exact absurd hi (by simp [hown, hother])
  settled _ _ := Or.inr rfl
  possible := Or.inr (Or.inl rfl)

/-- An item that the answer is about may be dropped. -/
theorem outcome_dropped (hi : Concerns rule authoritative i.id) :
    Outcome m rule authoritative i none where
  kept hother _ := absurd hi hother
  confirmed hother _ _ := absurd hi hother
  settled _ _ := Or.inl rfl
  possible := Or.inl rfl

/-- All items of a list may remain. -/
theorem forall₂_outcome_remains (m : MutationId) (rule : MergeRule) (authoritative : Option Item)
    (is : List Item) :
    List.Forall₂ (Outcome m rule authoritative) is (is.map (remains? m)) := by
  rw [List.forall₂_map_right_iff, List.forall₂_same]
  exact fun i _ => outcome_remains m rule authoritative i

/-- What becomes of a list that is merged. -/
theorem touchesOnly_list (rule : MergeRule) (ha : ∀ s, authoritative = some s → s.marker ≠ some m)
    (is : List Item) : TouchesOnly m rule authoritative is (list m rule authoritative is) := by
  have hremain := forall₂_outcome_remains m rule authoritative
  have hauthoritative : ∀ s, authoritative = some s → remains? m s = authoritative := by
    intro s hs
    rw [remains?_of_unmarked (ha s hs), hs]
  have hchange := change_mergeList m rule authoritative is
  rw [list, stripMarker_eq_filterMap]
  generalize mergeList m rule authoritative is = merged at hchange
  cases hchange with
  | nowhere => exact ⟨[], _, hremain is, rfl, Or.inl rfl⟩
  | @replaced front back i s hi hs =>
    refine ⟨[], _, List.rel_append (hremain front) (.cons (outcome_replaced hi) (hremain back)), ?_,
      Or.inl rfl⟩
    rw [List.map_append, List.map_cons, hauthoritative s hs, List.nil_append]
  | @dropped front back i hi =>
    refine ⟨[], _, List.rel_append (hremain front) (.cons (outcome_dropped hi) (hremain back)), ?_,
      Or.inl rfl⟩
    simp
  | @added _ s hrule hs =>
    refine ⟨[s], _, hremain is, ?_, Or.inr ⟨hrule, by rw [hs]; rfl⟩⟩
    rw [List.map_cons, hauthoritative s hs, hs]
    rfl

/-- A list without the marker may stay as it is. -/
theorem touchesOnly_refl (h : ∀ i ∈ is, i.isMarkedBy m = false) :
    TouchesOnly m rule authoritative is is := by
  refine ⟨[], _, forall₂_outcome_remains m rule authoritative is, ?_, Or.inl rfl⟩
  rw [← stripMarker_eq_filterMap, stripMarker_of_unmarked h, List.nil_append]

/-- An answer is about the item with its id. -/
theorem concerns_of_mem_toList (h : i ∈ authoritative.toList) :
    Concerns rule authoritative i.id := by
  cases authoritative with
  | none => cases h
  | some s =>
    obtain rfl := List.mem_singleton.mp h
    exact Or.inr rfl

@[simp]
theorem id_stripRecord (m : MutationId) (i : Item) : (stripRecord m i).id = i.id := by
  unfold stripRecord
  split <;> rfl

/-- Of one item the outcome is of no concern only if the item was. -/
theorem Outcome.filter_eq {outcome : Option Item} (h : Outcome m rule authoritative i outcome) :
    (outcome.toList.filter fun i => ¬ Concerns rule authoritative i.id) =
      ([i].filter fun i => ¬ Concerns rule authoritative i.id ∧ isOwnPlaceholder m i = false).map
        (stripRecord m) := by
  have hnone : (authoritative.toList.filter fun i => ¬ Concerns rule authoritative i.id) = [] := by
    rw [List.filter_eq_nil_iff]
    intro s hs
    simpa using concerns_of_mem_toList hs
  by_cases hi : Concerns rule authoritative i.id
  · have hright : ([i].filter fun i => ¬ Concerns rule authoritative i.id ∧
        isOwnPlaceholder m i = false) = [] := by simp [hi]
    rw [hright, List.map_nil]
    rcases h.possible with rfl | rfl | rfl
    · rfl
    · exact hnone
    · simp [hi]
  · by_cases hown : isOwnPlaceholder m i = true
    · have hright : ([i].filter fun i => ¬ Concerns rule authoritative i.id ∧
          isOwnPlaceholder m i = false) = [] := by simp [hown]
      rw [hright, List.map_nil]
      obtain ⟨hmarked, hplaceholder⟩ := Bool.and_eq_true_iff.mp hown
      rcases h.settled (of_decide_eq_true hmarked) hplaceholder with rfl | rfl
      · rfl
      · exact hnone
    · have hstrip : outcome = some (stripRecord m i) := by
        unfold stripRecord
        by_cases hmarked : i.marker = some m
        · have hplaceholder : i.isPlaceholder = false := by
            simpa [isOwnPlaceholder, Item.isMarkedBy, hmarked] using hown
          simpa [Item.isMarkedBy, hmarked] using h.confirmed hi hmarked hplaceholder
        · simpa [Item.isMarkedBy, hmarked] using h.kept hi hmarked
      simp [hstrip, hi, hown]

/-- The items of no concern are the same as before, in the same order, but without the placeholders
of the mutation and without its marker. -/
theorem TouchesOnly.filter_eq (h : TouchesOnly m rule authoritative is js) :
    (js.filter fun i => ¬ Concerns rule authoritative i.id) =
      (is.filter fun i => ¬ Concerns rule authoritative i.id ∧ isOwnPlaceholder m i = false).map
        (stripRecord m) := by
  obtain ⟨front, outcomes, houtcomes, rfl, hfront⟩ := h
  have hnone : (front.filter fun i => ¬ Concerns rule authoritative i.id) = [] := by
    rw [List.filter_eq_nil_iff]
    intro i hi
    rcases hfront with rfl | ⟨-, rfl⟩
    · cases hi
    · simpa using concerns_of_mem_toList hi
  rw [List.filter_append, hnone, List.nil_append]
  induction houtcomes with
  | nil => rfl
  | @cons i outcome is outcomes hi _ ih =>
    have hcons : (outcome :: outcomes).filterMap id = outcome.toList ++ outcomes.filterMap id := by
      cases outcome <;> rfl
    rw [hcons, List.filter_append, hi.filter_eq, ih, ← List.map_append, ← List.filter_append,
      List.singleton_append]

/-! ## Records -/

/-- A merged record is the authoritative item, or the record without the marker. -/
theorem record_cases (m : MutationId) (rule : MergeRule) (authoritative : Option Item) (r : Item) :
    (∃ s, rule = .update r.id ∧ authoritative = some s ∧ s.id = r.id ∧
      record m rule authoritative r = s) ∨
    ((∀ s, rule = .update r.id → authoritative = some s → s.id ≠ r.id) ∧
      record m rule authoritative r = stripRecord m r) := by
  unfold record
  split
  · rename_i id s
    split
    · rename_i hids
      obtain ⟨rfl, hs⟩ := hids
      exact Or.inl ⟨s, rfl, rfl, hs, rfl⟩
    · rename_i hids
      refine Or.inr ⟨?_, rfl⟩
      rintro s' hrule hs' hid
      cases hrule
      cases hs'
      exact hids ⟨rfl, hid⟩
  · rename_i hnot
    refine Or.inr ⟨?_, rfl⟩
    rintro s rfl rfl -
    exact hnot _ _ rfl rfl

/-- What becomes of a record that is merged. -/
theorem recordOutcome_record (m : MutationId) (rule : MergeRule) (authoritative : Option Item)
    (r : Item) : RecordOutcome m rule authoritative r (record m rule authoritative r) := by
  rcases record_cases m rule authoritative r with ⟨s, hrule, hs, hid, hr⟩ | ⟨hother, hr⟩
  · refine ⟨?_, fun h => absurd hid (h s hrule hs), fun h => absurd hid (h s hrule hs)⟩
    intro s' _ hs' _
    rw [hr]
    exact Or.inl (Option.some.inj (hs.symm.trans hs'))
  · refine ⟨fun s hrule hs hid => absurd hid (hother s hrule hs), ?_, ?_⟩
    · intro _ hmarker
      rw [hr, stripRecord, if_neg (by simpa [Item.isMarkedBy] using hmarker)]
    · intro _ hmarker
      rw [hr, stripRecord, if_pos (by simpa [Item.isMarkedBy] using hmarker)]

/-- A record that agrees with the merged one may stay as it is. -/
theorem recordOutcome_of_same {r : Item}
    (h : r.same (record m rule authoritative r) = true) :
    RecordOutcome m rule authoritative r r := by
  obtain ⟨hanswered, hkept, hconfirmed⟩ := recordOutcome_record m rule authoritative r
  refine ⟨?_, fun _ _ => rfl, ?_⟩
  · intro s hrule hs hid
    right
    rcases hanswered s hrule hs hid with hr | ⟨_, hsame⟩
    · rw [hr] at h
      exact ⟨rfl, h⟩
    · exact ⟨rfl, hsame⟩
  · intro hother hmarker
    rw [hconfirmed hother hmarker] at h
    have hnone := Item.marker_eq_of_same h
    rw [hmarker] at hnone
    cases hnone

/-! ## The value of a key -/

/-- A merged record does not carry the marker of the mutation. -/
theorem marker_record_ne (rule : MergeRule) (ha : ∀ s, authoritative = some s → s.marker ≠ some m)
    (r : Item) : (record m rule authoritative r).marker ≠ some m := by
  rcases record_cases m rule authoritative r with ⟨s, _, hs, _, hr⟩ | ⟨_, hr⟩
  · rw [hr]
    exact ha s hs
  · rw [hr, stripRecord]
    split
    · exact nofun
    · rename_i hunmarked
      simpa [Item.isMarkedBy] using hunmarked

/-- What stands under the key of a list after a merge into it: the merged list, or a list that did
not carry the marker either. -/
theorem exists_value_or_list (rule : MergeRule)
    (ha : ∀ s, authoritative = some s → s.marker ≠ some m) (is : List Item) :
    ∃ js, (value m rule authoritative (some (.list is))).or (some (.list is)) = some (.list js) ∧
      js.any (fun i => i.isMarkedBy m) = false ∧ TouchesOnly m rule authoritative is js := by
  have hgone : (list m rule authoritative is).any (fun i => i.isMarkedBy m) = false :=
    containsMarker_stripMarker m _
  rcases value_or_cases m rule authoritative (.list is) with hnew | ⟨hkept, hsame⟩
  · exact ⟨_, hnew, hgone, touchesOnly_list rule ha is⟩
  · have hunmarked : is.any (fun i => i.isMarkedBy m) = false :=
      (CacheValue.any_isMarkedBy_of_sameItems hsame m).trans hgone
    exact ⟨is, hkept, hunmarked, touchesOnly_refl (by simpa using hunmarked)⟩

/-- What stands under the key of a record after a merge into it. -/
theorem exists_value_or_record (rule : MergeRule)
    (ha : ∀ s, authoritative = some s → s.marker ≠ some m) (r : Item) :
    ∃ r', (value m rule authoritative (some (.record r))).or (some (.record r)) =
        some (.record r') ∧
      r'.marker ≠ some m ∧ RecordOutcome m rule authoritative r r' := by
  have hgone := marker_record_ne rule ha r
  rcases value_or_cases m rule authoritative (.record r) with hnew | ⟨hkept, hsame⟩
  · exact ⟨_, hnew, hgone, recordOutcome_record m rule authoritative r⟩
  · have hmarker : r.marker = (record m rule authoritative r).marker :=
      Item.marker_eq_of_same hsame
    exact ⟨r, hkept, hmarker ▸ hgone, recordOutcome_of_same hsame⟩

/-- After a merge nothing under the key carries the marker of the mutation.  A list stays a list and
a record stays a record, and what appears under an absent key is a list.  Of a list each item has
its outcome in its place, and the items of no concern are the same but for the marker; a record is
the old one but for the marker, unless the update is about it and was answered. -/
theorem value_touchesOnly (m : MutationId) (rule : MergeRule) (authoritative : Option Item)
    (ha : ∀ s, authoritative = some s → s.marker ≠ some m) (current : Option CacheValue) :
    let after := (value m rule authoritative current).or current
    (∀ v, after = some v → v.containsMarker m = false) ∧
    match current with
    | none => ∀ v, after = some v → ∃ is, v = .list is
    | some (.list is) =>
      ∃ js, after = some (.list js) ∧ TouchesOnly m rule authoritative is js ∧
        (js.filter fun i => ¬ Concerns rule authoritative i.id) =
          (is.filter fun i => ¬ Concerns rule authoritative i.id ∧
            isOwnPlaceholder m i = false).map (stripRecord m)
    | some (.record r) =>
      ∃ r', after = some (.record r') ∧ RecordOutcome m rule authoritative r r' := by
  intro after
  rcases current with _ | is | r
  · have hlist : ∀ v, after = some v → ∃ s, authoritative = some s ∧ v = .list [s] := by
      intro v hv
      rw [show after = value m rule authoritative none from Option.or_none] at hv
      exact (value_absent hv).2
    constructor
    · intro v hv
      obtain ⟨s, hs, rfl⟩ := hlist v hv
      simp [CacheValue.containsMarker, CacheValue.items, Item.isMarkedBy, ha s hs]
    · intro v hv
      obtain ⟨s, _, rfl⟩ := hlist v hv
      exact ⟨[s], rfl⟩
  · obtain ⟨js, hafter, hgone, htouches⟩ := exists_value_or_list rule ha is
    refine ⟨?_, js, hafter, htouches, htouches.filter_eq⟩
    intro v hv
    obtain rfl := Option.some.inj (hafter.symm.trans hv)
    exact hgone
  · obtain ⟨r', hafter, hgone, houtcome⟩ := exists_value_or_record rule ha r
    refine ⟨?_, r', hafter, houtcome⟩
    intro v hv
    obtain rfl := Option.some.inj (hafter.symm.trans hv)
    simp [CacheValue.containsMarker, CacheValue.items, Item.isMarkedBy, hgone]

/-- A created comment takes the place of its placeholder, between the placeholder of another
mutation and an item that the mutation had edited. -/
theorem value_touchesOnly_created :
    let m : MutationId := ⟨1⟩
    let created := Item.new "c1" .null
    let theirs := Item.placeholder "tmp-2" ⟨2⟩ .null
    let edited := Item.new "c0" .null
    let before := [theirs, Item.placeholder "tmp-1" m .null, edited.marked m]
    (∀ s, some created = some s → s.marker ≠ some m) ∧
      (value m .insert (some created) (some (.list before))).or (some (.list before)) =
        some (.list [theirs, created, edited]) ∧
      TouchesOnly m .insert (some created) before [theirs, created, edited] := by
  intro m created theirs edited before
  have ha : ∀ s, some created = some s → s.marker ≠ some m := by
    intro s hs
    rw [← Option.some.inj hs]
    exact nofun
  have hafter : (value m .insert (some created) (some (.list before))).or (some (.list before)) =
      some (.list [theirs, created, edited]) := by decide +kernel
  obtain ⟨-, js, hjs, htouches, -⟩ :=
    value_touchesOnly m .insert (some created) ha (some (.list before))
  rw [hafter] at hjs
  obtain rfl := CacheValue.list.inj (Option.some.inj hjs)
  exact ⟨ha, hafter, htouches⟩

end Reconcile
end OptimisticCache
