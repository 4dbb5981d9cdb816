import Mathlib.Data.List.Forall2
import OptimisticCache.Proofs.ListOutcome
import OptimisticCache.Proofs.Markers
/-!
# One mutation under two names

A mutation that is begun twice on the same values, under two names and with two
supplies of placeholders, leaves values that differ in the markers and in the ids of
the placeholders only.  Neither shows in what a patch or a merge does: they compare
ids with ids that were fixed before, which no placeholder has, and look for their own
markers.  Once merged, the markers and the placeholders are gone and the values are the
same.

Main results:

- Theorem {lit}`Patch.twin_apply`: a patch takes effect on both values or on neither,
  and leaves such values.
- Theorem {lit}`Reconcile.value_eq_of_twin`: a merge leaves the same value of both.
-/

namespace OptimisticCache

/-! ## Lists that are related item by item -/

section Related

variable {R : Item → Item → Prop} {p q : Item → Bool} {is js : List Item}

/-- Two lists that are alike item by item agree on what holds of some item. -/
theorem any_eq_of_forall₂ (h : List.Forall₂ R is js) (hpq : ∀ i j, R i j → p i = q j) :
    is.any p = js.any q := by
  induction h with
  | nil => rfl
  | cons hij _ ih => rw [List.any_cons, List.any_cons, hpq _ _ hij, ih]

/-- They stay alike when the first items of one kind are changed alike. -/
theorem forall₂_changeFirst {f g : Item → Item} (h : List.Forall₂ R is js)
    (hpq : ∀ i j, R i j → p i = q j) (hfg : ∀ i j, R i j → p i = true → R (f i) (g j)) :
    List.Forall₂ R (Item.changeFirst p f is) (Item.changeFirst q g js) := by
  induction h with
  | nil => exact .nil
  | @cons i j is js hij hrest ih =>
    unfold Item.changeFirst
    rw [← hpq i j hij]
    by_cases hi : p i = true
    · rw [if_pos hi, if_pos hi]
      exact .cons (hfg i j hij hi) hrest
    · rw [if_neg hi, if_neg hi]
      exact .cons hij ih

/-- They stay alike when the first items of one kind are taken out. -/
theorem forall₂_eraseP (h : List.Forall₂ R is js) (hpq : ∀ i j, R i j → p i = q j) :
    List.Forall₂ R (is.eraseP p) (js.eraseP q) := by
  induction h with
  | nil => exact .nil
  | @cons i j is js hij hrest ih =>
    rw [List.eraseP_cons, List.eraseP_cons, ← hpq i j hij]
    by_cases hi : p i = true
    · rw [hi]
      exact hrest
    · rw [Bool.not_eq_true] at hi
      rw [hi]
      exact .cons hij ih

end Related

/-! ## Items -/

namespace Item

/-- No placeholder from the `next`th on has the id. -/
def NotDrawn (next : Nat) (id : String) : Prop :=
  ∀ n, next ≤ n → placeholderId n ≠ id

/-- An id that does not begin as those of placeholders do is never drawn. -/
theorem notDrawn_of_not_isPlaceholder {i : Item} (h : i.isPlaceholder = false) (next : Nat) :
    NotDrawn next i.id := by
  intro n _ hid
  have hsame : (placeholder (placeholderId n) ⟨0⟩ .null).isPlaceholder = i.isPlaceholder :=
    isPlaceholder_eq_of_id_eq hid
  rw [placeholder_isPlaceholder, h] at hsame
  cases hsame

/-- The same item, unmarked or marked by the two mutations. -/
inductive Alike (m m' : MutationId) : Item → Item → Prop where
  | unmarked {i : Item} (h : i.marker = none) : Alike m m' i i
  | marked (i : Item) : Alike m m' (i.marked m) (i.marked m')

/-- The same item, or placeholders of the two mutations for the same data. -/
inductive Twin (next : Nat) (m m' : MutationId) : Item → Item → Prop where
  | alike {i j : Item} (h : Alike m m' i j) : Twin next m m' i j
  | drawn (data : Json) {n n' : Nat} (hn : next ≤ n) (hn' : next ≤ n') :
    Twin next m m' (placeholder (placeholderId n) m data) (placeholder (placeholderId n') m' data)

variable {next : Nat} {m m' : MutationId} {i j : Item} {id : String}

/-- Marking and editing may be done in either order. -/
theorem withEdits_marked (edits : List FieldEdit) (i : Item) (m : MutationId) :
    (i.marked m).withEdits edits = (i.withEdits edits).marked m := by
  induction edits generalizing i with
  | nil => rfl
  | cons e edits ih =>
    have hmarked : e.apply (i.marked m) = (e.apply i).marked m := by
      cases e <;> rfl
    exact (congrArg (withEdits edits) hmarked).trans (ih (e.apply i))

namespace Alike

/-- Items that differ in their marker only have one id. -/
theorem id_eq (h : Alike m m' i j) : i.id = j.id := by
  cases h <;> rfl

/-- Each of them is marked by its own mutation, or neither is. -/
theorem isMarkedBy_eq (h : Alike m m' i j) : i.isMarkedBy m = j.isMarkedBy m' := by
  cases h with
  | unmarked h => simp [isMarkedBy, h]
  | marked i => simp [isMarkedBy]

/-- Without their markers they are equal. -/
theorem confirmed_eq (h : Alike m m' i j) : i.confirmed = j.confirmed := by
  cases h <;> rfl

/-- They are equal if they are not marked. -/
theorem eq_of_not_marked (h : Alike m m' i j) (hi : i.isMarkedBy m = false) :
    i = j ∧ i.marker = none := by
  cases h with
  | unmarked h => exact ⟨rfl, h⟩
  | marked i => simp [isMarkedBy] at hi

/-- Edits and the markers of the two mutations leave items that are alike. -/
theorem edited (h : Alike m m' i j) (edits : List FieldEdit) :
    Alike m m' (i.edited edits m) (j.edited edits m') := by
  cases h with
  | unmarked h => exact .marked (i.withEdits edits)
  | marked i =>
    have hi : ∀ m, (i.marked m).edited edits m = (i.withEdits edits).marked m := by
      intro m
      change ((i.marked m).withEdits edits).marked m = _
      rw [withEdits_marked]
      rfl
    rw [hi, hi]
    exact .marked _

end Alike

namespace Twin

/-- Twins are placeholders of their own mutations together. -/
theorem isOwnPlaceholder_eq (h : Twin next m m' i j) :
    Reconcile.isOwnPlaceholder m i = Reconcile.isOwnPlaceholder m' j := by
  cases h with
  | alike h =>
    rw [Reconcile.isOwnPlaceholder, Reconcile.isOwnPlaceholder, h.isMarkedBy_eq,
      isPlaceholder_eq_of_id_eq h.id_eq]
  | @drawn data n n' hn hn' =>
    have hown : ∀ n m, Reconcile.isOwnPlaceholder m (placeholder (placeholderId n) m data) = true := by
      intro n m
      rw [Reconcile.isOwnPlaceholder, placeholder_isPlaceholder]
      simp [isMarkedBy, placeholder]
    rw [hown, hown]

/-- Twins are marked by their own mutations together. -/
theorem isMarkedBy_eq (h : Twin next m m' i j) : i.isMarkedBy m = j.isMarkedBy m' := by
  cases h with
  | alike h => exact h.isMarkedBy_eq
  | drawn data hn hn' => simp [isMarkedBy, placeholder]

/-- Items that no mutation has marked are the same. -/
theorem eq_of_not_marked (h : Twin next m m' i j) (hi : i.isMarkedBy m = false) :
    i = j ∧ i.marker = none := by
  cases h with
  | alike h => exact h.eq_of_not_marked hi
  | drawn data hn hn' => simp [isMarkedBy, placeholder] at hi

/-- Only items that are alike have an id that no placeholder has. -/
theorem alike_of_id (h : Twin next m m' i j) (hid : NotDrawn next i.id) : Alike m m' i j := by
  cases h with
  | alike h => exact h
  | drawn data hn hn' => exact absurd rfl (hid _ hn)

/-- An id that was not drawn names both twins or neither. -/
theorem hasId_eq (h : Twin next m m' i j) (hid : NotDrawn next id) :
    decide (i.id = id) = decide (j.id = id) := by
  cases h with
  | alike h => rw [h.id_eq]
  | drawn data hn hn' =>
    have hne : ∀ n m, next ≤ n → decide ((placeholder (placeholderId n) m data).id = id) = false :=
      fun n m hn => decide_eq_false (hid n hn)
    rw [hne _ m hn, hne _ m' hn']

end Twin
end Item

/-! ## Values -/

/-- Lists of twins, or records that are alike. -/
inductive CacheValue.Twin (next : Nat) (m m' : MutationId) : CacheValue → CacheValue → Prop where
  | list {is js : List Item} (h : List.Forall₂ (Item.Twin next m m') is js) :
    Twin next m m' (.list is) (.list js)
  | record {r r' : Item} (h : Item.Alike m m' r r') : Twin next m m' (.record r) (.record r')

variable {next : Nat} {m m' : MutationId}

/-- Items without markers are their own twins. -/
theorem forall₂_twin_self {is : List Item} (h : ∀ i ∈ is, i.marker = none) :
    List.Forall₂ (Item.Twin next m m') is is :=
  List.forall₂_same.mpr fun i hi => .alike (.unmarked (h i hi))

/-- A value without provisional items is its own twin. -/
theorem CacheValue.twin_self {v : CacheValue} (h : v.hasProvisional = false) :
    v.Twin next m m' v := by
  have hitems : ∀ i ∈ v.items, i.marker = none := by
    intro i hi
    simpa [Item.isProvisional] using List.any_eq_false.mp h i hi
  cases v with
  | list is => exact .list (forall₂_twin_self hitems)
  | record r => exact .record (.unmarked (hitems r (List.mem_singleton.mpr rfl)))

namespace CacheValue.Twin

variable {v v' : CacheValue}

/-- A value is marked exactly if its twin is. -/
theorem containsMarker_eq (h : v.Twin next m m' v') : v.containsMarker m = v'.containsMarker m' := by
  cases h with
  | list h => exact any_eq_of_forall₂ h fun i j hij => hij.isMarkedBy_eq
  | record h => simp [containsMarker, items, h.isMarkedBy_eq]

/-- Values that no mutation has marked are the same. -/
theorem eq_of_not_marked (h : v.Twin next m m' v') (hv : v.containsMarker m = false) : v = v' := by
  cases h with
  | @list is js h =>
    have hsame : ∀ i ∈ is, i.isMarkedBy m = false := by
      intro i hi
      simpa using List.any_eq_false.mp hv i hi
    apply congrArg CacheValue.list
    rw [← List.forall₂_eq_eq_eq]
    induction h with
    | nil => exact .nil
    | @cons i j is js hij _ ih =>
      rcases List.forall_mem_cons.mp hsame with ⟨hi, hrest⟩
      refine .cons (hij.eq_of_not_marked hi).1 (ih ?_ hrest)
      simpa [containsMarker, items] using hrest
  | @record r r' h =>
    have hr : r.isMarkedBy m = false := by simpa [containsMarker, items] using hv
    exact congrArg CacheValue.record (h.eq_of_not_marked hr).1

end CacheValue.Twin

/-- An optional value without provisional items is its own twin. -/
theorem rel_twin_self {v : Option CacheValue} (h : ∀ w, v = some w → w.hasProvisional = false) :
    Option.Rel (CacheValue.Twin next m m') v v := by
  cases v with
  | none => exact .none
  | some w => exact .some (CacheValue.twin_self (h w rfl))

/-! ## Patches -/

namespace Patch

/-- The id that a patch looks for. -/
def names? : Patch → Option String
  | prepend _ | append _ => none
  | update id _ | remove id => some id

variable {p : Patch} {n n' : Nat} {v v' : Option CacheValue}

/-- A patch takes effect on twins alike. -/
theorem twin_apply (hp : ∀ id, p.names? = some id → Item.NotDrawn next id) (hn : next ≤ n)
    (hn' : next ≤ n') (h : Option.Rel (CacheValue.Twin next m m') v v') :
    Option.Rel (CacheValue.Twin next m m') (p.apply (Item.placeholderId n) m v)
      (p.apply (Item.placeholderId n') m' v') := by
  have hdrawn : ∀ data, Item.Twin next m m' (Item.placeholder (Item.placeholderId n) m data)
      (Item.placeholder (Item.placeholderId n') m' data) := fun data => .drawn data hn hn'
  cases h with
  | none =>
    cases p with
    | prepend data | append data => exact .some (.list (.cons (hdrawn data) .nil))
    | update id edits | remove id => exact .none
  | some h =>
    cases h with
    | @list is js h =>
      cases p with
      | prepend data => exact .some (.list (.cons (hdrawn data) h))
      | append data =>
        exact .some (.list (List.rel_append h (.cons (hdrawn data) .nil)))
      | update id edits =>
        have hid : ∀ i j, Item.Twin next m m' i j → decide (i.id = id) = decide (j.id = id) :=
          fun i j hij => hij.hasId_eq (hp id rfl)
        simp only [apply]
        rw [any_eq_of_forall₂ h hid]
        split
        · refine .some (.list (forall₂_changeFirst h hid ?_))
          intro i j hij hi
          have hnamed : Item.NotDrawn next i.id := of_decide_eq_true hi ▸ hp id rfl
          exact .alike ((hij.alike_of_id hnamed).edited edits)
        · exact .none
      | remove id =>
        have hid : ∀ i j, Item.Twin next m m' i j → decide (i.id = id) = decide (j.id = id) :=
          fun i j hij => hij.hasId_eq (hp id rfl)
        simp only [apply]
        rw [any_eq_of_forall₂ h hid]
        split
        · exact .some (.list (forall₂_eraseP h hid))
        · exact .none
    | @record r r' h =>
      cases p with
      | prepend data | append data | remove id => exact .none
      | update id edits =>
        simp only [apply]
        rw [h.id_eq]
        split
        · exact .some (.record (h.edited edits))
        · exact .none

end Patch

/-! ## Merges -/

namespace MergeRule

/-- The id that a merge looks for besides that of the authoritative item. -/
def names? : MergeRule → Option String
  | insert => none
  | update id | remove id => some id

end MergeRule

/-- A patch and its merge rule name the same item. -/
theorem Patch.names?_rule (p : Patch) : p.rule.names? = p.names? := by
  cases p <;> rfl

namespace Reconcile

variable {rule : MergeRule} {authoritative : Option Item} {is js : List Item} {r r' : Item}

/-- Twins are the same once the markers are stripped. -/
theorem stripMarker_eq_of_twin (h : List.Forall₂ (Item.Twin next m m') is js) :
    stripMarker m is = stripMarker m' js ∧ ∀ i ∈ stripMarker m is, i.marker = none := by
  induction h with
  | nil => exact ⟨rfl, List.forall_mem_nil _⟩
  | @cons i j is js hij _ ih =>
    rcases ih with ⟨heq, hunmarked⟩
    unfold stripMarker at heq hunmarked ⊢
    rw [List.filter_cons, List.filter_cons, ← hij.isOwnPlaceholder_eq]
    by_cases hown : isOwnPlaceholder m i = true
    · rw [hown]
      exact ⟨heq, hunmarked⟩
    · rw [Bool.not_eq_true] at hown
      have hhead : (if i.isMarkedBy m then i.confirmed else i) =
            (if j.isMarkedBy m' then j.confirmed else j) ∧
          (if i.isMarkedBy m then i.confirmed else i).marker = none := by
        rw [← hij.isMarkedBy_eq]
        by_cases hmarked : i.isMarkedBy m = true
        · rw [if_pos hmarked, if_pos hmarked]
          cases hij with
          | alike h => exact ⟨h.confirmed_eq, rfl⟩
          | drawn data hn hn' =>
            rw [isOwnPlaceholder, hmarked, Item.placeholder_isPlaceholder] at hown
            cases hown
        · rw [if_neg hmarked, if_neg hmarked]
          exact hij.eq_of_not_marked (Bool.eq_false_iff.mpr hmarked)
      rw [hown]
      simp only [Bool.not_false, if_true, List.map_cons]
      exact ⟨by rw [hhead.1, heq], List.forall_mem_cons.mpr ⟨hhead.2, hunmarked⟩⟩

section Merge

variable (hrule : ∀ id, rule.names? = some id → Item.NotDrawn next id)
  (hs : ∀ s, authoritative = some s → s.marker = none ∧ Item.NotDrawn next s.id)

include hrule hs

/-- Merging one answer into lists of twins gives lists of twins. -/
theorem forall₂_mergeList (h : List.Forall₂ (Item.Twin next m m') is js) :
    List.Forall₂ (Item.Twin next m m') (mergeList m rule authoritative is)
      (mergeList m' rule authoritative js) := by
  have hself : ∀ s, authoritative = some s → Item.Twin next m m' s s :=
    fun s hauth => .alike (.unmarked (hs s hauth).1)
  have hid : ∀ id, Item.NotDrawn next id → ∀ i j, Item.Twin next m m' i j →
      decide (i.id = id) = decide (j.id = id) := fun id hnot i j hij => hij.hasId_eq hnot
  cases rule with
  | insert =>
    cases authoritative with
    | none => exact h
    | some s =>
      have hsid := hid s.id (hs s rfl).2
      have hown : ∀ i j, Item.Twin next m m' i j → isOwnPlaceholder m i = isOwnPlaceholder m' j :=
        fun i j hij => hij.isOwnPlaceholder_eq
      unfold mergeList insertItem replaceFirst
      dsimp only
      rw [any_eq_of_forall₂ h hsid, any_eq_of_forall₂ h hown]
      split
      · exact forall₂_changeFirst h hsid fun _ _ _ _ => hself s rfl
      · split
        · exact forall₂_changeFirst h hown fun _ _ _ _ => hself s rfl
        · exact .cons (hself s rfl) h
  | update id =>
    cases authoritative with
    | none => exact h
    | some s =>
      unfold mergeList replaceFirst
      dsimp only
      split
      · exact forall₂_changeFirst h (hid id (hrule id rfl)) fun _ _ _ _ => hself s rfl
      · exact h
  | remove id => exact forall₂_eraseP h (hid id (hrule id rfl))

/-- A merge leaves the same list of twins. -/
theorem list_eq_of_twin (h : List.Forall₂ (Item.Twin next m m') is js) :
    list m rule authoritative is = list m' rule authoritative js ∧
      ∀ i ∈ list m rule authoritative is, i.marker = none :=
  stripMarker_eq_of_twin (forall₂_mergeList hrule hs h)

omit hrule in
/-- A merge leaves the same record of records that are alike. -/
theorem record_eq_of_alike (h : Item.Alike m m' r r') :
    record m rule authoritative r = record m' rule authoritative r' ∧
      (record m rule authoritative r).marker = none := by
  have hstrip : stripRecord m r = stripRecord m' r' ∧ (stripRecord m r).marker = none := by
    unfold stripRecord
    rw [← h.isMarkedBy_eq]
    by_cases hr : r.isMarkedBy m = true
    · rw [if_pos hr, if_pos hr]
      exact ⟨h.confirmed_eq, rfl⟩
    · rw [if_neg hr, if_neg hr]
      exact h.eq_of_not_marked (Bool.eq_false_iff.mpr hr)
  unfold record
  rw [h.id_eq]
  split
  · rename_i id s
    split
    · exact ⟨rfl, (hs s rfl).1⟩
    · exact hstrip
  · exact hstrip

/-- A merge leaves the same value of twins, with nothing provisional. -/
theorem present_eq_of_twin {v v' : CacheValue} (h : v.Twin next m m' v') :
    present m rule authoritative v = present m' rule authoritative v' ∧
      (present m rule authoritative v).hasProvisional = false := by
  cases h with
  | list h =>
    rcases list_eq_of_twin hrule hs h with ⟨heq, hunmarked⟩
    refine ⟨congrArg CacheValue.list heq, ?_⟩
    apply List.any_eq_false.mpr
    intro i hi
    simp [Item.isProvisional, hunmarked i hi]
  | record h =>
    rcases record_eq_of_alike hs h with ⟨heq, hunmarked⟩
    refine ⟨congrArg CacheValue.record heq, ?_⟩
    simp [present, CacheValue.hasProvisional, CacheValue.items, Item.isProvisional, hunmarked]

/-- A merge replaces both of two twins or neither, and afterwards they are the same. -/
theorem value_eq_of_twin {v v' : Option CacheValue}
    (h : Option.Rel (CacheValue.Twin next m m') v v') :
    (value m rule authoritative v).isSome = (value m' rule authoritative v').isSome ∧
      (value m rule authoritative v).or v = (value m' rule authoritative v').or v' ∧
      Option.Rel (CacheValue.Twin next m m') ((value m rule authoritative v).or v)
        ((value m' rule authoritative v').or v') := by
  cases h with
  | none =>
    refine ⟨rfl, rfl, rel_twin_self ?_⟩
    intro w hw
    rw [Option.or_none] at hw
    rcases value_absent hw with ⟨_, s, hauth, rfl⟩
    simp [CacheValue.hasProvisional, CacheValue.items, Item.isProvisional, (hs s hauth).1]
  | @some v v' h =>
    rcases present_eq_of_twin hrule hs h with ⟨heq, hunmarked⟩
    by_cases hmarked : v.containsMarker m = true
    · -- the marker goes, so the merged value differs from both
      have hreplaced : ∀ m w, w.containsMarker m = true →
          (present m rule authoritative w).hasProvisional = false →
          value m rule authoritative (some w) = some (present m rule authoritative w) := by
        intro m w hw hnext
        have hdiffers : w.same (present m rule authoritative w) = false := by
          rw [Bool.eq_false_iff]
          intro hsame
          rw [CacheValue.containsMarker_eq_of_same hsame m,
            CacheValue.containsMarker_of_not_hasProvisional hnext] at hw
          cases hw
        simp [value, hdiffers]
      rw [hreplaced m v hmarked hunmarked,
        hreplaced m' v' (h.containsMarker_eq ▸ hmarked) (heq ▸ hunmarked), ← heq]
      exact ⟨rfl, rfl, .some (CacheValue.twin_self hunmarked)⟩
    · obtain rfl := h.eq_of_not_marked (Bool.eq_false_iff.mpr hmarked)
      have hvalue : value m rule authoritative (some v) = value m' rule authoritative (some v) := by
        simp only [value, heq]
      rw [← hvalue]
      refine ⟨rfl, rfl, ?_⟩
      cases hnew : value m rule authoritative (some v) with
      | none => exact .some h
      | some w =>
        rw [value_present hnew]
        exact .some (CacheValue.twin_self hunmarked)

end Merge
end Reconcile
end OptimisticCache
