import OptimisticCache.Query.Key
/-!
# Keys are canonical

The parameters of a key stand in the order of their names, whatever order they were given
in.  A parameter finds its place by bisection, which is right as long as the names are in
order and each occurs once, and it keeps them so, whether it replaces a value or goes in
between two others.

A table in order is determined by its values, so a key is determined by its kind and by
the last value given under each name.

Main results:

- Theorem {lit}`Table.isPlace_bisect`: bisection finds the place of a key in a table that
  is in order.
- Theorem {lit}`Table.putAt_of_isPlace`: to write at the place of a key is to insert.
- Theorem {lit}`QueryKey.param_canonical`: what a key is after any parameters were given.
-/

namespace OptimisticCache
namespace Table

variable {α β : Type} [DecidableEq α]

/-- The first value under a key is the one that is found. -/
theorem get?_eq_some_iff {k : α} {v : β} {t : List (α × β)} :
    get? k t = some v ↔ ∃ front back, t = front ++ (k, v) :: back ∧ k ∉ keys front := by
  constructor
  · intro h
    induction t with
    | nil => cases h
    | cons p t ih =>
      obtain ⟨k', v'⟩ := p
      rw [get?_cons] at h
      split at h
      · rename_i hk
        obtain rfl := Option.some.inj h
        exact ⟨[], t, by rw [hk]; rfl, List.not_mem_nil⟩
      · rename_i hk
        obtain ⟨front, back, rfl, hfront⟩ := ih h
        refine ⟨(k', v') :: front, back, rfl, ?_⟩
        rw [keys, List.map_cons, List.mem_cons, not_or]
        exact ⟨Ne.symm hk, hfront⟩
  · rintro ⟨front, back, rfl, hfront⟩
    rw [get?_append, get?_eq_none_of_not_mem hfront, get?_cons, if_pos rfl]
    rfl

/-! ## Bisection -/

/-- The place of a key in a table: where it stands, or where it would go in. -/
inductive Place where
  | found (i : Nat)
  | gap (i : Nat)

/-- Look for the place of a key by bisection, among the positions from `lo` to before `hi`. -/
def bisect [KeyOrder α] (k : α) (t : List (α × β)) (lo hi : Nat) : Place :=
  if lo < hi then
    let mid := (lo + hi) / 2
    match t[mid]? with
    | some p =>
      if p.1 = k then .found mid
      else if KeyOrder.before p.1 k then bisect k t (mid + 1) hi
      else bisect k t lo mid
    | none => .gap lo
  else .gap lo
termination_by hi - lo

/-- Write a value at the place of its key. -/
def putAt (k : α) (v : β) (t : List (α × β)) : Place → List (α × β)
  | .found i => t.set i (k, v)
  | .gap i => t.take i ++ (k, v) :: t.drop i

/-- What it means to be the place of a key: the key stands there, or it would stand between the
keys before it and the keys after it. -/
inductive IsPlace [KeyOrder α] (k : α) (t : List (α × β)) : Place → Prop
  | found {front back : List (α × β)} {v : β} (ht : t = front ++ (k, v) :: back) :
      IsPlace k t (.found front.length)
  | gap {front back : List (α × β)} (ht : t = front ++ back)
      (hfront : ∀ a ∈ keys front, KeyOrder.before a k = true)
      (hback : ∀ a ∈ keys back, KeyOrder.before k a = true) : IsPlace k t (.gap front.length)

variable [KeyOrder α] {k : α} {t : List (α × β)}

omit [DecidableEq α] in
/-- Keys in a strict order are different. -/
theorem ne_of_before {a b : α} (h : KeyOrder.before a b = true) : a ≠ b := by
  rintro rfl
  rw [KeyOrder.irrefl] at h
  cases h

omit [DecidableEq α] in
/-- Of two keys only one stands before the other. -/
theorem not_before_of_before {a b : α} (h : KeyOrder.before a b = true) :
    KeyOrder.before b a = false := by
  rw [Bool.eq_false_iff]
  intro h'
  exact ne_of_before (KeyOrder.trans h h') rfl

omit [DecidableEq α] in
/-- In a table that is in order, what is in front of an entry has smaller keys, and what is behind
it has larger ones. -/
theorem Sorted.split {front back : List (α × β)} {p : α × β} (h : Sorted (front ++ p :: back)) :
    (∀ a ∈ keys front, KeyOrder.before a p.1 = true) ∧
      ∀ a ∈ keys back, KeyOrder.before p.1 a = true := by
  unfold Sorted keys at h
  rw [List.map_append, List.map_cons, List.pairwise_append, List.pairwise_cons] at h
  exact ⟨fun a ha => h.2.2 a ha p.1 List.mem_cons_self, h.2.1.1⟩

/-- A key goes in behind all smaller ones. -/
theorem insert_append {front : List (α × β)}
    (hfront : ∀ a ∈ keys front, KeyOrder.before a k = true) (v : β) (back : List (α × β)) :
    insert k v (front ++ back) = front ++ insert k v back := by
  induction front with
  | nil => rfl
  | cons p front ih =>
    obtain ⟨hp, hrest⟩ := List.forall_mem_cons.mp hfront
    rw [List.cons_append, insert, if_neg (ne_of_before hp), not_before_of_before hp, ih hrest]
    rfl

/-- A key goes in before all larger ones. -/
theorem insert_of_before (hback : ∀ a ∈ keys t, KeyOrder.before k a = true) (v : β) :
    insert k v t = (k, v) :: t := by
  cases t with
  | nil => rfl
  | cons p t =>
    have hp : KeyOrder.before k p.1 = true := hback p.1 List.mem_cons_self
    rw [insert, if_neg (ne_of_before hp).symm, if_pos hp]

/-- To write a value at the place of its key is to insert it. -/
theorem putAt_of_isPlace (ht : Sorted t) {place : Place} (h : IsPlace k t place) (v : β) :
    putAt k v t place = insert k v t := by
  cases h with
  | @found front back v' heq =>
    subst heq
    rw [putAt, insert_append ht.split.1, insert, if_pos rfl]
    simp
  | @gap front back heq hfront hback =>
    subst heq
    rw [putAt, insert_append hfront, insert_of_before hback]
    simp

omit [DecidableEq α] [KeyOrder α] in
/-- A list is what stands before, at and behind one of its places. -/
theorem eq_take_append_drop {i : Nat} {p : α × β} (h : t[i]? = some p) :
    t = t.take i ++ p :: t.drop (i + 1) := by
  obtain ⟨hi, hp⟩ := List.getElem?_eq_some_iff.mp h
  rw [← hp, ← List.drop_eq_getElem_cons hi, List.take_append_drop]

/-- Bisection finds the place of a key in a table that is in order, if the keys before the first
position are smaller and those from the end on are larger. -/
theorem isPlace_bisect_between (ht : Sorted t) {lo hi : Nat} (hlohi : lo ≤ hi)
    (hhi : hi ≤ t.length) (hsmaller : ∀ a ∈ keys (t.take lo), KeyOrder.before a k = true)
    (hlarger : ∀ a ∈ keys (t.drop hi), KeyOrder.before k a = true) :
    IsPlace k t (bisect k t lo hi) := by
  fun_induction bisect k t lo hi with
  | case1 lo hi hlt mid p hmid hk =>
    obtain ⟨k', v⟩ := p
    obtain rfl : k' = k := hk
    have hplace : IsPlace k' t (.found (t.take mid).length) := .found (eq_take_append_drop hmid)
    rwa [List.length_take_of_le (by omega)] at hplace
  | case2 lo hi hlt mid p hmid hk hbefore ih =>
    have hsplit := eq_take_append_drop hmid
    have hfront := (Sorted.split (hsplit.subst ht)).1
    refine ih (by omega) hhi ?_ hlarger
    intro a ha
    rw [List.take_add_one, hmid, keys, List.map_append, List.mem_append] at ha
    rcases ha with ha | ha
    · exact KeyOrder.trans (hfront a ha) hbefore
    · rw [List.mem_singleton.mp ha]
      exact hbefore
  | case3 lo hi hlt mid p hmid hk hbefore ih =>
    have hsplit := eq_take_append_drop hmid
    have hback := (Sorted.split (hsplit.subst ht)).2
    have hafter : KeyOrder.before k p.1 = true := by
      rcases KeyOrder.total k p.1 with h | h | h
      · exact h
      · exact absurd h.symm hk
      · exact absurd h hbefore
    refine ih (by omega) (by omega) hsmaller ?_
    intro a ha
    obtain ⟨hi, hp⟩ := List.getElem?_eq_some_iff.mp hmid
    rw [List.drop_eq_getElem_cons hi, hp, keys, List.map_cons, List.mem_cons] at ha
    rcases ha with rfl | ha
    · exact hafter
    · exact KeyOrder.trans hafter (hback a ha)
  | case4 lo hi hlt mid hmid =>
    rw [List.getElem?_eq_none_iff] at hmid
    omega
  | case5 lo hi hle =>
    obtain rfl : lo = hi := by omega
    have hplace : IsPlace k t (.gap (t.take lo).length) :=
      .gap (List.take_append_drop lo t).symm hsmaller hlarger
    rwa [List.length_take_of_le hhi] at hplace

/-- Bisection finds the place of a key in a table that is in order. -/
theorem isPlace_bisect (ht : Sorted t) (k : α) : IsPlace k t (bisect k t 0 t.length) := by
  apply isPlace_bisect_between ht (Nat.zero_le _) (Nat.le_refl _)
  · intro a ha
    rw [List.take_zero] at ha
    cases ha
  · intro a ha
    rw [List.drop_length] at ha
    cases ha

end Table

namespace QueryKey

/-! ## Keys -/

/-- The key of a kind after parameters are given one after the other. -/
def withParams (entity : Entity) (ps : List (String × String)) : QueryKey :=
  ps.foldl (fun k p => k.param p.1 p.2) (new entity)

/-- Give a parameter by writing it at the place that bisection finds for its name. -/
def paramAtPlace (k : QueryKey) (name value : String) : QueryKey :=
  { k with
    params := Table.putAt name value k.params (Table.bisect name k.params 0 k.params.length) }

/-- A value is the last one that is given under a name: the parameters behind it have other
names. -/
def LastGiven (ps : List (String × String)) (name value : String) : Prop :=
  ∃ front back, ps = front ++ (name, value) :: back ∧ name ∉ Table.keys back

variable {entity : Entity} {ps : List (String × String)}

/-- Parameters that are given one after the other are inserted one after the other. -/
theorem foldl_param (k : QueryKey) (ps : List (String × String)) :
    ps.foldl (fun k p => k.param p.1 p.2) k =
      { k with params := ps.foldl (fun t p => Table.insert p.1 p.2 t) k.params } := by
  induction ps generalizing k with
  | nil => rfl
  | cons p ps ih => exact ih (k.param p.1 p.2)

@[simp]
theorem entity_withParams (entity : Entity) (ps : List (String × String)) :
    (withParams entity ps).entity = entity := by
  rw [withParams, foldl_param]
  rfl

/-- The parameters of a key are those given last, in order. -/
theorem params_withParams (entity : Entity) (ps : List (String × String)) :
    (withParams entity ps).params = Table.ofList ps := by
  rw [withParams, foldl_param]
  rfl

/-- The parameters are in strictly increasing order of their names. -/
theorem sorted_withParams (entity : Entity) (ps : List (String × String)) :
    Table.Sorted (withParams entity ps).params := by
  rw [params_withParams]
  exact Table.sorted_ofList ps

/-- As long as the names are in order, a parameter can be written at the place that bisection
finds. -/
theorem paramAtPlace_eq {k : QueryKey} (h : Table.Sorted k.params) (name value : String) :
    k.paramAtPlace name value = k.param name value := by
  rw [paramAtPlace, Table.putAt_of_isPlace h (Table.isPlace_bisect h name)]
  rfl

/-- Parameters may be put at their places instead of searching for them from the front. -/
theorem foldl_paramAtPlace {k : QueryKey} (h : Table.Sorted k.params)
    (ps : List (String × String)) :
    ps.foldl (fun k p => k.paramAtPlace p.1 p.2) k = ps.foldl (fun k p => k.param p.1 p.2) k := by
  induction ps generalizing k with
  | nil => rfl
  | cons p ps ih =>
    rw [List.foldl_cons, List.foldl_cons, paramAtPlace_eq h]
    exact ih (Table.insert_sorted p.1 p.2 h)

/-- A parameter has the last value that was given for it. -/
theorem get?_withParams_eq_some_iff (entity : Entity) {name value : String} :
    (withParams entity ps).get? name = some value ↔ LastGiven ps name value := by
  rw [get?, params_withParams, Table.get?_ofList, Table.get?_eq_some_iff]
  constructor
  · rintro ⟨front, back, hps, hfront⟩
    refine ⟨back.reverse, front.reverse, ?_, ?_⟩
    · rw [← List.reverse_reverse ps, hps]
      simp
    · simpa [Table.keys] using hfront
  · rintro ⟨front, back, rfl, hback⟩
    refine ⟨back.reverse, front.reverse, by simp, ?_⟩
    simpa [Table.keys] using hback

/-- A key lacks exactly the parameters that were not given. -/
theorem get?_withParams_eq_none_iff (entity : Entity) {name : String} :
    (withParams entity ps).get? name = none ↔ name ∉ ps.map Prod.fst := by
  have hkeys : name ∈ ps.map Prod.fst ↔ (Table.get? name ps.reverse).isSome = true := by
    rw [← Table.mem_keys_iff, Table.keys, List.map_reverse, List.mem_reverse]
  rw [get?, params_withParams, Table.get?_ofList, hkeys]
  simp

/-- Keys with their parameters in order are the same if they are of the same kind and have the same
values. -/
theorem eq_of_get? {k k' : QueryKey} (hentity : k.entity = k'.entity)
    (hk : Table.Sorted k.params) (hk' : Table.Sorted k'.params)
    (h : ∀ name, k.get? name = k'.get? name) : k = k' := by
  obtain ⟨entity, ps⟩ := k
  obtain ⟨entity', ps'⟩ := k'
  obtain rfl : entity = entity' := hentity
  obtain rfl : ps = ps' := Table.eq_of_get? hk hk' h
  rfl

/-- Of two keys neither comes before the other exactly if they are the same. -/
theorem neither_before_iff {k k' : QueryKey} :
    before k k' = false ∧ before k' k = false ↔ k = k' := by
  constructor
  · rintro ⟨h, h'⟩
    rcases before_total k k' with hlt | heq | hgt
    · rw [h] at hlt
      cases hlt
    · exact heq
    · rw [h'] at hgt
      cases hgt
  · rintro rfl
    exact ⟨before_irrefl k, before_irrefl k⟩

/-- Keys are equal exactly if they are of one kind and the same values were given last. -/
theorem withParams_eq_iff {entity' : Entity} {ps' : List (String × String)} :
    withParams entity ps = withParams entity' ps' ↔
      entity = entity' ∧ ∀ name value, LastGiven ps name value ↔ LastGiven ps' name value := by
  constructor
  · intro h
    refine ⟨?_, fun name value => ?_⟩
    · rw [← entity_withParams entity ps, h, entity_withParams]
    · rw [← get?_withParams_eq_some_iff entity, h, get?_withParams_eq_some_iff]
  · rintro ⟨rfl, h⟩
    refine eq_of_get? (by simp) (sorted_withParams entity ps) (sorted_withParams entity ps') ?_
    intro name
    apply Option.ext
    intro value
    rw [get?_withParams_eq_some_iff, get?_withParams_eq_some_iff]
    exact h name value

/-- Parameters with different names can be given in either order. -/
theorem param_comm {k : QueryKey} (h : Table.Sorted k.params) {m n : String} (hne : m ≠ n)
    (v w : String) : (k.param m v).param n w = (k.param n w).param m v := by
  refine eq_of_get? rfl (Table.insert_sorted n w (Table.insert_sorted m v h))
    (Table.insert_sorted m v (Table.insert_sorted n w h)) ?_
  intro name
  simp only [get?_param]
  by_cases hm : name = m
  · rw [if_pos hm, if_pos hm, if_neg (hm ▸ hne)]
  · rw [if_neg hm, if_neg hm]

/-- To give a parameter the value that it has changes nothing. -/
theorem param_of_get? {k : QueryKey} (h : Table.Sorted k.params) {name value : String}
    (hvalue : k.get? name = some value) : k.param name value = k := by
  refine eq_of_get? rfl (Table.insert_sorted name value h) h ?_
  intro other
  rw [get?_param]
  split
  · rename_i hother
    rw [hother, hvalue]
  · rfl

/-- Give a key any parameters, in any order and under any names, which may repeat.  They end up in
strictly increasing order of their names, whether each is inserted or written at the place that
bisection finds.  A name has the last value that was given for it, and none if there was none.  Two
such keys are equal, and neither comes before the other, exactly if they are of one kind and
every name has the same last value.  So parameters with different names commute, and to repeat one
whose value still is the last changes nothing. -/
theorem param_canonical (entity : Entity) (ps : List (String × String)) :
    let k := withParams entity ps
    k.params.Pairwise (fun p q => Text.before p.1 q.1 = true) ∧
    ps.foldl (fun k p => k.paramAtPlace p.1 p.2) (new entity) = k ∧
    (∀ n v, k.get? n = some v ↔ LastGiven ps n v) ∧
    (∀ n, k.get? n = none ↔ n ∉ ps.map Prod.fst) ∧
    (∀ entity' ps', k = withParams entity' ps' ↔
      entity = entity' ∧ ∀ n v, LastGiven ps n v ↔ LastGiven ps' n v) ∧
    (∀ k', before k k' = false ∧ before k' k = false ↔ k = k') ∧
    (∀ m n v w, m ≠ n → (k.param m v).param n w = (k.param n w).param m v) ∧
    ∀ n v, LastGiven ps n v → k.param n v = k := by
  intro k
  have hsorted : Table.Sorted k.params := sorted_withParams entity ps
  refine ⟨List.pairwise_map.mp hsorted, foldl_paramAtPlace Table.sorted_nil ps,
    fun n v => get?_withParams_eq_some_iff entity, fun n => get?_withParams_eq_none_iff entity,
    fun entity' ps' => withParams_eq_iff, fun k' => neither_before_iff,
    fun m n v w hne => param_comm hsorted hne v w, fun n v hlast => ?_⟩
  exact param_of_get? hsorted ((get?_withParams_eq_some_iff entity).mpr hlast)

/-- The order of the calls does not matter, and the last value of a name stays. -/
example : withParams .comments [("project_id", "p1"), ("page", "1"), ("page", "2")] =
    withParams .comments [("page", "2"), ("project_id", "p1")] := by
  decide +kernel

end QueryKey
end OptimisticCache
