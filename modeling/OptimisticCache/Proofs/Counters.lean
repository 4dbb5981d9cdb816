import OptimisticCache.Proofs.CommittedLists
import OptimisticCache.Proofs.Traffic
/-!
# Counters

Items count votes, comments, likes, posts and members.  A counter that a payload gives
is any whole number of 64 bits; if none of them is negative, no counter in the cache
ever is.  The catalogue changes counters only by adjusting them, one counter of one item
at a time, and an adjusted counter is moved into the range from zero to the largest
number of 64 bits.  Merges and restores put items there that were in the range before.

Main results:

- Theorem {lit}`Item.adjusted_edited`: an adjustment changes one counter and no other
  field.
- Theorem {lit}`CatalogueMutation.peek_start_adjusted`: what the start of a mutation
  makes of the value under a key whose counter it adjusts.
- Theorem {lit}`Traffic.counters_run`: the counters of all cached items stay in the
  range, throughout every run.
-/

namespace OptimisticCache

/-- The fields that count something. -/
def counterNames : List String :=
  ["upvotes", "downvotes", "comment_count", "like_count", "post_count", "member_count"]

/-- A vote goes to one of the counters. -/
theorem VoteDirection.counter_mem (d : VoteDirection) : d.counter ∈ counterNames := by
  cases d <;> decide

/-! ## Items and their counters -/

/-- A member of an object is one of those that it was built of. -/
theorem Json.mem_of_get?_ofMembers {members : List (String × Json)} {name : String} {w : Json}
    (h : (ofMembers members).get? name = some w) : (name, w) ∈ members := by
  rw [get?_ofMembers] at h
  exact List.mem_reverse.mp (Table.mem_of_get? h)

/-- Only an object has members. -/
theorem Json.isObject_of_get? {v w : Json} {name : String} (h : v.get? name = some w) :
    v.isObject = true := by
  cases v with
  | object members => rfl
  | _ => cases h

/-- Whether a value is a whole number of 64 bits. -/
def Json.IsCount (v : Json) : Prop :=
  ∃ c : Count, v = Json.int c.value

/-- The JSON of a counter is one. -/
@[simp]
theorem Json.isCount_int (c : Count) : (Json.int c.value).IsCount :=
  ⟨c, rfl⟩

namespace Item

/-- No counter of the item is negative. -/
def CountersNonneg (i : Item) : Prop :=
  ∀ name ∈ counterNames, ∀ n, i.field? name = some (Json.int n) → 0 ≤ n

/-- Every counter that the item has is a whole number from zero to the largest one of 64 bits. -/
def CountersInRange (i : Item) : Prop :=
  ∀ name ∈ counterNames, ∀ v, i.field? name = some v →
    ∃ n : Int, v = Json.int n ∧ 0 ≤ n ∧ n ≤ 0x7FFFFFFFFFFFFFFF

/-- The data of the item is an object, with counters in the range. -/
structure Counting (i : Item) : Prop where
  object : i.data.isObject = true
  inRange : i.CountersInRange

/-- One counter of an item is the old one plus `delta`, moved into the range.  A counter that is
missing counts as zero.  The id and all other fields are the same. -/
structure Adjusted (field : String) (delta : Int) (i j : Item) : Prop where
  id_eq : j.id = i.id
  adjusted : ∃ old : Int,
    (i.field? field = some (Json.int old) ∨ i.field? field = none ∧ old = 0) ∧
      j.field? field = some (Json.int (max 0 (min 0x7FFFFFFFFFFFFFFF (old + delta))))
  others : ∀ name, name ≠ field → j.field? name = i.field? name

variable {i j : Item} {field : String}

/-- Only the data counts. -/
theorem Counting.congr (h : i.Counting) (hdata : j.data = i.data) : j.Counting := by
  constructor
  · rw [hdata]
    exact h.object
  · unfold CountersInRange field?
    rw [hdata]
    exact h.inRange

/-- Adjusting one counter keeps all counters in the range. -/
theorem Adjusted.counting {delta : Int} (ha : i.Adjusted field delta j) (h : i.Counting) :
    j.Counting := by
  rcases ha.adjusted with ⟨old, _, hnew⟩
  refine ⟨Json.isObject_of_get? hnew, ?_⟩
  intro name hname v hv
  by_cases hfield : name = field
  · subst hfield
    rw [hnew] at hv
    exact ⟨_, (Option.some.inj hv).symm, by omega, by omega⟩
  · rw [ha.others name hfield] at hv
    exact h.inRange name hname v hv

/-- A counter in the range is read as it is, and a missing one as zero. -/
theorem Counting.exists_old (h : i.Counting) (hfield : field ∈ counterNames) :
    ∃ old : Int, (i.field? field = some (Json.int old) ∨ i.field? field = none ∧ old = 0) ∧
      ((i.count? field).getD Count.zero).value = old := by
  cases hold : i.field? field with
  | none =>
    refine ⟨0, Or.inr ⟨rfl, rfl⟩, ?_⟩
    simp [count?, hold]
  | some v =>
    rcases h.inRange field hfield v hold with ⟨n, rfl, hlow, hhigh⟩
    have hcount : i.count? field = some ⟨n, by omega, by omega⟩ := by
      unfold count?
      rw [hold]
      exact Count.ofInt?_value ⟨n, by omega, by omega⟩
    exact ⟨n, Or.inl rfl, by rw [hcount, Option.getD_some]⟩

/-- Adding to a counter of an item adjusts the counter, and nothing else but the marker. -/
theorem adjusted_edited (h : i.Counting) (hfield : field ∈ counterNames) (delta : Count)
    (m : MutationId) : i.Adjusted field delta.value (i.edited [.add field delta] m) := by
  have hdata : (i.edited [.add field delta] m).data = i.data.setMember field
      (Json.int (((i.count? field).getD Count.zero).adjust delta).value) := rfl
  constructor
  · rfl
  · rcases h.exists_old hfield with ⟨old, hold, hvalue⟩
    refine ⟨old, hold, ?_⟩
    rw [field?, hdata, Json.get?_setMember_self h.object, Count.adjust_value, hvalue]
  · intro name hname
    rw [field?, hdata, Json.get?_setMember_of_ne hname]
    rfl

/-! ### Payloads and drafts -/

/-- What holds of all counters that the data was built with holds of the counters of the item. -/
theorem forall_counter_of_members {R : Json → Prop} {members : List (String × Json)}
    (hdata : i.data = Json.ofMembers members)
    (h : ∀ p ∈ members, p.1 ∈ counterNames → R p.2) :
    ∀ name ∈ counterNames, ∀ v, i.field? name = some v → R v := by
  intro name hname v hv
  rw [field?, hdata] at hv
  exact h (name, v) (Json.mem_of_get?_ofMembers hv) hname

/-- An item that is read from a payload counts in 64 bits. -/
theorem isCount_of_normalizeItem {entity : Entity} {payload : Json}
    (h : Payload.normalizeItem entity payload = .ok i) :
    i.data.isObject = true ∧
      ∀ name ∈ counterNames, ∀ v, i.field? name = some v → v.IsCount := by
  cases entity with
  | comments | userComments =>
    rcases CacheError.exists_of_map_eq_ok h with ⟨c, _, rfl⟩
    exact ⟨rfl, forall_counter_of_members rfl (by simp [counterNames])⟩
  | project =>
    rcases CacheError.exists_of_map_eq_ok h with ⟨p, _, rfl⟩
    exact ⟨rfl, forall_counter_of_members rfl (by simp [counterNames])⟩
  | chainPosts =>
    rcases CacheError.exists_of_map_eq_ok h with ⟨p, _, rfl⟩
    exact ⟨rfl, forall_counter_of_members rfl (by simp [counterNames])⟩
  | chain =>
    rcases CacheError.exists_of_map_eq_ok h with ⟨c, _, rfl⟩
    exact ⟨rfl, forall_counter_of_members rfl (by simp [counterNames])⟩

/-- If none of its counters is negative, they are in the range. -/
theorem counting_of_normalizeItem {entity : Entity} {payload : Json}
    (h : Payload.normalizeItem entity payload = .ok i) (hnonneg : i.CountersNonneg) :
    i.Counting := by
  rcases isCount_of_normalizeItem h with ⟨hobject, hcounts⟩
  refine ⟨hobject, ?_⟩
  intro name hname v hv
  rcases hcounts name hname v hv with ⟨c, rfl⟩
  have hupper := c.upper
  exact ⟨c.value, rfl, hnonneg name hname c.value hv, by omega⟩

/-- The placeholder of a draft whose counters are all zero. -/
theorem counting_placeholder {members : List (String × Json)}
    (hzero : ∀ p ∈ members, p.1 ∈ counterNames → p.2 = Json.int 0) (id : String) (m : MutationId) :
    (placeholder id m (Json.ofMembers members)).Counting := by
  refine ⟨rfl, ?_⟩
  have hcounters := forall_counter_of_members (i := placeholder id m (Json.ofMembers members))
    (R := fun v => v = Json.int 0) (Json.setMember_ofMembers members "id" (.string id))
    (by
      intro p hp hname
      rcases List.mem_append.mp hp with hp | hp
      · exact hzero p hp hname
      · obtain rfl := List.mem_singleton.mp hp
        exact absurd hname (by simp [counterNames]))
  intro name hname v hv
  exact ⟨0, hcounters name hname v hv, by decide, by decide⟩

end Item

/-! ## The mutations of the catalogue -/

/-- The patches that keep counters in the range: drafts that count from zero, removals, and
adjustments of one counter. -/
inductive Patch.Counting : Patch → Prop where
  | draft {data : Json} (h : ∀ id m, (Item.placeholder id m data).Counting) : Counting (.prepend data)
  | removal (id : String) : Counting (.remove id)
  | adjustment (id : String) {field : String} (h : field ∈ counterNames) (delta : Count) :
    Counting (.increment id field delta)

namespace CatalogueMutation

/-- The patches of the catalogue are of these three forms. -/
theorem counting_of_mem_patches {cm : CatalogueMutation} {createdAt : String} :
    ∀ p ∈ cm.patches createdAt, p.2.Counting := by
  have hcomment : ∀ content projectId authorId, Patch.Counting
      (.prepend (Comment.draft content projectId authorId createdAt)) := fun _ _ _ =>
    .draft (Item.counting_placeholder (by simp [counterNames]))
  have hpost : ∀ chainId title content authorId, Patch.Counting
      (.prepend (ChainPost.draft chainId title content authorId)) := fun _ _ _ _ =>
    .draft (Item.counting_placeholder (by simp [counterNames]))
  have hcomments : ∀ id delta, Patch.Counting (.increment id "comment_count" delta) :=
    fun id delta => .adjustment id (by decide) delta
  have hposts : ∀ id delta, Patch.Counting (.increment id "post_count" delta) :=
    fun id delta => .adjustment id (by decide) delta
  have hvote : ∀ id (d : VoteDirection), Patch.Counting (.increment id d.counter one) :=
    fun id d => .adjustment id d.counter_mem one
  cases cm with
  | createComment projectId content authorId =>
    cases authorId <;> simp [patches, authorPatch, hcomment, hcomments]
  | deleteComment projectId commentId authorId =>
    cases authorId <;> simp [patches, authorPatch, Patch.Counting.removal, hcomments]
  | voteComment projectId commentId direction => simp [patches, hvote]
  | createChainPost chainId title content authorId => simp [patches, hpost, hposts]
  | deleteChainPost chainId postId => simp [patches, Patch.Counting.removal, hposts]
  | voteChainPost chainId postId direction => simp [patches, hvote]

/-- An item that an answer gives is in the range if none of its counters is negative. -/
theorem counting_of_usableItem {cm : CatalogueMutation} {createdAt : String} {data : Json}
    {i : Item} (h : (cm.toMutation createdAt).usableItem data = some i)
    (hnonneg : i.CountersNonneg) : i.Counting := by
  rcases exists_normalizeItem_of_authoritative (Mutation.authoritative_of_usableItem h) with
    ⟨payload, hpayload⟩
  exact Item.counting_of_normalizeItem hpayload hnonneg

end CatalogueMutation

namespace CacheValue

/-- All items of a value count in the range. -/
def Counts (_ : QueryKey) (v : CacheValue) : Prop :=
  ∀ i ∈ v.items, i.Counting

variable {k : QueryKey} {m : MutationId}

/-- A patch that only adds to counters keeps them in their range. -/
theorem keeps_counts_patch {p : Patch} (hp : p.Counting) (freshId : String) (m : MutationId) :
    Keeps Counts k (p.apply freshId m) := by
  intro current v hcurrent hv
  cases Patch.effect_of_apply hv with
  | created hdata =>
    cases hp with
    | draft h =>
      cases hdata
      exact List.forall_mem_singleton.mpr (h freshId m)
    | removal | adjustment => cases hdata
  | inserted hdata front back =>
    have hitems := hcurrent _ rfl
    cases hp with
    | draft h =>
      cases hdata
      intro i hi
      rcases List.mem_append.mp hi with hi | hi
      · exact hitems i (List.mem_append_left back hi)
      · rcases List.mem_cons.mp hi with rfl | hi
        · exact h freshId m
        · exact hitems i (List.mem_append_right front hi)
    | removal | adjustment => cases hdata
  | changed id edits items =>
    have hitems := hcurrent _ rfl
    intro i hi
    rcases Item.mem_changeFirst hi with ⟨j, hj, rfl⟩ | hi
    · cases hp with
      | adjustment _ hfield delta =>
        exact (Item.adjusted_edited (hitems j hj) hfield delta m).counting (hitems j hj)
    · exact hitems i hi
  | edited item edits =>
    have hitem : item.Counting := hcurrent _ rfl item List.mem_cons_self
    cases hp with
    | adjustment _ hfield delta =>
      exact List.forall_mem_singleton.mpr
        ((Item.adjusted_edited hitem hfield delta m).counting hitem)
  | removed id items => exact fun i hi => hcurrent _ rfl i (List.mem_of_mem_eraseP hi)

/-- A merge keeps the counters in the range if those of the authoritative item are. -/
theorem keeps_counts_merge {authoritative : Option Item}
    (h : ∀ s, authoritative = some s → s.Counting) (rule : MergeRule) (m : MutationId) :
    Keeps Counts k (Reconcile.value m rule authoritative) := by
  intro current v hcurrent hv
  cases current with
  | none =>
    rcases Reconcile.value_absent hv with ⟨_, s, hs, rfl⟩
    exact List.forall_mem_singleton.mpr (h s hs)
  | some w =>
    rw [Reconcile.value_present hv]
    intro i hi
    rcases Reconcile.exists_of_mem_present hi with ⟨j, hs | hj, _, hdata⟩
    · exact (h j hs).congr hdata
    · exact (hcurrent w rfl j hj).congr hdata

/-! ### One adjustment -/

/-- What an adjustment makes of the value under a key.  The first item with the id is adjusted,
in a list or as the record, and everything else stays; without such an item all stays. -/
inductive Adjusted (id field : String) (delta : Int) :
    Option CacheValue → Option CacheValue → Prop where
  | untouched {current : Option CacheValue} (h : ∀ v, current = some v → ∀ i ∈ v.items, i.id ≠ id) :
    Adjusted id field delta current current
  | listed {front back : List Item} {i j : Item} (hfront : ∀ i ∈ front, i.id ≠ id) (hid : i.id = id)
    (h : i.Adjusted field delta j) :
    Adjusted id field delta (some (.list (front ++ i :: back))) (some (.list (front ++ j :: back)))
  | recorded {i j : Item} (hid : i.id = id) (h : i.Adjusted field delta j) :
    Adjusted id field delta (some (.record i)) (some (.record j))

/-- An adjustment of a value that counts in the range. -/
theorem adjusted_apply {current : Option CacheValue} (hcurrent : ∀ v, current = some v → Counts k v)
    {field : String} (hfield : field ∈ counterNames) (id : String) (delta : Count)
    (freshId : String) (m : MutationId) :
    Adjusted id field delta.value current
      (((Patch.increment id field delta).apply freshId m current).or current) := by
  rcases current with _ | items | r
  · exact .untouched nofun
  · by_cases hany : (items.any fun i => i.id = id) = true
    · obtain ⟨front, i, back, rfl, hfront, hid, hchange⟩ :=
        Item.exists_changeFirst_eq hany fun i => i.edited [.add field delta] m
      have hi : i.Counting := hcurrent _ rfl i (List.mem_append_right front List.mem_cons_self)
      have happly : (Patch.increment id field delta).apply freshId m
          (some (.list (front ++ i :: back))) =
            some (.list (front ++ i.edited [.add field delta] m :: back)) := by
        rw [← hchange]
        exact if_pos hany
      rw [happly, Option.some_or]
      refine .listed ?_ (of_decide_eq_true hid) (Item.adjusted_edited hi hfield delta m)
      intro j hj
      simpa using List.any_eq_false.mp hfront j hj
    · have happly : (Patch.increment id field delta).apply freshId m (some (.list items)) = none :=
        if_neg hany
      rw [happly, Option.none_or]
      refine .untouched ?_
      rintro v ⟨⟩ i hi hid
      exact hany (List.any_eq_true.mpr ⟨i, hi, decide_eq_true hid⟩)
  · have hr : r.Counting := hcurrent _ rfl r List.mem_cons_self
    by_cases hid : r.id = id
    · have happly : (Patch.increment id field delta).apply freshId m (some (.record r)) =
          some (.record (r.edited [.add field delta] m)) := if_pos hid
      rw [happly, Option.some_or]
      exact .recorded hid (Item.adjusted_edited hr hfield delta m)
    · have happly : (Patch.increment id field delta).apply freshId m (some (.record r)) = none :=
        if_neg hid
      rw [happly, Option.none_or]
      refine .untouched ?_
      rintro v ⟨⟩ i hi
      obtain rfl := List.mem_singleton.mp hi
      exact hid

end CacheValue

/-- The start of a mutation of the catalogue edits items only by adjusting one counter, and the
value under the key is adjusted by this and by nothing else. -/
theorem CatalogueMutation.peek_start_adjusted {cm : CatalogueMutation} {createdAt id : String}
    {k : QueryKey} {edits : List FieldEdit} (hp : (k, .update id edits) ∈ cm.patches createdAt)
    {c : Client} (hc : c.store.All CacheValue.Counts) (now : Int) :
    ∃ field ∈ counterNames, ∃ delta : Count, edits = [.add field delta] ∧
      CacheValue.Adjusted id field delta.value (c.store.peek k)
        ((c.start (cm.toMutation createdAt) now).2.store.peek k) := by
  rcases exists_split_of_mem hp with ⟨front, back, hpatches, hfront, hback⟩
  cases counting_of_mem_patches _ hp with
  | adjustment _ hfield delta =>
    refine ⟨_, hfield, delta, rfl, ?_⟩
    obtain ⟨n, hpeek⟩ := Provisional.peek_begin_of_once hfront hback c.store c.nextPlaceholder
      ⟨c.started + 1⟩ (.update id _) now
    rw [← hpatches] at hpeek
    have hstart : (c.start (cm.toMutation createdAt) now).2.store.peek k = _ := hpeek
    rw [hstart]
    exact CacheValue.adjusted_apply (hc k) hfield id delta _ _

/-! ## Runs -/

namespace Traffic

/-- If no counter that is normalized is negative, all cached counters stay in the range. -/
theorem preservesWhen_counts : PreservesWhen Item.CountersNonneg CacheValue.Counts where
  answered k answer v h hnonneg := by
    cases answer with
    | error failure => cases h
    | ok envelope =>
      intro i hi
      rcases Payload.exists_normalizeItem_of_normalizeValue h i hi with ⟨payload, hpayload⟩
      exact Item.counting_of_normalizeItem hpayload (hnonneg i hi)
  patched cm createdAt p hp freshId m :=
    CacheValue.keeps_counts_patch (CatalogueMutation.counting_of_mem_patches p hp) freshId m
  merged cm createdAt data hnonneg p hp m :=
    CacheValue.keeps_counts_merge
      (fun s hs => CatalogueMutation.counting_of_usableItem hs (hnonneg s hs)) p.2.rule m

/-- In every run from an empty store in which no counter that is normalized is negative, every
counter of every cached item, provisional or not, is a whole number from zero to the largest one
of 64 bits.  From any state of such a run, a mutation that starts edits items only by adjusting
one counter of one item under a key: the counter is the old one plus the change, moved into the
range, and the id and all other fields are the same. -/
theorem counters_run (staleTime : Option Nat) (dependencies : DependencyMap) (as : List Action)
    (hnonneg : ∀ n a, as[n]? = some a →
      ∀ i ∈ ((idle staleTime dependencies).run (as.take n)).normalized a, i.CountersNonneg) :
    let t := (idle staleTime dependencies).run as
    (∀ k v, t.client.store.peek k = some v → ∀ i ∈ v.items, i.CountersInRange) ∧
      ∀ (cm : CatalogueMutation) createdAt now k id edits,
        (k, Patch.update id edits) ∈ cm.patches createdAt →
          ∃ field ∈ counterNames, ∃ delta : Count, edits = [.add field delta] ∧
            CacheValue.Adjusted id field delta.value (t.client.store.peek k)
              ((t.step (.start cm createdAt now)).client.store.peek k) := by
  intro t
  have hcounts : t.client.store.All CacheValue.Counts :=
    (all_run_of_normalized preservesWhen_counts (all_idle _ staleTime dependencies) hnonneg).stored
  constructor
  · intro k v hv i hi
    exact (hcounts k v hv i hi).inRange
  · intro cm createdAt now k id edits hp
    exact CatalogueMutation.peek_start_adjusted hp hcounts now

/-- A comment is deleted from a project that counts none: the counter stays at zero. -/
theorem counters_run_at_zero :
    let b := Backend.answering (.ok (Envelope.ok (.object [("id", .string "p1")])))
    let as : List Action :=
      [.fetch b (.project "p1") 0, .start (.deleteComment "p1" "c1" none) "now" 1]
    (∀ n a, as[n]? = some a →
        ∀ i ∈ ((idle none .standard).run (as.take n)).normalized a, i.CountersNonneg) ∧
      (((idle none .standard).run as).client.store.peek (.project "p1")).map
        (fun v => v.items.map fun i => (i.field? "comment_count", i.isProvisional)) =
          some [(some (Json.int 0), true)] ∧
      ∀ k v, ((idle none .standard).run as).client.store.peek k = some v →
        ∀ i ∈ v.items, i.CountersInRange := by
  intro b as
  have hfetched : (idle none .standard).normalized (.fetch b (.project "p1") 0) =
      [(⟨"p1", "", Count.zero, Count.zero⟩ : Project).toItem] := by decide +kernel
  have hzero : (⟨"p1", "", Count.zero, Count.zero⟩ : Project).toItem.CountersNonneg := by
    have hfields : ∀ name ∈ counterNames,
        (⟨"p1", "", Count.zero, Count.zero⟩ : Project).toItem.field? name = none ∨
          (⟨"p1", "", Count.zero, Count.zero⟩ : Project).toItem.field? name = some (Json.int 0) := by
      decide +kernel
    intro name hname n hn
    rcases hfields name hname with hnone | hsome
    · rw [hnone] at hn
      cases hn
    · rw [hsome] at hn
      cases hn
      decide
  have hnonneg : ∀ n a, as[n]? = some a →
      ∀ i ∈ ((idle none .standard).run (as.take n)).normalized a, i.CountersNonneg := by
    intro n a ha i hi
    rcases n with _ | _ | n
    · cases ha
      change i ∈ (idle none .standard).normalized _ at hi
      rw [hfetched] at hi
      obtain rfl := List.mem_singleton.mp hi
      exact hzero
    · cases ha
      cases hi
    · cases ha
  exact ⟨hnonneg, by decide +kernel, (counters_run none .standard as hnonneg).1⟩

end Traffic
end OptimisticCache
