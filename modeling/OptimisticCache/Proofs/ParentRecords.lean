import OptimisticCache.Proofs.CommittedLists
/-!
# What a creation leaves of its parent

A comment counts in its project and a post in its chain, so a creation adds one to a
counter of its parent.  When it commits, the answered item is merged into the record
of the parent as well as into the lists, and a record takes in an item by its id
alone.  The ids of comments and of projects are given out apart: as long as the new
item does not happen to have the id of its parent, the record is counted up; if it
does, the record is lost to it.

Main results:

- Theorem {lit}`Patch.outcome_update_record`: an edit and its merge, on a record.
- Theorem {lit}`CatalogueMutation.peek_parent_iff`: the record of the parent is
  counted up exactly when the answered item has an id of its own.
-/

namespace OptimisticCache

/-! ## One record through an edit and its merge -/

namespace Item

/-- A record after an edit was committed: the answered item if it has the id of the record, or
else the record with the edit. -/
def committedEdit (edits : List FieldEdit) (answered : Option Item) (r : Item) : Item :=
  match answered with
  | some s => if s.id = r.id then s else (r.withEdits edits).confirmed
  | none => (r.withEdits edits).confirmed

/-- A record that the answer is not about keeps its edit. -/
theorem committedEdit_of_ne {edits : List FieldEdit} {answered : Option Item} {r : Item}
    (h : ∀ s, answered = some s → s.id ≠ r.id) :
    r.committedEdit edits answered = (r.withEdits edits).confirmed := by
  cases answered with
  | none => rfl
  | some s => exact if_neg (h s rfl)

/-- A record that the answer is about is replaced by it. -/
theorem committedEdit_of_eq {edits : List FieldEdit} {s r : Item} (h : s.id = r.id) :
    r.committedEdit edits (some s) = s :=
  if_pos h

end Item

namespace Reconcile

variable {m : MutationId} {authoritative : Option Item}

/-- Merging into an edited record leaves the answered item if it is about the record. -/
theorem record_update_edited (r : Item) (edits : List FieldEdit) :
    record m (.update r.id) authoritative (r.edited edits m) =
      r.committedEdit edits authoritative := by
  have hmarked : (r.edited edits m).isMarkedBy m = true := by
    simp [Item.edited, Item.isMarkedBy]
  have hstripped : stripRecord m (r.edited edits m) = (r.withEdits edits).confirmed :=
    if_pos hmarked
  cases authoritative with
  | none => exact hstripped
  | some s =>
    by_cases hs : s.id = r.id
    · simp [record, Item.edited_id, Item.committedEdit, hs]
    · simp [record, Item.edited_id, Item.committedEdit, hs, hstripped]

/-- Committed records have no marker. -/
theorem marker_committedEdit (hauth : ∀ s, authoritative = some s → s.marker = none) (r : Item)
    (edits : List FieldEdit) : (r.committedEdit edits authoritative).marker = none := by
  cases authoritative with
  | none => rfl
  | some s =>
    unfold Item.committedEdit
    split
    · rename_i s' hs'
      split
      · exact hauth s' hs'
      · rfl
    · rfl

end Reconcile

/-- An edit leaves the record with the answered item, if it is about the record, and else with
the edit; the record is not provisional any more. -/
theorem Patch.outcome_update_record {m : MutationId} {authoritative : Option Item}
    (hauth : ∀ s, authoritative = some s → s.marker = none) (freshId : String) (r : Item)
    (edits : List FieldEdit) :
    (update r.id edits).outcome freshId m authoritative (some (.record r)) =
      some (.record (r.committedEdit edits authoritative)) := by
  have hpatched : ((update r.id edits).apply freshId m (some (.record r))).or (some (.record r)) =
      some (.record (r.edited edits m)) := by
    simp [apply]
  -- the edited record is marked and the merged one is not, so the merge takes effect
  have hdiffers : CacheValue.same (.record (r.edited edits m))
      (.record (r.committedEdit edits authoritative)) = false := by
    rw [Bool.eq_false_iff]
    intro hsame
    have hmarker : (r.edited edits m).marker = (r.committedEdit edits authoritative).marker :=
      Item.marker_eq_of_same hsame
    rw [Reconcile.marker_committedEdit hauth] at hmarker
    cases hmarker
  rw [outcome, hpatched, rule]
  simp [Reconcile.value, Reconcile.present, Reconcile.record_update_edited, hdiffers]

/-! ## The record of the parent -/

/-- An item with a counter one higher, confirmed.  A counter that is missing, or not a whole
number of 64 bits, counts as zero. -/
def Item.countedUp (counter : String) (i : Item) : Item :=
  let old := ((i.count? counter).map Count.value).getD 0
  ⟨i.id, i.data.setMember counter (Json.int (max 0 (min 0x7FFFFFFFFFFFFFFF (old + 1)))), none⟩

/-- A counter that was counted up is a number. -/
theorem Item.field?_countedUp_self {i : Item} (h : i.data.isObject = true) (counter : String) :
    ∃ n, (i.countedUp counter).field? counter = some (Json.int n) :=
  ⟨_, Json.get?_setMember_self h counter _⟩

/-- The record that counts what a mutation creates. -/
structure Parent where
  key : QueryKey
  id : String
  /-- The field that holds the count. -/
  counter : String

namespace CatalogueMutation

/-- The parent of what is created: a comment counts in its project, a post in its chain. -/
def parent? : CatalogueMutation → Option Parent
  | createComment projectId _ _ => some ⟨.project projectId, projectId, "comment_count"⟩
  | createChainPost chainId _ _ _ => some ⟨.chain chainId, chainId, "post_count"⟩
  | deleteComment .. | voteComment .. | deleteChainPost .. | voteChainPost .. => none

variable {cm : CatalogueMutation} {parent : Parent}

/-- The counter of the parent goes up by one. -/
theorem mem_patches_of_parent (h : cm.parent? = some parent) (createdAt : String) :
    (parent.key, .increment parent.id parent.counter one) ∈ cm.patches createdAt := by
  cases cm with
  | createComment projectId content authorId =>
    cases h
    simp [patches]
  | createChainPost chainId title content authorId =>
    cases h
    simp [patches]
  | deleteComment | voteComment | deleteChainPost | voteChainPost => cases h

/-- Neither a comment nor a post has the counter of a parent. -/
theorem field?_counter_of_usableItem (h : cm.parent? = some parent) {createdAt : String}
    {data : Json} {s : Item} (hs : (cm.toMutation createdAt).usableItem data = some s) :
    s.field? parent.counter = none := by
  have hcounter : parent.counter = "comment_count" ∨ parent.counter = "post_count" := by
    cases cm with
    | createComment projectId content authorId =>
      cases h
      exact Or.inl rfl
    | createChainPost chainId title content authorId =>
      cases h
      exact Or.inr rfl
    | deleteComment | voteComment | deleteChainPost | voteChainPost => cases h
  have hanswered : (∃ comment : Comment, s = comment.toItem) ∨
      ∃ post : ChainPost, s = post.toItem :=
    exists_of_authoritative (Mutation.authoritative_of_usableItem hs)
  rcases hanswered with ⟨comment, rfl⟩ | ⟨post, rfl⟩
  · rcases hcounter with hcounter | hcounter
    all_goals
      simp [hcounter, Item.field?, Comment.toItem, Item.new, Comment.toData, Json.ofMembers,
        Json.get?, Table.ofList, Table.get?_insert]
  · rcases hcounter with hcounter | hcounter
    all_goals
      simp [hcounter, Item.field?, ChainPost.toItem, Item.new, ChainPost.toData, Json.ofMembers,
        Json.get?, Table.ofList, Table.get?_insert]

/-- An increment stays unless the answer is about the record. -/
theorem committedEdit_increment (counter : String) {r : Item} {answered : Option Item}
    (h : ∀ s, answered = some s → s.id ≠ r.id) :
    r.committedEdit [.add counter one] answered = r.countedUp counter := by
  rw [Item.committedEdit_of_ne h, withEdits_add_one]
  rfl

/-- What a creation that is committed on its own leaves of the record of the parent. -/
theorem peek_parent (h : cm.parent? = some parent) (createdAt : String) (c : Client) (b : Backend)
    (now : Int) {envelope : Envelope} (hanswer : b.send cm.request = .ok envelope) {r : Item}
    (hr : c.store.peek parent.key = some (.record r)) (hid : r.id = parent.id) :
    (c.mutate b (cm.toMutation createdAt) now).2.store.peek parent.key =
      some (.record (r.committedEdit [.add parent.counter one]
        ((cm.toMutation createdAt).usableItem envelope.data))) := by
  have hauth : ∀ s, (cm.toMutation createdAt).usableItem envelope.data = some s →
      s.marker = none := fun s => (answersUnmarked cm createdAt).usableItem
  obtain ⟨front, back, hpatches, hfront, hback⟩ :
      ∃ front back, (cm.toMutation createdAt).patches =
        front ++ (parent.key, .increment parent.id parent.counter one) :: back ∧
        parent.key ∉ front.map Prod.fst ∧ parent.key ∉ back.map Prod.fst :=
    exists_split_of_mem (mem_patches_of_parent h createdAt)
  obtain ⟨n, hpeek⟩ := Client.peek_mutate_of_once c hanswer hpatches hfront hback now
  rw [hpeek, hr, ← hid, Patch.increment, Patch.outcome_update_record hauth]

/-- After a creation was committed on its own, the record of the parent has its old id and data
with the counter one higher, and is not provisional, exactly when the answer held no item with
the id of the parent. -/
theorem peek_parent_iff (h : cm.parent? = some parent) (createdAt : String) (c : Client)
    (b : Backend) (now : Int) {envelope : Envelope} (hanswer : b.send cm.request = .ok envelope)
    {r : Item} (hr : c.store.peek parent.key = some (.record r)) (hid : r.id = parent.id)
    (hobject : r.data.isObject = true) :
    (c.mutate b (cm.toMutation createdAt) now).2.store.peek parent.key =
        some (.record (r.countedUp parent.counter)) ↔
      ∀ s, (cm.toMutation createdAt).usableItem envelope.data = some s → s.id ≠ parent.id := by
  rw [peek_parent h createdAt c b now hanswer hr hid, ← hid]
  constructor
  · intro hcounted s hs hsame
    have hrecord : r.committedEdit [.add parent.counter one]
        ((cm.toMutation createdAt).usableItem envelope.data) = r.countedUp parent.counter := by
      simpa using hcounted
    rw [hs, Item.committedEdit_of_eq hsame] at hrecord
    -- the answered item has no such counter, and the counted record has one
    have hmissing : s.field? parent.counter = none := field?_counter_of_usableItem h hs
    obtain ⟨n, hn⟩ := Item.field?_countedUp_self hobject parent.counter
    rw [hrecord, hn] at hmissing
    cases hmissing
  · intro hdistinct
    rw [committedEdit_increment parent.counter hdistinct]

/-- A comment is created, and its project counts one more. -/
theorem peek_parent_iff_answered :
    let cm := CatalogueMutation.createComment "p1" "hi" none
    let r := Item.new "p1" (.object [("comment_count", Json.int 4)])
    let data := Json.object [("content", .string "hi"), ("id", .string "c9")]
    let c : Client := { store := (Store.empty none).set (.project "p1") (.record r) 0 }
    let b := Backend.answering (.ok (Envelope.ok data))
    r.data.isObject = true ∧
      (c.mutate b (cm.toMutation "now") 1).2.store.peek (.project "p1") =
        some (.record (r.countedUp "comment_count")) := by
  intro cm r data c b
  have hid : ((cm.toMutation "now").usableItem data).map Item.id = some "c9" := by decide +kernel
  have hdistinct : ∀ s, (cm.toMutation "now").usableItem data = some s → s.id ≠ "p1" := by
    intro s hs
    rw [hs] at hid
    have hs' : s.id = "c9" := Option.some.inj hid
    rw [hs']
    decide
  have hobject : r.data.isObject = true := rfl
  have hr : c.store.peek (.project "p1") = some (.record r) := by decide +kernel
  have hparent : cm.parent? = some ⟨.project "p1", "p1", "comment_count"⟩ := rfl
  exact ⟨hobject, (peek_parent_iff hparent "now" c b 1 rfl hr rfl hobject).mpr hdistinct⟩

/-- A backend that numbers its projects and its comments apart creates comment 1 on project 1:
the comment takes the place of the project. -/
theorem parent_lost_to_answered :
    let cm := CatalogueMutation.createComment "1" "hi" none
    let r := Item.new "1" (.object [("comment_count", Json.int 4)])
    let data := Json.object [("content", .string "hi"), ("id", Json.int 1)]
    let c : Client := { store := (Store.empty none).set (.project "1") (.record r) 0 }
    let b := Backend.answering (.ok (Envelope.ok data))
    let after := (c.mutate b (cm.toMutation "now") 1).2.store.peek (.project "1")
    ∃ comment : Item, (cm.toMutation "now").usableItem data = some comment ∧
      after = some (.record comment) ∧ after ≠ some (.record (r.countedUp "comment_count")) := by
  intro cm r data c b after
  let parent : Parent := ⟨.project "1", "1", "comment_count"⟩
  have hparent : cm.parent? = some parent := rfl
  have hid : ((cm.toMutation "now").usableItem data).map Item.id = some "1" := by decide +kernel
  have hr : c.store.peek parent.key = some (.record r) := by decide +kernel
  obtain ⟨comment, hcomment, hsame⟩ := Option.map_eq_some_iff.mp hid
  have hafter : after = some (.record comment) := by
    have hpeek : after = some (.record (r.committedEdit [.add "comment_count" one]
        ((cm.toMutation "now").usableItem data))) :=
      peek_parent hparent "now" c b 1 rfl hr rfl
    rw [hpeek, hcomment, Item.committedEdit_of_eq hsame]
  refine ⟨comment, hcomment, hafter, ?_⟩
  rw [hafter]
  intro hcounted
  have hrecord : comment = r.countedUp "comment_count" :=
    CacheValue.record.inj (Option.some.inj hcounted)
  have hmissing : comment.field? "comment_count" = none :=
    field?_counter_of_usableItem hparent hcomment
  obtain ⟨n, hn⟩ : ∃ n, (r.countedUp "comment_count").field? "comment_count" = some (Json.int n) :=
    Item.field?_countedUp_self rfl "comment_count"
  rw [hrecord, hn] at hmissing
  cases hmissing

end CatalogueMutation
end OptimisticCache
