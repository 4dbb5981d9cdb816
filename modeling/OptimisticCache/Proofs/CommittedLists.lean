import OptimisticCache.Proofs.ListOutcome
import OptimisticCache.Proofs.Settlement
/-!
# What a committed mutation leaves in the lists

A mutation of the catalogue that runs on its own and succeeds leaves plain lists:
what it created stands in them once, what it deleted is gone, and what it voted on
is the answered item or has the counter one higher.  No placeholder and no marker
stays behind.

Main results:

- Theorem {lit}`Client.peek_mutate_of_once`: the value under a key that a mutation
  patches once, for every mutation.
- Theorem {lit}`CatalogueMutation.peek_list_of_committed`: the lists after a
  committed mutation of the catalogue.
-/

namespace OptimisticCache

/-- A key that a mutation patches once goes through its patch and the merge. -/
theorem Client.peek_mutate_of_once (c : Client) {b : Backend} {m : Mutation} {envelope : Envelope}
    {front back : List (QueryKey × Patch)} {k : QueryKey} {patch : Patch}
    (h : b.send m.request = .ok envelope) (hpatches : m.patches = front ++ (k, patch) :: back)
    (hfront : k ∉ front.map Prod.fst) (hback : k ∉ back.map Prod.fst) (now : Int) :
    ∃ n, (c.mutate b m now).2.store.peek k =
      patch.outcome (Item.placeholderId n) ⟨c.started + 1⟩ (m.usableItem envelope.data)
        (c.store.peek k) := by
  let l := c.launchOf m now
  rcases mutate_of_ok c h now with ⟨settlement, _, _, hmutate⟩
  obtain ⟨n, hpatched⟩ :=
    Provisional.peek_begin_of_once hfront hback c.store c.nextPlaceholder l.id patch now
  have hstore : (l.store c.store).peek k =
      (patch.apply (Item.placeholderId n) l.id (c.store.peek k)).or (c.store.peek k) := by
    rw [← hpatches] at hpatched
    exact hpatched
  have htargets : (l.pending c.store).targets =
      front.map (fun p => (p.1, p.2.rule)) ++ (k, patch.rule) ::
        back.map fun p => (p.1, p.2.rule) := by
    change m.patches.map (fun p => (p.1, p.2.rule)) = _
    rw [hpatches, List.map_append, List.map_cons]
  refine ⟨n, ?_⟩
  rw [hmutate]
  change (PendingMutation.commit _ _ _ _ _).2.2.peek k = _
  rw [PendingMutation.commit_store rfl, Store.peek_invalidateAll, htargets,
    Store.peek_mergeAll_of_once (by simpa [Function.comp_def] using hfront)
      (by simpa [Function.comp_def] using hback), l.pending_id, hstore]
  rfl

namespace CatalogueMutation

/-! ## What is expected of the lists -/

/-- The keys of the lists that the mutation changes. -/
def listKeys : CatalogueMutation → List QueryKey
  | createComment projectId _ authorId | deleteComment projectId _ authorId =>
    .comments projectId :: (authorId.map QueryKey.userComments).toList
  | voteComment projectId _ _ => [.comments projectId]
  | createChainPost chainId _ _ _ | deleteChainPost chainId _ | voteChainPost chainId _ _ =>
    [.chainPosts chainId]

/-- An item with one more vote.  A counter that is missing, or not a whole number of 64 bits,
counts as zero; data that is no object has no counter. -/
def voted (direction : VoteDirection) (i : Item) : Item :=
  if i.data.isObject then
    let old := ((i.count? direction.counter).map Count.value).getD 0
    { i with
      data := i.data.setMember direction.counter
        (Json.int (max 0 (min 0x7FFFFFFFFFFFFFFF (old + 1)))) }
  else i

/-- The list under a list key after the mutation was committed with the item of its answer, if
the answer held one. -/
def listAfter (cm : CatalogueMutation) (answered : Option Item) (current : Option (List Item)) :
    Option (List Item) :=
  match cm with
  | createComment .. | createChainPost .. => some (ListChange.created answered (current.getD []))
  | deleteComment _ id _ | deleteChainPost _ id => current.map (ListChange.deleted id)
  | voteComment _ id direction | voteChainPost _ id direction =>
    current.map (ListChange.edited id (voted direction) answered)

/-- Adding one to a counter sets it one higher, moved into the range from zero up. -/
theorem withEdits_add_one (counter : String) (i : Item) :
    i.withEdits [.add counter one] =
      { i with
        data := i.data.setMember counter
          (Json.int (max 0 (min 0x7FFFFFFFFFFFFFFF
            (((i.count? counter).map Count.value).getD 0 + 1)))) } := by
  have hcount : (((i.count? counter).getD Count.zero).adjust one).value =
      max 0 (min 0x7FFFFFFFFFFFFFFF (((i.count? counter).map Count.value).getD 0 + 1)) := by
    rw [Count.adjust_value]
    cases i.count? counter <;> rfl
  have hedit : i.withEdits [.add counter one] =
      { i with
        data := i.data.setMember counter
          (Json.int (((i.count? counter).getD Count.zero).adjust one).value) } := rfl
  rw [hedit, hcount]

/-- The edit of a vote adds one to the counter that was voted on. -/
theorem withEdits_increment (direction : VoteDirection) :
    Item.withEdits [.add direction.counter one] = voted direction := by
  funext i
  rw [withEdits_add_one]
  unfold voted
  by_cases hobject : i.data.isObject = true
  · rw [if_pos hobject]
  · rw [if_neg hobject, Json.setMember_of_not_object (Bool.eq_false_iff.mpr hobject)]

/-! ## The patches of the list keys -/

/-- The patch of each list key. -/
def listPatch (createdAt : String) : CatalogueMutation → Patch
  | createComment projectId content authorId =>
    .prepend (Comment.draft content projectId authorId createdAt)
  | createChainPost chainId title content authorId =>
    .prepend (ChainPost.draft chainId title content authorId)
  | deleteComment _ id _ | deleteChainPost _ id => .remove id
  | voteComment _ id direction | voteChainPost _ id direction =>
    .increment id direction.counter one

/-- The keys that a mutation patches are of different kinds, so that no key is patched twice. -/
theorem nodup_keys_patches (cm : CatalogueMutation) (createdAt : String) :
    ((cm.patches createdAt).map Prod.fst).Nodup := by
  have hentities : (((cm.patches createdAt).map Prod.fst).map QueryKey.entity).Nodup := by
    cases cm with
    | createComment projectId content authorId | deleteComment projectId id authorId =>
      cases authorId with
      | none => exact (by decide : [Entity.comments, Entity.project].Nodup)
      | some author => exact (by decide : [Entity.comments, Entity.project, Entity.userComments].Nodup)
    | createChainPost | deleteChainPost => exact (by decide : [Entity.chainPosts, Entity.chain].Nodup)
    | voteComment => exact (by decide : [Entity.comments].Nodup)
    | voteChainPost => exact (by decide : [Entity.chainPosts].Nodup)
  exact List.Pairwise.of_map QueryKey.entity (fun _ _ => QueryKey.ne_of_entity_ne) hentities

/-- A patched key is patched once. -/
theorem exists_split_of_mem {cm : CatalogueMutation} {createdAt : String} {k : QueryKey}
    {patch : Patch} (h : (k, patch) ∈ cm.patches createdAt) :
    ∃ front back, cm.patches createdAt = front ++ (k, patch) :: back ∧
      k ∉ front.map Prod.fst ∧ k ∉ back.map Prod.fst := by
  rcases List.append_of_mem h with ⟨front, back, hsplit⟩
  have hnodup : (front.map Prod.fst ++ k :: back.map Prod.fst).Nodup := by
    have hkeys := nodup_keys_patches cm createdAt
    rw [hsplit, List.map_append, List.map_cons] at hkeys
    exact hkeys
  rcases List.nodup_append.mp hnodup with ⟨_, hback, hdisjoint⟩
  refine ⟨front, back, hsplit, ?_, (List.nodup_cons.mp hback).1⟩
  intro hfront
  exact hdisjoint k hfront k List.mem_cons_self rfl

/-- A list key is patched once. -/
theorem exists_split_patches {cm : CatalogueMutation} {k : QueryKey} (hk : k ∈ cm.listKeys)
    (createdAt : String) :
    ∃ front back, cm.patches createdAt = front ++ (k, cm.listPatch createdAt) :: back ∧
      k ∉ front.map Prod.fst ∧ k ∉ back.map Prod.fst := by
  apply exists_split_of_mem
  cases cm with
  | createComment projectId content authorId | deleteComment projectId id authorId =>
    cases authorId with
    | none =>
      obtain rfl := List.mem_singleton.mp hk
      exact List.mem_cons_self
    | some author =>
      rcases List.mem_cons.mp hk with rfl | hk
      · exact List.mem_cons_self
      · obtain rfl := List.mem_singleton.mp hk
        simp [patches, authorPatch, listPatch]
  | createChainPost | deleteChainPost | voteComment | voteChainPost =>
    obtain rfl := List.mem_singleton.mp hk
    exact List.mem_cons_self

/-- What is committed in a list is given by the mutation, the answer and the list from before. -/
theorem outcome_listPatch (cm : CatalogueMutation) (createdAt : String) (n : Nat) (m : MutationId)
    {answered : Option Item} (hanswered : ∀ s, answered = some s → s.marker = none)
    {current : Option (List Item)} (hcurrent : ∀ is, current = some is → ServerList is) :
    (cm.listPatch createdAt).outcome (Item.placeholderId n) m answered (current.map .list) =
      (cm.listAfter answered current).map .list := by
  have hgetD : ServerList (current.getD []) := by
    cases current with
    | none => exact ServerList.nil
    | some is => exact hcurrent is rfl
  cases cm with
  | createComment projectId content authorId | createChainPost chainId title content authorId =>
    exact Patch.outcome_prepend hgetD hanswered _
  | deleteComment projectId id authorId | deleteChainPost chainId id =>
    exact Patch.outcome_remove hcurrent id
  | voteComment projectId id direction | voteChainPost chainId id direction =>
    rw [listPatch, Patch.increment, Patch.outcome_update hcurrent hanswered, withEdits_increment]
    rfl

/-! ## The lists after a commit -/

/-- After a mutation of the catalogue was committed on its own, each of its lists that was
absent or as the server sent it is the list that the answered item makes of it. -/
theorem peek_list_of_committed (cm : CatalogueMutation) (createdAt : String) (c : Client)
    (b : Backend) (now : Int) {envelope : Envelope} (h : b.send cm.request = .ok envelope)
    {k : QueryKey} (hk : k ∈ cm.listKeys) {current : Option (List Item)}
    (hcurrent : c.store.peek k = current.map .list)
    (hlist : ∀ is, current = some is → ServerList is) :
    (c.mutate b (cm.toMutation createdAt) now).2.store.peek k =
      (cm.listAfter ((cm.toMutation createdAt).usableItem envelope.data) current).map .list := by
  obtain ⟨front, back, hpatches, hfront, hback⟩ :
      ∃ front back, (cm.toMutation createdAt).patches =
        front ++ (k, cm.listPatch createdAt) :: back ∧
        k ∉ front.map Prod.fst ∧ k ∉ back.map Prod.fst := exists_split_patches hk createdAt
  rcases Client.peek_mutate_of_once c h hpatches hfront hback now with ⟨n, hpeek⟩
  rw [hpeek, hcurrent]
  apply outcome_listPatch cm createdAt n _ _ hlist
  intro s hs
  exact (answersUnmarked cm createdAt).usableItem hs

/-- A vote that is answered with nothing of use counts. -/
theorem peek_list_of_committed_vote :
    let cm := CatalogueMutation.voteComment "p1" "c1" .up
    let is := [Item.new "c1" (.object [("upvotes", Json.int 2)]), Item.new "c2" .null]
    let c : Client := { store := (Store.empty none).set (.comments "p1") (.list is) 0 }
    let b := Backend.answering (.ok (Envelope.ok .null))
    ServerList is ∧
      (c.mutate b (cm.toMutation "now") 1).2.store.peek (.comments "p1") =
        some (.list [Item.new "c1" (.object [("upvotes", Json.int 3)]), Item.new "c2" .null]) := by
  intro cm is c b
  have hlist : ServerList is := ⟨by decide, by decide, by decide⟩
  have hcurrent : c.store.peek (.comments "p1") = (some is).map .list := rfl
  have hserver : ∀ js, some is = some js → ServerList js := by
    intro js hjs
    exact Option.some.inj hjs ▸ hlist
  exact ⟨hlist, peek_list_of_committed cm "now" c b 1 rfl List.mem_cons_self hcurrent hserver⟩

end CatalogueMutation
end OptimisticCache
