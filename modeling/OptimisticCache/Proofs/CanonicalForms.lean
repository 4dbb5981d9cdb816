import OptimisticCache.Mutation.Catalogue
/-!
# Canonical forms

The data of a record that was read from a payload is itself a payload of this
record: it is read back under the canonical names, and no alias or wrapper gets in
the way.  An item is in canonical form when its data is read back like this, to the
same id and the same data.

Besides the payloads there are two sources of item data.  A draft of a comment or a
post becomes canonical when the id of its placeholder is added, and a vote replaces
one counter in the data by another one.

Main results:

- Theorems {lit}`Comment.normalize_toData`, {lit}`Project.normalize_toData`,
  {lit}`Chain.normalize_toData` and {lit}`ChainPost.normalize_toData`: canonical data
  is read back.
- Theorem {lit}`Item.canonical_of_normalizeItem`: what is read from a payload is in
  canonical form.
- Theorems {lit}`Item.canonical_comment_draft` and {lit}`Item.canonical_post_draft`:
  so are the placeholders of drafts.
- Theorem {lit}`Item.Canonical.voted`: a vote keeps the canonical form.
-/

namespace OptimisticCache

/-! ## Comments -/

namespace Comment

/-- The comment with another counter for one direction of votes. -/
def withVotes (c : Comment) (n : Count) : VoteDirection → Comment
  | .up => { c with upvotes := n }
  | .down => { c with downvotes := n }

@[simp]
theorem withVotes_id (c : Comment) (n : Count) (d : VoteDirection) : (c.withVotes n d).id = c.id := by
  cases d <;> rfl

/-- The canonical members of a comment. -/
theorem get?_toData (c : Comment) (name : String) :
    c.toData.get? name =
      Table.get? name
        [("created_at", Json.stringOrNull c.createdAt), ("downvotes", Json.int c.downvotes.value),
          ("upvotes", Json.int c.upvotes.value), ("author_id", Json.stringOrNull c.authorId),
          ("project_id", Json.stringOrNull c.projectId), ("content", .string c.content),
          ("id", .string c.id)] :=
  Json.get?_ofMembers name _

/-- The canonical data of a comment is read back. -/
theorem normalize_toData (c : Comment) : normalize c.toData = .ok c := by
  have hget := c.get?_toData
  have hunwrap : Payload.unwrap wrappers c.toData = c.toData :=
    Payload.unwrap_of_absent (by simp [wrappers, hget, Table.get?_cons])
  have hid : Payload.requireId subject c.toData idNames = .ok c.id :=
    Payload.requireId_text rfl (by simp [hget, Table.get?_cons]) subject _
  have hup : Payload.pickCount subject c.toData upvoteNames = .ok c.upvotes :=
    Payload.pickCount_integer (Payload.lookup_int (by simp [hget, Table.get?_cons]))
  have hdown : Payload.pickCount subject c.toData downvoteNames = .ok c.downvotes :=
    Payload.pickCount_integer (Payload.lookup_int (by simp [hget, Table.get?_cons]))
  have hcontent : Payload.pickText c.toData contentNames = some c.content :=
    Payload.pickText_text (by simp [hget, Table.get?_cons]) _
  have hproject : Payload.pickText c.toData projectNames = c.projectId :=
    Payload.pickText_stringOrNull (by simp [hget, Table.get?_cons])
      (by simp [Payload.lookup_of_absent, hget, Table.get?_cons])
  have hauthor : Payload.pickText c.toData authorNames = c.authorId :=
    Payload.pickText_stringOrNull (by simp [hget, Table.get?_cons])
      (by simp [Payload.lookup_of_absent, hget, Table.get?_cons])
  have hcreated : (Payload.pick c.toData createdNames).map timeText = c.createdAt := by
    have hnamed : c.toData.get? "created_at" = some (Json.stringOrNull c.createdAt) := by
      simp [hget, Table.get?_cons]
    have hother : Payload.lookup c.toData ["createdAt"] = none :=
      Payload.lookup_of_absent (by simp [hget, Table.get?_cons]) []
    cases ht : c.createdAt with
    | some t =>
      rw [ht] at hnamed
      simp [Payload.pick, createdNames, Payload.lookup_text hnamed, timeText]
    | none =>
      rw [ht] at hnamed
      simp [Payload.pick, createdNames, Payload.lookup_null hnamed, hother]
  simp [normalize, hunwrap, hid, hup, hdown, hcontent, hproject, hauthor, hcreated, bind,
    Except.bind, pure, Except.pure]

/-- A draft with an id is the canonical data of a comment without votes. -/
theorem setMember_draft (content projectId : String) (authorId : Option String)
    (createdAt id : String) :
    (draft content projectId authorId createdAt).setMember "id" (.string id) =
      toData ⟨id, content, some projectId, authorId, Count.zero, Count.zero, some createdAt⟩ :=
  Json.setMember_ofMembers_new (by simp [Table.keys]) _

/-- Setting a counter of votes in the canonical data of a comment. -/
theorem setMember_counter (c : Comment) (n : Count) (d : VoteDirection) :
    c.toData.setMember d.counter (Json.int n.value) = (c.withVotes n d).toData := by
  cases d with
  | up => exact Json.setMember_ofMembers_replace [_, _, _, _] (by simp [Table.keys]) _ _
  | down => exact Json.setMember_ofMembers_replace [_, _, _, _, _] (by simp [Table.keys]) _ _

end Comment

/-! ## Projects -/

/-- The canonical data of a project is read back. -/
theorem Project.normalize_toData (p : Project) : normalize p.toData = .ok p := by
  have hget : ∀ name, p.toData.get? name =
      Table.get? name
        [("like_count", Json.int p.likeCount.value), ("comment_count", Json.int p.commentCount.value),
          ("title", .string p.title), ("id", .string p.id)] :=
    fun name => Json.get?_ofMembers name _
  have hunwrap : Payload.unwrap wrappers p.toData = p.toData :=
    Payload.unwrap_of_absent (by simp [wrappers, hget, Table.get?_cons])
  have hid : Payload.requireId subject p.toData idNames = .ok p.id :=
    Payload.requireId_text rfl (by simp [hget, Table.get?_cons]) subject _
  have hcomments : Payload.pickCount subject p.toData commentCountNames = .ok p.commentCount :=
    Payload.pickCount_integer (Payload.lookup_int (by simp [hget, Table.get?_cons]))
  have hlikes : Payload.pickCount subject p.toData likeCountNames = .ok p.likeCount :=
    Payload.pickCount_integer (Payload.lookup_int (by simp [hget, Table.get?_cons]))
  have htitle : Payload.pickText p.toData titleNames = some p.title :=
    Payload.pickText_text (by simp [hget, Table.get?_cons]) _
  simp [normalize, hunwrap, hid, hcomments, hlikes, htitle, bind, Except.bind, pure, Except.pure]

/-! ## Chains -/

/-- The canonical data of a chain is read back. -/
theorem Chain.normalize_toData (c : Chain) : normalize c.toData = .ok c := by
  have hget : ∀ name, c.toData.get? name =
      Table.get? name
        [("member_count", Json.int c.memberCount.value), ("post_count", Json.int c.postCount.value),
          ("name", .string c.name), ("id", .string c.id)] :=
    fun name => Json.get?_ofMembers name _
  have hunwrap : Payload.unwrap wrappers c.toData = c.toData :=
    Payload.unwrap_of_absent (by simp [wrappers, hget, Table.get?_cons])
  have hid : Payload.requireId subject c.toData idNames = .ok c.id :=
    Payload.requireId_text rfl (by simp [hget, Table.get?_cons]) subject _
  have hposts : Payload.pickCount subject c.toData postCountNames = .ok c.postCount :=
    Payload.pickCount_integer (Payload.lookup_int (by simp [hget, Table.get?_cons]))
  have hmembers : Payload.pickCount subject c.toData memberCountNames = .ok c.memberCount :=
    Payload.pickCount_integer (Payload.lookup_int (by simp [hget, Table.get?_cons]))
  have hname : Payload.pickText c.toData nameNames = some c.name :=
    Payload.pickText_text (by simp [hget, Table.get?_cons]) _
  simp [normalize, hunwrap, hid, hposts, hmembers, hname, bind, Except.bind, pure, Except.pure]

/-! ## Posts -/

namespace ChainPost

/-- The post with another counter for one direction of votes. -/
def withVotes (p : ChainPost) (n : Count) : VoteDirection → ChainPost
  | .up => { p with upvotes := n }
  | .down => { p with downvotes := n }

@[simp]
theorem withVotes_id (p : ChainPost) (n : Count) (d : VoteDirection) :
    (p.withVotes n d).id = p.id := by
  cases d <;> rfl

/-- The canonical members of a post. -/
theorem get?_toData (p : ChainPost) (name : String) :
    p.toData.get? name =
      Table.get? name
        [("downvotes", Json.int p.downvotes.value), ("upvotes", Json.int p.upvotes.value),
          ("author_id", Json.stringOrNull p.authorId), ("content", .string p.content),
          ("title", .string p.title), ("chain_id", Json.stringOrNull p.chainId),
          ("id", .string p.id)] :=
  Json.get?_ofMembers name _

/-- The canonical data of a post is read back. -/
theorem normalize_toData (p : ChainPost) : normalize p.toData = .ok p := by
  have hget := p.get?_toData
  have hunwrap : Payload.unwrap wrappers p.toData = p.toData :=
    Payload.unwrap_of_absent (by simp [wrappers, hget, Table.get?_cons])
  have hid : Payload.requireId subject p.toData idNames = .ok p.id :=
    Payload.requireId_text rfl (by simp [hget, Table.get?_cons]) subject _
  have hup : Payload.pickCount subject p.toData upvoteNames = .ok p.upvotes :=
    Payload.pickCount_integer (Payload.lookup_int (by simp [hget, Table.get?_cons]))
  have hdown : Payload.pickCount subject p.toData downvoteNames = .ok p.downvotes :=
    Payload.pickCount_integer (Payload.lookup_int (by simp [hget, Table.get?_cons]))
  have htitle : Payload.pickText p.toData titleNames = some p.title :=
    Payload.pickText_text (by simp [hget, Table.get?_cons]) _
  have hcontent : Payload.pickText p.toData contentNames = some p.content :=
    Payload.pickText_text (by simp [hget, Table.get?_cons]) _
  have hchain : Payload.pickText p.toData chainNames = p.chainId :=
    Payload.pickText_stringOrNull (by simp [hget, Table.get?_cons])
      (by simp [Payload.lookup_of_absent, hget, Table.get?_cons])
  have hauthor : Payload.pickText p.toData authorNames = p.authorId :=
    Payload.pickText_stringOrNull (by simp [hget, Table.get?_cons])
      (by simp [Payload.lookup_of_absent, hget, Table.get?_cons])
  simp [normalize, hunwrap, hid, hup, hdown, htitle, hcontent, hchain, hauthor, bind, Except.bind,
    pure, Except.pure]

/-- A draft with an id is the canonical data of a post without votes. -/
theorem setMember_draft (chainId title content : String) (authorId : Option String) (id : String) :
    (draft chainId title content authorId).setMember "id" (.string id) =
      toData ⟨id, some chainId, title, content, authorId, Count.zero, Count.zero⟩ :=
  Json.setMember_ofMembers_new (by simp [Table.keys]) _

/-- Setting a counter of votes in the canonical data of a post. -/
theorem setMember_counter (p : ChainPost) (n : Count) (d : VoteDirection) :
    p.toData.setMember d.counter (Json.int n.value) = (p.withVotes n d).toData := by
  cases d with
  | up => exact Json.setMember_ofMembers_replace [_, _, _, _, _] (by simp [Table.keys]) _ _
  | down => exact Json.setMember_ofMembers_replace [_, _, _, _, _, _] (by simp [Table.keys]) _ _

end ChainPost

/-! ## Items -/

namespace Item

/-- The data of the item is read as an object of the kind, with the same id and the same data. -/
def Canonical (entity : Entity) (i : Item) : Prop :=
  Payload.normalizeItem entity i.data = .ok (Item.new i.id i.data)

variable {entity : Entity} {i j : Item}

/-- Only the id and the data matter. -/
theorem Canonical.congr (h : i.Canonical entity) (hid : j.id = i.id) (hdata : j.data = i.data) :
    j.Canonical entity := by
  rw [Canonical, hid, hdata]
  exact h

/-- The item of a comment is canonical. -/
theorem canonical_toItem_comment (c : Comment) : c.toItem.Canonical .comments := by
  change (Comment.normalize c.toData).map Comment.toItem = .ok c.toItem
  rw [Comment.normalize_toData]
  rfl

/-- The item of a project is canonical. -/
theorem canonical_toItem_project (p : Project) : p.toItem.Canonical .project := by
  change (Project.normalize p.toData).map Project.toItem = .ok p.toItem
  rw [Project.normalize_toData]
  rfl

/-- The item of a chain is canonical. -/
theorem canonical_toItem_chain (c : Chain) : c.toItem.Canonical .chain := by
  change (Chain.normalize c.toData).map Chain.toItem = .ok c.toItem
  rw [Chain.normalize_toData]
  rfl

/-- The item of a post is canonical. -/
theorem canonical_toItem_post (p : ChainPost) : p.toItem.Canonical .chainPosts := by
  change (ChainPost.normalize p.toData).map ChainPost.toItem = .ok p.toItem
  rw [ChainPost.normalize_toData]
  rfl

/-- What is read from a payload is in canonical form. -/
theorem canonical_of_normalizeItem {v : Json} (h : Payload.normalizeItem entity v = .ok i) :
    i.Canonical entity := by
  cases entity with
  | comments | userComments =>
    rcases CacheError.exists_of_map_eq_ok h with ⟨c, _, rfl⟩
    exact canonical_toItem_comment c
  | project =>
    rcases CacheError.exists_of_map_eq_ok h with ⟨p, _, rfl⟩
    exact canonical_toItem_project p
  | chainPosts =>
    rcases CacheError.exists_of_map_eq_ok h with ⟨p, _, rfl⟩
    exact canonical_toItem_post p
  | chain =>
    rcases CacheError.exists_of_map_eq_ok h with ⟨c, _, rfl⟩
    exact canonical_toItem_chain c

/-- An item in canonical form is that of a comment, where the items are comments. -/
theorem Canonical.exists_comment (h : i.Canonical .comments) :
    ∃ c : Comment, i.id = c.id ∧ i.data = c.toData := by
  rcases CacheError.exists_of_map_eq_ok h with ⟨c, _, hc⟩
  exact ⟨c, (congrArg id hc).symm, (congrArg data hc).symm⟩

/-- A canonical item of a chain is the item of a post. -/
theorem Canonical.exists_post (h : i.Canonical .chainPosts) :
    ∃ p : ChainPost, i.id = p.id ∧ i.data = p.toData := by
  rcases CacheError.exists_of_map_eq_ok h with ⟨p, _, hp⟩
  exact ⟨p, (congrArg id hp).symm, (congrArg data hp).symm⟩

/-! ### Drafts and votes -/

/-- The placeholder of a new comment is in canonical form. -/
theorem canonical_comment_draft (id : String) (m : MutationId) (content projectId : String)
    (authorId : Option String) (createdAt : String) :
    (placeholder id m (Comment.draft content projectId authorId createdAt)).Canonical .comments :=
  (canonical_toItem_comment _).congr rfl
    (Comment.setMember_draft content projectId authorId createdAt id)

/-- The placeholder of a new post is in canonical form. -/
theorem canonical_post_draft (id : String) (m : MutationId) (chainId title content : String)
    (authorId : Option String) :
    (placeholder id m (ChainPost.draft chainId title content authorId)).Canonical .chainPosts :=
  (canonical_toItem_post _).congr rfl (ChainPost.setMember_draft chainId title content authorId id)

/-- A vote keeps the canonical form. -/
theorem Canonical.voted (h : i.Canonical entity) (hentity : entity.isCollection = true)
    (d : VoteDirection) (delta : Count) (m : MutationId) :
    (i.edited [.add d.counter delta] m).Canonical entity := by
  let n := ((i.count? d.counter).getD Count.zero).adjust delta
  have hdata : (i.edited [.add d.counter delta] m).data = i.data.setMember d.counter (Json.int n.value) :=
    rfl
  have hcomment : i.Canonical .comments → (i.edited [.add d.counter delta] m).Canonical .comments := by
    intro hi
    rcases hi.exists_comment with ⟨c, hid, hc⟩
    apply (canonical_toItem_comment (c.withVotes n d)).congr
    · exact hid.trans (c.withVotes_id n d).symm
    · rw [hdata, hc, Comment.setMember_counter]
      rfl
  cases entity with
  | comments | userComments => exact hcomment h
  | chainPosts =>
    rcases h.exists_post with ⟨p, hid, hp⟩
    apply (canonical_toItem_post (p.withVotes n d)).congr
    · exact hid.trans (p.withVotes_id n d).symm
    · rw [hdata, hp, ChainPost.setMember_counter]
      rfl
  | project | chain => cases hentity

end Item
end OptimisticCache
