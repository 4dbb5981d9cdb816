import OptimisticCache.Mutation
import OptimisticCache.Payload.Resource
/-!
# The catalogue of mutations

The six mutations: comments and chain posts are created, deleted and voted on.

Main results:

- Theorem {lit}`CatalogueMutation.exists_normalizeItem_of_authoritative`: what an answer
  gives is read like any other payload.
-/

namespace OptimisticCache

namespace Payload

/-- Whether a value is the identifier, as a string or as a number. -/
def isId (id : String) : Json → Bool
  | .string s => s = id
  | .number n => n.text = id
  | _ => false

/-- The object that a vote was answered with: the object under the wrapper, or the whole
answer if it has the id that was voted on.  A bare record of the vote is neither. -/
def votedObject? (data : Json) (wrapper id : String) : Option Json :=
  match (data.get? wrapper).filter Json.isObject with
  | some inner => some inner
  | none =>
    if ["id", "_id"].any fun name => ((data.get? name).map (isId id)).getD false then some data
    else none

end Payload

/-- A mutation of the catalogue. -/
inductive CatalogueMutation where
  | createComment (projectId content : String) (authorId : Option String)
  | deleteComment (projectId commentId : String) (authorId : Option String)
  | voteComment (projectId commentId : String) (direction : VoteDirection)
  | createChainPost (chainId title content : String) (authorId : Option String)
  | deleteChainPost (chainId postId : String)
  | voteChainPost (chainId postId : String) (direction : VoteDirection)
deriving DecidableEq

namespace CatalogueMutation

/-- The kind of a mutation of the catalogue. -/
def kind : CatalogueMutation → MutationKind
  | createComment .. => .createComment
  | deleteComment .. => .deleteComment
  | voteComment .. => .voteComment
  | createChainPost .. => .createChainPost
  | deleteChainPost .. => .deleteChainPost
  | voteChainPost .. => .voteChainPost

/-- The kind of the items that it creates, deletes or votes on. -/
def entity : CatalogueMutation → Entity
  | createComment .. | deleteComment .. | voteComment .. => .comments
  | createChainPost .. | deleteChainPost .. | voteChainPost .. => .chainPosts

/-- The identifiers that it touches. -/
def scope : CatalogueMutation → Scope
  | createComment projectId _ authorId | deleteComment projectId _ authorId =>
    Scope.ofProject projectId authorId
  | voteComment projectId _ _ => Scope.ofProject projectId none
  | createChainPost chainId _ _ authorId => Scope.ofChain chainId authorId
  | deleteChainPost chainId _ | voteChainPost chainId _ _ => Scope.ofChain chainId none

/-- The payload of a vote. -/
def votePayload (direction : VoteDirection) : Json :=
  Json.ofMembers [("vote_type", .string direction.wireName)]

/-- The request that is sent. -/
def request : CatalogueMutation → Request
  | createComment projectId content _ =>
    Request.post "/comments"
      (Json.ofMembers [("content", .string content), ("project_id", .string projectId)])
  | deleteComment _ commentId _ => Request.delete ("/comments/" ++ commentId)
  | voteComment _ commentId direction =>
    Request.post ("/comments/" ++ commentId ++ "/vote") (votePayload direction)
  | createChainPost chainId title content _ =>
    Request.post ("/chains/" ++ chainId ++ "/posts")
      (Json.ofMembers [("title", .string title), ("content", .string content)])
  | deleteChainPost chainId postId => Request.delete ("/chains/" ++ chainId ++ "/posts/" ++ postId)
  | voteChainPost chainId postId direction =>
    Request.post ("/chains/" ++ chainId ++ "/posts/" ++ postId ++ "/vote") (votePayload direction)

/-- A patch of the comments of the author, if there is one. -/
def authorPatch (authorId : Option String) (patch : Patch) : List (QueryKey × Patch) :=
  match authorId with
  | some author => [(.userComments author, patch)]
  | none => []

/-- One more. -/
def one : Count :=
  Count.clamp 1

/-- One less. -/
def minusOne : Count :=
  Count.clamp (-1)

/-- The provisional changes; drafts are stamped with the time `createdAt`. -/
def patches (createdAt : String) : CatalogueMutation → List (QueryKey × Patch)
  | createComment projectId content authorId =>
    let draft := Comment.draft content projectId authorId createdAt
    [(.comments projectId, .prepend draft),
      (.project projectId, .increment projectId "comment_count" one)] ++
      authorPatch authorId (.prepend draft)
  | deleteComment projectId commentId authorId =>
    [(.comments projectId, .remove commentId),
      (.project projectId, .increment projectId "comment_count" minusOne)] ++
      authorPatch authorId (.remove commentId)
  | voteComment projectId commentId direction =>
    [(.comments projectId, .increment commentId direction.counter one)]
  | createChainPost chainId title content authorId =>
    [(.chainPosts chainId, .prepend (ChainPost.draft chainId title content authorId)),
      (.chain chainId, .increment chainId "post_count" one)]
  | deleteChainPost chainId postId =>
    [(.chainPosts chainId, .remove postId),
      (.chain chainId, .increment chainId "post_count" minusOne)]
  | voteChainPost chainId postId direction =>
    [(.chainPosts chainId, .increment postId direction.counter one)]

/-- The comment that data stands for. -/
def commentItem (data : Json) : Except CacheError (Option Item) :=
  (Comment.normalize data).map fun c => some c.toItem

/-- The chain post that data stands for. -/
def chainPostItem (data : Json) : Except CacheError (Option Item) :=
  (ChainPost.normalize data).map fun p => some p.toItem

/-- The item that the answered data stands for.  A creation answered with null and a deletion
have none, and so has a vote answered with something else than the object voted on. -/
def authoritative (data : Json) : CatalogueMutation → Except CacheError (Option Item)
  | createComment .. => if data.isNull then .ok none else commentItem data
  | createChainPost .. => if data.isNull then .ok none else chainPostItem data
  | deleteComment .. | deleteChainPost .. => .ok none
  | voteComment _ commentId _ =>
    match Payload.votedObject? data "comment" commentId with
    | some v => commentItem v
    | none => .ok none
  | voteChainPost _ postId _ =>
    match Payload.votedObject? data "post" postId with
    | some v => chainPostItem v
    | none => .ok none

/-- The mutation, with its drafts stamped with the time `createdAt`. -/
def toMutation (c : CatalogueMutation) (createdAt : String) : Mutation where
  kind := c.kind
  scope := c.scope
  request := c.request
  patches := c.patches createdAt
  authoritative data := c.authoritative data

/-- Every mutation is about comments or about chain posts. -/
theorem entity_cases (c : CatalogueMutation) : c.entity = .comments ∨ c.entity = .chainPosts := by
  cases c <;> simp [entity]

/-- The comment in an answer is read like a comment in a list. -/
theorem normalizeItem_of_commentItem {data : Json} {i : Item} (h : commentItem data = .ok (some i)) :
    Payload.normalizeItem .comments data = .ok i := by
  rcases CacheError.exists_of_map_eq_ok h with ⟨comment, hcomment, hi⟩
  rw [← Option.some.inj hi, Payload.normalizeItem, hcomment]
  rfl

/-- The post in an answer is read like a post in a list. -/
theorem normalizeItem_of_chainPostItem {data : Json} {i : Item}
    (h : chainPostItem data = .ok (some i)) : Payload.normalizeItem .chainPosts data = .ok i := by
  rcases CacheError.exists_of_map_eq_ok h with ⟨post, hpost, hi⟩
  rw [← Option.some.inj hi, Payload.normalizeItem, hpost]
  rfl

/-- An item that is taken from an answer is read from a payload of the kind that the mutation is
about. -/
theorem exists_normalizeItem_of_authoritative {c : CatalogueMutation} {data : Json} {i : Item}
    (h : c.authoritative data = .ok (some i)) :
    ∃ v, Payload.normalizeItem c.entity v = .ok i := by
  cases c with
  | createComment projectId content authorId =>
    simp only [authoritative] at h
    split at h
    · cases h
    · exact ⟨data, normalizeItem_of_commentItem h⟩
  | createChainPost chainId title content authorId =>
    simp only [authoritative] at h
    split at h
    · cases h
    · exact ⟨data, normalizeItem_of_chainPostItem h⟩
  | deleteComment projectId commentId authorId => cases h
  | deleteChainPost chainId postId => cases h
  | voteComment projectId commentId direction =>
    simp only [authoritative] at h
    split at h
    · exact ⟨_, normalizeItem_of_commentItem h⟩
    · cases h
  | voteChainPost chainId postId direction =>
    simp only [authoritative] at h
    split at h
    · exact ⟨_, normalizeItem_of_chainPostItem h⟩
    · cases h

end CatalogueMutation
end OptimisticCache
