import OptimisticCache.Query.Key
/-!
# Kinds and scopes of mutations

A mutation is one of six kinds.  Its scope holds the identifiers it touches, from
which the keys of the queries that depend on it are built.
-/

namespace OptimisticCache

/-- The kind of a mutation. -/
inductive MutationKind where
  | createComment
  | deleteComment
  | voteComment
  | createChainPost
  | deleteChainPost
  | voteChainPost
deriving DecidableEq

namespace MutationKind

/-- All kinds, in their order. -/
def all : List MutationKind :=
  [createComment, deleteComment, voteComment, createChainPost, deleteChainPost, voteChainPost]

/-- The name of a kind. -/
def name : MutationKind → String
  | createComment => "create_comment"
  | deleteComment => "delete_comment"
  | voteComment => "vote_comment"
  | createChainPost => "create_chain_post"
  | deleteChainPost => "delete_chain_post"
  | voteChainPost => "vote_chain_post"

/-- The kind with a name. -/
def ofName? (s : String) : Option MutationKind :=
  all.find? fun k => k.name == s

end MutationKind

/-- Up or down. -/
inductive VoteDirection where
  | up
  | down
deriving DecidableEq

namespace VoteDirection

/-- Both directions, in their order. -/
def all : List VoteDirection :=
  [up, down]

/-- The name of a direction. -/
def name : VoteDirection → String
  | up => "up"
  | down => "down"

/-- The word that the vote endpoints expect. -/
def wireName : VoteDirection → String
  | up => "upvote"
  | down => "downvote"

/-- The counter that the vote increments. -/
def counter : VoteDirection → String
  | up => "upvotes"
  | down => "downvotes"

/-- The direction with a name. -/
def ofName? (s : String) : Option VoteDirection :=
  all.find? fun d => d.name == s

end VoteDirection

/-- The identifiers that a mutation touches. -/
structure Scope where
  projectId : Option String := none
  chainId : Option String := none
  userId : Option String := none
deriving DecidableEq

namespace Scope

/-- The scope of a project, and of a user if one is given. -/
def ofProject (projectId : String) (userId : Option String) : Scope :=
  { projectId := some projectId, userId }

/-- The scope of a chain, and of a user if one is given. -/
def ofChain (chainId : String) (userId : Option String) : Scope :=
  { chainId := some chainId, userId }

/-- The identifier that names the resource of a kind. -/
def idOf (s : Scope) : Entity → Option String
  | .comments | .project => s.projectId
  | .chainPosts | .chain => s.chainId
  | .userComments => s.userId

/-- The key of a kind of query within the scope, if its identifier is there. -/
def key? (s : Scope) (entity : Entity) : Option QueryKey :=
  (s.idOf entity).map (QueryKey.of entity)

end Scope
end OptimisticCache
