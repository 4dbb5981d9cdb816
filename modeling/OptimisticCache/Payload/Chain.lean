import OptimisticCache.Payload.Field
/-!
# Chains and their posts

A chain with its counters and a post inside a chain, read from any known
spelling of their payloads and written in one canonical form.
-/

namespace OptimisticCache

/-- A chain with its counters. -/
structure Chain where
  id : String
  name : String
  postCount : Count
  memberCount : Count
deriving DecidableEq

namespace Chain

/-- The subject of messages about chains. -/
def subject : String :=
  "chain"

/-- The names under which a chain may be wrapped. -/
def wrappers : List String :=
  ["chain"]

/-- The names of the id; the first one in this order that holds an identifier counts. -/
def idNames : List FieldPath :=
  [["id"], ["_id"], ["chain_id"], ["chainId"]]

/-- The names of the name of a chain. -/
def nameNames : List FieldPath :=
  [["name"], ["title"]]

/-- The names of the number of posts, which may stand among all counts. -/
def postCountNames : List FieldPath :=
  [["post_count"], ["postCount"], ["posts_count"], ["_count", "posts"]]

/-- The names of the number of members, which may stand among all counts. -/
def memberCountNames : List FieldPath :=
  [["member_count"], ["memberCount"], ["members_count"], ["_count", "members"]]

/-- Read a chain from a payload. -/
def normalize (payload : Json) : Except CacheError Chain := do
  let v := Payload.unwrap wrappers payload
  let id ← Payload.requireId subject v idNames
  let postCount ← Payload.pickCount subject v postCountNames
  let memberCount ← Payload.pickCount subject v memberCountNames
  pure { id, name := (Payload.pickText v nameNames).getD "", postCount, memberCount }

/-- The canonical data of a chain. -/
def toData (c : Chain) : Json :=
  Json.ofMembers
    [("id", .string c.id),
      ("name", .string c.name),
      ("post_count", Json.int c.postCount.value),
      ("member_count", Json.int c.memberCount.value)]

/-- The item of a chain. -/
def toItem (c : Chain) : Item :=
  Item.new c.id c.toData

end Chain

/-- A post in a chain. -/
structure ChainPost where
  id : String
  chainId : Option String
  title : String
  content : String
  authorId : Option String
  upvotes : Count
  downvotes : Count
deriving DecidableEq

namespace ChainPost

/-- The subject of messages about posts. -/
def subject : String :=
  "chain post"

/-- The names under which a post may be wrapped. -/
def wrappers : List String :=
  ["post"]

/-- The names of the id; the first one in this order that holds an identifier counts. -/
def idNames : List FieldPath :=
  [["id"], ["_id"], ["post_id"], ["postId"]]

/-- The names of the chain, which may be given by its id or as an object. -/
def chainNames : List FieldPath :=
  [["chain_id"], ["chainId"], ["chain", "id"]]

/-- The names of the title. -/
def titleNames : List FieldPath :=
  [["title"], ["subject"]]

/-- The names of the content. -/
def contentNames : List FieldPath :=
  [["content"], ["body"], ["text"]]

/-- The names of the author, who may be given by an id or as an object. -/
def authorNames : List FieldPath :=
  [["author_id"], ["user_id"], ["userId"], ["author", "id"]]

/-- The names of the counter of votes up. -/
def upvoteNames : List FieldPath :=
  [["upvotes"], ["upvote_count"], ["likes"]]

/-- The names of the counter of votes down. -/
def downvoteNames : List FieldPath :=
  [["downvotes"], ["downvote_count"]]

/-- Read a post from a payload. -/
def normalize (payload : Json) : Except CacheError ChainPost := do
  let v := Payload.unwrap wrappers payload
  let id ← Payload.requireId subject v idNames
  let upvotes ← Payload.pickCount subject v upvoteNames
  let downvotes ← Payload.pickCount subject v downvoteNames
  pure
    { id
      chainId := Payload.pickText v chainNames
      title := (Payload.pickText v titleNames).getD ""
      content := (Payload.pickText v contentNames).getD ""
      authorId := Payload.pickText v authorNames
      upvotes
      downvotes }

/-- The canonical data of a post. -/
def toData (p : ChainPost) : Json :=
  Json.ofMembers
    [("id", .string p.id),
      ("chain_id", Json.stringOrNull p.chainId),
      ("title", .string p.title),
      ("content", .string p.content),
      ("author_id", Json.stringOrNull p.authorId),
      ("upvotes", Json.int p.upvotes.value),
      ("downvotes", Json.int p.downvotes.value)]

/-- The item of a post. -/
def toItem (p : ChainPost) : Item :=
  Item.new p.id p.toData

/-- The data of a post that the server has not accepted yet. -/
def draft (chainId title content : String) (authorId : Option String) : Json :=
  Json.ofMembers
    [("chain_id", .string chainId),
      ("title", .string title),
      ("content", .string content),
      ("author_id", Json.stringOrNull authorId),
      ("upvotes", Json.int 0),
      ("downvotes", Json.int 0)]

end ChainPost
end OptimisticCache
