import OptimisticCache.Payload.Field
/-!
# Comments

A comment on a project, read from any known spelling of its payload and written
in one canonical form.
-/

namespace OptimisticCache

/-- A comment on a project. -/
structure Comment where
  id : String
  content : String
  projectId : Option String
  authorId : Option String
  upvotes : Count
  downvotes : Count
  createdAt : Option String
deriving DecidableEq

namespace Comment

/-- The subject of messages about comments. -/
def subject : String :=
  "comment"

/-- The names under which a comment may be wrapped. -/
def wrappers : List String :=
  ["comment", "data"]

/-- The names of the id; the first one in this order that holds an identifier counts. -/
def idNames : List FieldPath :=
  [["id"], ["_id"], ["comment_id"], ["commentId"]]

/-- The names of the content. -/
def contentNames : List FieldPath :=
  [["content"], ["body"], ["text"], ["comment"]]

/-- The names of the project, which may be given by its id or as an object. -/
def projectNames : List FieldPath :=
  [["project_id"], ["projectId"], ["project", "id"], ["project"]]

/-- The names of the author, who may be given by an id or as an object. -/
def authorNames : List FieldPath :=
  [["author_id"], ["user_id"], ["userId"], ["author", "id"], ["user", "id"]]

/-- The names of the counter of votes up. -/
def upvoteNames : List FieldPath :=
  [["upvotes"], ["upvote_count"], ["up_votes"], ["likes"]]

/-- The names of the counter of votes down. -/
def downvoteNames : List FieldPath :=
  [["downvotes"], ["downvote_count"], ["down_votes"], ["dislikes"]]

/-- The names of the time of creation. -/
def createdNames : List FieldPath :=
  [["created_at"], ["createdAt"]]

/-- A time of creation: a string as it is, any other value in its compact form. -/
def timeText : Json → String
  | .string s => s
  | v => v.print

/-- Read a comment from a payload. -/
def normalize (payload : Json) : Except CacheError Comment := do
  let v := Payload.unwrap wrappers payload
  let id ← Payload.requireId subject v idNames
  let upvotes ← Payload.pickCount subject v upvoteNames
  let downvotes ← Payload.pickCount subject v downvoteNames
  pure
    { id
      content := (Payload.pickText v contentNames).getD ""
      projectId := Payload.pickText v projectNames
      authorId := Payload.pickText v authorNames
      upvotes
      downvotes
      createdAt := (Payload.pick v createdNames).map timeText }

/-- The canonical data of a comment. -/
def toData (c : Comment) : Json :=
  Json.ofMembers
    [("id", .string c.id),
      ("content", .string c.content),
      ("project_id", Json.stringOrNull c.projectId),
      ("author_id", Json.stringOrNull c.authorId),
      ("upvotes", Json.int c.upvotes.value),
      ("downvotes", Json.int c.downvotes.value),
      ("created_at", Json.stringOrNull c.createdAt)]

/-- The item of a comment. -/
def toItem (c : Comment) : Item :=
  Item.new c.id c.toData

/-- The data of a comment that the server has not accepted yet. -/
def draft (content projectId : String) (authorId : Option String) (createdAt : String) : Json :=
  Json.ofMembers
    [("content", .string content),
      ("project_id", .string projectId),
      ("author_id", Json.stringOrNull authorId),
      ("upvotes", Json.int 0),
      ("downvotes", Json.int 0),
      ("created_at", .string createdAt)]

end Comment
end OptimisticCache
