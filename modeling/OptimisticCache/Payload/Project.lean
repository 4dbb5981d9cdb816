import OptimisticCache.Payload.Field
/-!
# Projects

A project with its counters, read from any known spelling of its payload and
written in one canonical form.
-/

namespace OptimisticCache

/-- A project with its counters. -/
structure Project where
  id : String
  title : String
  commentCount : Count
  likeCount : Count
deriving DecidableEq

namespace Project

/-- The subject of messages about projects. -/
def subject : String :=
  "project"

/-- The names under which a project may be wrapped. -/
def wrappers : List String :=
  ["project"]

/-- The names of the id; the first one in this order that holds an identifier counts. -/
def idNames : List FieldPath :=
  [["id"], ["_id"], ["project_id"], ["projectId"]]

/-- The names of the title. -/
def titleNames : List FieldPath :=
  [["title"], ["name"]]

/-- The names of the number of comments, which may stand among all counts. -/
def commentCountNames : List FieldPath :=
  [["comment_count"], ["commentCount"], ["comments_count"], ["_count", "comments"]]

/-- The names of the number of likes. -/
def likeCountNames : List FieldPath :=
  [["like_count"], ["likeCount"], ["likes"]]

/-- Read a project from a payload. -/
def normalize (payload : Json) : Except CacheError Project := do
  let v := Payload.unwrap wrappers payload
  let id ← Payload.requireId subject v idNames
  let commentCount ← Payload.pickCount subject v commentCountNames
  let likeCount ← Payload.pickCount subject v likeCountNames
  pure { id, title := (Payload.pickText v titleNames).getD "", commentCount, likeCount }

/-- The canonical data of a project. -/
def toData (p : Project) : Json :=
  Json.ofMembers
    [("id", .string p.id),
      ("title", .string p.title),
      ("comment_count", Json.int p.commentCount.value),
      ("like_count", Json.int p.likeCount.value)]

/-- The item of a project. -/
def toItem (p : Project) : Item :=
  Item.new p.id p.toData

end Project
end OptimisticCache
