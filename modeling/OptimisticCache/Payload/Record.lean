import OptimisticCache.Json.Record
import OptimisticCache.Payload.Chain
import OptimisticCache.Payload.Comment
import OptimisticCache.Payload.Project
/-!
# Canonical records

The canonical data of a comment, project, chain or post is also read strictly:
under the canonical names only, with texts and whole numbers and nothing else.
-/

namespace OptimisticCache

/-- A field of a record with one name and no default. -/
def Record.Field.required (name : String) : Record.Field :=
  ⟨[name], false⟩

namespace Comment

/-- The canonical fields. -/
def fields : List Record.Field :=
  ["id", "content", "project_id", "author_id", "upvotes", "downvotes", "created_at"].map
    Record.Field.required

/-- Read a comment from its canonical form. -/
def ofJson? (v : Json) : Option Comment :=
  match Record.slots? fields v with
  | some [id, content, projectId, authorId, upvotes, downvotes, createdAt] => do
    let id ← Record.text? id
    let content ← Record.text? content
    let projectId ← Record.optionalText? projectId
    let authorId ← Record.optionalText? authorId
    let upvotes ← Record.count? upvotes
    let downvotes ← Record.count? downvotes
    let createdAt ← Record.optionalText? createdAt
    pure { id, content, projectId, authorId, upvotes, downvotes, createdAt }
  | _ => none

end Comment

namespace Project

/-- The canonical fields. -/
def fields : List Record.Field :=
  ["id", "title", "comment_count", "like_count"].map Record.Field.required

/-- Read a project from its canonical form. -/
def ofJson? (v : Json) : Option Project :=
  match Record.slots? fields v with
  | some [id, title, commentCount, likeCount] => do
    let id ← Record.text? id
    let title ← Record.text? title
    let commentCount ← Record.count? commentCount
    let likeCount ← Record.count? likeCount
    pure { id, title, commentCount, likeCount }
  | _ => none

end Project

namespace Chain

/-- The canonical fields. -/
def fields : List Record.Field :=
  ["id", "name", "post_count", "member_count"].map Record.Field.required

/-- Read a chain from its canonical form. -/
def ofJson? (v : Json) : Option Chain :=
  match Record.slots? fields v with
  | some [id, name, postCount, memberCount] => do
    let id ← Record.text? id
    let name ← Record.text? name
    let postCount ← Record.count? postCount
    let memberCount ← Record.count? memberCount
    pure { id, name, postCount, memberCount }
  | _ => none

end Chain

namespace ChainPost

/-- The canonical fields. -/
def fields : List Record.Field :=
  ["id", "chain_id", "title", "content", "author_id", "upvotes", "downvotes"].map
    Record.Field.required

/-- Read a post from its canonical form. -/
def ofJson? (v : Json) : Option ChainPost :=
  match Record.slots? fields v with
  | some [id, chainId, title, content, authorId, upvotes, downvotes] => do
    let id ← Record.text? id
    let chainId ← Record.optionalText? chainId
    let title ← Record.text? title
    let content ← Record.text? content
    let authorId ← Record.optionalText? authorId
    let upvotes ← Record.count? upvotes
    let downvotes ← Record.count? downvotes
    pure { id, chainId, title, content, authorId, upvotes, downvotes }
  | _ => none

end ChainPost
end OptimisticCache
