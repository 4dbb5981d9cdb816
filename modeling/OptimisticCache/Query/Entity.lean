/-!
# Kinds of cached resources

A query is for one of five kinds of resources: the comments of a project, a
project, the posts of a chain, a chain, or the comments of a user.

Main results:

- Theorem {lit}`Entity.name_injective`: different kinds have different names.
- Theorem {lit}`Entity.ofName?_eq_some_iff`: a kind is found by its name only.
-/

namespace OptimisticCache

/-- The kind of resource that a query is for. -/
inductive Entity where
  | comments
  | project
  | chainPosts
  | chain
  | userComments
deriving DecidableEq

namespace Entity

/-- All kinds, in their order. -/
def all : List Entity :=
  [comments, project, chainPosts, chain, userComments]

/-- The place of a kind in the order of kinds. -/
def rank : Entity → Nat
  | comments => 0
  | project => 1
  | chainPosts => 2
  | chain => 3
  | userComments => 4

/-- The name of a kind in keys and messages. -/
def name : Entity → String
  | comments => "comments"
  | project => "project"
  | chainPosts => "chain_posts"
  | chain => "chain"
  | userComments => "user_comments"

/-- Whether a query of this kind yields a list rather than a single record. -/
def isCollection : Entity → Bool
  | comments | chainPosts | userComments => true
  | project | chain => false

/-- The parameter that says which resource is meant. -/
def idParam : Entity → String
  | comments | project => "project_id"
  | chainPosts | chain => "chain_id"
  | userComments => "user_id"

/-- The kind with a name. -/
def ofName? (s : String) : Option Entity :=
  all.find? fun e => e.name == s

/-- Different kinds have different names. -/
theorem name_injective {a b : Entity} (h : a.name = b.name) : a = b := by
  cases a <;> cases b <;> first | rfl | exact absurd h (by decide)

/-- A kind is found by its name and by no other one. -/
theorem ofName?_eq_some_iff {s : String} {e : Entity} : ofName? s = some e ↔ e.name = s := by
  constructor
  · intro h
    simpa using List.find?_some h
  · rintro rfl
    cases e <;> rfl

/-- Different kinds have different places. -/
theorem rank_injective {a b : Entity} (h : a.rank = b.rank) : a = b := by
  cases a <;> cases b <;> first | rfl | exact absurd h (by decide)

end Entity
end OptimisticCache
