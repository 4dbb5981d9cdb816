import OptimisticCache.Mutation.Kind
/-!
# Dependencies

Which cached queries go stale when a mutation of some kind commits.  The map
names kinds of queries; the keys come from the scope of the mutation, and a kind
whose identifier is missing there is skipped.

Main results:

- Theorem {lit}`DependencyMap.entities_add`: the view of a map after one addition.
- Theorem {lit}`DependencyMap.nodup_entities_add`: additions never repeat a kind
  of query.
-/

namespace OptimisticCache

/-- The kinds of queries that depend on each kind of mutation, in order. -/
structure DependencyMap where
  entities : MutationKind → List Entity

namespace DependencyMap

/-- No dependencies. -/
def empty : DependencyMap :=
  ⟨fun _ => []⟩

/-- Add a dependency, unless it is there already. -/
def add (d : DependencyMap) (kind : MutationKind) (entity : Entity) : DependencyMap :=
  ⟨fun k =>
    if k = kind ∧ entity ∉ d.entities kind then d.entities k ++ [entity] else d.entities k⟩

/-- Add dependencies in order. -/
def addAll (d : DependencyMap) (ps : List (MutationKind × Entity)) : DependencyMap :=
  ps.foldl (fun d p => d.add p.1 p.2) d

/-- The dependencies of the standard map. -/
def standardPairs : List (MutationKind × Entity) :=
  [(.createComment, .comments), (.createComment, .project), (.createComment, .userComments),
    (.deleteComment, .comments), (.deleteComment, .project), (.deleteComment, .userComments),
    (.voteComment, .comments),
    (.createChainPost, .chainPosts), (.createChainPost, .chain),
    (.deleteChainPost, .chainPosts), (.deleteChainPost, .chain),
    (.voteChainPost, .chainPosts)]

/-- The standard map: a mutation affects the lists it changes and the records that count them. -/
def standard : DependencyMap :=
  empty.addAll standardPairs

/-- The keys to invalidate when a mutation commits. -/
def keysFor (d : DependencyMap) (kind : MutationKind) (scope : Scope) : List QueryKey :=
  (d.entities kind).filterMap scope.key?

/-- Whether two maps hold the same dependencies in the same order. -/
def same (d e : DependencyMap) : Bool :=
  MutationKind.all.all fun k => d.entities k = e.entities k

/-- The dependencies of a kind after one addition. -/
theorem entities_add (d : DependencyMap) (kind kind' : MutationKind) (entity : Entity) :
    (d.add kind entity).entities kind' =
      if kind' = kind ∧ entity ∉ d.entities kind then d.entities kind' ++ [entity]
      else d.entities kind' :=
  rfl

/-- Additions never repeat a kind of query. -/
theorem nodup_entities_add {d : DependencyMap} {kind' : MutationKind}
    (h : (d.entities kind').Nodup) (kind : MutationKind) (entity : Entity) :
    ((d.add kind entity).entities kind').Nodup := by
  rw [entities_add]
  split
  · rename_i hnew
    obtain ⟨rfl, hnew⟩ := hnew
    rw [List.nodup_append]
    refine ⟨h, by simp, ?_⟩
    intro a ha b hb
    obtain rfl := List.mem_singleton.mp hb
    rintro rfl
    exact hnew ha
  · exact h

end DependencyMap
end OptimisticCache
