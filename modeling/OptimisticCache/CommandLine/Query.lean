import OptimisticCache.Query.Key
import OptimisticCache.Store
/-!
# Queries on the command line

A query is given as the name of a kind, a colon and an id; the id is everything
after the first colon.
-/

namespace OptimisticCache
namespace CommandLine

/-- Why a text is no query. -/
inductive QueryFault where
  /-- There is no colon. -/
  | noColon (query : String)
  /-- The name is not one of a kind. -/
  | unknownKind (name query : String)
deriving DecidableEq

/-- The fault in words. -/
def QueryFault.message : QueryFault → String
  | noColon query => "query '" ++ query ++ "' must look like entity:id"
  | unknownKind name query => "unknown query entity '" ++ name ++ "' in '" ++ query ++ "'"

/-- The kind that a name stands for; the posts of a chain have two names. -/
def kindNamed? (name : String) : Option Entity :=
  if name = "posts" then some .chainPosts else Entity.ofName? name

/-- The text in front of the first colon and the text behind it. -/
def splitColon : List Char → Option (List Char × List Char)
  | [] => none
  | c :: cs =>
    if c = ':' then some ([], cs) else (splitColon cs).map fun r => (c :: r.1, r.2)

/-- Read a query. -/
def readQuery (query : String) : Except QueryFault QueryKey :=
  match splitColon query.toList with
  | none => .error (.noColon query)
  | some (name, id) =>
    match kindNamed? (String.ofList name) with
    | some entity => .ok (.of entity (String.ofList id))
    | none => .error (.unknownKind (String.ofList name) query)

/-- The cached values as an object, with the queries as names. -/
def cacheJson (s : Store) : Json :=
  Json.ofMembers (s.dump.map fun p => (p.1.display, p.2.toJson))

/-- A text is split at its first colon. -/
theorem splitColon_append {name : List Char} (h : ':' ∉ name) (id : List Char) :
    splitColon (name ++ ':' :: id) = some (name, id) := by
  induction name with
  | nil => rfl
  | cons c name ih =>
    have hc : c ≠ ':' := fun e => h (by simp [e])
    rw [List.cons_append, splitColon, if_neg hc, ih fun hm => h (List.mem_cons_of_mem c hm)]
    rfl

/-- A text without a colon is not split. -/
theorem splitColon_plain {cs : List Char} (h : ':' ∉ cs) : splitColon cs = none := by
  induction cs with
  | nil => rfl
  | cons c cs ih =>
    have hc : c ≠ ':' := fun e => h (by simp [e])
    rw [splitColon, if_neg hc, ih fun hm => h (List.mem_cons_of_mem c hm)]
    rfl

end CommandLine
end OptimisticCache
