import OptimisticCache.Json
import OptimisticCache.Query.Entity
/-!
# Query keys

A query is named by the kind of its resource and by parameters, which stand in
the order of their names, each name once.  So it does not matter in which order
the parameters were given.

Main results:

- Theorem {lit}`QueryKey.get?_param`: the view of a key after one parameter.
- Theorem {lit}`QueryKey.before_total`: any two keys can be put in order.
-/

namespace OptimisticCache

/-- The name of a cached query. -/
structure QueryKey where
  entity : Entity
  params : List (String × String)
deriving DecidableEq

namespace QueryKey

/-- The key of a kind without parameters. -/
def new (entity : Entity) : QueryKey :=
  ⟨entity, []⟩

/-- Add a parameter, or replace its value. -/
def param (k : QueryKey) (name value : String) : QueryKey :=
  { k with params := Table.insert name value k.params }

/-- The value of a parameter. -/
def get? (k : QueryKey) (name : String) : Option String :=
  Table.get? name k.params

/-- The query of a kind for one resource. -/
def of (entity : Entity) (id : String) : QueryKey :=
  (new entity).param entity.idParam id

/-- The comments of a project. -/
def comments (projectId : String) : QueryKey :=
  of .comments projectId

/-- A project. -/
def project (projectId : String) : QueryKey :=
  of .project projectId

/-- The posts of a chain. -/
def chainPosts (chainId : String) : QueryKey :=
  of .chainPosts chainId

/-- A chain. -/
def chain (chainId : String) : QueryKey :=
  of .chain chainId

/-- The comments of a user. -/
def userComments (userId : String) : QueryKey :=
  of .userComments userId

/-- The path below which the backend serves the resource with an id. -/
def pathOf (entity : Entity) (id : String) : String :=
  match entity with
  | .comments => "/projects/" ++ id ++ "/comments"
  | .project => "/projects/" ++ id
  | .chainPosts => "/chains/" ++ id ++ "/posts"
  | .chain => "/chains/" ++ id
  | .userComments => "/users/" ++ id ++ "/comments"

/-- The path that the query is read from; none when its identifying parameter is missing. -/
def path? (k : QueryKey) : Option String :=
  (k.get? k.entity.idParam).map (pathOf k.entity)

/-- The key as a text: the kind, and the parameters in brackets if there are any. -/
def display (k : QueryKey) : String :=
  match k.params with
  | [] => k.entity.name
  | ps =>
    k.entity.name ++ "[" ++ String.intercalate "," (ps.map fun p => p.1 ++ "=" ++ p.2) ++ "]"

/-- A parameter that was given has its value, and the others keep theirs. -/
theorem get?_param (k : QueryKey) (name value other : String) :
    (k.param name value).get? other = if other = name then some value else k.get? other :=
  Table.get?_insert name other value k.params

/-- The key of a kind names its resource. -/
@[simp]
theorem get?_of (entity : Entity) (id : String) : (of entity id).get? entity.idParam = some id := by
  simp [of, get?_param]

/-- Keys of different kinds differ. -/
theorem ne_of_entity_ne {k k' : QueryKey} (h : k.entity ≠ k'.entity) : k ≠ k' := by
  rintro rfl
  exact h rfl

/-! ## Order of keys -/

/-- The order of parameter lists: name by name and value by value from the left. -/
def paramsBefore : List (String × String) → List (String × String) → Bool
  | _, [] => false
  | [], _ :: _ => true
  | (m, v) :: ps, (n, w) :: qs =>
    Text.before m n || (m == n && (Text.before v w || (v == w && paramsBefore ps qs)))

/-- The order of keys: by kind, then by parameters. -/
def before (a b : QueryKey) : Bool :=
  a.entity.rank < b.entity.rank ||
    (a.entity == b.entity && paramsBefore a.params b.params)

/-- No parameters stand before themselves. -/
theorem paramsBefore_irrefl (ps : List (String × String)) : paramsBefore ps ps = false := by
  induction ps with
  | nil => rfl
  | cons p ps ih => simp [paramsBefore, Text.before_irrefl, ih]

/-- The order of parameters is transitive. -/
theorem paramsBefore_trans {ps qs rs : List (String × String)} (hpq : paramsBefore ps qs = true)
    (hqr : paramsBefore qs rs = true) : paramsBefore ps rs = true := by
  induction ps generalizing qs rs with
  | nil =>
    cases qs with
    | nil => simp [paramsBefore] at hpq
    | cons q qs =>
      cases rs with
      | nil => simp [paramsBefore] at hqr
      | cons r rs => rfl
  | cons p ps ih =>
    cases qs with
    | nil => simp [paramsBefore] at hpq
    | cons q qs =>
      cases rs with
      | nil => simp [paramsBefore] at hqr
      | cons r rs =>
        obtain ⟨l, u⟩ := p
        obtain ⟨m, v⟩ := q
        obtain ⟨n, w⟩ := r
        simp only [paramsBefore, Bool.or_eq_true, Bool.and_eq_true, beq_iff_eq] at hpq hqr ⊢
        rcases hpq with hlm | ⟨rfl, hpq⟩
        · rcases hqr with hmn | ⟨rfl, _⟩
          · exact Or.inl (Text.before_trans hlm hmn)
          · exact Or.inl hlm
        · rcases hqr with hmn | ⟨rfl, hqr⟩
          · exact Or.inl hmn
          · refine Or.inr ⟨rfl, ?_⟩
            rcases hpq with huv | ⟨rfl, hps⟩
            · rcases hqr with hvw | ⟨rfl, _⟩
              · exact Or.inl (Text.before_trans huv hvw)
              · exact Or.inl huv
            · rcases hqr with hvw | ⟨rfl, hqs⟩
              · exact Or.inl hvw
              · exact Or.inr ⟨rfl, ih hps hqs⟩

/-- Different parameters are ordered one way or the other. -/
theorem paramsBefore_total (ps qs : List (String × String)) :
    paramsBefore ps qs = true ∨ ps = qs ∨ paramsBefore qs ps = true := by
  induction ps generalizing qs with
  | nil => cases qs <;> simp [paramsBefore]
  | cons p ps ih =>
    cases qs with
    | nil => simp [paramsBefore]
    | cons q qs =>
      obtain ⟨m, v⟩ := p
      obtain ⟨n, w⟩ := q
      simp only [paramsBefore, Bool.or_eq_true, Bool.and_eq_true, beq_iff_eq, List.cons.injEq,
        Prod.mk.injEq]
      rcases Text.before_total m n with h | rfl | h
      · exact Or.inl (Or.inl h)
      · rcases Text.before_total v w with h | rfl | h
        · exact Or.inl (Or.inr ⟨rfl, Or.inl h⟩)
        · rcases ih qs with h | h | h
          · exact Or.inl (Or.inr ⟨rfl, Or.inr ⟨rfl, h⟩⟩)
          · exact Or.inr (Or.inl ⟨⟨rfl, rfl⟩, h⟩)
          · exact Or.inr (Or.inr (Or.inr ⟨rfl, Or.inr ⟨rfl, h⟩⟩))
        · exact Or.inr (Or.inr (Or.inr ⟨rfl, Or.inl h⟩))
      · exact Or.inr (Or.inr (Or.inl h))

/-- No key stands before itself. -/
theorem before_irrefl (k : QueryKey) : before k k = false := by
  simp [before, paramsBefore_irrefl]

/-- The order of keys is transitive. -/
theorem before_trans {a b c : QueryKey} (hab : before a b = true) (hbc : before b c = true) :
    before a c = true := by
  simp only [before, Bool.or_eq_true, Bool.and_eq_true, decide_eq_true_eq, beq_iff_eq] at hab hbc ⊢
  rcases hab with hab | ⟨hab, hps⟩
  · rcases hbc with hbc | ⟨hbc, _⟩
    · exact Or.inl (Nat.lt_trans hab hbc)
    · exact Or.inl (hbc ▸ hab)
  · rcases hbc with hbc | ⟨hbc, hqs⟩
    · exact Or.inl (hab ▸ hbc)
    · exact Or.inr ⟨hab.trans hbc, paramsBefore_trans hps hqs⟩

/-- Any two keys can be put in order. -/
theorem before_total (a b : QueryKey) : before a b = true ∨ a = b ∨ before b a = true := by
  obtain ⟨e, ps⟩ := a
  obtain ⟨f, qs⟩ := b
  simp only [before, Bool.or_eq_true, Bool.and_eq_true, decide_eq_true_eq, beq_iff_eq,
    QueryKey.mk.injEq]
  rcases Nat.lt_trichotomy e.rank f.rank with h | h | h
  · exact Or.inl (Or.inl h)
  · have hef := Entity.rank_injective h
    subst hef
    rcases paramsBefore_total ps qs with h | h | h
    · exact Or.inl (Or.inr ⟨rfl, h⟩)
    · exact Or.inr (Or.inl ⟨rfl, h⟩)
    · exact Or.inr (Or.inr (Or.inr ⟨rfl, h⟩))
  · exact Or.inr (Or.inr (Or.inl h))

instance : KeyOrder QueryKey where
  before := before
  irrefl := before_irrefl
  trans := before_trans
  total := before_total

/-- The keys in order, repetitions kept. -/
def sorted (ks : List QueryKey) : List QueryKey :=
  ks.mergeSort fun a b => !before b a

end QueryKey
end OptimisticCache
