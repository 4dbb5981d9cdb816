import OptimisticCache.Proofs.CanonicalForms
import OptimisticCache.Proofs.Markers
import OptimisticCache.Proofs.Traffic
/-!
# The shape of cached values

A key for a collection holds a list, every other key holds a record, and the items of
the lists are in canonical form: their data is what reading it gives again.

Item data comes from four places.  An answer is normalized.  A draft gets the id of
its placeholder.  A vote replaces a counter.  An authoritative item is read from an
answer, of the kind that the mutation is about.  Nothing else writes data: markers are
no part of it, and a snapshot puts back what was there.

A record is not claimed to be canonical.  The merge of a creation puts its
authoritative item in place of the record of the parent if the two have the same id.

Main results:

- Theorem {lit}`CatalogueMutation.change_of_mem_patches`: the patches of the catalogue
  are of four forms.
- Theorems {lit}`QueryKey.keeps_fits_patch` and {lit}`QueryKey.keeps_fits_merge`:
  patches and merges keep the shape of values.
- Theorem {lit}`Traffic.fits_run`: every cached value has the shape of its key,
  throughout every run.
-/

namespace OptimisticCache

/-- The value has the shape of its key: a list of canonical items for a collection, and a record
for everything else. -/
def QueryKey.Fits (k : QueryKey) : CacheValue → Prop
  | .list is => k.entity.isCollection = true ∧ ∀ i ∈ is, i.Canonical k.entity
  | .record _ => k.entity.isCollection = false

/-! ## The patches of the catalogue -/

namespace CatalogueMutation

/-- The queries of a kind are lists of the items that the mutation is about. -/
def Lists (cm : CatalogueMutation) (e : Entity) : Prop :=
  e.isCollection = true ∧ Payload.normalizeItem e = Payload.normalizeItem cm.entity

/-- What a mutation of the catalogue does to the queries of a kind. -/
inductive Change (cm : CatalogueMutation) (e : Entity) : Patch → Prop where
  /-- A draft is put in front of a list. -/
  | draft {data : Json} (he : cm.Lists e)
    (hdata : ∀ id m, (Item.placeholder id m data).Canonical e) : Change cm e (.prepend data)
  /-- An item is dropped from a list. -/
  | removal (id : String) (he : cm.Lists e) : Change cm e (.remove id)
  /-- An item of a list gets a vote. -/
  | vote (id : String) (d : VoteDirection) (he : cm.Lists e) :
    Change cm e (.increment id d.counter one)
  /-- A counter of a record changes. -/
  | count (id counter : String) (delta : Count) (he : e.isCollection = false) :
    Change cm e (.increment id counter delta)

/-- The patches of the catalogue are of these forms. -/
theorem change_of_mem_patches {cm : CatalogueMutation} {createdAt : String}
    {p : QueryKey × Patch} (hp : p ∈ cm.patches createdAt) : Change cm p.1.entity p.2 := by
  cases cm with
  | createComment projectId content authorId =>
    have hdraft : ∀ id m, (Item.placeholder id m
        (Comment.draft content projectId authorId createdAt)).Canonical .comments :=
      fun id m => Item.canonical_comment_draft id m content projectId authorId createdAt
    rcases List.mem_append.mp hp with hp | hp
    · simp only [List.mem_cons, List.not_mem_nil, or_false] at hp
      rcases hp with rfl | rfl
      · exact .draft ⟨rfl, rfl⟩ hdraft
      · exact .count _ _ _ rfl
    · cases authorId with
      | none => cases hp
      | some author =>
        obtain rfl := List.mem_singleton.mp hp
        exact .draft ⟨rfl, rfl⟩ hdraft
  | deleteComment projectId commentId authorId =>
    rcases List.mem_append.mp hp with hp | hp
    · simp only [List.mem_cons, List.not_mem_nil, or_false] at hp
      rcases hp with rfl | rfl
      · exact .removal _ ⟨rfl, rfl⟩
      · exact .count _ _ _ rfl
    · cases authorId with
      | none => cases hp
      | some author =>
        obtain rfl := List.mem_singleton.mp hp
        exact .removal _ ⟨rfl, rfl⟩
  | voteComment projectId commentId direction =>
    obtain rfl := List.mem_singleton.mp hp
    exact .vote _ _ ⟨rfl, rfl⟩
  | createChainPost chainId title content authorId =>
    simp only [patches, List.mem_cons, List.not_mem_nil, or_false] at hp
    rcases hp with rfl | rfl
    · exact .draft ⟨rfl, rfl⟩ fun id m => Item.canonical_post_draft id m chainId title content authorId
    · exact .count _ _ _ rfl
  | deleteChainPost chainId postId =>
    simp only [patches, List.mem_cons, List.not_mem_nil, or_false] at hp
    rcases hp with rfl | rfl
    · exact .removal _ ⟨rfl, rfl⟩
    · exact .count _ _ _ rfl
  | voteChainPost chainId postId direction =>
    obtain rfl := List.mem_singleton.mp hp
    exact .vote _ _ ⟨rfl, rfl⟩

/-- An item that an answer gives is in canonical form where the mutation puts it. -/
theorem canonical_usableItem {cm : CatalogueMutation} {createdAt : String} {data : Json} {s : Item}
    (hs : (cm.toMutation createdAt).usableItem data = some s) {e : Entity} (he : cm.Lists e) :
    s.Canonical e := by
  rcases exists_normalizeItem_of_authoritative (Mutation.authoritative_of_usableItem hs) with
    ⟨v, hv⟩
  apply Item.canonical_of_normalizeItem
  rw [he.2]
  exact hv

end CatalogueMutation

/-! ## Answers, patches and merges -/

namespace QueryKey

variable {k : QueryKey}

/-- A query is answered with a value of its shape. -/
theorem fits_valueOf {answer : Except BackendFailure Envelope} {v : CacheValue}
    (h : k.valueOf answer = .ok v) : k.Fits v := by
  cases answer with
  | error failure => cases h
  | ok envelope =>
    unfold valueOf Payload.normalizeValue at h
    dsimp only at h
    split at h
    · rename_i hcollection
      split at h
      · rename_i rows hrows
        rcases CacheError.exists_of_map_eq_ok h with ⟨is, his, rfl⟩
        refine ⟨hcollection, ?_⟩
        intro i hi
        rcases Payload.exists_normalizeItem_of_normalizeRows his i hi with ⟨row, hrow⟩
        exact Item.canonical_of_normalizeItem hrow
      · cases h
    · rename_i hcollection
      rcases CacheError.exists_of_map_eq_ok h with ⟨i, _, rfl⟩
      exact Bool.eq_false_iff.mpr hcollection

/-- A patch of the catalogue keeps the shape. -/
theorem keeps_fits_patch {cm : CatalogueMutation} {p : Patch} (hp : cm.Change k.entity p)
    (freshId : String) (m : MutationId) : Keeps Fits k (p.apply freshId m) := by
  intro current v hcurrent hv
  cases Patch.effect_of_apply hv with
  | created hdata =>
    cases hp with
    | draft he hcanonical =>
      cases hdata
      exact ⟨he.1, List.forall_mem_singleton.mpr (hcanonical freshId m)⟩
    | removal | vote | count => cases hdata
  | inserted hdata front back =>
    rcases hcurrent _ rfl with ⟨hcollection, hitems⟩
    cases hp with
    | draft he hcanonical =>
      cases hdata
      refine ⟨hcollection, ?_⟩
      intro i hi
      rcases List.mem_append.mp hi with hi | hi
      · exact hitems i (List.mem_append_left back hi)
      · rcases List.mem_cons.mp hi with rfl | hi
        · exact hcanonical freshId m
        · exact hitems i (List.mem_append_right front hi)
    | removal | vote | count => cases hdata
  | changed id edits items =>
    rcases hcurrent _ rfl with ⟨hcollection, hitems⟩
    refine ⟨hcollection, ?_⟩
    intro i hi
    rcases Item.mem_changeFirst hi with ⟨j, hj, rfl⟩ | hi
    · cases hp with
      | vote id d he => exact (hitems j hj).voted hcollection d _ m
      | count id counter delta he =>
        rw [hcollection] at he
        cases he
    · exact hitems i hi
  | edited item edits => exact hcurrent (.record item) rfl
  | removed id items =>
    rcases hcurrent _ rfl with ⟨hcollection, hitems⟩
    exact ⟨hcollection, fun i hi => hitems i (List.mem_of_mem_eraseP hi)⟩

/-- The merges of a mutation of the catalogue keep the shape: the authoritative item is in
canonical form where lists are merged, and nothing is inserted elsewhere. -/
theorem keeps_fits_merge {cm : CatalogueMutation} {p : Patch} (hp : cm.Change k.entity p)
    (createdAt : String) (data : Json) (m : MutationId) :
    Keeps Fits k (Reconcile.value m p.rule ((cm.toMutation createdAt).usableItem data)) := by
  intro current v hcurrent hv
  rcases current with _ | is | r
  · rcases Reconcile.value_absent hv with ⟨hinsert, s, hs, rfl⟩
    cases hp with
    | draft he hdata =>
      exact ⟨he.1, List.forall_mem_singleton.mpr (CatalogueMutation.canonical_usableItem hs he)⟩
    | removal | vote | count => cases hinsert
  · rcases hcurrent _ rfl with ⟨hcollection, hitems⟩
    have hlists : cm.Lists k.entity := by
      cases hp with
      | draft he hdata => exact he
      | removal id he => exact he
      | vote id d he => exact he
      | count id counter delta he =>
        rw [hcollection] at he
        cases he
    rw [Reconcile.value_present hv]
    refine ⟨hcollection, ?_⟩
    intro i hi
    rcases Reconcile.exists_of_mem_present (v := .list is) hi with ⟨j, hs | hj, hid, hdata⟩
    · exact (CatalogueMutation.canonical_usableItem hs hlists).congr hid hdata
    · exact (hitems j hj).congr hid hdata
  · rw [Reconcile.value_present hv]
    exact hcurrent (.record r) rfl

end QueryKey

/-! ## Runs -/

namespace Traffic

/-- Nothing that a client does changes the shape of the value under a key. -/
theorem preserves_fits : Preserves QueryKey.Fits where
  answered _ _ _ := QueryKey.fits_valueOf
  patched _ _ _ hp freshId m :=
    QueryKey.keeps_fits_patch (CatalogueMutation.change_of_mem_patches hp) freshId m
  merged _ createdAt data _ hp m :=
    QueryKey.keeps_fits_merge (CatalogueMutation.change_of_mem_patches hp) createdAt data m

/-- In every state that a client reaches from an empty store, a key holds a list exactly if it is
for a collection, and reading the data of an item of a list gives the item again, provisional
items included. -/
theorem fits_run (staleTime : Option Nat) (dependencies : DependencyMap) (as : List Action)
    (k : QueryKey) :
    let store := ((idle staleTime dependencies).run as).client.store
    (∀ v, store.peek k = some v → v.isList = k.entity.isCollection) ∧
      ∀ is, store.peek k = some (.list is) → ∀ i ∈ is,
        Payload.normalizeItem k.entity i.data = .ok (Item.new i.id i.data) := by
  intro store
  have hfits : store.All QueryKey.Fits :=
    (all_run preserves_fits (all_idle _ staleTime dependencies) as).stored
  constructor
  · intro v hv
    have hv := hfits k v hv
    cases v with
    | list is => exact hv.1.symm
    | record r => exact (show k.entity.isCollection = false from hv).symm
  · intro is his
    exact (hfits k _ his).2

end Traffic
end OptimisticCache
