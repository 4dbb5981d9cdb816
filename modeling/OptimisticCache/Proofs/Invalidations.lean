import Mathlib.Data.List.Nodup
import OptimisticCache.Proofs.PatchedKeys
import OptimisticCache.Proofs.StaleRestores
/-!
# What a commit invalidates

A commit works off two lists of keys.  It merges the answer into the targets of the
mutation, and then it invalidates the keys that depend on it.  The lists overlap as
they like, and a merge may bring in the very entry that is invalidated next.

The two do not get in each other's way.  A merge keeps the stale bit of an entry, an
entry that it brings in is fresh, and it leaves the subscriptions and the scheduled
keys alone; an invalidation brings in no entry and takes none away.  So what becomes
of a dependent key can be read off the subscriptions before the commit and the entries
after the merge, and no key occurs twice because no kind of query does.

Main results:

- Theorem {lit}`DependencyMap.nodup_keysFor`: dependent keys are distinct.
- Theorem {lit}`PendingMutation.commit_invalidates`: what a commit reports of the
  dependent keys, and what becomes of these and of all other keys.
-/

namespace OptimisticCache

/-! ## Dependent keys -/

namespace DependencyMap

/-- The maps that can be built: from the empty map or the standard one, by additions. -/
inductive Built : DependencyMap → Prop
  | empty : Built empty
  | standard : Built standard
  | add {d : DependencyMap} (hd : Built d) (kind : MutationKind) (entity : Entity) :
      Built (d.add kind entity)

variable {d : DependencyMap}

/-- A map that was built names no kind of query twice. -/
theorem Built.nodup_entities (hd : d.Built) (kind : MutationKind) : (d.entities kind).Nodup := by
  induction hd with
  | empty => exact List.nodup_nil
  | standard => cases kind <;> decide
  | add _ kind' entity ih => exact nodup_entities_add ih kind' entity

/-- The key of a kind within a scope is of the kind. -/
theorem entity_of_key? {scope : Scope} {entity : Entity} {k : QueryKey}
    (h : scope.key? entity = some k) : k.entity = entity := by
  obtain ⟨id, -, rfl⟩ := Option.map_eq_some_iff.mp h
  rfl

/-- Dependent keys are distinct: different kinds of queries have different keys. -/
theorem nodup_keysFor (hd : d.Built) (kind : MutationKind) (scope : Scope) :
    (d.keysFor kind scope).Nodup := by
  apply List.Nodup.filterMap _ (hd.nodup_entities kind)
  intro entity entity' k hk hk'
  rw [← entity_of_key? hk, entity_of_key? hk']

end DependencyMap

/-! ## Merges and the entries -/

namespace Store

variable {s : Store} {k : QueryKey}

/-- A merge takes no entry away. -/
theorem contains_merge (h : s.contains k = true) (m : MutationId) (authoritative : Option Item)
    (now : Int) (target : QueryKey × MergeRule) :
    (s.merge m authoritative now target).contains k = true := by
  unfold contains
  rw [merge, entryAt?_replaceWith]
  split
  · rename_i hk
    subst hk
    split
    · rfl
    · exact h
  · exact h

/-- Merging takes no cached key away. -/
theorem contains_mergeAll (h : s.contains k = true) (m : MutationId) (authoritative : Option Item)
    (now : Int) (targets : List (QueryKey × MergeRule)) :
    (s.mergeAll m authoritative now targets).contains k = true := by
  induction targets generalizing s with
  | nil => exact h
  | cons target rest ih => exact ih (contains_merge h m authoritative now target)

/-- The stale bit of a cached key is that of its entry. -/
theorem staleBit_of_eq_some {e : Entry} (h : s.entryAt? k = some e) : s.staleBit k = e.stale := by
  rw [staleBit, h]
  rfl

/-- Invalidations bring in no entry and take none away. -/
theorem contains_invalidateAll (s : Store) (ks : List QueryKey) (k : QueryKey) :
    (s.invalidateAll ks).contains k = s.contains k := by
  unfold contains
  rw [entryAt?_invalidateAll, Option.isSome_map]

/-- A refetch is reported exactly if someone subscribes to the key. -/
theorem invalidate_eq_refetchScheduled_iff (s : Store) (k : QueryKey) :
    (s.invalidate k).1 = .refetchScheduled ↔ 0 < s.subscriberCount k := by
  rw [invalidate_outcome]
  split
  · simp [*]
  · split <;> simp [*]

end Store

/-! ## Commits -/

/-- What a commit tells of the dependent keys, and what becomes of them and of all others, given
the stores before the commit, after its merges and after it. -/
structure Settlement.Invalidates (settlement : Settlement) (keys : List QueryKey)
    (before merged after : Store) : Prop where
  /-- The report lists the dependent keys in their order. -/
  listed : settlement.invalidated.map Prod.fst = keys
  nodup : keys.Nodup
  outcome : ∀ k o, (k, o) ∈ settlement.invalidated →
    o = if 0 < before.subscriberCount k then .refetchScheduled
      else if merged.contains k then .markedStale
      else .absent
  refetch_iff : ∀ k, settlement.refetchScheduled k = true ↔ k ∈ keys ∧ 0 < before.subscriberCount k
  /-- What is cached after the merges is what is cached in the end. -/
  cached : ∀ k, after.contains k = merged.contains k
  stale : ∀ k ∈ keys, ∀ e, after.entryAt? k = some e → e.stale = true
  scheduled : ∀ k ∈ keys, 0 < before.subscriberCount k → after.isScheduled k = true
  /-- The slot of a key that is not listed, and its entry if there was one, are as before. -/
  unlisted : ∀ k ∉ keys, after.isScheduled k = before.isScheduled k ∧
    ∀ e, before.entryAt? k = some e → ∃ e', after.entryAt? k = some e' ∧ e'.stale = e.stale
  /-- An entry that the merge brought in, under a key that is not listed, is fresh. -/
  created : ∀ k ∉ keys, before.entryAt? k = none → ∀ e, after.entryAt? k = some e → e.stale = false

namespace PendingMutation

variable {p : PendingMutation} {store : Store} {dependencies : DependencyMap}
  {authoritative : Option Item} {now : Int} {k : QueryKey}

/-- After a commit those keys are cached that the merges left cached. -/
theorem contains_commit (h : p.state = .pending) (k : QueryKey) :
    (p.commit store dependencies authoritative now).2.2.contains k =
      (store.mergeAll p.id authoritative now p.targets).contains k := by
  rw [commit_store h, Store.contains_invalidateAll]

/-- The stale bit of a key that does not depend on the mutation is kept. -/
theorem staleBit_commit_of_not_mem (h : p.state = .pending)
    (hk : k ∉ dependencies.keysFor p.kind p.scope) :
    (p.commit store dependencies authoritative now).2.2.staleBit k = store.staleBit k := by
  rw [staleBit_commit h]
  simp [hk]

/-- An entry stays, with its stale bit, unless its key depends on the mutation. -/
theorem exists_entryAt?_commit (h : p.state = .pending)
    (hk : k ∉ dependencies.keysFor p.kind p.scope) {e : Entry} (he : store.entryAt? k = some e) :
    ∃ e', (p.commit store dependencies authoritative now).2.2.entryAt? k = some e' ∧
      e'.stale = e.stale := by
  have hcached : (p.commit store dependencies authoritative now).2.2.contains k = true := by
    rw [contains_commit h]
    exact Store.contains_mergeAll (by simp [Store.contains, he]) _ _ _ _
  obtain ⟨e', he'⟩ := Option.isSome_iff_exists.mp hcached
  refine ⟨e', he', ?_⟩
  rw [← Store.staleBit_of_eq_some he', ← Store.staleBit_of_eq_some he]
  exact staleBit_commit_of_not_mem h hk

/-- Whatever a pending mutation merges, its commit lists the keys that depend on it, each once and
in the order of the map, and tells of each whether a refetch was scheduled, which takes a
subscription, or else whether it is cached after the merges.  Every listed key that is cached is
stale and every one with a subscription is scheduled; of all other keys neither the stale bit nor
the refetch slot has changed, and an entry that the merge brought in is fresh. -/
theorem commit_invalidates (p : PendingMutation) (store : Store) (d : DependencyMap)
    (authoritative : Option Item) (now : Int) (hp : p.state = .pending) (hd : d.Built) :
    let r := p.commit store d authoritative now
    ∃ settlement, r.1 = .ok settlement ∧
      settlement.Invalidates (d.keysFor p.kind p.scope) store
        (store.mergeAll p.id authoritative now p.targets) r.2.2 := by
  intro r
  let merged := store.mergeAll p.id authoritative now p.targets
  have hcount : ∀ k, merged.subscriberCount k = store.subscriberCount k :=
    Store.subscriberCount_mergeAll store _ _ _ _
  refine ⟨_, commit_report hp store d authoritative now, ?_⟩
  constructor
  case listed => simp [Function.comp_def]
  case nodup => exact DependencyMap.nodup_keysFor hd p.kind p.scope
  case outcome =>
    intro k o ho
    obtain ⟨k', -, heq⟩ := List.mem_map.mp ho
    obtain ⟨rfl, rfl⟩ := Prod.mk.inj heq
    rw [← hcount k']
    exact Store.invalidate_outcome merged k'
  case refetch_iff =>
    intro k
    rw [← hcount k, ← Store.invalidate_eq_refetchScheduled_iff]
    simp only [Settlement.refetchScheduled, List.any_map, List.any_eq_true, Function.comp_apply,
      Bool.and_eq_true, decide_eq_true_eq]
    constructor
    · rintro ⟨k', hk', rfl, houtcome⟩
      exact ⟨hk', houtcome⟩
    · rintro ⟨hk, houtcome⟩
      exact ⟨k, hk, rfl, houtcome⟩
  case cached => exact contains_commit hp
  case stale =>
    intro k hk e he
    exact stale_of_commit hp hk he
  case scheduled =>
    intro k hk hsubscribed
    rw [isScheduled_commit hp]
    simp [hk, hsubscribed]
  case unlisted =>
    intro k hk
    refine ⟨?_, fun e he => exists_entryAt?_commit hp hk he⟩
    rw [isScheduled_commit hp]
    simp [hk]
  case created =>
    intro k hk hnone e he
    rw [← Store.staleBit_of_eq_some he, staleBit_commit_of_not_mem hp hk]
    simp [Store.staleBit, hnone]

/-- A comment of a user is created while somebody looks at the project.  The merge brings in the
list of the project, which is listed as well and thus stale, and a list of posts, which is not. -/
theorem commit_invalidates_created :
    let posts := QueryKey.chainPosts "ch1"
    let p : PendingMutation :=
      ⟨⟨1⟩, .createComment, .ofProject "p1" (some "u1"),
        [(.comments "p1", .insert), (posts, .insert)], none, .pending⟩
    let store := ((Store.empty none).set (.project "p1") (.record (Item.new "p1" .null)) 0).perform
      (.subscribe (.project "p1"))
    let d := DependencyMap.standard.add .createComment .chain
    let created := some (Item.new "c1" .null)
    p.state = .pending ∧ d.Built ∧
    ∃ settlement, (p.commit store d created 1).1 = .ok settlement ∧
      settlement.Invalidates (d.keysFor p.kind p.scope) store
        (store.mergeAll p.id created 1 p.targets) (p.commit store d created 1).2.2 ∧
      settlement.invalidated =
        [(.comments "p1", .markedStale), (.project "p1", .refetchScheduled),
          (.userComments "u1", .absent)] ∧
      (p.commit store d created 1).2.2.staleBit (.comments "p1") = true ∧
      (p.commit store d created 1).2.2.entryAt? posts =
        some ⟨.list [Item.new "c1" .null], 1, false⟩ := by
  intro posts p store d created
  have hd : d.Built := .add .standard _ _
  obtain ⟨settlement, hok, hinvalidates⟩ := commit_invalidates p store d created 1 rfl hd
  refine ⟨rfl, hd, settlement, hok, hinvalidates, ?_, by decide +kernel, by decide +kernel⟩
  obtain rfl := Except.ok.inj (hok.symm.trans (commit_report rfl store d created 1))
  decide +kernel

end PendingMutation
end OptimisticCache
