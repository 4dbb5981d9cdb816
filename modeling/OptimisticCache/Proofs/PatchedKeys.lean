import OptimisticCache.Proofs.Agenda
import OptimisticCache.Proofs.CommittedLists
/-!
# Patched keys and dependent keys

Two tables name keys of the cache.  The patches of a mutation say which keys show its
provisional value, and the dependencies of its kind say which keys go stale when it
commits.  For the mutations of the catalogue the two name the same keys, in the same
order, and a map that was built upon the standard one only adds to them.  So whatever a
mutation showed before its answer came, or merged when it came, is refetched before it
counts as fresh again.

Main results:

- Theorem {lit}`CatalogueMutation.keys_patches`: the patched keys are those that
  depend on the mutation.
- Theorem {lit}`Client.settle_leavesStale`: a mutation whose patched keys all depend on
  it leaves nothing fresh that it wrote.
- Theorem {lit}`CatalogueMutation.mutate_leavesStale`: both for the catalogue.
-/

namespace OptimisticCache

/-! ## Maps built upon another one -/

namespace DependencyMap

/-- Adding a dependency takes none away. -/
theorem entities_subset_add (d : DependencyMap) (kind kind' : MutationKind) (entity : Entity) :
    d.entities kind ⊆ (d.add kind' entity).entities kind := by
  rw [entities_add]
  split
  · exact List.subset_append_left _ _
  · exact List.Subset.refl _

/-- Additions take no dependency away. -/
theorem entities_subset_addAll (d : DependencyMap) (kind : MutationKind)
    (ps : List (MutationKind × Entity)) : d.entities kind ⊆ (d.addAll ps).entities kind := by
  induction ps generalizing d with
  | nil => exact List.Subset.refl _
  | cons p ps ih =>
    exact List.Subset.trans (entities_subset_add d kind p.1 p.2) (ih (d.add p.1 p.2))

/-- Adding several takes no invalidated key away. -/
theorem keysFor_subset_addAll (d : DependencyMap) (kind : MutationKind) (scope : Scope)
    (ps : List (MutationKind × Entity)) :
    d.keysFor kind scope ⊆ (d.addAll ps).keysFor kind scope :=
  List.filterMap_subset scope.key? (entities_subset_addAll d kind ps)

end DependencyMap

/-- The keys that a mutation of the catalogue patches are those that depend on it by the standard
map, in the same order. -/
theorem CatalogueMutation.keys_patches (cm : CatalogueMutation) (createdAt : String) :
    (cm.patches createdAt).map Prod.fst = DependencyMap.standard.keysFor cm.kind cm.scope := by
  cases cm with
  | createComment projectId content authorId => cases authorId <;> rfl
  | deleteComment projectId commentId authorId => cases authorId <;> rfl
  | voteComment projectId commentId direction => rfl
  | createChainPost chainId title content authorId => rfl
  | deleteChainPost chainId postId => rfl
  | voteChainPost chainId postId direction => rfl

/-! ## What a commit leaves -/

namespace PendingMutation

/-- Only keys of the targets are merged. -/
theorem mem_keys_foldl_mergeTarget {m : MutationId} {authoritative : Option Item} {now : Int}
    {targets : List (QueryKey × MergeRule)} {acc : List QueryKey × Store} {k : QueryKey}
    (h : k ∈ (targets.foldl (mergeTarget m authoritative now) acc).1) :
    k ∈ acc.1 ∨ k ∈ targets.map Prod.fst := by
  induction targets generalizing acc with
  | nil => exact Or.inl h
  | cons target rest ih =>
    rcases ih h with hacc | hrest
    · rw [keys_mergeTarget] at hacc
      split at hacc
      · rcases List.mem_append.mp hacc with hbefore | hself
        · exact Or.inl hbefore
        · exact Or.inr (List.mem_cons.mpr (Or.inl (List.mem_singleton.mp hself)))
      · exact Or.inl hacc
    · exact Or.inr (List.mem_cons_of_mem _ hrest)

variable {p : PendingMutation} {store : Store} {dependencies : DependencyMap}
  {authoritative : Option Item} {now : Int} {k : QueryKey} {e : Entry}

/-- What depends on a mutation is stale once it is committed. -/
theorem stale_of_commit (h : p.state = .pending) (hk : k ∈ dependencies.keysFor p.kind p.scope)
    (he : (p.commit store dependencies authoritative now).2.2.entryAt? k = some e) :
    e.stale = true := by
  rw [commit_store h, Store.entryAt?_invalidateAll, decide_eq_true hk] at he
  rcases Option.map_eq_some_iff.mp he with ⟨merged, _, rfl⟩
  exact Bool.or_true merged.stale

end PendingMutation

/-- What a committed mutation leaves of the keys that it wrote, given the store before and the
store after: those that it patched and those that it merged are stale if they are cached, and
whatever is not stale was there before. -/
structure MutationOutcome.LeavesStale (outcome : MutationOutcome) (patched : List QueryKey)
    (before after : Store) : Prop where
  patched : ∀ k ∈ patched, ∀ e, after.entryAt? k = some e → e.stale = true
  merged : ∀ k ∈ outcome.settlement.reconciled, ∀ e, after.entryAt? k = some e → e.stale = true
  rest : ∀ k e, after.entryAt? k = some e → e.stale = true ∨ before.entryAt? k = some e

namespace Client

variable {c : Client} {f : InFlight}

/-- A mutation that is out and whose patched keys all depend on it commits when its request
succeeds, and leaves nothing fresh that it wrote. -/
theorem settle_leavesStale (hpending : f.pending.state = .pending)
    (hcovered : f.pending.targets.map Prod.fst ⊆
      c.dependencies.keysFor f.pending.kind f.pending.scope) (envelope : Envelope) (now : Int) :
    let r := c.settle f (.ok envelope) now
    ∃ outcome, r.1 = .ok outcome ∧
      outcome.LeavesStale (f.pending.targets.map Prod.fst) c.store r.2.store := by
  intro r
  let item := f.mutation.usableItem envelope.data
  have hreport := PendingMutation.commit_report hpending c.store c.dependencies item now
  have hr : r = _ := settle_of_commit (Prod.ext hreport rfl)
  have hstale : ∀ k ∈ c.dependencies.keysFor f.pending.kind f.pending.scope, ∀ e,
      r.2.store.entryAt? k = some e → e.stale = true := by
    intro k hk e he
    rw [hr] at he
    exact PendingMutation.stale_of_commit hpending hk he
  refine ⟨_, congrArg Prod.fst hr, ?_, ?_, ?_⟩
  · intro k hk
    exact hstale k (hcovered hk)
  · intro k hk
    rcases PendingMutation.mem_keys_foldl_mergeTarget hk with hnone | htarget
    · cases hnone
    · exact hstale k (hcovered htarget)
  · intro k e he
    by_cases hk : k ∈ c.dependencies.keysFor f.pending.kind f.pending.scope
    · exact Or.inl (hstale k hk e he)
    · right
      rw [hr] at he
      rw [← he]
      exact (PendingMutation.entryAt?_commit_of_not_mem hpending (fun h => hk (hcovered h)) hk).symm

/-- A mutation that runs on its own and succeeds leaves nothing fresh that it wrote, if its
patched keys all depend on it. -/
theorem mutate_leavesStale_of_subset {m : Mutation} {b : Backend} {now : Int}
    {outcome : MutationOutcome}
    (hcovered : m.patches.map Prod.fst ⊆ c.dependencies.keysFor m.kind m.scope)
    (h : (c.mutate b m now).1 = .ok outcome) :
    outcome.LeavesStale (m.patches.map Prod.fst) c.store (c.mutate b m now).2.store := by
  let l := c.launchOf m now
  have htargets := l.targets_keys c.store
  have hmutate : c.mutate b m now =
      (c.waiting m now).settle ⟨m, l.pending c.store⟩ (b.send m.request) now := rfl
  cases hsend : b.send m.request with
  | error failure =>
    rw [mutate_of_error hsend] at h
    cases h
  | ok envelope =>
    obtain ⟨outcome', hok, hleaves⟩ :=
      settle_leavesStale (c := c.waiting m now) (f := ⟨m, l.pending c.store⟩) rfl
        (htargets ▸ hcovered) envelope now
    rw [hmutate, hsend] at h ⊢
    obtain rfl : outcome' = outcome := Except.ok.inj (hok.symm.trans h)
    rw [htargets] at hleaves
    refine ⟨hleaves.patched, hleaves.merged, ?_⟩
    intro k e he
    by_cases hk : k ∈ m.patches.map Prod.fst
    · exact Or.inl (hleaves.patched k hk e he)
    · -- while the request was out, a key that is not patched kept its entry
      have hunchanged : l.changes c.store k = false := by
        rw [Bool.eq_false_iff]
        intro hchanged
        exact hk (Provisional.mem_keys_of_changes hchanged)
      rw [← Launch.entryAt?_store_of_not_changes hunchanged]
      exact hleaves.rest k e he

end Client

namespace CatalogueMutation

/-- For every mutation of the catalogue, the patched keys are those that depend on it by the
standard map, in order and without repetition.  So with a map that was built upon the standard
one, a mutation that succeeds leaves nothing fresh that it patched or merged, whether it runs on
its own or anything else happens while its request is out. -/
theorem mutate_leavesStale (cm : CatalogueMutation) (createdAt : String) :
    let m := cm.toMutation createdAt
    let keys := m.patches.map Prod.fst
    keys = DependencyMap.standard.keysFor cm.kind cm.scope ∧ keys.Nodup ∧
      ∀ (ps : List (MutationKind × Entity)) (c : Client),
        c.dependencies = DependencyMap.standard.addAll ps →
          (∀ b now outcome, (c.mutate b m now).1 = .ok outcome →
            outcome.LeavesStale keys c.store (c.mutate b m now).2.store) ∧
          ∀ (starting : Client) started envelope now,
            let r := c.settle (starting.start m started).1 (.ok envelope) now
            ∃ outcome, r.1 = .ok outcome ∧ outcome.LeavesStale keys c.store r.2.store := by
  intro m keys
  have hkeys : keys = DependencyMap.standard.keysFor cm.kind cm.scope := keys_patches cm createdAt
  refine ⟨hkeys, nodup_keys_patches cm createdAt, ?_⟩
  intro ps c hdependencies
  have hcovered : keys ⊆ c.dependencies.keysFor m.kind m.scope := by
    rw [hkeys, hdependencies]
    exact DependencyMap.keysFor_subset_addAll _ _ _ ps
  constructor
  · intro b now outcome h
    exact Client.mutate_leavesStale_of_subset hcovered h
  · intro starting started envelope now
    let f := (starting.start m started).1
    have htargets : f.pending.targets.map Prod.fst = keys :=
      (starting.launchOf m started).targets_keys starting.store
    have hsettled := Client.settle_leavesStale (c := c) (f := f) rfl
      (by rw [htargets]; exact hcovered) envelope now
    rw [htargets] at hsettled
    exact hsettled

/-- An author's comment makes a list of the comments of the author, which is cached and stale. -/
theorem mutate_leavesStale_authored :
    let cm := CatalogueMutation.createComment "p1" "hi" (some "u1")
    let c : Client :=
      { store := (Store.empty none).set (.comments "p1") (.list []) 0
        dependencies := DependencyMap.standard.addAll [(.createComment, .chain)] }
    let b := Backend.answering (.ok (Envelope.ok .null))
    (∃ outcome, (c.mutate b (cm.toMutation "now") 1).1 = .ok outcome ∧
        outcome.LeavesStale ((cm.toMutation "now").patches.map Prod.fst) c.store
          (c.mutate b (cm.toMutation "now") 1).2.store) ∧
      ((c.mutate b (cm.toMutation "now") 1).2.store.entryAt? (.userComments "u1")).map
        Entry.stale = some true := by
  intro cm c b
  rcases Client.mutate_of_ok c (b := b) (m := cm.toMutation "now") rfl 1 with
    ⟨settlement, _, _, hmutate⟩
  have hok := congrArg Prod.fst hmutate
  obtain ⟨_, _, hleaves⟩ := mutate_leavesStale cm "now"
  obtain ⟨halone, _⟩ := hleaves [(.createComment, .chain)] c rfl
  exact ⟨⟨_, hok, halone b 1 _ hok⟩, by decide +kernel⟩

end CatalogueMutation
end OptimisticCache
