import OptimisticCache.Proofs.StaleRestores
import OptimisticCache.Proofs.Twins
/-!
# What a mutation leaves on its footprint

The footprint of a mutation are the keys that it patches and the keys that depend on
it.  What a mutation leaves there, and what its settlement reports, is decided by the
entries that it found there when it began, and by the subscriptions.  It does not
matter what the mutation is called, which placeholders it drew, when its steps were
taken, and what happened under other keys in between.

To say so, the mutation is compared with the one that runs on its own: the same patches
are begun and settled at once.

Main results:

- Theorem {lit}`Task.waits_begin`: on the footprint, a begin leaves the twin of what the
  lone mutation begins.
- Theorem {lit}`Task.Waits.settle`: once settled, both have left the same values and stale
  bits there, and report the same.
-/

namespace OptimisticCache

/-! ## Two stores -/

/-- Under some keys, two stores hold twins. -/
def Store.Twin (next : Nat) (m m' : MutationId) (ks : List QueryKey) (s s' : Store) : Prop :=
  ∀ k ∈ ks, Option.Rel (CacheValue.Twin next m m') (s.peek k) (s'.peek k)

variable {next : Nat} {m m' : MutationId} {ks : List QueryKey}

/-- The first of two values that is there has the twin that stands in its place. -/
theorem rel_or {v v' w w' : Option CacheValue} (h : Option.Rel (CacheValue.Twin next m m') v v')
    (h' : Option.Rel (CacheValue.Twin next m m') w w') :
    Option.Rel (CacheValue.Twin next m m') (v.or w) (v'.or w') := by
  cases h with
  | none => exact h'
  | some h => exact .some h

/-- A value is there exactly if its twin is. -/
theorem isSome_eq_of_rel {v v' : Option CacheValue}
    (h : Option.Rel (CacheValue.Twin next m m') v v') : v.isSome = v'.isSome := by
  cases h <;> rfl

/-- Replacements that leave twins under their key leave twins under all keys. -/
theorem Store.Twin.replaceWith {s s' : Store} (h : s.Twin next m m' ks s') {k : QueryKey}
    {update update' : Option CacheValue → Option CacheValue}
    (hrel : Option.Rel (CacheValue.Twin next m m') ((update (s.peek k)).or (s.peek k))
      ((update' (s'.peek k)).or (s'.peek k))) (now now' : Int) :
    (s.replaceWith k update now).2.Twin next m m' ks (s'.replaceWith k update' now').2 := by
  intro k' hk'
  by_cases hk : k' = k
  · subst hk
    rw [peek_replaceWith_self, peek_replaceWith_self]
    exact hrel
  · rw [peek_replaceWith_of_ne hk, peek_replaceWith_of_ne hk]
    exact h k' hk'

/-! ## A begin in two stores -/

namespace Provisional

/-- What has been begun of one mutation in two stores. -/
structure Begun.Twin (next : Nat) (m m' : MutationId) (ks : List QueryKey) (b b' : Begun) :
    Prop where
  store : b.store.Twin next m m' ks b'.store
  keys : b.snapshot.keys = b'.snapshot.keys
  drawn : next ≤ b.nextPlaceholder
  drawn' : next ≤ b'.nextPlaceholder

variable {b b' : Begun} {p : QueryKey × Patch} {ps : List (QueryKey × Patch)}

/-- One patch on both sides. -/
theorem Begun.Twin.applyOne (h : b.Twin next m m' ks b') (hp : p.1 ∈ ks)
    (hid : ∀ id, p.2.names? = some id → Item.NotDrawn next id) (now now' : Int) :
    (applyOne m now b p).Twin next m m' ks (Provisional.applyOne m' now' b' p) := by
  have hpatched := Patch.twin_apply hid h.drawn h.drawn' (h.store p.1 hp)
  have heffect : takesEffect m b p = takesEffect m' b' p := isSome_eq_of_rel hpatched
  constructor
  · rw [store_applyOne, store_applyOne]
    exact h.store.replaceWith (rel_or hpatched (h.store p.1 hp)) now now'
  · rw [snapshot_applyOne, snapshot_applyOne, ← heffect]
    split
    · rw [Snapshot.keys_record, Snapshot.keys_record, h.keys]
    · exact h.keys
  · exact Nat.le_trans h.drawn (nextPlaceholder_le_applyOne m now b p)
  · exact Nat.le_trans h.drawn' (nextPlaceholder_le_applyOne m' now' b' p)

/-- All patches on both sides. -/
theorem Begun.Twin.foldl (h : b.Twin next m m' ks b') (hps : ∀ p ∈ ps, p.1 ∈ ks)
    (hid : ∀ p ∈ ps, ∀ id, p.2.names? = some id → Item.NotDrawn next id) (now now' : Int) :
    (ps.foldl (Provisional.applyOne m now) b).Twin next m m' ks
      (ps.foldl (Provisional.applyOne m' now') b') := by
  induction ps generalizing b b' with
  | nil => exact h
  | cons p ps ih =>
    rcases List.forall_mem_cons.mp hps with ⟨hp, hrest⟩
    rcases List.forall_mem_cons.mp hid with ⟨hpid, hrestid⟩
    exact ih (h.applyOne hp hpid now now') hrest hrestid

/-- Patches keep the stale bit. -/
theorem staleBit_begin (store : Store) (n : Nat) (m : MutationId) (ps : List (QueryKey × Patch))
    (now : Int) (k : QueryKey) : (begin store n m ps now).store.staleBit k = store.staleBit k := by
  have hfold : ∀ b : Begun, (ps.foldl (Provisional.applyOne m now) b).store.staleBit k =
      b.store.staleBit k := by
    induction ps with
    | nil => exact fun _ => rfl
    | cons p ps ih =>
      intro b
      rw [List.foldl_cons, ih, store_applyOne, Store.staleBit_replaceWith]
  exact hfold _

end Provisional

/-! ## A commit in two stores -/

namespace PendingMutation

variable {authoritative : Option Item} {acc acc' : List QueryKey × Store}
  {target : QueryKey × MergeRule} {targets : List (QueryKey × MergeRule)}

section Merges

variable (hs : ∀ s, authoritative = some s → s.marker = none ∧ Item.NotDrawn next s.id)

include hs

/-- One merge of a commit on both sides. -/
theorem twin_mergeTarget (hkeys : acc.1 = acc'.1) (h : acc.2.Twin next m m' ks acc'.2)
    (htarget : target.1 ∈ ks) (hid : ∀ id, target.2.names? = some id → Item.NotDrawn next id)
    (now now' : Int) :
    (mergeTarget m authoritative now acc target).1 =
        (mergeTarget m' authoritative now' acc' target).1 ∧
      (mergeTarget m authoritative now acc target).2.Twin next m m' ks
        (mergeTarget m' authoritative now' acc' target).2 ∧
      ∀ k, (k = target.1 ∨ acc.2.peek k = acc'.2.peek k) →
        (mergeTarget m authoritative now acc target).2.peek k =
          (mergeTarget m' authoritative now' acc' target).2.peek k := by
  rcases Reconcile.value_eq_of_twin hid hs (h target.1 htarget) with ⟨hsome, heq, hrel⟩
  rw [keys_mergeTarget, keys_mergeTarget, store_mergeTarget, store_mergeTarget]
  refine ⟨?_, h.replaceWith hrel now now', ?_⟩
  · rw [hkeys, hsome]
  · intro k hk
    by_cases hkey : k = target.1
    · subst hkey
      rw [Store.peek_merge_self, Store.peek_merge_self]
      exact heq
    · rw [Store.peek_merge_of_ne hkey, Store.peek_merge_of_ne hkey]
      exact hk.resolve_left hkey

/-- The merges of a commit on both sides note the same keys, and leave the same value of each key
that is merged. -/
theorem twin_foldl_mergeTarget (hkeys : acc.1 = acc'.1) (h : acc.2.Twin next m m' ks acc'.2)
    (htargets : ∀ target ∈ targets, target.1 ∈ ks)
    (hids : ∀ target ∈ targets, ∀ id, target.2.names? = some id → Item.NotDrawn next id)
    (now now' : Int) :
    (targets.foldl (mergeTarget m authoritative now) acc).1 =
        (targets.foldl (mergeTarget m' authoritative now') acc').1 ∧
      ∀ k, (k ∈ targets.map Prod.fst ∨ acc.2.peek k = acc'.2.peek k) →
        (targets.foldl (mergeTarget m authoritative now) acc).2.peek k =
          (targets.foldl (mergeTarget m' authoritative now') acc').2.peek k := by
  induction targets generalizing acc acc' with
  | nil => exact ⟨hkeys, fun k hk => hk.resolve_left List.not_mem_nil⟩
  | cons target rest ih =>
    rcases List.forall_mem_cons.mp htargets with ⟨htarget, hrest⟩
    rcases List.forall_mem_cons.mp hids with ⟨hid, hrestids⟩
    rcases twin_mergeTarget hs hkeys h htarget hid now now' with ⟨hkeys', h', hpeek⟩
    rcases ih hkeys' h' hrest hrestids with ⟨hfinal, hfinalpeek⟩
    refine ⟨hfinal, ?_⟩
    intro k hk
    apply hfinalpeek
    rcases hk with hk | hk
    · rcases List.mem_cons.mp hk with hk | hk
      · exact Or.inr (hpeek k (Or.inl hk))
      · exact Or.inl hk
    · exact Or.inr (hpeek k (Or.inr hk))

/-- Merging into twin stores reports the same keys and makes the targets equal. -/
theorem twin_mergeAll {s s' : Store} (h : s.Twin next m m' ks s')
    (htargets : ∀ target ∈ targets, target.1 ∈ ks)
    (hids : ∀ target ∈ targets, ∀ id, target.2.names? = some id → Item.NotDrawn next id)
    (now now' : Int) :
    (targets.foldl (mergeTarget m authoritative now) ([], s)).1 =
        (targets.foldl (mergeTarget m' authoritative now') ([], s')).1 ∧
      ∀ k, (k ∈ targets.map Prod.fst ∨ s.peek k = s'.peek k) →
        (s.mergeAll m authoritative now targets).peek k =
          (s'.mergeAll m' authoritative now' targets).peek k := by
  have hempty : (([], s) : List QueryKey × Store).1 = (([], s') : List QueryKey × Store).1 := rfl
  rcases twin_foldl_mergeTarget hs hempty h htargets hids now now' with ⟨hkeys, hpeek⟩
  rw [store_foldl_mergeTarget, store_foldl_mergeTarget] at hpeek
  exact ⟨hkeys, hpeek⟩

end Merges

/-- What a rollback reports. -/
theorem rollback_report {p : PendingMutation} {snapshot : Snapshot} (hp : p.state = .pending)
    (hsnapshot : p.snapshot = some snapshot) (s : Store) :
    (p.rollback s).1 = .ok ⟨p.id, .rolledBack, snapshot.keys, []⟩ := by
  simp [rollback, hp, hsnapshot, MutationState.isPending, Snapshot.restore]

end PendingMutation

/-! ## A mutation from its begin to its end -/

/-- How a mutation settles. -/
inductive Ending where
  | commit (authoritative : Option Item)
  | rollback

/-- What a settlement says, whatever the mutation was called. -/
def Settlement.Agrees (x y : Settlement) : Prop :=
  x.state = y.state ∧ x.reconciled = y.reconciled ∧ x.invalidated = y.invalidated

/-- Settle a mutation. -/
def Ending.settle : Ending → PendingMutation → Store → DependencyMap → Int →
    Except CacheError Settlement × PendingMutation × Store
  | commit authoritative, p, store, dependencies, now => p.commit store dependencies authoritative now
  | rollback, p, store, _, _ => p.rollback store

/-- What a mutation is begun with and how it settles. -/
structure Task where
  kind : MutationKind
  scope : Scope
  patches : List (QueryKey × Patch)
  ending : Ending

namespace Task

/-- The keys that the mutation patches and the keys that depend on it. -/
def footprint (t : Task) (dependencies : DependencyMap) : List QueryKey :=
  t.patches.map Prod.fst ++ dependencies.keysFor t.kind t.scope

/-- The ids that the patches and the merges look for. -/
def Names (t : Task) (id : String) : Prop :=
  (∃ p ∈ t.patches, p.2.names? = some id) ∨ ∃ s, t.ending = .commit (some s) ∧ s.id = id

/-- The authoritative item is not provisional, if there is one, and nothing has the id of a
placeholder that is still to be drawn. -/
structure Sound (t : Task) (next : Nat) : Prop where
  unmarked : ∀ s, t.ending = .commit (some s) → s.marker = none
  names : ∀ id, t.Names id → Item.NotDrawn next id

/-- The begin of the mutation. -/
def launch (t : Task) (c : Client) (now : Int) : Launch :=
  c.launch t.kind t.scope t.patches now

/-- The mutation that runs on its own, once it has begun. -/
def alone (t : Task) (c : Client) : PendingMutation :=
  (t.launch c 0).pending c.store

/-- The store while the mutation runs on its own. -/
def aloneStore (t : Task) (c : Client) : Store :=
  (t.launch c 0).store c.store

/-- The mutation that runs on its own, settled. -/
def aloneSettled (t : Task) (c : Client) :
    Except CacheError Settlement × PendingMutation × Store :=
  t.ending.settle (t.alone c) (t.aloneStore c) c.dependencies 0

/-- A mutation that has begun on its footprint as it would have on its own, and has not settled. -/
structure Waits (t : Task) (c : Client) (p : PendingMutation) (s : Store) : Prop where
  kind : p.kind = t.kind
  scope : p.scope = t.scope
  targets : p.targets = t.patches.map fun q => (q.1, q.2.rule)
  state : p.state = .pending
  /-- The values are those of the lone mutation, up to markers and placeholders. -/
  twin : s.Twin c.nextPlaceholder p.id (t.alone c).id (t.footprint c.dependencies) (t.aloneStore c)
  /-- What is not patched is as it was. -/
  unpatched : ∀ k ∈ t.footprint c.dependencies, k ∉ t.patches.map Prod.fst →
    s.peek k = c.store.peek k
  stale : ∀ k ∈ t.footprint c.dependencies, s.staleBit k = c.store.staleBit k
  /-- The keys that a rollback puts back. -/
  recorded : ∃ snapshot, p.snapshot = some snapshot ∧ snapshot.keys.Nodup ∧
    (∀ k ∈ snapshot.keys, k ∈ t.patches.map Prod.fst) ∧
    snapshot.keys = ((t.launch c 0).snapshot c.store).keys
  /-- A rollback puts them back as they were. -/
  undone : ∀ s', ∀ k ∈ t.footprint c.dependencies, s'.entryAt? k = s.entryAt? k →
    (p.rollback s').2.2.entryAt? k = c.store.entryAt? k

variable {t : Task} {c c' : Client} {p : PendingMutation} {s s' : Store} {k : QueryKey}

/-- The patched keys are part of the footprint. -/
theorem mem_footprint_of_patched {dependencies : DependencyMap} (h : k ∈ t.patches.map Prod.fst) :
    k ∈ t.footprint dependencies :=
  List.mem_append_left _ h

/-- So are the keys that are invalidated. -/
theorem mem_footprint_of_dependent {dependencies : DependencyMap}
    (h : k ∈ dependencies.keysFor t.kind t.scope) : k ∈ t.footprint dependencies :=
  List.mem_append_right _ h

/-- A mutation that finds its footprint as it was begins there as it would on its own. -/
theorem waits_begin (hc : c.store.Unmarked) (ht : t.Sound c.nextPlaceholder)
    (hnext : c.nextPlaceholder ≤ c'.nextPlaceholder)
    (hsame : ∀ k ∈ t.footprint c.dependencies, c'.store.entryAt? k = c.store.entryAt? k)
    (now : Int) :
    t.Waits c ((t.launch c' now).pending c'.store) ((t.launch c' now).store c'.store) := by
  let l := t.launch c' now
  have hpeek : ∀ k ∈ t.footprint c.dependencies, c'.store.peek k = c.store.peek k :=
    fun k hk => Store.peek_of_entryAt? (hsame k hk)
  have hpatched : ∀ q ∈ t.patches, q.1 ∈ t.footprint c.dependencies :=
    fun q hq => mem_footprint_of_patched (List.mem_map_of_mem hq)
  have hbegun : (Provisional.begin c'.store c'.nextPlaceholder l.id t.patches now).Twin
      c.nextPlaceholder l.id (t.launch c 0).id (t.footprint c.dependencies)
      (Provisional.begin c.store c.nextPlaceholder (t.launch c 0).id t.patches 0) := by
    apply Provisional.Begun.Twin.foldl _ hpatched
      (fun q hq id hid => ht.names id (Or.inl ⟨q, hq, hid⟩))
    refine ⟨?_, rfl, hnext, Nat.le_refl _⟩
    intro k hk
    change Option.Rel _ (c'.store.peek k) (c.store.peek k)
    rw [hpeek k hk]
    exact rel_twin_self (hc k)
  constructor
  · rfl
  · rfl
  · rfl
  · rfl
  · rw [alone, Launch.pending_id, Launch.pending_id]
    exact hbegun.store
  · intro k hk hunpatched
    rw [← hpeek k hk]
    exact Provisional.peek_foldl_of_not_mem hunpatched _
  · intro k hk
    rw [← Store.staleBit_of_entryAt? (hsame k hk)]
    exact Provisional.staleBit_begin c'.store _ _ _ _ k
  · refine ⟨l.snapshot c'.store, rfl, Provisional.nodup_keys_begin _ _ _ _ _, ?_, hbegun.keys⟩
    intro k hk
    exact Provisional.mem_keys_of_changes (Provisional.mem_keys_begin.mp hk)
  · intro s' k hk hs'
    rw [← hsame k hk]
    exact Launch.entryAt?_undo_of_same l hs' .rollback

/-! ### Settling -/

/-- Two settlements report the same, and leave the same values and stale bits under some keys. -/
structure Agree (ks : List QueryKey)
    (o o' : Except CacheError Settlement × PendingMutation × Store) : Prop where
  report : ∃ x x', o.1 = .ok x ∧ o'.1 = .ok x' ∧ x.Agrees x'
  peek : ∀ k ∈ ks, o.2.2.peek k = o'.2.2.peek k
  stale : ∀ k ∈ ks, o.2.2.staleBit k = o'.2.2.staleBit k

/-- A task that begins alone waits for its answer. -/
theorem waits_alone (hc : c.store.Unmarked) (ht : t.Sound c.nextPlaceholder) :
    t.Waits c (t.alone c) (t.aloneStore c) :=
  waits_begin hc ht (Nat.le_refl _) (fun _ _ => rfl) 0

/-- The merges note the keys that they would note on their own, and leave the same values. -/
theorem Waits.mergeAll (hc : c.store.Unmarked) (ht : t.Sound c.nextPlaceholder) (h : t.Waits c p s)
    {authoritative : Option Item} (hending : t.ending = .commit authoritative) (now : Int) :
    (p.targets.foldl (PendingMutation.mergeTarget p.id authoritative now) ([], s)).1 =
        (p.targets.foldl (PendingMutation.mergeTarget (t.alone c).id authoritative 0)
          ([], t.aloneStore c)).1 ∧
      ∀ k ∈ t.footprint c.dependencies,
        (s.mergeAll p.id authoritative now p.targets).peek k =
          ((t.aloneStore c).mergeAll (t.alone c).id authoritative 0 p.targets).peek k := by
  have hs : ∀ a, authoritative = some a → a.marker = none ∧ Item.NotDrawn c.nextPlaceholder a.id := by
    rintro a rfl
    exact ⟨ht.unmarked a hending, ht.names a.id (Or.inr ⟨a, hending, rfl⟩)⟩
  have htargets : ∀ target ∈ p.targets, target.1 ∈ t.footprint c.dependencies := by
    rw [h.targets]
    intro target htarget
    rcases List.mem_map.mp htarget with ⟨q, hq, rfl⟩
    exact mem_footprint_of_patched (List.mem_map_of_mem hq)
  have hids : ∀ target ∈ p.targets, ∀ id, target.2.names? = some id →
      Item.NotDrawn c.nextPlaceholder id := by
    rw [h.targets]
    intro target htarget id hid
    rcases List.mem_map.mp htarget with ⟨q, hq, rfl⟩
    rw [Patch.names?_rule] at hid
    exact ht.names id (Or.inl ⟨q, hq, hid⟩)
  rcases PendingMutation.twin_mergeAll hs h.twin htargets hids now 0 with ⟨hkeys, hpeek⟩
  refine ⟨hkeys, ?_⟩
  intro k hk
  apply hpeek
  by_cases hpatched : k ∈ t.patches.map Prod.fst
  · left
    rw [h.targets, List.map_map]
    exact hpatched
  · right
    rw [h.unpatched k hk hpatched, (waits_alone hc ht).unpatched k hk hpatched]

/-- Committed, a mutation leaves what it would leave on its own. -/
theorem Waits.commit (hc : c.store.Unmarked) (ht : t.Sound c.nextPlaceholder) (h : t.Waits c p s)
    (hcount : ∀ k, s.subscriberCount k = c.store.subscriberCount k) {authoritative : Option Item}
    (hending : t.ending = .commit authoritative) (now : Int) :
    Agree (t.footprint c.dependencies) (p.commit s c.dependencies authoritative now)
      ((t.alone c).commit (t.aloneStore c) c.dependencies authoritative 0) := by
  have halone := waits_alone hc ht
  have hkeysFor : c.dependencies.keysFor p.kind p.scope = c.dependencies.keysFor t.kind t.scope := by
    rw [h.kind, h.scope]
  have htargets : (t.alone c).targets = p.targets := h.targets.symm
  let merged := s.mergeAll p.id authoritative now p.targets
  let merged' := (t.aloneStore c).mergeAll (t.alone c).id authoritative 0 p.targets
  obtain ⟨hreconciled, hpeek⟩ := h.mergeAll hc ht hending now
  have hcontains : ∀ k ∈ t.footprint c.dependencies, merged.contains k = merged'.contains k := by
    intro k hk
    have hsome := congrArg Option.isSome (hpeek k hk)
    unfold Store.peek at hsome
    rwa [Option.isSome_map, Option.isSome_map] at hsome
  have houtcome : ∀ k ∈ t.footprint c.dependencies, (merged.invalidate k).1 = (merged'.invalidate k).1 := by
    intro k hk
    have hmerged : merged.subscriberCount k = c.store.subscriberCount k := by
      rw [← hcount k, Store.subscriberCount_mergeAll]
    have hmerged' : merged'.subscriberCount k = c.store.subscriberCount k := by
      rw [Store.subscriberCount_mergeAll, ← Store.subscriberCount_agenda, aloneStore,
        Launch.agenda_store, Store.subscriberCount_agenda]
    rw [Store.invalidate_outcome, Store.invalidate_outcome, hmerged, hmerged', hcontains k hk]
  constructor
  · refine ⟨_, _, PendingMutation.commit_report h.state s c.dependencies authoritative now,
      PendingMutation.commit_report halone.state (t.aloneStore c) c.dependencies authoritative 0,
      rfl, ?_, ?_⟩
    · rw [htargets]
      exact hreconciled
    · rw [htargets, hkeysFor]
      apply List.map_congr_left
      intro k hk
      exact congrArg (Prod.mk k) (houtcome k (mem_footprint_of_dependent hk))
  · intro k hk
    rw [PendingMutation.commit_store h.state, PendingMutation.commit_store halone.state,
      Store.peek_invalidateAll, Store.peek_invalidateAll, htargets]
    exact hpeek k hk
  · intro k hk
    rw [PendingMutation.staleBit_commit h.state, PendingMutation.staleBit_commit halone.state,
      htargets, hcontains k hk, hkeysFor, h.stale k hk, halone.stale k hk]
    rfl

/-- Rolled back, a mutation leaves what it would leave on its own. -/
theorem Waits.rollback (hc : c.store.Unmarked) (ht : t.Sound c.nextPlaceholder)
    (h : t.Waits c p s) :
    Agree (t.footprint c.dependencies) (p.rollback s) ((t.alone c).rollback (t.aloneStore c)) := by
  have halone := waits_alone hc ht
  have hentry : ∀ k ∈ t.footprint c.dependencies, (p.rollback s).2.2.entryAt? k =
      ((t.alone c).rollback (t.aloneStore c)).2.2.entryAt? k := by
    intro k hk
    rw [h.undone s k hk rfl, halone.undone (t.aloneStore c) k hk rfl]
  rcases h.recorded with ⟨snapshot, hsnapshot, _, _, hkeys⟩
  constructor
  · exact ⟨_, _, PendingMutation.rollback_report h.state hsnapshot s,
      PendingMutation.rollback_report halone.state rfl (t.aloneStore c), rfl, hkeys, rfl⟩
  · exact fun k hk => Store.peek_of_entryAt? (hentry k hk)
  · exact fun k hk => Store.staleBit_of_entryAt? (hentry k hk)

/-- Settled, a mutation leaves what it would leave on its own, and reports the same. -/
theorem Waits.settle (hc : c.store.Unmarked) (ht : t.Sound c.nextPlaceholder) (h : t.Waits c p s)
    (hcount : ∀ k, s.subscriberCount k = c.store.subscriberCount k) (now : Int) :
    Agree (t.footprint c.dependencies) (t.ending.settle p s c.dependencies now)
      (t.aloneSettled c) := by
  unfold aloneSettled
  cases hending : t.ending with
  | commit authoritative => exact h.commit hc ht hcount hending now
  | rollback => exact h.rollback hc ht

/-! ### Outside of the footprint -/

/-- A begin changes no entry outside of the footprint. -/
theorem entryAt?_begin {dependencies : DependencyMap} (hk : k ∉ t.footprint dependencies)
    (c : Client) (now : Int) : ((t.launch c now).store c.store).entryAt? k = c.store.entryAt? k := by
  apply Launch.entryAt?_store_of_not_changes
  rw [Bool.eq_false_iff]
  intro hchanged
  exact hk (mem_footprint_of_patched (Provisional.mem_keys_of_changes hchanged))

/-- Settling changes no entry outside of the footprint. -/
theorem Waits.entryAt?_settle (h : t.Waits c p s) (hk : k ∉ t.footprint c.dependencies) (now : Int) :
    (t.ending.settle p s c.dependencies now).2.2.entryAt? k = s.entryAt? k := by
  have hpatched : k ∉ t.patches.map Prod.fst := fun hmem => hk (mem_footprint_of_patched hmem)
  cases t.ending with
  | commit authoritative =>
    apply PendingMutation.entryAt?_commit_of_not_mem h.state
    · rw [h.targets, List.map_map]
      exact hpatched
    · rw [h.kind, h.scope]
      exact fun hmem => hk (mem_footprint_of_dependent hmem)
  | rollback =>
    rcases h.recorded with ⟨snapshot, hsnapshot, hnodup, hkeys, _⟩
    have hnone : snapshot.recorded? k = none := by
      simpa using mt Snapshot.mem_keys_iff.mpr fun hmem => hpatched (hkeys k hmem)
    have hstore : (Ending.rollback.settle p s c.dependencies now).2.2 = (snapshot.restore s).2 :=
      PendingMutation.undo_of_pending h.state hsnapshot s .rollback
    rw [hstore, Snapshot.entryAt?_restore hnodup, hnone]

/-- A mutation that waits goes on waiting as long as nothing happens on its footprint. -/
theorem Waits.congr (h : t.Waits c p s)
    (hs : ∀ k ∈ t.footprint c.dependencies, s'.entryAt? k = s.entryAt? k) : t.Waits c p s' := by
  have hpeek : ∀ k ∈ t.footprint c.dependencies, s'.peek k = s.peek k :=
    fun k hk => Store.peek_of_entryAt? (hs k hk)
  refine ⟨h.kind, h.scope, h.targets, h.state, ?_, ?_, ?_, h.recorded, ?_⟩
  · intro k hk
    rw [hpeek k hk]
    exact h.twin k hk
  · intro k hk hunpatched
    rw [hpeek k hk]
    exact h.unpatched k hk hunpatched
  · intro k hk
    rw [Store.staleBit_of_entryAt? (hs k hk)]
    exact h.stale k hk
  · intro s'' k hk hs''
    exact h.undone s'' k hk (hs''.trans (hs k hk))

/-! ### Refetches -/

/-- The commit of the mutation schedules a refetch of the key. -/
def Schedules (t : Task) (c : Client) (k : QueryKey) : Prop :=
  (∃ authoritative, t.ending = .commit authoritative) ∧
    k ∈ c.dependencies.keysFor t.kind t.scope ∧ 0 < c.store.subscriberCount k

/-- Settling changes no count of subscribers. -/
theorem Waits.subscriberCount_settle (h : t.Waits c p s) (now : Int) (k : QueryKey) :
    (t.ending.settle p s c.dependencies now).2.2.subscriberCount k = s.subscriberCount k := by
  cases t.ending with
  | commit authoritative => exact PendingMutation.subscriberCount_commit h.state k
  | rollback =>
    have hagenda : (p.rollback s).2.2.agenda = s.agenda := PendingMutation.agenda_undo p s .rollback
    rw [Ending.settle, ← Store.subscriberCount_agenda, hagenda, Store.subscriberCount_agenda]

/-- Settling schedules the keys that depend on a mutation that commits, if somebody listens. -/
theorem Waits.isScheduled_settle (h : t.Waits c p s)
    (hcount : ∀ k, s.subscriberCount k = c.store.subscriberCount k) (now : Int) (k : QueryKey) :
    (t.ending.settle p s c.dependencies now).2.2.isScheduled k = true ↔
      s.isScheduled k = true ∨ t.Schedules c k := by
  unfold Schedules
  cases t.ending with
  | commit authoritative =>
    rw [Ending.settle, PendingMutation.isScheduled_commit h.state, h.kind, h.scope, hcount]
    simp [Or.comm]
  | rollback =>
    have hagenda : (p.rollback s).2.2.agenda = s.agenda := PendingMutation.agenda_undo p s .rollback
    rw [Ending.settle, ← Store.isScheduled_agenda, hagenda, Store.isScheduled_agenda]
    simp

end Task
end OptimisticCache
