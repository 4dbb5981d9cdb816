import OptimisticCache.Proofs.Ensemble
import OptimisticCache.Proofs.Markers
/-!
# Items of settled mutations

While a mutation is pending, its items stand in the store under its marker.  When
it settles they should be gone.  They are, however mutations are interleaved, with
one exception: a mutation that began while another was pending recorded items of the
other, and puts them back when it is undone after the other has settled.

The invariant accounts for every marker in the store and in the snapshots of pending
mutations: a marker in the store is that of a pending mutation whose snapshot holds
the key, so that the commit and the undoing of this mutation both reach it.

Main results:

- Theorem {lit}`Ensemble.orphanFree_iff`: all states of a run are free of orphans
  exactly when no undoing in it revives an item of a settled mutation.
- Theorem {lit}`Ensemble.orphan_of_crossing`: two creations on one list, undone in the
  order in which they began, leave an orphan.
-/

namespace OptimisticCache
namespace Ensemble

/-- Every provisional item in the store belongs to a mutation that is pending. -/
def OrphanFree (e : Ensemble) : Prop :=
  ∀ k v, e.store.peek k = some v → ∀ i ∈ v.items, ∀ m, i.marker = some m → e.isPending m = true

/-- The action undoes a pending mutation whose snapshot holds an item of a settled one. -/
def Revives (e : Ensemble) : Action → Prop
  | .undo m _ =>
    ∃ s, e.snapshot? m = some s ∧ ∃ k m', s.carries k m' = true ∧ e.isPending m' = false
  | _ => False

/-- What the action stores on its own account, values and authoritative items, is not
provisional. -/
def Action.Unmarked : Action → Prop
  | operate o => o.Unmarked
  | commit _ _ authoritative _ => ∀ i, authoritative = some i → i.marker = none
  | begin _ _ _ _ | undo _ _ => True

/-- Every marker is accounted for.  In the store it is that of a pending mutation whose snapshot
holds the key.  In the snapshot of a pending mutation it is that of an older one, whose snapshot
holds the key as well if it is pending too. -/
structure Accounted (e : Ensemble) : Prop where
  stored : ∀ k m, e.store.carries k m = true → ∃ s, e.snapshot? m = some s ∧ k ∈ s.keys
  recorded : ∀ b s k m, e.snapshot? b = some s → s.carries k m = true →
    m ≠ b ∧ m.number ≤ e.client.started ∧ ∀ t, e.snapshot? m = some t → k ∈ t.keys

variable {e : Ensemble} {a : Action}

/-- No orphan is left exactly if every marker belongs to a pending mutation. -/
theorem orphanFree_iff_carries :
    e.OrphanFree ↔ ∀ k m, e.store.carries k m = true → e.isPending m = true := by
  constructor
  · intro h k m hc
    rcases Store.carries_iff.mp hc with ⟨v, hv, i, hi, hmarker⟩
    exact h k v hv i hi m hmarker
  · intro h k v hv i hi m hmarker
    exact h k m (Store.carries_iff.mpr ⟨v, hv, i, hi, hmarker⟩)

/-- Where markers and snapshots are accounted for there is no orphan. -/
theorem Accounted.orphanFree (h : e.Accounted) : e.OrphanFree := by
  rw [orphanFree_iff_carries]
  intro k m hc
  rcases h.stored k m hc with ⟨s, hs, _⟩
  exact isPending_of_snapshot? hs

/-! ## One action -/

/-- A mutation settles without a trace if the store holds no marker of it afterwards and no
marker that is unaccounted for. -/
theorem accounted_update_settled (h : e.Accounted) {m : MutationId} {p : PendingMutation}
    {state : MutationState} (hstate : state ≠ .pending) {s' : Store}
    (hs' : ∀ k m', s'.carries k m' = true →
      m' ≠ m ∧ ∃ t, e.snapshot? m' = some t ∧ k ∈ t.keys) :
    (e.update m (p.settled state) s').Accounted := by
  constructor
  · intro k m' hc
    rcases hs' k m' hc with ⟨hne, t, ht, hk⟩
    refine ⟨t, ?_, hk⟩
    rw [snapshot?_update_settled hstate, if_neg hne]
    exact ht
  · intro b s k m' hb hc
    rw [snapshot?_update_settled hstate] at hb
    split at hb
    · cases hb
    · rcases h.recorded b s k m' hb hc with ⟨hne, hbegun, hkeys⟩
      refine ⟨hne, hbegun, ?_⟩
      intro t ht
      rw [snapshot?_update_settled hstate] at ht
      split at ht
      · cases ht
      · exact hkeys t ht

/-- A commit reaches every item of its mutation, because they all stand under its targets. -/
theorem accounted_commit (ht : e.Tracked) (h : e.Accounted) {m : MutationId} {p : PendingMutation}
    (hm : e.mutation? m = some p) (hp : p.state = .pending) (dependencies : DependencyMap)
    {authoritative : Option Item} (hauth : ∀ i, authoritative = some i → i.marker = none)
    (now : Int) :
    (e.update m (p.settled .committed)
      (p.commit e.store dependencies authoritative now).2.2).Accounted := by
  apply accounted_update_settled h (by decide)
  intro k m' hc
  rcases Store.carries_commit hp hauth hc with ⟨hbefore, hown⟩
  rcases h.stored k m' hbefore with ⟨s, hs, hk⟩
  refine ⟨?_, s, hs, hk⟩
  rintro rfl
  rcases ht.snapshot m' p hm hp with ⟨s', hsnapshot, _, htargets⟩
  have hsame : e.snapshot? m' = some s' := snapshot?_eq_some_iff.mpr ⟨p, hm, hp, hsnapshot⟩
  rw [hs, Option.some.injEq] at hsame
  exact hown (htargets k (hsame ▸ hk)) (ht.id_eq m' p hm).symm

/-- Undoing reaches every item of its mutation, and puts back items of pending mutations only,
unless it revives. -/
theorem accounted_undo (ht : e.Tracked) (h : e.Accounted) {m : MutationId} {p : PendingMutation}
    (hm : e.mutation? m = some p) (hp : p.state = .pending) (u : Undo)
    (hrevives : ¬ e.Revives (.undo m u)) :
    (e.update m (p.settled .rolledBack) (p.undo e.store u)).Accounted := by
  rcases ht.snapshot m p hm hp with ⟨s, hsnapshot, hnodup, _⟩
  have hs : e.snapshot? m = some s := snapshot?_eq_some_iff.mpr ⟨p, hm, hp, hsnapshot⟩
  apply accounted_update_settled h (by decide)
  intro k m' hc
  rw [PendingMutation.undo_of_pending hp hsnapshot, Store.carries_restore hnodup] at hc
  split at hc
  · rcases h.recorded m s k m' hs hc with ⟨hne, _, hkeys⟩
    have hpending : e.isPending m' = true := by
      cases hpending : e.isPending m' with
      | true => rfl
      | false => exact absurd ⟨s, hs, k, m', hc, hpending⟩ hrevives
    rcases ht.exists_snapshot? hpending with ⟨t, ht'⟩
    exact ⟨hne, t, ht', hkeys t ht'⟩
  · rename_i hk
    rcases h.stored k m' hc with ⟨t, ht', hkt⟩
    refine ⟨?_, t, ht', hkt⟩
    rintro rfl
    rw [hs, Option.some.injEq] at ht'
    exact hk (ht' ▸ hkt)

/-- A begin puts its own items under keys that its snapshot holds, and records only items of
mutations that are pending. -/
theorem accounted_begin (ht : e.Tracked) (h : e.Accounted) (kind : MutationKind) (scope : Scope)
    (patches : List (QueryKey × Patch)) (now : Int) :
    (e.step (.begin kind scope patches now)).Accounted := by
  rcases step_begin e kind scope patches now with ⟨hstore, hstarted, _⟩
  let l := e.client.launch kind scope patches now
  have hsnapshot := snapshot?_step_begin e kind scope patches now
  -- the identity of the new mutation has not been given out before
  have hfresh : ∀ m, m.number ≤ e.client.started → m ≠ l.id := by
    rintro m hle rfl
    exact Nat.not_succ_le_self _ hle
  have hold : ∀ m, m.number ≤ e.client.started →
      (e.step (.begin kind scope patches now)).snapshot? m = e.snapshot? m := by
    intro m hle
    rw [hsnapshot, if_neg (hfresh m hle)]
  constructor
  · intro k m hc
    rw [hstore] at hc
    rcases Store.carries_begin hc with hbefore | ⟨rfl, hchanged⟩
    · rcases h.stored k m hbefore with ⟨t, ht', hk⟩
      exact ⟨t, (hold m (ht.number_le ht')).trans ht', hk⟩
    · refine ⟨l.snapshot e.store, ?_, Provisional.mem_keys_begin.mpr hchanged⟩
      rw [hsnapshot, if_pos rfl]
  · intro m s k m' hs hc
    rw [hstarted]
    rw [hsnapshot] at hs
    split at hs
    · rename_i hm
      obtain rfl := Option.some.inj hs
      -- the new snapshot holds what the store held before
      have hcarries : (l.changes e.store k && e.store.carries k m') = true :=
        (Store.carries_snapshot_begin e.store _ _ _ _ k m').symm.trans hc
      rcases h.stored k m' (Bool.and_eq_true_iff.mp hcarries).2 with ⟨t, ht', hk⟩
      have hle := ht.number_le ht'
      refine ⟨?_, Nat.le_succ_of_le hle, ?_⟩
      · rw [hm]
        exact hfresh m' hle
      · intro t' ht''
        rw [hold m' hle, ht', Option.some.injEq] at ht''
        exact ht'' ▸ hk
    · rcases h.recorded m s k m' hs hc with ⟨hne, hle, hkeys⟩
      refine ⟨hne, Nat.le_succ_of_le hle, ?_⟩
      intro t ht'
      rw [hold m' hle] at ht'
      exact hkeys t ht'

/-- An action that revives no marker keeps them accounted for. -/
theorem accounted_step (ht : e.Tracked) (h : e.Accounted) (ha : a.Unmarked)
    (hrevives : ¬ e.Revives a) : (e.step a).Accounted := by
  cases a with
  | operate o => exact ⟨fun k m hc => h.stored k m (Store.carries_perform ha hc), h.recorded⟩
  | begin kind scope patches now => exact accounted_begin ht h kind scope patches now
  | commit m dependencies authoritative now =>
    rcases step_commit_cases e m dependencies authoritative now with hsame | ⟨p, hm, hp, hstep⟩
    · rw [hsame]
      exact h
    · rw [hstep]
      exact accounted_commit ht h hm hp dependencies ha now
  | undo m u =>
    rcases step_undo_cases e m u with hsame | ⟨p, hm, hp, hstep⟩
    · rw [hsame]
      exact h
    · rw [hstep]
      exact accounted_undo ht h hm hp u hrevives

/-- Reviving an item of a settled mutation makes it an orphan. -/
theorem not_orphanFree_step_of_revives (ht : e.Tracked) (h : e.Revives a) :
    ¬ (e.step a).OrphanFree := by
  cases a with
  | operate o | begin kind scope patches now | commit m dependencies authoritative now => cases h
  | undo m u =>
    rcases h with ⟨s, hs, k, m', hc, hsettled⟩
    rcases snapshot?_eq_some_iff.mp hs with ⟨p, hm, hp, hsnapshot⟩
    rcases ht.snapshot m p hm hp with ⟨s', hs', hnodup, _⟩
    obtain rfl : s = s' := Option.some.inj (hsnapshot.symm.trans hs')
    have hk : k ∈ s.keys := by
      rw [Snapshot.mem_keys_iff]
      cases hrecorded : s.recorded? k with
      | none => simp [Snapshot.carries, Snapshot.previous?, hrecorded] at hc
      | some r => rfl
    rw [orphanFree_iff_carries, step_undo hm hp]
    intro horphanFree
    have hpending := horphanFree k m' (by
      change (p.undo e.store u).carries k m' = true
      rw [PendingMutation.undo_of_pending hp hsnapshot, Store.carries_restore hnodup, if_pos hk]
      exact hc)
    rw [isPending_update_settled (by decide), hsettled] at hpending
    simp at hpending

/-! ## Runs -/

/-- A run that revives nothing keeps every marker accounted for. -/
theorem accounted_run {as : List Action} (ht : e.Tracked) (h : e.Accounted)
    (has : ∀ a ∈ as, a.Unmarked)
    (hrevives : ∀ front a back, as = front ++ a :: back → ¬ (e.run front).Revives a) :
    (e.run as).Accounted := by
  induction as generalizing e with
  | nil => exact h
  | cons a as ih =>
    have hstep : (e.step a).Accounted :=
      accounted_step ht h (has a List.mem_cons_self) (hrevives [] a as rfl)
    apply ih (tracked_step ht a) hstep
    · intro b hb
      exact has b (List.mem_cons_of_mem a hb)
    · intro front b back hsplit
      exact hrevives (a :: front) b back (by rw [hsplit]; rfl)

/-- A client without markers and mutations has nothing to account for. -/
theorem accounted_ofClient {c : Client} (hc : c.store.Unmarked) : (ofClient c).Accounted := by
  constructor
  · intro k m hcarries
    have hnone : (ofClient c).store.carries k m = false := hc.carries k m
    rw [hnone] at hcarries
    cases hcarries
  · intro b s k m hs
    cases hs

/-- However operations, begins, commits and undoings of any mutations follow each other, all
states on the way are free of orphans exactly when nothing that is undone on the way revives an
item of a settled mutation. -/
theorem orphanFree_iff (c : Client) (as : List Action) (hc : c.store.Unmarked)
    (has : ∀ a ∈ as, a.Unmarked) :
    (∀ front back, as = front ++ back → ((ofClient c).run front).OrphanFree) ↔
      ∀ front a back, as = front ++ a :: back → ¬ ((ofClient c).run front).Revives a := by
  have htracked : ∀ front, ((ofClient c).run front).Tracked := tracked_run (tracked_ofClient c)
  constructor
  · intro h front a back hsplit hrevives
    have hnext : ((ofClient c).run (front ++ [a])).OrphanFree :=
      h (front ++ [a]) back (by rw [hsplit, List.append_assoc]; rfl)
    rw [run_append] at hnext
    exact not_orphanFree_step_of_revives (htracked front) hrevives hnext
  · intro h front back hsplit
    have haccounted : ((ofClient c).run front).Accounted := by
      apply accounted_run (tracked_ofClient c) (accounted_ofClient hc)
      · intro a ha
        exact has a (by rw [hsplit]; exact List.mem_append_left back ha)
      · intro front' a back' hsplit'
        exact h front' a (back' ++ back) (by rw [hsplit, hsplit', List.append_assoc]; rfl)
    exact haccounted.orphanFree

/-- Two placeholders are put into one list; the later mutation is undone first, and the other
commits.  Nothing is revived, so no state on the way has an orphan. -/
theorem orphanFree_iff_nested :
    let c : Client :=
      { store := (Store.empty none).set (.comments "p1") (.list [Item.new "c1" .null]) 0 }
    let as : List Action :=
      [.begin .createComment {} [(.comments "p1", .prepend .null)] 1,
        .begin .createComment {} [(.comments "p1", .prepend .null)] 2,
        .undo ⟨2⟩ .rollback, .commit ⟨1⟩ .empty (some (Item.new "c2" .null)) 3]
    c.store.Unmarked ∧ (∀ a ∈ as, a.Unmarked) ∧
      ∀ front back, as = front ++ back → ((ofClient c).run front).OrphanFree := by
  intro c as
  have hc : c.store.Unmarked := (Store.unmarked_empty none).set _ rfl 0
  have has : ∀ a ∈ as, a.Unmarked := by
    simp [as, Action.Unmarked, Item.new]
  refine ⟨hc, has, (orphanFree_iff c as hc has).mpr ?_⟩
  intro front a back hsplit hrevives
  simp only [as] at hsplit
  rcases front with _ | ⟨a₁, _ | ⟨a₂, _ | ⟨a₃, _ | ⟨a₄, front⟩⟩⟩⟩
  · cases hsplit
    exact hrevives
  · cases hsplit
    exact hrevives
  · cases hsplit
    rcases hrevives with ⟨s, hs, k, m, hcarries, hsettled⟩
    -- the snapshot holds the placeholder of the first mutation, which is pending
    have hrecords : s.records =
        [(.comments "p1", some ⟨.list [Item.placeholder (Item.placeholderId 1) ⟨1⟩ .null,
          Item.new "c1" .null], 1, false⟩)] := by
      cases hs
      rfl
    have hm : m = ⟨1⟩ := by
      simp only [Snapshot.carries, Snapshot.previous?, Snapshot.recorded?, hrecords,
        Table.get?_cons] at hcarries
      split at hcarries
      · rcases CacheValue.containsMarker_iff.mp hcarries with ⟨i, hi, hmarker⟩
        rcases List.mem_cons.mp hi with rfl | hi
        · exact (Option.some.inj hmarker).symm
        · obtain rfl := List.mem_singleton.mp hi
          cases hmarker
      · cases hcarries
    rw [hm] at hsettled
    cases hsettled
  · cases hsplit
    exact hrevives
  · simp at hsplit

/-- Two placeholders are put into one list, and the mutations are undone in the order in which
they began: the later one puts the placeholder of the other back. -/
theorem orphan_of_crossing :
    let c : Client :=
      { store := (Store.empty none).set (.comments "p1") (.list [Item.new "c1" .null]) 0 }
    let as : List Action :=
      [.begin .createComment {} [(.comments "p1", .prepend .null)] 1,
        .begin .createComment {} [(.comments "p1", .prepend .null)] 2,
        .undo ⟨1⟩ .rollback, .undo ⟨2⟩ .rollback]
    c.store.Unmarked ∧ (∀ a ∈ as, a.Unmarked) ∧ ¬ ((ofClient c).run as).OrphanFree := by
  intro c as
  refine ⟨(Store.unmarked_empty none).set _ rfl 0, by simp [as, Action.Unmarked], ?_⟩
  intro h
  let orphan := Item.placeholder (Item.placeholderId 1) ⟨1⟩ .null
  have hpeek : ((ofClient c).run as).store.peek (.comments "p1") =
      some (.list [orphan, Item.new "c1" .null]) := rfl
  have hpending := h _ _ hpeek orphan List.mem_cons_self ⟨1⟩ rfl
  cases hpending

end Ensemble
end OptimisticCache
