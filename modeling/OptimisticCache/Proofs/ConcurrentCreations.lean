import OptimisticCache.Proofs.Arrangement
/-!
# Creations on one list commit in any order

Mutations that each put a placeholder into one list are begun in any order, other
actions spare the list, and the mutations commit in any order.  In every state on the
way the list is arranged by the creations; once all have committed, it does not show
the order in which they did.

Main results:

- Theorem {lit}`Ensemble.Creating.arranged`: the invariant of such runs.
- Theorem {lit}`Ensemble.Creating.peek_committed`: the list after all commits.
-/

namespace OptimisticCache

namespace Ensemble

open Creation

/-- The action does not write the value under a key: it is an operation on something else, a begin
that does not patch the key, or it settles a mutation that did not patch it. -/
def Spares (e : Ensemble) (k : QueryKey) : Action → Prop
  | .operate o => o.writes k = false
  | .begin _ _ patches _ => k ∉ patches.map Prod.fst
  | .commit m _ _ _ | .undo m _ => ∀ p, e.pending? m = some p → k ∉ p.targets.map Prod.fst

/-- The creation of the next mutation, whose patches before the insertion are given. -/
def opened (e : Ensemble) (before : List (QueryKey × Patch)) (data : Json) (now : Int) : Creation :=
  let m : MutationId := ⟨e.client.started + 1⟩
  let n := (Provisional.begin e.store e.client.nextPlaceholder m before now).nextPlaceholder
  ⟨m, Item.placeholder (Item.placeholderId n) m data⟩

/-- A run from `start` in which creations on the list under a key begin and commit, each with the
item of its answer, while everything else spares the key.  It is indexed by the creations in
front and behind, in the order of the list, and by the mutations that have committed. -/
inductive Creating (k : QueryKey) (result : MutationId → Option Item) (start : Ensemble) :
    List Creation → List Creation → List MutationId → Ensemble → Prop where
  | start : Creating k result start [] [] [] start
  | spare {front back : List Creation} {done : List MutationId} {e : Ensemble}
      (h : Creating k result start front back done e) (a : Action) (ha : e.Spares k a) :
    Creating k result start front back done (e.step a)
  | prepend {front back : List Creation} {done : List MutationId} {e : Ensemble}
      (h : Creating k result start front back done e) (kind : MutationKind) (scope : Scope)
      {before after : List (QueryKey × Patch)} (hbefore : k ∉ before.map Prod.fst)
      (hafter : k ∉ after.map Prod.fst) (data : Json) (now : Int) :
    Creating k result start (e.opened before data now :: front) back done
      (e.step (.begin kind scope (before ++ (k, .prepend data) :: after) now))
  | append {front back : List Creation} {done : List MutationId} {e : Ensemble}
      (h : Creating k result start front back done e) (kind : MutationKind) (scope : Scope)
      {before after : List (QueryKey × Patch)} (hbefore : k ∉ before.map Prod.fst)
      (hafter : k ∉ after.map Prod.fst) (data : Json) (now : Int) :
    Creating k result start front (back ++ [e.opened before data now]) done
      (e.step (.begin kind scope (before ++ (k, .append data) :: after) now))
  | commit {front back : List Creation} {done : List MutationId} {e : Ensemble}
      (h : Creating k result start front back done e) {m : MutationId}
      (hm : m ∈ (front ++ back).map Creation.id) (hnew : m ∉ done) (dependencies : DependencyMap)
      (now : Int) :
    Creating k result start front back (done ++ [m])
      (e.step (.commit m dependencies (result m) now))

variable {e start : Ensemble} {k : QueryKey} {a : Action} {result : MutationId → Option Item}
  {front back : List Creation} {done : List MutationId} {current : Option (List Item)}

/-! ### What spares the key -/

/-- An action that spares a key changes nothing of what it shows. -/
theorem peek_step_of_spares (ht : e.Tracked) (h : e.Spares k a) :
    (e.step a).store.peek k = e.store.peek k := by
  cases a with
  | operate o =>
    change ((e.store.perform o).entryAt? k).map Entry.value = (e.store.entryAt? k).map Entry.value
    rw [Store.entryAt?_perform h, Option.map_map]
    rfl
  | begin kind scope patches now => exact Provisional.peek_foldl_of_not_mem h _
  | commit m dependencies authoritative now =>
    rcases step_commit_cases e m dependencies authoritative now with hsame | ⟨p, hm, hp, _⟩
    · rw [hsame]
    · have htargets := h p (pending?_eq_some_iff.mpr ⟨hm, hp⟩)
      rw [store_step_commit hm hp, Store.peek_invalidateAll]
      exact Store.peek_of_entryAt? (Store.entryAt?_mergeAll_of_not_mem htargets)
  | undo m u =>
    rcases step_undo_cases e m u with hsame | ⟨p, hm, hp, hstep⟩
    · rw [hsame]
    · rcases ht.snapshot m p hm hp with ⟨snapshot, hsnapshot, hnodup, hkeys⟩
      have hk : k ∉ snapshot.keys := fun hk => h p (pending?_eq_some_iff.mpr ⟨hm, hp⟩) (hkeys k hk)
      have hnone : snapshot.recorded? k = none := by
        simpa using mt Snapshot.mem_keys_iff.mpr hk
      rw [hstep]
      apply Store.peek_of_entryAt?
      change (p.undo e.store u).entryAt? k = e.store.entryAt? k
      rw [PendingMutation.undo_of_pending hp hsnapshot, Snapshot.entryAt?_restore hnodup, hnone]

/-- An action that spares a key settles no mutation that patched it. -/
theorem settles_of_spares {m : MutationId} {p : PendingMutation} (hp : e.pending? m = some p)
    (hk : k ∈ p.targets.map Prod.fst) (h : e.Spares k a) : a.settles m = false := by
  cases a with
  | operate o | begin kind scope patches now => rfl
  | commit m' dependencies authoritative now | undo m' u =>
    refine decide_eq_false ?_
    rintro rfl
    exact h p hp hk

/-- A mutation stays as it is until an action settles it. -/
theorem pending?_step {m : MutationId} (ha : a.settles m = false)
    (hm : m.number ≤ e.client.started) : (e.step a).pending? m = e.pending? m := by
  unfold pending?
  rw [mutation?_step ha hm]

/-! ### The invariant -/

/-- The list under the key while creations are pending: as at the start if there are none. -/
def heldList (result : MutationId → Option Item) (current : Option (List Item))
    (front back : List Creation) (done : List MutationId) : Option (List Item) :=
  if front ++ back = [] then current
  else some (arrangement result (current.getD []) front back done)

/-- In a run of creations, every creation that has not committed is pending with one insertion
under the key, and the list is arranged by the creations. -/
structure Arranged (k : QueryKey) (result : MutationId → Option Item)
    (current : Option (List Item)) (front back : List Creation) (done : List MutationId)
    (e : Ensemble) : Prop where
  tracked : e.Tracked
  nodup : ((front ++ back).map Creation.id).Nodup
  begun : ∀ c ∈ front ++ back, c.id.number ≤ e.client.started
  own : ∀ c ∈ front ++ back, Reconcile.isOwnPlaceholder c.id c.placeholder = true
  committed : ∀ m ∈ done, m ∈ (front ++ back).map Creation.id
  pending : ∀ c ∈ front ++ back, c.id ∉ done → ∃ p before after, e.pending? c.id = some p ∧
    p.targets = before ++ (k, .insert) :: after ∧ k ∉ before.map Prod.fst ∧ k ∉ after.map Prod.fst
  peek : e.store.peek k = (heldList result current front back done).map .list

/-- The list that is held is the arrangement of all creations so far. -/
theorem getD_heldList (h : ∀ m ∈ done, m ∈ (front ++ back).map Creation.id) :
    (heldList result current front back done).getD [] =
      arrangement result (current.getD []) front back done := by
  unfold heldList
  split
  · rename_i hempty
    rcases List.append_eq_nil_iff.mp hempty with ⟨rfl, rfl⟩
    have hdone : done = [] := by
      rw [List.eq_nil_iff_forall_not_mem]
      intro m hm
      cases h m hm
    simp [hdone, arrangement, merged]
  · rfl

/-- A creation finds its own placeholder again. -/
theorem opened_own (e : Ensemble) (before : List (QueryKey × Patch)) (data : Json) (now : Int) :
    Reconcile.isOwnPlaceholder (e.opened before data now).id
      (e.opened before data now).placeholder = true := by
  have hid : (e.opened before data now).placeholder.isPlaceholder = true :=
    Item.placeholder_isPlaceholder _ _ data
  have hmarked : (e.opened before data now).placeholder.isMarkedBy (e.opened before data now).id =
      true := by
    simp [opened, Item.isMarkedBy, Item.placeholder]
  rw [Reconcile.isOwnPlaceholder, hid, hmarked]
  rfl

/-- An action that spares the key leaves the arrangement as it is. -/
theorem Arranged.spare (h : Arranged k result current front back done e)
    (ha : e.Spares k a) : Arranged k result current front back done (e.step a) where
  tracked := tracked_step h.tracked a
  nodup := h.nodup
  begun c hc := Nat.le_trans (h.begun c hc) (started_le_step e a)
  own := h.own
  committed := h.committed
  pending := by
    intro c hc hnew
    rcases h.pending c hc hnew with ⟨p, before, after, hp, htargets, hkeys⟩
    have hk : k ∈ p.targets.map Prod.fst := by simp [htargets]
    refine ⟨p, before, after, ?_, htargets, hkeys⟩
    rw [pending?_step (settles_of_spares hp hk ha) (h.begun c hc)]
    exact hp
  peek := (peek_step_of_spares h.tracked ha).trans h.peek

/-- The next mutation has a new identity. -/
theorem Arranged.opened_not_mem (h : Arranged k result current front back done e)
    (before : List (QueryKey × Patch)) (data : Json) (now : Int) :
    (e.opened before data now).id ∉ (front ++ back).map Creation.id := by
  intro hc
  rcases List.mem_map.mp hc with ⟨c, hc, hid⟩
  have hle := h.begun c hc
  rw [hid] at hle
  exact Nat.not_succ_le_self _ hle

/-- A creation that was just opened has its placeholder in the list. -/
theorem Arranged.cell_opened (h : Arranged k result current front back done e)
    (before : List (QueryKey × Patch)) (data : Json) (now : Int) (base : List Item) :
    (e.opened before data now).cell result base done = [(e.opened before data now).placeholder] :=
  if_neg fun hdone => h.opened_not_mem before data now (h.committed _ hdone)

/-- A begin with one insertion on the list adds its placeholder in front or behind. -/
theorem Arranged.begin (h : Arranged k result current front back done e)
    (kind : MutationKind) (scope : Scope) {before after : List (QueryKey × Patch)}
    (hbefore : k ∉ before.map Prod.fst) (hafter : k ∉ after.map Prod.fst) {patch : Patch}
    (data : Json) (now : Int) {front' back' : List Creation}
    (hpatch : patch.rule = .insert)
    (hperm : (front' ++ back').Perm (e.opened before data now :: (front ++ back)))
    (happly : ∀ held : Option (List Item), held.getD [] =
        arrangement result (current.getD []) front back done →
      patch.apply (e.opened before data now).placeholder.id (e.opened before data now).id
        (held.map .list) = some (.list (arrangement result (current.getD []) front' back' done))) :
    Arranged k result current front' back' done
      (e.step (.begin kind scope (before ++ (k, patch) :: after) now)) := by
  let c := e.opened before data now
  let a : Action := .begin kind scope (before ++ (k, patch) :: after) now
  have hmem : ∀ c', c' ∈ front' ++ back' ↔ c' = c ∨ c' ∈ front ++ back := by
    intro c'
    rw [hperm.mem_iff, List.mem_cons]
  refine ⟨tracked_step h.tracked a, ?_, ?_, ?_, ?_, ?_, ?_⟩
  · rw [(hperm.map Creation.id).nodup_iff]
    exact List.nodup_cons.mpr ⟨h.opened_not_mem before data now, h.nodup⟩
  · intro c' hc'
    rcases (hmem c').mp hc' with rfl | hc'
    · exact Nat.le_refl _
    · exact Nat.le_succ_of_le (h.begun c' hc')
  · intro c' hc'
    rcases (hmem c').mp hc' with rfl | hc'
    · exact opened_own e before data now
    · exact h.own c' hc'
  · intro m hm
    rw [(hperm.map Creation.id).mem_iff]
    exact List.mem_cons_of_mem _ (h.committed m hm)
  · intro c' hc' hnew
    rcases (hmem c').mp hc' with rfl | hc'
    · let l := e.client.launch kind scope (before ++ (k, patch) :: after) now
      rcases step_begin e kind scope (before ++ (k, patch) :: after) now with ⟨_, _, hmutation⟩
      have hregistered : (e.step a).mutation? c.id = some (l.pending e.store) :=
        (hmutation c.id).trans (if_pos rfl)
      refine ⟨l.pending e.store, before.map fun p => (p.1, p.2.rule),
        after.map fun p => (p.1, p.2.rule), pending?_eq_some_iff.mpr ⟨hregistered, rfl⟩, ?_, ?_, ?_⟩
      · change (before ++ (k, patch) :: after).map (fun p => (p.1, p.2.rule)) = _
        rw [List.map_append, List.map_cons, hpatch]
      · simpa [Function.comp_def] using hbefore
      · simpa [Function.comp_def] using hafter
    · rcases h.pending c' hc' hnew with ⟨p, before', after', hp, hrest⟩
      refine ⟨p, before', after', ?_, hrest⟩
      rw [pending?_step rfl (h.begun c' hc')]
      exact hp
  · have hpeek : (e.step a).store.peek k =
        (patch.apply c.placeholder.id c.id (e.store.peek k)).or (e.store.peek k) :=
      Provisional.peek_begin_split hbefore hafter e.store e.client.nextPlaceholder c.id patch now
    have hnonempty : front' ++ back' ≠ [] := by
      intro hnil
      rw [hnil] at hmem
      cases (hmem c).mpr (Or.inl rfl)
    have hheld : heldList result current front' back' done =
        some (arrangement result (current.getD []) front' back' done) := if_neg hnonempty
    rw [hpeek, h.peek, happly _ (getD_heldList h.committed), hheld]
    rfl

/-- A commit settles one creation. -/
theorem Arranged.commit (h : Arranged k result current front back done e)
    (hanswers : Answers result (front ++ back))
    (hcurrent : ∀ c ∈ front ++ back, ∀ i ∈ current.getD [], i.isMarkedBy c.id = false)
    {m : MutationId} (hm : m ∈ (front ++ back).map Creation.id) (hnew : m ∉ done)
    (dependencies : DependencyMap) (now : Int) :
    Arranged k result current front back (done ++ [m])
      (e.step (.commit m dependencies (result m) now)) := by
  rcases List.mem_map.mp hm with ⟨c, hc, rfl⟩
  let a : Action := .commit c.id dependencies (result c.id) now
  rcases h.pending c hc hnew with ⟨p, before, after, hp, htargets, hbefore, hafter⟩
  rcases pending?_eq_some_iff.mp hp with ⟨hmutation, hstate⟩
  refine ⟨tracked_step h.tracked a, h.nodup, ?_, h.own, ?_, ?_, ?_⟩
  · intro c' hc'
    exact Nat.le_trans (h.begun c' hc') (started_le_step e a)
  · intro m' hm'
    rcases List.mem_append.mp hm' with hm' | hm'
    · exact h.committed m' hm'
    · exact List.mem_singleton.mp hm' ▸ List.mem_map_of_mem hc
  · intro c' hc' hnew'
    rcases not_or.mp (mt List.mem_append.mpr hnew') with ⟨hopen, hne⟩
    rcases h.pending c' hc' hopen with ⟨p', before', after', hp', hrest⟩
    refine ⟨p', before', after', ?_, hrest⟩
    have hsettles : a.settles c'.id = false :=
      decide_eq_false fun heq => hne (heq ▸ List.mem_singleton.mpr rfl)
    rw [pending?_step hsettles (h.begun c' hc')]
    exact hp'
  · have hnonempty : front ++ back ≠ [] := fun hnil => by simp [hnil] at hc
    have hheld : ∀ done, heldList result current front back done =
        some (arrangement result (current.getD []) front back done) := fun done => if_neg hnonempty
    -- the placeholder is still there, so the merge takes effect
    have hmarked : ∃ i ∈ arrangement result (current.getD []) front back done,
        i.isMarkedBy c.id = true := by
      rcases exists_place result (current.getD []) hc h.nodup hnew with
        ⟨left, right, _, _, harranged, _⟩
      refine ⟨c.placeholder, ?_, (Bool.and_eq_true_iff.mp (h.own c hc)).1⟩
      rw [harranged]
      exact List.mem_append_right left List.mem_cons_self
    rw [store_step_commit hmutation hstate, Store.peek_invalidateAll, htargets,
      Store.peek_mergeAll_of_once hbefore hafter, h.tracked.id_eq c.id p hmutation, h.peek, hheld,
      hheld, Option.map_some, Reconcile.value_or_of_marked hmarked,
      list_arrangement hanswers h.own h.nodup h.committed hc hnew (hcurrent c hc)]
    rfl

/-- Without creations the list is arranged as it is. -/
theorem arranged_start (ht : start.Tracked) (hpeek : start.store.peek k = current.map .list) :
    Arranged k result current [] [] [] start where
  tracked := ht
  nodup := List.nodup_nil
  begun _ hc := nomatch hc
  own _ hc := nomatch hc
  committed _ hm := nomatch hm
  pending _ hc := nomatch hc
  peek := hpeek

/-- In every state of a run of creations, the list is arranged by them. -/
theorem Creating.arranged (h : Creating k result start front back done e) (ht : start.Tracked)
    (hpeek : start.store.peek k = current.map .list)
    (hcurrent : ∀ c ∈ front ++ back, ∀ i ∈ current.getD [], i.isMarkedBy c.id = false)
    (hanswers : Answers result (front ++ back)) :
    Arranged k result current front back done e := by
  induction h with
  | start => exact arranged_start ht hpeek
  | spare _ a ha ih => exact (ih hcurrent hanswers).spare ha
  | @prepend front back done e h kind scope before after hbefore hafter data now ih =>
    have hsub : ∀ c ∈ front ++ back, c ∈ e.opened before data now :: (front ++ back) :=
      fun c hc => List.mem_cons_of_mem _ hc
    have hih := ih (fun c hc => hcurrent c (hsub c hc)) (hanswers.mono hsub)
    refine hih.begin kind scope hbefore hafter data now rfl (List.Perm.refl _) ?_
    intro held hheld
    have harranged : arrangement result (current.getD []) (e.opened before data now :: front) back
        done = (e.opened before data now).placeholder ::
          arrangement result (current.getD []) front back done := by
      simp [arrangement, hih.cell_opened]
    rw [harranged, ← hheld]
    cases held <;> rfl
  | @append front back done e h kind scope before after hbefore hafter data now ih =>
    have hperm : (front ++ (back ++ [e.opened before data now])).Perm
        (e.opened before data now :: (front ++ back)) := by
      rw [← List.append_assoc]
      exact List.perm_append_comm
    have hsub : ∀ c ∈ front ++ back, c ∈ front ++ (back ++ [e.opened before data now]) :=
      fun c hc => hperm.mem_iff.mpr (List.mem_cons_of_mem _ hc)
    have hih := ih (fun c hc => hcurrent c (hsub c hc)) (hanswers.mono hsub)
    refine hih.begin kind scope hbefore hafter data now rfl hperm ?_
    intro held hheld
    have harranged : arrangement result (current.getD []) front (back ++ [e.opened before data now])
        done = arrangement result (current.getD []) front back done ++
          [(e.opened before data now).placeholder] := by
      simp [arrangement, hih.cell_opened]
    rw [harranged, ← hheld]
    cases held <;> rfl
  | commit _ hm hnew dependencies now ih =>
    exact (ih hcurrent hanswers).commit hanswers hcurrent hm hnew dependencies now

/-- Pending creations can commit in any order. -/
theorem Creating.commitAll (h : Creating k result start front back done e) {order : List MutationId}
    (horder : ∀ m ∈ order, m ∈ (front ++ back).map Creation.id) (hnodup : (done ++ order).Nodup)
    (dependencies : MutationId → DependencyMap) (now : MutationId → Int) :
    Creating k result start front back (done ++ order)
      (e.run (order.map fun m => .commit m (dependencies m) (result m) (now m))) := by
  induction order generalizing done e with
  | nil => simpa using h
  | cons m order ih =>
    have hnew : m ∉ done := by
      intro hm
      exact (List.nodup_append.mp hnodup).2.2 m hm m List.mem_cons_self rfl
    have hstep := h.commit (horder m List.mem_cons_self) hnew (dependencies m) (now m)
    have hsplit : done ++ m :: order = done ++ [m] ++ order := by simp
    rw [hsplit] at hnodup ⊢
    exact ih hstep (fun m' hm' => horder m' (List.mem_cons_of_mem m hm')) hnodup

/-- Mutations that each put a placeholder into one list begin in any order, while everything else
spares the list; before they begin, nothing in the list has their marks.  Their answers are
unmarked or missing, no two share an id, and none has the id of one of the placeholders.  Once all
have committed, in whatever order, the list is the final one, in which each answered item stands
in the place of its placeholder or, if the list had its id, in the place of the first item with
it.  From a state in which all are pending they can commit in every order. -/
theorem Creating.peek_committed {k : QueryKey} {result : MutationId → Option Item}
    {start : Ensemble} {current : Option (List Item)} {front back : List Creation}
    (ht : start.Tracked) (hpeek : start.store.peek k = current.map .list)
    (hcurrent : ∀ c ∈ front ++ back, ∀ i ∈ current.getD [], i.isMarkedBy c.id = false)
    (hanswers : Answers result (front ++ back)) :
    (∀ done e, Creating k result start front back done e →
      done.Perm ((front ++ back).map Creation.id) →
      e.store.peek k =
        (if front ++ back = [] then current
          else some (finalList result (current.getD []) front back)).map .list) ∧
    (∀ e, Creating k result start front back [] e →
      ∀ order, order.Perm ((front ++ back).map Creation.id) →
        ∀ (dependencies : MutationId → DependencyMap) (now : MutationId → Int),
        Creating k result start front back order
          (e.run (order.map fun m => .commit m (dependencies m) (result m) (now m)))) := by
  constructor
  · intro done e h hdone
    have harranged := h.arranged ht hpeek hcurrent hanswers
    rw [harranged.peek, heldList, arrangement_of_perm hanswers harranged.nodup hdone]
  · intro e h order horder dependencies now
    have hnodup := (h.arranged ht hpeek hcurrent hanswers).nodup
    exact h.commitAll (fun m hm => horder.mem_iff.mp hm) (horder.nodup_iff.mpr hnodup)
      dependencies now

/-- One comment is created in front of a list and another behind it; the second commits first, and
the list has its answered item already. -/
theorem Creating.peek_committed_crossed :
    let c : Client :=
      { store := (Store.empty none).set (.comments "p1") (.list [Item.new "c1" .null]) 0 }
    let edited := Item.new "c1" (.bool true)
    let created := Item.new "c2" .null
    let result : MutationId → Option Item := fun m => if m = ⟨1⟩ then some created else some edited
    let e := (ofClient c).run
      [.begin .createComment {} [(.comments "p1", .prepend .null)] 1,
        .begin .createComment {} [(.comments "p1", .append .null)] 2]
    ∃ front back, Creating (.comments "p1") result (ofClient c) front back [] e ∧
      Answers result (front ++ back) ∧
      (e.run [.commit ⟨2⟩ .standard (result ⟨2⟩) 3, .commit ⟨1⟩ .standard (result ⟨1⟩) 3]).store.peek
        (.comments "p1") = some (.list [created, edited]) := by
  intro c edited created result e
  let a := (ofClient c).opened [] .null 1
  let e' := (ofClient c).step (.begin .createComment {} [(.comments "p1", .prepend .null)] 1)
  let b := e'.opened [] .null 2
  have hnil : (.comments "p1" : QueryKey) ∉ ([] : List (QueryKey × Patch)).map Prod.fst :=
    List.not_mem_nil
  have h : Creating (.comments "p1") result (ofClient c) [a] [b] [] e :=
    (Creating.start.prepend .createComment {} hnil hnil .null 1).append .createComment {} hnil hnil
      .null 2
  have hanswers : Answers result ([a] ++ [b]) := by
    have hresult : ∀ c ∈ [a] ++ [b], ∀ s, result c.id = some s →
        (c.id = ⟨1⟩ ∧ s = created) ∨ (c.id = ⟨2⟩ ∧ s = edited) := by
      intro c hc s hs
      rcases List.mem_cons.mp hc with rfl | hc
      · exact Or.inl ⟨rfl, (Option.some.inj hs).symm⟩
      · obtain rfl := List.mem_singleton.mp hc
        exact Or.inr ⟨rfl, (Option.some.inj hs).symm⟩
    refine ⟨?_, ?_, ?_⟩
    · intro c hc s hs
      rcases hresult c hc s hs with ⟨_, rfl⟩ | ⟨_, rfl⟩ <;> rfl
    · intro c hc c' hc' s s' hs hs' hid
      rcases hresult c hc s hs with ⟨h₁, rfl⟩ | ⟨h₁, rfl⟩ <;>
        rcases hresult c' hc' s' hs' with ⟨h₂, rfl⟩ | ⟨h₂, rfl⟩ <;>
        first | exact h₁.trans h₂.symm | exact absurd hid (by decide)
    · intro c hc c' hc' s hs hid
      have hplaceholder : c'.placeholder.isPlaceholder = true := by
        rcases List.mem_cons.mp hc' with rfl | hc'
        · exact Item.placeholder_isPlaceholder _ _ _
        · obtain rfl := List.mem_singleton.mp hc'
          exact Item.placeholder_isPlaceholder _ _ _
      rw [← Item.isPlaceholder_eq_of_id_eq hid] at hplaceholder
      rcases hresult c hc s hs with ⟨_, rfl⟩ | ⟨_, rfl⟩ <;> exact absurd hplaceholder (by decide)
  have hpeek : (ofClient c).store.peek (.comments "p1") =
      (some [Item.new "c1" .null]).map .list := rfl
  have hcurrent : ∀ c ∈ [a] ++ [b], ∀ i ∈ [Item.new "c1" .null], i.isMarkedBy c.id = false := by
    intro c _ i hi
    obtain rfl := List.mem_singleton.mp hi
    rfl
  have hall := Creating.peek_committed (tracked_ofClient c) hpeek hcurrent hanswers
  refine ⟨[a], [b], h, hanswers, ?_⟩
  have horder : [⟨2⟩, ⟨1⟩].Perm (([a] ++ [b]).map Creation.id) := List.Perm.swap _ _ _
  exact hall.1 _ _ (hall.2 e h _ horder (fun _ => .standard) fun _ => 3) horder

end Ensemble
end OptimisticCache
