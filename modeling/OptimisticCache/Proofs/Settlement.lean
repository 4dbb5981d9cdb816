import OptimisticCache.Mutation.Catalogue
import OptimisticCache.Proofs.Markers
import OptimisticCache.Proofs.Rollback
/-!
# A mutation settles all or nothing

A mutation that runs on its own sends one request and settles by the answer.  A
failed request leaves the cache exactly as it was before the mutation began.  A
successful one commits, whatever can be made of the answered data.

Main results:

- Theorem {lit}`CatalogueMutation.answersUnmarked`: no mutation of the catalogue takes
  a provisional item from an answer.
- Theorem {lit}`Client.mutate_settles`: both outcomes of a mutation, for every
  mutation, client and backend.
-/

namespace OptimisticCache

/-! ## Unmarked answers -/

/-- No answer gives an item that carries a marker. -/
def Mutation.AnswersUnmarked (m : Mutation) : Prop :=
  ∀ data i, m.authoritative data = .ok (some i) → i.marker = none

/-- The item that is used of an answer has no marker. -/
theorem Mutation.AnswersUnmarked.usableItem {m : Mutation} (h : m.AnswersUnmarked) {data : Json}
    {i : Item} (hi : m.usableItem data = some i) : i.marker = none :=
  h data i (Mutation.authoritative_of_usableItem hi)

namespace CatalogueMutation

/-- An item that is taken from an answer is that of a comment or of a post. -/
theorem exists_of_authoritative {cm : CatalogueMutation} {data : Json} {i : Item}
    (h : cm.authoritative data = .ok (some i)) :
    (∃ comment : Comment, i = comment.toItem) ∨ ∃ post : ChainPost, i = post.toItem := by
  rcases exists_normalizeItem_of_authoritative h with ⟨v, hv⟩
  rcases cm.entity_cases with hentity | hentity
  · rw [hentity] at hv
    rcases CacheError.exists_of_map_eq_ok hv with ⟨comment, _, hi⟩
    exact Or.inl ⟨comment, hi.symm⟩
  · rw [hentity] at hv
    rcases CacheError.exists_of_map_eq_ok hv with ⟨post, _, hi⟩
    exact Or.inr ⟨post, hi.symm⟩

/-- The mutations of the catalogue take unmarked items from their answers. -/
theorem answersUnmarked (cm : CatalogueMutation) (createdAt : String) :
    (cm.toMutation createdAt).AnswersUnmarked := by
  intro data i h
  rcases exists_of_authoritative h with ⟨comment, rfl⟩ | ⟨post, rfl⟩
  · rfl
  · rfl

end CatalogueMutation

/-! ## The two outcomes -/

/-- The mutation that takes no item from any answer. -/
def Mutation.withoutItem (m : Mutation) : Mutation :=
  { m with authoritative := fun _ => .ok none }

namespace Client

variable {c : Client} {b : Backend} {m : Mutation} {now : Int}

/-- What a mutation of the client is begun with. -/
def launchOf (c : Client) (m : Mutation) (now : Int) : Launch :=
  c.launch m.kind m.scope m.patches now

/-- The client while the request of a mutation is out. -/
def waiting (c : Client) (m : Mutation) (now : Int) : Client :=
  (c.start m now).2

/-- A failed request is rolled back. -/
theorem mutate_of_error {failure : BackendFailure} (h : b.send m.request = .error failure) :
    c.mutate b m now =
      (.error (.request failure),
        { c.waiting m now with
          store := ((c.launchOf m now).pending c.store).undo ((c.launchOf m now).store c.store)
            .rollback }) := by
  have hsettle : c.mutate b m now =
      (c.waiting m now).settle ⟨m, (c.launchOf m now).pending c.store⟩ (b.send m.request) now := rfl
  rw [hsettle, h]
  rfl

/-- A mutation that commits is settled with what the commit reports. -/
theorem settle_of_commit {f : InFlight} {envelope : Envelope} {settlement : Settlement}
    {outcome : PendingMutation × Store}
    (h : f.pending.commit c.store c.dependencies (f.mutation.usableItem envelope.data) now =
      (.ok settlement, outcome)) :
    c.settle f (.ok envelope) now =
      (.ok ⟨settlement, envelope.data⟩, { c with store := outcome.2 }) := by
  simp only [settle, h]

/-- A request that succeeds is committed. -/
theorem mutate_of_ok (c : Client) {envelope : Envelope} (h : b.send m.request = .ok envelope)
    (now : Int) :
    ∃ settlement : Settlement, settlement.mutation = (c.launchOf m now).id ∧
      settlement.state = .committed ∧
      c.mutate b m now =
        (.ok ⟨settlement, envelope.data⟩,
          { c.waiting m now with
            store := (((c.launchOf m now).pending c.store).commit ((c.launchOf m now).store c.store)
              c.dependencies (m.usableItem envelope.data) now).2.2 }) := by
  let p := (c.launchOf m now).pending c.store
  let s := (c.launchOf m now).store c.store
  let item := m.usableItem envelope.data
  obtain ⟨settlement, hok, hmutation, hstate⟩ :=
    PendingMutation.commit_outcome (p := p) rfl s c.dependencies item now
  have hcommit : p.commit s c.dependencies item now =
      (.ok settlement, (p.commit s c.dependencies item now).2) := Prod.ext hok rfl
  have hsettle : c.mutate b m now = (c.waiting m now).settle ⟨m, p⟩ (b.send m.request) now := rfl
  refine ⟨settlement, hmutation.trans ((c.launchOf m now).pending_id c.store), hstate, ?_⟩
  rw [hsettle, h, settle_of_commit hcommit]

/-- An answer that cannot be normalized settles as one that holds no item. -/
theorem mutate_withoutItem {envelope : Envelope} {e : CacheError}
    (h : b.send m.request = .ok envelope) (he : m.authoritative envelope.data = .error e) :
    c.mutate b m now = c.mutate b m.withoutItem now := by
  have hitem : m.usableItem envelope.data = m.withoutItem.usableItem envelope.data := by
    simp [Mutation.usableItem, Mutation.withoutItem, he]
  have hsettle : c.mutate b m now =
      (c.waiting m now).settle ⟨m, (c.launchOf m now).pending c.store⟩ (b.send m.request) now := rfl
  have hwithout : c.mutate b m.withoutItem now =
      (c.waiting m now).settle ⟨m.withoutItem, (c.launchOf m now).pending c.store⟩
        (b.send m.request) now := rfl
  rw [hsettle, hwithout, h]
  simp only [settle, hitem]

/-- A mutation leaves the keys that it neither patches nor invalidates alone. -/
theorem entryAt?_mutate_of_not_mem {k : QueryKey} (hpatch : k ∉ m.patches.map Prod.fst)
    (hdependent : k ∉ c.dependencies.keysFor m.kind m.scope) :
    (c.mutate b m now).2.store.entryAt? k = c.store.entryAt? k := by
  let l := c.launchOf m now
  cases h : b.send m.request with
  | error failure =>
    rw [mutate_of_error h]
    exact l.entryAt?_undo_store c.store .rollback k
  | ok envelope =>
    rcases mutate_of_ok c h now with ⟨settlement, _, _, hmutate⟩
    have htarget : k ∉ (l.pending c.store).targets.map Prod.fst := by
      rw [l.targets_keys]
      exact hpatch
    have hunchanged : l.changes c.store k = false := by
      rw [Bool.eq_false_iff]
      intro hchanged
      exact hpatch (Provisional.mem_keys_of_changes hchanged)
    rw [hmutate]
    exact (PendingMutation.entryAt?_commit_of_not_mem rfl htarget hdependent).trans
      (Launch.entryAt?_store_of_not_changes hunchanged)

/-- However the request of a mutation is answered, it is the only use of the backend, and only
patched and dependent keys are touched.  If it fails, the failure is the result, and every entry
and the scheduled refetches are as before.  If it succeeds, also when the answer cannot be
normalized, the mutation is committed, the result is the answered data, and no item under a
patched key is provisional on behalf of the mutation any more. -/
theorem mutate_settles (c : Client) (b : Backend) (m : Mutation) (now : Int)
    (hm : m.AnswersUnmarked) :
    let r := c.mutate b m now
    r.2.calls = .send m.request :: c.calls ∧
    (∀ failure, b.send m.request = .error failure →
      r.1 = .error (.request failure) ∧
      (∀ k, r.2.store.entryAt? k = c.store.entryAt? k) ∧
      r.2.store.scheduled = c.store.scheduled) ∧
    (∀ envelope, b.send m.request = .ok envelope →
      (∃ outcome, r.1 = .ok outcome ∧ outcome.data = envelope.data ∧
        outcome.settlement.mutation = ⟨c.started + 1⟩ ∧ outcome.settlement.state = .committed) ∧
      (∀ k ∈ m.patches.map Prod.fst, ∀ v, r.2.store.peek k = some v →
        ∀ i ∈ v.items, i.marker ≠ some ⟨c.started + 1⟩) ∧
      ∀ e, m.authoritative envelope.data = .error e → r = c.mutate b m.withoutItem now) ∧
    (∀ k, k ∉ m.patches.map Prod.fst → k ∉ c.dependencies.keysFor m.kind m.scope →
      r.2.store.entryAt? k = c.store.entryAt? k) := by
  intro r
  let l := c.launchOf m now
  refine ⟨?_, ?_, ?_, fun k hpatch hdependent => entryAt?_mutate_of_not_mem hpatch hdependent⟩
  · cases h : b.send m.request with
    | error failure =>
      simp only [r, mutate_of_error h]
      rfl
    | ok envelope =>
      rcases mutate_of_ok c h now with ⟨settlement, _, _, hmutate⟩
      simp only [r, hmutate]
      rfl
  · intro failure h
    simp only [r, mutate_of_error h, true_and]
    exact ⟨l.entryAt?_undo_store c.store .rollback, l.scheduled_undo_store c.store .rollback⟩
  · intro envelope h
    rcases mutate_of_ok c h now with ⟨settlement, hmutation, hstate, hmutate⟩
    refine ⟨⟨_, congrArg Prod.fst hmutate, rfl, hmutation, hstate⟩, ?_, fun e => mutate_withoutItem h⟩
    intro k hk v hv i hi hmarker
    have hcarries : r.2.store.carries k l.id = true :=
      Store.carries_iff.mpr ⟨v, hv, i, hi, hmarker⟩
    simp only [r, hmutate] at hcarries
    have htarget : k ∈ (l.pending c.store).targets.map Prod.fst := by
      rw [l.targets_keys]
      exact hk
    have hgone := (Store.carries_commit rfl (fun i => hm.usableItem) hcarries).2 htarget
    exact hgone (l.pending_id c.store).symm

/-- A comment is created while the backend is out of reach: the list of comments is as before. -/
theorem mutate_settles_unreachable :
    let m := (CatalogueMutation.createComment "p1" "hello" none).toMutation "now"
    let c : Client :=
      { store := (Store.empty none).set (.comments "p1") (.list [Item.new "c1" .null]) 0 }
    let b := Backend.answering (.error (.network "unreachable"))
    m.AnswersUnmarked ∧ (c.mutate b m 1).2.calls = [.send m.request] ∧
      (c.mutate b m 1).1 = .error (.request (.network "unreachable")) ∧
      (c.mutate b m 1).2.store.entryAt? (.comments "p1") =
        some ⟨.list [Item.new "c1" .null], 0, false⟩ := by
  intro m c b
  have hm : m.AnswersUnmarked := CatalogueMutation.answersUnmarked _ _
  rcases mutate_settles c b m 1 hm with ⟨hcalls, hfailed, _⟩
  rcases hfailed (.network "unreachable") rfl with ⟨hresult, hentries, _⟩
  exact ⟨hm, hcalls, hresult, hentries (.comments "p1")⟩

end Client
end OptimisticCache
