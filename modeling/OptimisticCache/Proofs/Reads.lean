import Mathlib.Data.List.Forall2
import OptimisticCache.Client
import OptimisticCache.Proofs.Agenda
/-!
# Reads are all or nothing

A query is read in three stages: its path is put together, the backend answers, and the
answered data is normalized.  Any of them may fail, and the cache is touched after the last
one only.

A list is normalized row by row, and its rows may fail one by one.  The list is there when
all of them are, so the first bad row decides, and the items that were made of the rows
before it go nowhere.

Main results:

- Theorem {lit}`Payload.rows?_eq_some_iff`: where the rows of a list are found.
- Theorems {lit}`Payload.normalizeRows_eq_ok_iff` and
  {lit}`Payload.normalizeRows_eq_error_iff`: what becomes of rows.
- Theorem {lit}`Payload.readsList_normalizeValue`: the same for the answer to a query for a
  list.
- Theorem {lit}`Client.read_allOrNothing`: both outcomes of a read, and when a cached value
  takes the place of one.
-/

namespace OptimisticCache
namespace Payload

/-! ## Rows -/

/-- The rows of a list payload: the payload itself, or what stands in it under the first of the
row names that holds a list. -/
inductive HasRows : Json → List Json → Prop
  | bare (rows : List Json) : HasRows (.array rows) rows
  | named {v : Json} {front back : List String} {name : String} {rows : List Json}
      (hnames : rowNames = front ++ name :: back) (hrows : v.get? name = some (.array rows))
      (hfront : ∀ n ∈ front, ∀ other, v.get? n ≠ some (.array other)) : HasRows v rows

/-- Rows are found exactly in an array. -/
theorem bind_items?_eq_some_iff {v : Option Json} {rows : List Json} :
    v.bind Json.items? = some rows ↔ v = some (.array rows) := by
  rcases v with _ | (_ | _ | _ | _ | _ | _) <;> simp [Json.items?]

/-- The rows of a payload are found where they stand, and only there. -/
theorem rows?_eq_some_iff {v : Json} {rows : List Json} : rows? v = some rows ↔ HasRows v rows := by
  constructor
  · intro h
    unfold rows? at h
    split at h
    · obtain rfl := Option.some.inj h
      exact .bare _
    · obtain ⟨front, name, back, hnames, hname, hfront⟩ := List.findSome?_eq_some_iff.mp h
      refine .named hnames (bind_items?_eq_some_iff.mp hname) ?_
      intro n hn other hother
      have hnone := hfront n hn
      rw [bind_items?_eq_some_iff.mpr hother] at hnone
      cases hnone
  · rintro (_ | ⟨hnames, hrows, hfront⟩)
    · rfl
    · unfold rows?
      split
      · cases hrows
      · refine List.findSome?_eq_some_iff.mpr
          ⟨_, _, _, hnames, bind_items?_eq_some_iff.mpr hrows, fun n hn => ?_⟩
        rw [Option.eq_none_iff_forall_ne_some]
        intro other hother
        exact hfront n hn other (bind_items?_eq_some_iff.mp hother)

variable {entity : Entity}

/-- Rows are normalized to their items, one for each row and in the order of the rows. -/
theorem normalizeRows_eq_ok_iff {rows : List Json} {items : List Item} :
    normalizeRows entity rows = .ok items ↔
      List.Forall₂ (fun row item => normalizeItem entity row = .ok item) rows items := by
  constructor
  · intro h
    induction rows generalizing items with
    | nil =>
      obtain rfl := Except.ok.inj h
      exact .nil
    | cons row rest ih =>
      obtain ⟨item, items', hitem, hitems, rfl⟩ := exists_of_normalizeRows_cons h
      exact .cons hitem (ih hitems)
  · intro h
    induction h with
    | nil => rfl
    | cons hitem _ ih => simp only [normalizeRows, hitem, ih, bind, Except.bind, pure, Except.pure]

/-- Rows fail with the error of the first bad one. -/
theorem normalizeRows_eq_error_iff {rows : List Json} {e : CacheError} :
    normalizeRows entity rows = .error e ↔
      ∃ front row back, rows = front ++ row :: back ∧
        (∀ good ∈ front, ∃ item, normalizeItem entity good = .ok item) ∧
        normalizeItem entity row = .error e := by
  constructor
  · intro h
    induction rows with
    | nil => cases h
    | cons row rest ih =>
      cases hrow : normalizeItem entity row with
      | error e' =>
        simp only [normalizeRows, hrow, bind, Except.bind, Except.error.injEq] at h
        exact ⟨[], row, rest, rfl, List.forall_mem_nil _, h ▸ hrow⟩
      | ok item =>
        have hrest : normalizeRows entity rest = .error e := by
          cases hitems : normalizeRows entity rest with
          | error e' => simpa [normalizeRows, hrow, hitems, bind, Except.bind] using h
          | ok items => simp [normalizeRows, hrow, hitems, bind, Except.bind, pure, Except.pure] at h
        obtain ⟨front, bad, back, rfl, hgood, hbad⟩ := ih hrest
        exact ⟨row :: front, bad, back, rfl, List.forall_mem_cons.mpr ⟨⟨item, hrow⟩, hgood⟩, hbad⟩
  · rintro ⟨front, row, back, rfl, hgood, hbad⟩
    induction front with
    | nil => simp only [List.nil_append, normalizeRows, hbad, bind, Except.bind]
    | cons good front ih =>
      obtain ⟨⟨item, hitem⟩, hfront⟩ := List.forall_mem_cons.mp hgood
      simp only [List.cons_append, normalizeRows, hitem, ih hfront, bind, Except.bind]

/-- Rows are normalized exactly if every row is. -/
theorem exists_normalizeRows_iff {rows : List Json} :
    (∃ items, normalizeRows entity rows = .ok items) ↔
      ∀ row ∈ rows, ∃ item, normalizeItem entity row = .ok item := by
  cases h : normalizeRows entity rows with
  | ok items =>
    have hitems := (normalizeRows_eq_ok_iff.mp h).imp fun _ item hitem =>
      And.intro (Exists.intro item hitem) hitem
    exact iff_of_true ⟨items, rfl⟩ ((List.forall₂_and_left rows items).mp hitems).1
  | error e =>
    obtain ⟨front, row, back, rfl, -, hbad⟩ := normalizeRows_eq_error_iff.mp h
    refine iff_of_false (fun ⟨items, hitems⟩ => nomatch hitems) fun hall => ?_
    obtain ⟨item, hitem⟩ := hall row (by simp)
    rw [hbad] at hitem
    cases hitem

/-! ## Lists -/

/-- What becomes of the data that answers a query for a list. -/
structure ReadsList (entity : Entity) (data : Json) (result : Except CacheError CacheValue) :
    Prop where
  ok_iff : (∃ v, result = .ok v) ↔
    ∃ rows, HasRows data rows ∧ ∀ row ∈ rows, ∃ item, normalizeItem entity row = .ok item
  /-- The list has one item for each row, in the order of the rows. -/
  items : ∀ v, result = .ok v → ∃ rows items, HasRows data rows ∧
    List.Forall₂ (fun row item => normalizeItem entity row = .ok item) rows items ∧ v = .list items
  /-- There are no rows, or the first bad one decides. -/
  error : ∀ e, result = .error e →
    (∀ rows, ¬HasRows data rows) ∧ e = .payload entity.name (.notAList data) ∨
      ∃ front row back, HasRows data (front ++ row :: back) ∧
        (∀ good ∈ front, ∃ item, normalizeItem entity good = .ok item) ∧
        normalizeItem entity row = .error e

/-- A list is read from the rows of its answer. -/
theorem normalizeValue_of_rows {data : Json} {rows : List Json} (h : entity.isCollection = true)
    (hrows : HasRows data rows) :
    normalizeValue entity data = (normalizeRows entity rows).map CacheValue.list := by
  simp [normalizeValue, h, rows?_eq_some_iff.mpr hrows]

/-- An answer without rows is no list. -/
theorem normalizeValue_of_no_rows {data : Json} (h : entity.isCollection = true)
    (hrows : ∀ rows, ¬HasRows data rows) :
    normalizeValue entity data = .error (.payload entity.name (.notAList data)) := by
  have hnone : rows? data = none := by
    rw [Option.eq_none_iff_forall_ne_some]
    exact fun rows hsome => hrows rows (rows?_eq_some_iff.mp hsome)
  simp [normalizeValue, h, hnone]

/-- An answer has its rows in one place only. -/
theorem HasRows.unique {data : Json} {rows rows' : List Json} (h : HasRows data rows)
    (h' : HasRows data rows') : rows = rows' :=
  Option.some.inj ((rows?_eq_some_iff.mpr h).symm.trans (rows?_eq_some_iff.mpr h'))

/-- A list is read exactly if its rows are normalized. -/
theorem exists_map_list_iff {rows : List Json} :
    (∃ v, (normalizeRows entity rows).map CacheValue.list = .ok v) ↔
      ∃ items, normalizeRows entity rows = .ok items := by
  cases normalizeRows entity rows <;> simp [Except.map]

/-- Reading rows is reading the list as it was described. -/
theorem readsList_map_list {data : Json} {rows : List Json} (hrows : HasRows data rows) :
    ReadsList entity data ((normalizeRows entity rows).map CacheValue.list) := by
  constructor
  case ok_iff =>
    rw [exists_map_list_iff, exists_normalizeRows_iff]
    constructor
    · exact fun hall => ⟨rows, hrows, hall⟩
    · rintro ⟨rows', hrows', hall⟩
      rwa [hrows.unique hrows']
  case items =>
    intro v hv
    obtain ⟨items, hitems⟩ := exists_map_list_iff.mp ⟨v, hv⟩
    rw [hitems] at hv
    exact ⟨rows, items, hrows, normalizeRows_eq_ok_iff.mp hitems, (Except.ok.inj hv).symm⟩
  case error =>
    intro e he
    have hresult : normalizeRows entity rows = .error e := by
      cases h : normalizeRows entity rows with
      | ok items =>
        rw [h] at he
        cases he
      | error e' =>
        rw [h] at he
        exact congrArg Except.error (Except.error.inj he)
    obtain ⟨front, row, back, rfl, hgood, hbad⟩ := normalizeRows_eq_error_iff.mp hresult
    exact .inr ⟨front, row, back, hrows, hgood, hbad⟩

/-- The answer to a query for a list is normalized as a whole or not at all. -/
theorem readsList_normalizeValue (h : entity.isCollection = true) (data : Json) :
    ReadsList entity data (normalizeValue entity data) := by
  by_cases hdata : ∃ rows, HasRows data rows
  · obtain ⟨rows, hrows⟩ := hdata
    rw [normalizeValue_of_rows h hrows]
    exact readsList_map_list hrows
  · have hnone : ∀ rows, ¬HasRows data rows := fun rows hrows => hdata ⟨rows, hrows⟩
    rw [normalizeValue_of_no_rows h hnone]
    constructor
    case ok_iff =>
      exact iff_of_false (fun ⟨v, hv⟩ => nomatch hv) fun ⟨rows, hrows, _⟩ => hnone rows hrows
    case items =>
      intro v hv
      cases hv
    case error =>
      intro e he
      exact .inl ⟨hnone, (Except.error.inj he).symm⟩

end Payload

/-! ## Reads -/

/-- Why a read of a query fails. -/
inductive QueryKey.Fails (k : QueryKey) (b : Backend) : CacheError → Prop
  /-- The key lacks its identifying parameter. -/
  | unroutable (hid : k.get? k.entity.idParam = none) : Fails k b (.unroutable k)
  /-- The backend fails the request. -/
  | request {path : String} {failure : BackendFailure} (hpath : k.path? = some path)
      (hread : b.read path = .error failure) : Fails k b (.request failure)
  /-- The answered data cannot be normalized. -/
  | payload {path : String} {envelope : Envelope} {e : CacheError} (hpath : k.path? = some path)
      (hread : b.read path = .ok envelope)
      (hdata : Payload.normalizeValue k.entity envelope.data = .error e) : Fails k b e

/-- A value was read and is cached: its entry is fresh, its refetch is satisfied, and nothing else
has changed. -/
structure Store.Caches (s : Store) (k : QueryKey) (v : CacheValue) (now : Int) (s' : Store) :
    Prop where
  entry : s'.entryAt? k = some ⟨v, now, false⟩
  slot : s'.isScheduled k = false
  others : ∀ k' ≠ k, s'.entryAt? k' = s.entryAt? k' ∧ s'.isScheduled k' = s.isScheduled k'
  events : s'.events = .updated k :: s.events

/-- Setting a value caches it. -/
theorem Store.caches_set (s : Store) (k : QueryKey) (v : CacheValue) (now : Int) :
    s.Caches k v now (s.set k v now) := by
  have hslot : ∀ k', (s.set k v now).isScheduled k' = (decide (k' ≠ k) && s.isScheduled k') :=
    isScheduled_completeRefetch (s.putEntry k (Entry.fresh v now)) k
  refine ⟨?_, ?_, fun k' hk => ⟨?_, ?_⟩, rfl⟩
  · rw [entryAt?_set, if_pos rfl]
    rfl
  · simp [hslot]
  · rw [entryAt?_set, if_neg hk]
  · simp [hslot, hk]

namespace Client

variable {c : Client} {b : Backend} {k : QueryKey} {now : Int}

/-- A key without a path is not asked for. -/
theorem fetchQuery_of_no_path (h : k.path? = none) :
    c.fetchQuery b k now = (.error (.unroutable k), c) := by
  simp [fetchQuery, readQuery, h]

/-- A read caches the value that the answer gives, if it gives one. -/
theorem fetchQuery_of_path {path : String} (h : k.path? = some path) :
    c.fetchQuery b k now =
      match k.valueOf (b.read path) with
      | .ok v => (.ok v, { c.note (.read path) with store := c.store.set k v now })
      | .error e => (.error e, c.note (.read path)) := by
  simp only [fetchQuery, readQuery, h]
  cases k.valueOf (b.read path) <;> rfl

/-- A read fails for one of three reasons, and succeeds if there is none. -/
theorem fetchQuery_error_iff {e : CacheError} :
    (c.fetchQuery b k now).1 = .error e ↔ k.Fails b e := by
  constructor
  · intro h
    cases hpath : k.path? with
    | none =>
      rw [fetchQuery_of_no_path hpath] at h
      obtain rfl := Except.error.inj h
      exact .unroutable (by simpa [QueryKey.path?] using hpath)
    | some path =>
      rw [fetchQuery_of_path hpath] at h
      cases hread : b.read path with
      | error failure =>
        rw [hread] at h
        obtain rfl := Except.error.inj h
        exact .request hpath hread
      | ok envelope =>
        rw [hread] at h
        cases hdata : Payload.normalizeValue k.entity envelope.data with
        | ok v =>
          simp only [QueryKey.valueOf, hdata] at h
          cases h
        | error e' =>
          simp only [QueryKey.valueOf, hdata] at h
          obtain rfl := Except.error.inj h
          exact .payload hpath hread hdata
  · intro h
    cases h with
    | unroutable hid =>
      rw [fetchQuery_of_no_path (by simp [QueryKey.path?, hid])]
    | request hpath hread =>
      rw [fetchQuery_of_path hpath, hread]
      rfl
    | payload hpath hread hdata =>
      rw [fetchQuery_of_path hpath, hread]
      simp only [QueryKey.valueOf, hdata]

/-- A read that succeeds caches what it answers. -/
theorem caches_of_fetchQuery {v : CacheValue} (h : (c.fetchQuery b k now).1 = .ok v) :
    c.store.Caches k v now (c.fetchQuery b k now).2.store := by
  cases hpath : k.path? with
  | none =>
    rw [fetchQuery_of_no_path hpath] at h
    cases h
  | some path =>
    rw [fetchQuery_of_path hpath] at h ⊢
    cases hvalue : k.valueOf (b.read path) with
    | error e =>
      rw [hvalue] at h
      cases h
    | ok v' =>
      rw [hvalue] at h
      obtain rfl := Except.ok.inj h
      exact Store.caches_set c.store k v' now

/-- The result of a fetch is what its answer is read as. -/
theorem fetchQuery_of_answer {path : String} {envelope : Envelope} (hpath : k.path? = some path)
    (hread : b.read path = .ok envelope) :
    (c.fetchQuery b k now).1 = Payload.normalizeValue k.entity envelope.data := by
  rw [fetchQuery_of_path hpath, hread, QueryKey.valueOf]
  cases Payload.normalizeValue k.entity envelope.data <;> rfl

/-- What is absent or stale is read from the backend. -/
theorem getOrFetch_of_absent_or_stale
    (h : c.store.peek k = none ∨ c.store.isStale k now = true) :
    c.getOrFetch b k now = c.fetchQuery b k now := by
  unfold getOrFetch
  rcases h with hnone | hstale
  · rw [hnone]
    split <;> rfl
  · rw [if_pos hstale]

/-- A read of a query fails for one of three reasons, and then the store is exactly as before; or
it answers a value, which is then the fresh entry of the key, and no other entry and no other refetch
slot has changed.  A list is answered only if every row of the payload can be normalized, with one
item for each row in their order, and fails with the error of the first bad row otherwise.  A
value that is cached and not stale is answered without using the backend and without any effect,
and in every other case the query is read. -/
theorem read_allOrNothing (c : Client) (b : Backend) (k : QueryKey) (now : Int) :
    let r := c.fetchQuery b k now
    (∀ e, r.1 = .error e ↔ k.Fails b e) ∧
    (∀ e, r.1 = .error e → r.2.store = c.store) ∧
    (∀ v, r.1 = .ok v → c.store.Caches k v now r.2.store) ∧
    (k.entity.isCollection = true → ∀ path envelope, k.path? = some path →
      b.read path = .ok envelope → Payload.ReadsList k.entity envelope.data r.1) ∧
    (∀ v, c.store.peek k = some v → c.store.isStale k now = false →
      c.getOrFetch b k now = (.ok v, c)) ∧
    (c.store.peek k = none ∨ c.store.isStale k now = true → c.getOrFetch b k now = r) := by
  intro r
  refine ⟨fun e => fetchQuery_error_iff, fun e he => fetchQuery_error he,
    fun v hv => caches_of_fetchQuery hv, ?_, fun v hv hfresh => getOrFetch_fresh b hfresh hv,
    getOrFetch_of_absent_or_stale⟩
  intro hcollection path envelope hpath hread
  have hresult : r.1 = Payload.normalizeValue k.entity envelope.data :=
    fetchQuery_of_answer hpath hread
  rw [hresult]
  exact Payload.readsList_normalizeValue hcollection envelope.data

/-- The second row has no id, so the first one is not cached either. -/
example :
    let k := QueryKey.comments "p1"
    let good := Json.object [("content", .string "hi"), ("id", .string "c1")]
    let bad := Json.object [("content", .string "hi")]
    let b := Backend.answering (.ok (Envelope.ok (.array [good, bad])))
    let c : Client := { store := Store.empty none }
    let (result, c') := c.fetchQuery b k 0
    result.isOk = false ∧ c'.calls = [.read "/projects/p1/comments"] ∧
      c'.store.contains k = false := by
  decide +kernel

end Client
end OptimisticCache
