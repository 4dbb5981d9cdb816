import OptimisticCache.Payload.Record
import OptimisticCache.Proofs.CanonicalForms
/-!
# Round trips

The canonical data of a record has three readers beside its writer: the tolerant
reader of payloads, the strict reader of records, and, one level up, the reader of
whole query answers.  What was written is read back by all of them, and so reading
what was read before changes nothing.

The strict reader asks that a field is given once.  The canonical data is a table,
in which every name stands once.

Main results:

- Theorem {lit}`Record.namedSlot?_required`: the value of a field that stands in a
  table.
- Theorems {lit}`Comment.ofJson?_toData`, {lit}`Project.ofJson?_toData`,
  {lit}`Chain.ofJson?_toData` and {lit}`ChainPost.ofJson?_toData`: canonical data is
  read back strictly.
- Theorem {lit}`Payload.canonical_read_back`: all round trips together, and what
  follows for items and lists of items.
-/

namespace OptimisticCache

/-! ## Fields that stand in a table -/

/-- A key that stands in a table in order stands in it once. -/
theorem Table.filter_key_of_get? {α β : Type} [DecidableEq α] [KeyOrder α] {k : α} {v : β}
    {t : List (α × β)} (ht : Sorted t) (h : get? k t = some v) :
    (t.filter fun p => p.1 = k) = [(k, v)] := by
  induction t with
  | nil => cases h
  | cons p t ih =>
    obtain ⟨k', v'⟩ := p
    obtain ⟨hhead, htail⟩ := List.pairwise_cons.mp ht
    rw [get?_cons] at h
    by_cases hk : k' = k
    · subst hk
      rw [if_pos rfl] at h
      obtain rfl := Option.some.inj h
      have hrest : (t.filter fun p => p.1 = k') = [] := by
        rw [List.filter_eq_nil_iff]
        intro p hp heq
        -- the keys behind come later, and no key comes before itself
        have hbefore := hhead p.1 (List.mem_map_of_mem hp)
        rw [of_decide_eq_true heq, KeyOrder.irrefl] at hbefore
        cases hbefore
      rw [List.filter_cons_of_pos (by simp), hrest]
    · rw [if_neg hk] at h
      rw [List.filter_cons_of_neg (by simpa using hk), ih htail h]

/-- A key that stands once in a list has the value it stands with. -/
theorem Table.get?_of_mem {α β : Type} [DecidableEq α] {t : List (α × β)} (h : (keys t).Nodup)
    {p : α × β} (hp : p ∈ t) : get? p.1 t = some p.2 := by
  induction t with
  | nil => cases hp
  | cons q t ih =>
    obtain ⟨hhead, htail⟩ := List.nodup_cons.mp h
    rcases List.mem_cons.mp hp with rfl | hp
    · exact if_pos rfl
    · have hne : q.1 ≠ p.1 := fun heq => hhead (heq ▸ List.mem_map_of_mem hp)
      exact (if_neg hne).trans (ih htail hp)

/-- A member of an object that was built from members with different names. -/
theorem Json.get?_ofMembers_of_mem {given : List (String × Json)} (h : (Table.keys given).Nodup)
    {m : String × Json} (hm : m ∈ given) : (ofMembers given).get? m.1 = some m.2 := by
  have hreverse : (Table.keys given.reverse).Nodup := by
    rw [Table.keys, List.map_reverse]
    exact (List.reverse_perm _).nodup_iff.mpr h
  rw [get?_ofMembers]
  exact Table.get?_of_mem hreverse (List.mem_reverse.mpr hm)

namespace Record

/-- The value of a field that stands in a table under its only name. -/
theorem namedSlot?_required {members : List (String × Json)} (hsorted : Table.Sorted members)
    {name : String} {v : Json} (h : Table.get? name members = some v) :
    namedSlot? members (Field.required name) = some (some v) := by
  have hnames : (fun m : String × Json => (Field.required name).names.contains m.1) =
      fun m => decide (m.1 = name) := by
    funext m
    simp [Field.required]
  rw [namedSlot?, hnames, Table.filter_key_of_get? hsorted h]

/-- The values of the fields that stand in a table. -/
theorem namedSlots?_required {members : List (String × Json)} (hsorted : Table.Sorted members)
    {given : List (String × Json)} (h : ∀ m ∈ given, Table.get? m.1 members = some m.2) :
    namedSlots? members ((Table.keys given).map Field.required) =
      some (given.map fun m => some m.2) := by
  induction given with
  | nil => rfl
  | cons m given ih =>
    have hhead := namedSlot?_required hsorted (h m List.mem_cons_self)
    have hrest := ih fun m' hm' => h m' (List.mem_cons_of_mem m hm')
    simp only [Table.keys, List.map_cons, namedSlots?] at hrest ⊢
    rw [hhead, hrest]

/-- The values of the fields of an object that was built from members with different names. -/
theorem slots?_ofMembers {given : List (String × Json)} (h : (Table.keys given).Nodup) :
    slots? ((Table.keys given).map Field.required) (Json.ofMembers given) =
      some (given.map fun m => some m.2) := by
  apply namedSlots?_required (Table.sorted_ofList given)
  intro m hm
  exact Json.get?_ofMembers_of_mem h hm

@[simp]
theorem optionalText?_stringOrNull (s : Option String) :
    optionalText? (some (Json.stringOrNull s)) = some s := by
  cases s <;> rfl

/-- A text that must be there is read from a string. -/
@[simp]
theorem text?_string (s : String) : text? (some (.string s)) = some s :=
  rfl

@[simp]
theorem count?_int (c : Count) : count? (some (Json.int c.value)) = some c :=
  Count.ofInt?_value c

end Record

/-! ## Strict reading -/

/-- The canonical data of a comment is read back strictly. -/
theorem Comment.ofJson?_toData (c : Comment) : ofJson? c.toData = some c := by
  have hslots : Record.slots? fields c.toData =
      some [some _, some _, some _, some _, some _, some _, some _] :=
    Record.slots?_ofMembers (by simp [Table.keys])
  simp [ofJson?, hslots]

/-- The canonical data of a project is read back strictly. -/
theorem Project.ofJson?_toData (p : Project) : ofJson? p.toData = some p := by
  have hslots : Record.slots? fields p.toData = some [some _, some _, some _, some _] :=
    Record.slots?_ofMembers (by simp [Table.keys])
  simp [ofJson?, hslots]

/-- The canonical data of a chain is read back strictly. -/
theorem Chain.ofJson?_toData (c : Chain) : ofJson? c.toData = some c := by
  have hslots : Record.slots? fields c.toData = some [some _, some _, some _, some _] :=
    Record.slots?_ofMembers (by simp [Table.keys])
  simp [ofJson?, hslots]

/-- The canonical data of a post is read back strictly. -/
theorem ChainPost.ofJson?_toData (p : ChainPost) : ofJson? p.toData = some p := by
  have hslots : Record.slots? fields p.toData =
      some [some _, some _, some _, some _, some _, some _, some _] :=
    Record.slots?_ofMembers (by simp [Table.keys])
  simp [ofJson?, hslots]

/-! ## Reading again -/

namespace Payload

variable {entity : Entity}

/-- What is read from a payload carries no marker. -/
theorem marker_of_normalizeItem {v : Json} {i : Item} (h : normalizeItem entity v = .ok i) :
    i.marker = none := by
  cases entity with
  | comments | userComments =>
    rcases CacheError.exists_of_map_eq_ok h with ⟨c, _, rfl⟩
    rfl
  | project =>
    rcases CacheError.exists_of_map_eq_ok h with ⟨p, _, rfl⟩
    rfl
  | chainPosts =>
    rcases CacheError.exists_of_map_eq_ok h with ⟨p, _, rfl⟩
    rfl
  | chain =>
    rcases CacheError.exists_of_map_eq_ok h with ⟨c, _, rfl⟩
    rfl

/-- The data of an item that was read is read as the same item. -/
theorem normalizeItem_data {v : Json} {i : Item} (h : normalizeItem entity v = .ok i) :
    normalizeItem entity i.data = .ok i := by
  have hmarker : Item.new i.id i.data = i := by
    rw [Item.new, ← marker_of_normalizeItem h]
  have hcanonical : i.Canonical entity := Item.canonical_of_normalizeItem h
  rw [Item.Canonical, hmarker] at hcanonical
  exact hcanonical

/-- The data of the items of a list that was read is read as the same list. -/
theorem normalizeRows_data {rows : List Json} {items : List Item}
    (h : normalizeRows entity rows = .ok items) :
    normalizeRows entity (items.map Item.data) = .ok items := by
  induction rows generalizing items with
  | nil =>
    obtain rfl := Except.ok.inj h
    rfl
  | cons row rest ih =>
    rcases exists_of_normalizeRows_cons h with ⟨item, items', hitem, hitems, rfl⟩
    simp only [List.map_cons, normalizeRows, normalizeItem_data hitem, ih hitems]
    rfl

/-- A list answer that was read is the list of its rows. -/
theorem exists_rows_of_normalizeValue (hentity : entity.isCollection = true) {data : Json}
    {value : CacheValue} (h : normalizeValue entity data = .ok value) :
    ∃ rows items, normalizeRows entity rows = .ok items ∧ value = .list items := by
  rw [normalizeValue, if_pos hentity] at h
  split at h
  · rcases CacheError.exists_of_map_eq_ok h with ⟨items, hitems, rfl⟩
    exact ⟨_, items, hitems, rfl⟩
  · cases h

/-- What was written in canonical form is read back, tolerantly and strictly.  So reading an
item or a list of items again, from its data, gives the same item or list. -/
theorem canonical_read_back :
    (∀ c : Comment, Comment.normalize c.toItem.data = .ok c ∧
      Comment.ofJson? c.toItem.data = some c) ∧
    (∀ p : Project, Project.normalize p.toItem.data = .ok p ∧
      Project.ofJson? p.toItem.data = some p) ∧
    (∀ c : Chain, Chain.normalize c.toItem.data = .ok c ∧ Chain.ofJson? c.toItem.data = some c) ∧
    (∀ p : ChainPost, ChainPost.normalize p.toItem.data = .ok p ∧
      ChainPost.ofJson? p.toItem.data = some p) ∧
    (∀ entity v i, normalizeItem entity v = .ok i → normalizeItem entity i.data = .ok i) ∧
    ∀ entity data value, entity.isCollection = true → normalizeValue entity data = .ok value →
      ∃ items, value = .list items ∧
        normalizeValue entity (.array (items.map Item.data)) = .ok (.list items) := by
  refine ⟨?_, ?_, ?_, ?_, ?_, ?_⟩
  · exact fun c => ⟨c.normalize_toData, c.ofJson?_toData⟩
  · exact fun p => ⟨p.normalize_toData, p.ofJson?_toData⟩
  · exact fun c => ⟨c.normalize_toData, c.ofJson?_toData⟩
  · exact fun p => ⟨p.normalize_toData, p.ofJson?_toData⟩
  · exact fun entity v i h => normalizeItem_data h
  · intro entity data value hentity h
    rcases exists_rows_of_normalizeValue hentity h with ⟨rows, items, hitems, hvalue⟩
    refine ⟨items, hvalue, ?_⟩
    rw [normalizeValue, if_pos hentity]
    change (normalizeRows entity (items.map Item.data)).map CacheValue.list = _
    rw [normalizeRows_data hitems]
    rfl

/-- A comment in a wrapper, under other names than the canonical ones, is read back from the
canonical data of its item. -/
theorem canonical_read_back_wrapped :
    let v := Json.ofMembers
      [("comment",
        Json.ofMembers
          [("_id", .string "c1"), ("body", .string "nice trip"), ("likes", Json.int 3)])]
    let c : Comment := ⟨"c1", "nice trip", none, none, Count.clamp 3, Count.zero, none⟩
    normalizeItem .comments v = .ok c.toItem ∧
      normalizeItem .comments c.toItem.data = .ok c.toItem ∧
      normalizeValue .comments (.array [v]) = .ok (.list [c.toItem]) ∧
      ∃ items, CacheValue.list [c.toItem] = .list items ∧
        normalizeValue .comments (.array (items.map Item.data)) = .ok (.list items) := by
  intro v c
  obtain ⟨_, _, _, _, hitem, hvalue⟩ := canonical_read_back
  have hv : normalizeItem .comments v = .ok c.toItem := rfl
  have hlist : normalizeValue .comments (.array [v]) = .ok (.list [c.toItem]) := rfl
  exact ⟨hv, hitem .comments v c.toItem hv, hlist, hvalue .comments _ _ rfl hlist⟩

end Payload
end OptimisticCache
