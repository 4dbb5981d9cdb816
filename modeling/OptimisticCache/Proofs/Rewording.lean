import Mathlib.Data.List.Forall2
import Mathlib.Logic.Relation
import OptimisticCache.Backend.Envelope
import OptimisticCache.Proofs.RoundTrips
/-!
# Rewordings of an envelope

One and the same answer may come in many wordings.  A field of the page goes by
several names, a page number that is zero and a status or a message that is null may
be left out, and members that nobody reads may stand beside the fields, in the
envelope and in the page.  Each such change is a step between objects.  A step keeps
where the fields of the record stand, so that after any number of steps the same
envelope is read.

It matters that no step gets in the way of a field: an envelope that cannot be read
is not refused, but taken for the data itself.

Main results:

- Theorem {lit}`Record.slots?_of_gives`: a record is read from where its fields
  stand.
- Theorem {lit}`Record.Tells.rewords`: one step keeps what an object tells.
- Theorem {lit}`Envelope.tells_toJson`: what was written tells the envelope.
- Theorem {lit}`Envelope.ofBody_of_reworded`: every rewording of an envelope is read as
  the envelope, and a body without data is the data itself.
-/

namespace OptimisticCache

/-! ## Objects whose members stand in order -/

namespace Json

/-- Take a member out of an object; other values stay as they are. -/
def dropMember (v : Json) (name : String) : Json :=
  match v with
  | .object members => .object (Table.erase name members)
  | other => other

/-- An object whose members stand in the order of their names, each name once. -/
def IsTable (v : Json) : Prop :=
  ∃ members, v = .object members ∧ Table.Sorted members

/-- An object that is built from members has each name once. -/
theorem isTable_ofMembers (members : List (String × Json)) : (ofMembers members).IsTable :=
  ⟨_, rfl, Table.sorted_ofList members⟩

/-- An object has only the members that were given. -/
theorem get?_ofMembers_of_not_mem {name : String} {members : List (String × Json)}
    (h : name ∉ Table.keys members) : (ofMembers members).get? name = none := by
  rw [get?_ofMembers]
  apply Table.get?_eq_none_of_not_mem
  rwa [Table.keys, List.map_reverse, List.mem_reverse]

variable {v : Json}

/-- Dropping a member leaves each name once. -/
theorem IsTable.dropMember (h : v.IsTable) (name : String) : (v.dropMember name).IsTable := by
  obtain ⟨members, rfl, hsorted⟩ := h
  exact ⟨_, rfl, Table.sorted_erase name hsorted⟩

/-- So does setting one. -/
theorem IsTable.setMember (h : v.IsTable) (name : String) (w : Json) :
    (v.setMember name w).IsTable := by
  obtain ⟨members, rfl, hsorted⟩ := h
  exact ⟨_, rfl, Table.insert_sorted name w hsorted⟩

/-- A dropped member is gone, the others stay. -/
theorem IsTable.get?_dropMember (h : v.IsTable) (name other : String) :
    (v.dropMember name).get? other = if other = name then none else v.get? other := by
  obtain ⟨members, rfl, -⟩ := h
  exact Table.get?_erase name other members

/-- A member that was set has its new value, the others stay. -/
theorem IsTable.get?_setMember (h : v.IsTable) (name other : String) (w : Json) :
    (v.setMember name w).get? other = if other = name then some w else v.get? other := by
  obtain ⟨members, rfl, -⟩ := h
  exact Table.get?_insert name other w members

end Json

/-! ## Records -/

namespace Record

/-- What an object gives for a field: the value under one of its names, while nothing stands under
the others, or nothing at all. -/
inductive Gives (v : Json) (f : Field) : Option Json → Prop
  | given {name : String} {w : Json} (hname : name ∈ f.names) (h : v.get? name = some w)
      (hothers : ∀ other ∈ f.names, other ≠ name → v.get? other = none) : Gives v f (some w)
  | missing (h : ∀ name ∈ f.names, v.get? name = none) : Gives v f none

/-- One change of the wording of a record with the given fields: a field is renamed, a field with a
value that may be left out is dropped, or a member is added that is no field. -/
inductive Rewords (fields : List Field) (omissible : Field → Json → Prop) : Json → Json → Prop
  | renamed {v w : Json} {f : Field} {name name' : String} (hf : f ∈ fields)
      (hname : name ∈ f.names) (hname' : name' ∈ f.names) (h : v.get? name = some w) :
      Rewords fields omissible v ((v.dropMember name).setMember name' w)
  | dropped {v w : Json} {f : Field} {name : String} (hf : f ∈ fields) (hname : name ∈ f.names)
      (h : v.get? name = some w) (ho : omissible f w) :
      Rewords fields omissible v (v.dropMember name)
  | added {v : Json} {name : String} (hname : ∀ f ∈ fields, name ∉ f.names) (w : Json) :
      Rewords fields omissible v (v.setMember name w)

/-- No name is that of two fields. -/
def Apart (fields : List Field) : Prop :=
  ∀ f ∈ fields, ∀ g ∈ fields, ∀ name ∈ f.names, name ∈ g.names → f = g

instance (fields : List Field) : Decidable (Apart fields) :=
  inferInstanceAs (Decidable (∀ f ∈ fields, ∀ g ∈ fields, ∀ name ∈ f.names, name ∈ g.names → f = g))

/-- A field stands in an object with a value, or it is missing and may be. -/
def Stands (omissible : Field → Json → Prop) (v : Json) (f : Field) (slot : Option Json) : Prop :=
  Gives v f slot ∨ ∃ w, slot = some w ∧ omissible f w ∧ Gives v f none

/-- An object tells a record: every field stands in it. -/
structure Tells (fields : List Field) (omissible : Field → Json → Prop) (slots : List (Option Json))
    (v : Json) : Prop where
  table : v.IsTable
  stands : List.Forall₂ (Stands omissible v) fields slots

variable {fields : List Field} {omissible : Field → Json → Prop} {slots : List (Option Json)}
  {v v' w : Json} {f : Field} {slot : Option Json} {name : String}

/-! ### Reading -/

/-- A field is read from where it stands. -/
theorem namedSlot?_of_gives {members : List (String × Json)} (hsorted : Table.Sorted members)
    (h : Gives (.object members) f slot) : namedSlot? members f = some slot := by
  cases h with
  | @given name w hname hvalue hothers =>
    have hfilter : (members.filter fun m => f.names.contains m.1) = [(name, w)] := by
      rw [← Table.filter_key_of_get? hsorted hvalue]
      apply List.filter_congr
      intro m hm
      by_cases hmname : m.1 = name
      · simp [hmname, hname]
      · have hunknown : m.1 ∉ f.names := by
          intro hmem
          have hsome : (Table.get? m.1 members).isSome = true :=
            Table.mem_keys_iff.mp (List.mem_map_of_mem hm)
          have hnone : Table.get? m.1 members = none := hothers m.1 hmem hmname
          rw [hnone] at hsome
          cases hsome
        simp [hmname, hunknown]
    rw [namedSlot?, hfilter]
  | missing hnone =>
    have hfilter : (members.filter fun m => f.names.contains m.1) = [] := by
      rw [List.filter_eq_nil_iff]
      intro m hm hcontains
      have hsome : (Table.get? m.1 members).isSome = true :=
        Table.mem_keys_iff.mp (List.mem_map_of_mem hm)
      have hmissing : Table.get? m.1 members = none := hnone m.1 (by simpa using hcontains)
      rw [hmissing] at hsome
      cases hsome
    rw [namedSlot?, hfilter]

/-- An object that was built from members with different names, of which one is the field. -/
theorem gives_ofMembers {given : List (String × Json)} (h : (Table.keys given).Nodup)
    (hm : (name, w) ∈ given) (hname : name ∈ f.names)
    (hothers : ∀ other ∈ f.names, other ∈ Table.keys given → other = name) :
    Gives (Json.ofMembers given) f (some w) := by
  refine .given hname (Json.get?_ofMembers_of_mem h hm) ?_
  intro other hother hne
  exact Json.get?_ofMembers_of_not_mem fun hmem => hne (hothers other hother hmem)

/-- A record is read from where its fields stand. -/
theorem slots?_of_gives (hv : v.IsTable) (h : List.Forall₂ (Gives v) fields slots) :
    slots? fields v = some slots := by
  obtain ⟨members, rfl, hsorted⟩ := hv
  change namedSlots? members fields = some slots
  induction h with
  | nil => rfl
  | cons hhead _ ih => rw [namedSlots?, namedSlot?_of_gives hsorted hhead, ih]

/-! ### One step -/

/-- Only one value stands under the names of a field. -/
theorem Gives.eq_of_get? (h : Gives v f slot) (hname : name ∈ f.names)
    (hvalue : v.get? name = some w) :
    slot = some w ∧ ∀ other ∈ f.names, other ≠ name → v.get? other = none := by
  cases h with
  | @given name' w' hname' hvalue' hothers =>
    by_cases hsame : name = name'
    · subst hsame
      exact ⟨hvalue'.symm.trans hvalue, hothers⟩
    · rw [hothers name hname hsame] at hvalue
      cases hvalue
  | missing hnone =>
    rw [hnone name hname] at hvalue
    cases hvalue

/-- What is given for a field depends on what stands under its names only. -/
theorem Gives.congr (h : Gives v f slot) (hsame : ∀ name ∈ f.names, v'.get? name = v.get? name) :
    Gives v' f slot := by
  cases h with
  | given hname hvalue hothers =>
    refine .given hname ((hsame _ hname).trans hvalue) ?_
    intro other hother hne
    rw [hsame other hother, hothers other hother hne]
  | missing hnone =>
    refine .missing ?_
    intro name hname
    rw [hsame name hname, hnone name hname]

/-- How a field stands is told by the members under its names. -/
theorem Stands.congr (h : Stands omissible v f slot)
    (hsame : ∀ name ∈ f.names, v'.get? name = v.get? name) : Stands omissible v' f slot := by
  rcases h with h | ⟨w, hslot, ho, h⟩
  · exact Or.inl (h.congr hsame)
  · exact Or.inr ⟨w, hslot, ho, h.congr hsame⟩

/-- A field under one of whose names a value stands has this value. -/
theorem Stands.gives_of_get? (h : Stands omissible v f slot) (hname : name ∈ f.names)
    (hvalue : v.get? name = some w) : Gives v f slot ∧ slot = some w := by
  rcases h with h | ⟨_, _, _, h⟩
  · exact ⟨h, (h.eq_of_get? hname hvalue).1⟩
  · cases (h.eq_of_get? hname hvalue).1

/-- A field still stands with its slot after one change of wording. -/
theorem Stands.rewords (hapart : Apart fields) (hv : v.IsTable) (hf : f ∈ fields)
    (h : Stands omissible v f slot) (hstep : Rewords fields omissible v v') :
    Stands omissible v' f slot := by
  cases hstep with
  | @renamed w g name name' hg hname hname' hvalue =>
    have hget : ∀ other, ((v.dropMember name).setMember name' w).get? other =
        if other = name' then some w else if other = name then none else v.get? other := by
      intro other
      rw [(hv.dropMember name).get?_setMember, hv.get?_dropMember]
    by_cases hsame : f = g
    · subst hsame
      obtain ⟨hgives, rfl⟩ := h.gives_of_get? hname hvalue
      refine Or.inl (.given hname' (by rw [hget, if_pos rfl]) ?_)
      intro other hother hne
      rw [hget, if_neg hne]
      split
      · rfl
      · rename_i hold
        exact (hgives.eq_of_get? hname hvalue).2 other hother hold
    · apply h.congr
      intro other hother
      have hne : ∀ n ∈ g.names, other ≠ n := by
        rintro n hn rfl
        exact hsame (hapart f hf g hg other hother hn)
      rw [hget, if_neg (hne name' hname'), if_neg (hne name hname)]
  | @dropped w g name hg hname hvalue ho =>
    by_cases hsame : f = g
    · subst hsame
      obtain ⟨hgives, rfl⟩ := h.gives_of_get? hname hvalue
      refine Or.inr ⟨w, rfl, ho, .missing ?_⟩
      intro other hother
      rw [hv.get?_dropMember]
      split
      · rfl
      · rename_i hne
        exact (hgives.eq_of_get? hname hvalue).2 other hother hne
    · apply h.congr
      intro other hother
      rw [hv.get?_dropMember, if_neg]
      rintro rfl
      exact hsame (hapart f hf g hg other hother hname)
  | @added name hunknown w =>
    apply h.congr
    intro other hother
    rw [hv.get?_setMember, if_neg]
    rintro rfl
    exact hunknown f hf hother

/-- A change of wording leaves each name once. -/
theorem isTable_of_rewords (hv : v.IsTable) (hstep : Rewords fields omissible v v') :
    v'.IsTable := by
  cases hstep with
  | renamed _ _ _ _ => exact (hv.dropMember _).setMember _ _
  | dropped _ _ _ _ => exact hv.dropMember _
  | added _ _ => exact hv.setMember _ _

/-- One change of the wording keeps what an object tells. -/
theorem Tells.rewords (hapart : Apart fields) (h : Tells fields omissible slots v)
    (hstep : Rewords fields omissible v v') : Tells fields omissible slots v' := by
  obtain ⟨hv, hstands⟩ := h
  refine ⟨isTable_of_rewords hv hstep, ?_⟩
  have hall : ∀ {gs : List Field} {slots : List (Option Json)}, gs ⊆ fields →
      List.Forall₂ (Stands omissible v) gs slots → List.Forall₂ (Stands omissible v') gs slots := by
    intro gs slots hgs h
    induction h with
    | nil => exact .nil
    | cons hhead _ ih =>
      obtain ⟨hg, hrest⟩ := List.cons_subset.mp hgs
      exact .cons (hhead.rewords hapart hv hg hstep) (ih hrest)
  exact hall (List.Subset.refl fields) hstands

end Record

/-! ## Pages -/

namespace Pagination

/-- A number of the page that is zero may be left out. -/
def omissible (_ : Record.Field) (w : Json) : Prop :=
  w = wordJson 0

/-- The numbers of a page, in the order of its fields. -/
def numbers (p : Pagination) : List UInt64 :=
  [p.page, p.limit, p.total, p.totalPages]

/-- One change of the wording of a page. -/
def Rewords : Json → Json → Prop :=
  Record.Rewords fields omissible

/-- An object tells a page. -/
def Tells (p : Pagination) : Json → Prop :=
  Record.Tells fields omissible (p.numbers.map fun n => some (wordJson n))

/-- A word is read back from its JSON. -/
theorem word?_wordJson (n : UInt64) : Record.word? (wordJson n) = some n := by
  have hrange : 0 ≤ (n.toNat : Int) ∧ (n.toNat : Int) < UInt64.size :=
    ⟨Int.natCast_nonneg _, Int.ofNat_lt.mpr n.toNat_lt_size⟩
  rw [wordJson, Json.int, Record.word?, if_pos hrange, Int.toNat_natCast, UInt64.ofNat_toNat]

variable {p : Pagination} {v v' : Json} {f : Record.Field} {n : UInt64}

/-- A number is read from where its field stands; if it is missing it is zero. -/
theorem wordOrZero?_of_stands (h : Record.Stands omissible v f (some (wordJson n))) :
    ∃ slot, Record.Gives v f slot ∧ Record.wordOrZero? slot = some n := by
  rcases h with h | ⟨w, hw, hzero, h⟩
  · exact ⟨_, h, word?_wordJson n⟩
  · obtain rfl := Option.some.inj hw
    have hread := congrArg Record.word? hzero
    rw [word?_wordJson, word?_wordJson] at hread
    exact ⟨none, h, hread.symm⟩

/-- A page is read from every JSON that tells it. -/
theorem ofJson?_of_tells (h : p.Tells v) : ofJson? v = some p := by
  obtain ⟨hv, hstands⟩ := h
  simp only [fields, numbers, List.map_cons, List.map_nil, List.forall₂_cons] at hstands
  obtain ⟨hpage, hlimit, htotal, hpages, _⟩ := hstands
  obtain ⟨page, hpage, hpageRead⟩ := wordOrZero?_of_stands hpage
  obtain ⟨limit, hlimit, hlimitRead⟩ := wordOrZero?_of_stands hlimit
  obtain ⟨total, htotal, htotalRead⟩ := wordOrZero?_of_stands htotal
  obtain ⟨pages, hpages, hpagesRead⟩ := wordOrZero?_of_stands hpages
  have hslots : Record.slots? fields v = some [page, limit, total, pages] :=
    Record.slots?_of_gives hv (.cons hpage (.cons hlimit (.cons htotal (.cons hpages .nil))))
  simp only [ofJson?, hslots, hpageRead, hlimitRead, htotalRead, hpagesRead]
  rfl

/-- The JSON of a page tells it. -/
theorem tells_toJson (p : Pagination) : p.Tells p.toJson := by
  refine ⟨Json.isTable_ofMembers _, ?_⟩
  refine .cons (Or.inl ?_) (.cons (Or.inl ?_) (.cons (Or.inl ?_) (.cons (Or.inl ?_) .nil)))
  all_goals
    exact Record.gives_ofMembers (by simp [Table.keys]) (by simp) List.mem_cons_self
      (by simp [Table.keys])

/-- A page is still told after one change of wording. -/
theorem Tells.rewords (h : p.Tells v) (hstep : Rewords v v') : p.Tells v' :=
  Record.Tells.rewords (by decide) h hstep

end Pagination

/-! ## Envelopes -/

namespace Envelope

/-- A status or a message that is null may be left out. -/
def omissible (f : Record.Field) (w : Json) : Prop :=
  ("status" ∈ f.names ∨ "message" ∈ f.names) ∧ w = .null

/-- One change of the wording of an envelope, in the envelope itself or in its page. -/
inductive Rewords : Json → Json → Prop
  | outside {body body' : Json} (h : Record.Rewords fields omissible body body') :
      Rewords body body'
  | inPage {body page page' : Json} (hpage : body.get? "pagination" = some page)
      (h : Pagination.Rewords page page') : Rewords body (body.setMember "pagination" page')

/-- An object tells an envelope: every field stands in it, and the page, if there is one, is told
by the value that stands for it. -/
def Tells (e : Envelope) (body : Json) : Prop :=
  ∃ page, Option.Rel Pagination.Tells e.pagination page ∧
    Record.Tells fields omissible
      [some e.status, some (Json.stringOrNull e.message), some e.data, page] body

variable {e : Envelope} {body body' : Json}

/-- What was written tells the envelope. -/
theorem tells_toJson (e : Envelope) : e.Tells e.toJson := by
  cases hpage : e.pagination with
  | none =>
    refine ⟨none, by rw [hpage]; exact .none, Json.isTable_ofMembers _, ?_⟩
    rw [toJson, hpage, List.append_nil]
    refine .cons (Or.inl ?_) (.cons (Or.inl ?_) (.cons (Or.inl ?_) (.cons (Or.inl ?_) .nil)))
    case refine_4 =>
      refine .missing ?_
      intro name hname
      obtain rfl := List.mem_singleton.mp hname
      exact Json.get?_ofMembers_of_not_mem (by simp [Table.keys])
    all_goals
      exact Record.gives_ofMembers (by simp [Table.keys]) (by simp) List.mem_cons_self
        (by simp [Table.keys])
  | some p =>
    refine ⟨some p.toJson, by rw [hpage]; exact .some p.tells_toJson, Json.isTable_ofMembers _, ?_⟩
    rw [toJson, hpage]
    refine .cons (Or.inl ?_) (.cons (Or.inl ?_) (.cons (Or.inl ?_) (.cons (Or.inl ?_) .nil)))
    all_goals
      exact Record.gives_ofMembers (by simp [Table.keys]) (by simp) List.mem_cons_self
        (by simp [Table.keys])

/-! ### One step -/

/-- So is a page that stands in an envelope. -/
theorem rel_tells_of_rewords {p : Option Pagination} {page page' : Json}
    (h : Option.Rel Pagination.Tells p (some page)) (hstep : Pagination.Rewords page page') :
    Option.Rel Pagination.Tells p (some page') := by
  cases h with
  | some h => exact .some (h.rewords hstep)

/-- Another wording of the page, put in the place of the page, keeps what a body tells. -/
theorem Tells.setMember_page {page page' : Json} (h : e.Tells body)
    (hpage : body.get? "pagination" = some page) (hstep : Pagination.Rewords page page') :
    e.Tells (body.setMember "pagination" page') := by
  obtain ⟨slot, hslot, hbody, hstands⟩ := h
  simp only [fields, List.forall₂_cons] at hstands
  obtain ⟨hstatus, hmessage, hdata, hpagination, -⟩ := hstands
  obtain ⟨-, rfl⟩ := hpagination.gives_of_get? List.mem_cons_self hpage
  have hother : ∀ name : String, name ≠ "pagination" → ∀ n ∈ [name],
      (body.setMember "pagination" page').get? n = body.get? n := by
    intro name hne n hn
    obtain rfl := List.mem_singleton.mp hn
    rw [hbody.get?_setMember, if_neg hne]
  have hset : Record.Gives (body.setMember "pagination" page') ⟨["pagination"], true⟩
      (some page') := by
    refine .given List.mem_cons_self (by rw [hbody.get?_setMember, if_pos rfl]) ?_
    intro other hmem hne
    exact absurd (List.mem_singleton.mp hmem) hne
  refine ⟨some page', rel_tells_of_rewords hslot hstep, hbody.setMember _ _, ?_⟩
  exact .cons (hstatus.congr (hother "status" (by decide)))
    (.cons (hmessage.congr (hother "message" (by decide)))
      (.cons (hdata.congr (hother "data" (by decide))) (.cons (Or.inl hset) .nil)))

/-- One change of the wording keeps what a body tells. -/
theorem Tells.rewords (h : e.Tells body) (hstep : Rewords body body') : e.Tells body' := by
  cases hstep with
  | outside hstep =>
    obtain ⟨page, hpage, htells⟩ := h
    exact ⟨page, hpage, htells.rewords (by decide) hstep⟩
  | inPage hpage hstep => exact h.setMember_page hpage hstep

/-! ### Reading -/

/-- The status is read wherever it stands, and as null where it is left out. -/
theorem status_of_stands (h : Record.Stands omissible body ⟨["status"], true⟩ (some e.status)) :
    ∃ slot, Record.Gives body ⟨["status"], true⟩ slot ∧ slot.getD .null = e.status := by
  rcases h with h | ⟨w, hw, ⟨-, rfl⟩, h⟩
  · exact ⟨_, h, rfl⟩
  · exact ⟨none, h, (Option.some.inj hw).symm⟩

/-- The message is read wherever it stands, and as missing where it is left out. -/
theorem message_of_stands
    (h : Record.Stands omissible body ⟨["message"], true⟩ (some (Json.stringOrNull e.message))) :
    ∃ slot, Record.Gives body ⟨["message"], true⟩ slot ∧
      Record.optionalText? slot = some e.message := by
  rcases h with h | ⟨w, hw, ⟨-, rfl⟩, h⟩
  · exact ⟨_, h, Record.optionalText?_stringOrNull e.message⟩
  · refine ⟨none, h, ?_⟩
    rw [← Record.optionalText?_stringOrNull e.message, hw]
    rfl

/-- The data are read, since they are never left out. -/
theorem data_of_stands (h : Record.Stands omissible body ⟨["data"], true⟩ (some e.data)) :
    Record.Gives body ⟨["data"], true⟩ (some e.data) := by
  rcases h with h | ⟨_, _, ⟨hnames, -⟩, -⟩
  · exact h
  · exact absurd hnames (by decide)

/-- The page is read as the one that is told. -/
theorem page_of_stands {page : Option Json} (hpage : Option.Rel Pagination.Tells e.pagination page)
    (h : Record.Stands omissible body ⟨["pagination"], true⟩ page) :
    Record.Gives body ⟨["pagination"], true⟩ page ∧ pagination? page = some e.pagination := by
  rcases h with h | ⟨_, _, ⟨hnames, -⟩, -⟩
  · refine ⟨h, ?_⟩
    generalize e.pagination = p at hpage
    cases hpage with
    | none => rfl
    | some htells =>
      have hread := Pagination.ofJson?_of_tells htells
      obtain ⟨⟨members, rfl, -⟩, -⟩ := htells
      rw [pagination?, hread]
      · rfl
      · intro hnull
        cases hnull
  · exact absurd hnames (by decide)

/-- A body that tells an envelope is read as the envelope. -/
theorem ofBody_of_tells (h : e.Tells body) : ofBody body = e := by
  obtain ⟨page, hpage, hbody, hstands⟩ := h
  simp only [fields, List.forall₂_cons] at hstands
  obtain ⟨hstatus, hmessage, hdata, hpagination, -⟩ := hstands
  obtain ⟨status, hstatus, hstatusRead⟩ := status_of_stands hstatus
  obtain ⟨message, hmessage, hmessageRead⟩ := message_of_stands hmessage
  obtain ⟨hpagination, hpageRead⟩ := page_of_stands hpage hpagination
  have hdata := data_of_stands hdata
  have hslots : Record.slots? fields body = some [status, message, some e.data, page] :=
    Record.slots?_of_gives hbody
      (.cons hstatus (.cons hmessage (.cons hdata (.cons hpagination .nil))))
  have hread : ofJson? body = some e := by
    simp only [ofJson?, hslots, hmessageRead, hpageRead, hstatusRead]
    rfl
  have hasData : hasData body = true := by
    cases hdata with
    | given hname hvalue _ =>
      obtain rfl := List.mem_singleton.mp hname
      rw [hasData, hvalue]
      rfl
  rw [ofBody, if_pos hasData, hread, Option.getD_some]

/-- Whatever the wording of an envelope, just this envelope is read from it; and a body without a
data member is the data itself. -/
theorem ofBody_of_reworded :
    (∀ (e : Envelope) (body : Json), Relation.ReflTransGen Rewords e.toJson body →
      ofBody body = e) ∧
    ∀ body : Json, body.get? "data" = none → ofBody body = ⟨.null, none, body, none⟩ := by
  refine ⟨?_, fun body => ofBody_without_data⟩
  intro e body hreworded
  apply ofBody_of_tells
  induction hreworded with
  | refl => exact tells_toJson e
  | tail _ hstep ih => exact ih.rewords hstep

/-- An envelope without its null message, whose page goes by other names, leaves a zero out and
says where the next page is; and a bare list. -/
theorem ofBody_of_reworded_aliases :
    let e : Envelope := ⟨.string "success", none, .array [], some ⟨1, 20, 0, 3⟩⟩
    let body := Json.ofMembers
      [("status", .string "success"), ("data", .array []), ("trace", .bool true),
        ("pagination", Json.ofMembers
          [("page", Json.int 1), ("pageSize", Json.int 20), ("pages", Json.int 3),
            ("next", Json.int 2)])]
    let bare := Json.array [Json.ofMembers [("id", .string "c1")]]
    Relation.ReflTransGen Rewords e.toJson body ∧ ofBody body = e ∧
      bare.get? "data" = none ∧ ofBody bare = ⟨.null, none, bare, none⟩ := by
  intro e body bare
  obtain ⟨hread, hbare⟩ := ofBody_of_reworded
  let page₀ := Pagination.toJson ⟨1, 20, 0, 3⟩
  let page₁ := (page₀.dropMember "limit").setMember "pageSize" (Json.int 20)
  let page₂ := (page₁.dropMember "total_pages").setMember "pages" (Json.int 3)
  let page₃ := page₂.dropMember "total"
  let page₄ := page₃.setMember "next" (Json.int 2)
  let body₁ := e.toJson.setMember "pagination" page₁
  let body₂ := body₁.setMember "pagination" page₂
  let body₃ := body₂.setMember "pagination" page₃
  let body₄ := body₃.setMember "pagination" page₄
  let body₅ := body₄.dropMember "message"
  have hlimit : Pagination.Rewords page₀ page₁ :=
    .renamed (show ⟨["limit", "per_page", "pageSize"], true⟩ ∈ Pagination.fields by decide)
      (by decide) (by decide) (by decide +kernel)
  have hpages : Pagination.Rewords page₁ page₂ :=
    .renamed (show ⟨["total_pages", "totalPages", "pages"], true⟩ ∈ Pagination.fields by decide)
      (by decide) (by decide) (by decide +kernel)
  have htotal : Pagination.Rewords page₂ page₃ :=
    .dropped (show ⟨["total", "total_count", "totalCount"], true⟩ ∈ Pagination.fields by decide)
      (by decide) (show page₂.get? "total" = some (Json.int 0) by decide +kernel) rfl
  have hnext : Pagination.Rewords page₃ page₄ := .added (by decide) (Json.int 2)
  have hmessage : Record.Rewords fields omissible body₄ body₅ :=
    .dropped (show ⟨["message"], true⟩ ∈ fields by decide) (by decide)
      (show body₄.get? "message" = some .null by decide +kernel) ⟨by decide, rfl⟩
  have htrace : Record.Rewords fields omissible body₅ (body₅.setMember "trace" (.bool true)) :=
    .added (by decide) (.bool true)
  have hbody : body₅.setMember "trace" (.bool true) = body := by decide +kernel
  have hreworded : Relation.ReflTransGen Rewords e.toJson body := by
    rw [← hbody]
    exact .tail (.tail (.tail (.tail (.tail (.tail .refl
      (.inPage (by decide +kernel) hlimit)) (.inPage (by decide +kernel) hpages))
      (.inPage (by decide +kernel) htotal)) (.inPage (by decide +kernel) hnext))
      (.outside hmessage)) (.outside htrace)
  exact ⟨hreworded, hread e body hreworded, rfl, hbare bare rfl⟩

end Envelope
end OptimisticCache
