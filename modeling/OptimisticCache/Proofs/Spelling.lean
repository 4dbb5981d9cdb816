import OptimisticCache.Payload.Field
/-!
# Spellings of a payload

A payload is written field by field.  Each field is put under one of its names, as
one of the values that give it, or it is left out or null where that means the same;
further members may stand around the fields, also inside the objects on the way to a
nested name, and the whole object may stand in a wrapper.

What makes the many combinations readable is that the names of different fields are
apart: none of them is the beginning of another.  So writing a field changes nothing
at the names of the other fields, and all the reader meets at the other names of the
same field is nothing, a null, or an object on the way to a longer name.

Main results:

- Theorem {lit}`Decimal.readInt_of_numeral`: every numeral is read as its number.
- Theorems {lit}`Payload.follow_place_self` and {lit}`Payload.follow_place_of_apart`:
  a value that is put at a path is found there, and nothing else moves.
- Theorem {lit}`Payload.further_of_names`: members with other names than the accepted
  ones do not get in the way.
- Theorem {lit}`Payload.Spells.exists_stands`: behind its wrapper a payload holds each
  field as it was written.
- Theorems {lit}`Payload.pickText_text_of_stands`,
  {lit}`Payload.pickText_optional_of_stands` and
  {lit}`Payload.pickCount_of_stands`: fields that were written are read back.
-/

namespace OptimisticCache

/-! ## Numerals -/

namespace Decimal

/-- The numerals of a whole number: an optional sign, zeros in front, and the digits. -/
inductive Numeral : List Char → Int → Prop
  | unsigned (zeros n : Nat) : Numeral (List.replicate zeros '0' ++ digits n) n
  | plus (zeros n : Nat) : Numeral ('+' :: (List.replicate zeros '0' ++ digits n)) n
  | minus (zeros n : Nat) : Numeral ('-' :: (List.replicate zeros '0' ++ digits n)) (-n)

/-- Zeros in front of a number are digits too. -/
theorem isDigit_of_mem_padded {zeros n : Nat} {c : Char}
    (h : c ∈ List.replicate zeros '0' ++ digits n) : isDigit c = true := by
  rcases List.mem_append.mp h with h | h
  · rw [List.eq_of_mem_replicate h]
    decide
  · exact isDigit_of_mem_digits h

/-- Zeros in front of a number do not change it. -/
theorem readNat_padded (zeros n : Nat) : readNat (List.replicate zeros '0' ++ digits n) = some n := by
  have hne : (List.replicate zeros '0' ++ digits n).isEmpty = false := by
    simp [digits_ne_nil]
  rw [readNat, hne, value?_replicate_zero, value_digits]
  rfl

/-- Every numeral is read as its number. -/
theorem readInt_of_numeral {cs : List Char} {n : Int} (h : Numeral cs n) : readInt cs = some n := by
  cases h with
  | unsigned zeros n =>
    have hread := readNat_padded zeros n
    cases hcs : List.replicate zeros '0' ++ digits n with
    | nil => simp [digits_ne_nil] at hcs
    | cons c cs =>
      have hc : isDigit c = true := isDigit_of_mem_padded (hcs ▸ List.mem_cons_self)
      rw [hcs] at hread
      rw [readInt_of_isDigit hc, hread]
      rfl
  | plus zeros n => simp [readInt, readNat_padded]
  | minus zeros n => simp [readInt, readNat_padded]

/-- No digit is blank. -/
theorem isBlank_of_isDigit {c : Char} (h : isDigit c = true) : Text.isBlank c = false := by
  have hrange : 48 ≤ c.toNat ∧ c.toNat ≤ 57 := by
    simp only [isDigit, digit?] at h
    split at h
    · assumption
    · cases h
  simp only [Text.isBlank, Bool.or_eq_false_iff, Bool.and_eq_false_iff, decide_eq_false_iff_not,
    beq_eq_false_iff_ne]
  omega

/-- No blank stands in a numeral. -/
theorem isBlank_of_mem_numeral {cs : List Char} {n : Int} (h : Numeral cs n) {c : Char}
    (hc : c ∈ cs) : Text.isBlank c = false := by
  cases h with
  | unsigned zeros n => exact isBlank_of_isDigit (isDigit_of_mem_padded hc)
  | plus zeros n =>
    rcases List.mem_cons.mp hc with rfl | hc
    · decide
    · exact isBlank_of_isDigit (isDigit_of_mem_padded hc)
  | minus zeros n =>
    rcases List.mem_cons.mp hc with rfl | hc
    · decide
    · exact isBlank_of_isDigit (isDigit_of_mem_padded hc)

end Decimal

namespace Payload

/-! ## Paths that are apart -/

/-- Neither path is the beginning of the other one. -/
def Apart (p q : FieldPath) : Prop :=
  ¬ p <+: q ∧ ¬ q <+: p

instance (p q : FieldPath) : Decidable (Apart p q) :=
  inferInstanceAs (Decidable (_ ∧ _))

/-- Two paths are apart in either order. -/
theorem Apart.symm {p q : FieldPath} (h : Apart p q) : Apart q p :=
  ⟨h.2, h.1⟩

/-- A path that is apart from another one is not empty. -/
theorem Apart.ne_nil {p q : FieldPath} (h : Apart p q) : q ≠ [] := by
  rintro rfl
  exact h.2 (List.nil_prefix)

/-- Paths that are apart stay so behind a common first name. -/
theorem Apart.tail {name : String} {p q : FieldPath} (h : Apart (name :: p) (name :: q)) :
    Apart p q :=
  ⟨fun hp => h.1 ((List.prefix_cons_inj name).mpr hp),
    fun hq => h.2 ((List.prefix_cons_inj name).mpr hq)⟩

/-! ## Putting a value at a path -/

/-- The members of an object; other values have none. -/
def members : Json → List (String × Json)
  | .object members => members
  | _ => []

/-- Put a value at the end of a path.  Objects on the way are made where there are none. -/
def place (v : Json) : FieldPath → Json → Json
  | [], w => w
  | name :: rest, w =>
    .object (Table.insert name (place ((v.get? name).getD .null) rest w) (members v))

/-- The members of a value are those that can be asked for. -/
theorem get?_members (v : Json) (name : String) : Table.get? name (members v) = v.get? name := by
  cases v <;> rfl

/-- Placing a value changes the first member of its path only. -/
theorem get?_place_cons (v : Json) (name name' : String) (rest : FieldPath) (w : Json) :
    (place v (name :: rest) w).get? name' =
      if name' = name then some (place ((v.get? name).getD .null) rest w) else v.get? name' := by
  change Table.get? name' (Table.insert _ _ _) = _
  rw [Table.get?_insert, get?_members]

/-- Behind a path there is an object. -/
theorem isObject_place (v w : Json) {path : FieldPath} (h : path ≠ []) :
    (place v path w).isObject = true := by
  cases path with
  | nil => exact absurd rfl h
  | cons name rest => rfl

/-- A path is followed member after member. -/
theorem follow_cons (v : Json) (name : String) (rest : FieldPath) :
    follow v (name :: rest) = (v.get? name).bind fun inner => follow inner rest := by
  rw [follow]
  cases v.get? name <;> rfl

/-- Nothing is found inside a value that is not an object. -/
theorem follow_of_not_object {v : Json} (h : v.isObject = false) {path : FieldPath}
    (hpath : path ≠ []) : follow v path = none := by
  cases path with
  | nil => exact absurd rfl hpath
  | cons name rest =>
    cases v with
    | object members => cases h
    | _ => rfl

/-- A value that is put at a path is found there. -/
theorem follow_place_self (v : Json) (path : FieldPath) (w : Json) :
    follow (place v path w) path = some w := by
  induction path generalizing v with
  | nil => rfl
  | cons name rest ih => rw [follow_cons, get?_place_cons, if_pos rfl, Option.bind_some, ih]

/-- A value that is put at a path changes nothing at the paths that are apart from it. -/
theorem follow_place_of_apart (v : Json) {p q : FieldPath} (h : Apart p q) (w : Json) :
    follow (place v p w) q = follow v q := by
  induction p generalizing v q with
  | nil => exact absurd rfl h.symm.ne_nil
  | cons name p ih =>
    cases q with
    | nil => exact absurd rfl h.ne_nil
    | cons name' q =>
      rw [follow_cons, follow_cons, get?_place_cons]
      by_cases hname : name' = name
      · subst hname
        have hrest : Apart p q := h.tail
        rw [if_pos rfl, Option.bind_some, ih _ hrest]
        cases v.get? name' with
        | none => exact follow_of_not_object rfl hrest.ne_nil
        | some inner => rfl
      · rw [if_neg hname]

/-! ## Fields as they may be written -/

/-- The values that give a text: the string, or a number with this text. -/
inductive GivesText : String → Json → Prop
  | string (s : String) : GivesText s (.string s)
  | number (n : Number) : GivesText n.text (.number n)

/-- The values that give a counter: the integer, or a numeral between blanks. -/
inductive GivesCount (c : Count) : Json → Prop
  | integer : GivesCount c (Json.int c.value)
  | numeral {core : List Char} (h : Decimal.Numeral core c.value) {front back : List Char}
      (hfront : ∀ b ∈ front, Text.isBlank b = true) (hback : ∀ b ∈ back, Text.isBlank b = true) :
      GivesCount c (.string (String.ofList (front ++ core ++ back)))

/-- One field of a record: its accepted names, the values that give it, and whether it may be
left out. -/
structure FieldSpec where
  names : List FieldPath
  gives : Json → Prop
  omissible : Prop
  /-- A field is given by a text or a number. -/
  plain : ∀ w, gives w → w.isObject = false ∧ w ≠ .null

namespace FieldSpec

/-- What gives a text is neither an object nor null. -/
theorem plain_of_givesText {s : String} {w : Json} (h : GivesText s w) :
    w.isObject = false ∧ w ≠ .null := by
  cases h with
  | string s => simp [Json.isObject]
  | number n => simp [Json.isObject]

/-- A text, which may be left out under a condition. -/
def text (names : List FieldPath) (s : String) (omissible : Prop) : FieldSpec :=
  ⟨names, GivesText s, omissible, fun _ => plain_of_givesText⟩

/-- A text that is left out if there is none. -/
def optional (names : List FieldPath) (s : Option String) : FieldSpec :=
  ⟨names, fun w => ∃ t, s = some t ∧ GivesText t w, s = none,
    fun _ ⟨_, _, h⟩ => plain_of_givesText h⟩

/-- A counter, which may be left out if it is zero. -/
def count (names : List FieldPath) (c : Count) : FieldSpec :=
  ⟨names, GivesCount c, c = Count.zero, fun _ h => by cases h <;> exact ⟨rfl, nofun⟩⟩

end FieldSpec

/-- Nothing that could be read stands at the name of a field: it is missing or null, or an object
on the way to a longer name of the field. -/
def Vacant (names : List FieldPath) (v : Json) (q : FieldPath) : Prop :=
  ∀ w, follow v q = some w → w = .null ∨ (w.isObject = true ∧ ∃ r, r ≠ [] ∧ q ++ r ∈ names)

/-- The names of the fields do not get in each other's way, nor in the way of the wrappers: a
wrapper is apart from all names of a field, or it is itself one of them and apart from the others. -/
structure Separate (wrappers : List String) (names : List (List FieldPath)) : Prop where
  deep : ∀ ns ∈ names, ∀ p ∈ ns, p ≠ []
  fields : names.Pairwise fun ns ms => ∀ p ∈ ns, ∀ q ∈ ms, Apart p q
  wrappers : ∀ name ∈ wrappers, ∀ ns ∈ names, ∀ p ∈ ns, p = [name] ∨ Apart p [name]

/-- An object with further members only: none of them could be taken for a wrapper or a field. -/
structure Further (wrappers : List String) (fields : List FieldSpec) (v : Json) : Prop where
  isObject : v.isObject = true
  wrappers : ∀ name ∈ wrappers, ∀ w, v.get? name = some w → w.isObject = false
  vacant : ∀ f ∈ fields, ∀ q ∈ f.names, Vacant f.names v q

/-- The objects in which the fields are written, each at most once, on top of further members. -/
inductive Written (further : Json) : List FieldSpec → Json → Prop
  | nothing : Written further [] further
  | given {f : FieldSpec} {fs : List FieldSpec} {v w : Json} {path : FieldPath}
      (h : Written further fs v) (hpath : path ∈ f.names) (hw : f.gives w) :
      Written further (f :: fs) (place v path w)
  | null {f : FieldSpec} {fs : List FieldSpec} {v : Json} {path : FieldPath}
      (h : Written further fs v) (hpath : path ∈ f.names) (ho : f.omissible) :
      Written further (f :: fs) (place v path .null)
  | omitted {f : FieldSpec} {fs : List FieldSpec} {v : Json} (h : Written further fs v)
      (ho : f.omissible) : Written further (f :: fs) v

/-- The payloads that spell a record: an object in which its fields are written, as it is or in a
wrapper. -/
inductive Spells (wrappers : List String) (fields : List FieldSpec) : Json → Prop
  | bare {further v : Json} (hfurther : Further wrappers fields further)
      (h : Written further fields v) : Spells wrappers fields v
  | wrapped {further v : Json} (hfurther : Further wrappers fields further)
      (h : Written further fields v) {name : String} (hname : name ∈ wrappers) :
      Spells wrappers fields (Json.ofMembers [(name, v)])

/-! ## Where the fields stand -/

/-- Where a field stands once it is written: under one of its names, or nowhere. -/
inductive FieldSpec.Stands (f : FieldSpec) (v : Json) : Prop
  | given {path : FieldPath} {w : Json} (hpath : path ∈ f.names) (hw : f.gives w)
      (hfollow : follow v path = some w) (hothers : ∀ q ∈ f.names, q ≠ path → Vacant f.names v q)
  | missing (ho : f.omissible) (h : ∀ q ∈ f.names, Vacant f.names v q)

variable {wrappers : List String} {f : FieldSpec} {fs : List FieldSpec} {v w further : Json}
  {path q : FieldPath}

/-- A value that is not an object, put under one name of a field, leaves the other names of the
field vacant. -/
theorem Vacant.place_of_ne (h : Vacant f.names v q) (hpath : path ∈ f.names) (hne : q ≠ path)
    (hw : w.isObject = false) : Vacant f.names (place v path w) q := by
  intro u hu
  by_cases hbefore : q <+: path
  · -- the name is on the way to the other one
    obtain ⟨r, rfl⟩ := hbefore
    have hr : r ≠ [] := by
      rintro rfl
      exact hne (List.append_nil q).symm
    refine Or.inr ⟨?_, r, hr, hpath⟩
    have hinner := follow_place_self v (q ++ r) w
    rw [follow_append, hu, Option.bind_some] at hinner
    cases hobject : u.isObject with
    | true => rfl
    | false =>
      rw [follow_of_not_object hobject hr] at hinner
      cases hinner
  · by_cases hbehind : path <+: q
    · obtain ⟨r, rfl⟩ := hbehind
      have hr : r ≠ [] := by
        rintro rfl
        exact hne (List.append_nil path)
      rw [follow_append, follow_place_self, Option.bind_some, follow_of_not_object hw hr] at hu
      cases hu
    · rw [follow_place_of_apart v ⟨hbehind, hbefore⟩] at hu
      exact h u hu

/-- Where a null was put the name is vacant. -/
theorem vacant_place_null (names : List FieldPath) (v : Json) (path : FieldPath) :
    Vacant names (place v path .null) path := by
  intro u hu
  rw [follow_place_self] at hu
  exact Or.inl (Option.some.inj hu).symm

/-- Whether names are vacant is told by what stands at their paths. -/
theorem Vacant.congr {names : List FieldPath} (h : Vacant names v q)
    (hfollow : follow w q = follow v q) : Vacant names w q := by
  intro u hu
  exact h u (hfollow ▸ hu)

/-- Where a field stands depends on what is found at its names only. -/
theorem FieldSpec.Stands.congr (h : f.Stands v)
    (hfollow : ∀ q ∈ f.names, follow w q = follow v q) : f.Stands w := by
  cases h with
  | given hpath hw hvalue hothers =>
    refine .given hpath hw ((hfollow _ hpath).trans hvalue) ?_
    intro q hq hne
    exact (hothers q hq hne).congr (hfollow q hq)
  | missing ho h => exact .missing ho fun q hq => (h q hq).congr (hfollow q hq)

namespace Written

/-- Writing fields changes nothing at the paths that are apart from their names. -/
theorem follow_of_apart (h : Written further fs v)
    (hq : ∀ f ∈ fs, ∀ p ∈ f.names, Apart p q) : follow v q = follow further q := by
  induction h with
  | nothing => rfl
  | given h hpath hw ih =>
    rw [follow_place_of_apart _ (hq _ List.mem_cons_self _ hpath)]
    exact ih fun f hf => hq f (List.mem_cons_of_mem _ hf)
  | null h hpath ho ih =>
    rw [follow_place_of_apart _ (hq _ List.mem_cons_self _ hpath)]
    exact ih fun f hf => hq f (List.mem_cons_of_mem _ hf)
  | omitted h ho ih => exact ih fun f hf => hq f (List.mem_cons_of_mem _ hf)

/-- A written record is an object. -/
theorem isObject (h : Written further fs v) (hdeep : ∀ f ∈ fs, ∀ p ∈ f.names, p ≠ [])
    (hobject : further.isObject = true) : v.isObject = true := by
  induction h with
  | nothing => exact hobject
  | given h hpath hw ih => exact isObject_place _ _ (hdeep _ List.mem_cons_self _ hpath)
  | null h hpath ho ih => exact isObject_place _ _ (hdeep _ List.mem_cons_self _ hpath)
  | omitted h ho ih => exact ih fun f hf => hdeep f (List.mem_cons_of_mem _ hf)

/-- The names of a field that is not written yet are as vacant as they were. -/
theorem vacant (h : Written further fs v) (hf : ∀ q ∈ f.names, Vacant f.names further q)
    (hapart : ∀ g ∈ fs, ∀ p ∈ f.names, ∀ q ∈ g.names, Apart p q) :
    ∀ q ∈ f.names, Vacant f.names v q := by
  intro q hq
  apply (hf q hq).congr
  exact h.follow_of_apart fun g hg p hp => (hapart g hg q hq p hp).symm

/-- Every field stands where it was written. -/
theorem stands (h : Written further fs v)
    (hapart : fs.Pairwise fun f g => ∀ p ∈ f.names, ∀ q ∈ g.names, Apart p q)
    (hfurther : ∀ f ∈ fs, ∀ q ∈ f.names, Vacant f.names further q) : ∀ f ∈ fs, f.Stands v := by
  -- a field written later leaves the fields before it where they stand
  have hkeep : ∀ {fs : List FieldSpec} {f : FieldSpec} {v : Json} {path : FieldPath} (w : Json),
      path ∈ f.names → (∀ g ∈ fs, ∀ p ∈ f.names, ∀ q ∈ g.names, Apart p q) →
      (∀ g ∈ fs, g.Stands v) → ∀ g ∈ fs, g.Stands (place v path w) := by
    intro fs f v path w hpath hhead hstands g hg
    exact (hstands g hg).congr fun q hq => follow_place_of_apart v (hhead g hg path hpath q hq) w
  induction h with
  | nothing => exact List.forall_mem_nil _
  | given h hpath hw ih =>
    obtain ⟨hhead, htail⟩ := List.pairwise_cons.mp hapart
    obtain ⟨hfirst, hrest⟩ := List.forall_mem_cons.mp hfurther
    have hvacant := h.vacant hfirst hhead
    refine List.forall_mem_cons.mpr ⟨?_, hkeep _ hpath hhead (ih htail hrest)⟩
    refine .given hpath hw (follow_place_self _ _ _) ?_
    intro q hq hne
    exact (hvacant q hq).place_of_ne hpath hne (FieldSpec.plain _ _ hw).1
  | @null f fs v path h hpath ho ih =>
    obtain ⟨hhead, htail⟩ := List.pairwise_cons.mp hapart
    obtain ⟨hfirst, hrest⟩ := List.forall_mem_cons.mp hfurther
    have hvacant := h.vacant hfirst hhead
    refine List.forall_mem_cons.mpr ⟨.missing ho ?_, hkeep _ hpath hhead (ih htail hrest)⟩
    intro q hq
    by_cases hne : q = path
    · rw [hne]
      exact vacant_place_null _ _ _
    · exact (hvacant q hq).place_of_ne hpath hne rfl
  | omitted h ho ih =>
    obtain ⟨hhead, htail⟩ := List.pairwise_cons.mp hapart
    obtain ⟨hfirst, hrest⟩ := List.forall_mem_cons.mp hfurther
    exact List.forall_mem_cons.mpr ⟨.missing ho (h.vacant hfirst hhead), ih htail hrest⟩

end Written

/-- Members with other names than the wrappers and the beginnings of accepted names are further
members. -/
theorem further_of_names {members : List (String × Json)}
    (hdeep : ∀ f ∈ fs, ∀ p ∈ f.names, p ≠ [])
    (h : ∀ name ∈ Table.keys members,
      name ∉ wrappers ∧ ∀ f ∈ fs, ∀ p ∈ f.names, p.head? ≠ some name) :
    Further wrappers fs (.object members) := by
  have habsent : ∀ name w, (Json.object members).get? name = some w → name ∈ Table.keys members := by
    intro name w hw
    exact Table.mem_keys_iff.mpr (Option.isSome_of_eq_some hw)
  constructor
  · rfl
  · intro name hname w hw
    exact absurd hname (h name (habsent name w hw)).1
  · intro f hf q hq w hw
    cases q with
    | nil => exact absurd rfl (hdeep f hf _ hq)
    | cons name rest =>
      rw [follow_cons] at hw
      obtain ⟨inner, hinner, _⟩ := Option.bind_eq_some_iff.mp hw
      exact absurd rfl ((h name (habsent name inner hinner)).2 f hf _ hq)

/-! ## Unwrapping -/

/-- A search finds what the only hit gives. -/
theorem findSome?_of_only {α β : Type} {g : α → Option β} {xs : List α} {x : α} (hx : x ∈ xs)
    (hothers : ∀ y ∈ xs, y ≠ x → g y = none) : xs.findSome? g = g x := by
  induction xs with
  | nil => cases hx
  | cons y ys ih =>
    have hrest : ∀ z ∈ ys, z ≠ x → g z = none := fun z hz => hothers z (List.mem_cons_of_mem y hz)
    rw [List.findSome?_cons]
    by_cases hy : y = x
    · subst hy
      cases hg : g y with
      | some b => rfl
      | none =>
        rw [List.findSome?_eq_none_iff]
        intro z hz
        by_cases hzy : z = y
        · rw [hzy, hg]
        · exact hrest z hz hzy
    · rw [hothers y List.mem_cons_self hy]
      exact ih ((List.mem_cons.mp hx).resolve_left (Ne.symm hy)) hrest

/-- An object without an object under a wrapper is taken as it is. -/
theorem unwrap_of_not_object
    (h : ∀ name ∈ wrappers, ∀ w, v.get? name = some w → w.isObject = false) :
    unwrap wrappers v = v := by
  have hnone : wrappers.findSome? (fun name => (v.get? name).filter Json.isObject) = none := by
    rw [List.findSome?_eq_none_iff]
    intro name hname
    rw [Option.filter_eq_none_iff]
    intro w hw
    rw [h name hname w hw]
    exact Bool.false_ne_true
  rw [unwrap, hnone]
  rfl

/-- An object in a wrapper is taken out of it. -/
theorem unwrap_wrapped {name : String} (hname : name ∈ wrappers) (hobject : v.isObject = true) :
    unwrap wrappers (Json.ofMembers [(name, v)]) = v := by
  have hget : ∀ name', (Json.ofMembers [(name, v)]).get? name' =
      if name = name' then some v else none := fun name' => Json.get?_ofMembers name' _
  have honly : wrappers.findSome?
      (fun name' => ((Json.ofMembers [(name, v)]).get? name').filter Json.isObject) = some v := by
    rw [findSome?_of_only hname]
    · simp [hget, hobject]
    · intro name' _ hne
      rw [hget, if_neg (Ne.symm hne)]
      rfl
  rw [unwrap, honly]
  rfl

/-- A path of one name is a member. -/
theorem follow_singleton (v : Json) (name : String) : follow v [name] = v.get? name := by
  rw [follow_cons]
  cases v.get? name <;> rfl

/-- What stands under a wrapper of a written object is not an object. -/
theorem Written.wrapper (h : Written further fs v) (hfurther : Further wrappers fs further)
    (hseparate : Separate wrappers (fs.map FieldSpec.names)) :
    ∀ name ∈ wrappers, ∀ w, v.get? name = some w → w.isObject = false := by
  intro name hname w hw
  have hstands := h.stands (List.pairwise_map.mp hseparate.fields) hfurther.vacant
  have happart := hseparate.wrappers name hname
  rw [← follow_singleton] at hw
  by_cases hfield : ∃ f ∈ fs, [name] ∈ f.names
  · -- the wrapper is the name of a field, too
    obtain ⟨f, hf, hmem⟩ := hfield
    have hvacant : Vacant f.names v [name] → w.isObject = false := by
      intro hv
      rcases hv w hw with rfl | ⟨_, r, hr, hlonger⟩
      · rfl
      · rcases happart f.names (List.mem_map_of_mem hf) _ hlonger with heq | hne
        · exact absurd (List.append_right_eq_self.mp heq) hr
        · exact absurd (List.prefix_append _ r) hne.2
    cases hstands f hf with
    | @given path u hpath hu hfollow hothers =>
      by_cases heq : [name] = path
      · rw [← heq, hw] at hfollow
        rw [Option.some.inj hfollow]
        exact (f.plain u hu).1
      · exact hvacant (hothers _ hmem heq)
    | missing ho hv => exact hvacant (hv _ hmem)
  · have hnone : ∀ f ∈ fs, ∀ p ∈ f.names, Apart p [name] := by
      intro f hf p hp
      rcases happart f.names (List.mem_map_of_mem hf) p hp with rfl | hp
      · exact absurd ⟨f, hf, hp⟩ hfield
      · exact hp
    rw [h.follow_of_apart hnone, follow_singleton] at hw
    exact hfurther.wrappers name hname w hw

/-- Behind its wrapper a payload holds each field as it was written. -/
theorem Spells.exists_stands {payload : Json} (h : Spells wrappers fs payload)
    (hseparate : Separate wrappers (fs.map FieldSpec.names)) :
    (unwrap wrappers payload).isObject = true ∧ ∀ f ∈ fs, f.Stands (unwrap wrappers payload) := by
  have hdeep : ∀ f ∈ fs, ∀ p ∈ f.names, p ≠ [] :=
    fun f hf => hseparate.deep f.names (List.mem_map_of_mem hf)
  have happart := List.pairwise_map.mp hseparate.fields
  cases h with
  | bare hfurther h =>
    rw [unwrap_of_not_object (h.wrapper hfurther hseparate)]
    exact ⟨h.isObject hdeep hfurther.isObject, h.stands happart hfurther.vacant⟩
  | wrapped hfurther h hname =>
    rw [unwrap_wrapped hname (h.isObject hdeep hfurther.isObject)]
    exact ⟨h.isObject hdeep hfurther.isObject, h.stands happart hfurther.vacant⟩

/-! ## Reading the fields -/

/-- Null counts as absent for every reader that refuses it. -/
theorem lookup_bind {β : Type} {read : Json → Option β} (hnull : read .null = none) (v : Json)
    (q : FieldPath) : (lookup v q).bind read = (follow v q).bind read := by
  unfold lookup
  split
  · rename_i hfollow
    rw [hfollow, Option.bind_some, hnull]
    rfl
  · rfl

/-- A reader that passes over nulls and objects finds what was given, or nothing. -/
theorem findSome?_of_stands {β : Type} {read : Json → Option β}
    (hread : ∀ w, w = .null ∨ w.isObject = true → read w = none) (h : f.Stands v) :
    (∃ w, f.gives w ∧ f.names.findSome? (fun q => (lookup v q).bind read) = read w) ∨
      (f.omissible ∧ f.names.findSome? (fun q => (lookup v q).bind read) = none) := by
  have hvacant : ∀ q, Vacant f.names v q → (lookup v q).bind read = none := by
    intro q hq
    rw [lookup_bind (hread _ (Or.inl rfl))]
    cases hfollow : follow v q with
    | none => rfl
    | some w =>
      apply hread
      rcases hq w hfollow with hw | ⟨hw, _⟩
      · exact Or.inl hw
      · exact Or.inr hw
  cases h with
  | @given path w hpath hw hfollow hothers =>
    refine Or.inl ⟨w, hw, ?_⟩
    rw [findSome?_of_only hpath fun q hq hne => hvacant q (hothers q hq hne),
      lookup_bind (hread _ (Or.inl rfl)), hfollow, Option.bind_some]
  | missing ho h =>
    refine Or.inr ⟨ho, ?_⟩
    rw [List.findSome?_eq_none_iff]
    exact fun q hq => hvacant q (h q hq)

/-- Neither null nor an object is a text. -/
theorem textOf?_eq_none {w : Json} (h : w = .null ∨ w.isObject = true) : textOf? w = none := by
  rcases h with rfl | h
  · rfl
  · cases w <;> first | rfl | cases h

/-- Neither null nor an object speaks of a number. -/
theorem countOf?_eq_none {w : Json} (h : w = .null ∨ w.isObject = true) : countOf? w = none := by
  rcases h with rfl | h
  · rfl
  · cases w <;> first | rfl | cases h

/-- What gives a text is read as the text. -/
theorem textOf?_of_givesText {s : String} {w : Json} (h : GivesText s w) : textOf? w = some s := by
  cases h <;> rfl

/-- What gives a counter is read as the counter. -/
theorem countOf?_of_givesCount {c : Count} {w : Json} (h : GivesCount c w) :
    countOf? w = some (some c) := by
  cases h with
  | integer => simp [countOf?, Json.int, wholeCount?]
  | numeral h hfront hback =>
    have htrim := Text.trimChars_between hfront hback fun c hc => Decimal.isBlank_of_mem_numeral h hc
    rw [countOf?, String.toList_ofList, htrim, Decimal.readInt_of_numeral h, Option.bind_some,
      Count.ofInt?_value]

variable {names : List FieldPath}

/-- A text that was written is read back, unless it was left out. -/
theorem pickText_text_of_stands {s : String} {omissible : Prop}
    (h : (FieldSpec.text names s omissible).Stands v) :
    pickText v names = some s ∨ (omissible ∧ pickText v names = none) := by
  rcases findSome?_of_stands (fun _ => textOf?_eq_none) h with ⟨w, hw, hfound⟩ | hmissing
  · rw [textOf?_of_givesText hw] at hfound
    exact Or.inl hfound
  · exact Or.inr hmissing

/-- A text that may be left out if it is empty is read back. -/
theorem pickText_getD_of_stands {s : String} (h : (FieldSpec.text names s (s = "")).Stands v) :
    (pickText v names).getD "" = s := by
  rcases pickText_text_of_stands h with hfound | ⟨hs, hnone⟩
  · rw [hfound]
    rfl
  · rw [hnone, hs]
    rfl

/-- A text that is left out if there is none is read back. -/
theorem pickText_optional_of_stands {s : Option String}
    (h : (FieldSpec.optional names s).Stands v) : pickText v names = s := by
  rcases findSome?_of_stands (fun _ => textOf?_eq_none) h with ⟨w, ⟨t, hs, ht⟩, hfound⟩ | ⟨hs, hnone⟩
  · rw [textOf?_of_givesText ht] at hfound
    rw [hs]
    exact hfound
  · rw [show s = none from hs]
    exact hnone

/-- An identifier that was written is found. -/
theorem requireId_of_stands {id : String} (hobject : v.isObject = true)
    (h : (FieldSpec.text names id False).Stands v) (subject : String) :
    requireId subject v names = .ok id := by
  rcases pickText_text_of_stands h with hfound | ⟨hfalse, _⟩
  · rw [requireId, if_pos hobject, hfound]
  · cases hfalse

/-- The candidate that decides a counter is the first one that says anything. -/
theorem pickCount_eq (subject : String) (v : Json) (names : List FieldPath) :
    (∀ c, names.findSome? (fun q => (lookup v q).bind countOf?) = some (some c) →
      pickCount subject v names = .ok c) ∧
    (names.findSome? (fun q => (lookup v q).bind countOf?) = none →
      pickCount subject v names = .ok Count.zero) := by
  induction names with
  | nil =>
    constructor
    · intro c hc
      cases hc
    · exact fun _ => rfl
  | cons path rest ih =>
    rw [List.findSome?_cons, pickCount]
    cases hlookup : lookup v path with
    | none => exact ih
    | some found =>
      rw [Option.bind_some]
      cases hcount : countOf? found with
      | none =>
        dsimp only
        rw [hcount]
        exact ih
      | some answer =>
        dsimp only
        rw [hcount]
        constructor
        · intro c hc
          rw [Option.some.inj hc]
        · intro hcount
          cases hcount

/-- A counter that was written is read back. -/
theorem pickCount_of_stands {c : Count} (h : (FieldSpec.count names c).Stands v)
    (subject : String) : pickCount subject v names = .ok c := by
  obtain ⟨hsome, hnone⟩ := pickCount_eq subject v names
  rcases findSome?_of_stands (fun _ => countOf?_eq_none) h with ⟨w, hw, hfound⟩ | ⟨hzero, hmissing⟩
  · rw [countOf?_of_givesCount hw] at hfound
    exact hsome c hfound
  · rw [show c = Count.zero from hzero]
    exact hnone hmissing

/-- A text is found by the reader that takes any value, if no object stands on the way to one of
its names. -/
theorem pick_optional_of_stands {s : Option String}
    (hflat : ∀ p ∈ names, ∀ q ∈ names, q = p ∨ Apart p q)
    (h : (FieldSpec.optional names s).Stands v) :
    (∃ w t, pick v names = some w ∧ s = some t ∧ GivesText t w) ∨ (pick v names = none ∧ s = none) := by
  have hvacant : ∀ q ∈ names, Vacant names v q → lookup v q = none := by
    intro q hq hv
    unfold lookup
    split
    · rfl
    · rename_i hne
      cases hfollow : follow v q with
      | none => rfl
      | some w =>
        rcases hv w hfollow with rfl | ⟨_, r, hr, hlonger⟩
        · exact absurd hfollow hne
        · rcases hflat q hq _ hlonger with heq | hapart
          · exact absurd (List.append_right_eq_self.mp heq) hr
          · exact absurd (List.prefix_append q r) hapart.1
  cases h with
  | @given path w hpath hw hfollow hothers =>
    obtain ⟨t, hs, ht⟩ := hw
    have honly : names.findSome? (lookup v) = lookup v path :=
      findSome?_of_only hpath fun q hq hne => hvacant q hq (hothers q hq hne)
    refine Or.inl ⟨w, t, ?_, hs, ht⟩
    rw [pick, honly]
    cases ht <;> simp [lookup, hfollow]
  | missing ho h =>
    refine Or.inr ⟨?_, ho⟩
    rw [pick, List.findSome?_eq_none_iff]
    exact fun q hq => hvacant q hq (h q hq)

end Payload
end OptimisticCache
