/-!
# Tables in key order

A table is a list of keys and values in increasing order of the keys, each key
once.  A type of keys brings its order with it.  Looking up, putting in and
taking out go by the key alone, so the lemmas on lookups hold of every list.

Main results:

- Theorems {lit}`Table.get?_insert_self` and {lit}`Table.get?_insert_of_ne`:
  the view of a table after one insertion.
- Theorems {lit}`Table.get?_erase_self` and {lit}`Table.get?_erase_of_ne`: the
  view of a table after one removal.
- Theorem {lit}`Table.insert_sorted`: insertion keeps the keys in strictly
  increasing order.
- Theorem {lit}`Table.eq_of_get?`: tables in order that give the same values are the
  same.
-/

namespace OptimisticCache

/-- A strict order of keys that tells any two keys apart. -/
class KeyOrder (α : Type) where
  before : α → α → Bool
  irrefl : ∀ a, before a a = false
  trans : ∀ {a b c}, before a b = true → before b c = true → before a c = true
  total : ∀ a b, before a b = true ∨ a = b ∨ before b a = true

namespace Table

variable {α β : Type} [DecidableEq α]

/-- The value under a key. -/
def get? (k : α) : List (α × β) → Option β
  | [] => none
  | (k', v) :: rest => if k' = k then some v else get? k rest

/-- Whether a key is in the table. -/
def has (k : α) (t : List (α × β)) : Bool :=
  (get? k t).isSome

/-- The keys of a table, in order. -/
def keys (t : List (α × β)) : List α :=
  t.map Prod.fst

/-- Put a value under a key: in its place, or instead of the value there. -/
def insert [KeyOrder α] (k : α) (v : β) : List (α × β) → List (α × β)
  | [] => [(k, v)]
  | (k', v') :: rest =>
    if k' = k then (k, v) :: rest
    else if KeyOrder.before k k' then (k, v) :: (k', v') :: rest
    else (k', v') :: insert k v rest

/-- Take a key out. -/
def erase (k : α) (t : List (α × β)) : List (α × β) :=
  t.filter fun p => p.1 ≠ k

/-- A table built by inserting in the order of a list, so the last value of a key stays. -/
def ofList [KeyOrder α] (ps : List (α × β)) : List (α × β) :=
  ps.foldl (fun t p => insert p.1 p.2 t) []

/-- The keys stand in strictly increasing order. -/
def Sorted [KeyOrder α] (t : List (α × β)) : Prop :=
  (keys t).Pairwise fun a b => KeyOrder.before a b = true

@[simp]
theorem get?_nil (k : α) : get? k ([] : List (α × β)) = none :=
  rfl

/-- The entry in front decides about its key. -/
theorem get?_cons (k k' : α) (v : β) (t : List (α × β)) :
    get? k ((k', v) :: t) = if k' = k then some v else get? k t :=
  rfl

/-- An inserted key has its new value. -/
@[simp]
theorem get?_insert_self [KeyOrder α] (k : α) (v : β) (t : List (α × β)) :
    get? k (insert k v t) = some v := by
  induction t with
  | nil => simp [insert, get?]
  | cons p t ih =>
    obtain ⟨k', v'⟩ := p
    simp only [insert]
    split
    · simp [get?]
    · rename_i hne
      split
      · simp [get?]
      · rw [get?_cons, if_neg hne, ih]

/-- Inserting leaves the other keys alone. -/
theorem get?_insert_of_ne [KeyOrder α] {k k' : α} (h : k' ≠ k) (v : β) (t : List (α × β)) :
    get? k' (insert k v t) = get? k' t := by
  induction t with
  | nil => simp [insert, get?, Ne.symm h]
  | cons p t ih =>
    obtain ⟨k₀, v₀⟩ := p
    simp only [insert]
    split
    · rename_i heq
      subst heq
      simp [get?_cons, Ne.symm h]
    · split
      · rw [get?_cons, if_neg (Ne.symm h)]
      · rw [get?_cons, get?_cons, ih]

/-- What a table says after an insertion. -/
theorem get?_insert [KeyOrder α] (k k' : α) (v : β) (t : List (α × β)) :
    get? k' (insert k v t) = if k' = k then some v else get? k' t := by
  split
  · rename_i h
    rw [h, get?_insert_self]
  · rename_i h
    exact get?_insert_of_ne h v t

/-- An erased key has no value. -/
@[simp]
theorem get?_erase_self (k : α) (t : List (α × β)) : get? k (erase k t) = none := by
  induction t with
  | nil => rfl
  | cons p t ih =>
    obtain ⟨k', v⟩ := p
    by_cases h : k' = k
    · simpa [erase, h] using ih
    · simpa [erase, h, get?_cons] using ih

/-- Erasing leaves the other keys alone. -/
theorem get?_erase_of_ne {k k' : α} (h : k' ≠ k) (t : List (α × β)) :
    get? k' (erase k t) = get? k' t := by
  induction t with
  | nil => rfl
  | cons p t ih =>
    obtain ⟨k₀, v⟩ := p
    by_cases h₀ : k₀ = k
    · subst h₀
      simpa [erase, get?_cons, Ne.symm h] using ih
    · by_cases h₁ : k₀ = k'
      · subst h₁
        simp [erase, h, get?_cons]
      · simpa [erase, h₀, get?_cons, h₁] using ih

/-- What a table says after a key was erased. -/
theorem get?_erase (k k' : α) (t : List (α × β)) :
    get? k' (erase k t) = if k' = k then none else get? k' t := by
  split
  · rename_i h
    rw [h, get?_erase_self]
  · rename_i h
    exact get?_erase_of_ne h t

/-- Inserting adds no key but the inserted one. -/
theorem mem_keys_insert [KeyOrder α] {a k : α} {v : β} {t : List (α × β)}
    (h : a ∈ keys (insert k v t)) : a = k ∨ a ∈ keys t := by
  induction t with
  | nil => simpa [insert, keys] using h
  | cons p t ih =>
    obtain ⟨k', v'⟩ := p
    simp only [insert] at h
    split at h
    · rename_i heq
      subst heq
      simpa [keys] using h
    · split at h
      · simpa [keys] using h
      · simp only [keys, List.map_cons, List.mem_cons] at h ⊢
        rcases h with h | h
        · exact Or.inr (Or.inl h)
        · rcases ih h with h | h
          · exact Or.inl h
          · exact Or.inr (Or.inr h)

/-- Insertion keeps the keys in strictly increasing order. -/
theorem insert_sorted [KeyOrder α] (k : α) (v : β) {t : List (α × β)} (h : Sorted t) :
    Sorted (insert k v t) := by
  induction t with
  | nil => simp [insert, Sorted, keys]
  | cons p t ih =>
    obtain ⟨k', v'⟩ := p
    obtain ⟨hhead, htail⟩ := List.pairwise_cons.mp h
    simp only [insert]
    split
    · rename_i heq
      subst heq
      exact h
    · rename_i hne
      split
      · rename_i hbefore
        refine List.pairwise_cons.mpr ⟨?_, h⟩
        intro a ha
        rcases List.mem_cons.mp ha with rfl | ha
        · exact hbefore
        · exact KeyOrder.trans hbefore (hhead a ha)
      · rename_i hafter
        refine List.pairwise_cons.mpr ⟨?_, ih htail⟩
        intro a ha
        rcases mem_keys_insert ha with rfl | ha
        · rcases KeyOrder.total k' a with hlt | heq | hgt
          · exact hlt
          · exact absurd heq hne
          · exact absurd hgt hafter
        · exact hhead a ha

/-- Taking a key out keeps the others in order. -/
theorem sorted_erase [KeyOrder α] (k : α) {t : List (α × β)} (h : Sorted t) : Sorted (erase k t) :=
  h.sublist (List.filter_sublist.map Prod.fst)

/-- The keys of a table are those that are found in it. -/
theorem mem_keys_iff {k : α} {t : List (α × β)} : k ∈ keys t ↔ (get? k t).isSome = true := by
  induction t with
  | nil => simp [keys]
  | cons p t ih =>
    obtain ⟨k', v⟩ := p
    by_cases h : k' = k
    · simp [keys, get?_cons, h]
    · rw [get?_cons, if_neg h, ← ih]
      simp [keys, Ne.symm h]

/-- A value that is found stands in the table. -/
theorem mem_of_get? {k : α} {v : β} {t : List (α × β)} (h : get? k t = some v) : (k, v) ∈ t := by
  induction t with
  | nil => cases h
  | cons p t ih =>
    obtain ⟨k', v'⟩ := p
    rw [get?_cons] at h
    split at h
    · rename_i hk
      rw [hk, Option.some.inj h]
      exact List.mem_cons_self
    · exact List.mem_cons_of_mem _ (ih h)

/-- Of two lists in a row, the front one decides if it has the key. -/
theorem get?_append (k : α) (s t : List (α × β)) : get? k (s ++ t) = (get? k s).or (get? k t) := by
  induction s with
  | nil => rfl
  | cons p s ih =>
    obtain ⟨k', v⟩ := p
    rw [List.cons_append, get?_cons, get?_cons, ih]
    split <;> rfl

/-- Only keys of the table have values. -/
theorem get?_eq_none_of_not_mem {k : α} {t : List (α × β)} (h : k ∉ keys t) : get? k t = none := by
  simpa using mt mem_keys_iff.mpr h

omit [DecidableEq α] in
theorem sorted_nil [KeyOrder α] : Sorted ([] : List (α × β)) :=
  List.Pairwise.nil

/-! ## Tables as functions -/

/-- A key before all keys of a table is not in it. -/
theorem get?_eq_none_of_before [KeyOrder α] {k : α} {t : List (α × β)}
    (h : ∀ k' ∈ keys t, KeyOrder.before k k' = true) : get? k t = none := by
  cases hk : get? k t with
  | none => rfl
  | some v =>
    have hbefore := h k (mem_keys_iff.mpr (by rw [hk]; rfl))
    rw [KeyOrder.irrefl] at hbefore
    cases hbefore

/-- Tables in order that give the same values are the same. -/
theorem eq_of_get? [KeyOrder α] {s t : List (α × β)} (hs : Sorted s) (ht : Sorted t)
    (h : ∀ k, get? k s = get? k t) : s = t := by
  induction s generalizing t with
  | nil =>
    cases t with
    | nil => rfl
    | cons q t =>
      have hq := h q.1
      rw [get?_cons, if_pos rfl] at hq
      cases hq
  | cons p s ih =>
    obtain ⟨k, v⟩ := p
    cases t with
    | nil =>
      have hk := h k
      rw [get?_cons, if_pos rfl] at hk
      cases hk
    | cons q t =>
      obtain ⟨k', v'⟩ := q
      obtain ⟨hsHead, hsTail⟩ := List.pairwise_cons.mp hs
      obtain ⟨htHead, htTail⟩ := List.pairwise_cons.mp ht
      have hkeys : k = k' := by
        rcases KeyOrder.total k k' with hlt | heq | hgt
        · have hk := h k
          rw [get?_cons, if_pos rfl, get?_eq_none_of_before] at hk
          · cases hk
          · intro a ha
            rcases List.mem_cons.mp ha with rfl | ha
            · exact hlt
            · exact KeyOrder.trans hlt (htHead a ha)
        · exact heq
        · have hk := h k'
          rw [get?_cons k' k', if_pos rfl, get?_eq_none_of_before] at hk
          · cases hk
          · intro a ha
            rcases List.mem_cons.mp ha with rfl | ha
            · exact hgt
            · exact KeyOrder.trans hgt (hsHead a ha)
      subst hkeys
      have hvalues : v = v' := by
        have hk := h k
        rw [get?_cons, get?_cons, if_pos rfl, if_pos rfl] at hk
        exact Option.some.inj hk
      have hrest : ∀ k', get? k' s = get? k' t := by
        intro a
        by_cases ha : k = a
        · subst ha
          rw [get?_eq_none_of_before hsHead, get?_eq_none_of_before htHead]
        · have hk := h a
          rw [get?_cons, get?_cons, if_neg ha, if_neg ha] at hk
          exact hk
      rw [hvalues, ih hsTail htTail hrest]

/-- A table that is built from a list is in order. -/
theorem sorted_ofList [KeyOrder α] (ps : List (α × β)) : Sorted (ofList ps) := by
  have hfold : ∀ t : List (α × β), Sorted t →
      Sorted (ps.foldl (fun t p => insert p.1 p.2 t) t) := by
    induction ps with
    | nil => exact fun t ht => ht
    | cons p ps ih => exact fun t ht => ih _ (insert_sorted p.1 p.2 ht)
  exact hfold [] sorted_nil

/-- A table that is built from a list has the last value of each key. -/
theorem get?_ofList [KeyOrder α] (k : α) (ps : List (α × β)) :
    get? k (ofList ps) = get? k ps.reverse := by
  have hfold : ∀ t : List (α × β),
      get? k (ps.foldl (fun t p => insert p.1 p.2 t) t) = (get? k ps.reverse).or (get? k t) := by
    induction ps with
    | nil => exact fun _ => rfl
    | cons p ps ih =>
      intro t
      obtain ⟨k', v⟩ := p
      rw [List.foldl_cons, ih, List.reverse_cons, get?_append, get?_insert, get?_cons, get?_nil,
        Option.or_assoc]
      by_cases hk : k' = k
      · simp [hk]
      · simp [hk, Ne.symm hk]
  rw [ofList, hfold, get?_nil, Option.or_none]

end Table
end OptimisticCache
