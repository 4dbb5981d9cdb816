/-!
# Order of texts

Texts are ordered by their code points, read from the left; a text comes before
every longer text that it begins.  Parameter names and object members are kept
in this order.

Main results:

- Theorem {lit}`Text.before_irrefl`: no text comes before itself.
- Theorem {lit}`Text.before_trans`: the order is transitive.
- Theorem {lit}`Text.before_total`: of two different texts one comes first.
-/

namespace OptimisticCache
namespace Text

/-- The order of code points, on lists of characters. -/
def charsBefore : List Char → List Char → Bool
  | _, [] => false
  | [], _ :: _ => true
  | a :: as, b :: bs => a.toNat < b.toNat || (a.toNat == b.toNat && charsBefore as bs)

/-- Whether the first text comes before the second one. -/
def before (a b : String) : Bool :=
  charsBefore a.toList b.toList

/-- No text stands before itself. -/
theorem charsBefore_irrefl (cs : List Char) : charsBefore cs cs = false := by
  induction cs with
  | nil => rfl
  | cons c cs ih => simp [charsBefore, ih]

/-- The order of texts is transitive. -/
theorem charsBefore_trans {as bs cs : List Char} (hab : charsBefore as bs = true)
    (hbc : charsBefore bs cs = true) : charsBefore as cs = true := by
  induction as generalizing bs cs with
  | nil =>
    cases bs with
    | nil => simp [charsBefore] at hab
    | cons b bs =>
      cases cs with
      | nil => simp [charsBefore] at hbc
      | cons c cs => rfl
  | cons a as ih =>
    cases bs with
    | nil => simp [charsBefore] at hab
    | cons b bs =>
      cases cs with
      | nil => simp [charsBefore] at hbc
      | cons c cs =>
        simp only [charsBefore, Bool.or_eq_true, Bool.and_eq_true, decide_eq_true_eq,
          beq_iff_eq] at hab hbc ⊢
        rcases hab with hab | ⟨hab, hrest⟩
        · rcases hbc with hbc | ⟨hbc, _⟩
          · exact Or.inl (Nat.lt_trans hab hbc)
          · exact Or.inl (hbc ▸ hab)
        · rcases hbc with hbc | ⟨hbc, hrest'⟩
          · exact Or.inl (hab ▸ hbc)
          · exact Or.inr ⟨hab.trans hbc, ih hrest hrest'⟩

/-- Different texts are ordered one way or the other. -/
theorem charsBefore_total (as bs : List Char) :
    charsBefore as bs = true ∨ as = bs ∨ charsBefore bs as = true := by
  induction as generalizing bs with
  | nil => cases bs <;> simp [charsBefore]
  | cons a as ih =>
    cases bs with
    | nil => simp [charsBefore]
    | cons b bs =>
      simp only [charsBefore, Bool.or_eq_true, Bool.and_eq_true, decide_eq_true_eq,
        beq_iff_eq, List.cons.injEq]
      rcases Nat.lt_trichotomy a.toNat b.toNat with h | h | h
      · exact Or.inl (Or.inl h)
      · have hc : a = b := Char.toNat_inj.mp h
        rcases ih bs with ih | ih | ih
        · exact Or.inl (Or.inr ⟨h, ih⟩)
        · exact Or.inr (Or.inl ⟨hc, ih⟩)
        · exact Or.inr (Or.inr (Or.inr ⟨h.symm, ih⟩))
      · exact Or.inr (Or.inr (Or.inl h))

/-- No text comes before itself. -/
theorem before_irrefl (a : String) : before a a = false :=
  charsBefore_irrefl a.toList

/-- The order of texts is transitive. -/
theorem before_trans {a b c : String} (hab : before a b = true) (hbc : before b c = true) :
    before a c = true :=
  charsBefore_trans hab hbc

/-- Of two different texts one comes before the other. -/
theorem before_total (a b : String) : before a b = true ∨ a = b ∨ before b a = true := by
  rcases charsBefore_total a.toList b.toList with h | h | h
  · exact Or.inl h
  · exact Or.inr (Or.inl (String.toList_inj.mp h))
  · exact Or.inr (Or.inr h)

end Text
end OptimisticCache
