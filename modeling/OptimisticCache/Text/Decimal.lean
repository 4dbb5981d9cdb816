/-!
# Whole numbers in decimal

Whole numbers are written with the digits 0 to 9, without leading zeros and with
a minus sign in front of a negative one.  A reader accepts any number of digits
and either sign.

Main results:

- Theorem {lit}`Decimal.value_digits`: the digits of a number have its value.
- Theorem {lit}`Decimal.readInt_intChars`: reading what was written gives the
  number back.
-/

namespace OptimisticCache
namespace Decimal

/-- The character of a digit below ten. -/
def digitChar (d : Nat) : Char :=
  Char.ofNat (48 + d)

/-- The digit that a character stands for. -/
def digit? (c : Char) : Option Nat :=
  if 48 ≤ c.toNat ∧ c.toNat ≤ 57 then some (c.toNat - 48) else none

/-- Whether a character is a digit. -/
def isDigit (c : Char) : Bool :=
  (digit? c).isSome

/-- A digit that was written is read back. -/
theorem digit?_digitChar {d : Nat} (h : d < 10) : digit? (digitChar d) = some d := by
  have hall : ∀ e < 10, digit? (digitChar e) = some e := by decide
  exact hall d h

/-- The digits of a natural number, the most significant one first. -/
def digits (n : Nat) : List Char :=
  if n < 10 then [digitChar n] else digits (n / 10) ++ [digitChar (n % 10)]

/-- One more digit on the right of a number read so far. -/
def appendDigit (acc : Option Nat) (c : Char) : Option Nat :=
  match acc, digit? c with
  | some n, some d => some (10 * n + d)
  | _, _ => none

/-- The value of a row of digits; the empty row has value zero. -/
def value? (cs : List Char) : Option Nat :=
  cs.foldl appendDigit (some 0)

/-- A natural number as characters: at least one digit and nothing else. -/
def readNat (cs : List Char) : Option Nat :=
  if cs.isEmpty then none else value? cs

/-- A whole number: an optional sign and at least one digit. -/
def readInt : List Char → Option Int
  | '-' :: cs => (readNat cs).map fun (m : Nat) => -(m : Int)
  | '+' :: cs => (readNat cs).map fun (m : Nat) => (m : Int)
  | cs => (readNat cs).map fun (m : Nat) => (m : Int)

/-- The characters of a whole number. -/
def intChars (n : Int) : List Char :=
  if n < 0 then '-' :: digits n.natAbs else digits n.natAbs

/-- A natural number as a text. -/
def natText (n : Nat) : String :=
  String.ofList (digits n)

/-- A whole number as a text. -/
def intText (n : Int) : String :=
  String.ofList (intChars n)

/-- The digits of a number have its value. -/
theorem value_digits (n : Nat) : value? (digits n) = some n := by
  induction n using Nat.strongRecOn with
  | _ n ih =>
    rw [digits]
    split
    · rename_i h
      simp [value?, appendDigit, digit?_digitChar h]
    · rename_i h
      have hmod : n % 10 < 10 := Nat.mod_lt _ (by omega)
      have hrest := ih (n / 10) (by omega)
      unfold value? at hrest ⊢
      rw [List.foldl_append, hrest]
      simp only [List.foldl_cons, List.foldl_nil, appendDigit, digit?_digitChar hmod]
      congr 1
      omega

/-- Zeros in front of a row of digits do not change its value. -/
theorem value?_replicate_zero (k : Nat) (cs : List Char) :
    value? (List.replicate k '0' ++ cs) = value? cs := by
  induction k with
  | zero => rfl
  | succ k ih => exact ih

theorem digits_ne_nil (n : Nat) : digits n ≠ [] := by
  rw [digits]
  split <;> simp

/-- Every character of a written number is a digit. -/
theorem isDigit_of_mem_digits {n : Nat} {c : Char} (h : c ∈ digits n) : isDigit c = true := by
  induction n using Nat.strongRecOn with
  | _ n ih =>
    rw [digits] at h
    split at h
    · rename_i hn
      obtain rfl := List.mem_singleton.mp h
      simp [isDigit, digit?_digitChar hn]
    · rename_i hn
      rcases List.mem_append.mp h with h | h
      · exact ih (n / 10) (by omega) h
      · obtain rfl := List.mem_singleton.mp h
        simp [isDigit, digit?_digitChar (show n % 10 < 10 from Nat.mod_lt _ (by omega))]

/-- The digits of a natural number are read back. -/
theorem readNat_digits (n : Nat) : readNat (digits n) = some n := by
  simp [readNat, digits_ne_nil, value_digits]

/-- A text without a sign is read as a natural number. -/
theorem readInt_of_isDigit {c : Char} {cs : List Char} (h : isDigit c = true) :
    readInt (c :: cs) = (readNat (c :: cs)).map fun (m : Nat) => (m : Int) := by
  unfold readInt
  split
  · rename_i heq
    obtain ⟨rfl, rfl⟩ := List.cons.inj heq
    exact absurd h (by decide)
  · rename_i heq
    obtain ⟨rfl, rfl⟩ := List.cons.inj heq
    exact absurd h (by decide)
  · rfl

/-- The digits of a natural number are read as the whole number. -/
theorem readInt_digits (n : Nat) : readInt (digits n) = some (n : Int) := by
  have hread := readNat_digits n
  cases hd : digits n with
  | nil => exact absurd hd (digits_ne_nil n)
  | cons c cs =>
    have hc : isDigit c = true := isDigit_of_mem_digits (n := n) (by simp [hd])
    rw [readInt_of_isDigit hc, ← hd, hread, Option.map_some]

/-- Reading a written whole number gives it back. -/
theorem readInt_intChars (n : Int) : readInt (intChars n) = some n := by
  unfold intChars
  split
  · rename_i h
    rw [readInt, readNat_digits, Option.map_some, Int.ofNat_natAbs_of_nonpos (by omega), Int.neg_neg]
  · rename_i h
    rw [readInt_digits, Int.natAbs_of_nonneg (by omega)]

end Decimal
end OptimisticCache
