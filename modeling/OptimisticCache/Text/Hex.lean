/-!
# Hexadecimal digits

The sixteen digits, written in lower or upper case and read in both.

Main results:

- Theorem {lit}`Hex.value?_upper`: a digit written in upper case is read back.
- Theorem {lit}`Hex.value?_of_mem_digits`: a written number consists of digits.
- Theorem {lit}`Hex.length_digits_le`: a small number is short.
-/

namespace OptimisticCache
namespace Hex

/-- The value of a digit. -/
def value? (c : Char) : Option Nat :=
  let n := c.toNat
  if 48 ≤ n ∧ n ≤ 57 then some (n - 48)
  else if 97 ≤ n ∧ n ≤ 102 then some (n - 87)
  else if 65 ≤ n ∧ n ≤ 70 then some (n - 55)
  else none

/-- The digit of a value below sixteen, in lower case. -/
def lower (d : Nat) : Char :=
  if d < 10 then Char.ofNat (48 + d) else Char.ofNat (87 + d)

/-- The digit of a value below sixteen, in upper case. -/
def upper (d : Nat) : Char :=
  if d < 10 then Char.ofNat (48 + d) else Char.ofNat (55 + d)

/-- A digit written in lower case is read back. -/
theorem value?_lower {d : Nat} (h : d < 16) : value? (lower d) = some d := by
  have hall : ∀ e < 16, value? (lower e) = some e := by decide
  exact hall d h

/-- A digit written in upper case is read back. -/
theorem value?_upper {d : Nat} (h : d < 16) : value? (upper d) = some d := by
  have hall : ∀ e < 16, value? (upper e) = some e := by decide
  exact hall d h

/-- The digits of a natural number in lower case, the most significant one first. -/
def digits (n : Nat) : List Char :=
  if n < 16 then [lower n] else digits (n / 16) ++ [lower (n % 16)]

theorem digits_ne_nil (n : Nat) : digits n ≠ [] := by
  rw [digits]
  split <;> simp

/-- A number below a power of sixteen has at most as many digits as the exponent says. -/
theorem length_digits_le {n k : Nat} (h : n < Nat.pow 16 (k + 1)) :
    (digits n).length ≤ k + 1 := by
  induction k generalizing n with
  | zero =>
    rw [digits, if_pos (by simpa using h)]
    simp
  | succ k ih =>
    rw [digits]
    split
    · simp
    · have hless : n < 16 * Nat.pow 16 (k + 1) := by
        rw [Nat.mul_comm]
        exact h
      simpa using ih (Nat.div_lt_of_lt_mul hless)

/-- Every character of a written number is a digit. -/
theorem value?_of_mem_digits {n : Nat} {c : Char} (h : c ∈ digits n) : (value? c).isSome := by
  induction n using Nat.strongRecOn with
  | _ n ih =>
    rw [digits] at h
    split at h
    · rename_i hn
      obtain rfl := List.mem_singleton.mp h
      rw [value?_lower hn, Option.isSome_some]
    · rcases List.mem_append.mp h with h | h
      · exact ih (n / 16) (by omega) h
      · obtain rfl := List.mem_singleton.mp h
        rw [value?_lower (by omega), Option.isSome_some]

end Hex
end OptimisticCache
