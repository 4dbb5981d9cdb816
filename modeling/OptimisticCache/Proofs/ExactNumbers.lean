import Mathlib.Algebra.Order.Field.Rat
import Mathlib.Data.Rat.Cast.Order
import OptimisticCache.Payload.Field
/-!
# Numbers are read exactly

A JSON number stands for a rational number: an integer for itself, and a finite binary
number for its significand times a power of two.  A binary number equals an integer
exactly if its significand is divisible by what the power of two takes away, and so
whether a number is whole is decided without rounding.

Counters have 64 bits, and an integer that is too large for them may be turned into the
nearest binary number, which can be smaller.  It cannot come back into the range that
way: the end of the range is a power of two, and no number beyond a power of two is
rounded below it.

Main results:

- Theorem {lit}`Binary64.toInt?_eq_some_iff`: the integer that a binary number equals.
- Theorem {lit}`Payload.wholeCount?_integer`: an integer beyond the range is refused, also
  after rounding.
- Theorem {lit}`Payload.wholeCount?_eq_some_iff`: which numbers are read as counters.
-/

namespace OptimisticCache

namespace Binary64

variable {x : Binary64} {n : Int}

/-- Minus one for a negative number, and one otherwise. -/
def sign (x : Binary64) : Int :=
  if x.negative then -1 else 1

/-- The rational number that the binary number stands for. -/
def toRat (x : Binary64) : Rat :=
  x.sign * x.significand * 2 ^ x.exponent

/-- A sign changes no size. -/
theorem natAbs_sign (x : Binary64) : x.sign.natAbs = 1 := by
  unfold sign
  split <;> rfl

/-- Without negative exponent a number is a shifted integer. -/
theorem toRat_of_nonneg (h : 0 ≤ x.exponent) :
    x.toRat = (x.sign * (x.significand <<< x.exponent.toNat : Nat) : Int) := by
  obtain ⟨k, hk⟩ := Int.eq_ofNat_of_zero_le h
  rw [toRat, hk]
  simp [Nat.shiftLeft_eq, mul_assoc]

/-- With a negative exponent it is a fraction of a power of two. -/
theorem toRat_mul_of_neg (h : x.exponent < 0) :
    x.toRat * (1 <<< (-x.exponent).toNat : Nat) = (x.sign * x.significand : Int) := by
  obtain ⟨k, hk⟩ := Int.eq_ofNat_of_zero_le (show 0 ≤ -x.exponent by omega)
  have hexponent : x.exponent = -(k : Int) := by omega
  rw [toRat, hk, hexponent]
  simp [Nat.shiftLeft_eq, mul_assoc]

/-- Below the units a binary number is whole if its significand can be divided. -/
theorem toRat_eq_iff_of_neg (h : x.exponent < 0) :
    x.toRat = n ↔ x.sign * x.significand = n * (1 <<< (-x.exponent).toNat : Nat) := by
  have hdivisor : ((1 <<< (-x.exponent).toNat : Nat) : Rat) ≠ 0 := by
    simp [Nat.shiftLeft_eq]
  rw [← mul_left_inj' hdivisor, toRat_mul_of_neg h, ← Int.cast_natCast (1 <<< _), ← Int.cast_mul,
    Int.cast_inj]

/-- Division of the significand by a divisor, under the sign. -/
theorem sign_mul_div_eq_iff {divisor : Nat} (h : divisor ∣ x.significand) (hpos : 0 < divisor) :
    x.sign * (x.significand / divisor : Nat) = n ↔ x.sign * x.significand = n * divisor := by
  rw [← mul_left_inj' (show (divisor : Int) ≠ 0 by omega), mul_assoc, ← Int.natCast_mul,
    Nat.div_mul_cancel h]

/-- A sign changes no divisor. -/
theorem dvd_of_sign_mul_eq {divisor : Nat} (h : x.sign * x.significand = n * divisor) :
    divisor ∣ x.significand := by
  have habs := congrArg Int.natAbs h
  simp only [Int.natAbs_mul, natAbs_sign, Int.natAbs_natCast, one_mul] at habs
  exact ⟨n.natAbs, by rw [habs, mul_comm]⟩

/-- A binary number is taken for an integer exactly if it is equal to it. -/
theorem toInt?_eq_some_iff : x.toInt? = some n ↔ x.toRat = n := by
  by_cases hexponent : 0 ≤ x.exponent
  · rw [toRat_of_nonneg hexponent, Int.cast_inj, toInt?, if_pos hexponent, Option.some_inj]
    rfl
  · rw [toRat_eq_iff_of_neg (Int.not_le.mp hexponent), toInt?, if_neg hexponent]
    have hpos : 0 < 1 <<< (-x.exponent).toNat := by simp [Nat.shiftLeft_eq]
    dsimp only
    constructor
    · intro h
      split at h
      · rename_i hrest
        exact (sign_mul_div_eq_iff (Nat.dvd_of_mod_eq_zero hrest) hpos).mp (Option.some.inj h)
      · cases h
    · intro h
      have hdvd := dvd_of_sign_mul_eq h
      rw [if_pos (Nat.mod_eq_zero_of_dvd hdvd)]
      exact congrArg some ((sign_mul_div_eq_iff hdvd hpos).mpr h)

/-! ## Rounding beyond a power of two -/

/-- The parts of a number that is not subnormal. -/
theorem parts_of_ofParts? {negative : Bool} {m : Nat} {q : Int} (hm : leadingBit ≤ m)
    (hq : -1075 < q) (h : ofParts? negative m q = some x) :
    x.significand = m ∧ x.exponent = q := by
  unfold ofParts? at h
  rw [dif_neg (Nat.not_lt.mpr hm)] at h
  dsimp only at h
  split at h
  · obtain rfl := Option.some.inj h
    have hfield : (q + 1075).toNat ≠ 0 := by omega
    constructor
    · rw [significand, if_neg hfield]
      exact Nat.add_sub_of_le hm
    · have hmax : ((max (q + 1075).toNat 1 : Nat) : Int) - 1075 = q := by omega
      exact hmax
  · cases h

/-- The rounded quotient is not below the quotient. -/
theorem le_roundedQuotient (num den : Nat) : num / den ≤ roundedQuotient num den := by
  unfold roundedQuotient
  dsimp only
  split
  · exact Nat.le_refl _
  · split <;> omega

/-- A power of two is kept when as many places are cut off as it has to spare. -/
theorem shiftLeft_le_div {n j k : Nat} (h : 1 <<< (j + k) ≤ n) : 1 <<< j ≤ n / (1 <<< k) := by
  rw [Nat.shiftLeft_eq, one_mul] at *
  rw [Nat.shiftLeft_eq, one_mul, Nat.le_div_iff_mul_le (Nat.two_pow_pos k), ← Nat.pow_add]
  exact h

/-- A large number is rounded at the place of its last bits: the quotient that is rounded has all
53 bits of a significand. -/
theorem ofNat?_of_large {negative : Bool} {n k : Nat} (hlog : n.log2 = k + 53) :
    ofNat? negative n =
      if roundedQuotient n (1 <<< (k + 1)) = 2 * leadingBit then
        ofParts? negative leadingBit (k + 2)
      else ofParts? negative (roundedQuotient n (1 <<< (k + 1))) (k + 1) := by
  have hn : n ≠ 0 := by
    rintro rfl
    cases hlog
  have hguess : max (-1074) (((k + 53 : Nat) : Int) - ((1 : Nat).log2 : Int) - 53) = k := by
    rw [show (1 : Nat).log2 = 0 from rfl]
    omega
  have hwide : 2 * leadingBit ≤ n / (1 <<< k) := by
    have hle : 1 <<< (53 + k) ≤ n := by
      rw [Nat.add_comm, ← hlog, Nat.shiftLeft_eq, one_mul]
      exact Nat.log2_self_le hn
    exact shiftLeft_le_div hle
  have hnat : ((k : Int) + 1).toNat = k + 1 := by omega
  have hsum : (k : Int) + 1 + 1 = k + 2 := by omega
  have hnonneg : (0 : Int) ≤ k + 1 := by omega
  unfold ofNat? ofRatio?
  simp only [hn, hlog, hguess, scaleDown, Int.natCast_nonneg, Int.toNat_natCast, if_true, hwide,
    hnonneg, hnat, hsum, one_ne_zero, or_self, if_false]

/-- No number is rounded below the power of two that it reaches. -/
theorem log2_le_of_ofNat? {negative : Bool} {n : Nat} (hlog : 53 ≤ n.log2)
    (h : ofNat? negative n = some x) :
    0 ≤ x.exponent ∧ 1 <<< n.log2 ≤ x.significand <<< x.exponent.toNat := by
  obtain ⟨k, hk⟩ := Nat.exists_eq_add_of_le' hlog
  have hrounded : leadingBit ≤ roundedQuotient n (1 <<< (k + 1)) := by
    have hle : 1 <<< (52 + (k + 1)) ≤ n := by
      rw [show 52 + (k + 1) = n.log2 by omega, Nat.shiftLeft_eq, one_mul]
      exact Nat.log2_self_le (by rintro rfl; cases hk)
    exact (shiftLeft_le_div hle).trans (le_roundedQuotient n _)
  have hparts : leadingBit ≤ x.significand ∧ (k : Int) + 1 ≤ x.exponent := by
    rw [ofNat?_of_large hk] at h
    split at h
    · obtain ⟨hsignificand, hexponent⟩ := parts_of_ofParts? (Nat.le_refl _) (by omega) h
      exact ⟨hsignificand.ge, by omega⟩
    · obtain ⟨hsignificand, hexponent⟩ := parts_of_ofParts? hrounded (by omega) h
      exact ⟨hsignificand ▸ hrounded, hexponent.ge⟩
  have hlarge : k + 1 ≤ x.exponent.toNat := by omega
  refine ⟨by omega, ?_⟩
  calc
    1 <<< n.log2 = leadingBit * Nat.pow 2 (k + 1) := by
      rw [show n.log2 = 52 + (k + 1) by omega, Nat.shiftLeft_eq, one_mul, Nat.pow_add]
      rfl
    _ ≤ x.significand * Nat.pow 2 x.exponent.toNat :=
      Nat.mul_le_mul hparts.1 (Nat.pow_le_pow_right Nat.two_pos hlarge)
    _ = x.significand <<< x.exponent.toNat := (Nat.shiftLeft_eq _ _).symm

/-- No number from the end of the range of counters on is rounded into the range. -/
theorem le_natAbs_of_ofNat? {negative : Bool} {n : Nat} (hn : 0x8000000000000000 ≤ n)
    (h : ofNat? negative n = some x) {m : Int} (hm : x.toInt? = some m) :
    0x8000000000000000 ≤ m.natAbs := by
  have hlog : 63 ≤ n.log2 := (Nat.le_log2 (by omega)).mpr hn
  obtain ⟨hexponent, hsize⟩ := log2_le_of_ofNat? (by omega) h
  rw [toInt?, if_pos hexponent] at hm
  have hvalue : m.natAbs = x.significand <<< x.exponent.toNat := by
    rw [← Option.some.inj hm, ← sign, Int.natAbs_mul, natAbs_sign, one_mul, Int.natAbs_natCast]
  rw [hvalue]
  refine le_trans ?_ hsize
  rw [Nat.shiftLeft_eq, one_mul]
  exact Nat.pow_le_pow_right Nat.two_pos hlog

end Binary64

/-! ## Numbers as counters -/

/-- The rational number that a number stands for. -/
def Number.toRat : Number → Rat
  | .integer n => n
  | .real x => x.toRat

/-- Whether a number is held as an integer. -/
def Number.isInteger : Number → Bool
  | .integer _ => true
  | .real _ => false

namespace Payload

variable {n : Number} {c : Count}

/-- Whole rationals in the range are integers in the range. -/
theorem abs_cast_lt_iff {m : Int} :
    |(m : Rat)| < 0x8000000000000000 ↔ m.natAbs < 0x8000000000000000 := by
  rw [← Int.cast_abs, Int.abs_eq_natAbs]
  norm_cast

/-- An integer beyond the range of counters is not rounded into it. -/
theorem realCount?_of_rounded {m : Int} (hm : Count.ofInt? m = none) {x : Binary64}
    (hx : Binary64.ofNat? (decide (m < 0)) m.natAbs = some x) : realCount? x = none := by
  have hlarge : 0x8000000000000000 ≤ m.natAbs := by
    unfold Count.ofInt? at hm
    split at hm
    · cases hm
    · omega
  rw [realCount?, Option.bind_eq_none_iff]
  intro n hn
  rw [if_neg (Nat.not_lt.mpr (Binary64.le_natAbs_of_ofNat? hlarge hx hn))]

/-- The second look at an integer finds nothing: it is read as itself, or refused. -/
theorem wholeCount?_integer (m : Int) : wholeCount? (.integer m) = Count.ofInt? m := by
  rw [wholeCount?]
  cases hm : Count.ofInt? m with
  | some c => rfl
  | none =>
    rw [Option.none_or, Option.bind_eq_none_iff]
    exact fun x hx => realCount?_of_rounded hm hx

/-- A number is read as the counter that it is equal to.  A binary number at the very end of the
range is refused. -/
theorem wholeCount?_eq_some_iff :
    wholeCount? n = some c ↔
      n.toRat = c.value ∧ (n.isInteger = true ∨ |n.toRat| < 0x8000000000000000) := by
  cases n with
  | integer m =>
    rw [wholeCount?_integer, Count.ofInt?_eq_some_iff, Number.toRat, Int.cast_inj]
    simp [Number.isInteger, eq_comm]
  | real x =>
    rw [wholeCount?, realCount?, Option.bind_eq_some_iff, Number.toRat]
    constructor
    · rintro ⟨m, hm, hc⟩
      split at hc
      · rename_i hsmall
        obtain rfl := Count.ofInt?_eq_some_iff.mp hc
        have hvalue := Binary64.toInt?_eq_some_iff.mp hm
        exact ⟨hvalue, .inr (by rwa [hvalue, abs_cast_lt_iff])⟩
      · cases hc
    · rintro ⟨hvalue, hreal | hsmall⟩
      · cases hreal
      · rw [hvalue, abs_cast_lt_iff] at hsmall
        refine ⟨c.value, Binary64.toInt?_eq_some_iff.mpr hvalue, ?_⟩
        rw [if_pos hsmall, Count.ofInt?_value]

/-- What is refused is not whole, or it is beyond the range. -/
theorem not_whole_or_large_of_wholeCount?_eq_none (h : wholeCount? n = none) :
    (¬∃ m : Int, n.toRat = m) ∨ 0x8000000000000000 ≤ |n.toRat| := by
  by_contra! hwhole
  obtain ⟨⟨m, hm⟩, hsmall⟩ := hwhole
  have hrange : |m| < 0x8000000000000000 := by
    rw [hm] at hsmall
    exact_mod_cast hsmall
  obtain ⟨hlower, hupper⟩ := abs_lt.mp hrange
  have hsome : wholeCount? n = some ⟨m, hlower.le, hupper⟩ :=
    wholeCount?_eq_some_iff.mpr ⟨hm, .inr hsmall⟩
  rw [h] at hsome
  cases hsome

end Payload
end OptimisticCache
