/-!
# Finite binary numbers in 64 bits

A finite number of the 64-bit binary format, given by its sign, its exponent
field and its fraction, so that each number has one representation and the two
zeros differ.  All arithmetic is exact arithmetic on integers followed by one
rounding to nearest, ties to even.
-/

namespace OptimisticCache

/-- The weight of the leading bit of a significand: 52 bits follow it. -/
abbrev Binary64.leadingBit : Nat :=
  0x10000000000000

/-- A finite number of the 64-bit binary format. -/
structure Binary64 where
  negative : Bool
  exponentField : Fin 2047
  fraction : Fin Binary64.leadingBit
deriving DecidableEq

namespace Binary64

/-- The significand: the fraction, with its leading bit unless the number is subnormal. -/
def significand (x : Binary64) : Nat :=
  if x.exponentField.val = 0 then x.fraction.val else leadingBit + x.fraction.val

/-- The power of two that the significand is multiplied with. -/
def exponent (x : Binary64) : Int :=
  (max x.exponentField.val 1 : Nat) - 1075

/-- Zero with the given sign. -/
def zero (negative : Bool) : Binary64 :=
  ⟨negative, 0, 0⟩

/-- Whether the number is one of the two zeros. -/
def isZero (x : Binary64) : Bool :=
  x.significand == 0

/-- Equality as numbers: the two zeros are equal. -/
def same (x y : Binary64) : Bool :=
  x = y || (x.isZero && y.isZero)

/-- The integer that the number equals, if it is whole. -/
def toInt? (x : Binary64) : Option Int :=
  let sign : Int := if x.negative then -1 else 1
  if 0 ≤ x.exponent then some (sign * (x.significand <<< x.exponent.toNat : Nat))
  else
    let divisor := 1 <<< (-x.exponent).toNat
    if x.significand % divisor = 0 then some (sign * (x.significand / divisor : Nat)) else none

theorem same_refl (x : Binary64) : same x x = true := by
  simp [same]

/-! ## Rounding -/

/-- The nearest integer to a quotient, a tie going to the even one. -/
def roundedQuotient (num den : Nat) : Nat :=
  let below := num / den
  let rest := 2 * (num % den)
  if rest < den then below
  else if den < rest then below + 1
  else below + below % 2

/-- The number with significand `m` and exponent `q`, or none when it is too large.
The significand is below twice the leading bit, and at least that bit unless `q` is the least exponent. -/
def ofParts? (negative : Bool) (m : Nat) (q : Int) : Option Binary64 :=
  if h : m < leadingBit then some ⟨negative, 0, ⟨m, h⟩⟩
  else
    let field := (q + 1075).toNat
    if h : field < 2047 ∧ m - leadingBit < leadingBit then
      some ⟨negative, ⟨field, h.1⟩, ⟨m - leadingBit, h.2⟩⟩
    else none

/-- `num / den` divided by `2 ^ q`, as a quotient of natural numbers. -/
def scaleDown (num den : Nat) (q : Int) : Nat × Nat :=
  if 0 ≤ q then (num, den <<< q.toNat) else (num <<< (-q).toNat, den)

/-- The number nearest to `num / den`, ties to even; none when it is too large. -/
def ofRatio? (negative : Bool) (num den : Nat) : Option Binary64 :=
  if num = 0 ∨ den = 0 then some (zero negative)
  else
    let guess : Int := max (-1074) ((num.log2 : Int) - (den.log2 : Int) - 53)
    let wide := scaleDown num den guess
    let q := if 2 * leadingBit ≤ wide.1 / wide.2 then guess + 1 else guess
    let scaled := scaleDown num den q
    let m := roundedQuotient scaled.1 scaled.2
    if m = 2 * leadingBit then ofParts? negative leadingBit (q + 1) else ofParts? negative m q

/-- The size of a number as a quotient of natural numbers. -/
def ratio (x : Binary64) : Nat × Nat :=
  if 0 ≤ x.exponent then (x.significand <<< x.exponent.toNat, 1)
  else (x.significand, 1 <<< (-x.exponent).toNat)

/-- The number nearest to a natural number. -/
def ofNat? (negative : Bool) (n : Nat) : Option Binary64 :=
  ofRatio? negative n 1

/-- The product with the size of another number, rounded. -/
def mul? (x y : Binary64) : Option Binary64 :=
  ofRatio? x.negative (x.ratio.1 * y.ratio.1) (x.ratio.2 * y.ratio.2)

/-- The quotient by the size of another number, rounded. -/
def div? (x y : Binary64) : Option Binary64 :=
  ofRatio? x.negative (x.ratio.1 * y.ratio.2) (x.ratio.2 * y.ratio.1)

/-! ## Decimal scale -/

/-- The largest power of ten of the format. -/
def maxTenPower : Nat :=
  308

/-- Multiply by a power of ten: one rounding for each power of ten of the format that is
used, and division for a negative exponent. -/
def scaleTen? (x : Binary64) (e : Int) : Option Binary64 :=
  if e.natAbs ≤ maxTenPower then
    (ofNat? false (Nat.pow 10 e.natAbs)).bind fun ten => if 0 ≤ e then x.mul? ten else x.div? ten
  else if x.isZero then some x
  else if 0 ≤ e then none
  else
    ((ofNat? false (Nat.pow 10 maxTenPower)).bind fun ten => x.div? ten).bind fun y =>
      scaleTen? y (e + maxTenPower)
termination_by e.natAbs
decreasing_by
  simp only [maxTenPower] at *
  omega

end Binary64
end OptimisticCache
