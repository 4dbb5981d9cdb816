import OptimisticCache.Binary64
import OptimisticCache.Text.Decimal
/-!
# Shortest decimal digits

A number is written with the fewest significant digits that round back to it; of
the candidates with that many digits the nearest to the number is taken, and of
two equally near ones the even one.  The candidates with a given number of
digits are the two neighbours of the number on that decimal grid, so only those
are looked at.

Main results:

- Theorem {lit}`Binary64.Shortest.search_first`: the digits are those of the coarsest
  grid on which a neighbour of the number rounds to it.
- Theorem {lit}`Binary64.Shortest.search_roundsBack`: they round to the number.
-/

namespace OptimisticCache
namespace Binary64
namespace Shortest

/-- A positive number in quarters of its last place: the number and the ends of the
interval of reals that round to it, all multiplied with the same power of two. -/
structure Interval where
  low : Nat
  value : Nat
  high : Nat
  closed : Bool
  exponent : Int
deriving DecidableEq

/-- The reals that round to the size of `x`.  Below a power of two the gap is half as wide. -/
def Interval.of (x : Binary64) : Interval :=
  let m := x.significand
  { low := if m = leadingBit ∧ 1 < x.exponentField.val then 4 * m - 1 else 4 * m - 2
    value := 4 * m
    high := 4 * m + 2
    closed := m % 2 = 0
    exponent := x.exponent - 2 }

/-- A row of digits and the power of ten of its last digit. -/
structure Digits where
  row : Nat
  power : Int
deriving DecidableEq

/-- Factors that bring multiples of `10 ^ power` and of `2 ^ exponent` to one scale. -/
def scales (i : Interval) (power : Int) : Nat × Nat :=
  (Nat.pow 10 power.toNat <<< (-i.exponent).toNat,
    Nat.pow 10 (-power).toNat <<< i.exponent.toNat)

/-- Whether `row * 10 ^ power` rounds to the number. -/
def roundsBack (i : Interval) (d : Digits) : Bool :=
  let s := scales i d.power
  let r := d.row * s.1
  if i.closed then i.low * s.2 ≤ r && r ≤ i.high * s.2
  else i.low * s.2 < r && r < i.high * s.2

/-- The neighbours of the number among the multiples of `10 ^ power`. -/
def neighbours (i : Interval) (power : Int) : Nat × Nat :=
  let s := scales i power
  let below := i.value * s.2 / s.1
  (below, below + 1)

/-- The nearer of the two neighbours, the even one if both are equally near. -/
def nearer (i : Interval) (power : Int) : Digits :=
  let s := scales i power
  let n := neighbours i power
  let gapBelow := i.value * s.2 - n.1 * s.1
  let gapAbove := n.2 * s.1 - i.value * s.2
  if gapBelow < gapAbove then ⟨n.1, power⟩
  else if gapAbove < gapBelow then ⟨n.2, power⟩
  else if n.1 % 2 = 0 then ⟨n.1, power⟩
  else ⟨n.2, power⟩

/-- The neighbour that rounds back, the nearer one if both do, if any does. -/
def candidate? (i : Interval) (power : Int) : Option Digits :=
  let below : Digits := ⟨(neighbours i power).1, power⟩
  let above : Digits := ⟨(neighbours i power).2, power⟩
  match roundsBack i below, roundsBack i above with
  | true, true => some (nearer i power)
  | true, false => some below
  | false, true => some above
  | false, false => none

/-- The power of ten of the leading digit, from an estimate that is off by at most one. -/
def leadingPower (i : Interval) : Int :=
  let guess := ((i.value.log2 : Int) + i.exponent) * 30103 / 100000
  let atLeast (e : Int) : Bool :=
    let s := scales i e
    s.1 ≤ i.value * s.2
  if atLeast (guess + 1) then guess + 1 else if atLeast guess then guess else guess - 1

/-- The first grid with a hit, from the coarsest one on. -/
def search (i : Interval) (leading : Int) : Nat → Nat → Digits
  | _, 0 => ⟨(neighbours i (leading - 17)).1, leading - 17⟩
  | width, more + 1 =>
    match candidate? i (leading - width) with
    | some d => d
    | none => search i leading (width + 1) more

/-- The row without zeros at its end. -/
def Digits.strip (d : Digits) : Nat → Digits
  | 0 => d
  | more + 1 =>
    if d.row % 10 = 0 ∧ d.row ≠ 0 then Digits.strip ⟨d.row / 10, d.power + 1⟩ more else d

/-- The shortest digits of the size of a number that is not zero. -/
def digits (x : Binary64) : Digits :=
  let i := Interval.of x
  (search i (leadingPower i) 0 17).strip 18

/-- The nearer neighbour is one of the two. -/
theorem nearer_eq (i : Interval) (power : Int) :
    nearer i power = ⟨(neighbours i power).1, power⟩ ∨
      nearer i power = ⟨(neighbours i power).2, power⟩ := by
  unfold nearer
  dsimp only
  split
  · exact Or.inl rfl
  · split
    · exact Or.inr rfl
    · split
      · exact Or.inl rfl
      · exact Or.inr rfl

/-- A digit row that is chosen lies among the reals that round to the number. -/
theorem candidate_roundsBack {i : Interval} {power : Int} {d : Digits}
    (h : candidate? i power = some d) : roundsBack i d = true := by
  unfold candidate? at h
  dsimp only at h
  split at h
  · rename_i hbelow habove
    rw [← Option.some.inj h]
    rcases nearer_eq i power with hn | hn <;> rw [hn] <;> assumption
  · rename_i hbelow _
    rw [← Option.some.inj h]
    exact hbelow
  · rename_i _ habove
    rw [← Option.some.inj h]
    exact habove
  · cases h

/-- No digit row is chosen on a grid exactly if neither neighbour rounds to the number. -/
theorem candidate?_eq_none_iff {i : Interval} {power : Int} :
    candidate? i power = none ↔
      roundsBack i ⟨(neighbours i power).1, power⟩ = false ∧
        roundsBack i ⟨(neighbours i power).2, power⟩ = false := by
  unfold candidate?
  dsimp only
  split <;> simp [*]

/-- The search ends at the first grid on which a digit row is chosen, if there is one. -/
theorem search_first (i : Interval) (leading : Int) (width more : Nat) :
    (∃ w, width ≤ w ∧ w < width + more ∧
        candidate? i (leading - w) = some (search i leading width more) ∧
          ∀ v, width ≤ v → v < w → candidate? i (leading - v) = none) ∨
      ∀ w, width ≤ w → w < width + more → candidate? i (leading - w) = none := by
  induction more generalizing width with
  | zero => exact Or.inr fun w hlow hhigh => by omega
  | succ more ih =>
    cases hcandidate : candidate? i (leading - width) with
    | some d =>
      refine Or.inl ⟨width, Nat.le_refl _, by omega, ?_, fun v hlow hhigh => by omega⟩
      rw [search, hcandidate]
    | none =>
      have hsearch : search i leading width (more + 1) = search i leading (width + 1) more := by
        rw [search, hcandidate]
      have hfirst : ∀ v, width ≤ v → (width + 1 ≤ v → candidate? i (leading - v) = none) →
          candidate? i (leading - v) = none := fun v hlow hlater => by
        rcases Nat.eq_or_lt_of_le hlow with rfl | hlt
        · exact hcandidate
        · exact hlater hlt
      rcases ih (width + 1) with ⟨w, hlow, hhigh, hw, hbefore⟩ | hnone
      · exact Or.inl ⟨w, by omega, by omega, by rw [hsearch, hw], fun v hv hvw =>
          hfirst v hv fun h => hbefore v h hvw⟩
      · exact Or.inr fun w hlow hhigh => hfirst w hlow fun h => hnone w h (by omega)

/-- The digit row that the search ends with rounds to the number, if one does on some grid. -/
theorem search_roundsBack {i : Interval} {leading : Int} {width more w : Nat} (hlow : width ≤ w)
    (hhigh : w < width + more) (h : (candidate? i (leading - w)).isSome) :
    roundsBack i (search i leading width more) = true := by
  rcases search_first i leading width more with ⟨v, -, -, hv, -⟩ | hnone
  · exact candidate_roundsBack hv
  · rw [hnone w hlow hhigh] at h
    cases h

end Shortest
end Binary64
end OptimisticCache
