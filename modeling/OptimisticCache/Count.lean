/-!
# Counters in 64 bits

A counter is a whole number from `-2 ^ 63` to `2 ^ 63 - 1`.  Adding never wraps
around: a sum outside the range becomes the nearest end of it.

Main results:

- Theorem {lit}`Count.ofInt?_value`: every counter is read back from its value.
- Theorem {lit}`Count.clamp_value`: clamping moves a value to the nearest end of the
  range.
- Theorem {lit}`Count.adjust_value`: an adjusted counter is the sum, moved into the
  range from zero up.
-/

namespace OptimisticCache

/-- A whole number of 64 bits with a sign. -/
structure Count where
  value : Int
  lower : -0x8000000000000000 ≤ value
  upper : value < 0x8000000000000000
deriving DecidableEq

namespace Count

/-- The counter with a value, if the value is in the range. -/
def ofInt? (n : Int) : Option Count :=
  if h : -0x8000000000000000 ≤ n ∧ n < 0x8000000000000000 then some ⟨n, h.1, h.2⟩ else none

/-- The counter nearest to a value. -/
def clamp (n : Int) : Count :=
  if h : n < -0x8000000000000000 then ⟨-0x8000000000000000, by decide, by decide⟩
  else if h' : 0x8000000000000000 ≤ n then ⟨0x7FFFFFFFFFFFFFFF, by decide, by decide⟩
  else ⟨n, by omega, by omega⟩

instance : Inhabited Count :=
  ⟨clamp 0⟩

/-- Zero. -/
def zero : Count :=
  clamp 0

/-- The counter after a change: the sum, neither beyond the range nor below zero. -/
def adjust (current delta : Count) : Count :=
  clamp (max 0 (clamp (current.value + delta.value)).value)

/-- A counter is determined by its value. -/
@[ext]
theorem ext {a b : Count} (h : a.value = b.value) : a = b := by
  cases a
  cases b
  cases h
  rfl

/-- Every counter is read back from its value. -/
@[simp]
theorem ofInt?_value (c : Count) : ofInt? c.value = some c := by
  unfold ofInt?
  rw [dif_pos ⟨c.lower, c.upper⟩]

/-- Only the value of a counter is read as the counter. -/
theorem ofInt?_eq_some_iff {n : Int} {c : Count} : ofInt? n = some c ↔ c.value = n := by
  constructor
  · intro h
    unfold ofInt? at h
    split at h
    · rw [← Option.some.inj h]
    · cases h
  · rintro rfl
    exact ofInt?_value c

/-- Clamping moves a value to the nearest end of the range. -/
theorem clamp_value (n : Int) :
    (clamp n).value = max (-0x8000000000000000) (min n 0x7FFFFFFFFFFFFFFF) := by
  unfold clamp
  split
  · dsimp only
    omega
  · split
    · dsimp only
      omega
    · dsimp only
      omega

/-- The value of zero. -/
@[simp]
theorem zero_value : zero.value = 0 :=
  rfl

/-- An adjusted counter is the sum, moved into the range from zero up. -/
theorem adjust_value (current delta : Count) :
    (adjust current delta).value =
      max 0 (min 0x7FFFFFFFFFFFFFFF (current.value + delta.value)) := by
  have hc := current.lower
  have hd := delta.lower
  rw [adjust, clamp_value, clamp_value]
  omega

end Count
end OptimisticCache
