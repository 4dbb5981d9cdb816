/-!
# Punycode

A label with characters beyond ASCII is written in ASCII: its ASCII characters
come first, and after a hyphen the other characters follow with their places, as
numbers of variable length in base 36.

Main results:

- Theorem {lit}`Punycode.readNumber_length`: reading a number takes characters
  away.
- Theorem {lit}`Punycode.readNumber_writeNumber`: a number that was written is read
  back.
-/

namespace OptimisticCache
namespace Punycode

/-! ## Digits and thresholds -/

/-- The character of a digit: letters first, then numerals. -/
def digitChar (d : Nat) : Char :=
  if d < 26 then Char.ofNat (97 + d) else Char.ofNat (22 + d)

/-- The digit that a character stands for, in either case. -/
def digit? (c : Char) : Option Nat :=
  let n := c.toNat
  if 97 ≤ n ∧ n ≤ 122 then some (n - 97)
  else if 65 ≤ n ∧ n ≤ 90 then some (n - 65)
  else if 48 ≤ n ∧ n ≤ 57 then some (n - 22)
  else none

/-- The digits below the threshold of a place end a number. -/
def threshold (place bias : Nat) : Nat :=
  if place ≤ bias then 1 else if bias + 26 ≤ place then 26 else place - bias

/-- A digit of zero ends a number at every place. -/
theorem one_le_threshold (place bias : Nat) : 1 ≤ threshold place bias := by
  unfold threshold
  split
  · omega
  · split <;> omega

/-- How often a distance is divided, and what is left of it. -/
def scaleDown (distance steps : Nat) : Nat × Nat :=
  if 455 < distance then scaleDown (distance / 35) (steps + 1) else (distance, steps)
termination_by distance
decreasing_by exact Nat.div_lt_self (by omega) (by omega)

/-- The bias after a distance was written or read. -/
def adapt (distance count : Nat) (isFirst : Bool) : Nat :=
  let halved := if isFirst then distance / 700 else distance / 2
  let (rest, steps) := scaleDown (halved + halved / count) 0
  36 * steps + 36 * rest / (rest + 38)

/-! ## Reading -/

/-- Read a number: what was there before it, the number added, and the rest. -/
def readNumber (bias : Nat) : List Char → Nat → Nat → Nat → Option (Nat × List Char)
  | [], _, _, _ => none
  | c :: cs, place, weight, sum =>
    match digit? c with
    | none => none
    | some d =>
      let t := threshold place bias
      if d < t then some (sum + d * weight, cs)
      else readNumber bias cs (place + 36) (weight * (36 - t)) (sum + d * weight)

/-- Reading a number takes characters away. -/
theorem readNumber_length {bias : Nat} {cs : List Char} {place weight sum : Nat}
    {r : Nat × List Char} (h : readNumber bias cs place weight sum = some r) :
    r.2.length < cs.length := by
  induction cs generalizing place weight sum with
  | nil => cases h
  | cons c cs ih =>
    unfold readNumber at h
    split at h
    · cases h
    · dsimp only at h
      split at h
      · obtain rfl := Option.some.inj h
        simp
      · exact Nat.lt_succ_of_lt (ih h)

/-- Put characters at their places, from the smallest one on. -/
def insertAll (out : List Nat) (next place bias : Nat) (cs : List Char) : Option (List Nat) :=
  if cs = [] then some out
  else
    match h : readNumber bias cs 36 1 place with
    | none => none
    | some (sum, rest) =>
      have := readNumber_length h
      let size := out.length + 1
      let c := next + sum / size
      let i := sum % size
      if 0x10FFFF < c ∨ (0xD800 ≤ c ∧ c < 0xE000) then none
      else
        insertAll (out.take i ++ c :: out.drop i) c (i + 1)
          (adapt (sum - place) size (place = 0)) rest
termination_by cs.length

/-- The ASCII characters before the last hyphen, and what follows it. -/
def splitHyphen (cs : List Char) : List Char × List Char :=
  match cs.reverse.dropWhile (· ≠ '-') with
  | _ :: front => (front.reverse, (cs.reverse.takeWhile (· ≠ '-')).reverse)
  | [] => ([], cs)

/-- Read a label. -/
def decode (cs : List Char) : Option (List Nat) :=
  let (front, rest) := splitHyphen cs
  insertAll (front.map Char.toNat) 128 0 72 rest

/-! ## Writing -/

/-- Write a number. -/
def writeNumber (bias place n : Nat) : List Char :=
  let t := threshold place bias
  if n < t then [digitChar n]
  else digitChar (t + (n - t) % (36 - t)) :: writeNumber bias (place + 36) ((n - t) / (36 - t))
termination_by n
decreasing_by
  have h := one_le_threshold place bias
  calc (n - threshold place bias) / (36 - threshold place bias)
      ≤ n - threshold place bias := Nat.div_le_self _ _
    _ < n := by omega

/-- What is written so far: the characters, the distance since the last one, the bias, and how
many characters are placed. -/
structure Written where
  chars : List Char
  distance : Nat
  bias : Nat
  placed : Nat

/-- Pass a character of the label while the places of `current` are written. -/
def pass (ascii current : Nat) (w : Written) (c : Nat) : Written :=
  if c < current then { w with distance := w.distance + 1 }
  else if c = current then
    { chars := w.chars ++ writeNumber w.bias 36 w.distance
      distance := 0
      bias := adapt w.distance (w.placed + 1) (w.placed = ascii)
      placed := w.placed + 1 }
  else w

/-- Write the places of the characters, from the smallest one on. -/
def writeAll (label : List Nat) (ascii : Nat) : List Nat → Nat → Written → Written
  | [], _, w => w
  | current :: more, next, w =>
    let w := { w with distance := w.distance + (current - next) * (w.placed + 1) }
    let w := label.foldl (pass ascii current) w
    writeAll label ascii more (current + 1) { w with distance := w.distance + 1 }

/-- Put a number into an ascending list, unless it is there. -/
def insertAscending (n : Nat) : List Nat → List Nat
  | [] => [n]
  | m :: ms => if n < m then n :: m :: ms else if n = m then m :: ms else m :: insertAscending n ms

/-- Write a label. -/
def encode (label : List Nat) : List Char :=
  let ascii := label.filter (· < 128)
  let others := (label.filter (128 ≤ ·)).foldr insertAscending []
  let front := ascii.map Char.ofNat ++ if ascii.isEmpty then [] else ['-']
  front ++ (writeAll label ascii.length others 128 ⟨[], 0, 72, ascii.length⟩).chars

/-- A digit that was written is read back. -/
theorem digit?_digitChar {d : Nat} (h : d < 36) : digit? (digitChar d) = some d := by
  have hall : ∀ e < 36, digit? (digitChar e) = some e := by decide
  exact hall d h

/-- A threshold leaves room for digits above it. -/
theorem threshold_le (place bias : Nat) : threshold place bias ≤ 26 := by
  unfold threshold
  split
  · omega
  · split <;> omega

/-- A number that was written is read back, with the weight of its place. -/
theorem readNumber_writeNumber (bias place n weight sum : Nat) (rest : List Char) :
    readNumber bias (writeNumber bias place n ++ rest) place weight sum =
      some (sum + n * weight, rest) := by
  have hlow := one_le_threshold place bias
  have hhigh := threshold_le place bias
  fun_induction writeNumber bias place n generalizing weight sum with
  | case1 place n t hlt =>
    rw [List.singleton_append, readNumber, digit?_digitChar (by omega)]
    exact if_pos hlt
  | case2 place n t hge ih =>
    have hmod : (n - t) % (36 - t) < 36 - t := Nat.mod_lt _ (by omega)
    have hsplit := Nat.mod_add_div (n - t) (36 - t)
    rw [List.cons_append, readNumber, digit?_digitChar (by omega)]
    dsimp only
    rw [if_neg (by omega), ih _ _ (one_le_threshold _ _) (threshold_le _ _)]
    congr 2
    calc sum + (t + (n - t) % (36 - t)) * weight + (n - t) / (36 - t) * (weight * (36 - t))
        = sum + (t + ((n - t) % (36 - t) + (36 - t) * ((n - t) / (36 - t)))) * weight := by
          simp only [Nat.add_mul, Nat.mul_assoc, Nat.mul_left_comm, Nat.mul_comm weight,
            Nat.add_assoc]
      _ = sum + n * weight := by rw [hsplit, Nat.add_sub_cancel' (by omega)]

end Punycode
end OptimisticCache
