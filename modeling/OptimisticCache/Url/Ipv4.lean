import OptimisticCache.Text.Decimal
import OptimisticCache.Text.Hex
/-!
# IPv4 addresses

An address of 32 bits.  It is read from up to four numbers with points between
them, each decimal, octal with a leading zero, or hexadecimal with a leading
{lit}`0x`; the last number fills all bytes that are left.  It is written as four
decimal bytes.

Main results:

- Theorem {lit}`Ipv4.ofNumbers?_bytes`: the four bytes of an address make the
  address.
- Theorem {lit}`Ipv4.ofChars?_chars`: a written address is read back.
-/

namespace OptimisticCache

/-- An address of 32 bits. -/
structure Ipv4 where
  value : Fin 0x100000000
deriving DecidableEq

namespace Ipv4

/-- The address with a value, if the value fits. -/
def ofNat? (n : Nat) : Option Ipv4 :=
  if h : n < 0x100000000 then some ⟨⟨n, h⟩⟩ else none

/-- Digits of a base, from the left; no digits are zero. -/
def readDigits? (base : Nat) (cs : List Char) : Option Nat :=
  cs.foldlM
    (fun n c => ((Hex.value? c).filter fun d => decide (d < base)).map (base * n + ·)) 0

/-- A number in one of three bases. -/
def number? : List Char → Option Nat
  | [] => none
  | '0' :: 'x' :: cs | '0' :: 'X' :: cs => readDigits? 16 cs
  | ['0'] => some 0
  | '0' :: cs => readDigits? 8 cs
  | cs => readDigits? 10 cs

/-- The parts between the points; a point at the end is passed over. -/
def parts (cs : List Char) : List (List Char) :=
  let parts := cs.splitOn '.'
  if parts.getLast? = some [] then parts.dropLast else parts

/-- Whether the last part is a number, so that the text can only be an address. -/
def endsInNumber (cs : List Char) : Bool :=
  match (parts cs).getLast? with
  | none => false
  | some last => (!last.isEmpty && last.all Decimal.isDigit) || (number? last).isSome

/-- The address made of numbers: all but the last are single bytes. -/
def ofNumbers? : List Nat → Option Ipv4
  | [d] => ofNat? d
  | [a, d] => if a < 256 ∧ d < 0x1000000 then ofNat? (a * 0x1000000 + d) else none
  | [a, b, d] =>
    if a < 256 ∧ b < 256 ∧ d < 0x10000 then ofNat? (a * 0x1000000 + b * 0x10000 + d) else none
  | [a, b, c, d] =>
    if a < 256 ∧ b < 256 ∧ c < 256 ∧ d < 256 then
      ofNat? (a * 0x1000000 + b * 0x10000 + c * 256 + d)
    else none
  | _ => none

/-- Read an address. -/
def ofChars? (cs : List Char) : Option Ipv4 := do
  ofNumbers? (← (parts cs).mapM number?)

/-- The four bytes, the most significant one first. -/
def bytes (a : Ipv4) : List Nat :=
  let n := a.value.val
  [n / 0x1000000, n / 0x10000 % 256, n / 256 % 256, n % 256]

/-- The four bytes with points between them. -/
def chars (a : Ipv4) : List Char :=
  List.intercalate ['.'] (a.bytes.map Decimal.digits)

/-! ## Reading what was written -/

/-- One more digit on the right. -/
theorem readDigits?_concat {base n d : Nat} {cs : List Char} {c : Char}
    (hcs : readDigits? base cs = some n) (hc : Hex.value? c = some d) (hd : d < base) :
    readDigits? base (cs ++ [c]) = some (base * n + d) := by
  rw [readDigits?] at hcs ⊢
  rw [List.foldlM_append, hcs]
  simp [hc, Option.filter, hd]

/-- A number that is written in a base, the most significant digit first, is read back. -/
theorem readDigits?_written {base : Nat} {digit : Nat → Char} {write : Nat → List Char}
    (hbase : 1 < base) (hdigit : ∀ d < base, Hex.value? (digit d) = some d)
    (hwrite : ∀ n, write n =
      if n < base then [digit n] else write (n / base) ++ [digit (n % base)]) (n : Nat) :
    readDigits? base (write n) = some n := by
  have hnone : readDigits? base [] = some 0 := rfl
  induction n using Nat.strongRecOn with
  | _ n ih =>
    rw [hwrite]
    split
    · rename_i hn
      simpa using readDigits?_concat hnone (hdigit n hn) hn
    · have hlast : n % base < base := Nat.mod_lt n (by omega)
      have hfront := ih (n / base) (Nat.div_lt_self (by omega) hbase)
      rw [readDigits?_concat hfront (hdigit _ hlast) hlast, Nat.div_add_mod]

/-- The digits of a number are read back in base ten. -/
theorem readDigits?_digits (n : Nat) : readDigits? 10 (Decimal.digits n) = some n :=
  have hdigit : ∀ d < 10, Hex.value? (Decimal.digitChar d) = some d := by decide
  readDigits?_written (by decide) hdigit (fun n => by rw [Decimal.digits]) n

/-- The hexadecimal digits of a number are read back in base sixteen. -/
theorem readDigits?_hexDigits (n : Nat) : readDigits? 16 (Hex.digits n) = some n :=
  readDigits?_written (by decide) (fun _ => Hex.value?_lower) (fun n => by rw [Hex.digits]) n

/-- No zero stands in front of the digits of a number that is not zero. -/
theorem head?_digits_ne {n : Nat} (hn : n ≠ 0) : (Decimal.digits n).head? ≠ some '0' := by
  have hdigit : ∀ d < 10, d ≠ 0 → Decimal.digitChar d ≠ '0' := by decide
  induction n using Nat.strongRecOn with
  | _ n ih =>
    rw [Decimal.digits]
    split
    · rename_i hlt
      simpa using hdigit n hlt hn
    · have hhead := ih (n / 10) (by omega) (by omega)
      cases hfront : Decimal.digits (n / 10) with
      | nil => exact absurd hfront (Decimal.digits_ne_nil _)
      | cons c cs => rwa [hfront] at hhead

/-- A number in decimal is read back: without a zero in front it is in no other base. -/
theorem number?_digits (n : Nat) : number? (Decimal.digits n) = some n := by
  by_cases hn : n = 0
  · subst hn
    rw [Decimal.digits]
    rfl
  · have hhead := head?_digits_ne hn
    have hread := readDigits?_digits n
    cases hdigits : Decimal.digits n with
    | nil => exact absurd hdigits (Decimal.digits_ne_nil n)
    | cons c cs =>
      rw [hdigits] at hhead hread
      have hc : c ≠ '0' := fun h => hhead (by rw [h, List.head?_cons])
      unfold number?
      split <;> simp_all

/-- The four bytes of an address make the address. -/
theorem ofNumbers?_bytes (a : Ipv4) : ofNumbers? a.bytes = some a := by
  obtain ⟨⟨n, hn⟩⟩ := a
  have hsum : n / 0x1000000 * 0x1000000 + n / 0x10000 % 256 * 0x10000 + n / 256 % 256 * 256 +
      n % 256 = n := by
    omega
  simp only [bytes, ofNumbers?]
  rw [if_pos (by omega), hsum, ofNat?, dif_pos hn]

theorem point_not_mem_digits (n : Nat) : '.' ∉ Decimal.digits n := fun h =>
  absurd (Decimal.isDigit_of_mem_digits h) (by decide)

/-- The parts of a written address are its bytes. -/
theorem parts_chars (a : Ipv4) : parts a.chars = a.bytes.map Decimal.digits := by
  have hsplit : a.chars.splitOn '.' = a.bytes.map Decimal.digits :=
    List.splitOn_intercalate '.' (List.forall_mem_map.mpr fun n _ => point_not_mem_digits n)
      (by simp [bytes])
  rw [parts, hsplit, if_neg]
  simp [bytes, Decimal.digits_ne_nil]

/-- A written address is read back. -/
theorem ofChars?_chars (a : Ipv4) : ofChars? a.chars = some a := by
  have hnumbers : a.bytes.mapM (number? ∘ Decimal.digits) = some a.bytes := by
    simp [bytes, number?_digits]
  rw [ofChars?, parts_chars, List.mapM_map, hnumbers]
  exact ofNumbers?_bytes a

/-! ## The characters of an address -/

/-- The text of an address. -/
theorem chars_eq (a : Ipv4) :
    a.chars = Decimal.digits (a.value.val / 0x1000000) ++
      '.' :: (Decimal.digits (a.value.val / 0x10000 % 256) ++
        '.' :: (Decimal.digits (a.value.val / 256 % 256) ++
          '.' :: Decimal.digits (a.value.val % 256))) := by
  simp [chars, bytes, List.intercalate]

theorem chars_ne_nil (a : Ipv4) : a.chars ≠ [] := by
  simp [chars_eq]

/-- The text of an address holds digits and points. -/
theorem mem_chars {a : Ipv4} {c : Char} (h : c ∈ a.chars) : c = '.' ∨ Decimal.isDigit c = true := by
  rw [chars_eq] at h
  simp only [List.mem_append, List.mem_cons] at h
  obtain h | h | h | h | h | h | h := h
  all_goals first | exact Or.inl h | exact Or.inr (Decimal.isDigit_of_mem_digits h)

end Ipv4
end OptimisticCache
