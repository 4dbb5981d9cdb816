/-!
# Base64

Bytes are written with 64 characters, four of them for three bytes; equals signs
fill up the last four.

Main results:

- Theorem {lit}`Base64.encode_injective`: different bytes are written differently.
-/

namespace OptimisticCache
namespace Base64

/-- The character of a value below 64. -/
def charOf (n : Nat) : Char :=
  if n < 26 then Char.ofNat (65 + n)
  else if n < 52 then Char.ofNat (71 + n)
  else if n < 62 then Char.ofNat (n - 4)
  else if n = 62 then '+'
  else '/'

/-- Write bytes. -/
def encode : List UInt8 → List Char
  | [] => []
  | [a] => [charOf (a.toNat / 4), charOf (a.toNat % 4 * 16), '=', '=']
  | [a, b] =>
    [charOf (a.toNat / 4), charOf (a.toNat % 4 * 16 + b.toNat / 16),
      charOf (b.toNat % 16 * 4), '=']
  | a :: b :: c :: rest =>
    charOf (a.toNat / 4) :: charOf (a.toNat % 4 * 16 + b.toNat / 16) ::
      charOf (b.toNat % 16 * 4 + c.toNat / 64) :: charOf (c.toNat % 64) :: encode rest

/-- The 64 characters are different. -/
theorem charOf_injective {m n : Nat} (hm : m < 64) (hn : n < 64) (h : charOf m = charOf n) :
    m = n := by
  have hall : ∀ m < 64, ∀ n < 64, charOf m = charOf n → m = n := by decide +kernel
  exact hall m hm n hn h

/-- No value is written as an equals sign. -/
theorem charOf_ne_pad {n : Nat} (h : n < 64) : charOf n ≠ '=' := by
  have hall : ∀ n < 64, charOf n ≠ '=' := by decide +kernel
  exact hall n h

/-- Different bytes are written differently. -/
theorem encode_injective {as bs : List UInt8} (h : encode as = encode bs) : as = bs := by
  have hbyte : ∀ a : UInt8, a.toNat < 256 := UInt8.toNat_lt
  fun_induction encode as generalizing bs with
  | case1 =>
    rcases bs with _ | ⟨a', _ | ⟨b', _ | ⟨c', bs⟩⟩⟩
    · rfl
    all_goals cases h
  | case2 a =>
    have ha := hbyte a
    rcases bs with _ | ⟨a', _ | ⟨b', _ | ⟨c', bs⟩⟩⟩ <;>
      simp only [encode, List.cons.injEq, and_true, reduceCtorEq] at h
    · have ha' := hbyte a'
      have hfirst := charOf_injective (by omega) (by omega) h.1
      have hsecond := charOf_injective (by omega) (by omega) h.2
      rw [UInt8.toNat_inj.mp (show a.toNat = a'.toNat by omega)]
    · exact absurd h.2.2.symm (charOf_ne_pad (by omega))
    · have hc' := hbyte c'
      exact absurd h.2.2.1.symm (charOf_ne_pad (by omega))
  | case3 a b =>
    have ha := hbyte a
    have hb := hbyte b
    rcases bs with _ | ⟨a', _ | ⟨b', _ | ⟨c', bs⟩⟩⟩ <;>
      simp only [encode, List.cons.injEq, and_true, reduceCtorEq] at h
    · exact absurd h.2.2 (charOf_ne_pad (by omega))
    · have ha' := hbyte a'
      have hb' := hbyte b'
      have hfirst := charOf_injective (by omega) (by omega) h.1
      have hsecond := charOf_injective (by omega) (by omega) h.2.1
      have hthird := charOf_injective (by omega) (by omega) h.2.2
      rw [UInt8.toNat_inj.mp (show a.toNat = a'.toNat by omega),
        UInt8.toNat_inj.mp (show b.toNat = b'.toNat by omega)]
    · exact absurd h.2.2.2.1.symm (charOf_ne_pad (by omega))
  | case4 a b c rest ih =>
    have ha := hbyte a
    have hb := hbyte b
    have hc := hbyte c
    rcases bs with _ | ⟨a', _ | ⟨b', _ | ⟨c', bs⟩⟩⟩ <;>
      simp only [encode, List.cons.injEq, reduceCtorEq] at h
    · exact absurd h.2.2.1 (charOf_ne_pad (by omega))
    · exact absurd h.2.2.2.1 (charOf_ne_pad (by omega))
    · have ha' := hbyte a'
      have hb' := hbyte b'
      have hc' := hbyte c'
      have hfirst := charOf_injective (by omega) (by omega) h.1
      have hsecond := charOf_injective (by omega) (by omega) h.2.1
      have hthird := charOf_injective (by omega) (by omega) h.2.2.1
      have hfourth := charOf_injective (by omega) (by omega) h.2.2.2.1
      rw [UInt8.toNat_inj.mp (show a.toNat = a'.toNat by omega),
        UInt8.toNat_inj.mp (show b.toNat = b'.toNat by omega),
        UInt8.toNat_inj.mp (show c.toNat = c'.toNat by omega), ih h.2.2.2.2]

end Base64
end OptimisticCache
