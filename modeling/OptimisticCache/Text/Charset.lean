/-!
# Character sets

Bytes are read as text in UTF-8, in UTF-16 of either byte order, or in the
Western set of single bytes.  Bytes that make no character are replaced; a byte
order mark in front decides the set and is dropped.

Main results:

- Theorem {lit}`Charset.chars_utf8_encode`: the UTF-8 form of a text is read as the
  text.
-/

namespace OptimisticCache

/-- A set of characters with its encoding as bytes. -/
inductive Charset where
  | utf8
  | utf16Little
  | utf16Big
  /-- The Western set, an extension of ASCII. -/
  | western
deriving DecidableEq

namespace Charset

/-- What stands for bytes that make no character. -/
def replacement : Char :=
  '\ufffd'

/-- The names of the Western set. -/
def westernNames : List String :=
  ["ansi_x3.4-1968", "ascii", "cp1252", "cp819", "csisolatin1", "ibm819", "iso-8859-1",
    "iso-ir-100", "iso8859-1", "iso88591", "iso_8859-1", "iso_8859-1:1987", "l1", "latin1",
    "us-ascii", "windows-1252", "x-cp1252"]

/-- The names of UTF-16 with the less significant byte first. -/
def littleNames : List String :=
  ["csunicode", "iso-10646-ucs-2", "ucs-2", "unicode", "unicodefeff", "utf-16", "utf-16le"]

/-- The names of UTF-16 with the more significant byte first. -/
def bigNames : List String :=
  ["unicodefffe", "utf-16be"]

/-- The set with a name; an unknown name stands for UTF-8. -/
def ofName (name : String) : Charset :=
  let name := name.toLower
  if westernNames.contains name then western
  else if littleNames.contains name then utf16Little
  else if bigNames.contains name then utf16Big
  else utf8

/-- The characters of the Western set from 0x80 to 0x9F. -/
def westernUpper : List Nat :=
  [0x20AC, 0x81, 0x201A, 0x192, 0x201E, 0x2026, 0x2020, 0x2021, 0x2C6, 0x2030, 0x160, 0x2039,
    0x152, 0x8D, 0x17D, 0x8F, 0x90, 0x2018, 0x2019, 0x201C, 0x201D, 0x2022, 0x2013, 0x2014,
    0x2DC, 0x2122, 0x161, 0x203A, 0x153, 0x9D, 0x17E, 0x178]

/-- The character of a byte in the Western set. -/
def westernChar (b : UInt8) : Char :=
  if 0x80 ≤ b ∧ b < 0xA0 then Char.ofNat (westernUpper.getD (b.toNat - 0x80) 0)
  else Char.ofNat b.toNat

/-- How a UTF-8 sequence goes on after its first byte: how many bytes follow, the bounds of
the second one, and the bits that the first one gives. -/
def lead? (b : UInt8) : Option (Nat × UInt8 × UInt8 × Nat) :=
  if 0xC2 ≤ b ∧ b < 0xE0 then some (1, 0x80, 0xBF, b.toNat % 32)
  else if b = 0xE0 then some (2, 0xA0, 0xBF, 0)
  else if b = 0xED then some (2, 0x80, 0x9F, 13)
  else if 0xE1 ≤ b ∧ b < 0xF0 then some (2, 0x80, 0xBF, b.toNat % 16)
  else if b = 0xF0 then some (3, 0x90, 0xBF, 0)
  else if 0xF1 ≤ b ∧ b < 0xF4 then some (3, 0x80, 0xBF, b.toNat % 8)
  else if b = 0xF4 then some (3, 0x80, 0x8F, 4)
  else none

/-- A sequence that has begun: how many bytes are missing, the bounds of the next one, and the
bits so far. -/
structure Sequence where
  missing : Nat
  low : UInt8
  high : UInt8
  bits : Nat

/-- Read UTF-8 inside a sequence, or between two.  The longest beginning of a character is
replaced as a whole. -/
def utf8Chars : Option Sequence → List UInt8 → List Char
  | none, [] => []
  | some _, [] => [replacement]
  | none, b :: bs => start b (utf8Chars · bs)
  | some s, b :: bs =>
    if s.low ≤ b ∧ b ≤ s.high then
      let bits := 64 * s.bits + b.toNat % 64
      if s.missing ≤ 1 then Char.ofNat bits :: utf8Chars none bs
      else utf8Chars (some ⟨s.missing - 1, 0x80, 0xBF, bits⟩) bs
    else replacement :: start b (utf8Chars · bs)
where
  /-- The first byte of a character. -/
  start (b : UInt8) (next : Option Sequence → List Char) : List Char :=
    if b < 0x80 then Char.ofNat b.toNat :: next none
    else
      match lead? b with
      | some (missing, low, high, bits) => next (some ⟨missing, low, high, bits⟩)
      | none => replacement :: next none

/-- The units of two bytes, and whether a byte is left over. -/
def units (big : Bool) : List UInt8 → List Nat × Bool
  | [] => ([], false)
  | [_] => ([], true)
  | a :: b :: bs =>
    let r := units big bs
    ((if big then 256 * a.toNat + b.toNat else a.toNat + 256 * b.toNat) :: r.1, r.2)

/-- Read units; a surrogate without its partner is replaced. -/
def utf16Chars : List Nat → List Char
  | [] => []
  | [u] => [if 0xD800 ≤ u ∧ u < 0xE000 then replacement else Char.ofNat u]
  | u :: v :: us =>
    if 0xD800 ≤ u ∧ u < 0xDC00 ∧ 0xDC00 ≤ v ∧ v < 0xE000 then
      Char.ofNat (0x10000 + (u - 0xD800) * 0x400 + (v - 0xDC00)) :: utf16Chars us
    else
      (if 0xD800 ≤ u ∧ u < 0xE000 then replacement else Char.ofNat u) :: utf16Chars (v :: us)

/-- Read bytes in a set, whatever stands in front. -/
def chars (set : Charset) (bytes : List UInt8) : List Char :=
  match set with
  | utf8 => utf8Chars none bytes
  | western => bytes.map westernChar
  | utf16Little | utf16Big =>
    let (us, left) := units (set = utf16Big) bytes
    utf16Chars us ++ if left then [replacement] else []

/-- Read bytes in a set, or in the one that a byte order mark in front tells. -/
def decode (set : Charset) (bytes : List UInt8) : String :=
  String.ofList <|
    match bytes with
    | 0xEF :: 0xBB :: 0xBF :: rest => chars utf8 rest
    | 0xFF :: 0xFE :: rest => chars utf16Little rest
    | 0xFE :: 0xFF :: rest => chars utf16Big rest
    | _ => chars set bytes

/-! ## Reading UTF-8 that was written -/

/-- A byte of ASCII is a character. -/
theorem utf8Chars_ascii {b : UInt8} (h : b.toNat < 0x80) (rest : List UInt8) :
    utf8Chars none (b :: rest) = Char.ofNat b.toNat :: utf8Chars none rest := by
  rw [utf8Chars, utf8Chars.start, if_pos (UInt8.lt_iff_toNat_lt.mpr h)]

/-- A first byte begins a sequence. -/
theorem utf8Chars_lead {b low high : UInt8} {missing bits : Nat}
    (hb : 0x80 ≤ b.toNat) (h : lead? b = some (missing, low, high, bits)) (rest : List UInt8) :
    utf8Chars none (b :: rest) = utf8Chars (some ⟨missing, low, high, bits⟩) rest := by
  have hnot : ¬b < 0x80 := fun hlt => absurd (UInt8.lt_iff_toNat_lt.mp hlt) (Nat.not_lt.mpr hb)
  rw [utf8Chars, utf8Chars.start, if_neg hnot, h]

/-- The last byte of a sequence ends the character. -/
theorem utf8Chars_last {s : Sequence} {b : UInt8} (hb : s.low ≤ b ∧ b ≤ s.high)
    (h : s.missing = 1) (rest : List UInt8) :
    utf8Chars (some s) (b :: rest) =
      Char.ofNat (64 * s.bits + b.toNat % 64) :: utf8Chars none rest := by
  rw [utf8Chars, if_pos hb]
  exact if_pos (Nat.le_of_eq h)

/-- Another byte leaves one less to be read. -/
theorem utf8Chars_next {s : Sequence} {b : UInt8} (hb : s.low ≤ b ∧ b ≤ s.high)
    (h : 1 < s.missing) (rest : List UInt8) :
    utf8Chars (some s) (b :: rest) =
      utf8Chars (some ⟨s.missing - 1, 0x80, 0xBF, 64 * s.bits + b.toNat % 64⟩) rest := by
  rw [utf8Chars, if_pos hb]
  exact if_neg (Nat.not_le.mpr h)

theorem le_toNat {n : Nat} (hlow : 0x80 ≤ n) (hhigh : n < 0x100) : 0x80 ≤ (UInt8.ofNat n).toNat := by
  rwa [UInt8.toNat_ofNat_of_lt' hhigh]

/-- A byte with six bits of a character may stand behind any byte but the first one. -/
theorem trailing {v : Nat} :
    (0x80 : UInt8) ≤ .ofNat (v % 64 + 128) ∧ .ofNat (v % 64 + 128) ≤ (0xBF : UInt8) := by
  rw [UInt8.le_iff_toNat_le, UInt8.le_iff_toNat_le, UInt8.toNat_ofNat']
  constructor <;> simp <;> omega

/-- The first byte of two. -/
theorem lead?_two {v : Nat} (hlow : 0x7F < v) (hhigh : v ≤ 0x7FF) :
    lead? (.ofNat (v / 64 % 32 + 192)) = some (1, 0x80, 0xBF, v / 64 % 32) := by
  have hnat := UInt8.toNat_ofNat_of_lt' (show v / 64 % 32 + 192 < 0x100 by omega)
  rw [lead?, if_pos, hnat]
  · congr 4
    omega
  · rw [UInt8.le_iff_toNat_le, UInt8.lt_iff_toNat_lt, hnat]
    simp
    omega

/-- A byte with six bits of a character is not cut. -/
theorem toNat_trailing (v : Nat) : (UInt8.ofNat (v % 64 + 128)).toNat = v % 64 + 128 :=
  UInt8.toNat_ofNat_of_lt' (show _ < 0x100 by omega)

/-- The first byte of three, which bounds the second one. -/
theorem lead?_three {v : Nat} (hlow : 0x7FF < v) (hhigh : v ≤ 0xFFFF)
    (hvalid : v < 0xD800 ∨ 0xDFFF < v) :
    ∃ low high, lead? (.ofNat (v / 4096 % 16 + 224)) = some (2, low, high, v / 4096 % 16) ∧
      low ≤ UInt8.ofNat (v / 64 % 64 + 128) ∧ UInt8.ofNat (v / 64 % 64 + 128) ≤ high := by
  have hlead := UInt8.toNat_ofNat_of_lt' (show v / 4096 % 16 + 224 < 0x100 by omega)
  simp only [lead?, UInt8.le_iff_toNat_le, UInt8.lt_iff_toNat_lt, ← UInt8.toNat_inj, hlead,
    toNat_trailing, UInt8.reduceToNat]
  rw [if_neg (by omega)]
  split
  · rename_i hzero
    exact ⟨0xA0, 0xBF, by rw [show v / 4096 % 16 = 0 by omega], by simp; omega, by simp; omega⟩
  · split
    · rename_i hthirteen
      exact ⟨0x80, 0x9F, by rw [show v / 4096 % 16 = 13 by omega], by simp, by simp; omega⟩
    · refine ⟨0x80, 0xBF, ?_, by simp, by simp; omega⟩
      rw [if_pos (by omega), show (v / 4096 % 16 + 224) % 16 = v / 4096 % 16 by omega]

/-- The first byte of four, which bounds the second one. -/
theorem lead?_four {v : Nat} (hlow : 0xFFFF < v) (hhigh : v ≤ 0x10FFFF) :
    ∃ low high, lead? (.ofNat (v / 262144 % 8 + 240)) = some (3, low, high, v / 262144 % 8) ∧
      low ≤ UInt8.ofNat (v / 4096 % 64 + 128) ∧ UInt8.ofNat (v / 4096 % 64 + 128) ≤ high := by
  have hlead := UInt8.toNat_ofNat_of_lt' (show v / 262144 % 8 + 240 < 0x100 by omega)
  simp only [lead?, UInt8.le_iff_toNat_le, UInt8.lt_iff_toNat_lt, ← UInt8.toNat_inj, hlead,
    toNat_trailing, UInt8.reduceToNat]
  rw [if_neg (by omega), if_neg (by omega), if_neg (by omega), if_neg (by omega)]
  split
  · rename_i hzero
    exact ⟨0x90, 0xBF, by rw [show v / 262144 % 8 = 0 by omega], by simp; omega, by simp; omega⟩
  · split
    · refine ⟨0x80, 0xBF, ?_, by simp, by simp; omega⟩
      rw [show (v / 262144 % 8 + 240) % 8 = v / 262144 % 8 by omega]
    · refine ⟨0x80, 0x8F, ?_, by simp, by simp; omega⟩
      rw [if_pos (by omega), show v / 262144 % 8 = 4 by omega]

/-- The bytes of a character are read as the character. -/
theorem utf8Chars_encodeChar (c : Char) (rest : List UInt8) :
    utf8Chars none (String.utf8EncodeChar c ++ rest) = c :: utf8Chars none rest := by
  have hvalid : c.val.toNat < 0xD800 ∨ 0xDFFF < c.val.toNat ∧ c.val.toNat < 0x110000 := c.valid
  have hc : Char.ofNat c.val.toNat = c := Char.ofNat_toNat c
  unfold String.utf8EncodeChar
  dsimp only
  generalize c.val.toNat = v at hvalid hc ⊢
  split
  · rename_i hone
    have hb := UInt8.toNat_ofNat_of_lt' (show v < 0x100 by omega)
    rw [List.singleton_append, utf8Chars_ascii (by omega), hb, hc]
  · split
    · rename_i hone htwo
      rw [List.cons_append, List.singleton_append,
        utf8Chars_lead (le_toNat (by omega) (by omega)) (lead?_two (by omega) htwo),
        utf8Chars_last trailing rfl, toNat_trailing,
        show 64 * (v / 64 % 32) + (v % 64 + 128) % 64 = v by omega, hc]
    · split
      · rename_i hone htwo hthree
        obtain ⟨low, high, hsome, hbounds⟩ := lead?_three (v := v) (by omega) hthree (by omega)
        rw [List.cons_append, List.cons_append, List.singleton_append,
          utf8Chars_lead (le_toNat (by omega) (by omega)) hsome,
          utf8Chars_next hbounds Nat.one_lt_two, utf8Chars_last trailing rfl, toNat_trailing,
          toNat_trailing]
        dsimp only
        rw [show 64 * (64 * (v / 4096 % 16) + (v / 64 % 64 + 128) % 64) + (v % 64 + 128) % 64 = v
          by omega, hc]
      · rename_i hone htwo hthree
        obtain ⟨low, high, hsome, hbounds⟩ := lead?_four (v := v) (by omega) (by omega)
        rw [List.cons_append, List.cons_append, List.cons_append, List.singleton_append,
          utf8Chars_lead (le_toNat (by omega) (by omega)) hsome,
          utf8Chars_next hbounds (by decide : 1 < 3),
          utf8Chars_next trailing (by decide : 1 < 2), utf8Chars_last trailing rfl, toNat_trailing,
          toNat_trailing, toNat_trailing]
        dsimp only
        rw [show 64 * (64 * (64 * (v / 262144 % 8) + (v / 4096 % 64 + 128) % 64) +
          (v / 64 % 64 + 128) % 64) + (v % 64 + 128) % 64 = v by omega, hc]

/-- The UTF-8 form of a text is read as the text. -/
theorem chars_utf8_encode (cs : List Char) : chars utf8 (cs.flatMap String.utf8EncodeChar) = cs := by
  rw [chars]
  induction cs with
  | nil => rfl
  | cons c cs ih => rw [List.flatMap_cons, utf8Chars_encodeChar, ih]

end Charset
end OptimisticCache
