import OptimisticCache.Url.Ipv4
/-!
# IPv6 addresses

An address of eight pieces of 16 bits.  It is read from pieces of one to four
hexadecimal digits with colons between them; one double colon stands for a run of
zero pieces, and the last two pieces may be given as an IPv4 address.  It is
written with its longest run of at least two zero pieces as a double colon.

Main results:

- Theorem {lit}`Ipv6.replicate_longestRun`: what is written as a double colon are
  zeros.
- Theorem {lit}`Ipv6.ofChars?_chars`: a written address is read back.
-/

namespace OptimisticCache

/-- An address of eight pieces. -/
structure Ipv6 where
  pieces : List Nat
  size : pieces.length = 8
  small : ∀ p ∈ pieces, p < 0x10000

namespace Ipv6

/-- The address of some pieces. -/
def ofPieces? (ps : List Nat) : Option Ipv6 :=
  if h : ps.length = 8 ∧ ∀ p ∈ ps, p < 0x10000 then some ⟨ps, h.1, h.2⟩ else none

/-- One to four hexadecimal digits. -/
def piece? (cs : List Char) : Option Nat :=
  if cs.length = 0 ∨ 4 < cs.length then none else Ipv4.readDigits? 16 cs

/-- A decimal byte without leading zeros. -/
def byte? (cs : List Char) : Option Nat :=
  match cs with
  | '0' :: _ :: _ => none
  | _ => (Decimal.readNat cs).filter fun n => decide (n < 256)

/-- The two pieces of an IPv4 address. -/
def tail? (cs : List Char) : Option (List Nat) := do
  match ← (cs.splitOn '.').mapM byte? with
  | [a, b, c, d] => some [256 * a + b, 256 * c + d]
  | _ => none

/-- Pieces, all of them hexadecimal. -/
def hexPieces? (groups : List (List Char)) : Option (List Nat) :=
  groups.mapM piece?

/-- Pieces at the end of an address, of which the last two may be an IPv4 address. -/
def lastPieces? (groups : List (List Char)) : Option (List Nat) := do
  match groups.getLast? with
  | some last =>
    if last.contains '.' then
      let front ← hexPieces? groups.dropLast
      let tail ← tail? last
      some (front ++ tail)
    else hexPieces? groups
  | none => some []

/-- The groups between single colons; an empty text has none. -/
def groups (cs : List Char) : List (List Char) :=
  if cs.isEmpty then [] else cs.splitOn ':'

/-- The text in front of the first double colon and the text behind it. -/
def splitDouble : List Char → Option (List Char × List Char)
  | ':' :: ':' :: rest => some ([], rest)
  | c :: rest => (splitDouble rest).map fun r => (c :: r.1, r.2)
  | [] => none

/-- Read an address. -/
def ofChars? (cs : List Char) : Option Ipv6 := do
  match splitDouble cs with
  | none => ofPieces? (← lastPieces? (groups cs))
  | some (left, right) =>
    let left ← hexPieces? (groups left)
    let right ← lastPieces? (groups right)
    if left.length + right.length ≤ 7 then
      ofPieces? (left ++ List.replicate (8 - left.length - right.length) 0 ++ right)
    else none

/-- The length of the run of zeros in front. -/
def zeroRun (ps : List Nat) : Nat :=
  (ps.takeWhile (· = 0)).length

/-- The place and the length of the longest run of zeros, the first one of several. -/
def longestRun : List Nat → Nat × Nat
  | [] => (0, 0)
  | p :: ps =>
    let here := zeroRun (p :: ps)
    let (place, length) := longestRun ps
    if here < length then (place + 1, length) else (0, here)

/-- Pieces with colons between them. -/
def pieceChars (ps : List Nat) : List Char :=
  List.intercalate [':'] (ps.map Hex.digits)

/-- The text of an address. -/
def chars (a : Ipv6) : List Char :=
  let (place, length) := longestRun a.pieces
  if length < 2 then pieceChars a.pieces
  else pieceChars (a.pieces.take place) ++ [':', ':'] ++ pieceChars (a.pieces.drop (place + length))

/-! ## Reading what was written -/

/-- Nothing but hexadecimal digits stands in a written number. -/
theorem not_mem_digits {c : Char} (h : Hex.value? c = none) (n : Nat) : c ∉ Hex.digits n := by
  intro hc
  have hsome := Hex.value?_of_mem_digits hc
  rw [h] at hsome
  cases hsome

/-- A colon stands between two pieces. -/
theorem pieceChars_cons_cons (p q : Nat) (ps : List Nat) :
    pieceChars (p :: q :: ps) = Hex.digits p ++ ':' :: pieceChars (q :: ps) := by
  simp [pieceChars, List.intercalate]

theorem pieceChars_singleton (p : Nat) : pieceChars [p] = Hex.digits p := by
  simp [pieceChars]

/-- The text of some pieces does not begin with a colon. -/
theorem pieceChars_cons (p : Nat) (ps : List Nat) :
    ∃ c cs, pieceChars (p :: ps) = c :: cs ∧ c ≠ ':' := by
  have hcolon : ':' ∉ Hex.digits p := not_mem_digits rfl p
  cases hdigits : Hex.digits p with
  | nil => exact absurd hdigits (Hex.digits_ne_nil p)
  | cons c cs =>
    have hc : c ≠ ':' := fun h => hcolon (by rw [hdigits, h]; exact List.mem_cons_self)
    cases ps with
    | nil => exact ⟨c, cs, by rw [pieceChars_singleton, hdigits], hc⟩
    | cons q ps => exact ⟨c, _, by rw [pieceChars_cons_cons, hdigits]; rfl, hc⟩

/-- The groups of written pieces are the pieces. -/
theorem groups_pieceChars (ps : List Nat) : groups (pieceChars ps) = ps.map Hex.digits := by
  cases ps with
  | nil => rfl
  | cons p ps =>
    obtain ⟨c, cs, hchars, -⟩ := pieceChars_cons p ps
    rw [groups, if_neg (by simp [hchars])]
    exact List.splitOn_intercalate ':'
      (List.forall_mem_map.mpr fun n _ => not_mem_digits rfl n) (by simp)

/-- A written piece is read back. -/
theorem piece?_digits {p : Nat} (h : p < 0x10000) : piece? (Hex.digits p) = some p := by
  have hlength : (Hex.digits p).length ≤ 4 := Hex.length_digits_le h
  have hpos : (Hex.digits p).length ≠ 0 := by simp [Hex.digits_ne_nil]
  rw [piece?, if_neg (by omega), Ipv4.readDigits?_hexDigits]

/-- Written pieces are read back one by one. -/
theorem hexPieces?_digits {ps : List Nat} (h : ∀ p ∈ ps, p < 0x10000) :
    hexPieces? (ps.map Hex.digits) = some ps := by
  induction ps with
  | nil => rfl
  | cons p ps ih =>
    have hrest := ih fun q hq => h q (List.mem_cons_of_mem _ hq)
    rw [hexPieces?] at hrest ⊢
    rw [List.map_cons, List.mapM_cons, piece?_digits (h p List.mem_cons_self), hrest]
    rfl

/-- Written pieces are read back at the end of an address: no point makes an IPv4 address of the
last one. -/
theorem lastPieces?_digits {ps : List Nat} (h : ∀ p ∈ ps, p < 0x10000) :
    lastPieces? (ps.map Hex.digits) = some ps := by
  unfold lastPieces?
  split
  · rename_i last hlast
    obtain ⟨p, -, rfl⟩ := List.mem_map.mp (List.mem_of_getLast? hlast)
    rw [if_neg (by simpa using not_mem_digits rfl p)]
    exact hexPieces?_digits h
  · rename_i hnone
    simp_all

/-- A double colon is looked for behind a text without colons. -/
theorem splitDouble_append {cs : List Char} (h : ':' ∉ cs) (rest : List Char) :
    splitDouble (cs ++ rest) = (splitDouble rest).map fun r => (cs ++ r.1, r.2) := by
  induction cs with
  | nil => simp
  | cons c cs ih =>
    obtain ⟨hc, hcs⟩ := not_or.mp (mt List.mem_cons.mpr h)
    rw [List.cons_append, splitDouble, ih hcs, Option.map_map]
    · rfl
    · rintro rest' rfl
      exact absurd rfl hc

/-- A single colon is passed over. -/
theorem splitDouble_colon {c : Char} (h : c ≠ ':') (rest : List Char) :
    splitDouble (':' :: c :: rest) =
      (splitDouble (c :: rest)).map fun r => (':' :: r.1, r.2) := by
  rw [splitDouble]
  rintro rest' - heq
  exact h (List.cons.inj heq).1

/-- Written pieces hold no double colon. -/
theorem splitDouble_pieceChars (ps : List Nat) (rest : List Char) :
    splitDouble (pieceChars ps ++ rest) =
      (splitDouble rest).map fun r => (pieceChars ps ++ r.1, r.2) := by
  induction ps with
  | nil => simp [pieceChars]
  | cons p ps ih =>
    have hcolon : ':' ∉ Hex.digits p := not_mem_digits rfl p
    cases ps with
    | nil => rw [pieceChars_singleton, splitDouble_append hcolon]
    | cons q ps =>
      obtain ⟨c, cs, hchars, hc⟩ := pieceChars_cons q ps
      rw [pieceChars_cons_cons, List.append_assoc, splitDouble_append hcolon, hchars]
      rw [hchars] at ih
      simp only [List.cons_append] at ih ⊢
      rw [splitDouble_colon hc, ih, Option.map_map, Option.map_map]
      simp [Function.comp_def]

/-- The zeros in front are zeros. -/
theorem replicate_zeroRun (ps : List Nat) :
    List.replicate (zeroRun ps) 0 ++ ps.drop (zeroRun ps) = ps := by
  induction ps with
  | nil => rfl
  | cons p ps ih =>
    by_cases hp : p = 0
    · have hrun : zeroRun (p :: ps) = zeroRun ps + 1 := by simp [zeroRun, hp]
      rw [hrun, List.replicate_succ, List.drop_succ_cons, List.cons_append, ih, hp]
    · have hrun : zeroRun (p :: ps) = 0 := by simp [zeroRun, hp]
      rw [hrun]
      rfl

/-- What the longest run of zeros is said to be is a run of zeros. -/
theorem replicate_longestRun (ps : List Nat) :
    ps.take (longestRun ps).1 ++ List.replicate (longestRun ps).2 0 ++
      ps.drop ((longestRun ps).1 + (longestRun ps).2) = ps := by
  induction ps with
  | nil => rfl
  | cons p ps ih =>
    rw [longestRun]
    dsimp only
    split
    · rw [Nat.add_right_comm, List.take_succ_cons, List.drop_succ_cons, List.cons_append,
        List.cons_append, ih]
    · simpa using replicate_zeroRun (p :: ps)

/-- A written address is read back. -/
theorem ofChars?_chars (a : Ipv6) : ofChars? a.chars = some a := by
  have hpieces := replicate_longestRun a.pieces
  unfold chars
  generalize longestRun a.pieces = run at hpieces ⊢
  obtain ⟨place, length⟩ := run
  dsimp only at hpieces ⊢
  have hall : ofPieces? a.pieces = some a := by rw [ofPieces?, dif_pos ⟨a.size, a.small⟩]
  split
  · have hnone : splitDouble (pieceChars a.pieces) = none := by
      simpa [splitDouble] using splitDouble_pieceChars a.pieces []
    rw [ofChars?, hnone]
    dsimp only
    rw [groups_pieceChars, lastPieces?_digits a.small]
    exact hall
  · have hsome : splitDouble (pieceChars (a.pieces.take place) ++ [':', ':'] ++
        pieceChars (a.pieces.drop (place + length))) =
        some (pieceChars (a.pieces.take place), pieceChars (a.pieces.drop (place + length))) := by
      rw [List.append_assoc, splitDouble_pieceChars]
      simp [splitDouble]
    have hsize := congrArg List.length hpieces
    rw [List.length_append, List.length_append, List.length_replicate, a.size] at hsize
    rw [ofChars?, hsome]
    dsimp only
    rw [groups_pieceChars, groups_pieceChars,
      hexPieces?_digits fun p hp => a.small p (List.mem_of_mem_take hp),
      lastPieces?_digits fun p hp => a.small p (List.mem_of_mem_drop hp)]
    dsimp only [Option.bind_eq_bind, Option.bind_some]
    rw [if_pos (by omega), show 8 - _ - _ = length by omega, hpieces, hall]

/-! ## The characters of an address -/

/-- The text of some pieces holds digits and colons. -/
theorem mem_pieceChars {ps : List Nat} {c : Char} (h : c ∈ pieceChars ps) :
    c = ':' ∨ (Hex.value? c).isSome := by
  induction ps with
  | nil => cases h
  | cons p ps ih =>
    cases ps with
    | nil =>
      rw [pieceChars_singleton] at h
      exact Or.inr (Hex.value?_of_mem_digits h)
    | cons q ps =>
      rw [pieceChars_cons_cons, List.mem_append, List.mem_cons] at h
      obtain h | h | h := h
      · exact Or.inr (Hex.value?_of_mem_digits h)
      · exact Or.inl h
      · exact ih h

/-- The text of an address holds digits and colons. -/
theorem mem_chars {a : Ipv6} {c : Char} (h : c ∈ a.chars) :
    c = ':' ∨ (Hex.value? c).isSome := by
  unfold chars at h
  dsimp only at h
  split at h
  · exact mem_pieceChars h
  · rcases List.mem_append.mp h with h | h
    · rcases List.mem_append.mp h with h | h
      · exact mem_pieceChars h
      · exact Or.inl (by simpa using h)
    · exact mem_pieceChars h

end Ipv6
end OptimisticCache
