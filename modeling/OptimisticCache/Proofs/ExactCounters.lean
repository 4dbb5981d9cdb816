import Mathlib.Data.List.Induction
import OptimisticCache.Proofs.ExactNumbers
import OptimisticCache.Proofs.Spelling
/-!
# Counters are read exactly or refused

A counter is looked for under several names.  The first one that holds a number or a
string decides, also if what it holds is no counter: then the payload is refused, and the
names behind it are not asked.  A number is read as the counter that it equals.  A string
is read if there is a numeral between its blanks; that every such string is read is the
one direction, and the other is that whatever is read was such a numeral, digit by digit.

Main results:

- Theorem {lit}`Decimal.readInt_eq_some_iff`: what is read as a whole number is a numeral
  of it.
- Theorem {lit}`Payload.pickCount_of_decides`: the first candidate that holds a number or
  a string decides.
- Theorem {lit}`Payload.pickCount_exact`: what a counter is read as, for every payload and
  all names.
-/

namespace OptimisticCache

/-! ## Numerals -/

namespace Decimal

/-- The digits are the characters that are written for them. -/
theorem digit?_eq_some_iff {c : Char} {d : Nat} :
    digit? c = some d ↔ d < 10 ∧ c = digitChar d := by
  constructor
  · intro h
    unfold digit? at h
    split at h
    · have hd := Option.some.inj h
      refine ⟨by omega, ?_⟩
      rw [digitChar, show 48 + d = c.toNat by omega, Char.ofNat_toNat]
    · cases h
  · rintro ⟨hd, rfl⟩
    exact digit?_digitChar hd

/-- A row of digits is read if its front is and its last character is a digit. -/
theorem appendDigit_eq_some_iff {acc : Option Nat} {c : Char} {n : Nat} :
    appendDigit acc c = some n ↔ ∃ a d, acc = some a ∧ d < 10 ∧ c = digitChar d ∧ n = 10 * a + d := by
  constructor
  · intro h
    unfold appendDigit at h
    split at h
    · rename_i a d hd
      obtain ⟨hlt, hc⟩ := digit?_eq_some_iff.mp hd
      exact ⟨a, d, rfl, hlt, hc, (Option.some.inj h).symm⟩
    · cases h
  · rintro ⟨a, d, rfl, hd, rfl, rfl⟩
    simp [appendDigit, digit?_digitChar hd]

/-- A number below ten has one digit. -/
theorem digits_of_lt {d : Nat} (h : d < 10) : digits d = [digitChar d] := by
  rw [digits, if_pos h]

/-- One more digit on the right of a number that is not zero. -/
theorem digits_append {a d : Nat} (ha : a ≠ 0) (hd : d < 10) :
    digits (10 * a + d) = digits a ++ [digitChar d] := by
  rw [digits, if_neg (by omega), show (10 * a + d) / 10 = a by omega,
    show (10 * a + d) % 10 = d by omega]

/-- A row of digits is the digits of its value, with zeros in front. -/
theorem exists_padded_of_value? {cs : List Char} {n : Nat} (hne : cs ≠ [])
    (h : value? cs = some n) : ∃ zeros, cs = List.replicate zeros '0' ++ digits n := by
  induction cs using List.reverseRecOn generalizing n with
  | nil => exact absurd rfl hne
  | append_singleton front c ih =>
    rw [value?, List.foldl_append] at h
    obtain ⟨a, d, hfront, hd, rfl, rfl⟩ := appendDigit_eq_some_iff.mp h
    by_cases hnil : front = []
    · subst hnil
      obtain rfl := Option.some.inj hfront
      exact ⟨0, by simp [digits_of_lt hd]⟩
    · obtain ⟨zeros, rfl⟩ := ih hnil hfront
      by_cases ha : a = 0
      · subst ha
        refine ⟨zeros + 1, ?_⟩
        rw [Nat.mul_zero, Nat.zero_add, digits_of_lt hd, digits_of_lt (by decide : 0 < 10),
          List.replicate_succ']
        rfl
      · exact ⟨zeros, by rw [digits_append ha hd, List.append_assoc]⟩

/-- What is read as a number is the number, behind any zeros. -/
theorem exists_padded_of_readNat {cs : List Char} {n : Nat} (h : readNat cs = some n) :
    ∃ zeros, cs = List.replicate zeros '0' ++ digits n := by
  unfold readNat at h
  split at h
  · cases h
  · rename_i hne
    exact exists_padded_of_value? (by simpa using hne) h

/-- What is read as a whole number is a numeral of it, and nothing else is. -/
theorem readInt_eq_some_iff {cs : List Char} {n : Int} :
    readInt cs = some n ↔ Numeral cs n := by
  constructor
  · intro h
    unfold readInt at h
    split at h
    all_goals
      obtain ⟨m, hm, rfl⟩ := Option.map_eq_some_iff.mp h
      obtain ⟨zeros, rfl⟩ := exists_padded_of_readNat hm
    · exact .minus zeros m
    · exact .plus zeros m
    · exact .unsigned zeros m
  · exact readInt_of_numeral

end Decimal

/-- What is left after trimming stood between blanks. -/
theorem Text.exists_blanks_trimChars (cs : List Char) :
    ∃ front back, cs = front ++ trimChars cs ++ back ∧ (∀ b ∈ front, isBlank b = true) ∧
      ∀ b ∈ back, isBlank b = true := by
  let rest := cs.dropWhile isBlank
  have hrest : trimChars cs ++ (rest.reverse.takeWhile isBlank).reverse = rest := by
    rw [trimChars, ← List.reverse_append, List.takeWhile_append_dropWhile, List.reverse_reverse]
  refine ⟨cs.takeWhile isBlank, (rest.reverse.takeWhile isBlank).reverse, ?_, ?_, ?_⟩
  · rw [List.append_assoc, hrest, List.takeWhile_append_dropWhile]
  · exact List.all_eq_true.mp List.all_takeWhile
  · exact fun b hb => List.all_eq_true.mp List.all_takeWhile b (List.mem_reverse.mp hb)

namespace Payload

/-! ## Texts of counters -/

/-- A text is a numeral of a number, with blanks around it. -/
def IsNumeralText (s : String) (n : Int) : Prop :=
  ∃ front core back, s = String.ofList (front ++ core ++ back) ∧ Decimal.Numeral core n ∧
    (∀ b ∈ front, Text.isBlank b = true) ∧ ∀ b ∈ back, Text.isBlank b = true

/-- What is read between blanks is exactly a numeral of the number. -/
theorem readInt_trimChars_iff {s : String} {n : Int} :
    Decimal.readInt (Text.trimChars s.toList) = some n ↔ IsNumeralText s n := by
  constructor
  · intro h
    obtain ⟨front, back, hs, hfront, hback⟩ := Text.exists_blanks_trimChars s.toList
    refine ⟨front, _, back, ?_, Decimal.readInt_eq_some_iff.mp h, hfront, hback⟩
    rw [← hs, String.ofList_toList]
  · rintro ⟨front, core, back, rfl, hcore, hfront, hback⟩
    rw [String.toList_ofList, Text.trimChars_between hfront hback fun c hc =>
      Decimal.isBlank_of_mem_numeral hcore hc]
    exact Decimal.readInt_of_numeral hcore

/-- A text is a counter exactly if it is a numeral of its value. -/
theorem countOf?_string_iff {s : String} {c : Count} :
    countOf? (.string s) = some (some c) ↔ IsNumeralText s c.value := by
  rw [countOf?, Option.some_inj, Option.bind_eq_some_iff]
  constructor
  · rintro ⟨n, hn, hc⟩
    rw [Count.ofInt?_eq_some_iff.mp hc]
    exact readInt_trimChars_iff.mp hn
  · exact fun h => ⟨c.value, readInt_trimChars_iff.mpr h, Count.ofInt?_value c⟩

/-! ## The candidate that decides -/

/-- The values that speak about a counter: numbers and strings. -/
inductive Speaks : Json → Prop
  | number (n : Number) : Speaks (.number n)
  | string (s : String) : Speaks (.string s)

/-- A candidate that says nothing about a counter: it is missing or null, or neither a number nor a
string. -/
def Silent (v : Json) (path : FieldPath) : Prop :=
  ∀ w, lookup v path = some w → ¬Speaks w

/-- The candidate that decides: the first one that holds a number or a string. -/
structure Decides (v : Json) (names : List FieldPath) (path : FieldPath) (found : Json) :
    Prop where
  first : ∃ front back, names = front ++ path :: back ∧ ∀ q ∈ front, Silent v q
  holds : lookup v path = some found
  speaks : Speaks found

variable {v : Json} {names : List FieldPath} {path : FieldPath} {found : Json}

/-- Only a value that speaks of no number is passed over. -/
theorem countOf?_eq_none_iff {w : Json} : countOf? w = none ↔ ¬Speaks w := by
  constructor
  · rintro h (_ | _) <;> cases h
  · intro h
    cases w with
    | number n => exact absurd (.number n) h
    | string s => exact absurd (.string s) h
    | null | bool _ | array _ | object _ => rfl

/-- A value that speaks of a number has an answer. -/
theorem exists_countOf? (h : Speaks found) : ∃ answer, countOf? found = some answer := by
  cases h with
  | number n => exact ⟨_, rfl⟩
  | string s => exact ⟨_, rfl⟩

/-- Silent candidates in front are passed over. -/
theorem pickCount_append_of_silent (subject : String) {front : List FieldPath}
    (h : ∀ q ∈ front, Silent v q) (rest : List FieldPath) :
    pickCount subject v (front ++ rest) = pickCount subject v rest := by
  induction front with
  | nil => rfl
  | cons q front ih =>
    obtain ⟨hq, hfront⟩ := List.forall_mem_cons.mp h
    rw [List.cons_append, pickCount]
    cases hlookup : lookup v q with
    | none => exact ih hfront
    | some w =>
      have hsilent := countOf?_eq_none_iff.mpr (hq w hlookup)
      simp only [hsilent]
      exact ih hfront

/-- The first candidate that holds a number or a string decides: it is read, or it is the fault that
is reported. -/
theorem pickCount_of_decides (subject : String) (h : Decides v names path found) :
    (∀ c, countOf? found = some (some c) → pickCount subject v names = .ok c) ∧
    (countOf? found = some none →
      pickCount subject v names = .error (.payload subject (.notWhole path.display found))) := by
  obtain ⟨front, back, rfl, hfront⟩ := h.first
  rw [pickCount_append_of_silent subject hfront, pickCount, h.holds]
  constructor
  · intro c hc
    simp only [hc]
  · intro hnone
    simp only [hnone]

/-- A counter is picked exactly if the deciding value is one. -/
theorem pickCount_eq_ok_iff (subject : String) (h : Decides v names path found) {c : Count} :
    pickCount subject v names = .ok c ↔ countOf? found = some (some c) := by
  obtain ⟨hok, herror⟩ := pickCount_of_decides subject h
  obtain ⟨_ | c', hanswer⟩ := exists_countOf? h.speaks
  · rw [herror hanswer, hanswer]
    simp
  · rw [hok c' hanswer, hanswer]
    simp

/-- Picking fails exactly if the deciding value is no counter, and names its path. -/
theorem pickCount_eq_error_iff (subject : String) (h : Decides v names path found)
    {e : CacheError} :
    pickCount subject v names = .error e ↔
      countOf? found = some none ∧ e = .payload subject (.notWhole path.display found) := by
  obtain ⟨hok, herror⟩ := pickCount_of_decides subject h
  obtain ⟨_ | c', hanswer⟩ := exists_countOf? h.speaks
  · rw [herror hanswer, hanswer]
    simp [eq_comm]
  · rw [hok c' hanswer, hanswer]
    simp

/-- Some candidate decides, unless all are silent. -/
theorem exists_decides_or_silent (v : Json) (names : List FieldPath) :
    (∃ path found, Decides v names path found) ∨ ∀ q ∈ names, Silent v q := by
  induction names with
  | nil => exact .inr (List.forall_mem_nil _)
  | cons q names ih =>
    by_cases hq : Silent v q
    · rcases ih with ⟨path, found, ⟨front, back, rfl, hfront⟩, hholds, hspeaks⟩ | hsilent
      · exact .inl ⟨path, found, ⟨q :: front, back, rfl, List.forall_mem_cons.mpr ⟨hq, hfront⟩⟩,
          hholds, hspeaks⟩
      · exact .inr (List.forall_mem_cons.mpr ⟨hq, hsilent⟩)
    · simp only [Silent, not_forall, not_not] at hq
      obtain ⟨w, hholds, hspeaks⟩ := hq
      exact .inl ⟨q, w, ⟨[], names, rfl, List.forall_mem_nil _⟩, hholds, hspeaks⟩

/-- A counter is read from the first candidate that holds a number or a string, and is zero if there
is none.  A number is read as the counter that it equals exactly, and is refused only if it is not
whole or beyond the range.  A string is read exactly if it is a numeral of the counter between
blanks, and refused otherwise.  Whatever is refused is reported with its name. -/
theorem pickCount_exact (subject : String) (v : Json) (names : List FieldPath) :
    let result := pickCount subject v names
    ((∃ path found, Decides v names path found) ∨ ∀ q ∈ names, Silent v q) ∧
    (∀ path n, Decides v names path (.number n) →
      (∀ k : Count, result = .ok k → n.toRat = k.value) ∧
      ∀ e, result = .error e →
        e = .payload subject (.notWhole path.display (.number n)) ∧
          ((¬∃ m : Int, n.toRat = m) ∨ 0x8000000000000000 ≤ |n.toRat|)) ∧
    (∀ path s, Decides v names path (.string s) →
      (∀ k : Count, result = .ok k ↔ IsNumeralText s k.value) ∧
      ((¬∃ k : Count, IsNumeralText s k.value) →
        result = .error (.payload subject (.notWhole path.display (.string s))))) ∧
    ((∀ q ∈ names, Silent v q) → result = .ok Count.zero) := by
  intro result
  refine ⟨exists_decides_or_silent v names, fun path n h => ⟨fun k hk => ?_, fun e he => ?_⟩,
    fun path s h => ⟨fun k => ?_, fun hnone => ?_⟩, fun hsilent => ?_⟩
  · have hcount := (pickCount_eq_ok_iff subject h).mp hk
    exact (wholeCount?_eq_some_iff.mp (Option.some.inj hcount)).1
  · obtain ⟨hcount, rfl⟩ := (pickCount_eq_error_iff subject h).mp he
    exact ⟨rfl, not_whole_or_large_of_wholeCount?_eq_none (Option.some.inj hcount)⟩
  · exact (pickCount_eq_ok_iff subject h).trans countOf?_string_iff
  · refine (pickCount_eq_error_iff subject h).mpr ⟨?_, rfl⟩
    obtain ⟨_ | k, hanswer⟩ := exists_countOf? h.speaks
    · exact hanswer
    · exact absurd ⟨k, countOf?_string_iff.mp hanswer⟩ hnone
  · have hpassed := pickCount_append_of_silent subject hsilent []
    rwa [List.append_nil] at hpassed

/-- The least counter of all is read where it is held as an integer. -/
theorem pickCount_exact_least :
    let least : Count := Count.clamp (-0x8000000000000000)
    let v := Json.object [("likes", .string " 7 "), ("upvotes", Json.int least.value),
      ("votes", .array [])]
    let names : List FieldPath := [["votes"], ["upvotes"], ["likes"]]
    Decides v names ["upvotes"] (Json.int least.value) ∧ pickCount "comment" v names = .ok least ∧
      (Number.integer least.value).toRat = least.value := by
  intro least v names
  have hdecides : Decides v names ["upvotes"] (.number (.integer least.value)) := by
    refine ⟨⟨[["votes"]], [["likes"]], rfl, ?_⟩, by decide +kernel, .number _⟩
    rintro q hq w hw hspeaks
    obtain rfl := List.mem_singleton.mp hq
    obtain rfl : Json.array [] = w := Option.some.inj hw
    cases hspeaks
  have hread : pickCount "comment" v names = .ok least := rfl
  obtain ⟨-, hnumber, -, -⟩ := pickCount_exact "comment" v names
  exact ⟨hdecides, hread, (hnumber ["upvotes"] _ hdecides).1 least hread⟩

/-- As a binary number the end of the range is refused, and the next name is not asked. -/
example :
    let v := Json.object [("likes", .string " +007 "), ("upvotes", .number (.real ⟨true, 1086, 0⟩))]
    (pickCount "comment" v [["upvotes"], ["likes"]]).isOk = false ∧
      pickCount "comment" v [["likes"], ["upvotes"]] = .ok (Count.clamp 7) :=
  ⟨by decide +kernel, rfl⟩

end Payload
end OptimisticCache
