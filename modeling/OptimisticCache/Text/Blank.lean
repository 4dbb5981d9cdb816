/-!
# White space

The characters with the Unicode property White_Space, and texts without them at
either end.

Main results:

- Theorem {lit}`Text.trimChars_of_ends`: a text whose ends are not blank is kept.
- Theorem {lit}`Text.trimChars_between`: so is a text without blanks among blanks.
-/

namespace OptimisticCache
namespace Text

/-- The Unicode property White_Space. -/
def isBlank (c : Char) : Bool :=
  let n := c.toNat
  (9 ≤ n && n ≤ 13) || n == 0x20 || n == 0x85 || n == 0xA0 || n == 0x1680 ||
    (0x2000 ≤ n && n ≤ 0x200A) || n == 0x2028 || n == 0x2029 || n == 0x202F ||
    n == 0x205F || n == 0x3000

/-- The characters without the blank ones at either end. -/
def trimChars (cs : List Char) : List Char :=
  ((cs.dropWhile isBlank).reverse.dropWhile isBlank).reverse

/-- The text without the blanks at either end. -/
def trim (s : String) : String :=
  String.ofList (trimChars s.toList)

/-- Whether nothing but blanks stands in the text. -/
def isAllBlank (s : String) : Bool :=
  s.toList.all isBlank

/-- A blank in front of the characters is dropped. -/
theorem trimChars_blank_cons {b : Char} {cs : List Char} (h : isBlank b = true) :
    trimChars (b :: cs) = trimChars cs := by
  simp [trimChars, h]

/-- Blanks in front of the characters are dropped. -/
theorem trimChars_blank_append {bs cs : List Char} (h : ∀ b ∈ bs, isBlank b = true) :
    trimChars (bs ++ cs) = trimChars cs := by
  induction bs with
  | nil => rfl
  | cons b bs ih =>
    rw [List.cons_append, trimChars_blank_cons (h b (by simp)),
      ih fun c hc => h c (by simp [hc])]

/-- Blanks behind the characters are dropped. -/
theorem trimChars_append_blank {cs bs : List Char} (h : ∀ b ∈ bs, isBlank b = true) :
    trimChars (cs ++ bs) = trimChars cs := by
  have hreverse : ∀ b ∈ bs.reverse, isBlank b = true := fun b hb => h b (List.mem_reverse.mp hb)
  unfold trimChars
  rw [List.dropWhile_append]
  split
  · rename_i hempty
    have hall : (bs ++ []).dropWhile isBlank = [] := List.dropWhile_append_of_pos h
    rw [List.append_nil] at hall
    rw [hall, List.isEmpty_iff.mp hempty]
  · rw [List.reverse_append, List.dropWhile_append_of_pos hreverse]

/-- A text whose ends are not blank is kept. -/
theorem trimChars_of_ends {c d : Char} {cs : List Char} (hc : isBlank c = false)
    (hd : isBlank d = false) (hcd : (c :: cs).getLast? = some d) :
    trimChars (c :: cs) = c :: cs := by
  unfold trimChars
  rw [List.dropWhile_cons_of_neg (by simp [hc])]
  obtain ⟨ys, hys⟩ := List.getLast?_eq_some_iff.mp hcd
  rw [hys]
  simp [hd]

/-- A text without blanks is kept, whatever blanks stand around it. -/
theorem trimChars_between {front cs back : List Char} (hfront : ∀ b ∈ front, isBlank b = true)
    (hback : ∀ b ∈ back, isBlank b = true) (hcs : ∀ c ∈ cs, isBlank c = false) :
    trimChars (front ++ cs ++ back) = cs := by
  rw [trimChars_append_blank hback, trimChars_blank_append hfront]
  cases cs with
  | nil => rfl
  | cons c cs =>
    have hlast : (c :: cs).getLast? = some ((c :: cs).getLast (by simp)) :=
      List.getLast?_eq_some_getLast _
    exact trimChars_of_ends (hcs c List.mem_cons_self) (hcs _ (List.getLast_mem _)) hlast

end Text
end OptimisticCache
