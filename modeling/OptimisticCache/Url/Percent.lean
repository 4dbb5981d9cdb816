import OptimisticCache.Text.Hex
/-!
# Percent-encoding

A character that may not stand in a component of a URL is written as the bytes
of its UTF-8 form, each as a percent sign and two hexadecimal digits.  Every
component has its own set of characters that are written so.

Main results:

- Theorem {lit}`Percent.encode_of_allowed`: a text of allowed characters stays
  as it is.
- Theorem {lit}`Percent.encode_allowed`: only allowed characters stand in an
  encoded text.
- Theorem {lit}`Percent.decodeText?_encode`: an encoded text is read back.
-/

namespace OptimisticCache
namespace Percent

/-! ## The sets of the components -/

/-- The controls, and all characters that are not ASCII. -/
def escapedAlways (c : Char) : Bool :=
  c.toNat < 0x20 || 0x7E < c.toNat

/-- The characters escaped in a fragment. -/
def escapedInFragment (c : Char) : Bool :=
  escapedAlways c || [' ', '"', '<', '>', '`'].contains c

/-- The characters escaped in a query. -/
def escapedInQuery (c : Char) : Bool :=
  escapedAlways c || [' ', '"', '#', '<', '>', '\''].contains c

/-- The characters escaped in a path. -/
def escapedInPath (c : Char) : Bool :=
  escapedAlways c ||
    [' ', '"', '#', '<', '>', '?', '^', '`', '\x7b', '\x7d'].contains c

/-- The characters escaped in a user name and in a password. -/
def escapedInUser (c : Char) : Bool :=
  escapedInPath c || ['/', ':', ';', '=', '@', '[', '\\', ']', '|'].contains c

/-! ## Writing and reading -/

/-- The escape of a byte. -/
def encodeByte (b : UInt8) : List Char :=
  ['%', Hex.upper (b.toNat / 16), Hex.upper (b.toNat % 16)]

/-- A character, escaped if it has to be. -/
def encodeChar (escaped : Char → Bool) (c : Char) : List Char :=
  if escaped c then (String.utf8EncodeChar c).flatMap encodeByte else [c]

/-- A text with the characters escaped that have to be. -/
def encode (escaped : Char → Bool) (cs : List Char) : List Char :=
  cs.flatMap (encodeChar escaped)

/-- The bytes of a text in which escapes stand for bytes; a percent sign that begins no
escape stands for itself. -/
def decode : List Char → List UInt8
  | [] => []
  | '%' :: a :: b :: rest =>
    match Hex.value? a, Hex.value? b with
    | some high, some low => UInt8.ofNat (16 * high + low) :: decode rest
    | _, _ => UInt8.ofNat '%'.toNat :: decode (a :: b :: rest)
  | c :: rest => String.utf8EncodeChar c ++ decode rest

/-- The text that a text with escapes stands for, if the bytes are UTF-8. -/
def decodeText? (cs : List Char) : Option (List Char) :=
  (String.fromUTF8? ⟨(decode cs).toArray⟩).map String.toList

/-! ## What an encoded text consists of -/

/-- A text of allowed characters stays as it is. -/
theorem encode_of_allowed {escaped : Char → Bool} {cs : List Char}
    (h : ∀ c ∈ cs, escaped c = false) : encode escaped cs = cs := by
  induction cs with
  | nil => rfl
  | cons c cs ih =>
    have hc : encodeChar escaped c = [c] := by simp [encodeChar, h c (by simp)]
    rw [encode, List.flatMap_cons, hc, List.singleton_append]
    exact congrArg (c :: ·) (ih fun d hd => h d (by simp [hd]))

/-- The characters of an encoded text are allowed ones of the text, percent signs and hexadecimal
digits. -/
theorem mem_encode {escaped : Char → Bool} {cs : List Char} {c : Char}
    (h : c ∈ encode escaped cs) :
    (c ∈ cs ∧ escaped c = false) ∨ c = '%' ∨ ∃ d < 16, c = Hex.upper d := by
  obtain ⟨a, ha, hc⟩ := List.mem_flatMap.mp h
  unfold encodeChar at hc
  split at hc
  · obtain ⟨b, -, hc⟩ := List.mem_flatMap.mp hc
    have hb : b.toNat < 256 := b.toNat_lt
    simp only [encodeByte, List.mem_cons, List.not_mem_nil, or_false] at hc
    obtain rfl | rfl | rfl := hc
    · exact Or.inr (Or.inl rfl)
    · exact Or.inr (Or.inr ⟨_, by omega, rfl⟩)
    · exact Or.inr (Or.inr ⟨_, by omega, rfl⟩)
  · rename_i hplain
    obtain rfl := List.mem_singleton.mp hc
    exact Or.inl ⟨ha, Bool.eq_false_iff.mpr hplain⟩

/-- No character that has to be escaped is left, if escapes themselves may stand there. -/
theorem encode_allowed {escaped : Char → Bool} (hsign : escaped '%' = false)
    (hdigit : ∀ d < 16, escaped (Hex.upper d) = false) {cs : List Char} {c : Char}
    (h : c ∈ encode escaped cs) : escaped c = false := by
  obtain ⟨-, hc⟩ | rfl | ⟨d, hd, rfl⟩ := mem_encode h
  · exact hc
  · exact hsign
  · exact hdigit d hd

/-- Something is written for every text that is not empty. -/
theorem encode_ne_nil {escaped : Char → Bool} {cs : List Char} (h : cs ≠ []) :
    encode escaped cs ≠ [] := by
  cases cs with
  | nil => exact absurd rfl h
  | cons c cs =>
    have hc : encodeChar escaped c ≠ [] := by
      unfold encodeChar String.utf8EncodeChar
      dsimp only
      repeat' split
      all_goals simp [encodeByte]
    simp [encode, hc]

/-- What is not escaped is visible, where blanks are among the characters that are. -/
theorem visible_of_allowed {others : List Char} (hblank : ' ' ∈ others) {c : Char}
    (h : (escapedAlways c || others.contains c) = false) : 0x20 < c.toNat ∧ c.toNat < 0x7F := by
  obtain ⟨halways, hothers⟩ := Bool.or_eq_false_iff.mp h
  have hcode : c.toNat ≠ 0x20 := by
    intro hc
    rw [show c = ' ' from Char.toNat_inj.mp hc] at hothers
    simp [hblank] at hothers
  simp only [escapedAlways, Bool.or_eq_false_iff, decide_eq_false_iff_not] at halways
  omega

/-! ## Reading what was encoded -/

/-- An encoded byte is read back. -/
theorem decode_encodeByte (b : UInt8) (rest : List Char) :
    decode (encodeByte b ++ rest) = b :: decode rest := by
  have hb : b.toNat < 256 := b.toNat_lt_size
  have hhigh := Hex.value?_upper (show b.toNat / 16 < 16 by omega)
  have hlow := Hex.value?_upper (show b.toNat % 16 < 16 by omega)
  simp only [encodeByte, List.cons_append, List.nil_append, decode, hhigh, hlow]
  rw [show 16 * (b.toNat / 16) + b.toNat % 16 = b.toNat by omega, UInt8.ofNat_toNat]

/-- Encoded bytes are read back. -/
theorem decode_encodeBytes (bytes : List UInt8) (rest : List Char) :
    decode (bytes.flatMap encodeByte ++ rest) = bytes ++ decode rest := by
  induction bytes with
  | nil => rfl
  | cons b bytes ih =>
    rw [List.flatMap_cons, List.append_assoc, decode_encodeByte, ih, List.cons_append]

/-- A character is read back as its bytes, whether it is escaped or stands for itself. -/
theorem decode_encodeChar {escaped : Char → Bool} {c : Char} (h : escaped c = true ∨ c ≠ '%')
    (rest : List Char) :
    decode (encodeChar escaped c ++ rest) = String.utf8EncodeChar c ++ decode rest := by
  unfold encodeChar
  split
  · exact decode_encodeBytes _ rest
  · rename_i hplain
    rw [List.singleton_append, decode]
    intro a b rest' hcontra _
    exact (h.resolve_left hplain) hcontra

/-- An encoded text is read back as the bytes of the text, if no percent sign in it stands for
itself. -/
theorem decode_encode {escaped : Char → Bool} {cs : List Char}
    (h : ∀ c ∈ cs, escaped c = true ∨ c ≠ '%') :
    decode (encode escaped cs) = cs.flatMap String.utf8EncodeChar := by
  induction cs with
  | nil => rfl
  | cons c cs ih =>
    obtain ⟨hc, hcs⟩ := List.forall_mem_cons.mp h
    rw [encode, List.flatMap_cons, decode_encodeChar hc, List.flatMap_cons]
    exact congrArg _ (ih hcs)

/-- An encoded text is read back. -/
theorem decodeText?_encode {escaped : Char → Bool} {cs : List Char}
    (h : ∀ c ∈ cs, escaped c = true ∨ c ≠ '%') : decodeText? (encode escaped cs) = some cs := by
  have hutf8 : (⟨(cs.flatMap String.utf8EncodeChar).toArray⟩ : ByteArray) = cs.utf8Encode := by
    rw [List.utf8Encode]
    apply ByteArray.ext
    simp
  have hvalid := ByteArray.isValidUTF8_utf8Encode (l := cs)
  have htext : String.fromUTF8 cs.utf8Encode hvalid = String.ofList cs := rfl
  rw [decodeText?, decode_encode h, hutf8, String.fromUTF8?, dif_pos hvalid, htext,
    Option.map_some, String.toList_ofList]

end Percent
end OptimisticCache
