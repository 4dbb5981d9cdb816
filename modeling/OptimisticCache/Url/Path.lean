import OptimisticCache.Url.Percent
/-!
# Paths of URLs

A path is a list of segments.  While a path is read, a segment of a single dot is
left out and a segment of two dots takes the segment before it away; a backslash
separates segments like a slash.

Main results:

- Theorem {lit}`UrlPath.stands_of_mem_ofChars`: the segments of a path that was read
  hold no separator, nothing that has to be escaped, and are not dots.
- Theorem {lit}`UrlPath.ofChars_chars_ofChars`: such a path is read back from its
  text.
-/

namespace OptimisticCache

/-- The segments of a path, percent-encoded. -/
abbrev UrlPath :=
  List (List Char)

namespace UrlPath

/-- Whether a character separates segments. -/
def isSeparator (c : Char) : Bool :=
  c = '/' || c = '\\'

/-- The segment with its escaped dots written as dots, if it is nothing but dots. -/
def dots? : List Char → Option Nat
  | [] => some 0
  | '.' :: rest => (dots? rest).map (· + 1)
  | '%' :: '2' :: 'e' :: rest => (dots? rest).map (· + 1)
  | '%' :: '2' :: 'E' :: rest => (dots? rest).map (· + 1)
  | _ => none

/-- Whether a segment is a letter and a colon or bar, as the name of a drive is. -/
def isDrive : List Char → Bool
  | [a, b] => a.isAlpha && (b = ':' || b = '|')
  | _ => false

/-- The path without its last segment, unless that names a drive. -/
def parent (path : UrlPath) : UrlPath :=
  match path.getLast? with
  | some last => if isDrive last then path else path.dropLast
  | none => path

/-- The path after one more segment. -/
def push (path : UrlPath) (segment : List Char) : UrlPath :=
  match dots? segment with
  | some 1 => path
  | some 2 => parent path
  | _ => path ++ [Percent.encode Percent.escapedInPath segment]

/-- The path after its last segment: dots leave an empty segment behind. -/
def pushLast (path : UrlPath) (segment : List Char) : UrlPath :=
  match dots? segment with
  | some 1 => path ++ [[]]
  | some 2 => parent path ++ [[]]
  | _ => path ++ [Percent.encode Percent.escapedInPath segment]

/-- Read segments one after the other. -/
def pushAll (path : UrlPath) : List (List Char) → UrlPath
  | [] => path
  | [segment] => pushLast path segment
  | segment :: next :: rest => pushAll (push path segment) (next :: rest)

/-- Read a path; the separator in front may be missing. -/
def ofChars (cs : List Char) : UrlPath :=
  let cs := match cs with
    | c :: rest => if isSeparator c then rest else c :: rest
    | [] => []
  pushAll [] (cs.splitOnP isSeparator)

/-- The text of a path: a slash before every segment. -/
def chars (path : UrlPath) : List Char :=
  path.flatMap fun segment => '/' :: segment

theorem pushLast_ne_nil (path : UrlPath) (segment : List Char) : pushLast path segment ≠ [] := by
  unfold pushLast
  split <;> simp

/-- Reading segments gives a path with a segment. -/
theorem pushAll_ne_nil {path : UrlPath} {segments : List (List Char)} (h : segments ≠ []) :
    pushAll path segments ≠ [] := by
  fun_induction pushAll path segments with
  | case1 => exact absurd rfl h
  | case2 path segment => exact pushLast_ne_nil path segment
  | case3 path segment next rest ih => exact ih (by simp)

/-- A path that was read has a segment. -/
theorem ofChars_ne_nil (cs : List Char) : ofChars cs ≠ [] :=
  pushAll_ne_nil (List.splitOnP_ne_nil _ _)

/-! ## Escapes and dots -/

theorem encode_cons (escaped : Char → Bool) (c : Char) (cs : List Char) :
    Percent.encode escaped (c :: cs) = Percent.encodeChar escaped c ++ Percent.encode escaped cs :=
  rfl

/-- A text begins with no dot if it neither is empty nor begins with a dot or the escape of one. -/
theorem dots?_eq_none {cs : List Char} (hnil : cs ≠ []) (hdot : ∀ rest, cs ≠ '.' :: rest)
    (hescape : ∀ e rest, cs = '%' :: '2' :: e :: rest → e ≠ 'e' ∧ e ≠ 'E') : dots? cs = none := by
  unfold dots?
  split
  · exact absurd rfl hnil
  · exact absurd rfl (hdot _)
  · exact absurd rfl (hescape _ _ rfl).1
  · exact absurd rfl (hescape _ _ rfl).2
  · rfl

/-- The escape of a byte that is not a dot is not read as one. -/
theorem dots?_encodeByte {b : UInt8} (h : b.toNat ≠ 0x2E) (rest : List Char) :
    dots? (Percent.encodeByte b ++ rest) = none := by
  have hb : b.toNat < 256 := b.toNat_lt
  have hhigh := Hex.value?_upper (show b.toNat / 16 < 16 by omega)
  have hlow := Hex.value?_upper (show b.toNat % 16 < 16 by omega)
  refine dots?_eq_none (List.cons_ne_nil _ _) (fun rest' heq => ?_) (fun e rest' heq => ?_)
  · exact absurd (List.cons.inj heq).1 (by decide)
  · obtain ⟨-, heq⟩ := List.cons.inj heq
    obtain ⟨htwo, heq⟩ := List.cons.inj heq
    obtain ⟨hlast, -⟩ := List.cons.inj heq
    rw [htwo] at hhigh
    rw [hlast] at hlow
    have hdiv : 2 = b.toNat / 16 := Option.some.inj hhigh
    constructor <;> rintro rfl
    all_goals
      have hmod : 14 = b.toNat % 16 := Option.some.inj hlow
      omega

/-- The first byte of a character that is escaped in a path is not the one of a dot. -/
theorem exists_encodeChar_of_escaped {c : Char} (h : Percent.escapedInPath c = true) :
    ∃ b bytes, String.utf8EncodeChar c = b :: bytes ∧ b.toNat ≠ 0x2E := by
  have hc : c.val.toNat ≠ 0x2E := fun hdot => by
    rw [show c = '.' from Char.toNat_inj.mp hdot] at h
    exact absurd h (by decide)
  unfold String.utf8EncodeChar
  dsimp only
  split
  · refine ⟨_, _, rfl, ?_⟩
    rw [UInt8.toNat_ofNat']
    omega
  · split
    · refine ⟨_, _, rfl, ?_⟩
      rw [UInt8.toNat_ofNat']
      omega
    · split <;> refine ⟨_, _, rfl, ?_⟩ <;> rw [UInt8.toNat_ofNat'] <;> omega

/-- If an encoded segment begins with another character than a percent sign, the segment begins with
it. -/
theorem exists_cons_of_encode {c : Char} (hc : c ≠ '%') {cs rest : List Char}
    (h : Percent.encode Percent.escapedInPath cs = c :: rest) :
    ∃ cs', cs = c :: cs' ∧ Percent.encode Percent.escapedInPath cs' = rest := by
  cases cs with
  | nil => cases h
  | cons d cs =>
    rw [encode_cons, Percent.encodeChar] at h
    split at h
    · rename_i hd
      obtain ⟨b, bytes, hbytes, -⟩ := exists_encodeChar_of_escaped hd
      rw [hbytes, List.flatMap_cons] at h
      exact absurd (List.cons.inj h).1.symm hc
    · obtain ⟨rfl, rfl⟩ := List.cons.inj h
      exact ⟨cs, rfl, rfl⟩

/-- Escaping makes no dots and takes none away. -/
theorem dots?_encode (segment : List Char) :
    dots? (Percent.encode Percent.escapedInPath segment) = dots? segment := by
  fun_induction dots? segment with
  | case1 => rfl
  | case2 rest ih => exact congrArg (Option.map (· + 1)) ih
  | case3 rest ih => exact congrArg (Option.map (· + 1)) ih
  | case4 rest ih => exact congrArg (Option.map (· + 1)) ih
  | case5 segment hnil hdot hlower hupper =>
    cases segment with
    | nil => exact absurd rfl hnil
    | cons c cs =>
      rw [encode_cons, Percent.encodeChar]
      split
      · rename_i hc
        obtain ⟨b, bytes, hbytes, hb⟩ := exists_encodeChar_of_escaped hc
        rw [hbytes, List.flatMap_cons, List.append_assoc, dots?_encodeByte hb]
      · refine dots?_eq_none (List.cons_ne_nil _ _) (fun rest heq => ?_) (fun e rest heq => ?_)
        · obtain ⟨rfl, -⟩ := List.cons.inj heq
          exact hdot _ rfl
        · obtain ⟨rfl, htwo⟩ := List.cons.inj heq
          obtain ⟨cs', rfl, hlast⟩ := exists_cons_of_encode (by decide) htwo
          constructor
          · rintro rfl
            obtain ⟨cs'', rfl, -⟩ := exists_cons_of_encode (by decide) hlast
            exact hlower _ rfl
          · rintro rfl
            obtain ⟨cs'', rfl, -⟩ := exists_cons_of_encode (by decide) hlast
            exact hupper _ rfl

/-! ## Segments that were read -/

/-- A segment that stands in a path as it is: nothing in it separates segments or has to be
escaped, and it is neither one dot nor two. -/
structure Stands (segment : List Char) : Prop where
  whole : ∀ c ∈ segment, isSeparator c = false
  allowed : ∀ c ∈ segment, Percent.escapedInPath c = false
  not_dots : dots? segment ≠ some 1 ∧ dots? segment ≠ some 2

/-- The empty segment stands. -/
theorem Stands.nil : Stands [] :=
  ⟨nofun, nofun, by decide⟩

/-- A segment without separators and dots stands when it is encoded. -/
theorem stands_encode {segment : List Char} (hwhole : ∀ c ∈ segment, isSeparator c = false)
    (hdots : dots? segment ≠ some 1 ∧ dots? segment ≠ some 2) :
    Stands (Percent.encode Percent.escapedInPath segment) where
  whole c hc := by
    obtain ⟨hmem, -⟩ | rfl | ⟨d, hd, rfl⟩ := Percent.mem_encode hc
    · exact hwhole c hmem
    · rfl
    · have hall : ∀ d < 16, isSeparator (Hex.upper d) = false := by decide
      exact hall d hd
  allowed c := Percent.encode_allowed (by decide) (by decide)
  not_dots := by rwa [dots?_encode]

/-- The segments of the path without its last one stand. -/
theorem stands_parent {path : UrlPath} (h : ∀ s ∈ path, Stands s) :
    ∀ s ∈ parent path, Stands s := by
  intro s hs
  unfold parent at hs
  split at hs
  · split at hs
    · exact h s hs
    · exact h s ((List.dropLast_sublist _).subset hs)
  · exact h s hs

/-- After one more segment all segments stand. -/
theorem stands_push {path : UrlPath} (h : ∀ s ∈ path, Stands s) {segment : List Char}
    (hwhole : ∀ c ∈ segment, isSeparator c = false) : ∀ s ∈ push path segment, Stands s := by
  unfold push
  split
  · exact h
  · exact stands_parent h
  · rename_i hone htwo
    have hlast := stands_encode hwhole ⟨hone, htwo⟩
    exact List.forall_mem_append.mpr ⟨h, List.forall_mem_singleton.mpr hlast⟩

/-- After the last segment all segments stand. -/
theorem stands_pushLast {path : UrlPath} (h : ∀ s ∈ path, Stands s) {segment : List Char}
    (hwhole : ∀ c ∈ segment, isSeparator c = false) : ∀ s ∈ pushLast path segment, Stands s := by
  unfold pushLast
  split
  · exact List.forall_mem_append.mpr ⟨h, List.forall_mem_singleton.mpr .nil⟩
  · exact List.forall_mem_append.mpr ⟨stands_parent h, List.forall_mem_singleton.mpr .nil⟩
  · rename_i hone htwo
    have hlast := stands_encode hwhole ⟨hone, htwo⟩
    exact List.forall_mem_append.mpr ⟨h, List.forall_mem_singleton.mpr hlast⟩

/-- After several segments all segments stand. -/
theorem stands_pushAll {path : UrlPath} (h : ∀ s ∈ path, Stands s) {segments : List (List Char)}
    (hwhole : ∀ segment ∈ segments, ∀ c ∈ segment, isSeparator c = false) :
    ∀ s ∈ pushAll path segments, Stands s := by
  fun_induction pushAll path segments with
  | case1 => exact h
  | case2 path segment => exact stands_pushLast h (hwhole segment List.mem_cons_self)
  | case3 path segment next rest ih =>
    obtain ⟨hfirst, hrest⟩ := List.forall_mem_cons.mp hwhole
    exact ih (stands_push h hfirst) hrest

/-- No separator stands in a piece between separators. -/
theorem whole_of_mem_splitOnP {cs piece : List Char} (h : piece ∈ cs.splitOnP isSeparator) :
    ∀ c ∈ piece, isSeparator c = false := by
  induction cs generalizing piece with
  | nil =>
    rw [List.splitOnP_nil, List.mem_singleton] at h
    simp [h]
  | cons c cs ih =>
    rw [List.splitOnP_cons_eq_if_modifyHead] at h
    split at h
    · rcases List.mem_cons.mp h with rfl | h
      · nofun
      · exact ih h
    · rename_i hc
      cases hpieces : cs.splitOnP isSeparator with
      | nil => exact absurd hpieces (List.splitOnP_ne_nil _ _)
      | cons first pieces =>
        rw [hpieces, List.modifyHead_cons] at h
        rcases List.mem_cons.mp h with rfl | h
        · have hfirst := ih (hpieces ▸ List.mem_cons_self)
          exact List.forall_mem_cons.mpr ⟨Bool.eq_false_iff.mpr hc, hfirst⟩
        · exact ih (hpieces ▸ List.mem_cons_of_mem _ h)

/-- The segments of a path that was read stand. -/
theorem stands_of_mem_ofChars {cs segment : List Char} (h : segment ∈ ofChars cs) :
    Stands segment := by
  have hnone : ∀ s ∈ ([] : UrlPath), Stands s := nofun
  exact stands_pushAll hnone (fun _ => whole_of_mem_splitOnP) segment h

/-! ## Reading a path again -/

/-- Segments that stand are read as they are. -/
theorem pushAll_of_stands (path : UrlPath) {segments : List (List Char)}
    (h : ∀ s ∈ segments, Stands s) : pushAll path segments = path ++ segments := by
  fun_induction pushAll path segments with
  | case1 => exact (List.append_nil _).symm
  | case2 path segment =>
    have hs := h segment List.mem_cons_self
    unfold pushLast
    split
    · exact absurd ‹_› hs.not_dots.1
    · exact absurd ‹_› hs.not_dots.2
    · rw [Percent.encode_of_allowed hs.allowed]
  | case3 path segment next rest ih =>
    obtain ⟨hs, hrest⟩ := List.forall_mem_cons.mp h
    have hpush : push path segment = path ++ [segment] := by
      unfold push
      split
      · exact absurd ‹_› hs.not_dots.1
      · exact absurd ‹_› hs.not_dots.2
      · rw [Percent.encode_of_allowed hs.allowed]
    rw [ih hrest, hpush, List.append_assoc, List.singleton_append]

/-- The text of a path is split into its segments. -/
theorem splitOnP_chars {segment : List Char} {path : UrlPath}
    (h : ∀ s ∈ segment :: path, Stands s) :
    (segment ++ chars path).splitOnP isSeparator = segment :: path := by
  induction path generalizing segment with
  | nil =>
    rw [chars, List.flatMap_nil, List.append_nil]
    exact List.splitOnP_eq_singleton (h segment List.mem_cons_self).whole
  | cons next path ih =>
    obtain ⟨hs, hrest⟩ := List.forall_mem_cons.mp h
    rw [chars, List.flatMap_cons, List.cons_append,
      List.splitOnP_append_cons_of_forall_mem hs.whole '/' rfl]
    exact congrArg (segment :: ·) (ih hrest)

/-- A path of segments that stand is read back. -/
theorem ofChars_chars {path : UrlPath} (hne : path ≠ []) (h : ∀ s ∈ path, Stands s) :
    ofChars path.chars = path := by
  cases path with
  | nil => exact absurd rfl hne
  | cons segment path =>
    have hsplit := splitOnP_chars h
    calc ofChars (chars (segment :: path))
        = pushAll [] ((segment ++ chars path).splitOnP isSeparator) := rfl
      _ = segment :: path := by rw [hsplit, pushAll_of_stands _ h, List.nil_append]

/-- Reading the text of a path that was read gives the path again. -/
theorem ofChars_chars_ofChars (cs : List Char) : ofChars (ofChars cs).chars = ofChars cs :=
  ofChars_chars (ofChars_ne_nil cs) fun _ => stands_of_mem_ofChars

end UrlPath
end OptimisticCache
