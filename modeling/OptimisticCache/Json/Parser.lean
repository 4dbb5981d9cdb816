import OptimisticCache.Json
import OptimisticCache.Text.Decimal
import OptimisticCache.Text.Hex
/-!
# Reading JSON

A text is read strictly: no characters before or after the value but white
space, no lone surrogates, no raw control characters in strings, no number that
is too large, and containers nested at most {lit}`Json.maxDepth` deep.  Of two
members with one name the later counts.

An integer that fits 64 bits, with or without a sign, is read as an integer.
Every other number is a binary number: the digits that fit 64 bits are rounded,
and the result is scaled by its power of ten.
-/

namespace OptimisticCache
namespace Json

/-- How deep arrays and objects may be nested in a text. -/
def maxDepth : Nat :=
  127

/-- The white space between the tokens of a text. -/
def isGap (c : Char) : Bool :=
  c = ' ' || c = '\n' || c = '\t' || c = '\r'

/-- The characters after the white space in front. -/
def skipGap (cs : List Char) : List Char :=
  cs.dropWhile isGap

/-! ## Strings -/

/-- The code unit of four hexadecimal digits. -/
def codeUnit? (a b c d : Char) : Option Nat :=
  match Hex.value? a, Hex.value? b, Hex.value? c, Hex.value? d with
  | some a, some b, some c, some d => some (((a * 16 + b) * 16 + c) * 16 + d)
  | _, _, _, _ => none

/-- The character of a surrogate pair. -/
def pairChar? (high low : Nat) : Option Char :=
  if 0xD800 ≤ high ∧ high < 0xDC00 ∧ 0xDC00 ≤ low ∧ low < 0xE000 then
    some (Char.ofNat (0x10000 + (high - 0xD800) * 0x400 + (low - 0xDC00)))
  else none

/-- The character of a code unit that is not a surrogate. -/
def unitChar? (u : Nat) : Option Char :=
  if u < 0xD800 ∨ 0xE000 ≤ u then some (Char.ofNat u) else none

/-- The character that stands for itself or for a control character after a backslash. -/
def shortEscape? (c : Char) : Option Char :=
  if c = '"' ∨ c = '\\' ∨ c = '/' then some c
  else if c = 'b' then some (Char.ofNat 8)
  else if c = 'f' then some (Char.ofNat 12)
  else if c = 'n' then some '\n'
  else if c = 'r' then some '\r'
  else if c = 't' then some '\t'
  else none

/-- Put a character in front of what was read. -/
def consChar (c : Option Char) (r : Option (List Char × List Char)) :
    Option (List Char × List Char) :=
  match c, r with
  | some c, some (cs, rest) => some (c :: cs, rest)
  | _, _ => none

/-- The characters of a string up to its closing quote, and the rest. -/
def stringChars : List Char → Option (List Char × List Char)
  | [] => none
  | '"' :: rest => some ([], rest)
  | '\\' :: 'u' :: a :: b :: c :: d :: '\\' :: 'u' :: a' :: b' :: c' :: d' :: rest =>
    match codeUnit? a b c d with
    | none => none
    | some u =>
      match unitChar? u with
      | some ch => consChar (some ch) (stringChars ('\\' :: 'u' :: a' :: b' :: c' :: d' :: rest))
      | none => consChar ((codeUnit? a' b' c' d').bind (pairChar? u)) (stringChars rest)
  | '\\' :: 'u' :: a :: b :: c :: d :: rest =>
    consChar ((codeUnit? a b c d).bind unitChar?) (stringChars rest)
  | '\\' :: c :: rest => consChar (shortEscape? c) (stringChars rest)
  | c :: rest => if c.toNat < 32 ∨ c = '\\' then none else consChar (some c) (stringChars rest)

/-- A string after its opening quote. -/
def stringBody (cs : List Char) : Option (String × List Char) :=
  (stringChars cs).map fun r => (String.ofList r.1, r.2)

/-! ## Numbers -/

/-- The parts of a number as it is written. -/
structure NumberParts where
  negative : Bool
  whole : List Char
  fraction : Option (List Char)
  exponent : Option Int
deriving DecidableEq

/-- The digits in front, and the rest. -/
def spanDigits (cs : List Char) : List Char × List Char :=
  (cs.takeWhile Decimal.isDigit, cs.dropWhile Decimal.isDigit)

/-- The integer part: one zero, or digits that do not begin with a zero. -/
def wholePart (cs : List Char) : Option (List Char × List Char) :=
  match spanDigits cs with
  | ([], _) => none
  | (['0'], rest) => some (['0'], rest)
  | ('0' :: _, _) => none
  | (ds, rest) => some (ds, rest)

/-- The digits after a point, if there is one. -/
def fractionPart : List Char → Option (Option (List Char) × List Char)
  | '.' :: cs =>
    match spanDigits cs with
    | ([], _) => none
    | (ds, rest) => some (some ds, rest)
  | cs => some (none, cs)

/-- An exponent with its sign, after the letter. -/
def signedExponent (negative : Bool) (cs : List Char) : Option (Option Int × List Char) :=
  match spanDigits cs with
  | (ds, rest) =>
    (Decimal.readNat ds).map fun n => (some (if negative then -(n : Int) else (n : Int)), rest)

/-- The exponent, if there is one. -/
def exponentPart : List Char → Option (Option Int × List Char)
  | 'e' :: '+' :: cs | 'E' :: '+' :: cs => signedExponent false cs
  | 'e' :: '-' :: cs | 'E' :: '-' :: cs => signedExponent true cs
  | 'e' :: cs | 'E' :: cs => signedExponent false cs
  | cs => some (none, cs)

/-- A number without its sign. -/
def unsignedParts (negative : Bool) (cs : List Char) : Option (NumberParts × List Char) := do
  let (whole, cs) ← wholePart cs
  let (fraction, cs) ← fractionPart cs
  let (exponent, cs) ← exponentPart cs
  pure (⟨negative, whole, fraction, exponent⟩, cs)

/-- The parts of a number, and the rest. -/
def numberParts : List Char → Option (NumberParts × List Char)
  | '-' :: cs => unsignedParts true cs
  | cs => unsignedParts false cs

/-- Append digits to a 64-bit word as long as they fit; the digits that are left. -/
def takeDigits (word : Nat) : List Char → Nat × List Char
  | [] => (word, [])
  | c :: cs =>
    match Decimal.digit? c with
    | none => (word, c :: cs)
    | some d => if 10 * word + d < UInt64.size then takeDigits (10 * word + d) cs else (word, c :: cs)

/-- The rounded digits times a power of ten. -/
def realOf? (negative : Bool) (word : Nat) (power : Int) : Option Number :=
  ((Binary64.ofNat? negative word).bind fun x => x.scaleTen? power).map Number.real

/-- The number that the parts stand for; none if it is too large. -/
def NumberParts.value? (p : NumberParts) : Option Number :=
  let (word, left) := takeDigits 0 p.whole
  match p.fraction, p.exponent with
  | none, none =>
    if left ≠ [] then realOf? p.negative word left.length
    else if p.negative then
      if 0 < word ∧ word ≤ 0x8000000000000000 then some (.integer (-(word : Int)))
      else realOf? true word 0
    else some (.integer word)
  | fraction, exponent =>
    let places := fraction.getD []
    let (word, unused) := takeDigits word places
    let power := (left.length : Int) - ((places.length : Int) - unused.length)
    realOf? p.negative word (power + exponent.getD 0)

/-- A number, and the rest. -/
def numberValue (cs : List Char) : Option (Json × List Char) := do
  let (parts, rest) ← numberParts cs
  let n ← parts.value?
  pure (.number n, rest)

/-! ## Values -/

/-- Items with commas between them up to the closing character.  Every item takes a
character, so as many rounds as there are characters are enough. -/
def separated {α : Type} (item : List Char → Option (α × List Char)) (close : Char) :
    Nat → List Char → Option (List α × List Char)
  | 0, _ => none
  | rounds + 1, cs =>
    match item (skipGap cs) with
    | none => none
    | some (v, rest) =>
      match skipGap rest with
      | [] => none
      | c :: rest =>
        if c = ',' then (separated item close rounds rest).map fun r => (v :: r.1, r.2)
        else if c = close then some ([v], rest)
        else none

/-- The inside of a container: nothing, or items with commas between them. -/
def container {α : Type} (item : List Char → Option (α × List Char)) (close : Char)
    (cs : List Char) : Option (List α × List Char) :=
  match skipGap cs with
  | [] => none
  | c :: rest =>
    if c = close then some ([], rest) else separated item close cs.length (c :: rest)

/-- A member: a name, a colon and a value. -/
def memberOf (item : List Char → Option (Json × List Char)) :
    List Char → Option ((String × Json) × List Char)
  | '"' :: cs =>
    match stringBody cs with
    | none => none
    | some (name, rest) =>
      match skipGap rest with
      | ':' :: rest => (item (skipGap rest)).map fun r => ((name, r.1), r.2)
      | _ => none
  | _ => none

/-- A value whose containers are nested at most `depth` deep, and the rest. -/
def value : Nat → List Char → Option (Json × List Char)
  | depth, cs =>
    match cs with
    | 'n' :: 'u' :: 'l' :: 'l' :: rest => some (.null, rest)
    | 't' :: 'r' :: 'u' :: 'e' :: rest => some (.bool true, rest)
    | 'f' :: 'a' :: 'l' :: 's' :: 'e' :: rest => some (.bool false, rest)
    | '"' :: rest => (stringBody rest).map fun r => (.string r.1, r.2)
    | '[' :: rest =>
      match depth with
      | 0 => none
      | depth + 1 => (container (value depth) ']' rest).map fun r => (.array r.1, r.2)
    | '{' :: rest =>
      match depth with
      | 0 => none
      | depth + 1 => (container (memberOf (value depth)) '}' rest).map fun r => (ofMembers r.1, r.2)
    | cs => numberValue cs

/-- Read a whole text as a value with containers nested at most `depth` deep. -/
def parseWithin? (depth : Nat) (text : String) : Option Json :=
  match value depth (skipGap text.toList) with
  | some (v, rest) => if skipGap rest = [] then some v else none
  | none => none

/-- Read a whole text as a value. -/
def parse? (text : String) : Option Json :=
  parseWithin? maxDepth text

end Json
end OptimisticCache
