import OptimisticCache.Json
import OptimisticCache.Binary64.Shortest
import OptimisticCache.Text.Hex
/-!
# Writing JSON

The compact form has no white space; the indented form puts every item and every
member on a line of its own, two blanks deeper than its container.  A number of
the binary kind always shows a point or an exponent, so that it is read back as
a number of that kind.
-/

namespace OptimisticCache

/-- How the digits of a number are laid out. -/
structure NumberFormat where
  /-- The first power of ten of the leading digit that is written with an exponent. -/
  exponentFrom : Int
  /-- The least power of ten of the leading digit that is written without an exponent. -/
  positionalFrom : Int
deriving DecidableEq

/-- Numbers from `10 ^ -5` on and below `10 ^ 16` are written without an exponent. -/
def Json.numberFormat : NumberFormat :=
  ⟨16, -5⟩

namespace Binary64

/-- Digits with the decimal point where the power of ten puts it. -/
def positional (row : List Char) (power : Int) : List Char :=
  if 0 ≤ power then row ++ List.replicate power.toNat '0' ++ ['.', '0']
  else
    let places := (-power).toNat
    let width := row.length
    if places < width then row.take (width - places) ++ '.' :: row.drop (width - places)
    else ['0', '.'] ++ List.replicate (places - width) '0' ++ row

/-- Digits with one of them before the point and the power of ten behind. -/
def scientific (row : List Char) (leading : Int) : List Char :=
  let exponent := (if leading < 0 then '-' else '+') :: Decimal.digits leading.natAbs
  match row with
  | [] => []
  | [d] => d :: 'e' :: exponent
  | d :: rest => d :: '.' :: rest ++ 'e' :: exponent

/-- The characters of a number, from its shortest digits. -/
def chars (format : NumberFormat) (x : Binary64) : List Char :=
  let size :=
    if x.isZero then ['0', '.', '0']
    else
      let d := Shortest.digits x
      let row := Decimal.digits d.row
      let leading := d.power + (row.length - 1 : Nat)
      if format.positionalFrom ≤ leading ∧ leading < format.exponentFrom then
        positional row d.power
      else scientific row leading
  if x.negative then '-' :: size else size

end Binary64

namespace Number

/-- The characters of a number. -/
def chars : Number → List Char
  | .integer n => Decimal.intChars n
  | .real x => x.chars Json.numberFormat

/-- A number as a text. -/
def text (n : Number) : String :=
  String.ofList n.chars

end Number

namespace Json

/-- A character inside a quoted text: quotes, backslashes and control characters are escaped. -/
def escape (c : Char) : List Char :=
  if c = '"' then ['\\', '"']
  else if c = '\\' then ['\\', '\\']
  else if c.toNat = 8 then ['\\', 'b']
  else if c.toNat = 9 then ['\\', 't']
  else if c.toNat = 10 then ['\\', 'n']
  else if c.toNat = 12 then ['\\', 'f']
  else if c.toNat = 13 then ['\\', 'r']
  else if c.toNat < 32 then ['\\', 'u', '0', '0', Hex.lower (c.toNat / 16), Hex.lower (c.toNat % 16)]
  else [c]

/-- A text between quotes. -/
def quote (s : String) : List Char :=
  '"' :: s.toList.flatMap escape ++ ['"']

/-! ## Compact form -/

mutual

/-- The characters of a value in compact form. -/
def printChars : Json → List Char
  | .null => ['n', 'u', 'l', 'l']
  | .bool true => ['t', 'r', 'u', 'e']
  | .bool false => ['f', 'a', 'l', 's', 'e']
  | .number n => n.chars
  | .string s => quote s
  | .array items => '[' :: printItems items ++ [']']
  | .object members => '{' :: printMembers members ++ ['}']

/-- The items of an array, with commas between them. -/
def printItems : List Json → List Char
  | [] => []
  | [v] => printChars v
  | v :: w :: rest => printChars v ++ ',' :: printItems (w :: rest)

/-- The members of an object, with commas between them. -/
def printMembers : List (String × Json) → List Char
  | [] => []
  | [(name, v)] => quote name ++ ':' :: printChars v
  | (name, v) :: m :: rest => quote name ++ ':' :: printChars v ++ ',' :: printMembers (m :: rest)

end

/-- The compact form of a value. -/
def print (v : Json) : String :=
  String.ofList v.printChars

/-! ## Indented form -/

/-- The start of a line at a depth. -/
def newLine (depth : Nat) : List Char :=
  '\n' :: List.replicate (2 * depth) ' '

mutual

/-- The characters of a value in indented form, at a depth. -/
def indentedChars (depth : Nat) : Json → List Char
  | .array [] => ['[', ']']
  | .array (v :: rest) => '[' :: indentedItems (depth + 1) (v :: rest) ++ newLine depth ++ [']']
  | .object [] => ['{', '}']
  | .object (m :: rest) => '{' :: indentedMembers (depth + 1) (m :: rest) ++ newLine depth ++ ['}']
  | .null => ['n', 'u', 'l', 'l']
  | .bool b => printChars (.bool b)
  | .number n => n.chars
  | .string s => quote s

/-- The items of an array, each on a line of its own. -/
def indentedItems (depth : Nat) : List Json → List Char
  | [] => []
  | [v] => newLine depth ++ indentedChars depth v
  | v :: w :: rest => newLine depth ++ indentedChars depth v ++ ',' :: indentedItems depth (w :: rest)

/-- The members of an object, each on a line of its own. -/
def indentedMembers (depth : Nat) : List (String × Json) → List Char
  | [] => []
  | [(name, v)] => newLine depth ++ quote name ++ [':', ' '] ++ indentedChars depth v
  | (name, v) :: m :: rest =>
    newLine depth ++ quote name ++ [':', ' '] ++ indentedChars depth v ++
      ',' :: indentedMembers depth (m :: rest)

end

/-- The indented form of a value. -/
def printIndented (v : Json) : String :=
  String.ofList (indentedChars 0 v)

end Json
end OptimisticCache
