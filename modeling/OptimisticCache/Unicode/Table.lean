import OptimisticCache.Text.Hex
/-!
# Tables of characters

A property of characters is given as rows of text.  A row holds entries with
semicolons between them; an entry names a character, or the first and the last of
several, in hexadecimal, and then holds a note about them.
-/

namespace OptimisticCache

/-- Consecutive characters and what is said of them. -/
structure CharEntry where
  first : Nat
  last : Nat
  note : List Char
deriving DecidableEq

/-- A table of characters. -/
abbrev CharTable :=
  List CharEntry

namespace CharTable

/-- The value of hexadecimal digits; other characters end it. -/
def hexValue (cs : List Char) : Nat :=
  (cs.takeWhile fun c => (Hex.value? c).isSome).foldl
    (fun n c => 16 * n + (Hex.value? c).getD 0) 0

/-- Read an entry. -/
def entryOf (cs : List Char) : CharEntry :=
  let range := cs.takeWhile (· ≠ ' ')
  let first := hexValue range
  let last := match range.dropWhile (· ≠ '-') with
    | _ :: cs => hexValue cs
    | [] => first
  ⟨first, last, (cs.dropWhile (· ≠ ' ')).drop 1⟩

/-- Read rows of entries. -/
def ofRows (rows : List String) : CharTable :=
  rows.flatMap fun row => (row.toList.splitOn ';').map entryOf

/-- The entry that covers a character. -/
def find? (t : CharTable) (c : Nat) : Option CharEntry :=
  List.find? (fun e => e.first ≤ c && c ≤ e.last) t

/-- Whether some entry covers a character. -/
def covers (t : CharTable) (c : Nat) : Bool :=
  (t.find? c).isSome

end CharTable
end OptimisticCache
