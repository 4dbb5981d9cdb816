import OptimisticCache.Unicode.Composition
import OptimisticCache.Unicode.Direction
import OptimisticCache.Unicode.Joining
import OptimisticCache.Unicode.Mapping
import OptimisticCache.Url.Punycode
/-!
# Names of domains

A name of a domain is a row of labels with points between them.  Names that
differ only in case or in the variant of a character are one name, so a name is
mapped and composed before it is used.  A label with characters beyond ASCII is
looked up in its Punycode form, behind a prefix of its own.

Main results:

- Theorem {lit}`Domain.toAscii?_allowed`: no forbidden character stands in an
  accepted name.
-/

namespace OptimisticCache
namespace Domain

/-- The characters that may not stand in a name. -/
def isForbidden (c : Char) : Bool :=
  c.toNat ≤ 0x20 || c.toNat = 0x7F ||
    ['%', '#', '/', ':', '<', '>', '?', '@', '[', '\\', ']', '^', '|'].contains c

/-- What stands before a label in its Punycode form. -/
def punycodeMark : List Nat :=
  "xn--".toList.map Char.toNat

/-- Whether all characters of a label are ASCII. -/
def isAscii (label : List Nat) : Bool :=
  label.all (· < 128)

/-- The characters of a label that may be in its Punycode form.  That form has to stand for a
composed label of valid characters that are not all ASCII. -/
def readLabel (label : List Nat) : Option (List Nat) :=
  if punycodeMark.isPrefixOf label then
    if isAscii label then
      (Punycode.decode ((label.drop punycodeMark.length).map Char.ofNat)).filter fun decoded =>
        !isAscii decoded && Composition.normalize decoded = decoded &&
          decoded.all Mapping.isValid
    else none
  else some label

/-- Whether a label begins with no mark, and has its joiners and its directions in order. -/
def isWellFormed (someRightToLeft : Bool) (label : List Nat) : Bool :=
  !(label.head?.map Combining.isMark).getD false && Joining.allPlaced [] label &&
    (!someRightToLeft || Direction.isOrdered label)

/-- A label in the form in which it is looked up. -/
def writeLabel (label : List Nat) : List Char :=
  if isAscii label then label.map Char.ofNat
  else punycodeMark.map Char.ofNat ++ Punycode.encode label

/-- The labels of a name after it was mapped and composed. -/
def labels? (cs : List Char) : Option (List (List Nat)) :=
  (Mapping.mapChars (cs.map Char.toNat)).map fun mapped =>
    (Composition.normalize mapped).splitOn '.'.toNat

/-- Whether all labels of a name may be looked up. -/
def areWellFormed (labels : List (List Nat)) : Bool :=
  match labels.mapM readLabel with
  | none => false
  | some read =>
    let someRightToLeft := read.any fun label => label.any Direction.isRightToLeft
    read.all (isWellFormed someRightToLeft)

/-- The name in the form in which it is looked up. -/
def toAscii? (cs : List Char) : Option (List Char) :=
  match labels? cs with
  | none => none
  | some labels =>
    let name := List.intercalate ['.'] (labels.map writeLabel)
    if areWellFormed labels && !name.any isForbidden then some name else none

/-- No forbidden character stands in an accepted name. -/
theorem toAscii?_allowed {cs name : List Char} (h : toAscii? cs = some name) :
    ∀ c ∈ name, isForbidden c = false := by
  unfold toAscii? at h
  split at h
  · cases h
  · dsimp only at h
    split at h
    · rename_i hall
      obtain rfl := Option.some.inj h
      rw [Bool.and_eq_true, Bool.not_eq_true', List.any_eq_false] at hall
      intro c hc
      exact Bool.eq_false_iff.mpr (hall.2 c hc)
    · cases h

end Domain
end OptimisticCache
