import Stencil.Delimiters.Basic
import Stencil.Journal.Code
import Stencil.Limits
/-!
# Validation of delimiters

A dialect is usable when its six required strings are not blank, no string is too long, and among
the strings that are not empty none occurs inside another.
-/

namespace Stencil

/-- Why a dialect is not usable. Settings are named as in messages. -/
inductive DelimiterFault where
  | blank (name : String)
  | tooLong (name : String) (length limit : Nat)
  | duplicate (first second value : String)
  | overlap (outer outerValue inner innerValue : String)
  deriving DecidableEq

/-- What is wrong with a dialect, in one line. -/
def DelimiterFault.message : DelimiterFault → String
  | .blank name => name ++ " cannot be empty"
  | .tooLong name length limit =>
    name ++ " is too long (" ++ toString length ++ " characters, max " ++ toString limit ++ ")"
  | .duplicate first second value =>
    first ++ " and " ++ second ++ " cannot be the same: \"" ++ value ++ "\""
  | .overlap outer outerValue inner innerValue =>
    outer ++ " (\"" ++ outerValue ++ "\") contains " ++ inner ++ " (\"" ++ innerValue ++ "\")"

/-- The code of a fault. -/
def DelimiterFault.code : DelimiterFault → Code
  | .blank .. => .emptyDelimiter
  | .tooLong .. => .delimiterTooLong
  | .duplicate .. => .duplicateDelimiter
  | .overlap .. => .overlappingDelimiter

namespace Delimiters

/-- The first fault of the values one by one: in each the blank comes before the length. -/
def valueFault? (field : Field) (value : String) : Option DelimiterFault :=
  if field.isRequired && Text.isBlankText value then
    some (.blank field.title)
  else if value.length > Limits.maxDelimiterLength then
    some (.tooLong field.title value.length Limits.maxDelimiterLength)
  else
    none

/-- Every pair of list entries, the earlier one first, in order of the earlier and then the
later. -/
def orderedPairs {α : Type} : List α → List (α × α)
  | [] => []
  | x :: rest => rest.map (fun y => (x, y)) ++ orderedPairs rest

/-- Some suffix of the characters begins with `inner`. -/
def occursIn (inner : List Char) : List Char → Bool
  | [] => inner.isEmpty
  | c :: rest => inner.isPrefixOf (c :: rest) || occursIn inner rest

/-- One text contains another when some suffix of it begins with the other. -/
def contains (outer inner : String) : Bool := occursIn inner.toList outer.toList

/-- Two settings with the same value. -/
def duplicateFault? (pair : (Field × String) × (Field × String)) : Option DelimiterFault :=
  if pair.1.2 = pair.2.2 then some (.duplicate pair.1.1.title pair.2.1.title pair.1.2) else none

/-- Two settings of which one value contains the other. -/
def overlapFault? (pair : (Field × String) × (Field × String)) : Option DelimiterFault :=
  if contains pair.1.2 pair.2.2 then
    some (.overlap pair.1.1.title pair.1.2 pair.2.1.title pair.2.2)
  else if contains pair.2.2 pair.1.2 then
    some (.overlap pair.2.1.title pair.2.2 pair.1.1.title pair.1.2)
  else
    none

/-- The settings that are not turned off. -/
def active (d : Delimiters) : List (Field × String) := d.entries.filter fun entry => entry.2 ≠ ""

/-- The first fault of a dialect: of a value, then of an equal pair, then of a nested pair. -/
def fault? (d : Delimiters) : Option DelimiterFault :=
  (d.entries.findSome? fun entry => valueFault? entry.1 entry.2) <|>
  ((orderedPairs d.active).findSome? duplicateFault?) <|>
  ((orderedPairs d.active).findSome? overlapFault?)

/-- A dialect is usable when it has no fault. -/
def isValid (d : Delimiters) : Bool := d.fault?.isNone

end Delimiters
end Stencil
