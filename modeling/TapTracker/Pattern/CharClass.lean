import TapTracker.Text.CaseFolding
import TapTracker.Text.RangeTable

/-!
# Character classes

A character class is a set of characters, written as an expression over single characters, ranges
and tables.  It is never expanded: `CharClass.contains` asks the expression about one character.

Case is handled by `Folding`.  A class closed under a folding holds a character as soon as it
holds one that the folding identifies with it; for single characters that is equality of the
folded forms.
-/

namespace TapTracker.Pattern

open TapTracker.Text

/-! ### Folding -/

/-- Which characters count as the same. -/
inductive Folding
  /-- Every character is distinct. -/
  | exact
  /-- The two cases of an ASCII letter are the same. -/
  | ascii
  /-- Characters that share their simple case folding are the same. -/
  | simple
deriving DecidableEq, Repr

namespace Folding

/-- The ASCII letter of the other case; every other character stands for itself. -/
def otherAsciiCase (c : Char) : Char :=
  if 'A' ≤ c ∧ c ≤ 'Z' then Char.ofNat (c.toNat + 32)
  else if 'a' ≤ c ∧ c ≤ 'z' then Char.ofNat (c.toNat - 32)
  else c

/-- Two characters count as the same. -/
def Identifies : Folding → Char → Char → Prop
  | .exact, c, d => c = d
  | .ascii, c, d => c = d ∨ otherAsciiCase c = d
  | .simple, c, d => foldCase c = foldCase d

instance (f : Folding) (c d : Char) : Decidable (f.Identifies c d) := by
  cases f <;> unfold Identifies <;> infer_instance

/-- The characters that count as the same as `c`. -/
def orbit : Folding → Char → List Char
  | .exact, c => [c]
  | .ascii, c => [c, otherAsciiCase c]
  | .simple, c => foldOrbit c

end Folding

/-! ### Classes -/

/-- An expression for a set of characters. -/
inductive CharClass
  | empty
  | single (folding : Folding) (c : Char)
  | range (first last : Char)
  | table (t : RangeTable)
  | union (a b : CharClass)
  | inter (a b : CharClass)
  | diff (a b : CharClass)
  | symmDiff (a b : CharClass)
  | complement (a : CharClass)
  /-- The characters that the folding identifies with a member of `a`. -/
  | closure (folding : Folding) (a : CharClass)

namespace CharClass

/-- The character belongs to the class. -/
def contains : CharClass → Char → Bool
  | empty, _ => false
  | single folding d, c => decide (folding.Identifies d c)
  | range first last, c => decide (first ≤ c) && decide (c ≤ last)
  | table t, c => t.contains c
  | union a b, c => a.contains c || b.contains c
  | inter a b, c => a.contains c && b.contains c
  | diff a b, c => a.contains c && !b.contains c
  | symmDiff a b, c => a.contains c != b.contains c
  | complement a, c => !a.contains c
  | closure folding a, c => (folding.orbit c).any a.contains

/-- The class is written as one character, and no other character counts as the same. -/
def isLiteral : CharClass → Bool
  | single folding c => (folding.orbit c).all (· == c)
  | _ => false

/-- The class of all characters. -/
def any : CharClass := complement empty

/-- The union of a list of classes. -/
def unionAll (classes : List CharClass) : CharClass :=
  classes.foldr union empty

/-- The class itself, or its complement. -/
def negateIf (negated : Bool) (a : CharClass) : CharClass :=
  if negated then complement a else a

end CharClass

end TapTracker.Pattern
