/-!
# Decimal numbers

`readDecimal` reads a natural number that is written in decimal digits and nothing else.  Zeros in
front of other digits change nothing.
-/

namespace TapTracker.Text

/-- The value of a decimal digit. -/
def digitValue (c : Char) : Nat := c.toNat - '0'.toNat

/-- The number that decimal digits denote. -/
def decimalValue (cs : List Char) : Nat :=
  cs.foldl (fun n c => 10 * n + digitValue c) 0

/-- The number that a text of decimal digits denotes. -/
def readDecimal (cs : List Char) : Option Nat :=
  if cs ≠ [] ∧ cs.all Char.isDigit then some (decimalValue cs) else none

end TapTracker.Text
