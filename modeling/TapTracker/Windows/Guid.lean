/-!
# Globally unique identifiers

A `Guid` is a number of 128 bits.  `Guid.ofText?` reads one that is written with 32 hexadecimal
digits; hyphens may stand anywhere among them, and braces around the whole.
-/

namespace TapTracker.Windows

/-- A globally unique identifier. -/
structure Guid where
  bits : BitVec 128
deriving DecidableEq, Repr

namespace Guid

/-- The value of a hexadecimal digit. -/
def digitValue? (c : Char) : Option Nat :=
  if '0' ≤ c ∧ c ≤ '9' then some (c.toNat - '0'.toNat)
  else if 'a' ≤ c ∧ c ≤ 'f' then some (c.toNat - 'a'.toNat + 10)
  else if 'A' ≤ c ∧ c ≤ 'F' then some (c.toNat - 'A'.toNat + 10)
  else none

/-- The number that hexadecimal digits denote, after the number of the digits before them. -/
def hexValue? : (before : Nat) → List Char → Option Nat
  | n, [] => some n
  | n, c :: rest =>
    match digitValue? c with
    | some d => hexValue? (16 * n + d) rest
    | none => none

/-- The characters without opening braces in front and without closing braces at the end. -/
def withoutBraces (cs : List Char) : List Char :=
  ((cs.dropWhile (· = '{')).reverse.dropWhile (· = '}')).reverse

/-- The digits of a written identifier. -/
def digits (cs : List Char) : List Char :=
  (withoutBraces cs).filter (· ≠ '-')

/-- The identifier that a text denotes. -/
def ofText? (text : String) : Option Guid :=
  let hex := digits text.toList
  if hex.length = 32 then (hexValue? 0 hex).map fun n => ⟨BitVec.ofNat 128 n⟩ else none

/-- The 32 hexadecimal digits of the identifier, in lower case. -/
def hexText (g : Guid) : String :=
  String.ofList ((List.range 32).reverse.map fun i => Nat.digitChar (g.bits.toNat >>> (4 * i) % 16))

end Guid

end TapTracker.Windows
