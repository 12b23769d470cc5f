import TapTracker.Pattern.Syntax
import TapTracker.Text.Blank

/-!
# Ignorable text and numbers in patterns

A pattern is verbose where the flag `x` is set.  `skipIf` drops what a verbose pattern ignores at
the head of a text, and `spaced` takes a stretch of characters that ignorable text may interrupt.
On them stand the two kinds of numbers in a pattern: the counts of a repetition (`readCount`) and
the code points of characters (`readHex`).
-/

namespace TapTracker.Pattern.Reader

open TapTracker.Text

/-! ### Ignorable text

In a verbose pattern blanks are ignored, and so is everything from `#` to the end of its line. -/

/-- The text after the blanks and comments at its head. -/
def skip : (inComment : Bool) → List Char → List Char
  | _, [] => []
  | true, c :: rest => skip (c != '\n') rest
  | false, c :: rest =>
    if isBlank c then skip false rest
    else if c = '#' then skip true rest
    else c :: rest

/-- The text after what is ignored at its head. -/
def skipIf (verbose : Bool) (cs : List Char) : List Char :=
  if verbose then skip false cs else cs

/-- The characters at the head that satisfy `p`, where ignorable text may follow each of them. -/
def takeSpaced (p : Char → Bool) (verbose : Bool) :
    (fuel : Nat) → List Char → List Char × List Char
  | fuel + 1, c :: rest =>
    if p c then
      let (taken, rest) := takeSpaced p verbose fuel (skipIf verbose rest)
      (c :: taken, rest)
    else ([], c :: rest)
  | _, cs => ([], cs)

/-- `takeSpaced` to its end. -/
def spaced (p : Char → Bool) (verbose : Bool) (cs : List Char) : List Char × List Char :=
  takeSpaced p verbose cs.length cs

/-- The character that follows the head of a text, not counting blanks and the sign that opens a
comment; without any such character, whatever follows the head. -/
def peek (verbose : Bool) : List Char → Option Char
  | [] => none
  | _ :: rest =>
    if verbose then
      let afterBlanks := rest.dropWhile isBlank
      let afterSign := match afterBlanks with
        | '#' :: more => more.dropWhile isBlank
        | cs => cs
      afterSign.head?.or rest.head?
    else rest.head?

/-! ### Numbers -/

/-- The value of a hexadecimal digit. -/
def hexValue? (c : Char) : Option Nat :=
  if '0' ≤ c ∧ c ≤ '9' then some (c.toNat - '0'.toNat)
  else if 'a' ≤ c ∧ c ≤ 'f' then some (c.toNat - 'a'.toNat + 10)
  else if 'A' ≤ c ∧ c ≤ 'F' then some (c.toNat - 'A'.toNat + 10)
  else none

/-- The value of a list of digits in the given base. -/
def numeral (base : Nat) (digits : List Nat) : Nat :=
  digits.foldl (fun n d => n * base + d) 0

/-- The character with a given code point. -/
def scalar (n : Nat) : Except SyntaxError Char :=
  if n.isValidChar then .ok (Char.ofNat n) else .error .hexNotScalar

/-- A count in a repetition: decimal digits, with blanks around them, below 2³². -/
def readCount (verbose : Bool) (cs : List Char) : Except SyntaxError (Nat × List Char) :=
  let (digits, rest) := spaced Char.isDigit verbose (cs.dropWhile isBlank)
  let n := numeral 10 (digits.map fun c => c.toNat - '0'.toNat)
  if digits.isEmpty then .error .countMissing
  else if UInt32.size ≤ n then .error .countTooLarge
  else .ok (n, rest.dropWhile isBlank)

/-- Exactly `count` hexadecimal digits. -/
def readHexDigits (verbose : Bool) :
    (count acc : Nat) → List Char → Except SyntaxError (Nat × List Char)
  | 0, acc, cs => .ok (acc, cs)
  | _ + 1, _, [] => .error .escapeAtEnd
  | count + 1, acc, c :: rest =>
    match hexValue? c with
    | none => .error .hexDigitInvalid
    | some d => readHexDigits verbose count (acc * 16 + d) (skipIf verbose rest)

/-- The character after `\x`, `\u` or `\U`: so many digits, or any number of them in braces. -/
def readHex (verbose : Bool) (count : Nat) (cs : List Char) :
    Except SyntaxError (Primitive × List Char) :=
  match skipIf verbose cs with
  | [] => .error .escapeAtEnd
  | '{' :: inner => do
    let (digits, rest) := spaced (· != '}') verbose (skipIf verbose inner)
    if digits.any fun c => (hexValue? c).isNone then .error .hexDigitInvalid
    else if rest.isEmpty then .error .escapeAtEnd
    else if digits.isEmpty then .error .hexMissing
    else
      let c ← scalar (numeral 16 (digits.filterMap hexValue?))
      .ok (.literal c false, skipIf verbose (rest.drop 1))
  | digits => do
    let (n, rest) ← readHexDigits verbose count 0 digits
    let c ← scalar n
    .ok (.literal c (count == 2), rest)

end TapTracker.Pattern.Reader
