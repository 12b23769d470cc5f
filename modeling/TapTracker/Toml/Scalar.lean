import TapTracker.Toml.Text

/-!
# Numbers, truth values and dates

A scalar without quotation marks is a word up to the next blank, comma, bracket or comment.
`Value.ofWord` tells what the word is.  Digits may be grouped by single underscores that stand
between two digits; a decimal number has no zero before other digits.
-/

namespace TapTracker.Toml

/-! ### Integers -/

/-- The digits of a word in which single underscores stand between digits. -/
def ungroup (isDigit : Char → Bool) : (afterDigit : Bool) → List Char → Option (List Char)
  | afterDigit, [] => if afterDigit then some [] else none
  | afterDigit, c :: rest =>
    if isDigit c then (ungroup isDigit true rest).map (c :: ·)
    else if c = '_' ∧ afterDigit then ungroup isDigit false rest
    else none

/-- The value of digits in a base. -/
def digitsValue (base : Nat) (digits : List Char) : Nat :=
  digits.foldl (fun n c => n * base + (hexValue? c).getD 0) 0

/-- The number of a word of grouped digits in a base up to 16. -/
def natural? (base : Nat) (cs : List Char) : Option Nat :=
  (ungroup (fun c => (hexValue? c).any (· < base)) false cs).map (digitsValue base)

/-- A zero stands before other digits. -/
def hasLeadingZero : List Char → Bool
  | '0' :: _ :: _ => true
  | _ => false

/-- The number of a word of grouped decimal digits. -/
def decimal? (cs : List Char) : Option Nat :=
  if hasLeadingZero cs then none else natural? 10 cs

/-- A word without its sign, and the sign. -/
def splitSign : List Char → Option Char × List Char
  | '+' :: rest => (some '+', rest)
  | '-' :: rest => (some '-', rest)
  | cs => (none, cs)

/-- The integer that a word stands for. -/
def integer? (cs : List Char) : Option Int :=
  match cs with
  | '0' :: 'x' :: digits => (natural? 16 digits).map Int.ofNat
  | '0' :: 'o' :: digits => (natural? 8 digits).map Int.ofNat
  | '0' :: 'b' :: digits => (natural? 2 digits).map Int.ofNat
  | cs =>
    match splitSign cs with
    | (some '-', digits) => (decimal? digits).map fun n => -Int.ofNat n
    | (_, digits) => (decimal? digits).map Int.ofNat

/-! ### Floats -/

/-- Grouped decimal digits. -/
def isDigits (cs : List Char) : Bool :=
  (natural? 10 cs).isSome

/-- A digit or an underscore. -/
def isDigitOrGroup (c : Char) : Bool := c.isDigit || c == '_'

/-- The word is an exponent with its letter. -/
def isExponent : List Char → Bool
  | c :: rest => (c == 'e' || c == 'E') && isDigits (splitSign rest).2
  | [] => false

/-- The word is a float: a whole part, and a fraction or an exponent or both. -/
def isFloat (cs : List Char) : Bool :=
  let body := (splitSign cs).2
  if body = ['i', 'n', 'f'] ∨ body = ['n', 'a', 'n'] then true
  else
    let whole := body.takeWhile isDigitOrGroup
    isDigits whole && !hasLeadingZero whole &&
      match body.dropWhile isDigitOrGroup with
      | '.' :: rest =>
        isDigits (rest.takeWhile isDigitOrGroup) &&
          match rest.dropWhile isDigitOrGroup with
          | [] => true
          | rest => isExponent rest
      | rest => isExponent rest

/-! ### Dates and times -/

/-- The number of exactly `count` digits at the head. -/
def readNumber : (count acc : Nat) → List Char → Option (Nat × List Char)
  | 0, acc, rest => some (acc, rest)
  | _ + 1, _, [] => none
  | count + 1, acc, c :: rest =>
    if c.isDigit then readNumber count (acc * 10 + (c.toNat - '0'.toNat)) rest else none

/-- The number of days in a month. -/
def daysInMonth (year month : Nat) : Nat :=
  if month = 2 then
    if year % 4 = 0 ∧ (year % 100 ≠ 0 ∨ year % 400 = 0) then 29 else 28
  else if month = 4 ∨ month = 6 ∨ month = 9 ∨ month = 11 then 30
  else 31

/-- The text after the date at its head. -/
def skipDate? (cs : List Char) : Option (List Char) := do
  let (year, '-' :: cs) ← readNumber 4 0 cs | none
  let (month, '-' :: cs) ← readNumber 2 0 cs | none
  let (day, cs) ← readNumber 2 0 cs
  if 1 ≤ month ∧ month ≤ 12 ∧ 1 ≤ day ∧ day ≤ daysInMonth year month then some cs else none

/-- The text after the fraction of a second at its head. -/
def skipFraction? : List Char → Option (List Char)
  | '.' :: cs =>
    if (cs.takeWhile Char.isDigit).isEmpty then none else some (cs.dropWhile Char.isDigit)
  | cs => some cs

/-- The text after the time at its head; the seconds may be missing. -/
def skipTime? (cs : List Char) : Option (List Char) := do
  let (hour, ':' :: cs) ← readNumber 2 0 cs | none
  let (minute, cs) ← readNumber 2 0 cs
  if 24 ≤ hour ∨ 60 ≤ minute then none
  else
    match cs with
    | ':' :: cs => do
      let (second, cs) ← readNumber 2 0 cs
      if 60 < second then none else skipFraction? cs
    | cs => some cs

/-- The text is the offset of a time zone, or empty. -/
def isOffset : List Char → Bool
  | [] => true
  | ['Z'] => true
  | ['z'] => true
  | c :: cs =>
    (c == '+' || c == '-') &&
      match readNumber 2 0 cs with
      | some (hour, ':' :: cs) =>
        match readNumber 2 0 cs with
        | some (minute, []) => hour < 24 && minute < 60
        | _ => false
      | _ => false

/-- The word is a date, a time, or a date and a time. -/
def isDatetime (cs : List Char) : Bool :=
  match skipDate? cs with
  | some [] => true
  | some (c :: rest) =>
    (c == 'T' || c == 't' || c == ' ') && (skipTime? rest).any isOffset
  | none => skipTime? cs == some []

/-! ### Words -/

/-- A character that ends a word. -/
def endsWord (c : Char) : Bool :=
  c == ' ' || c == '\t' || c == '\n' || c == '\r' || c == '#' || c == ',' || c == ']' || c == '}'

/-- The word at the head and the text after it.  A date and a time may stand apart by one blank. -/
def readWord (cs : List Char) : List Char × List Char :=
  let word := cs.takeWhile (!endsWord ·)
  match skipDate? word, cs.dropWhile (!endsWord ·) with
  | some [], ' ' :: d :: rest =>
    if d.isDigit then
      (word ++ ' ' :: (d :: rest).takeWhile (!endsWord ·), (d :: rest).dropWhile (!endsWord ·))
    else (word, ' ' :: d :: rest)
  | _, rest => (word, rest)

/-- The value that a word stands for. -/
def Value.ofWord (cs : List Char) : Except Error Value :=
  if cs = ['t', 'r', 'u', 'e'] then .ok (.boolean true)
  else if cs = ['f', 'a', 'l', 's', 'e'] then .ok (.boolean false)
  else
    match integer? cs with
    | some n => .ok (.integer n)
    | none =>
      if isFloat cs then .ok (.float (String.ofList cs))
      else if isDatetime cs then .ok (.datetime (String.ofList cs))
      else if cs.isEmpty then .error .missingValue
      else .error (.invalidScalar (String.ofList cs))

end TapTracker.Toml
