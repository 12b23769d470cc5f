/-!
# JSON text

`Json` is the part of JSON that listings need: strings, truth values, arrays and objects whose
members keep their order.  `Json.compact` writes a value without any blanks; `Json.pretty` gives
every element and member a line of its own, two blanks deeper than the value around it.

In a string the quotation mark, the backslash and the control characters are escaped, the latter by
their short form if they have one; nothing else is.
-/

namespace TapTracker.Text

/-- A JSON value. -/
inductive Json
  | string (s : String)
  | bool (b : Bool)
  | array (items : List Json)
  | object (members : List (String × Json))

namespace Json

/-! ### Strings -/

/-- The digit of a number below 16. -/
def hexDigit (n : Nat) : Char :=
  if n < 10 then Char.ofNat (n + '0'.toNat) else Char.ofNat (n - 10 + 'a'.toNat)

/-- A character as it stands in a JSON string. -/
def escapeChar (c : Char) : List Char :=
  match c with
  | '"' => ['\\', '"']
  | '\\' => ['\\', '\\']
  | '\x08' => ['\\', 'b']
  | '\t' => ['\\', 't']
  | '\n' => ['\\', 'n']
  | '\x0c' => ['\\', 'f']
  | '\r' => ['\\', 'r']
  | c =>
    if c.toNat < 0x20 then ['\\', 'u', '0', '0', hexDigit (c.toNat / 16), hexDigit (c.toNat % 16)]
    else [c]

/-- A text as a JSON string. -/
def quote (s : String) : List Char :=
  '"' :: s.toList.flatMap escapeChar ++ ['"']

/-- A truth value in words. -/
def boolText (b : Bool) : List Char :=
  if b then ['t', 'r', 'u', 'e'] else ['f', 'a', 'l', 's', 'e']

/-! ### Compact form -/

mutual

/-- The value without blanks. -/
def compactChars : Json → List Char
  | string s => quote s
  | bool b => boolText b
  | array items => '[' :: compactItems items ++ [']']
  | object members => '{' :: compactMembers members ++ ['}']

/-- Elements with commas between them. -/
def compactItems : List Json → List Char
  | [] => []
  | [v] => compactChars v
  | v :: rest => compactChars v ++ ',' :: compactItems rest

/-- Members with commas between them. -/
def compactMembers : List (String × Json) → List Char
  | [] => []
  | [(name, v)] => quote name ++ ':' :: compactChars v
  | (name, v) :: rest => quote name ++ ':' :: compactChars v ++ ',' :: compactMembers rest

end

/-- The compact text of a value. -/
def compact (v : Json) : String := String.ofList v.compactChars

/-! ### Form with one item a line -/

/-- A new line at the given depth. -/
def newline (depth : Nat) : List Char := '\n' :: List.replicate (2 * depth) ' '

mutual

/-- The value at the given depth, one item a line. -/
def prettyChars (depth : Nat) : Json → List Char
  | string s => quote s
  | bool b => boolText b
  | array [] => ['[', ']']
  | array (v :: rest) => '[' :: prettyItems (depth + 1) (v :: rest) ++ newline depth ++ [']']
  | object [] => ['{', '}']
  | object (m :: rest) => '{' :: prettyMembers (depth + 1) (m :: rest) ++ newline depth ++ ['}']

/-- Elements on lines of their own. -/
def prettyItems (depth : Nat) : List Json → List Char
  | [] => []
  | [v] => newline depth ++ prettyChars depth v
  | v :: rest => newline depth ++ prettyChars depth v ++ ',' :: prettyItems depth rest

/-- Members on lines of their own. -/
def prettyMembers (depth : Nat) : List (String × Json) → List Char
  | [] => []
  | [(name, v)] => newline depth ++ quote name ++ ':' :: ' ' :: prettyChars depth v
  | (name, v) :: rest =>
    newline depth ++ quote name ++ ':' :: ' ' :: prettyChars depth v ++
      ',' :: prettyMembers depth rest

end

/-- The text of a value with one item a line. -/
def pretty (v : Json) : String := String.ofList (v.prettyChars 0)

end Json

end TapTracker.Text
