import TapTracker.Toml.Value

/-!
# Blanks, comments, strings and keys

The small parts of a TOML document.  A reader takes the text from its place on and returns what it
has read together with the rest.

Strings are read in their four forms.  In a string over several lines the quotation marks that close
it may follow up to two that belong to it, and a backslash at the end of a line removes the blanks
and line ends after it.
-/

namespace TapTracker.Toml

/-! ### Blanks and comments -/

/-- A blank within a line. -/
def isSpace (c : Char) : Bool := c == ' ' || c == '\t'

/-- A character that may stand in a comment and in a string of one line. -/
def isPlain (c : Char) : Bool :=
  c == '\t' || (0x20 ≤ c.toNat && c.toNat != 0x7F)

/-- The text after the blanks at its head. -/
def skipSpace (cs : List Char) : List Char := cs.dropWhile isSpace

/-- The text after the line end at its head, if there is one. -/
def lineEnd? : List Char → Option (List Char)
  | '\n' :: rest => some rest
  | '\r' :: '\n' :: rest => some rest
  | _ => none

/-- The text after a comment whose sign has been read, from the end of its line on. -/
def skipComment : List Char → Except Error (List Char)
  | [] => .ok []
  | '\n' :: rest => .ok ('\n' :: rest)
  | '\r' :: '\n' :: rest => .ok ('\r' :: '\n' :: rest)
  | c :: rest => if isPlain c then skipComment rest else .error .controlCharacter

/-- The text after the blanks, comments and line ends at its head. -/
def skipGap : (inComment : Bool) → List Char → Except Error (List Char)
  | _, [] => .ok []
  | _, '\n' :: rest => skipGap false rest
  | _, '\r' :: '\n' :: rest => skipGap false rest
  | true, c :: rest => if isPlain c then skipGap true rest else .error .controlCharacter
  | false, c :: rest =>
    if isSpace c then skipGap false rest
    else if c = '#' then skipGap true rest
    else .ok (c :: rest)

/-- The text after the end of a line, with blanks and a comment before it. -/
def readLineEnd (cs : List Char) : Except Error (List Char) := do
  let rest ← match skipSpace cs with
    | '#' :: rest => skipComment rest
    | rest => .ok rest
  match rest with
  | [] => .ok []
  | rest =>
    match lineEnd? rest with
    | some rest => .ok rest
    | none => .error .missingLineEnd

/-! ### Escapes -/

/-- The character that a letter after a backslash stands for. -/
def escapedLetter? : Char → Option Char
  | 'b' => some '\x08'
  | 't' => some '\t'
  | 'n' => some '\n'
  | 'f' => some '\x0c'
  | 'r' => some '\r'
  | 'e' => some '\x1b'
  | '"' => some '"'
  | '\\' => some '\\'
  | _ => none

/-- The value of a hexadecimal digit. -/
def hexValue? (c : Char) : Option Nat :=
  if '0' ≤ c ∧ c ≤ '9' then some (c.toNat - '0'.toNat)
  else if 'a' ≤ c ∧ c ≤ 'f' then some (c.toNat - 'a'.toNat + 10)
  else if 'A' ≤ c ∧ c ≤ 'F' then some (c.toNat - 'A'.toNat + 10)
  else none

/-- The character whose code point has exactly `count` hexadecimal digits at the head. -/
def readScalar : (count acc : Nat) → List Char → Except Error (Char × List Char)
  | 0, acc, rest => if acc.isValidChar then .ok (Char.ofNat acc, rest) else .error .invalidEscape
  | _ + 1, _, [] => .error .invalidEscape
  | count + 1, acc, c :: rest =>
    match hexValue? c with
    | some d => readScalar count (acc * 16 + d) rest
    | none => .error .invalidEscape

/-- The character after a backslash. -/
def readEscape : List Char → Except Error (Char × List Char)
  | [] => .error .invalidEscape
  | 'x' :: rest => readScalar 2 0 rest
  | 'u' :: rest => readScalar 4 0 rest
  | 'U' :: rest => readScalar 8 0 rest
  | c :: rest =>
    match escapedLetter? c with
    | some d => .ok (d, rest)
    | none => .error .invalidEscape

/-! ### Strings of one line -/

/-- A string whose opening quotation mark has been read. -/
def readBasic : (fuel : Nat) → List Char → Except Error (List Char × List Char)
  | _, [] => .error .unclosedString
  | 0, _ => .error .unclosedString
  | _ + 1, '"' :: rest => .ok ([], rest)
  | fuel + 1, '\\' :: rest => do
    let (c, rest) ← readEscape rest
    let (cs, rest) ← readBasic fuel rest
    .ok (c :: cs, rest)
  | fuel + 1, c :: rest =>
    if isPlain c then do
      let (cs, rest) ← readBasic fuel rest
      .ok (c :: cs, rest)
    else .error .controlCharacter

/-- A literal string whose opening apostrophe has been read. -/
def readLiteral : List Char → Except Error (List Char × List Char)
  | [] => .error .unclosedString
  | '\'' :: rest => .ok ([], rest)
  | c :: rest =>
    if isPlain c then do
      let (cs, rest) ← readLiteral rest
      .ok (c :: cs, rest)
    else .error .controlCharacter

/-! ### Strings of several lines -/

/-- The number of equal characters at the head that can belong to the end of a string of several
lines, and the text after them: three marks that close it after at most two of its own. -/
def closing? (mark : Char) (cs : List Char) : Option (List Char × List Char) :=
  let marks := cs.takeWhile (· == mark)
  if 3 ≤ marks.length then
    let count := min marks.length 5
    some (List.replicate (count - 3) mark, cs.drop count)
  else none

/-- The text after the blanks and line ends that a backslash removes, if a line ends there. -/
def joinedLine? (cs : List Char) : Option (List Char) :=
  (lineEnd? (skipSpace cs)).map (skipJoined ·)
where
  /-- The text after the blanks and line ends at its head. -/
  skipJoined : List Char → List Char
    | '\n' :: rest => skipJoined rest
    | '\r' :: '\n' :: rest => skipJoined rest
    | c :: rest => if isSpace c then skipJoined rest else c :: rest
    | [] => []

/-- A string of several lines after its opening marks; `escapes` tells whether a backslash has a
meaning in it. -/
def readLines (mark : Char) (escapes : Bool) :
    (fuel : Nat) → List Char → Except Error (List Char × List Char)
  | _, [] => .error .unclosedString
  | 0, _ => .error .unclosedString
  | fuel + 1, c :: rest =>
    match closing? mark (c :: rest) with
    | some done => .ok done
    | none =>
      if c = '\\' ∧ escapes then
        match joinedLine? rest with
        | some rest => readLines mark escapes fuel rest
        | none => do
          let (d, rest) ← readEscape rest
          let (cs, rest) ← readLines mark escapes fuel rest
          .ok (d :: cs, rest)
      else
        match lineEnd? (c :: rest) with
        | some after => do
          let (cs, rest) ← readLines mark escapes fuel after
          .ok (if c = '\n' then '\n' :: cs else '\r' :: '\n' :: cs, rest)
        | none =>
          if isPlain c then do
            let (cs, rest) ← readLines mark escapes fuel rest
            .ok (c :: cs, rest)
          else .error .controlCharacter

/-- A string of several lines; a line end right after the opening marks is not part of it. -/
def readBlock (mark : Char) (escapes : Bool) (cs : List Char) :
    Except Error (List Char × List Char) :=
  let cs := (lineEnd? cs).getD cs
  readLines mark escapes (cs.length + 1) cs

/-! ### Keys -/

/-- A character of a key without quotation marks. -/
def isBareKeyChar (c : Char) : Bool :=
  c.isAlphanum || c == '_' || c == '-'

/-- One part of a key. -/
def readKeyPart (cs : List Char) : Except Error (String × List Char) :=
  match cs with
  | '"' :: rest => do
    let (key, rest) ← readBasic (rest.length + 1) rest
    .ok (String.ofList key, rest)
  | '\'' :: rest => do
    let (key, rest) ← readLiteral rest
    .ok (String.ofList key, rest)
  | cs =>
    match cs.takeWhile isBareKeyChar with
    | [] => .error .missingKey
    | key => .ok (String.ofList key, cs.dropWhile isBareKeyChar)

/-- A key: parts with dots between them and blanks around the dots, up to what follows it. -/
def readKey : (fuel : Nat) → List Char → Except Error (List String × List Char)
  | 0, _ => .error .missingKey
  | fuel + 1, cs => do
    let (part, rest) ← readKeyPart (skipSpace cs)
    match skipSpace rest with
    | '.' :: rest =>
      let (parts, rest) ← readKey fuel rest
      .ok (part :: parts, rest)
    | rest => .ok ([part], rest)

end TapTracker.Toml
