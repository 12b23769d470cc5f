import TapTracker.Pattern.Reader.Basic

/-!
# Escapes in patterns

A backslash and what follows it stand for one element of a pattern, inside brackets as well as
outside of them.  `readEscape` reads what follows the backslash.
-/

namespace TapTracker.Pattern.Reader

/-- The characters with a meaning of their own, which stand for themselves after a backslash. -/
def metaCharacters : List Char :=
  ['\\', '.', '+', '*', '?', '(', ')', '|', '[', ']', '{', '}', '^', '$', '#', '&', '-', '~']

/-- A backslash may stand before the character without changing it. -/
def escapable (c : Char) : Bool :=
  metaCharacters.contains c ||
    (c.toNat < 128 && !c.isAlphanum && c != '<' && c != '>')

/-- The text before `sep` and the text after it. -/
def splitAt? (sep : List Char) : List Char → Option (List Char × List Char)
  | [] => none
  | c :: rest =>
    if sep.isPrefixOf (c :: rest) then some ([], (c :: rest).drop sep.length)
    else (splitAt? sep rest).map fun (before, after) => (c :: before, after)

/-- The query between the braces of a property, negated once more by `!=`. -/
def propertyQuery (negated : Bool) (name : List Char) : Primitive :=
  let valued := fun (before, after) => PropertyQuery.valued (.ofList before) (.ofList after)
  match splitAt? ['!', '='] name with
  | some parts => .property (valued parts) (!negated)
  | none =>
    match (splitAt? [':'] name).or (splitAt? ['='] name) with
    | some parts => .property (valued parts) negated
    | none => .property (.named (.ofList name)) negated

/-- The property after `\p` or `\P`: one letter, or a query in braces. -/
def readProperty (verbose negated : Bool) (cs : List Char) :
    Except SyntaxError (Primitive × List Char) :=
  match skipIf verbose cs with
  | [] => .error .escapeAtEnd
  | '{' :: inner =>
    match spaced (· != '}') verbose (skipIf verbose inner) with
    | (_, []) => .error .escapeAtEnd
    | (name, _ :: rest) => .ok (propertyQuery negated name, rest)
  | '\\' :: _ => .error .propertyInvalid
  | c :: rest => .ok (.property (.named (String.singleton c)) negated, skipIf verbose rest)

/-- The characters in the name of a special word boundary. -/
def isBoundaryChar (c : Char) : Bool :=
  c.isAlpha || c == '-'

/-- The assertion after `\b`.  Braces that do not begin with a letter belong to a repetition. -/
def readBoundary (verbose : Bool) (cs : List Char) : Except SyntaxError (Primitive × List Char) :=
  match cs with
  | '{' :: inner =>
    match skipIf verbose inner with
    | [] => .error .boundaryAtEnd
    | c :: more =>
      if isBoundaryChar c then
        let (name, rest) := spaced isBoundaryChar verbose (c :: more)
        match rest with
        | '}' :: rest =>
          match String.ofList name with
          | "start" => .ok (.assertion .wordStart, rest)
          | "end" => .ok (.assertion .wordEnd, rest)
          | "start-half" => .ok (.assertion .wordStartHalf, rest)
          | "end-half" => .ok (.assertion .wordEndHalf, rest)
          | _ => .error .boundaryUnknown
        | _ => .error .boundaryUnclosed
      else .ok (.assertion .wordBoundary, cs)
  | _ => .ok (.assertion .wordBoundary, cs)

/-- The element that a letter after a backslash stands for by itself. -/
def escapedLetter? : Char → Option Primitive
  | 'd' => some (.short .digit false)
  | 's' => some (.short .blank false)
  | 'w' => some (.short .word false)
  | 'D' => some (.short .digit true)
  | 'S' => some (.short .blank true)
  | 'W' => some (.short .word true)
  | 'a' => some (.literal '\x07' false)
  | 'f' => some (.literal '\x0c' false)
  | 't' => some (.literal '\t' false)
  | 'n' => some (.literal '\n' false)
  | 'r' => some (.literal '\r' false)
  | 'v' => some (.literal '\x0b' false)
  | 'A' => some (.assertion .textStart)
  | 'z' => some (.assertion .textEnd)
  | 'B' => some (.assertion .notWordBoundary)
  | '<' => some (.assertion .wordStart)
  | '>' => some (.assertion .wordEnd)
  | _ => none

/-- The element after a backslash. -/
def readEscape (verbose : Bool) : List Char → Except SyntaxError (Primitive × List Char)
  | [] => .error .escapeAtEnd
  | c :: rest =>
    if escapable c then .ok (.literal c false, rest)
    else if c.isDigit then .error .backreference
    else
      match c with
      | 'x' => readHex verbose 2 rest
      | 'u' => readHex verbose 4 rest
      | 'U' => readHex verbose 8 rest
      | 'p' => readProperty verbose false rest
      | 'P' => readProperty verbose true rest
      | 'b' => readBoundary verbose rest
      | c =>
        match escapedLetter? c with
        | some p => .ok (p, rest)
        | none => .error .escapeUnknown

end TapTracker.Pattern.Reader
