import TapTracker.Pattern.Regex
import TapTracker.Pattern.Syntax
import TapTracker.Text.BinaryProperty
import TapTracker.Text.Blank
import TapTracker.Text.Category
import TapTracker.Text.Script

/-!
# The meaning of patterns

A syntax tree becomes a regular expression under the flags in force, its mode.  Flags that an item
sets hold to the end of the group around it, across its alternatives; flags that a group sets hold
inside it.

Letters match without regard to case where the flag `i` is on.  Where the flag `u` is off, classes
know ASCII only and whatever could match a byte that is no character is refused.
-/

namespace TapTracker.Pattern

open TapTracker.Text

/-! ### Modes -/

/-- The flags that decide what an element matches. -/
structure Mode where
  caseInsensitive : Bool
  multiLine : Bool
  dotMatchesNewLine : Bool
  unicode : Bool
  crlf : Bool
deriving DecidableEq, Repr

namespace Mode

/-- The mode at the start of a pattern that is matched without regard to case. -/
def initial : Mode := ⟨true, false, false, true, false⟩

/-- The mode after a change. -/
def apply (mode : Mode) (change : FlagChange) : Mode where
  caseInsensitive := (change.set? .caseInsensitive).getD mode.caseInsensitive
  multiLine := (change.set? .multiLine).getD mode.multiLine
  dotMatchesNewLine := (change.set? .dotMatchesNewLine).getD mode.dotMatchesNewLine
  unicode := (change.set? .unicode).getD mode.unicode
  crlf := (change.set? .crlf).getD mode.crlf

/-- The characters that count as the same. -/
def folding (mode : Mode) : Folding :=
  if mode.caseInsensitive then
    if mode.unicode then .simple else .ascii
  else .exact

end Mode

/-! ### Named sets -/

/-- The name of a property as it is compared: lower case, without blanks, dashes and underscores,
without the word `is` before it, and without characters outside ASCII. -/
def symbolicName (name : String) : String :=
  let strip := fun (cs : List Char) =>
    (cs.filter fun c => c != ' ' && c != '_' && c != '-' && c.toNat < 128).map lowerLetter
  match name.toList with
  | a :: b :: rest =>
    if lowerLetter a = 'i' ∧ lowerLetter b = 's' then
      let short := strip rest
      String.ofList (if short = ['c'] then ['i', 's', 'c'] else short)
    else String.ofList (strip (a :: b :: rest))
  | cs => String.ofList (strip cs)
where
  /-- The small form of an ASCII letter. -/
  lowerLetter (c : Char) : Char := if c.isUpper then Char.ofNat (c.toNat + 32) else c

/-- The category with the given name as a class. -/
def categoryClass? (name : String) : Option CharClass :=
  match name with
  | "any" => some .any
  | "ascii" => some (.range '\x00' '\x7f')
  | name => (categoryTables? name).map fun tables => .unionAll (tables.map .table)

/-- The script with the given name as a class. -/
def scriptClass? (name : String) : Option CharClass :=
  (NamedTable.find? scripts name).map .table

/-- The class that a property stands for.  A bare name is first sought among the properties, then
among the categories and then among the scripts. -/
def propertyClass? : PropertyQuery → Option CharClass
  | .named name =>
    let name := symbolicName name
    ((NamedTable.find? binaryProperties name).map .table).or
      ((categoryClass? name).or (scriptClass? name))
  | .valued name value =>
    let value := symbolicName value
    match symbolicName name with
    | "gc" | "generalcategory" => categoryClass? value
    | "sc" | "script" => scriptClass? value
    | _ => none

/-- The union of closed ranges. -/
def rangesClass (ranges : List (Char × Char)) : CharClass :=
  .unionAll (ranges.map fun (lo, hi) => .range lo hi)

/-- The class of a name between `[:` and `:]`, which knows ASCII only. -/
def NamedClass.toClass : NamedClass → CharClass
  | alnum => rangesClass [('0', '9'), ('A', 'Z'), ('a', 'z')]
  | alpha => rangesClass [('A', 'Z'), ('a', 'z')]
  | ascii => rangesClass [('\x00', '\x7f')]
  | blank => rangesClass [('\t', '\t'), (' ', ' ')]
  | cntrl => rangesClass [('\x00', '\x1f'), ('\x7f', '\x7f')]
  | digit => rangesClass [('0', '9')]
  | graph => rangesClass [('!', '~')]
  | lower => rangesClass [('a', 'z')]
  | print => rangesClass [(' ', '~')]
  | punct => rangesClass [('!', '/'), (':', '@'), ('[', '`'), ('{', '~')]
  | space => rangesClass [('\t', '\r'), (' ', ' ')]
  | upper => rangesClass [('A', 'Z')]
  | word => rangesClass [('0', '9'), ('A', 'Z'), ('_', '_'), ('a', 'z')]
  | xdigit => rangesClass [('0', '9'), ('A', 'F'), ('a', 'f')]

/-- The ASCII part of a short class. -/
def ShortClass.asciiClass : ShortClass → CharClass
  | digit => NamedClass.digit.toClass
  | blank => NamedClass.space.toClass
  | word => NamedClass.word.toClass

/-- The tables of the letters, marks, digits, connectors and joiners that make up words. -/
def wordTables : List RangeTable :=
  alphabeticTable :: binaryProperty "joincontrol" ::
    ["m", "nd", "pc"].flatMap fun name => (categoryTables? name).getD []

/-- A short class in full. -/
def ShortClass.unicodeClass : ShortClass → CharClass
  | digit => (categoryClass? "nd").getD .empty
  | blank => .table ⟨blankRanges.toArray⟩
  | word => .union NamedClass.word.toClass (.unionAll (wordTables.map .table))

/-- The characters that words are made of. -/
def wordClass (mode : Mode) : CharClass :=
  if mode.unicode then ShortClass.word.unicodeClass else ShortClass.word.asciiClass

/-! ### Elements -/

/-- The class, closed under case where the mode asks for it and then negated.  Without Unicode the
complement would hold bytes that are no characters. -/
def foldAndNegate (mode : Mode) (negated : Bool) (set : CharClass) :
    Except SyntaxError CharClass :=
  if negated && !mode.unicode then .error .notText
  else
    let closed := if mode.caseInsensitive then .closure mode.folding set else set
    .ok (.negateIf negated closed)

/-- The character that a literal stands for.  Without Unicode a byte above the ASCII range is no
character. -/
def literalChar (mode : Mode) (c : Char) (byte : Bool) : Except SyntaxError Char :=
  if byte && !mode.unicode && 0x7F < c.toNat then .error .notText else .ok c

/-- The short class in a mode. -/
def shortClass (mode : Mode) (kind : ShortClass) (negated : Bool) :
    Except SyntaxError CharClass :=
  if mode.unicode then .ok (.negateIf negated kind.unicodeClass)
  else if negated then .error .notText
  else .ok kind.asciiClass

/-- The class of a property in a mode. -/
def propertyClass (mode : Mode) (query : PropertyQuery) (negated : Bool) :
    Except SyntaxError CharClass :=
  if mode.unicode then
    match propertyClass? query with
    | none => .error .propertyUnknown
    | some set => foldAndNegate mode negated set
  else .error .unicodeRequired

/-- A character between brackets, which without Unicode has to be an ASCII character. -/
def memberChar (mode : Mode) (c : Char) (byte : Bool) : Except SyntaxError Char := do
  let c ← literalChar mode c byte
  if mode.unicode || c.toNat < 128 then .ok c else .error .unicodeRequired

/-- The class with both sides of an operation closed under case. -/
def combine (mode : Mode) (op : SetOperation) (left right : CharClass) : CharClass :=
  let close := fun set => if mode.caseInsensitive then .closure mode.folding set else set
  match op with
  | .intersection => .inter (close left) (close right)
  | .difference => .diff (close left) (close right)
  | .symmetricDifference => .symmDiff (close left) (close right)

mutual

/-- The class that a set in brackets stands for. -/
def ClassSet.toClass (mode : Mode) : ClassSet → Except SyntaxError CharClass
  | .empty => .ok .empty
  | .literal c byte => do
    let c ← memberChar mode c byte
    .ok (.single .exact c)
  | .range first last firstByte lastByte => do
    let first ← memberChar mode first firstByte
    let last ← memberChar mode last lastByte
    .ok (.range first last)
  | .named kind negated => foldAndNegate mode negated kind.toClass
  | .short kind negated => shortClass mode kind negated
  | .property query negated => propertyClass mode query negated
  | .bracketed negated set => do
    let set ← set.toClass mode
    foldAndNegate mode negated set
  | .union items => do
    let sets ← ClassSet.toClasses mode items
    .ok (.unionAll sets)
  | .binary op left right => do
    let left ← left.toClass mode
    let right ← right.toClass mode
    .ok (combine mode op left right)

/-- The classes that a list of sets stands for. -/
def ClassSet.toClasses (mode : Mode) : List ClassSet → Except SyntaxError (List CharClass)
  | [] => .ok []
  | item :: rest => do
    let set ← item.toClass mode
    let sets ← ClassSet.toClasses mode rest
    .ok (set :: sets)

end

/-- The condition that an assertion stands for. -/
def Assertion.toLook (mode : Mode) : Assertion → Look
  | lineStart => if mode.multiLine then .lineStart mode.crlf else .textStart
  | lineEnd => if mode.multiLine then .lineEnd mode.crlf else .textEnd
  | textStart => .textStart
  | textEnd => .textEnd
  | wordBoundary => .word .boundary (wordClass mode)
  | notWordBoundary => .word .inside (wordClass mode)
  | wordStart => .word .start (wordClass mode)
  | wordEnd => .word .finish (wordClass mode)
  | wordStartHalf => .word .startHalf (wordClass mode)
  | wordEndHalf => .word .finishHalf (wordClass mode)

/-- The class of the dot: every character, or every one that does not end a line. -/
def dotClass (mode : Mode) : Except SyntaxError CharClass :=
  if !mode.unicode then .error .notText
  else if mode.dotMatchesNewLine then .ok .any
  else if mode.crlf then
    .ok (.complement (.union (.single .exact '\r') (.single .exact '\n')))
  else .ok (.complement (.single .exact '\n'))

/-- The expression of a single element. -/
def Primitive.toRegex (mode : Mode) : Primitive → Except SyntaxError Regex
  | .literal c byte => do
    let c ← literalChar mode c byte
    .ok (.chars (.single mode.folding c))
  | .dot => do
    let set ← dotClass mode
    .ok (.chars set)
  | .assertion a => .ok (.look (a.toLook mode))
  | .short kind negated => do
    let set ← shortClass mode kind negated
    .ok (.chars set)
  | .property query negated => do
    let set ← propertyClass mode query negated
    .ok (.chars set)

/-! ### Trees -/

/-- The repetition of an expression.  Repeating what spans no characters more than once adds
nothing. -/
def Regex.repeat (min : Nat) (max : Option Nat) (body : Regex) : Regex :=
  if body.spansNoChars then .repeated (Nat.min min 1) (some (max.elim 1 (Nat.min 1))) body
  else .repeated min max body

mutual

/-- The expression of a tree in the mode before it, and the mode after it. -/
def Ast.toRegex : Ast → Mode → Except SyntaxError (Regex × Mode)
  | .empty, mode => .ok (.empty, mode)
  | .flags change, mode => .ok (.empty, mode.apply change)
  | .primitive p, mode => do
    let r ← p.toRegex mode
    .ok (r, mode)
  | .bracketed negated set, mode => do
    let set ← set.toClass mode
    let set ← foldAndNegate mode negated set
    .ok (.chars set, mode)
  | .repetition min max body, mode => do
    let (r, mode) ← body.toRegex mode
    .ok (r.repeat min max, mode)
  | .group .capturing body, mode => do
    let (r, _) ← body.toRegex mode
    .ok (.group r, mode)
  | .group (.plain change) body, mode => do
    let (r, _) ← body.toRegex (mode.apply change)
    .ok (r, mode)
  | .concat items, mode => do
    let (rs, mode) ← Ast.toRegexes items mode
    .ok (.catAll rs, mode)
  | .alternation branches, mode => do
    let (rs, mode) ← Ast.toRegexes branches mode
    .ok (.altAll rs, mode)

/-- The expressions of trees one after the other, each in the mode that the one before leaves. -/
def Ast.toRegexes : List Ast → Mode → Except SyntaxError (List Regex × Mode)
  | [], mode => .ok ([], mode)
  | item :: rest, mode => do
    let (r, mode) ← item.toRegex mode
    let (rs, mode) ← Ast.toRegexes rest mode
    .ok (r :: rs, mode)

end

end TapTracker.Pattern
