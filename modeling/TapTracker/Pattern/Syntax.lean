/-!
# Syntax trees of patterns

A pattern is read into a tree that follows its notation closely: flags are still items of their
own, a class keeps its set operations, and a repetition keeps its bounds.  What the tree matches is
decided in `Pattern.Meaning`.

`Ast.depth` counts how deeply the notation is nested; `SyntaxError` lists what can be wrong with a
pattern.
-/

namespace TapTracker.Pattern

/-! ### Errors -/

/-- Why a text is not a pattern. -/
inductive SyntaxError
  | unclosedClass
  | classEscapeInvalid
  | classRangeInvalid
  | classRangeNotLiteral
  | countMissing
  | countTooLarge
  | countUnclosed
  | countsReversed
  | repetitionMissing
  | escapeAtEnd
  | escapeUnknown
  | hexMissing
  | hexDigitInvalid
  | hexNotScalar
  | backreference
  | lookaround
  | boundaryUnclosed
  | boundaryUnknown
  | boundaryAtEnd
  | flagsAtEnd
  | flagUnknown
  | flagRepeated
  | negationRepeated
  | negationDangling
  | groupUnclosed
  | groupUnopened
  | groupNameAtEnd
  | groupNameInvalid
  | groupNameEmpty
  | groupNameRepeated
  | propertyInvalid
  | propertyUnknown
  | tooDeep
  | unicodeRequired
  | notText
deriving DecidableEq, Repr

/-- The error in words. -/
def SyntaxError.message : SyntaxError → String
  | unclosedClass => "unclosed character class"
  | classEscapeInvalid => "invalid escape sequence found in character class"
  | classRangeInvalid => "invalid character class range, the start must be <= the end"
  | classRangeNotLiteral => "invalid range boundary, must be a literal"
  | countMissing => "repetition quantifier expects a valid decimal"
  | countTooLarge => "decimal literal invalid"
  | countUnclosed => "unclosed counted repetition"
  | countsReversed => "invalid repetition count range, the start must be <= the end"
  | repetitionMissing => "repetition operator missing expression"
  | escapeAtEnd => "incomplete escape sequence, reached end of pattern prematurely"
  | escapeUnknown => "unrecognized escape sequence"
  | hexMissing => "hexadecimal literal empty"
  | hexDigitInvalid => "invalid hexadecimal digit"
  | hexNotScalar => "hexadecimal literal is not a Unicode scalar value"
  | backreference => "backreferences are not supported"
  | lookaround => "look-around, including look-ahead and look-behind, is not supported"
  | boundaryUnclosed => "special word boundary assertion is unclosed or has an invalid character"
  | boundaryUnknown => "unrecognized special word boundary assertion"
  | boundaryAtEnd => "found start of special word boundary or repetition without an end"
  | flagsAtEnd => "expected flag but got end of regex"
  | flagUnknown => "unrecognized flag"
  | flagRepeated => "duplicate flag"
  | negationRepeated => "flag negation operator repeated"
  | negationDangling => "dangling flag negation operator"
  | groupUnclosed => "unclosed group"
  | groupUnopened => "unopened group"
  | groupNameAtEnd => "unclosed capture group name"
  | groupNameInvalid => "invalid capture group character"
  | groupNameEmpty => "empty capture group name"
  | groupNameRepeated => "duplicate capture group name"
  | propertyInvalid => "invalid Unicode character class"
  | propertyUnknown => "Unicode property not found"
  | tooDeep => "exceeds the nesting limit"
  | unicodeRequired => "Unicode not allowed here"
  | notText => "pattern can match invalid UTF-8"

/-! ### Flags -/

/-- The letters that change how a pattern is read. -/
inductive Flag
  | caseInsensitive
  | multiLine
  | dotMatchesNewLine
  | swapGreed
  | unicode
  | crlf
  | verbose
deriving DecidableEq, Repr

/-- The flag that a letter stands for. -/
def Flag.ofChar? : Char → Option Flag
  | 'i' => some .caseInsensitive
  | 'm' => some .multiLine
  | 's' => some .dotMatchesNewLine
  | 'U' => some .swapGreed
  | 'u' => some .unicode
  | 'R' => some .crlf
  | 'x' => some .verbose
  | _ => none

/-- The flags that a group or a flag item turns on and off. -/
structure FlagChange where
  on : List Flag
  off : List Flag
deriving DecidableEq, Repr

/-- What the change makes of a flag: `none` leaves it as it is. -/
def FlagChange.set? (change : FlagChange) (flag : Flag) : Option Bool :=
  if flag ∈ change.on then some true
  else if flag ∈ change.off then some false
  else none

/-! ### Elements -/

/-- A condition on a place between two characters. -/
inductive Assertion
  | lineStart
  | lineEnd
  | textStart
  | textEnd
  | wordBoundary
  | notWordBoundary
  | wordStart
  | wordEnd
  | wordStartHalf
  | wordEndHalf
deriving DecidableEq, Repr

/-- The short classes `\d`, `\s` and `\w`. -/
inductive ShortClass
  | digit
  | blank
  | word
deriving DecidableEq, Repr

/-- The classes with a name between `[:` and `:]`. -/
inductive NamedClass
  | alnum | alpha | ascii | blank | cntrl | digit | graph | lower | print | punct | space | upper
  | word | xdigit
deriving DecidableEq, Repr

/-- The named class with the given name. -/
def NamedClass.ofName? : String → Option NamedClass
  | "alnum" => some .alnum
  | "alpha" => some .alpha
  | "ascii" => some .ascii
  | "blank" => some .blank
  | "cntrl" => some .cntrl
  | "digit" => some .digit
  | "graph" => some .graph
  | "lower" => some .lower
  | "print" => some .print
  | "punct" => some .punct
  | "space" => some .space
  | "upper" => some .upper
  | "word" => some .word
  | "xdigit" => some .xdigit
  | _ => none

/-- A Unicode property, by its name or by a name and a value. -/
inductive PropertyQuery
  | named (name : String)
  | valued (name value : String)
deriving DecidableEq, Repr

/-- An element that stands for one place or one character. -/
inductive Primitive
  /-- A character; `byte` tells that it is written as two hexadecimal digits, which stand for a byte
  where Unicode is off. -/
  | literal (c : Char) (byte : Bool)
  | dot
  | assertion (a : Assertion)
  | short (kind : ShortClass) (negated : Bool)
  | property (query : PropertyQuery) (negated : Bool)
deriving DecidableEq, Repr

/-! ### Classes in brackets -/

/-- The operations between two sets in brackets. -/
inductive SetOperation
  | intersection
  | difference
  | symmetricDifference
deriving DecidableEq, Repr

/-- A set as it is written between brackets. -/
inductive ClassSet
  | empty
  | literal (c : Char) (byte : Bool)
  | range (first last : Char) (firstByte lastByte : Bool)
  | named (kind : NamedClass) (negated : Bool)
  | short (kind : ShortClass) (negated : Bool)
  | property (query : PropertyQuery) (negated : Bool)
  | bracketed (negated : Bool) (set : ClassSet)
  | union (items : List ClassSet)
  | binary (op : SetOperation) (left right : ClassSet)

/-- The set that a list of items stands for. -/
def ClassSet.ofItems : List ClassSet → ClassSet
  | [] => .empty
  | [item] => item
  | items => .union items

mutual

/-- How many brackets, unions and operations enclose the innermost item. -/
def ClassSet.depth : ClassSet → Nat
  | .bracketed _ set => set.depth + 1
  | .union items => ClassSet.depthAll items + 1
  | .binary _ left right => max left.depth right.depth + 1
  | _ => 0

/-- The greatest depth in a list of sets. -/
def ClassSet.depthAll : List ClassSet → Nat
  | [] => 0
  | item :: rest => max item.depth (ClassSet.depthAll rest)

end

/-! ### Trees -/

/-- How a group begins. -/
inductive GroupKind
  | capturing
  | plain (change : FlagChange)
deriving DecidableEq, Repr

/-- A pattern as it is written. -/
inductive Ast
  | empty
  | flags (change : FlagChange)
  | primitive (p : Primitive)
  | bracketed (negated : Bool) (set : ClassSet)
  | repetition (min : Nat) (max : Option Nat) (body : Ast)
  | group (kind : GroupKind) (body : Ast)
  | concat (items : List Ast)
  | alternation (branches : List Ast)

namespace Ast

/-- The tree of a sequence of items. -/
def ofItems : List Ast → Ast
  | [] => .empty
  | [item] => item
  | items => .concat items

/-- The tree of a list of alternatives. -/
def ofBranches : List Ast → Ast
  | [] => .empty
  | [branch] => branch
  | branches => .alternation branches

mutual

/-- How many nodes with parts enclose the innermost element. -/
def depth : Ast → Nat
  | .bracketed _ set => set.depth + 1
  | .repetition _ _ body => body.depth + 1
  | .group _ body => body.depth + 1
  | .concat items => depthAll items + 1
  | .alternation branches => depthAll branches + 1
  | _ => 0

/-- The greatest depth in a list of trees. -/
def depthAll : List Ast → Nat
  | [] => 0
  | item :: rest => max item.depth (depthAll rest)

end

/-- A repetition may follow the tree. -/
def repeatable : Ast → Bool
  | .empty => false
  | .flags _ => false
  | _ => true

end Ast

/-- The greatest depth of a pattern that is accepted. -/
def depthLimit : Nat := 250

end TapTracker.Pattern
