import TapTracker.Pattern.Meaning
import TapTracker.Pattern.Reader

/-!
# Patterns

A pattern is a text that has been read as a regular expression.  It is sought anywhere in another
text, without regard to case unless the pattern itself turns that off.

`Pattern.compile` reads a pattern, `Pattern.isMatch` searches with it, and `escape` writes a text
as a pattern that matches just this text.
-/

namespace TapTracker

open Pattern (SyntaxError Regex)

/-- Why a text cannot be used as a pattern. -/
inductive PatternError
  /-- The text is not a pattern. -/
  | notPattern (cause : SyntaxError)
  /-- The automaton of the pattern would be larger than `Regex.weightLimit`. -/
  | tooLarge
deriving DecidableEq, Repr

/-- The error in words. -/
def PatternError.message : PatternError → String
  | notPattern cause => "regex parse error: " ++ cause.message
  | tooLarge => "Compiled regex exceeds size limit of " ++ toString Regex.weightLimit ++ " bytes."

/-- A text together with the regular expression that it has been read as. -/
structure Pattern where
  text : String
  regex : Regex

namespace Pattern

/-- The pattern of a text. -/
def compile (text : String) : Except PatternError Pattern :=
  match Ast.read text with
  | .error e => .error (.notPattern e)
  | .ok ast =>
    match ast.toRegex .initial with
    | .error e => .error (.notPattern e)
    | .ok (regex, _) =>
      if regex.weight ≤ Regex.weightLimit then .ok ⟨text, regex⟩ else .error .tooLarge

/-- Some stretch of the text matches. -/
def isMatch (p : Pattern) (text : String) : Bool :=
  p.regex.occursIn text.toList

/-- The characters of a text, with a backslash before those that have a meaning in patterns. -/
def escapeChars (cs : List Char) : List Char :=
  cs.flatMap fun c => if c ∈ Reader.metaCharacters then ['\\', c] else [c]

/-- The text as a pattern that matches it literally. -/
def escape (text : String) : String :=
  String.ofList (escapeChars text.toList)

end Pattern

end TapTracker
