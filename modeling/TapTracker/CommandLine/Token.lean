/-!
# Words of a command line

By its first characters a word is the separator `--`, an option with a long spelling and perhaps an
attached value, a cluster of options with short spellings, or a plain word.  A single hyphen is a
plain word.
-/

namespace TapTracker

/-- A word of a command line by its form. -/
inductive Token
  | separator
  | long (name : String) (attached : Option String)
  | cluster (letters : List Char)
  | plain (word : String)
deriving DecidableEq, Repr

/-- The text before the first equals sign and, if there is one, the text after it. -/
def splitAtEquals (cs : List Char) : List Char × Option (List Char) :=
  match cs.dropWhile (· ≠ '=') with
  | [] => (cs, none)
  | _ :: rest => (cs.takeWhile (· ≠ '='), some rest)

/-- The form of a word. -/
def Token.ofWord (word : String) : Token :=
  match word.toList with
  | ['-', '-'] => .separator
  | '-' :: '-' :: rest =>
    let (name, attached) := splitAtEquals rest
    .long (String.ofList name) (attached.map String.ofList)
  | '-' :: c :: rest => .cluster (c :: rest)
  | _ => .plain word

end TapTracker
