import TapTracker.Pattern.Reader.Basic
import TapTracker.Text.BinaryProperty
import TapTracker.Text.Category

/-!
# The heads of groups

What follows an opening parenthesis decides what it begins: a group that captures, with or without a
name; a group that does not capture and may change flags; or a mere change of flags.
`readOpening` tells which it is.
-/

namespace TapTracker.Pattern.Reader

open TapTracker.Text

/-- The character may stand in the name of a group. -/
def isNameChar (atStart : Bool) (c : Char) : Bool :=
  c == '_' || alphabeticTable.contains c ||
    (!atStart && (c == '.' || c == '[' || c == ']' ||
      ((categoryTables? "n").getD []).any (·.contains c)))

/-- The name of a group up to `>`. -/
def readName : (atStart : Bool) → List Char → Except SyntaxError (List Char × List Char)
  | _, [] => .error .groupNameAtEnd
  | atStart, c :: rest =>
    if c = '>' then .ok ([], rest)
    else if isNameChar atStart c then
      match readName false rest with
      | .error e => .error e
      | .ok (name, rest) => .ok (c :: name, rest)
    else .error .groupNameInvalid

/-- The flags of a group up to the colon or the parenthesis that ends them, and that sign. -/
def readFlags (change : FlagChange) : (negated dangling : Bool) → List Char →
    Except SyntaxError ((FlagChange × Char) × List Char)
  | _, _, [] => .error .flagsAtEnd
  | negated, dangling, c :: rest =>
    if c = ':' ∨ c = ')' then
      if dangling then .error .negationDangling else .ok ((change, c), rest)
    else if c = '-' then
      if negated then .error .negationRepeated else readFlags change true true rest
    else
      match Flag.ofChar? c with
      | none => .error .flagUnknown
      | some flag =>
        if flag ∈ change.on ∨ flag ∈ change.off then .error .flagRepeated
        else if negated then readFlags { change with off := flag :: change.off } true false rest
        else readFlags { change with on := flag :: change.on } false false rest

/-- What an opening parenthesis begins. -/
inductive Opening
  | group (kind : GroupKind)
  | named (name : List Char)
  | flags (change : FlagChange)

/-- What follows an opening parenthesis, up to the inside of the group. -/
def readOpening (verbose : Bool) (cs : List Char) : Except SyntaxError (Opening × List Char) :=
  match skipIf verbose cs with
  | '?' :: '=' :: _ => .error .lookaround
  | '?' :: '!' :: _ => .error .lookaround
  | '?' :: '<' :: '=' :: _ => .error .lookaround
  | '?' :: '<' :: '!' :: _ => .error .lookaround
  | '?' :: 'P' :: '<' :: rest => do
    let (name, rest) ← readName true rest
    .ok (.named name, rest)
  | '?' :: '<' :: rest => do
    let (name, rest) ← readName true rest
    .ok (.named name, rest)
  | ['?'] => .error .groupUnclosed
  | '?' :: rest => do
    let ((change, sign), rest) ← readFlags ⟨[], []⟩ false false rest
    if sign = ':' then .ok (.group (.plain change), rest)
    else if change.on.isEmpty ∧ change.off.isEmpty then .error .repetitionMissing
    else .ok (.flags change, rest)
  | rest => .ok (.group .capturing, rest)

end TapTracker.Pattern.Reader
