import TapTracker.Pattern.Reader.Bracket
import TapTracker.Pattern.Reader.Group

/-!
# Reading patterns

The reader walks once over the text of a pattern.  Open groups are kept on a stack, so that every
`step` looks at the head of the rest only and leaves a shorter rest.

`Ast.read` is the whole reader.  It refuses a tree that is nested more deeply than `depthLimit`.
-/

namespace TapTracker.Pattern

namespace Reader

/-- An open group: what stood before it in the enclosing group, the last part first, and whether
that group is verbose. -/
structure Frame where
  kind : GroupKind
  items : List Ast
  branches : List Ast
  verbose : Bool

/-- A pattern read up to some place: the open groups, the innermost first; the finished branches
and the items of the current branch of the innermost group, the last one first; and the names of
groups so far. -/
structure State where
  frames : List Frame
  branches : List Ast
  items : List Ast
  verbose : Bool
  names : List (List Char)

namespace State

/-- The state before the first character. -/
def start : State := ⟨[], [], [], false, []⟩

/-- The state after one more item. -/
def push (s : State) (item : Ast) : State :=
  { s with items := item :: s.items }

/-- The tree of the innermost group. -/
def tree (s : State) : Ast :=
  Ast.ofBranches (Ast.ofItems s.items.reverse :: s.branches).reverse

/-- The state inside a new group. -/
def enter (s : State) (kind : GroupKind) (verbose : Bool) : State :=
  { s with
    frames := ⟨kind, s.items, s.branches, s.verbose⟩ :: s.frames
    branches := [], items := [], verbose }

/-- The state after an opening parenthesis. -/
def openGroup (s : State) : Opening → Except SyntaxError State
  | .flags change =>
    .ok { s.push (.flags change) with verbose := (change.set? .verbose).getD s.verbose }
  | .group .capturing => .ok (s.enter .capturing s.verbose)
  | .group (.plain change) =>
    .ok (s.enter (.plain change) ((change.set? .verbose).getD s.verbose))
  | .named name =>
    if name.isEmpty then .error .groupNameEmpty
    else if name ∈ s.names then .error .groupNameRepeated
    else .ok { s.enter .capturing s.verbose with names := name :: s.names }

/-- The state after a closing parenthesis. -/
def closeGroup (s : State) : Except SyntaxError State :=
  match s.frames with
  | [] => .error .groupUnopened
  | frame :: frames =>
    .ok { s with
      frames
      branches := frame.branches
      items := .group frame.kind s.tree :: frame.items
      verbose := frame.verbose }

/-- The state after `|`. -/
def nextBranch (s : State) : State :=
  { s with branches := Ast.ofItems s.items.reverse :: s.branches, items := [] }

/-- The state after a repetition of the last item. -/
def repeatLast (s : State) (min : Nat) (max : Option Nat) : Except SyntaxError State :=
  match s.items with
  | [] => .error .repetitionMissing
  | item :: before =>
    if item.repeatable then .ok { s with items := .repetition min max item :: before }
    else .error .repetitionMissing

end State

/-- A repetition may be followed by a question mark, which only makes it lazy. -/
def skipLazy : List Char → List Char
  | '?' :: rest => rest
  | rest => rest

/-- The bounds between braces, up to the closing brace and what may follow it. -/
def readBounds (verbose : Bool) (cs : List Char) :
    Except SyntaxError ((Nat × Option Nat) × List Char) := do
  match skipIf verbose cs with
  | [] => .error .countUnclosed
  | cs =>
    let (min, rest) ← readCount verbose cs
    let (max, rest) ← match rest with
      | ',' :: rest =>
        match skipIf verbose rest with
        | [] => .error .countUnclosed
        | '}' :: rest => .ok (none, '}' :: rest)
        | rest => do
          let (max, rest) ← readCount verbose rest
          .ok (some max, rest)
      | rest => .ok (some min, rest)
    match rest with
    | '}' :: rest =>
      if max.all (min ≤ ·) then .ok ((min, max), skipLazy (skipIf verbose rest))
      else .error .countsReversed
    | _ => .error .countUnclosed

/-- The single element at the head of a text. -/
def readPrimitive (verbose : Bool) (c : Char) (rest : List Char) :
    Except SyntaxError (Primitive × List Char) :=
  match c with
  | '\\' => readEscape verbose rest
  | '.' => .ok (.dot, rest)
  | '^' => .ok (.assertion .lineStart, rest)
  | '$' => .ok (.assertion .lineEnd, rest)
  | c => .ok (.literal c false, rest)

/-- One step over the text `c :: rest`. -/
def step (s : State) (c : Char) (rest : List Char) : Except SyntaxError (State × List Char) := do
  match c with
  | '(' =>
    let (opening, rest) ← readOpening s.verbose rest
    let s ← s.openGroup opening
    .ok (s, rest)
  | ')' =>
    let s ← s.closeGroup
    .ok (s, rest)
  | '|' => .ok (s.nextBranch, rest)
  | '[' =>
    let ((negated, set), rest) ← readClass s.verbose rest
    .ok (s.push (.bracketed negated set), rest)
  | '?' =>
    let s ← s.repeatLast 0 (some 1)
    .ok (s, skipLazy rest)
  | '*' =>
    let s ← s.repeatLast 0 none
    .ok (s, skipLazy rest)
  | '+' =>
    let s ← s.repeatLast 1 none
    .ok (s, skipLazy rest)
  | '{' =>
    let _ ← s.repeatLast 0 none
    let ((min, max), rest) ← readBounds s.verbose rest
    let s ← s.repeatLast min max
    .ok (s, rest)
  | c =>
    let (p, rest) ← readPrimitive s.verbose c rest
    .ok (s.push (.primitive p), rest)

/-- The steps over a text.  Each leaves a shorter rest, so that its length bounds their number. -/
def loop : (fuel : Nat) → State → List Char → Except SyntaxError Ast
  | 0, _, _ => .error .groupUnclosed
  | fuel + 1, s, cs =>
    match skipIf s.verbose cs with
    | [] => if s.frames.isEmpty then .ok s.tree else .error .groupUnclosed
    | c :: rest =>
      match step s c rest with
      | .error e => .error e
      | .ok (s, rest) => loop fuel s rest

end Reader

/-- The tree of a text without regard to its depth. -/
def Ast.ofChars (cs : List Char) : Except SyntaxError Ast :=
  Reader.loop (cs.length + 1) .start cs

/-- The tree of a pattern. -/
def Ast.read (text : String) : Except SyntaxError Ast :=
  match Ast.ofChars text.toList with
  | .error e => .error e
  | .ok ast => if ast.depth ≤ depthLimit then .ok ast else .error .tooDeep

end TapTracker.Pattern
