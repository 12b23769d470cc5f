import TapTracker.Pattern.Reader.Escape

/-!
# Classes in brackets

Brackets may stand in brackets.  Those that are open are kept on a stack of levels, so that every
step of `classStep` looks at the head of the rest only and leaves a shorter rest.  `readClass` takes
the steps up to the bracket that closes the class.
-/

namespace TapTracker.Pattern.Reader

/-- An open bracket: the items since the last operation, the last one first, and the operation
that waits for them. -/
structure ClassLevel where
  negated : Bool
  waiting : Option (SetOperation × ClassSet)
  items : List ClassSet

namespace ClassLevel

/-- The level with one more item. -/
def push (level : ClassLevel) (item : ClassSet) : ClassLevel :=
  { level with items := item :: level.items }

/-- The set that has been read at the level. -/
def set (level : ClassLevel) : ClassSet :=
  let right := ClassSet.ofItems level.items.reverse
  match level.waiting with
  | none => right
  | some (op, left) => .binary op left right

/-- The level after an operation sign. -/
def await (level : ClassLevel) (op : SetOperation) : ClassLevel :=
  { level with waiting := some (op, level.set), items := [] }

end ClassLevel

/-- The level that an opening bracket begins.  A `]` is a member if it comes first, and so are the
dashes there. -/
def openBracket (verbose : Bool) (cs : List Char) :
    Except SyntaxError (ClassLevel × List Char) := do
  let (negated, cs) := match skipIf verbose cs with
    | '^' :: rest => (true, skipIf verbose rest)
    | cs => (false, cs)
  let (dashes, rest) := spaced (· == '-') verbose cs
  let items := dashes.map fun c => ClassSet.literal c false
  match rest with
  | [] => .error .unclosedClass
  | ']' :: more =>
    if items.isEmpty then
      match skipIf verbose more with
      | [] => .error .unclosedClass
      | more => .ok (⟨negated, none, [.literal ']' false]⟩, more)
    else .ok (⟨negated, none, items⟩, rest)
  | _ => .ok (⟨negated, none, items⟩, rest)

/-- The named class whose opening bracket has been read, if the text goes on as one. -/
def readNamed? (cs : List Char) : Option (ClassSet × List Char) :=
  match cs with
  | ':' :: rest =>
    let (negated, rest) := match rest with
      | '^' :: rest => (true, rest)
      | rest => (false, rest)
    match rest.dropWhile (· != ':') with
    | ':' :: ']' :: after =>
      (NamedClass.ofName? (String.ofList (rest.takeWhile (· != ':')))).map fun kind =>
        (.named kind negated, after)
    | _ => none
  | _ => none

/-- One element in brackets. -/
def readMember (verbose : Bool) : List Char → Except SyntaxError (Primitive × List Char)
  | [] => .error .unclosedClass
  | '\\' :: rest => readEscape verbose rest
  | c :: rest => .ok (.literal c false, rest)

/-- The element as an item of a class. -/
def classItem : Primitive → Except SyntaxError ClassSet
  | .literal c byte => .ok (.literal c byte)
  | .short kind negated => .ok (.short kind negated)
  | .property query negated => .ok (.property query negated)
  | .dot | .assertion _ => .error .classEscapeInvalid

/-- An item in brackets: an element, or a range between two characters. -/
def readItem (verbose : Bool) (cs : List Char) : Except SyntaxError (ClassSet × List Char) := do
  let (first, rest) ← readMember verbose cs
  match skipIf verbose rest with
  | [] => .error .unclosedClass
  | '-' :: more =>
    let next := peek verbose ('-' :: more)
    if next = some ']' ∨ next = some '-' then
      let item ← classItem first
      .ok (item, '-' :: more)
    else
      match skipIf verbose more with
      | [] => .error .unclosedClass
      | more =>
        let (last, rest) ← readMember verbose more
        match first, last with
        | .literal a aByte, .literal b bByte =>
          if a ≤ b then .ok (.range a b aByte bByte, rest) else .error .classRangeInvalid
        | _, _ => .error .classRangeNotLiteral
  | rest =>
    let item ← classItem first
    .ok (item, rest)

/-- One step inside brackets: the open brackets, the innermost first, or the finished class. -/
def classStep (verbose : Bool) (level : ClassLevel) (outer : List ClassLevel) (cs : List Char) :
    Except SyntaxError ((ClassLevel × List ClassLevel ⊕ Bool × ClassSet) × List Char) :=
  match skipIf verbose cs with
  | [] => .error .unclosedClass
  | '[' :: rest =>
    match readNamed? rest with
    | some (item, rest) => .ok (.inl (level.push item, outer), rest)
    | none => do
      let (inner, rest) ← openBracket verbose rest
      .ok (.inl (inner, level :: outer), rest)
  | ']' :: rest =>
    match outer with
    | [] => .ok (.inr (level.negated, level.set), rest)
    | above :: outer =>
      .ok (.inl (above.push (.bracketed level.negated level.set), outer), rest)
  | '&' :: '&' :: rest => .ok (.inl (level.await .intersection, outer), rest)
  | '-' :: '-' :: rest => .ok (.inl (level.await .difference, outer), rest)
  | '~' :: '~' :: rest => .ok (.inl (level.await .symmetricDifference, outer), rest)
  | cs => do
    let (item, rest) ← readItem verbose cs
    .ok (.inl (level.push item, outer), rest)

/-- The steps inside brackets up to the bracket that closes the class.  Each leaves a shorter rest,
so that the length of the text bounds their number. -/
def classLoop (verbose : Bool) :
    (fuel : Nat) → ClassLevel → List ClassLevel → List Char →
      Except SyntaxError ((Bool × ClassSet) × List Char)
  | 0, _, _, _ => .error .unclosedClass
  | fuel + 1, level, outer, cs =>
    match classStep verbose level outer cs with
    | .error e => .error e
    | .ok (.inr done, rest) => .ok (done, rest)
    | .ok (.inl (level, outer), rest) => classLoop verbose fuel level outer rest

/-- The class whose opening bracket has been read. -/
def readClass (verbose : Bool) (cs : List Char) :
    Except SyntaxError ((Bool × ClassSet) × List Char) := do
  let (level, rest) ← openBracket verbose cs
  classLoop verbose (rest.length + 1) level [] rest

end TapTracker.Pattern.Reader
