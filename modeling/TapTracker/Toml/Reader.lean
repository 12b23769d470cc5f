import TapTracker.Toml.Scalar
import TapTracker.Toml.Tree

/-!
# Reading TOML documents

A document is a list of lines that set a key or open a table.  `Document.step` reads one of them,
and `Toml.read` the whole document.

Inside arrays and inline tables lines may end anywhere, comments included, and a comma may follow
the last item.
-/

namespace TapTracker.Toml

/-- The depth at which arrays and inline tables are refused. -/
def depthLimit : Nat := 80

/-! ### Values -/

/-- A string at the head of the text, in one of its four forms. -/
def readString? (cs : List Char) : Option (Except Error (List Char × List Char)) :=
  match cs with
  | '"' :: '"' :: '"' :: rest => some (readBlock '"' true rest)
  | '"' :: rest => some (readBasic (rest.length + 1) rest)
  | '\'' :: '\'' :: '\'' :: rest => some (readBlock '\'' false rest)
  | '\'' :: rest => some (readLiteral rest)
  | _ => none

mutual

/-- The value at the head of the text, inside `depth` arrays and inline tables. -/
def readValue : (fuel depth : Nat) → List Char → Except Error (Value × List Char)
  | 0, _, _ => .error .tooDeep
  | fuel + 1, depth, cs =>
    match readString? cs with
    | some answer => do
      let (s, rest) ← answer
      .ok (.string (String.ofList s), rest)
    | none =>
      match cs with
      | '[' :: rest =>
        if depthLimit ≤ depth + 1 then .error .tooDeep
        else do
          let (items, rest) ← readItems fuel (depth + 1) rest
          .ok (.array items, rest)
      | '{' :: rest =>
        if depthLimit ≤ depth + 1 then .error .tooDeep
        else do
          let (entries, rest) ← readPairs fuel (depth + 1) [] rest
          .ok (.table (Node.entryValues entries), rest)
      | cs => do
        let (word, rest) := readWord cs
        let v ← Value.ofWord word
        .ok (v, rest)

/-- The items of an array up to its closing bracket. -/
def readItems : (fuel depth : Nat) → List Char → Except Error (List Value × List Char)
  | 0, _, _ => .error .unclosedArray
  | fuel + 1, depth, cs => do
    match ← skipGap false cs with
    | [] => .error .unclosedArray
    | ']' :: rest => .ok ([], rest)
    | cs =>
      let (v, rest) ← readValue fuel depth cs
      match ← skipGap false rest with
      | ',' :: rest =>
        let (items, rest) ← readItems fuel depth rest
        .ok (v :: items, rest)
      | ']' :: rest => .ok ([v], rest)
      | _ => .error .unclosedArray

/-- The entries of an inline table up to its closing brace. -/
def readPairs : (fuel depth : Nat) → Entries → List Char → Except Error (Entries × List Char)
  | 0, _, _, _ => .error .unclosedTable
  | fuel + 1, depth, entries, cs => do
    match ← skipGap false cs with
    | [] => .error .unclosedTable
    | '}' :: rest => .ok (entries, rest)
    | cs =>
      let (key, rest) ← readKey (cs.length + 1) cs
      match rest with
      | '=' :: rest =>
        let (v, rest) ← readValue fuel depth (skipSpace rest)
        let entries ← entries.addDotted key.dropLast (key.getLast?.getD "") v
        match ← skipGap false rest with
        | ',' :: rest => readPairs fuel depth entries rest
        | '}' :: rest => .ok (entries, rest)
        | _ => .error .unclosedTable
      | _ => .error .missingEquals

end

/-! ### Lines -/

/-- A document read up to some line: its tables, and the path of the table that is open. -/
structure Document where
  root : Entries
  path : List String

namespace Document

/-- The document before its first line. -/
def start : Document := ⟨[], []⟩

/-- The document with a value under a key of the open table. -/
def setKey (d : Document) (key : List String) (v : Value) : Except Error Document := do
  let root ← d.root.modify false
    (fun _ entries => entries.addDotted key.dropLast (key.getLast?.getD "") v) d.path .header
  .ok { d with root }

/-- The document after a header, which opens a table or the next element of an array of tables. -/
def openHeader (d : Document) (isElement : Bool) (key : List String) : Except Error Document := do
  let name := key.getLast?.getD ""
  let change := if isElement then Entries.openElement name else Entries.openTable name
  let root ← d.root.modify false (fun _ entries => change entries) key.dropLast .header
  .ok ⟨root, key⟩

/-- A line that sets a key. -/
def readSetting (d : Document) (cs : List Char) : Except Error (Document × List Char) := do
  let (key, rest) ← readKey (cs.length + 1) cs
  match rest with
  | '=' :: rest =>
    let (v, rest) ← readValue (rest.length + 1) 0 (skipSpace rest)
    let d ← d.setKey key v
    let rest ← readLineEnd rest
    .ok (d, rest)
  | _ => .error .missingEquals

/-- A header whose opening bracket has been read. -/
def readHeader (d : Document) (cs : List Char) : Except Error (Document × List Char) := do
  match cs with
  | '[' :: cs =>
    let (key, rest) ← readKey (cs.length + 1) cs
    match rest with
    | ']' :: ']' :: rest =>
      let d ← d.openHeader true key
      let rest ← readLineEnd rest
      .ok (d, rest)
    | _ => .error .unclosedHeader
  | cs =>
    let (key, rest) ← readKey (cs.length + 1) cs
    match rest with
    | ']' :: rest =>
      let d ← d.openHeader false key
      let rest ← readLineEnd rest
      .ok (d, rest)
    | _ => .error .unclosedHeader

/-- One line. -/
def step (d : Document) (cs : List Char) : Except Error (Document × List Char) :=
  match skipSpace cs with
  | [] => .ok (d, [])
  | '[' :: rest => d.readHeader rest
  | c :: rest =>
    if c = '#' ∨ c = '\n' ∨ c = '\r' then do
      let rest ← readLineEnd (c :: rest)
      .ok (d, rest)
    else d.readSetting (c :: rest)

/-- The lines of a text.  Each leaves a shorter rest, so that the length of the text bounds their
number. -/
def loop : (fuel : Nat) → Document → List Char → Except Error Document
  | 0, d, _ => .ok d
  | _ + 1, d, [] => .ok d
  | fuel + 1, d, cs => do
    let (d, rest) ← d.step cs
    loop fuel d rest

end Document

/-- The entries of the document that a text is; a byte order mark may stand before it. -/
def readChars (cs : List Char) : Except Error (List (String × Value)) := do
  let cs := match cs with
    | '\uFEFF' :: rest => rest
    | cs => cs
  let d ← Document.loop (cs.length + 1) .start cs
  .ok (Node.entryValues d.root)

/-- The entries of the document that a string is. -/
def read (text : String) : Except Error (List (String × Value)) :=
  readChars text.toList

end TapTracker.Toml
