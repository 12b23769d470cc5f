import TapTracker.Toml.Value

/-!
# The tables of a document

While a document is read, its tables remember how they came about, because that decides what may
still be added to them.  A table with a header of its own is closed to dotted keys; a table that
only stands above others may get a header once; a table that dotted keys make may be extended by
dotted keys and by nothing else; a value is never extended.
-/

namespace TapTracker.Toml

/-- How a table came about. -/
inductive Origin
  /-- By its own header, or as the document. -/
  | header
  /-- As the parent of a table with a header. -/
  | above
  /-- By the front part of a dotted key. -/
  | dotted
deriving DecidableEq, Repr

/-- What a key stands for in a document. -/
inductive Node
  | value (v : Value)
  | table (origin : Origin) (entries : List (String × Node))
  /-- An array of tables, the one that is still open first. -/
  | tables (newestFirst : List (List (String × Node)))

/-- The entries of a table. -/
abbrev Entries := List (String × Node)

namespace Entries

/-- What a key stands for. -/
def find? (entries : Entries) (key : String) : Option Node :=
  (List.find? (·.1 == key) entries).map (·.2)

/-- The entries with another node for a key that is there. -/
def replace (entries : Entries) (key : String) (node : Node) : Entries :=
  List.map (fun (k, old) => if k == key then (k, node) else (k, old)) entries

/-- The entries with one more key. -/
def add (entries : Entries) (key : String) (node : Node) : Entries :=
  entries ++ [(key, node)]

/-- Changes the entries of the table at the end of a path.  Tables that are missing on the path are
made; `byKey` tells that the path is the front part of a dotted key and not of a header. -/
def modify (byKey : Bool) (change : Origin → Entries → Except Error Entries) :
    (path : List String) → Origin → Entries → Except Error Entries
  | [], origin, entries => change origin entries
  | key :: path, _, entries =>
    match entries.find? key with
    | none => do
      let origin := if byKey then .dotted else .above
      let inner ← modify byKey change path origin []
      .ok (entries.add key (.table origin inner))
    | some (.table origin inner) =>
      if byKey ∧ origin = .header then .error (.duplicateKey key)
      else do
        let inner ← modify byKey change path origin inner
        .ok (entries.replace key (.table origin inner))
    | some (.tables (inner :: older)) =>
      if byKey then .error (.duplicateKey key)
      else do
        let inner ← modify byKey change path .header inner
        .ok (entries.replace key (.tables (inner :: older)))
    | some _ => .error (.notExtendable key)

/-- Adds a value under a key. -/
def addValue (key : String) (v : Value) (entries : Entries) : Except Error Entries :=
  match entries.find? key with
  | none => .ok (entries.add key (.value v))
  | some _ => .error (.duplicateKey key)

/-- Adds a value under a key with parts in front of it.  The table that it goes into has been made
by such keys. -/
def addDotted (front : List String) (key : String) (v : Value) (entries : Entries) :
    Except Error Entries :=
  match front with
  | [] => entries.addValue key v
  | front =>
    entries.modify true
      (fun origin inner =>
        if origin = .dotted then Entries.addValue key v inner else .error (.duplicateKey key))
      front .header

/-- Opens the table of a header. -/
def openTable (key : String) (entries : Entries) : Except Error Entries :=
  match entries.find? key with
  | none => .ok (entries.add key (.table .header []))
  | some (.table .above inner) => .ok (entries.replace key (.table .header inner))
  | some _ => .error (.duplicateKey key)

/-- Opens the next table of an array of tables. -/
def openElement (key : String) (entries : Entries) : Except Error Entries :=
  match entries.find? key with
  | none => .ok (entries.add key (.tables [[]]))
  | some (.tables older) => .ok (entries.replace key (.tables ([] :: older)))
  | some _ => .error (.duplicateKey key)

end Entries

mutual

/-- The value of a node. -/
def Node.toValue : Node → Value
  | .value v => v
  | .table _ entries => .table (Node.entryValues entries)
  | .tables newestFirst => .array (Node.tableValues newestFirst).reverse

/-- The values of the entries of a table. -/
def Node.entryValues : List (String × Node) → List (String × Value)
  | [] => []
  | (key, node) :: rest => (key, node.toValue) :: Node.entryValues rest

/-- The values of the tables of an array. -/
def Node.tableValues : List (List (String × Node)) → List Value
  | [] => []
  | entries :: rest => .table (Node.entryValues entries) :: Node.tableValues rest

end

end TapTracker.Toml
