import TapTracker.Toml.Reader

/-!
# Configuration files

A `ConfigFile` is what a TOML document sets.  Its sections are `adapter`, `product` and `install`,
and any of them may be missing.  A section is a table with no other keys than its fields, or an
array that has at least the fields of the section, in their order, as its first elements.
-/

namespace TapTracker

/-- The settings in a configuration file. -/
structure ConfigFile where
  adapterClass : Option String
  productAlias : Option String
  signature : Option String
  /-- The time limit of the installer in seconds. -/
  installTimeout : Option Nat
  rename : Option Bool
deriving DecidableEq, Repr

namespace ConfigFile

/-- The file that sets nothing. -/
def empty : ConfigFile := ⟨none, none, none, none, none⟩

/-! ### Fields -/

/-- A field of a section. -/
structure Field where
  name : String
  /-- The settings with the value of the field, if it is one of the right type. -/
  set : Toml.Value → ConfigFile → Except Toml.Error ConfigFile

/-- A field that is a text. -/
def Field.text (name : String) (set : String → ConfigFile → ConfigFile) : Field where
  name
  set
    | .string s, file => .ok (set s file)
    | _, _ => .error (.wrongType name)

/-- A field that is a truth value. -/
def Field.truth (name : String) (set : Bool → ConfigFile → ConfigFile) : Field where
  name
  set
    | .boolean b, file => .ok (set b file)
    | _, _ => .error (.wrongType name)

/-- A field that is a natural number below the 64-bit limit. -/
def Field.number (name : String) (set : Nat → ConfigFile → ConfigFile) : Field where
  name
  set
    | .integer n, file =>
      if 0 ≤ n ∧ n < UInt64.size then .ok (set n.toNat file) else .error (.outOfRange name)
    | _, _ => .error (.wrongType name)

/-! ### Sections -/

/-- The sections and their fields. -/
def sections : List (String × List Field) :=
  [("adapter", [.text "class" fun s file => { file with adapterClass := some s }]),
   ("product",
    [.text "alias" fun s file => { file with productAlias := some s },
     .text "signature" fun s file => { file with signature := some s }]),
   ("install",
    [.number "timeout" fun n file => { file with installTimeout := some n },
     .truth "rename" fun b file => { file with rename := some b }])]

/-- The settings after a section that is a table. -/
def setTable (fields : List Field) :
    List (String × Toml.Value) → ConfigFile → Except Toml.Error ConfigFile
  | [], file => .ok file
  | (key, v) :: entries, file =>
    match fields.find? (·.name == key) with
    | none => .error (.unknownField key)
    | some field => do
      let file ← field.set v file
      setTable fields entries file

/-- The settings after a section that is an array. -/
def setArray : List Field → List Toml.Value → ConfigFile → Except Toml.Error ConfigFile
  | [], _, file => .ok file
  | field :: _, [], _ => .error (.missingElement field.name)
  | field :: fields, v :: items, file => do
    let file ← field.set v file
    setArray fields items file

/-- The settings after a section. -/
def setSection (name : String) (v : Toml.Value) (file : ConfigFile) :
    Except Toml.Error ConfigFile :=
  match sections.find? (·.1 == name), v with
  | none, _ => .error (.unknownField name)
  | some (_, fields), .table entries => setTable fields entries file
  | some (_, fields), .array items => setArray fields items file
  | some _, _ => .error (.wrongType name)

/-- The settings after the entries of a document. -/
def setSections : List (String × Toml.Value) → ConfigFile → Except Toml.Error ConfigFile
  | [], file => .ok file
  | (name, v) :: entries, file => do
    let file ← setSection name v file
    setSections entries file

/-- The settings of a document. -/
def ofEntries (entries : List (String × Toml.Value)) : Except Toml.Error ConfigFile :=
  setSections entries empty

/-- The settings of a text. -/
def ofText (text : String) : Except Toml.Error ConfigFile := do
  let entries ← Toml.read text
  ofEntries entries

end ConfigFile

end TapTracker
