import TapTracker.CommandLine.Basic
import TapTracker.Text.Decimal

/-!
# Options

An option takes a value or is a switch.  Some may stand in front of the name of the command and
after it, others only after the name of the command that they belong to: `Scope.admits` tells where
an option may stand, and `Scope.long?` and `Scope.short?` find the option of a spelling.
-/

namespace TapTracker

/-- The names of the commands. -/
inductive CommandName
  | init
  | list
  | baseline
  | install
  | remove
deriving DecidableEq, Repr

/-- The command that a word names. -/
def CommandName.ofWord? : String → Option CommandName
  | "init" => some .init
  | "list" => some .list
  | "baseline" => some .baseline
  | "install" => some .install
  | "remove" => some .remove
  | _ => none

/-- The word that asks for help where a command may stand. -/
def helpWord : String := "help"

/-! ### Kinds of options -/

/-- An option with a value. -/
inductive ValueOption
  | adapterClass
  | productAlias
  | signature
  | config
  | output
  | installTimeout
deriving DecidableEq, Repr

/-- An option without a value that is remembered. -/
inductive Switch
  | verbose
  | json
  | noRename
deriving DecidableEq, Repr

/-- An option. -/
inductive OptionName
  | value (o : ValueOption)
  | switch (s : Switch)
  | help
  | version
deriving DecidableEq, Repr

/-- The options with long spellings. -/
def longSpellings : List (String × OptionName) :=
  [("adapter-class", .value .adapterClass), ("product-alias", .value .productAlias),
   ("signature", .value .signature), ("config", .value .config), ("verbose", .switch .verbose),
   ("output", .value .output), ("json", .switch .json),
   ("install-timeout", .value .installTimeout), ("no-rename", .switch .noRename),
   ("help", .help), ("version", .version)]

/-- The options with short spellings. -/
def shortSpellings : List (Char × OptionName) :=
  [('c', .value .config), ('v', .switch .verbose), ('o', .value .output), ('h', .help),
   ('V', .version)]

/-! ### Where options may stand -/

/-- A place in a command line: before the name of the command, or after it. -/
inductive Scope
  | front
  | within (command : CommandName)
deriving DecidableEq, Repr

namespace Scope

/-- An option may stand in a place. -/
def admits : Scope → OptionName → Bool
  | within command, .value .output => command == .init
  | front, .value .output => false
  | within command, .value .installTimeout => command == .install
  | front, .value .installTimeout => false
  | within command, .switch .json => command == .list
  | front, .switch .json => false
  | within command, .switch .noRename => command == .install
  | front, .switch .noRename => false
  | front, .version => true
  | within _, .version => false
  | _, _ => true

/-- The option with a long spelling. -/
def long? (scope : Scope) (name : String) : Option OptionName :=
  ((longSpellings.find? (·.1 == name)).map (·.2)).filter scope.admits

/-- The option with a short spelling. -/
def short? (scope : Scope) (c : Char) : Option OptionName :=
  ((shortSpellings.find? (·.1 == c)).map (·.2)).filter scope.admits

end Scope

/-! ### Values -/

/-- The number of seconds that a value denotes: decimal digits, a plus sign before them allowed,
below the 64-bit limit. -/
def readSeconds (s : String) : Option Nat :=
  let digits := match s.toList with
    | '+' :: digits => digits
    | cs => cs
  (Text.readDecimal digits).filter (· < UInt64.size)

/-- The value fits the option: paths are not empty, and time limits are numbers. -/
def ValueOption.check (o : ValueOption) (s : String) : Except Refusal Unit :=
  match o with
  | config => if s.isEmpty then .error .invalidValue else .ok ()
  | output => if s.isEmpty then .error .invalidValue else .ok ()
  | installTimeout => if (readSeconds s).isSome then .ok () else .error .valueValidation
  | _ => .ok ()

end TapTracker
