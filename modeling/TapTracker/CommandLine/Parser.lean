import TapTracker.CommandLine.Place
import TapTracker.CommandLine.Token

/-!
# Reading command lines

The words before the name of the command are read by `CommandLine.ofWords`, the words after it by
`readWithin`.  After the separator `--` the command `install` takes every word as it is, as a part
of the command line of the installer; nowhere else has a plain word a meaning that is not the value
of an option.

An option that is shared by the commands may stand in both places; what stands after the name of
the command wins.
-/

namespace TapTracker

/-! ### After the name of the command -/

/-- What the words after the name of a command say. -/
structure Tail where
  bindings : Bindings
  installer : List String

/-- The words after the separator. -/
def readTrailing (command : CommandName) (p : Place) (words : List String) :
    Except Refusal Tail :=
  match command, words with
  | .install, words => do
    let bindings ← p.settle
    if words.isEmpty then .error .missingRequiredArgument else .ok ⟨bindings, words⟩
  | _, [] => do
    let bindings ← p.settle
    .ok ⟨bindings, []⟩
  | _, _ :: _ => .error .unknownArgument

/-- The words after the name of a command. -/
def readWithin (command : CommandName) (p : Place) : List String → Except Refusal Tail
  | [] => readTrailing command p []
  | word :: rest =>
    match Token.ofWord word with
    | .separator => readTrailing command p rest
    | .long name attached => do
      let p ← p.readLong (.within command) name attached
      readWithin command p rest
    | .cluster letters => do
      let p ← p.readCluster (.within command) letters
      readWithin command p rest
    | .plain word =>
      if p.awaitsValue then readWithin command (p.supply word) rest else .error .unknownArgument

/-! ### The whole line -/

/-- The path that a configuration file is written to unless another is given. -/
def defaultOutput : String := "driverlogic.toml"

/-- The command that a name and its words make. -/
def Tail.command (t : Tail) : CommandName → Command
  | .init => .init ((t.bindings.value? .output).getD defaultOutput)
  | .list => .list (t.bindings.isOn .json)
  | .baseline => .baseline
  | .install =>
    .install ((t.bindings.value? .installTimeout).bind readSeconds) (t.bindings.isOn .noRename)
      t.installer
  | .remove => .remove

/-- The command line of what stands before and after the name of a command. -/
def Tail.toCommandLine (t : Tail) (name : CommandName) (front : Bindings) : CommandLine :=
  let shared (o : ValueOption) := (t.bindings.value? o).or (front.value? o)
  { command := t.command name
    adapterClass := shared .adapterClass
    productAlias := shared .productAlias
    signature := shared .signature
    config := shared .config
    verbose := front.isOn .verbose || t.bindings.isOn .verbose }

/-- The answer to a request for help on a command. -/
def helpOn : List String → Refusal
  | [] => .displayHelp
  | [word] =>
    if word = helpWord ∨ (CommandName.ofWord? word).isSome then .displayHelp
    else .invalidSubcommand
  | _ => .invalidSubcommand

/-- The end of a line that names no command. -/
def readNothing (p : Place) : Except Refusal CommandLine := do
  let bindings ← p.settle
  if bindings.isEmptyInFront then .error .displayHelpOnMissing else .error .missingSubcommand

/-- The words of a line from the place before its command on. -/
def readFront (p : Place) : List String → Except Refusal CommandLine
  | [] => readNothing p
  | word :: rest =>
    match Token.ofWord word with
    | .separator =>
      match rest with
      | [] => readNothing p
      | word :: _ =>
        if word = helpWord ∨ (CommandName.ofWord? word).isSome then .error .unknownArgument
        else .error .invalidSubcommand
    | .long name attached => do
      let p ← p.readLong .front name attached
      readFront p rest
    | .cluster letters => do
      let p ← p.readCluster .front letters
      readFront p rest
    | .plain word =>
      if p.awaitsValue then readFront (p.supply word) rest
      else if word = helpWord then .error (helpOn rest)
      else
        match CommandName.ofWord? word with
        | none => .error .invalidSubcommand
        | some name => do
          let tail ← readWithin name .start rest
          let front ← p.settle
          .ok (tail.toCommandLine name front)

/-- The meaning of the words of a command line, without the name of the program. -/
def CommandLine.ofWords (words : List String) : Except Refusal CommandLine :=
  readFront .start words

end TapTracker
