/-!
# Command lines

A `CommandLine` is what the words of a command line mean: a command with its own settings, and the
settings that every command shares.  Words that mean no command are answered by a `Refusal`, which
says why; a request for help or for the version is one of them, because nothing is run then.
-/

namespace TapTracker

/-- What to do. -/
inductive Command
  /-- Write a configuration file. -/
  | init (output : String)
  /-- Show the adapters. -/
  | list (asJson : Bool)
  /-- Classify the adapters. -/
  | baseline
  /-- Run an installer and find the adapter that it creates. -/
  | install (timeout : Option Nat) (keepAlias : Bool) (installer : List String)
  /-- Remove the adapter of the product. -/
  | remove
deriving DecidableEq, Repr

/-- A command and the settings around it. -/
structure CommandLine where
  command : Command
  adapterClass : Option String
  productAlias : Option String
  signature : Option String
  /-- The path of the configuration file. -/
  config : Option String
  verbose : Bool
deriving DecidableEq, Repr

namespace CommandLine

/-- The command is the one that writes a configuration file. -/
def isInit (line : CommandLine) : Bool :=
  match line.command with
  | .init _ => true
  | _ => false

/-- The time limit of the installer in seconds, if the command sets one. -/
def installTimeout (line : CommandLine) : Option Nat :=
  match line.command with
  | .install timeout _ _ => timeout
  | _ => none

/-- The new adapter is to keep the alias that the system gave it. -/
def keepsAlias (line : CommandLine) : Bool :=
  match line.command with
  | .install _ keepAlias _ => keepAlias
  | _ => false

end CommandLine

/-- Why the words of a command line mean no command. -/
inductive Refusal
  | unknownArgument
  /-- An option stands without its value, or with an empty one where that has no meaning. -/
  | invalidValue
  /-- The value of an option is not of its kind. -/
  | valueValidation
  | missingRequiredArgument
  | missingSubcommand
  | invalidSubcommand
  /-- An option stands twice. -/
  | argumentConflict
  /-- A switch stands with a value. -/
  | tooManyValues
  | displayHelp
  | displayVersion
  /-- There is no word that says anything. -/
  | displayHelpOnMissing
deriving DecidableEq, Repr

/-- The refusal in words. -/
def Refusal.message : Refusal → String
  | unknownArgument => "unexpected argument found"
  | invalidValue => "a value is required for an option"
  | valueValidation => "invalid value for an option"
  | missingRequiredArgument => "a required argument was not provided"
  | missingSubcommand => "a subcommand is required"
  | invalidSubcommand => "unrecognized subcommand"
  | argumentConflict => "an option cannot be used multiple times"
  | tooManyValues => "unexpected value for an option"
  | displayHelp => "help was requested"
  | displayVersion => "the version was requested"
  | displayHelpOnMissing => "a subcommand is required"

end TapTracker
