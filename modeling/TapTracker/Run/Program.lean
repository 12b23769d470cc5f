import TapTracker.CommandLine.Parser
import TapTracker.Run.Execute
import TapTracker.Storage.Basic

/-!
# The program

`runProgram` runs the program with the words of its command line on a `World` and answers what a
user sees of it, an `Ending`: the exit code, the text printed as the result, the failure that is
reported, the advice that goes with it and, if the words mean nothing, why they were refused.

The exit code is 0 for success, 1 for a fault of the configuration, 2 for words that mean nothing,
for a runtime that does not start and for a run that failed, and 3 for an installation that broke
the contract of the tracker.
-/

namespace TapTracker

/-- What the program works on. -/
structure World (m : Type → Type) extends Machine m where
  storage : Storage m
  /-- Starts the runtime that commands with settings are run on, or says why it does not start. -/
  startRuntime : m (Except String Unit)

/-- What a user sees of a run of the program. -/
structure Ending where
  code : Nat
  printed : Option String
  failure : Option String
  hint : Option String
  refusal : Option Refusal
deriving DecidableEq, Repr

/-! ### Endings -/

/-- The name and the version of the program. -/
def versionLine : String := "driverlogic 0.1.0"

/-- How the program is called. -/
def usageLine : String := "Usage: driverlogic [OPTIONS] <init|list|baseline|install|remove|help>"

namespace Ending

/-- A run that went well. -/
def success (printed : Option String) : Ending := ⟨0, printed, none, none, none⟩

/-- The words of the command line mean no command. -/
def ofRefusal : Refusal → Ending
  | .displayHelp => success (some usageLine)
  | .displayVersion => success (some versionLine)
  | refusal => ⟨2, none, none, none, some refusal⟩

/-- The runtime for commands does not start. -/
def ofStartFault (reason : String) : Ending :=
  ⟨2, none, some ("Failed to create Tokio runtime: " ++ reason), none, none⟩

/-- The exit code of a failed run. -/
def runCode (e : RunError) : Nat := if e.isPrecondition then 3 else 2

/-- The run of a command. -/
def ofRun : Except RunError (Option String) → Ending
  | .ok printed => success printed
  | .error e => ⟨runCode e, none, some e.message, none, none⟩

/-- The configuration cannot be used. -/
def ofConfigError (e : ConfigError) : Ending :=
  ⟨1, none, some ("Configuration error: " ++ e.message), e.hint?, none⟩

/-- The configuration file for a start was written, or could not be. -/
def ofTemplate (path : String) : Except ConfigError Unit → Ending
  | .ok () => success (some ("Configuration template written to: " ++ path))
  | .error e => ⟨1, none, some ("Error: " ++ e.message), none, none⟩

end Ending

/-! ### Runs -/

variable {m : Type → Type} [Monad m]

/-- Runs a command with settings, on a runtime that is started first. -/
def runApplication (world : World m) (settings : Settings) (command : Command) : m Ending := do
  match ← world.startRuntime with
  | .error reason => return .ofStartFault reason
  | .ok () =>
    let answer ← execute world.toMachine settings command
    return .ofRun answer

/-- Runs a command line. -/
def runCommandLine (world : World m) (line : CommandLine) : m Ending := do
  match line.command with
  | .init output =>
    let answer ← writeTemplate world.storage output
    return .ofTemplate output answer
  | command =>
    match ← Settings.load world.storage line with
    | .error e => return .ofConfigError e
    | .ok settings => runApplication world settings command

/-- Runs the program with the words of its command line. -/
def runProgram (world : World m) (words : List String) : m Ending :=
  match CommandLine.ofWords words with
  | .error refusal => return .ofRefusal refusal
  | .ok line => runCommandLine world line

end TapTracker
