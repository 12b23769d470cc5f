import TapTracker.Run.Install
import TapTracker.Run.Listing
import TapTracker.Tracker.Deletion

/-!
# Commands

`execute` runs a command with its settings on a `Machine` and answers the text that the command
prints.  Writing a configuration file needs no settings and is no part of it.
-/

namespace TapTracker

/-- What a command works on. -/
structure Machine (m : Type → Type) where
  platform : Platform m
  /-- Runs a program and answers how it ended. -/
  runProcess : InstallerCommand → m ProcessEnd

variable {m : Type → Type} [Monad m]

/-- Lists the adapters. -/
def executeList (p : Platform m) (settings : Settings) (asJson : Bool) :
    m (Except RunError String) := do
  let captured ← p.capture settings.adapterClass
  match captured with
  | .error e => return .error (.tracker (.enumerate e))
  | .ok adapters => return .ok (adapters.render settings.owns asJson)

/-- Classifies the adapters. -/
def executeBaseline (p : Platform m) (settings : Settings) : m (Except RunError String) := do
  let (_, status) ←
    (BaselineTracker.new settings.adapterClass settings.owns).establishBaseline p
  match status with
  | .error e => return .error (.tracker e)
  | .ok status => return .ok status.name

/-- Runs an installer, after checking that there is one. -/
def executeInstall (machine : Machine m) (settings : Settings) (installer : List String) :
    m (Except RunError String) := do
  match InstallerCommand.ofCommandLine installer (1000 * settings.installTimeout) with
  | .error e => return .error e
  | .ok command =>
    match ← installCycle machine.platform settings (command.install machine.runProcess) with
    | .error e => return .error e
    | .ok outcome => return .ok outcome.describe

/-- Removes the adapter of the product. -/
def removeProductAdapter (p : Platform m) (settings : Settings) :
    m (Except RunError DeletionResult) := do
  let result ← (deleteProductAdapter p settings.adapterClass settings.owns).run
  return result.mapError .tracker

/-- Removes the adapter of the product and says what remains. -/
def executeRemove (p : Platform m) (settings : Settings) : m (Except RunError String) := do
  let result ← removeProductAdapter p settings
  return result.map (·.name)

/-- Runs a command; the answer is what it prints, if it prints anything. -/
def execute (machine : Machine m) (settings : Settings) :
    Command → m (Except RunError (Option String))
  | .init _ => return .ok none
  | .list asJson => do
    let answer ← executeList machine.platform settings asJson
    return answer.map some
  | .baseline => do
    let answer ← executeBaseline machine.platform settings
    return answer.map some
  | .install _ _ installer => do
    let answer ← executeInstall machine settings installer
    return answer.map some
  | .remove => do
    let answer ← executeRemove machine.platform settings
    return answer.map some

end TapTracker
