import TapTracker.Run.Program
import TapTracker.Simulation.Folder
import TapTracker.Simulation.Programs
import TapTracker.Simulation.Testbed

/-!
# A simulated world

A `Stage` is the state of all that the program works on: a platform, or none that is supported, and
a folder of files.  `Stage.world` is the world over this state, with the programs of a simulated
system.
-/

namespace TapTracker.Simulation

/-- The state of a simulated world. -/
structure Stage where
  testbed : Option Testbed
  folder : Folder

namespace Stage

/-- An operation of the platform, or its answer where there is no platform. -/
def onTestbed {α : Type} (refusal : α) (act : Testbed → α × Testbed) (s : Stage) : α × Stage :=
  match s.testbed with
  | none => (refusal, s)
  | some b =>
    let (answer, b) := act b
    (answer, { s with testbed := some b })

/-- The platform of the world. -/
def platform : Platform (StateM Stage) where
  enumerate cls := modifyGet (onTestbed (.error .unsupported) (·.enumerate cls))
  remove identifier := modifyGet (onTestbed (.error .unsupported) (·.remove identifier))
  rename a newAlias := modifyGet (onTestbed (.error .unsupported) (·.rename a newAlias))

/-- Writes a text into the folder. -/
def writeText (path text : String) (s : Stage) : Except String Unit × Stage :=
  match s.folder.writeText path text with
  | .error e => (.error e.message, s)
  | .ok folder => (.ok (), { s with folder })

/-- The files of the world. -/
def storage : Storage (StateM Stage) where
  readText path := do return ((← get).folder.readText path).mapError (·.message)
  writeText path text := modifyGet (writeText path text)

/-- The world, in which the runtime always starts. -/
def world : World (StateM Stage) where
  platform := platform
  runProcess command := return programEnd command
  storage := storage
  startRuntime := return .ok ()

end Stage

end TapTracker.Simulation
