import TapTracker.Adapter.Platform
import TapTracker.Run.Error

/-!
# A simulated platform

A `Testbed` is the state of a simulated system: its devices, the failures that have been planned
for it, and a log of what was asked of it.  The answers of enumerations either come from the
devices, or one by one from a script that has been written beforehand; then removals and renamings
are only logged.

`Testbed.platform` is the platform over this state.
-/

namespace TapTracker.Simulation

/-- A renaming that was asked for: the record as it was before, and the new alias. -/
structure Renaming where
  adapter : TapAdapter
  newAlias : String
deriving DecidableEq, Repr

/-- The state of a simulated system. -/
structure Testbed where
  devices : List TapAdapter
  /-- The answers of the enumerations to come, where they do not come from the devices. -/
  script : Option (List (Except EnumerateError (List TapAdapter)))
  /-- Enumerations answer only records of the class they are asked for. -/
  filtered : Bool
  enumerateFault : Option EnumerateError
  removeFault : Option RemoveError
  renameFault : Option RenameError
  /-- The number of enumerations so far. -/
  enumerations : Nat
  /-- The identifiers that removals were asked for. -/
  removed : List String
  renamings : List Renaming

namespace Testbed

/-- A system with devices, without a fault and without a log. -/
def ofDevices (devices : List TapAdapter) : Testbed :=
  ⟨devices, none, false, none, none, none, 0, [], []⟩

/-! ### Devices -/

/-- The system with one more device. -/
def plug (b : Testbed) (a : TapAdapter) : Testbed :=
  { b with devices := b.devices ++ [a] }

/-- The system without the devices that have an identifier. -/
def unplug (b : Testbed) (identifier : String) : Testbed :=
  { b with devices := b.devices.filter fun a => !a.hasIdentifier identifier }

/-- The system with another alias on the devices that have an identifier. -/
def setAlias (b : Testbed) (identifier newAlias : String) : Testbed :=
  { b with devices := b.devices.map fun a =>
      if a.hasIdentifier identifier then { a with aliasName := newAlias } else a }

/-- The records that an enumeration of a class answers. -/
def visible (b : Testbed) (cls : AdapterClass) (devices : List TapAdapter) : List TapAdapter :=
  if b.filtered then devices.filter fun a => cls.includes a.deviceName else devices

/-! ### The platform -/

/-- The answer of an enumeration, and the system after it. -/
def enumerate (b : Testbed) (cls : AdapterClass) :
    Except EnumerateError (List TapAdapter) × Testbed :=
  let b := { b with enumerations := b.enumerations + 1 }
  match b.script with
  | some [] => (.ok [], b)
  | some (answer :: answers) => (answer.map (b.visible cls), { b with script := some answers })
  | none =>
    match b.enumerateFault with
    | some e => (.error e, b)
    | none => (.ok (b.visible cls b.devices), b)

/-- The answer of a removal, and the system after it. -/
def remove (b : Testbed) (identifier : String) : Except RemoveError Unit × Testbed :=
  let b := { b with removed := b.removed ++ [identifier] }
  match b.removeFault, b.script with
  | some e, _ => (.error e, b)
  | none, some _ => (.ok (), b)
  | none, none => (.ok (), b.unplug identifier)

/-- The answer of a renaming, and the system after it. -/
def rename (b : Testbed) (a : TapAdapter) (newAlias : String) :
    Except RenameError Unit × Testbed :=
  let b := { b with renamings := b.renamings ++ [Renaming.mk a newAlias] }
  match b.renameFault, b.script with
  | some e, _ => (.error e, b)
  | none, some _ => (.ok (), b)
  | none, none => (.ok (), b.setAlias a.identifier newAlias)

/-- The simulated system as a platform. -/
def platform : Platform (StateM Testbed) where
  enumerate cls := modifyGet (·.enumerate cls)
  remove identifier := modifyGet (·.remove identifier)
  rename a newAlias := modifyGet (·.rename a newAlias)

end Testbed

/-! ### A planned installation -/

/-- An installation that drops devices, adds devices and then succeeds or fails. -/
structure PlannedInstall where
  drops : List String
  adds : List TapAdapter
  answer : Except RunError Unit

namespace PlannedInstall

/-- The system after the installation. -/
def apply (i : PlannedInstall) (b : Testbed) : Testbed :=
  i.adds.foldl Testbed.plug (i.drops.foldl Testbed.unplug b)

/-- Runs the installation. -/
def install (i : PlannedInstall) : StateM Testbed (Except RunError Unit) := do
  modify i.apply
  return i.answer

end PlannedInstall

end TapTracker.Simulation
