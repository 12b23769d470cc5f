import TapTracker.Adapter.Failure
import TapTracker.Windows.Guid

/-!
# Calls of the operating system

A `System` is the handful of calls by which network devices are walked, read, removed and renamed.
A device set and a registry key are opened and have to be closed; a device is known by its place in
an open set.  Texts in the registry are read into a buffer of a fixed capacity, in units of UTF-16.
-/

namespace TapTracker.Windows

/-- An open set of devices. -/
structure DeviceSet where
  handle : Nat
deriving DecidableEq, Repr

/-- A device of an open set. -/
structure Device where
  number : Nat
deriving DecidableEq, Repr

/-- An open key of the registry. -/
structure RegistryKey where
  handle : Nat
deriving DecidableEq, Repr

/-- A network interface that is up. -/
structure Interface where
  number : Nat
deriving DecidableEq, Repr

/-- A property of a device. -/
inductive Property
  | friendlyName
  | description
deriving DecidableEq, Repr

/-- What a read of a property leaves behind. -/
structure PropertyRead where
  outcome : Except SystemError Unit
  /-- The buffer after the read, of the same length as before. -/
  buffer : List UInt8
  /-- The number of bytes that the property is said to need. -/
  required : Nat

/-- How a run of the tool that renames connections ended. -/
inductive ToolEnd
  | notStarted (reason : String)
  | exited (status : ExitStatus)
deriving DecidableEq, Repr

/-- The calls of the operating system. -/
structure System (m : Type → Type) where
  /-- Opens the set of the network devices that are present. -/
  openDevices : m (Except SystemError DeviceSet)
  closeDevices : DeviceSet → m (Except SystemError Unit)
  /-- The device at an index of a set. -/
  device : DeviceSet → (index : Nat) → m (Except SystemError Device)
  /-- Reads a property into a buffer. -/
  readProperty : DeviceSet → Device → Property → (buffer : List UInt8) → m PropertyRead
  /-- Opens the key of the driver of a device. -/
  openDriverKey : DeviceSet → Device → m (Except SystemError RegistryKey)
  closeKey : RegistryKey → m (Except SystemError Unit)
  /-- Reads a text under an open key. -/
  readValue : RegistryKey → (name : String) → (capacity : Nat) →
    m (Except SystemError (List UInt16))
  /-- Reads a text under a path from the root of the settings of the machine. -/
  readMachineValue : (path name : String) → (capacity : Nat) →
    m (Except SystemError (List UInt16))
  removeDevice : DeviceSet → Device → m (Except SystemError Unit)
  /-- The interface of an adapter, if it is up. -/
  interface : Guid → m (Except SystemError Interface)
  interfaceAlias : Interface → (capacity : Nat) → m (Except SystemError (List UInt16))
  /-- Runs the tool that renames connections with arguments that are not quoted again. -/
  runTool : List String → m ToolEnd

end TapTracker.Windows
