import TapTracker.Text.Utf16
import TapTracker.Windows.System

/-!
# Reading devices

A device has a description, the friendly name if that can be read, and an instance identifier in
the registry key of its driver.  The alias of an adapter is the alias of its interface or, where
there is none because the adapter is disabled, the name that is stored with its connection.

What cannot be read is absent; no fault of one reading stops the others.  A key is closed as soon
as its value has been read, and a set as soon as the walk through it is over.
-/

namespace TapTracker.Windows

open TapTracker.Text

/-! ### Limits and names -/

/-- The size in bytes of the buffer that a property is first read into. -/
def initialPropertySize : Nat := 256

/-- How often a property is read before it is given up. -/
def propertyAttempts : Nat := 3

/-- The capacity in units of the buffers for texts of the registry and for aliases. -/
def textCapacity : Nat := 257

/-- The number of the indices of a walk: an index is a word of 32 bits.  A set with a device at each
of them would make the index overflow; a walk ends there as if no device were left. -/
def indexCount : Nat := UInt32.size

/-- The name of the value with the instance identifier. -/
def instanceIdName : String := "NetCfgInstanceId"

/-- The path of the settings of the network connections. -/
def connectionsPath : String :=
  "SYSTEM\\CurrentControlSet\\Control\\Network\\\x7b4D36E972-E325-11CE-BFC1-08002BE10318\x7d"

/-- The path of the settings of one connection. -/
def connectionPath (identifier : String) : String :=
  connectionsPath ++ "\\" ++ identifier ++ "\\Connection"

variable {m : Type → Type} [Monad m]

/-! ### Properties -/

/-- The buffer with another size: cut off, or followed by zeros. -/
def resize (size : Nat) (buffer : List UInt8) : List UInt8 :=
  buffer.take size ++ List.replicate (size - buffer.length) 0

/-- The text of a property, read with at most a number of attempts.  When the buffer is too small,
it is given the size that was asked for. -/
def readTextProperty (sys : System m) (set : DeviceSet) (d : Device) (property : Property) :
    (attempts : Nat) → (buffer : List UInt8) → m (Option String)
  | 0, _ => return none
  | attempts + 1, buffer => do
    let read ← sys.readProperty set d property buffer
    match read.outcome with
    | .ok () => return some (Utf16.decodeBytes (read.buffer.take read.required))
    | .error e =>
      if e = .insufficientBuffer then
        readTextProperty sys set d property attempts (resize read.required read.buffer)
      else return none

/-- The text of a property. -/
def textProperty (sys : System m) (set : DeviceSet) (d : Device) (property : Property) :
    m (Option String) :=
  readTextProperty sys set d property propertyAttempts (List.replicate initialPropertySize 0)

/-- The description of a device. -/
def description (sys : System m) (set : DeviceSet) (d : Device) : m (Option String) := do
  match ← textProperty sys set d .friendlyName with
  | some name => return some name
  | none => textProperty sys set d .description

/-! ### The registry -/

/-- The instance identifier of a device. -/
def instanceId (sys : System m) (set : DeviceSet) (d : Device) : m (Option String) := do
  match ← sys.openDriverKey set d with
  | .error _ => return none
  | .ok key =>
    let value ← sys.readValue key instanceIdName textCapacity
    let _ ← sys.closeKey key
    return value.toOption.map Utf16.decodeStored

/-- The alias of the interface of an adapter. -/
def interfaceAlias (sys : System m) (identifier : String) : m (Option String) := do
  match Guid.ofText? identifier with
  | none => return none
  | some guid =>
    match ← sys.interface guid with
    | .error _ => return none
    | .ok interface =>
      let units ← sys.interfaceAlias interface textCapacity
      return units.toOption.map Utf16.decodeStored

/-- The name that is stored with the connection of an adapter. -/
def connectionName (sys : System m) (identifier : String) : m (Option String) := do
  let name ← sys.readMachineValue (connectionPath identifier) "Name" textCapacity
  return name.toOption.map Utf16.decodeStored

/-- The alias of an adapter. -/
def adapterAlias (sys : System m) (identifier : String) : m (Option String) := do
  match ← interfaceAlias sys identifier with
  | some aliasName => return some aliasName
  | none => connectionName sys identifier

/-! ### Sets -/

/-- The device at an index, or `none` after the last one. -/
def deviceAt (sys : System m) (set : DeviceSet) (index : Nat) :
    m (Except SystemError (Option Device)) := do
  match ← sys.device set index with
  | .ok d => return .ok (some d)
  | .error e => return if e = .noMoreItems then .ok none else .error e

/-- Opens the set of the network devices, works on it and closes it. -/
def withDevices {ε α : Type} (sys : System m) (failed : SystemError → ε)
    (work : DeviceSet → m (Except ε α)) : m (Except ε α) := do
  match ← sys.openDevices with
  | .error e => return .error (failed e)
  | .ok set =>
    let answer ← work set
    let _ ← sys.closeDevices set
    return answer

end TapTracker.Windows
