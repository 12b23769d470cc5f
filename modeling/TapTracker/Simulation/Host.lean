import TapTracker.Text.LowerCase
import TapTracker.Text.Utf16
import TapTracker.Windows.Devices

/-!
# A simulated operating system

A `Host` answers the calls of an operating system from tables: its devices with what can be read of
them, the interfaces that are up, the stored names of connections, and the failures that have been
planned.  `Host.system` are the calls over this state.

A property may be planned to be moody: it asks for larger buffers a number of times, or reports
another size than its own.
-/

namespace TapTracker.Simulation

open TapTracker.Text TapTracker.Windows

/-! ### Devices -/

/-- A property of a device, as it is stored. -/
structure StoredProperty where
  /-- The bytes, or the number of the error with which every read fails. -/
  content : Except Nat (List UInt8)
  /-- The sizes that the next reads ask for, one by one. -/
  asks : List Nat
  /-- The size that is reported in place of the size of the bytes. -/
  reported : Option Nat

namespace StoredProperty

/-- A property that every read fails on. -/
def failing (number : Nat) : StoredProperty := ⟨.error number, [], none⟩

/-- A property that is not there. -/
def missing : StoredProperty := failing 13

/-- A property with some bytes. -/
def ofBytes (bytes : List UInt8) : StoredProperty := ⟨.ok bytes, [], none⟩

/-- A property with a text, which ends with a zero unit. -/
def ofText (text : String) : StoredProperty :=
  ofBytes (Utf16.bytesOfUnits (Utf16.encode text.toList ++ [0]))

/-- A read into a buffer, and the property after it. -/
def read (p : StoredProperty) (buffer : List UInt8) : PropertyRead × StoredProperty :=
  match p.asks, p.content with
  | size :: asks, _ => (⟨.error .insufficientBuffer, buffer, size⟩, { p with asks })
  | [], .error number => (⟨.error (.ofNumber number), buffer, 0⟩, p)
  | [], .ok bytes =>
    let required := p.reported.getD bytes.length
    if buffer.length < bytes.length then (⟨.error .insufficientBuffer, buffer, required⟩, p)
    else (⟨.ok (), bytes ++ buffer.drop bytes.length, required⟩, p)

end StoredProperty

/-- A device and the errors that are planned for it, by their numbers. -/
structure HostDevice where
  friendlyName : StoredProperty
  description : StoredProperty
  instanceId : Option String
  indexFault : Option Nat
  keyFault : Option Nat
  removeFault : Option Nat

namespace HostDevice

/-- One of the properties. -/
def property (d : HostDevice) : Property → StoredProperty
  | .friendlyName => d.friendlyName
  | .description => d.description

/-- The device with another state of one of its properties. -/
def setProperty (d : HostDevice) (stored : StoredProperty) : Property → HostDevice
  | .friendlyName => { d with friendlyName := stored }
  | .description => { d with description := stored }

end HostDevice

/-! ### The host -/

/-- The state of the operating system. -/
structure Host where
  /-- The devices under their numbers, in the order of the walk. -/
  devices : List (Nat × HostDevice)
  /-- The number of the next device. -/
  nextNumber : Nat
  /-- The number of the next handle. -/
  nextHandle : Nat
  /-- The keys that are open, and the devices that they belong to. -/
  openKeys : List (Nat × Nat)
  classFault : Option Nat
  endFault : Option Nat
  closeDevicesFault : Option Nat
  closeKeyFault : Option Nat
  /-- The aliases of the interfaces, under the digits of their identifiers. -/
  interfaces : List (String × Option String)
  /-- The stored names of the connections, under the identifiers of the adapters. -/
  connections : List (String × Option String)
  /-- The exit code of the renaming tool, if there is the tool. -/
  tool : Option Nat

namespace Host

/-- The host without devices, faults or tables. -/
def empty : Host := ⟨[], 0, 0, [], none, none, none, none, [], [], none⟩

/-- The host with one more device, the last one of the walk. -/
def plug (h : Host) (d : HostDevice) : Host :=
  { h with devices := h.devices ++ [(h.nextNumber, d)], nextNumber := h.nextNumber + 1 }

/-- The device with a number. -/
def find? (h : Host) (number : Nat) : Option HostDevice :=
  (h.devices.find? (·.1 == number)).map (·.2)

/-- An answer that is an error if one is planned. -/
def answerUnless {α : Type} (fault : Option Nat) (answer : α) : Except SystemError α :=
  match fault with
  | some number => .error (.ofNumber number)
  | none => .ok answer

/-- The units of a stored text, if they and the zero after them fit. -/
def readText (capacity : Nat) : Option String → Except SystemError (List UInt16)
  | none => .error .notFound
  | some text =>
    let units := Utf16.encode text.toList ++ [0]
    if units.length ≤ capacity then .ok units else .error (.ofNumber 234)

/-! ### Calls -/

/-- Opens the set of the devices. -/
def openDevices (h : Host) : Except SystemError DeviceSet × Host :=
  match h.classFault with
  | some number => (.error (.ofNumber number), h)
  | none => (.ok ⟨h.nextHandle⟩, { h with nextHandle := h.nextHandle + 1 })

/-- The device at an index. -/
def device (h : Host) (index : Nat) : Except SystemError Device :=
  match h.devices[index]? with
  | some (number, d) => answerUnless d.indexFault ⟨number⟩
  | none =>
    match h.endFault with
    | some number => .error (.ofNumber number)
    | none => .error .noMoreItems

/-- Reads a property of a device. -/
def readProperty (h : Host) (d : Device) (property : Property) (buffer : List UInt8) :
    PropertyRead × Host :=
  match h.find? d.number with
  | none => (⟨.error .invalidData, buffer, 0⟩, h)
  | some stored =>
    let (answer, after) := (stored.property property).read buffer
    (answer,
      { h with devices := h.devices.map fun (number, other) =>
          if number = d.number then (number, other.setProperty after property)
          else (number, other) })

/-- Opens the key of the driver of a device. -/
def openDriverKey (h : Host) (d : Device) : Except SystemError RegistryKey × Host :=
  match h.find? d.number with
  | none => (.error .notFound, h)
  | some stored =>
    match stored.keyFault with
    | some number => (.error (.ofNumber number), h)
    | none =>
      (.ok ⟨h.nextHandle⟩,
        { h with
          nextHandle := h.nextHandle + 1
          openKeys := (h.nextHandle, d.number) :: h.openKeys })

/-- Closes a key. -/
def closeKey (h : Host) (key : RegistryKey) : Except SystemError Unit × Host :=
  (answerUnless h.closeKeyFault (), { h with openKeys := h.openKeys.filter (·.1 ≠ key.handle) })

/-- Reads a text under an open key. -/
def readValue (h : Host) (key : RegistryKey) (name : String) (capacity : Nat) :
    Except SystemError (List UInt16) :=
  match h.openKeys.find? (·.1 == key.handle) with
  | none => .error .notFound
  | some (_, number) =>
    if name = instanceIdName then readText capacity ((h.find? number).bind (·.instanceId))
    else .error .notFound

/-- Reads the stored name of a connection. -/
def readMachineValue (h : Host) (path name : String) (capacity : Nat) :
    Except SystemError (List UInt16) :=
  let found := h.connections.find? fun (identifier, _) =>
    decide (EqIgnoringAsciiCase (connectionPath identifier) path)
  if name = "Name" then readText capacity (found.bind (·.2)) else .error .notFound

/-- Removes a device. -/
def removeDevice (h : Host) (d : Device) : Except SystemError Unit × Host :=
  match (h.find? d.number).bind (·.removeFault) with
  | some number => (.error (.ofNumber number), h)
  | none => (.ok (), { h with devices := h.devices.filter (·.1 ≠ d.number) })

/-- The interface of an adapter. -/
def interface (h : Host) (guid : Guid) : Except SystemError Interface :=
  match h.interfaces.findIdx? (·.1 == guid.hexText) with
  | some number => .ok ⟨number⟩
  | none => .error .notFound

/-- The alias of an interface. -/
def interfaceAlias (h : Host) (i : Interface) (capacity : Nat) :
    Except SystemError (List UInt16) :=
  readText capacity (h.interfaces[i.number]?.bind (·.2))

/-- Runs the renaming tool. -/
def runTool (h : Host) (arguments : List String) : ToolEnd :=
  if arguments.any (·.contains '\x00') then .notStarted "nul byte found in provided data"
  else
    match h.tool with
    | none => .notStarted "No such file or directory (os error 2)"
    | some code => .exited (.code (code % 256))

/-- The calls over the state of the host. -/
def system : System (StateM Host) where
  openDevices := modifyGet openDevices
  closeDevices _ := do return answerUnless (← get).closeDevicesFault ()
  device _ index := do return (← get).device index
  readProperty _ d property buffer := modifyGet (·.readProperty d property buffer)
  openDriverKey _ d := modifyGet (·.openDriverKey d)
  closeKey key := modifyGet (·.closeKey key)
  readValue key name capacity := do return (← get).readValue key name capacity
  readMachineValue path name capacity := do return (← get).readMachineValue path name capacity
  removeDevice _ d := modifyGet (·.removeDevice d)
  interface guid := do return (← get).interface guid
  interfaceAlias i capacity := do return (← get).interfaceAlias i capacity
  runTool arguments := do return (← get).runTool arguments

end Host

end TapTracker.Simulation
