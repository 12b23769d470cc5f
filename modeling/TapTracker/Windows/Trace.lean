import TapTracker.Windows.System

/-!
# Traces of calls

`System.traced` is a system that answers as another one does and keeps the list of the calls that
have been made, in their order.  What has been opened and not closed, and what the renaming tool was
given, can be read off the list.
-/

namespace TapTracker.Windows

/-- A call of the operating system, with the part of its answer that matters for handles. -/
inductive Call
  | openDevices (opened : Option DeviceSet)
  | closeDevices (set : DeviceSet)
  | device (set : DeviceSet) (index : Nat)
  | readProperty (set : DeviceSet) (d : Device) (property : Property)
  | openDriverKey (set : DeviceSet) (d : Device) (opened : Option RegistryKey)
  | closeKey (key : RegistryKey)
  | readValue (key : RegistryKey) (name : String)
  | readMachineValue (path name : String)
  | removeDevice (set : DeviceSet) (d : Device)
  | interface (guid : Guid)
  | interfaceAlias (interface : Interface)
  | runTool (arguments : List String) (ended : ToolEnd)
deriving DecidableEq

/-- Calls in the order in which they were made. -/
abbrev Trace := List Call

namespace Trace

/-- The number of device sets that have been opened and not closed. -/
def openSets : Trace → Int
  | [] => 0
  | .openDevices (some _) :: rest => openSets rest + 1
  | .closeDevices _ :: rest => openSets rest - 1
  | _ :: rest => openSets rest

/-- The number of registry keys that have been opened and not closed. -/
def openKeys : Trace → Int
  | [] => 0
  | .openDriverKey _ _ (some _) :: rest => openKeys rest + 1
  | .closeKey _ :: rest => openKeys rest - 1
  | _ :: rest => openKeys rest

/-- The arguments that the renaming tool was run with, one run after the other. -/
def toolArguments : Trace → List String
  | [] => []
  | .runTool arguments (.exited _) :: rest => arguments ++ toolArguments rest
  | _ :: rest => toolArguments rest

end Trace

variable {m : Type → Type} [Monad m]

/-- Makes a call and adds it to the trace. -/
def traceCall {α : Type} (act : m α) (call : α → Call) : StateT Trace m α := do
  let answer ← act
  modify (· ++ [call answer])
  return answer

/-- The system that keeps a trace. -/
def System.traced (sys : System m) : System (StateT Trace m) where
  openDevices := traceCall sys.openDevices fun answer => .openDevices answer.toOption
  closeDevices set := traceCall (sys.closeDevices set) fun _ => .closeDevices set
  device set index := traceCall (sys.device set index) fun _ => .device set index
  readProperty set d property buffer :=
    traceCall (sys.readProperty set d property buffer) fun _ => .readProperty set d property
  openDriverKey set d :=
    traceCall (sys.openDriverKey set d) fun answer => .openDriverKey set d answer.toOption
  closeKey key := traceCall (sys.closeKey key) fun _ => .closeKey key
  readValue key name capacity :=
    traceCall (sys.readValue key name capacity) fun _ => .readValue key name
  readMachineValue path name capacity :=
    traceCall (sys.readMachineValue path name capacity) fun _ => .readMachineValue path name
  removeDevice set d := traceCall (sys.removeDevice set d) fun _ => .removeDevice set d
  interface guid := traceCall (sys.interface guid) fun _ => .interface guid
  interfaceAlias i capacity :=
    traceCall (sys.interfaceAlias i capacity) fun _ => .interfaceAlias i
  runTool arguments := traceCall (sys.runTool arguments) fun ended => .runTool arguments ended

end TapTracker.Windows
