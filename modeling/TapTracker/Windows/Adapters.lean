import TapTracker.Adapter.Platform
import TapTracker.Text.LowerCase
import TapTracker.Windows.Devices

/-!
# Adapters of the operating system

`platform` is the platform over the calls of the operating system.

An enumeration walks the network devices in the order of their indices and answers a record for
every device that belongs to the class and has an instance identifier.  A removal walks them until
it meets the instance identifier it was given, ASCII letters of either case being the same, and
removes that device.  Renaming is left to a tool, whose two last arguments carry the names in
quotation marks as they are.
-/

namespace TapTracker.Windows

variable {m : Type → Type} [Monad m]

/-! ### Enumeration -/

/-- The record of a device, if it belongs to the class and can be identified. -/
def readAdapter (sys : System m) (set : DeviceSet) (cls : AdapterClass) (d : Device) :
    m (Option TapAdapter) := do
  match ← description sys set d with
  | none => return none
  | some deviceName =>
    if cls.includes deviceName then
      match ← instanceId sys set d with
      | none => return none
      | some identifier =>
        let aliasName ← adapterAlias sys identifier
        return some ⟨identifier, deviceName, aliasName.getD ""⟩
    else return none

/-- The records of the devices from an index on, of at most `count` devices.  When the indices are
used up, the walk ends as if no device were left: the index would overflow there, and no set of
devices is so large. -/
def readAdapters (sys : System m) (set : DeviceSet) (cls : AdapterClass) :
    (count index : Nat) → m (Except SystemError (List TapAdapter))
  | 0, _ => return .ok []
  | count + 1, index => do
    match ← deviceAt sys set index with
    | .error e => return .error e
    | .ok none => return .ok []
    | .ok (some d) =>
      let adapter ← readAdapter sys set cls d
      let others ← readAdapters sys set cls count (index + 1)
      return others.map (adapter.toList ++ ·)

/-- The adapters of a class. -/
def enumerate (sys : System m) (cls : AdapterClass) :
    m (Except EnumerateError (List TapAdapter)) :=
  withDevices sys .system fun set => do
    let adapters ← readAdapters sys set cls indexCount 0
    return adapters.mapError .system

/-! ### Removal -/

/-- The first device from an index on, among at most `count` devices, with an instance identifier.
When the indices are used up, the walk ends as if no device were left, as with `readAdapters`. -/
def findDevice (sys : System m) (set : DeviceSet) (identifier : String) :
    (count index : Nat) → m (Except SystemError (Option Device))
  | 0, _ => return .ok none
  | count + 1, index => do
    match ← deviceAt sys set index with
    | .error e => return .error e
    | .ok none => return .ok none
    | .ok (some d) =>
      match ← instanceId sys set d with
      | none => findDevice sys set identifier count (index + 1)
      | some found =>
        if Text.EqIgnoringAsciiCase found identifier then return .ok (some d)
        else findDevice sys set identifier count (index + 1)

/-- Removes the first device with an instance identifier. -/
def remove (sys : System m) (identifier : String) : m (Except RemoveError Unit) :=
  withDevices sys .system fun set => do
    match ← findDevice sys set identifier indexCount 0 with
    | .error e => return .error (.system e)
    | .ok none => return .error (.notFound identifier)
    | .ok (some d) =>
      let answer ← sys.removeDevice set d
      return answer.mapError .system

/-! ### Renaming -/

/-- The arguments of the tool that renames connections. -/
def renameArguments (aliasName newAlias : String) : List String :=
  ["interface", "set", "interface", "name=\"" ++ aliasName ++ "\"",
   "newname=\"" ++ newAlias ++ "\""]

/-- Gives an adapter another alias. -/
def rename (sys : System m) (adapter : TapAdapter) (newAlias : String) :
    m (Except RenameError Unit) := do
  match ← sys.runTool (renameArguments adapter.aliasName newAlias) with
  | .notStarted reason => return .error (.notStarted reason)
  | .exited status => return if status.succeeded then .ok () else .error (.failed status)

/-- The platform over the calls of the operating system. -/
def platform (sys : System m) : Platform m where
  enumerate := enumerate sys
  remove := remove sys
  rename := rename sys

end TapTracker.Windows
