import TapTracker.Text.Quoted
import TapTracker.Tracker.Baseline

/-!
# Trackers in words

`BaselineTracker.describe` shows the class of a tracker and its snapshots in one line, for logs.
Texts are quoted, so that the line stays one line.  Records are written field by field, in the
order of the set, and a snapshot that has not been captured is written as `None`.
-/

namespace TapTracker

open TapTracker.Text

/-- Fields with their values, between braces after a name. -/
def describeFields (name : String) (fields : List (String × String)) : String :=
  name ++ " \x7b " ++ ", ".intercalate (fields.map fun (field, value) => field ++ ": " ++ value) ++
    " \x7d"

/-- The record field by field. -/
def TapAdapter.describeAll (a : TapAdapter) : String :=
  describeFields "TapAdapter"
    [("identifier", quoted a.identifier), ("device_name", quoted a.deviceName),
     ("alias", quoted a.aliasName)]

/-- The records of the set between braces. -/
def AdapterSet.describeAll (s : AdapterSet) : String :=
  describeFields "AdapterSet"
    [("adapters", "\x7b" ++ ", ".intercalate (s.adapters.map (·.describeAll)) ++ "\x7d")]

/-- The snapshot, if there is one. -/
def AdapterSet.describeSnapshot : Option AdapterSet → String
  | none => "None"
  | some s => "Some(" ++ s.describeAll ++ ")"

/-- The class and the snapshots of the tracker. -/
def BaselineTracker.describe (t : BaselineTracker) : String :=
  "BaselineTracker \x7b class: " ++ quoted t.adapterClass.text ++
    ", baseline: " ++ AdapterSet.describeSnapshot t.baseline ++
    ", current_state: " ++ AdapterSet.describeSnapshot t.currentState ++ ", .. \x7d"

end TapTracker
