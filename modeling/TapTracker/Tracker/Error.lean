import TapTracker.Adapter.Failure

/-!
# Errors of the tracker

Two kinds of failure are told apart: the platform failed, or the tracker was used against its
contract, because a snapshot is missing or because an installation did not create exactly one
adapter.
-/

namespace TapTracker

/-- The two captures between which an installation takes place. -/
inductive Snapshot
  | baseline
  | currentState
deriving DecidableEq, Repr

/-- The snapshot in words. -/
def Snapshot.describe : Snapshot → String
  | baseline => "baseline"
  | currentState => "current state"

/-- Why a tracker gave no answer. -/
inductive TrackerError
  | enumerate (cause : EnumerateError)
  | remove (identifier : String) (cause : RemoveError)
  | missingSnapshot (snapshot : Snapshot)
  | noNewAdapter
  | multipleNewAdapters (identifiers : List String)
deriving DecidableEq, Repr

namespace TrackerError

/-- The error in words. -/
def message : TrackerError → String
  | enumerate cause => "Failed to enumerate adapters: " ++ cause.message
  | remove identifier cause => "Failed to remove adapter " ++ identifier ++ ": " ++ cause.message
  | missingSnapshot snapshot => "The " ++ snapshot.describe ++ " snapshot has not been captured"
  | noNewAdapter => "No new adapter appeared after installation"
  | multipleNewAdapters identifiers =>
    "Expected one new adapter, found " ++ toString identifiers.length ++ ": " ++
      ", ".intercalate identifiers

/-- The messages of the causes. -/
def causes : TrackerError → List String
  | enumerate cause => cause.message :: cause.causes
  | remove _ cause => cause.message :: cause.causes
  | _ => []

/-- The contract was broken, rather than the platform failing. -/
def isPrecondition : TrackerError → Bool
  | enumerate _ => false
  | remove _ _ => false
  | missingSnapshot _ => true
  | noNewAdapter => true
  | multipleNewAdapters _ => true

end TrackerError

end TapTracker
