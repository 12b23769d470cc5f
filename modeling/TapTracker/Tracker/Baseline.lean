import TapTracker.Adapter.Platform
import TapTracker.Tracker.Error

/-!
# The baseline tracker

A tracker finds the adapter that a driver installation creates.  It captures the adapters before
the installation, its baseline, and after it, its current state; the new adapter is the one whose
identifier is in the second snapshot only.

Captures may be repeated: a capture that succeeds replaces the snapshot of its kind and a capture
that fails changes nothing.  `BaselineTracker.newAdapter` looks at the snapshots and not at the
platform.
-/

namespace TapTracker

/-! ### Statuses -/

/-- What a set of adapters means to the product. -/
inductive BaselineStatus
  | noTapAdaptersPresent
  | someTapAdaptersPresent
  | productAdapterPresent
deriving DecidableEq, Repr

namespace BaselineStatus

/-- The status of a set. -/
def classify (adapters : AdapterSet) (owned : TapAdapter → Bool) : BaselineStatus :=
  if adapters.isEmpty then noTapAdaptersPresent
  else if adapters.any owned then productAdapterPresent
  else someTapAdaptersPresent

/-- The name of the status. -/
def name : BaselineStatus → String
  | noTapAdaptersPresent => "NO_TAP_ADAPTERS_PRESENT"
  | someTapAdaptersPresent => "SOME_TAP_ADAPTERS_PRESENT"
  | productAdapterPresent => "MULLVAD_ADAPTER_PRESENT"

end BaselineStatus

/-! ### Trackers -/

/-- A tracker of the adapters of a class. -/
structure BaselineTracker where
  adapterClass : AdapterClass
  owned : TapAdapter → Bool
  baseline : Option AdapterSet
  currentState : Option AdapterSet

namespace BaselineTracker

/-- A tracker without snapshots. -/
def new (adapterClass : AdapterClass) (owned : TapAdapter → Bool) : BaselineTracker :=
  ⟨adapterClass, owned, none, none⟩

/-- The tracker after a capture of the baseline, and the status of the baseline. -/
def keepBaseline (t : BaselineTracker) :
    Except EnumerateError AdapterSet → BaselineTracker × Except TrackerError BaselineStatus
  | .error e => (t, .error (.enumerate e))
  | .ok adapters =>
    ({ t with baseline := some adapters }, .ok (BaselineStatus.classify adapters t.owned))

/-- The tracker after a capture of the current state. -/
def keepCurrentState (t : BaselineTracker) :
    Except EnumerateError AdapterSet → BaselineTracker × Except TrackerError Unit
  | .error e => (t, .error (.enumerate e))
  | .ok adapters => ({ t with currentState := some adapters }, .ok ())

/-- The record of the only adapter that is in the current state and not in the baseline. -/
def newAdapter (t : BaselineTracker) : Except TrackerError TapAdapter :=
  match t.baseline, t.currentState with
  | none, _ => .error (.missingSnapshot .baseline)
  | some _, none => .error (.missingSnapshot .currentState)
  | some baseline, some current =>
    match current.difference baseline with
    | [] => .error .noNewAdapter
    | [adapter] => .ok adapter
    | adapters => .error (.multipleNewAdapters (adapters.map (·.identifier)))

section Captures

variable {m : Type → Type} [Monad m]

/-- Captures the baseline. -/
def establishBaseline (t : BaselineTracker) (p : Platform m) :
    m (BaselineTracker × Except TrackerError BaselineStatus) := do
  let captured ← p.capture t.adapterClass
  return t.keepBaseline captured

/-- Captures the current state. -/
def recordCurrentState (t : BaselineTracker) (p : Platform m) :
    m (BaselineTracker × Except TrackerError Unit) := do
  let captured ← p.capture t.adapterClass
  return t.keepCurrentState captured

end Captures

end BaselineTracker

end TapTracker
