import TapTracker.Adapter.Platform
import TapTracker.Tracker.Error

/-!
# Deleting the adapter of the product

A deletion captures the adapters, removes the first one that belongs to the product if there is
one, and captures again to report whether any adapter remains.  It never tries twice, and the second
capture takes place whether or not something was removed.
-/

namespace TapTracker

/-- What a deletion leaves behind. -/
inductive DeletionResult
  | noRemainingTapAdapters
  | someRemainingTapAdapters
deriving DecidableEq, Repr

namespace DeletionResult

/-- The result for the adapters that remain. -/
def classify (remaining : AdapterSet) : DeletionResult :=
  if remaining.isEmpty then noRemainingTapAdapters else someRemainingTapAdapters

/-- The name of the result. -/
def name : DeletionResult → String
  | noRemainingTapAdapters => "NO_REMAINING_TAP_ADAPTERS"
  | someRemainingTapAdapters => "SOME_REMAINING_TAP_ADAPTERS"

end DeletionResult

variable {m : Type → Type} [Monad m]

/-- Captures the adapters of a class, with the error of a tracker. -/
def captureOrFail (p : Platform m) (cls : AdapterClass) : ExceptT TrackerError m AdapterSet :=
  ExceptT.mk do
    let captured ← p.capture cls
    return captured.mapError .enumerate

/-- Removes an adapter, with the error of a tracker. -/
def removeOrFail (p : Platform m) (identifier : String) : ExceptT TrackerError m Unit :=
  ExceptT.mk do
    let answer ← p.remove identifier
    return answer.mapError (.remove identifier)

/-- Removes the first adapter of a class that belongs to the product. -/
def deleteProductAdapter (p : Platform m) (cls : AdapterClass) (owned : TapAdapter → Bool) :
    ExceptT TrackerError m DeletionResult := do
  let adapters ← captureOrFail p cls
  match adapters.find? owned with
  | some adapter => removeOrFail p adapter.identifier
  | none => pure ()
  let remaining ← captureOrFail p cls
  return .classify remaining

end TapTracker
