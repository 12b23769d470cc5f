import TapTracker.Run.Installer
import TapTracker.Config.Settings
import TapTracker.Tracker.Baseline

/-!
# Installing

`installCycle` captures the baseline, runs the installer, captures the current state and names the
new adapter.  If the baseline has an adapter of the product already, there is nothing to install,
and the installer is not run.

The new adapter is renamed only if the settings ask for it and its alias is another one.
-/

namespace TapTracker

/-- What an installation came to. -/
inductive InstallOutcome
  | alreadyPresent (adapter : TapAdapter)
  | created (adapter : TapAdapter)
deriving DecidableEq, Repr

namespace InstallOutcome

/-- The adapter of the product. -/
def adapter : InstallOutcome → TapAdapter
  | alreadyPresent a => a
  | created a => a

/-- The outcome in one line. -/
def describe : InstallOutcome → String
  | alreadyPresent a => "ALREADY_PRESENT " ++ a.identifier
  | created a => "CREATED " ++ a.identifier

end InstallOutcome

variable {m : Type → Type} [Monad m]

/-- The adapter of the product in the baseline of a tracker. -/
def BaselineTracker.present? (t : BaselineTracker) (status : BaselineStatus) :
    Option TapAdapter :=
  if status = .productAdapterPresent then t.baseline.bind (·.find? t.owned) else none

/-- Gives a new adapter the alias of the product, and answers its record as it is then. -/
def giveAlias (p : Platform m) (settings : Settings) (adapter : TapAdapter) :
    m (Except RunError TapAdapter) := do
  if settings.rename ∧ adapter.aliasName ≠ settings.productAlias then
    match ← p.rename adapter settings.productAlias with
    | .error e => return .error (.rename adapter.identifier e)
    | .ok () => return .ok { adapter with aliasName := settings.productAlias }
  else return .ok adapter

/-- The second half of an installation: captures the current state and names the new adapter. -/
def nameNewAdapter (p : Platform m) (settings : Settings) (t : BaselineTracker) :
    m (Except RunError InstallOutcome) := do
  let (t, recorded) ← t.recordCurrentState p
  match recorded with
  | .error e => return .error (.tracker e)
  | .ok () =>
    match t.newAdapter with
    | .error e => return .error (.tracker e)
    | .ok adapter =>
      let named ← giveAlias p settings adapter
      return named.map .created

/-- Captures, installs, captures again and names the new adapter. -/
def installCycle (p : Platform m) (settings : Settings) (install : m (Except RunError Unit)) :
    m (Except RunError InstallOutcome) := do
  let (t, status) ← (BaselineTracker.new settings.adapterClass settings.owns).establishBaseline p
  match status with
  | .error e => return .error (.tracker e)
  | .ok status =>
    match t.present? status with
    | some adapter => return .ok (.alreadyPresent adapter)
    | none =>
      match ← install with
      | .error e => return .error e
      | .ok () => nameNewAdapter p settings t

end TapTracker
