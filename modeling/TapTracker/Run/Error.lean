import TapTracker.Tracker.Error

/-!
# Errors of a run

A run fails because the tracker fails, because the installer does not do its work, or because the
new adapter cannot be renamed.
-/

namespace TapTracker

/-- Why a run failed. -/
inductive RunError
  | tracker (cause : TrackerError)
  | missingInstaller
  /-- The installer could not be started, or its end could not be awaited. -/
  | installerIo (program reason : String)
  | installerFailed (program : String) (status : ExitStatus)
  | installerTimedOut (program : String) (milliseconds : Nat)
  | rename (identifier : String) (cause : RenameError)
  /-- The answer could not be written as text. -/
  | output (reason : String)
deriving DecidableEq, Repr

namespace RunError

/-- The error in words.  Timeouts are shown in whole seconds. -/
def message : RunError → String
  | tracker cause => cause.message
  | missingInstaller => "No installer command given"
  | installerIo program reason => "Failed to run installer '" ++ program ++ "': " ++ reason
  | installerFailed program status =>
    "Installer '" ++ program ++ "' exited with " ++ status.describe
  | installerTimedOut program milliseconds =>
    "Installer '" ++ program ++ "' did not finish within " ++ toString (milliseconds / 1000) ++ "s"
  | rename identifier cause => "Failed to rename adapter " ++ identifier ++ ": " ++ cause.message
  | output reason => "Failed to serialize output: " ++ reason

/-- The messages of the causes.  An error of the tracker is shown as itself, not as a cause. -/
def causes : RunError → List String
  | tracker cause => cause.causes
  | installerIo _ reason => [reason]
  | rename _ cause => cause.message :: cause.causes
  | output reason => [reason]
  | _ => []

/-- The contract of the tracker was broken. -/
def isPrecondition : RunError → Bool
  | tracker cause => cause.isPrecondition
  | _ => false

end RunError

end TapTracker
