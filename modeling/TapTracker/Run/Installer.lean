import TapTracker.Run.Error

/-!
# Installers

An installer is a program with its arguments and a time limit.  A process is run outside this
library: `ProcessEnd` says how that went, and `InstallerCommand.verdict` says what it means to the
run.
-/

namespace TapTracker

/-- How the run of a program within a time limit ended. -/
inductive ProcessEnd
  /-- It could not be started, or its end could not be awaited. -/
  | failed (reason : String)
  | exited (status : ExitStatus)
  | timedOut
deriving DecidableEq, Repr

/-- A program to run as the installer. -/
structure InstallerCommand where
  program : String
  arguments : List String
  /-- The time limit in milliseconds. -/
  timeout : Nat
deriving DecidableEq, Repr

namespace InstallerCommand

/-- The command that a command line gives, whose first token is the program. -/
def ofCommandLine (tokens : List String) (timeout : Nat) : Except RunError InstallerCommand :=
  match tokens with
  | [] => .error .missingInstaller
  | program :: arguments => .ok ⟨program, arguments, timeout⟩

/-- What the end of the process means.  Only an exit that reports success counts as one. -/
def verdict (c : InstallerCommand) : ProcessEnd → Except RunError Unit
  | .failed reason => .error (.installerIo c.program reason)
  | .timedOut => .error (.installerTimedOut c.program c.timeout)
  | .exited status =>
    if status.succeeded then .ok () else .error (.installerFailed c.program status)

/-- Runs the command. -/
def install {m : Type → Type} [Monad m] (runProcess : InstallerCommand → m ProcessEnd)
    (c : InstallerCommand) : m (Except RunError Unit) := do
  let ended ← runProcess c
  return c.verdict ended

end InstallerCommand

end TapTracker
