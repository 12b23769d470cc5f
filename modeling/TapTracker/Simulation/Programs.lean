import TapTracker.Run.Installer
import TapTracker.Simulation.Shell

/-!
# Programs of a simulated system

`programEnd` answers how an installer command would end on a system that has only a few programs.
A name with a slash is a path, and any other name is sought among the programs.
-/

namespace TapTracker.Simulation

/-- The folders in which programs are kept. -/
def programFolders : List String := ["/bin/", "/usr/bin/", ""]

/-- Paths that can be found but not run. -/
def notExecutable : List String :=
  ["/", ".", "..", "./", "../", "/bin", "/bin/", "/usr", "/usr/", "/usr/bin", "/usr/bin/", "/etc",
   "/etc/", "/tmp", "/tmp/", "/dev", "/dev/", "/dev/null", "/etc/passwd"]

/-- The time that a program takes in milliseconds and how it ends, if there is such a program. -/
def programRun? (name : String) (arguments : List String) : Option (Nat × ExitStatus) :=
  match name with
  | "true" => some (0, .code 0)
  | "false" => some (0, .code 1)
  | "test" => some (0, .code (if Shell.holds arguments then 0 else 1))
  | "sleep" =>
    match arguments with
    | [s] => some ((Shell.readNumber s).elim (0, .code 1) fun n => (1000 * n, .code 0))
    | _ => some (0, .code 1)
  | "sh" =>
    match arguments with
    | "-c" :: script :: [] => some (Shell.run script ⟨"sh", []⟩)
    | "-c" :: script :: name :: arguments => some (Shell.run script ⟨name, arguments⟩)
    | [] => some (0, .code 0)
    | _ => some (0, .code 2)
  | _ => none

/-- The end of a command.  A program that takes no shorter time than the limit does not finish. -/
def programEnd (c : InstallerCommand) : ProcessEnd :=
  if (c.program :: c.arguments).any (·.contains '\x00') then
    .failed "nul byte found in provided data"
  else if c.program ∈ notExecutable then .failed "Permission denied (os error 13)"
  else
    let found := programFolders.findSome? fun folder =>
      if c.program.startsWith folder then
        programRun? (String.ofList (c.program.toList.drop folder.length)) c.arguments
      else none
    match found with
    | none => .failed "No such file or directory (os error 2)"
    | some (milliseconds, status) =>
      if c.timeout ≤ milliseconds then .timedOut else .exited status

end TapTracker.Simulation
