import TapTracker.Run.Program

/-!
# The command line

The program as it runs on a system without adapters of its own: files are those of the system, and
every operation on adapters is refused, so that no installer is ever reached.
-/

namespace TapTracker

/-- The reason for a failed operation on a file. -/
def fileFault : IO.Error → String
  | .noFileOrDirectory _ number details => details ++ " (os error " ++ toString number ++ ")"
  | .inappropriateType _ number details => details ++ " (os error " ++ toString number ++ ")"
  | .permissionDenied _ number details => details ++ " (os error " ++ toString number ++ ")"
  | e => toString e

/-- The files of the system. -/
def systemStorage : Storage IO where
  readText path := do
    try
      let content ← IO.FS.readBinFile path
      return match String.fromUTF8? content with
        | some text => .ok text
        | none => .error "stream did not contain valid UTF-8"
    catch e => return .error (fileFault e)
  writeText path text := do
    try
      IO.FS.writeFile path text
      return .ok ()
    catch e => return .error (fileFault e)

/-- What the program works on here.  There is no runtime to start. -/
def systemWorld : World IO where
  platform := .unsupported
  runProcess _ := return .failed "processes are not supported on this platform"
  storage := systemStorage
  startRuntime := return .ok ()

end TapTracker

open TapTracker in
/-- Runs the program with the words of the command line. -/
def main (words : List String) : IO UInt32 := do
  let ending ← runProgram systemWorld words
  if let some text := ending.printed then IO.println text
  if let some text := ending.failure then IO.eprintln text
  if let some text := ending.hint then IO.eprintln ("\n" ++ text)
  if let some refusal := ending.refusal then
    IO.eprintln ("error: " ++ refusal.message ++ "\n\n" ++ usageLine)
  return ending.code.toUInt32
