import TapTracker.Process.Status

/-!
# Failures of the platform

What can go wrong when adapters are enumerated, removed or renamed.  Every failure has a `message`,
and `causes` lists the messages of what brought it about, the nearest cause first.
-/

namespace TapTracker

/-! ### Errors of system calls -/

/-- The status with which a system call fails. -/
structure SystemError where
  status : Nat
deriving DecidableEq, Repr

namespace SystemError

/-- The status of an error number: the low half of the number, marked as a failure of the system.
The number 0 stays 0. -/
def ofNumber (n : Nat) : SystemError :=
  ⟨if n = 0 then 0 else 0x80070000 + n % 0x10000⟩

/-- Past the last item of a list. -/
def noMoreItems : SystemError := ofNumber 259

/-- The buffer is too small for the data. -/
def insufficientBuffer : SystemError := ofNumber 122

/-- The data are invalid. -/
def invalidData : SystemError := ofNumber 13

/-- There is no such file, key or value. -/
def notFound : SystemError := ofNumber 2

/-- The capital hexadecimal digit of a number below 16. -/
def upperHexDigit (n : Nat) : Char :=
  if n < 10 then Char.ofNat (n + '0'.toNat) else Char.ofNat (n - 10 + 'A'.toNat)

/-- The last `count` hexadecimal digits of a number. -/
def upperHex : (count n : Nat) → List Char
  | 0, _ => []
  | count + 1, n => upperHex count (n / 16) ++ [upperHexDigit (n % 16)]

/-- The status in eight hexadecimal digits. -/
def message (e : SystemError) : String :=
  "0x" ++ String.ofList (upperHex 8 e.status)

end SystemError

/-! ### Enumeration -/

/-- Why adapters could not be enumerated. -/
inductive EnumerateError
  | system (e : SystemError)
  | platform (reason : String)
  | unsupported
deriving DecidableEq, Repr

namespace EnumerateError

/-- The error in words. -/
def message : EnumerateError → String
  | system e => "Windows API error: " ++ e.message
  | platform reason => "Platform error: " ++ reason
  | unsupported => "Adapter enumeration is not supported on this platform"

/-- The messages of the causes. -/
def causes : EnumerateError → List String
  | system e => [e.message]
  | _ => []

end EnumerateError

/-! ### Removal -/

/-- Why an adapter could not be removed. -/
inductive RemoveError
  | system (e : SystemError)
  | notFound (identifier : String)
  | platform (reason : String)
  | unsupported
deriving DecidableEq, Repr

namespace RemoveError

/-- The error in words. -/
def message : RemoveError → String
  | system e => "Windows API error: " ++ e.message
  | notFound identifier => "No device found for adapter " ++ identifier
  | platform reason => "Platform error: " ++ reason
  | unsupported => "Adapter removal is not supported on this platform"

/-- The messages of the causes. -/
def causes : RemoveError → List String
  | system e => [e.message]
  | _ => []

end RemoveError

/-! ### Renaming -/

/-- Why an adapter could not be renamed. -/
inductive RenameError
  /-- The tool that renames connections could not be started. -/
  | notStarted (reason : String)
  /-- The tool ran without success. -/
  | failed (status : ExitStatus)
  | unsupported
deriving DecidableEq, Repr

namespace RenameError

/-- The error in words. -/
def message : RenameError → String
  | notStarted reason => "Failed to run rename tool: " ++ reason
  | failed status => "Rename tool exited with " ++ status.describe
  | unsupported => "Adapter renaming is not supported on this platform"

/-- The messages of the causes. -/
def causes : RenameError → List String
  | notStarted reason => [reason]
  | _ => []

end RenameError

end TapTracker
