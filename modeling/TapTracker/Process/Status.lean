/-!
# How a process ends

A process that was started either leaves an exit code or is ended by a signal; `ExitStatus` is the
one or the other.
-/

namespace TapTracker

/-- How a process ended. -/
inductive ExitStatus
  | code (n : Nat)
  | signal (n : Nat)
deriving DecidableEq, Repr

namespace ExitStatus

/-- The process reported success. -/
def succeeded : ExitStatus → Bool
  | code n => n == 0
  | signal _ => false

/-- The names of the signals, the first one for the number 1. -/
def signalNames : List String :=
  ["SIGHUP", "SIGINT", "SIGQUIT", "SIGILL", "SIGTRAP", "SIGABRT", "SIGBUS", "SIGFPE", "SIGKILL",
   "SIGUSR1", "SIGSEGV", "SIGUSR2", "SIGPIPE", "SIGALRM", "SIGTERM", "SIGSTKFLT", "SIGCHLD",
   "SIGCONT", "SIGSTOP", "SIGTSTP", "SIGTTIN", "SIGTTOU", "SIGURG", "SIGXCPU", "SIGXFSZ",
   "SIGVTALRM", "SIGPROF", "SIGWINCH", "SIGIO", "SIGPWR", "SIGSYS"]

/-- The status in words; a signal has its name in parentheses if it has one. -/
def describe : ExitStatus → String
  | code n => "exit status: " ++ toString n
  | signal n =>
    "signal: " ++ toString n ++
      match n with
      | 0 => ""
      | k + 1 =>
        match signalNames[k]? with
        | some name => " (" ++ name ++ ")"
        | none => ""

end ExitStatus

end TapTracker
