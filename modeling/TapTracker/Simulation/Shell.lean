import TapTracker.Process.Status
import TapTracker.Text.Decimal

/-!
# A small command shell

`Shell.run` runs a one-line script: words with quotes and with the parameters `$1`, `$#`, `$0` and
`$$`, commands joined by `;`, `&&` and `||`, and the few commands that installers of tests use.
A word stays one word after its parameters have been put in, and a word that has become empty
without a quote is dropped.

Nothing waits: a run answers how many milliseconds it would take.
-/

namespace TapTracker.Simulation.Shell

/-! ### Words -/

/-- How a command is tied to the one before it. -/
inductive Joint
  | always
  | onSuccess
  | onFailure
deriving DecidableEq, Repr

/-- A piece of a script. -/
inductive Token
  | word (s : String)
  | joint (j : Joint)
deriving DecidableEq, Repr

/-- What the parameters of a script stand for. -/
structure Parameters where
  name : String
  arguments : List String

/-- The number by which a script knows its own process. -/
def ownProcess : String := "4711"

/-- The text of the parameter with a one-letter name. -/
def Parameters.lookup? (p : Parameters) (c : Char) : Option String :=
  if c = '$' then some ownProcess
  else if c = '#' then some (toString p.arguments.length)
  else if c = '0' then some p.name
  else if c = '@' ∨ c = '*' then some (" ".intercalate p.arguments)
  else if c.isDigit then some (p.arguments[c.toNat - '1'.toNat]?.getD "")
  else none

/-- Where the reader of a script is. -/
inductive Quoting
  | bare
  | single
  | double

/-- The tokens of a script.  `pending` is the word that has been begun, last character first. -/
def tokens (p : Parameters) : Quoting → (pending : Option (List Char)) → List Char → List Token
  | _, pending, [] => finish pending
  | .single, pending, '\'' :: rest => tokens p .bare pending rest
  | .single, pending, c :: rest => tokens p .single (extend pending [c]) rest
  | .double, pending, '"' :: rest => tokens p .bare pending rest
  | .double, pending, '\\' :: c :: rest =>
    if c = '"' ∨ c = '\\' ∨ c = '$' then tokens p .double (extend pending [c]) rest
    else tokens p .double (extend pending ['\\', c]) rest
  | q, pending, '$' :: c :: rest =>
    match p.lookup? c with
    | some text =>
      if text.isEmpty then tokens p q pending rest
      else tokens p q (extend pending text.toList) rest
    | none => tokens p q (extend pending ['$', c]) rest
  | .double, pending, c :: rest => tokens p .double (extend pending [c]) rest
  | .bare, pending, '\'' :: rest => tokens p .single (extend pending []) rest
  | .bare, pending, '"' :: rest => tokens p .double (extend pending []) rest
  | .bare, pending, '\\' :: c :: rest => tokens p .bare (extend pending [c]) rest
  | .bare, pending, '&' :: '&' :: rest =>
    finish pending ++ .joint .onSuccess :: tokens p .bare none rest
  | .bare, pending, '|' :: '|' :: rest =>
    finish pending ++ .joint .onFailure :: tokens p .bare none rest
  | .bare, pending, c :: rest =>
    if c = ';' ∨ c = '\n' then finish pending ++ .joint .always :: tokens p .bare none rest
    else if c = ' ' ∨ c = '\t' then finish pending ++ tokens p .bare none rest
    else tokens p .bare (extend pending [c]) rest
where
  /-- The word with more characters at its end. -/
  extend (pending : Option (List Char)) (cs : List Char) : Option (List Char) :=
    some (cs.reverse ++ pending.getD [])
  /-- The finished word. -/
  finish : Option (List Char) → List Token
    | none => []
    | some cs => [.word (String.ofList cs.reverse)]

/-- The commands of a script, each with its joint. -/
def commands (joint : Joint) (words : List String) : List Token → List (Joint × List String)
  | [] => [(joint, words.reverse)]
  | .word s :: rest => commands joint (s :: words) rest
  | .joint next :: rest => (joint, words.reverse) :: commands next [] rest

/-! ### Commands -/

/-- The number that a word denotes. -/
def readNumber (s : String) : Option Nat :=
  Text.readDecimal s.toList

/-- The condition holds. -/
def holds : List String → Bool
  | [] => false
  | "!" :: rest => !holds rest
  | [s] => !s.isEmpty
  | ["-n", s] => !s.isEmpty
  | ["-z", s] => s.isEmpty
  | [s, "=", t] => s == t
  | [s, "!=", t] => s != t
  | [s, "-eq", t] => (readNumber s).isSome && readNumber s == readNumber t
  | [s, "-ne", t] => readNumber s != readNumber t
  | [s, "-lt", t] => (readNumber s).getD 0 < (readNumber t).getD 0
  | [s, "-gt", t] => (readNumber s).getD 0 > (readNumber t).getD 0
  | _ => false

/-- The number of a signal, which may be given by name. -/
def readSignal (s : String) : Option Nat :=
  match readNumber s with
  | some n => some n
  | none =>
    (ExitStatus.signalNames.findIdx? fun name => name == s || name == "SIG" ++ s).map (· + 1)

/-- What a command does. -/
inductive Effect
  /-- It takes some milliseconds and leaves an exit code to the script. -/
  | done (milliseconds code : Nat)
  /-- It ends the script. -/
  | ends (status : ExitStatus)
deriving DecidableEq, Repr

/-- The effect of a command after one with the exit code `last`. -/
def effect (last : Nat) : List String → Effect
  | [] => .done 0 last
  | "exit" :: arguments =>
    match arguments with
    | [] => .ends (.code last)
    | s :: _ => .ends (.code (((readNumber s).getD 2) % 256))
  | "kill" :: option :: processes =>
    match option.toList with
    | '-' :: signal =>
      match readSignal (String.ofList signal) with
      | some 0 => .done 0 0
      | some n => if ownProcess ∈ processes then .ends (.signal n) else .done 0 1
      | none => .done 0 2
    | _ => if option = ownProcess then .ends (.signal 15) else .done 0 1
  | ":" :: _ => .done 0 0
  | "true" :: _ => .done 0 0
  | "false" :: _ => .done 0 1
  | ["sleep", s] =>
    match readNumber s with
    | some n => .done (1000 * n) 0
    | none => .done 0 1
  | "test" :: condition => .done 0 (if holds condition then 0 else 1)
  | "[" :: condition =>
    if condition.getLast? = some "]" then .done 0 (if holds condition.dropLast then 0 else 1)
    else .done 0 2
  | _ => .done 0 127

/-- A command after one with the exit code `last` is run. -/
def Joint.admits : Joint → (last : Nat) → Bool
  | always, _ => true
  | onSuccess, last => last == 0
  | onFailure, last => last != 0

/-- The time that commands take, and how the last of them ends the script. -/
def runCommands (milliseconds last : Nat) : List (Joint × List String) → Nat × ExitStatus
  | [] => (milliseconds, .code last)
  | (joint, words) :: rest =>
    if joint.admits last then
      match effect last words with
      | .done more code => runCommands (milliseconds + more) code rest
      | .ends status => (milliseconds, status)
    else runCommands milliseconds last rest

/-- The time that a script takes, and how it ends. -/
def run (script : String) (p : Parameters) : Nat × ExitStatus :=
  runCommands 0 0 (commands .always [] (tokens p .bare none script.toList))

end TapTracker.Simulation.Shell
