import TapTracker.Proofs.Responder
import TapTracker.Run.Program

/-!
# Surroundings of the program

`Surroundings` are all that a run of the program meets: files, a platform, the ends of the processes
that it starts, and a runtime that starts or does not.  Files stay as they are.  What the platform
answers and how a process ends may depend on all that has happened so far, as with a `Responder`,
and goes into the same log, where the end of an installer stands with what it means to the run.
-/

namespace TapTracker

/-- Files, a platform, processes and a runtime. -/
structure Surroundings where
  /-- The text in a file, or the reason why it cannot be read. -/
  readText : (path : String) → Except String String
  writeText : (path text : String) → Except String Unit
  enumerate : Log → AdapterClass → Except EnumerateError (List TapAdapter)
  remove : Log → String → Except RemoveError Unit
  rename : Log → TapAdapter → String → Except RenameError Unit
  /-- How a process ends that is started after the given exchanges. -/
  runProcess : Log → InstallerCommand → ProcessEnd
  /-- Nothing if the runtime starts, or the reason why it does not. -/
  startRuntime : Except String Unit

namespace Surroundings

/-- The platform and the processes of the surroundings, and their files. -/
def world (w : Surroundings) : World (StateM Log) where
  platform :=
    { enumerate := fun cls => Responder.reply (w.enumerate · cls) (.enumerated cls)
      remove := fun identifier => Responder.reply (w.remove · identifier) (.removed identifier)
      rename := fun a newAlias => Responder.reply (w.rename · a newAlias) (.renamed a newAlias) }
  runProcess := fun command =>
    Responder.reply (w.runProcess · command) fun ended => .installed (command.verdict ended)
  storage :=
    { readText := fun path => pure (w.readText path)
      writeText := fun path text => pure (w.writeText path text) }
  startRuntime := pure w.startRuntime

/-- The runtime for commands starts. -/
def StartsRuntime (w : Surroundings) : Prop := w.startRuntime = .ok ()

/-- Surroundings without files and without adapters, in which the runtime starts and every process
does well. -/
def idle : Surroundings where
  readText _ := .error "No such file or directory"
  writeText _ _ := .error "Permission denied"
  enumerate _ _ := .ok []
  remove _ identifier := .error (.notFound identifier)
  rename _ _ _ := .ok ()
  runProcess _ _ := .exited (.code 0)
  startRuntime := .ok ()

/-- The surroundings as they are met by an installation with the given command. -/
def responder (w : Surroundings) (command : InstallerCommand) : Responder where
  enumerate := w.enumerate
  remove := w.remove
  rename := w.rename
  install past := command.verdict (w.runProcess past command)

/-- The settings that are loaded for a command line, or the fault of the configuration. -/
def loaded (w : Surroundings) (line : CommandLine) : Except ConfigError Settings :=
  ((Settings.load w.world.storage line).run []).1

variable (w : Surroundings)

/-- The runtime starts unless there is a reason why it does not. -/
lemma startsRuntime_or : w.StartsRuntime ∨ ∃ reason, w.startRuntime = .error reason := by
  rw [StartsRuntime]
  cases w.startRuntime with
  | error reason => exact Or.inr ⟨reason, rfl⟩
  | ok started => exact Or.inl rfl

/-- A runtime that starts gives no reason why it does not. -/
lemma StartsRuntime.ne_error {w : Surroundings} (h : w.StartsRuntime) (reason : String) :
    w.startRuntime ≠ .error reason := by
  intro hfault
  cases hfault.symm.trans h

/-- The platform of the surroundings is that of an installation. -/
lemma platform_responder (command : InstallerCommand) :
    (w.responder command).platform = w.world.platform := rfl

/-- Running the process of a command is running its installer. -/
lemma install_runProcess (command : InstallerCommand) :
    command.install w.world.runProcess = (w.responder command).installer := rfl

/-- Starting the runtime leaves no trace in the log. -/
lemma run_startRuntime (past : Log) : w.world.startRuntime.run past = (w.startRuntime, past) := rfl

/-- Reading a configuration file leaves no trace in the log. -/
lemma run_load_file (path : String) (past : Log) :
    (ConfigFile.load w.world.storage path).run past =
      (((ConfigFile.load w.world.storage path).run []).1, past) := by
  unfold ConfigFile.load
  have hread : ∀ past, (w.world.storage.readText path).run past = (w.readText path, past) :=
    fun _ => rfl
  rw [StateT.run_bind, StateT.run_bind, hread, hread]
  cases w.readText path with
  | error reason => rfl
  | ok text => rfl

/-- Loading settings looks at the files only. -/
lemma run_load (line : CommandLine) (past : Log) :
    (Settings.load w.world.storage line).run past = (w.loaded line, past) := by
  unfold loaded Settings.load
  cases line.config with
  | none => rfl
  | some path =>
    dsimp only
    rw [StateT.run_bind, StateT.run_bind, run_load_file w path past]
    rfl

end Surroundings

end TapTracker
