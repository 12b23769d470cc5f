import TapTracker.Proofs.CommandLine.Installer
import TapTracker.Proofs.Run.Execution
import TapTracker.Proofs.Run.Reinstall

/-!
# Exit codes

The exit code is all that a script sees of a run.  `runProgram_code` says what it tells: 1 that the
configuration cannot be used, 3 that an installation has not created exactly one adapter, 2 that
something else has failed, and 0 that all went well.  Each of these is said of the files and of the
log of the run, without the errors that lead to it.  The code 2 is also that of a runtime which does
not start, so that what it tells of the log is said of surroundings in which the runtime starts.
-/

namespace TapTracker

/-! ### Codes of runs -/

section Codes

variable {settings : Settings} {command : Command} {made : Log} {answer : Except RunError String}

/-- Something has failed unless all was answered. -/
lemma exists_failed_iff :
    (∃ exchange ∈ made, exchange.failed = true) ↔ ¬ ∀ exchange ∈ made, exchange.failed = false := by
  simp

/-- The three ways in which a run can end have codes of their own, and only one of them has a text
to print. -/
lemma Execution.code_cases (h : Execution settings command made answer) :
    ((Ending.ofRun (answer.map some)).code = 0 ∧
        (∃ text, (Ending.ofRun (answer.map some)).printed = some text) ∧
        (∀ exchange ∈ made, exchange.failed = false) ∧ ¬ CreatedNotOne settings command made) ∨
      ((Ending.ofRun (answer.map some)).code = 2 ∧
        (Ending.ofRun (answer.map some)).printed = none ∧
        (¬ ∀ exchange ∈ made, exchange.failed = false) ∧ ¬ CreatedNotOne settings command made) ∨
      ((Ending.ofRun (answer.map some)).code = 3 ∧
        (Ending.ofRun (answer.map some)).printed = none ∧
        (∀ exchange ∈ made, exchange.failed = false) ∧ CreatedNotOne settings command made) := by
  cases h with
  | prints text hmade hone => exact Or.inl ⟨rfl, ⟨text, rfl⟩, hmade, hone⟩
  | fails exchange hmem e hreported =>
    have hcode : Ending.runCode e = 2 := by
      rw [Ending.runCode, hreported.not_isPrecondition]
      rfl
    have hfailed : ¬ ∀ exchange ∈ made, exchange.failed = false :=
      exists_failed_iff.1 ⟨exchange, hmem, hreported.failed⟩
    exact Or.inr (Or.inl ⟨hcode, rfl, hfailed, fun hcreated => hfailed hcreated.not_failed⟩)
  | breaks hcreated before after e hanswer =>
    have hcode : Ending.runCode (.tracker e) = 3 := by
      rcases hanswer.card_of_error.2 with rfl | ⟨identifiers, rfl⟩ <;> rfl
    exact Or.inr (Or.inr ⟨hcode, rfl, hcreated.not_failed, hcreated⟩)

/-- No run of a command has the code of a configuration that cannot be used. -/
lemma Execution.code_ne_one (h : Execution settings command made answer) :
    (Ending.ofRun (answer.map some)).code ≠ 1 := by
  rcases h.code_cases with ⟨hcode, -⟩ | ⟨hcode, -⟩ | ⟨hcode, -⟩ <;> simp [hcode]

/-- The code is 3 exactly if an installation has not created exactly one adapter. -/
lemma Execution.code_eq_three_iff (h : Execution settings command made answer) :
    (Ending.ofRun (answer.map some)).code = 3 ↔ CreatedNotOne settings command made := by
  rcases h.code_cases with ⟨hcode, -, -, hone⟩ | ⟨hcode, -, -, hone⟩ | ⟨hcode, -, -, hone⟩ <;>
    simp [hcode, hone]

/-- The code is 2 exactly if something has failed. -/
lemma Execution.code_eq_two_iff (h : Execution settings command made answer) :
    (Ending.ofRun (answer.map some)).code = 2 ↔ ∃ exchange ∈ made, exchange.failed = true := by
  rw [exists_failed_iff]
  rcases h.code_cases with ⟨hcode, -, hanswered, -⟩ | ⟨hcode, -, hfailed, -⟩ |
    ⟨hcode, -, hanswered, -⟩
  · simpa [hcode] using hanswered
  · simpa [hcode] using hfailed
  · simpa [hcode] using hanswered

/-- The code is 0 exactly if all was answered and no installation has broken its contract. -/
lemma Execution.code_eq_zero_iff (h : Execution settings command made answer) :
    (Ending.ofRun (answer.map some)).code = 0 ↔
      (∀ exchange ∈ made, exchange.failed = false) ∧ ¬ CreatedNotOne settings command made := by
  rcases h.code_cases with ⟨hcode, -, hanswered, hone⟩ | ⟨hcode, -, hfailed, -⟩ |
    ⟨hcode, -, -, hone⟩
  · exact iff_of_true hcode ⟨hanswered, hone⟩
  · exact iff_of_false (by simp [hcode]) fun h => hfailed h.1
  · exact iff_of_false (by simp [hcode]) fun h => h.2 hone

/-- There is a text to print exactly if the code is 0. -/
lemma Execution.printed_cases (h : Execution settings command made answer) :
    ((Ending.ofRun (answer.map some)).code = 0 →
        ∃ text, (Ending.ofRun (answer.map some)).printed = some text) ∧
      ((Ending.ofRun (answer.map some)).code ≠ 0 →
        (Ending.ofRun (answer.map some)).printed = none) := by
  rcases h.code_cases with ⟨hcode, hprinted, -⟩ | ⟨hcode, hprinted, -⟩ | ⟨hcode, hprinted, -⟩
  · exact ⟨fun _ => hprinted, fun hother => absurd hcode hother⟩
  · exact ⟨fun hzero => absurd (hcode.symm.trans hzero) (by decide), fun _ => hprinted⟩
  · exact ⟨fun hzero => absurd (hcode.symm.trans hzero) (by decide), fun _ => hprinted⟩

end Codes

/-! ### Courses of a command line -/

/-- A command other than the one that writes a configuration file is run with settings. -/
lemma runCommandLine_of_not_isInit {m : Type → Type} [Monad m] (world : World m)
    {line : CommandLine} (hcommand : line.isInit = false) :
    runCommandLine world line = (do
      match ← Settings.load world.storage line with
      | .error e => return .ofConfigError e
      | .ok settings => runApplication world settings line.command) := by
  obtain ⟨command, adapterClass, productAlias, signature, config, verbose⟩ := line
  cases command with
  | init output => cases hcommand
  | list asJson => rfl
  | baseline => rfl
  | install timeout keepAlias installer => rfl
  | remove => rfl

section Program

variable {w : Surroundings} {words : List String} {line : CommandLine} {settings : Settings}
  {command : Command} {past made : Log}

/-- The command that writes a configuration file is the one that needs no settings. -/
lemma isInit_eq_true_iff : line.isInit = true ↔ ∃ output, line.command = .init output := by
  rw [CommandLine.isInit]
  cases line.command <;> simp

/-- A command that needs settings writes no configuration file. -/
lemma ne_init_of_isInit_eq_false (h : line.isInit = false) (output : String) :
    line.command ≠ .init output := by
  intro houtput
  rw [isInit_eq_true_iff.2 ⟨output, houtput⟩] at h
  cases h

/-- Without a runtime nothing is asked for. -/
lemma run_runApplication_of_error {reason : String} (hstart : w.startRuntime = .error reason) :
    (runApplication w.world settings command).run past = (.ofStartFault reason, past) := by
  rw [runApplication, StateT.run_bind, w.run_startRuntime, hstart]
  rfl

/-- On a runtime the command is run. -/
lemma run_runApplication_of_starts (hstart : w.StartsRuntime)
    {answer : Except RunError (Option String)}
    (hrun : (execute w.world.toMachine settings command).run past = (answer, past ++ made)) :
    (runApplication w.world settings command).run past = (.ofRun answer, past ++ made) := by
  have hanswer : w.startRuntime = .ok () := hstart
  rw [runApplication, StateT.run_bind, w.run_startRuntime, hanswer]
  change StateT.run (do
    let answer ← execute w.world.toMachine settings command
    return Ending.ofRun answer) past = _
  rw [StateT.run_bind, hrun]
  rfl

/-- What is run of accepted words depends on what is loaded for them. -/
lemma run_runProgram (hwords : CommandLine.ofWords words = .ok line)
    (hcommand : line.isInit = false) :
    (runProgram w.world words).run past =
      StateT.run (match w.loaded line with
        | .error e => pure (.ofConfigError e)
        | .ok settings => runApplication w.world settings line.command) past := by
  rw [runProgram, hwords]
  dsimp only
  rw [runCommandLine_of_not_isInit w.world hcommand, StateT.run_bind, w.run_load]
  rfl

/-- Without settings nothing is asked for. -/
lemma run_runProgram_of_error (hwords : CommandLine.ofWords words = .ok line)
    (hcommand : line.isInit = false) {e : ConfigError} (hloaded : w.loaded line = .error e) :
    (runProgram w.world words).run past = (.ofConfigError e, past) := by
  rw [run_runProgram hwords hcommand, hloaded]
  rfl

/-- With settings they are run with the command. -/
lemma run_runProgram_of_ok (hwords : CommandLine.ofWords words = .ok line)
    (hcommand : line.isInit = false) (hloaded : w.loaded line = .ok settings) :
    (runProgram w.world words).run past =
      (runApplication w.world settings line.command).run past := by
  rw [run_runProgram hwords hcommand, hloaded]

/-- A command line with an installer is carried out to one of the ends of a run. -/
lemma exists_execution_of_ofWords (w : Surroundings) (settings : Settings) (past : Log)
    (hwords : CommandLine.ofWords words = .ok line) (hcommand : line.isInit = false) :
    ∃ made answer,
      (execute w.world.toMachine settings line.command).run past =
        (answer.map some, past ++ made) ∧ Execution settings line.command made answer := by
  have hinstaller : ∀ timeout keepAlias, line.command ≠ .install timeout keepAlias [] :=
    fun timeout keepAlias hinstall => installer_ne_nil_of_ofWords hwords hinstall rfl
  exact exists_execution w settings past (ne_init_of_isInit_eq_false hcommand) hinstaller

/-! ### The whole program -/

/-- Whatever the files hold, whatever the platform answers and however the installer ends, the exit
code of a command that needs settings tells what has happened: 1 that there are no settings, and
then nothing has been asked for; 3 that an installation has got through its enumerations and its
installer without finding an adapter of the product first and one new adapter after that; and, if
the runtime starts, 2 that something that was asked for has failed, and 0 that all was answered.
There is a text to print exactly if the code is 0.  A runtime that does not start is reported with
the code 2 before anything is asked for. -/
theorem runProgram_code (w : Surroundings) (hwords : CommandLine.ofWords words = .ok line)
    (hcommand : line.isInit = false) :
    let ending := ((runProgram w.world words).run []).1
    let made := ((runProgram w.world words).run []).2
    (ending.code = 1 ↔ ∃ e, w.loaded line = .error e) ∧
    (ending.code = 1 → made = []) ∧
    (ending.code = 3 ↔
      ∃ settings, w.loaded line = .ok settings ∧ CreatedNotOne settings line.command made) ∧
    (w.StartsRuntime →
      (ending.code = 2 ↔
        (∃ settings, w.loaded line = .ok settings) ∧ ∃ exchange ∈ made, exchange.failed = true) ∧
      (ending.code = 0 ↔
        ∃ settings, w.loaded line = .ok settings ∧ (∀ exchange ∈ made, exchange.failed = false) ∧
          ¬ CreatedNotOne settings line.command made)) ∧
    (∀ reason, w.startRuntime = .error reason → ∀ settings, w.loaded line = .ok settings →
      ending = .ofStartFault reason ∧ made = []) ∧
    (ending.code = 0 → ∃ text, ending.printed = some text) ∧
    (ending.code ≠ 0 → ending.printed = none) := by
  intro ending made
  -- The courses are those without settings, without a runtime, and with the run of a command.
  cases hloaded : w.loaded line with
  | error e =>
    have hrun : (runProgram w.world words).run [] = (.ofConfigError e, []) :=
      run_runProgram_of_error hwords hcommand hloaded
    have hending : ending = .ofConfigError e := congrArg Prod.fst hrun
    have hmade : made = [] := congrArg Prod.snd hrun
    rw [hending, hmade]
    simp [Ending.ofConfigError]
  | ok settings =>
    have happlication : (runProgram w.world words).run [] =
        (runApplication w.world settings line.command).run [] :=
      run_runProgram_of_ok hwords hcommand hloaded
    rcases w.startsRuntime_or with hstart | ⟨reason, hstart⟩
    · obtain ⟨log, answer, hexecute, hexecution⟩ :=
        exists_execution_of_ofWords w settings [] hwords hcommand
      have hrun := happlication.trans (run_runApplication_of_starts hstart hexecute)
      have hending : ending = .ofRun (answer.map some) := congrArg Prod.fst hrun
      have hmade : made = log := congrArg Prod.snd hrun
      rw [hending, hmade]
      refine ⟨?_, fun hone => absurd hone hexecution.code_ne_one, ?_, fun _ => ⟨?_, ?_⟩,
        fun reason hfault => absurd hfault (hstart.ne_error reason), hexecution.printed_cases⟩
      · simp [hexecution.code_ne_one]
      · simp [hexecution.code_eq_three_iff]
      · simp [hexecution.code_eq_two_iff]
      · simp [hexecution.code_eq_zero_iff]
    · have hrun := happlication.trans (run_runApplication_of_error hstart)
      have hending : ending = .ofStartFault reason := congrArg Prod.fst hrun
      have hmade : made = [] := congrArg Prod.snd hrun
      rw [hending, hmade]
      simp [Ending.ofStartFault, Surroundings.StartsRuntime, hstart, not_createdNotOne_nil]

end Program

/-- An installer that does well and creates no adapter makes the exit code 3, and nothing has
failed. -/
theorem runProgram_code_of_idle :
    CommandLine.ofWords ["install", "--", "setup.exe"] = .ok .plainInstall ∧
      CommandLine.plainInstall.isInit = false ∧ Surroundings.idle.StartsRuntime ∧
      ((runProgram Surroundings.idle.world ["install", "--", "setup.exe"]).run []).1.code = 3 ∧
      ¬ ∃ exchange ∈ ((runProgram Surroundings.idle.world ["install", "--", "setup.exe"]).run []).2,
        exchange.failed = true := by
  obtain ⟨-, -, hthree, hstarted, -⟩ :=
    runProgram_code Surroundings.idle ofWords_plainInstall rfl
  have hloaded : Surroundings.idle.loaded .plainInstall = .ok defaultSettings := rfl
  have hmade : ((runProgram Surroundings.idle.world ["install", "--", "setup.exe"]).run []).2 =
      [.enumerated defaultSettings.adapterClass (.ok []), .installed (.ok ()),
        .enumerated defaultSettings.adapterClass (.ok [])] := by
    rfl
  have hcreated : CreatedNotOne defaultSettings CommandLine.plainInstall.command
      ((runProgram Surroundings.idle.world ["install", "--", "setup.exe"]).run []).2 := by
    rw [hmade]
    exact .intro none false ["setup.exe"] [] [] (by simp [HasNoOwned]) (Or.inl rfl)
  have hcode := hthree.2 ⟨defaultSettings, hloaded, hcreated⟩
  refine ⟨ofWords_plainInstall, rfl, rfl, hcode, fun hfailed => ?_⟩
  have htwo := (hstarted rfl).1.2 ⟨⟨defaultSettings, hloaded⟩, hfailed⟩
  rw [hcode] at htwo
  cases htwo

end TapTracker
