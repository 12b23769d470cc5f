import TapTracker.Proofs.Run.ExitCode

/-!
# Refused command lines

Words that are no command line are refused before any configuration is looked at, and so is a
request for help or for the version, which is answered.  `ProgramRun` lists the courses of the
program from its words on, and every run takes one of them (`exists_programRun`).

Whatever is wrong with the words, the exit code of a refusal is 2 (`runProgram_code_of_refused`),
the code of a run in which something has failed, and not the code 1 of configurations that cannot be
used.  A refusal is told apart from the other meanings of the code 2 by the failure that they
report.
-/

namespace TapTracker

/-! ### Courses of the program -/

/-- The words are no command line, and no request for help or for the version either. -/
structure Refused (words : List String) (refusal : Refusal) : Prop where
  ofWords_eq : CommandLine.ofWords words = .error refusal
  ne_help : refusal ≠ .displayHelp
  ne_version : refusal ≠ .displayVersion

namespace Surroundings

variable (w : Surroundings)

/-- What comes of writing the configuration file for a start. -/
def written (path : String) : Except ConfigError Unit :=
  ((writeTemplate w.world.storage path).run []).1

/-- The configuration file for a start cannot be written, or the settings cannot be loaded. -/
inductive Unusable (line : CommandLine) : Prop
  | unwritten {output : String} {e : ConfigError} (hcommand : line.command = .init output)
      (hwritten : w.written output = .error e)
  | unloaded {e : ConfigError} (hcommand : line.isInit = false) (hloaded : w.loaded line = .error e)

end Surroundings

/-- What a user sees of the program, and what has been asked for. -/
inductive ProgramRun (w : Surroundings) (words : List String) : Ending → Log → Prop
  /-- The words are refused. -/
  | refused {refusal : Refusal} (hrefused : Refused words refusal) :
      ProgramRun w words ⟨2, none, none, none, some refusal⟩ []
  /-- The help or the version is shown. -/
  | informed {refusal : Refusal} {text : String}
      (hwords : CommandLine.ofWords words = .error refusal)
      (hrequest : refusal = .displayHelp ∨ refusal = .displayVersion) :
      ProgramRun w words (.success (some text)) []
  /-- A configuration file is written, or cannot be. -/
  | template {line : CommandLine} {output : String}
      (hwords : CommandLine.ofWords words = .ok line) (hcommand : line.command = .init output) :
      ProgramRun w words (.ofTemplate output (w.written output)) []
  /-- There are no settings. -/
  | unloaded {line : CommandLine} {e : ConfigError}
      (hwords : CommandLine.ofWords words = .ok line) (hcommand : line.isInit = false)
      (hloaded : w.loaded line = .error e) : ProgramRun w words (.ofConfigError e) []
  /-- The runtime does not start. -/
  | unstarted {line : CommandLine} {settings : Settings} {reason : String}
      (hwords : CommandLine.ofWords words = .ok line) (hcommand : line.isInit = false)
      (hloaded : w.loaded line = .ok settings) (hstart : w.startRuntime = .error reason) :
      ProgramRun w words (.ofStartFault reason) []
  /-- The command is run. -/
  | ran {line : CommandLine} {settings : Settings} {made : Log} {answer : Except RunError String}
      (hwords : CommandLine.ofWords words = .ok line) (hcommand : line.isInit = false)
      (hloaded : w.loaded line = .ok settings) (hstart : w.StartsRuntime)
      (hexecution : Execution settings line.command made answer) :
      ProgramRun w words (.ofRun (answer.map some)) made

section Courses

variable {w : Surroundings} {words : List String} {line : CommandLine} {refusal : Refusal}
  {ending : Ending} {made : Log}

/-- A refused command line has no meaning. -/
lemma Refused.not_accepted (h : Refused words refusal) : CommandLine.ofWords words ≠ .ok line := by
  rw [h.ofWords_eq]
  exact nofun

/-- What is accepted is not refused. -/
lemma not_refused_of_accepted (hwords : CommandLine.ofWords words = .ok line) :
    ¬ ∃ refusal, Refused words refusal :=
  fun ⟨_, h⟩ => h.not_accepted hwords

/-- A request for help or for the version is not refused. -/
lemma not_refused_of_request (hwords : CommandLine.ofWords words = .error refusal)
    (hrequest : refusal = .displayHelp ∨ refusal = .displayVersion) :
    ¬ ∃ refusal, Refused words refusal := by
  rintro ⟨other, h⟩
  obtain rfl := Except.error.inj (hwords.symm.trans h.ofWords_eq)
  exact hrequest.elim h.ne_help h.ne_version

/-- Every run of the program takes one of the courses. -/
lemma exists_programRun (w : Surroundings) (words : List String) :
    ∃ ending made, (runProgram w.world words).run [] = (ending, made) ∧
      ProgramRun w words ending made := by
  cases hwords : CommandLine.ofWords words with
  | error refusal =>
    have hrun : (runProgram w.world words).run [] = (.ofRefusal refusal, []) := by
      rw [runProgram, hwords]
      rfl
    cases refusal with
    | displayHelp => exact ⟨_, _, hrun, .informed hwords (.inl rfl)⟩
    | displayVersion => exact ⟨_, _, hrun, .informed hwords (.inr rfl)⟩
    | unknownArgument | invalidValue | valueValidation | missingRequiredArgument
      | missingSubcommand | invalidSubcommand | argumentConflict | tooManyValues
      | displayHelpOnMissing => exact ⟨_, _, hrun, .refused ⟨hwords, by decide, by decide⟩⟩
  | ok line =>
    cases hcommand : line.isInit with
    | true =>
      obtain ⟨output, houtput⟩ := isInit_eq_true_iff.1 hcommand
      have hrun : (runProgram w.world words).run [] =
          (.ofTemplate output (w.written output), []) := by
        rw [runProgram, hwords]
        dsimp only
        rw [runCommandLine, houtput]
        rfl
      exact ⟨_, _, hrun, .template hwords houtput⟩
    | false =>
      cases hloaded : w.loaded line with
      | error e =>
        exact ⟨_, _, run_runProgram_of_error hwords hcommand hloaded,
          .unloaded hwords hcommand hloaded⟩
      | ok settings =>
        have happlication : (runProgram w.world words).run [] =
            (runApplication w.world settings line.command).run [] :=
          run_runProgram_of_ok hwords hcommand hloaded
        rcases w.startsRuntime_or with hstart | ⟨reason, hstart⟩
        · obtain ⟨made, answer, hexecute, hexecution⟩ :=
            exists_execution_of_ofWords w settings [] hwords hcommand
          exact ⟨_, _, happlication.trans (run_runApplication_of_starts hstart hexecute),
            .ran hwords hcommand hloaded hstart hexecution⟩
        · exact ⟨_, _, happlication.trans (run_runApplication_of_error hstart),
            .unstarted hwords hcommand hloaded hstart⟩

/-! ### Codes of the courses -/

/-- A run that reports no failure has not failed. -/
lemma Ending.code_ofRun_eq_zero {answer : Except RunError (Option String)}
    (h : (Ending.ofRun answer).failure = none) : (Ending.ofRun answer).code = 0 := by
  cases answer with
  | ok printed => rfl
  | error e => cases h

/-- Refused words are seen as refused, and nothing is asked for. -/
lemma ProgramRun.of_refused (h : ProgramRun w words ending made)
    (hrefused : Refused words refusal) :
    ending = ⟨2, none, none, none, some refusal⟩ ∧ made = [] := by
  cases h with
  | refused hother =>
    obtain rfl := Except.error.inj (hrefused.ofWords_eq.symm.trans hother.ofWords_eq)
    exact ⟨rfl, rfl⟩
  | informed hwords hrequest => exact absurd ⟨_, hrefused⟩ (not_refused_of_request hwords hrequest)
  | template hwords | unloaded hwords | unstarted hwords | ran hwords =>
    exact absurd hwords hrefused.not_accepted

/-- A configuration with settings can be used. -/
lemma not_unusable_of_loaded {settings : Settings} (hcommand : line.isInit = false)
    (hloaded : w.loaded line = .ok settings) : ¬ w.Unusable line := by
  rintro (⟨houtput, -⟩ | ⟨-, hfailed⟩)
  · exact ne_init_of_isInit_eq_false hcommand _ houtput
  · cases hloaded.symm.trans hfailed

/-- The code is 1 exactly if what the words ask for cannot be had for the configuration. -/
lemma ProgramRun.code_eq_one_iff (h : ProgramRun w words ending made) :
    ending.code = 1 ↔ ∃ line, CommandLine.ofWords words = .ok line ∧ w.Unusable line := by
  cases h with
  | refused hrefused =>
    refine ⟨nofun, ?_⟩
    rintro ⟨line, hwords, -⟩
    exact absurd hwords hrefused.not_accepted
  | informed hwords _ =>
    refine ⟨nofun, ?_⟩
    rintro ⟨line, hline, -⟩
    cases hwords.symm.trans hline
  | @template line output hwords hcommand =>
    -- Here settings are not even loaded, so that only the file can be at fault.
    have hone : w.Unusable line ↔ ∃ e, w.written output = .error e := by
      constructor
      · rintro (⟨houtput, hwritten⟩ | ⟨hother, -⟩)
        · obtain rfl := Command.init.inj (hcommand.symm.trans houtput)
          exact ⟨_, hwritten⟩
        · exact absurd hcommand (ne_init_of_isInit_eq_false hother output)
      · rintro ⟨e, hwritten⟩
        exact .unwritten hcommand hwritten
    simp only [hwords, Except.ok.injEq, exists_eq_left', hone]
    cases w.written output <;> simp [Ending.ofTemplate, Ending.success]
  | @unloaded line e hwords hcommand hloaded =>
    exact ⟨fun _ => ⟨line, hwords, .unloaded hcommand hloaded⟩, fun _ => rfl⟩
  | unstarted hwords hcommand hloaded _ =>
    simp [hwords, not_unusable_of_loaded hcommand hloaded, Ending.ofStartFault]
  | @ran line settings made answer hwords hcommand hloaded _ hexecution =>
    simp [hwords, not_unusable_of_loaded hcommand hloaded, hexecution.code_ne_one]

/-- The code is 2 exactly if the words are refused, the runtime does not start or something fails
that the command asks for. -/
lemma ProgramRun.code_eq_two_iff (h : ProgramRun w words ending made) :
    ending.code = 2 ↔ (∃ refusal, Refused words refusal) ∨
      ∃ line settings, CommandLine.ofWords words = .ok line ∧ line.isInit = false ∧
        w.loaded line = .ok settings ∧ ((∃ reason, w.startRuntime = .error reason) ∨
          ∃ exchange ∈ made, exchange.failed = true) := by
  cases h with
  | refused hrefused => exact ⟨fun _ => .inl ⟨_, hrefused⟩, fun _ => rfl⟩
  | informed hwords hrequest =>
    simp [not_refused_of_request hwords hrequest, hwords, Ending.success]
  | @template line output hwords hcommand =>
    have hcode : (Ending.ofTemplate output (w.written output)).code ≠ 2 := by
      cases w.written output <;> simp [Ending.ofTemplate, Ending.success]
    have hinit : line.isInit = true := isInit_eq_true_iff.2 ⟨output, hcommand⟩
    simp [not_refused_of_accepted hwords, hwords, hinit, hcode]
  | unloaded hwords hcommand hloaded =>
    simp [not_refused_of_accepted hwords, hwords, hloaded, Ending.ofConfigError]
  | @unstarted line settings reason hwords hcommand hloaded hstart =>
    refine ⟨fun _ => .inr ⟨line, settings, hwords, hcommand, hloaded, .inl ⟨reason, hstart⟩⟩, ?_⟩
    exact fun _ => rfl
  | @ran line settings made answer hwords hcommand hloaded hstart hexecution =>
    have hstarted : ¬ ∃ reason, w.startRuntime = .error reason := by
      rintro ⟨reason, hfault⟩
      exact hstart.ne_error reason hfault
    simp only [not_refused_of_accepted hwords, false_or, hwords, Except.ok.injEq, hstarted,
      hexecution.code_eq_two_iff]
    refine ⟨fun hfailed => ⟨line, settings, rfl, hcommand, hloaded, hfailed⟩, ?_⟩
    rintro ⟨-, -, -, -, -, hfailed⟩
    exact hfailed

/-- Of what makes the code 2, only a refusal reports no failure. -/
lemma ProgramRun.failure_eq_none_iff (h : ProgramRun w words ending made)
    (hcode : ending.code = 2) : ending.failure = none ↔ ∃ refusal, Refused words refusal := by
  cases h with
  | refused hrefused => exact ⟨fun _ => ⟨_, hrefused⟩, fun _ => rfl⟩
  | informed => cases hcode
  | @template _ output _ _ =>
    cases hwritten : w.written output with
    | error e =>
      rw [hwritten] at hcode
      cases hcode
    | ok _ =>
      rw [hwritten] at hcode
      cases hcode
  | unloaded => cases hcode
  | unstarted hwords =>
    exact ⟨nofun, fun hrefused => absurd hrefused (not_refused_of_accepted hwords)⟩
  | ran hwords =>
    refine ⟨fun hfailure => ?_, fun hrefused => absurd hrefused (not_refused_of_accepted hwords)⟩
    rw [Ending.code_ofRun_eq_zero hfailure] at hcode
    cases hcode

end Courses

/-! ### The whole program -/

/-- Whatever the words are and whatever the program meets, refused words make the exit code 2, with
nothing but the refusal to be seen and nothing asked for.  The code is 1 exactly if the words are
accepted and a configuration file cannot be written or no settings can be loaded.  It is 2 exactly
if the words are refused, or if for an accepted command with its settings the runtime does not start
or something has failed that it has asked for; a refusal is told apart from these by the failure
that they report. -/
theorem runProgram_code_of_refused (w : Surroundings) (words : List String) :
    let ending := ((runProgram w.world words).run []).1
    let made := ((runProgram w.world words).run []).2
    (∀ refusal, Refused words refusal →
      ending = ⟨2, none, none, none, some refusal⟩ ∧ made = []) ∧
    (ending.code = 1 ↔ ∃ line, CommandLine.ofWords words = .ok line ∧ w.Unusable line) ∧
    (ending.code = 2 ↔ (∃ refusal, Refused words refusal) ∨
      ∃ line settings, CommandLine.ofWords words = .ok line ∧ line.isInit = false ∧
        w.loaded line = .ok settings ∧ ((∃ reason, w.startRuntime = .error reason) ∨
          ∃ exchange ∈ made, exchange.failed = true)) ∧
    (ending.code = 2 → (ending.failure = none ↔ ∃ refusal, Refused words refusal)) := by
  obtain ⟨ending, made, hrun, hcourse⟩ := exists_programRun w words
  rw [hrun]
  exact ⟨fun refusal => hcourse.of_refused, hcourse.code_eq_one_iff, hcourse.code_eq_two_iff,
    hcourse.failure_eq_none_iff⟩

/-- The name of an unknown command is no command line. -/
lemma refused_unknownCommand : Refused ["frobnicate"] .invalidSubcommand where
  ofWords_eq := by cbv
  ne_help := nofun
  ne_version := nofun

/-- The name of an unknown command is refused. -/
theorem runProgram_code_of_unknownCommand :
    Refused ["frobnicate"] .invalidSubcommand ∧
      ((runProgram Surroundings.idle.world ["frobnicate"]).run []) =
        (⟨2, none, none, none, some .invalidSubcommand⟩, []) := by
  obtain ⟨hrefused, -⟩ := runProgram_code_of_refused Surroundings.idle ["frobnicate"]
  obtain ⟨hending, hmade⟩ := hrefused _ refused_unknownCommand
  exact ⟨refused_unknownCommand, Prod.ext hending hmade⟩

/-- Refused words do not make the code that stands for configurations which cannot be used. -/
theorem not_forall_refused_code_eq_one :
    ¬ ∀ (w : Surroundings) (words : List String) (refusal : Refusal), Refused words refusal →
      ((runProgram w.world words).run []).1.code = 1 := by
  intro hall
  have hone := hall .idle ["frobnicate"] .invalidSubcommand refused_unknownCommand
  obtain ⟨ending, made, hrun, hcourse⟩ := exists_programRun .idle ["frobnicate"]
  obtain ⟨rfl, -⟩ := hcourse.of_refused refused_unknownCommand
  rw [hrun] at hone
  cases hone

end TapTracker
