import TapTracker.Proofs.Run.Ownership
import TapTracker.Proofs.Surroundings

/-!
# What the run of a command comes to

There are three ways in which the run of a command can end.  Everything that it asks for is
answered, and it prints one text; something that it asks for fails, and it reports just that; or
everything is answered and yet an installation has not created exactly one adapter.
`Execution settings command made answer` says which of these ways goes with which log, and
`exists_execution` that every run of a command ends in one of them.

The way is told by the log alone: `Exchange.failed` looks at the answers that were given, and
`CreatedNotOne` at the two lists that were enumerated.
-/

namespace TapTracker

/-! ### Ways to end -/

/-- What was asked for has not been done. -/
def Exchange.failed : Exchange → Bool
  | .enumerated _ answer => !answer.isOk
  | .removed _ answer => !answer.isOk
  | .renamed _ _ answer => !answer.isOk
  | .installed answer => !answer.isOk

/-- The error that reports a failed exchange. -/
inductive ReportedAs : Exchange → RunError → Prop
  | enumerated (cls : AdapterClass) (e : EnumerateError) :
      ReportedAs (.enumerated cls (.error e)) (.tracker (.enumerate e))
  | removed (identifier : String) (e : RemoveError) :
      ReportedAs (.removed identifier (.error e)) (.tracker (.remove identifier e))
  | renamed (a : TapAdapter) (newAlias : String) (e : RenameError) :
      ReportedAs (.renamed a newAlias (.error e)) (.rename a.identifier e)
  | installed (command : InstallerCommand) (ended : ProcessEnd) (e : RunError)
      (hended : command.verdict ended = .error e) : ReportedAs (.installed (.error e)) e

/-- An installation has found no adapter of the product, its installer has done its work, and the
number of adapters that are new after it is zero, or at least two. -/
inductive CreatedNotOne (settings : Settings) : Command → Log → Prop
  | intro (timeout : Option Nat) (keepAlias : Bool) (installer : List String)
      (before after : List TapAdapter) (hnone : HasNoOwned settings.owns before)
      (hcount : (newKeys before after).card = 0 ∨ 2 ≤ (newKeys before after).card) :
      CreatedNotOne settings (.install timeout keepAlias installer)
        [.enumerated settings.adapterClass (.ok before), .installed (.ok ()),
          .enumerated settings.adapterClass (.ok after)]

/-- What a command has asked for, and what it comes to. -/
inductive Execution (settings : Settings) (command : Command) :
    Log → Except RunError String → Prop
  | prints (made : Log) (text : String) (hmade : ∀ exchange ∈ made, exchange.failed = false)
      (hone : ¬ CreatedNotOne settings command made) : Execution settings command made (.ok text)
  | fails (made : Log) (exchange : Exchange) (hmem : exchange ∈ made) (e : RunError)
      (hreported : ReportedAs exchange e) : Execution settings command made (.error e)
  | breaks (made : Log) (hcreated : CreatedNotOne settings command made)
      (before after : List TapAdapter) (e : TrackerError)
      (hanswer : NewAdapterAnswer before after (.error e)) :
      Execution settings command made (.error (.tracker e))

section Ways

variable {settings : Settings} {command : Command} {made : Log} {exchange : Exchange}
  {e : RunError} {a : TapAdapter} {before after : List TapAdapter}

/-- The end of a process that counts as a failure of the installer is reported as one. -/
lemma InstallerCommand.verdict_eq_error {c : InstallerCommand} {ended : ProcessEnd}
    (h : c.verdict ended = .error e) :
    (∃ reason, e = .installerIo c.program reason) ∨ e = .installerTimedOut c.program c.timeout ∨
      ∃ status, e = .installerFailed c.program status := by
  unfold verdict at h
  cases ended with
  | failed reason =>
    cases h
    exact Or.inl ⟨reason, rfl⟩
  | timedOut =>
    cases h
    exact Or.inr (Or.inl rfl)
  | exited status =>
    dsimp only at h
    split at h <;> cases h
    exact Or.inr (Or.inr ⟨status, rfl⟩)

/-- An exchange that is reported has failed. -/
lemma ReportedAs.failed (h : ReportedAs exchange e) : exchange.failed = true := by
  cases h <;> rfl

/-- What is reported of an exchange is no breach of the contract of the tracker. -/
lemma ReportedAs.not_isPrecondition (h : ReportedAs exchange e) : e.isPrecondition = false := by
  cases h with
  | enumerated cls e => rfl
  | removed identifier e => rfl
  | renamed a newAlias e => rfl
  | installed c ended e hended =>
    rcases InstallerCommand.verdict_eq_error hended with ⟨reason, rfl⟩ | rfl | ⟨status, rfl⟩ <;> rfl

/-- Nothing has failed in an installation whose enumerations and whose installer are answered. -/
lemma not_failed_installed (cls : AdapterClass) (before after : List TapAdapter) :
    ∀ exchange ∈ [Exchange.enumerated cls (.ok before), .installed (.ok ()),
      .enumerated cls (.ok after)], exchange.failed = false :=
  List.forall_mem_cons.2 ⟨rfl, List.forall_mem_cons.2 ⟨rfl, List.forall_mem_singleton.2 rfl⟩⟩

/-- All that an installation asks for that creates too few or too many adapters is answered. -/
lemma CreatedNotOne.not_failed (h : CreatedNotOne settings command made) :
    ∀ exchange ∈ made, exchange.failed = false := by
  cases h with
  | intro timeout keepAlias installer before after hnone hcount =>
    exact not_failed_installed settings.adapterClass before after

/-- Where there is a new adapter to answer with, it is the only one. -/
lemma NewAdapterAnswer.card_eq_one (h : NewAdapterAnswer before after (.ok a)) :
    (newKeys before after).card = 1 := by
  cases h with
  | one key a hkeys hfirst => rw [hkeys, Finset.card_singleton]

/-- Where there is no new adapter to answer with, there is none or more than one, and this breaks
the contract of the tracker. -/
lemma NewAdapterAnswer.card_of_error {e : TrackerError}
    (h : NewAdapterAnswer before after (.error e)) :
    ((newKeys before after).card = 0 ∨ 2 ≤ (newKeys before after).card) ∧
      (e = .noNewAdapter ∨ ∃ identifiers, e = .multipleNewAdapters identifiers) := by
  cases h with
  | none hkeys => exact ⟨Or.inl (by rw [hkeys, Finset.card_empty]), Or.inl rfl⟩
  | several identifiers hkeys hlisted hordered hspelled =>
    exact ⟨Or.inr hkeys, Or.inr ⟨identifiers, rfl⟩⟩

/-- Only an installation creates adapters. -/
lemma not_createdNotOne_of_ne
    (hother : ∀ timeout keepAlias installer, command ≠ .install timeout keepAlias installer) :
    ¬ CreatedNotOne settings command made := by
  intro h
  cases h with
  | intro timeout keepAlias installer before after hnone hcount =>
    exact hother timeout keepAlias installer rfl

/-- Where nothing is asked for, nothing is created. -/
lemma not_createdNotOne_nil : ¬ CreatedNotOne settings command [] :=
  nofun

/-- An installation that has found one new adapter has not created too few or too many. -/
lemma not_createdNotOne_of_answer (hanswer : NewAdapterAnswer before after (.ok a)) :
    ¬ CreatedNotOne settings command
      [.enumerated settings.adapterClass (.ok before), .installed (.ok ()),
        .enumerated settings.adapterClass (.ok after)] := by
  intro h
  have hcard := hanswer.card_eq_one
  cases h with
  | intro timeout keepAlias installer before after hnone hcount => omega

end Ways

/-! ### Paths end in one of the ways -/

section Paths

variable {settings : Settings} {command : Command} {made : Log}

/-- A command that enumerates once prints what it makes of the list, or reports that there is
none. -/
lemma execution_of_enumeration
    (hother : ∀ timeout keepAlias installer, command ≠ .install timeout keepAlias installer)
    (print : List TapAdapter → String) (answer : Except EnumerateError (List TapAdapter)) :
    Execution settings command [.enumerated settings.adapterClass answer]
      ((answer.map print).mapError (.tracker ∘ .enumerate)) := by
  cases answer with
  | error e => exact .fails _ _ List.mem_cons_self _ (.enumerated _ e)
  | ok adapters =>
    exact .prints _ _ (List.forall_mem_singleton.2 rfl) (not_createdNotOne_of_ne hother)

/-- After a removal it is up to the last enumeration what there is to print. -/
lemma execution_of_remainder {first : Log} (hfirst : ∀ exchange ∈ first, exchange.failed = false)
    (cls : AdapterClass) (answer : Except EnumerateError (List TapAdapter)) :
    Execution settings .remove (first ++ [.enumerated cls answer])
      (((remainder answer).mapError .tracker).map (·.name)) := by
  cases answer with
  | error e =>
    refine .fails _ (.enumerated cls (.error e)) ?_ _ (.enumerated cls e)
    exact List.mem_append_right first List.mem_cons_self
  | ok remaining =>
    have hlast : ∀ exchange ∈ [Exchange.enumerated cls (.ok remaining)], exchange.failed = false :=
      List.forall_mem_singleton.2 rfl
    exact .prints _ _ (List.forall_mem_append.2 ⟨hfirst, hlast⟩) (not_createdNotOne_of_ne nofun)

/-- A deletion ends in one of the ways of the command that removes. -/
lemma DeletionRun.execution {result : Except TrackerError DeletionResult}
    (h : DeletionRun settings.adapterClass settings.owns made result) :
    Execution settings .remove made ((result.mapError .tracker).map (·.name)) := by
  cases h with
  | enumerationFails e => exact .fails _ _ List.mem_cons_self _ (.enumerated _ e)
  | nothingOwned before hnone answer =>
    have hfirst : ∀ exchange ∈ [Exchange.enumerated settings.adapterClass (.ok before)],
        exchange.failed = false := List.forall_mem_singleton.2 rfl
    exact execution_of_remainder hfirst settings.adapterClass answer
  | removalFails before a howned e =>
    exact .fails _ (.removed a.identifier (.error e)) (by simp) _ (.removed a.identifier e)
  | removed before a howned answer =>
    have hfirst : ∀ exchange ∈ [Exchange.enumerated settings.adapterClass (.ok before),
        .removed a.identifier (.ok ())], exchange.failed = false :=
      List.forall_mem_cons.2 ⟨rfl, List.forall_mem_singleton.2 rfl⟩
    exact execution_of_remainder hfirst settings.adapterClass answer

/-- After an installer has done its work, a run prints the new adapter, or it reports what has
failed or that there is not one new adapter. -/
lemma NewAdapterNamed.execution {before : List TapAdapter} {timeout : Option Nat}
    {keepAlias : Bool} {installer : List String} {result : Except RunError InstallOutcome}
    (h : NewAdapterNamed settings before made result) (hnone : HasNoOwned settings.owns before) :
    Execution settings (.install timeout keepAlias installer)
      (.enumerated settings.adapterClass (.ok before) :: .installed (.ok ()) :: made)
      (result.map (·.describe)) := by
  cases h with
  | enumerationFails e =>
    exact .fails _ (.enumerated settings.adapterClass (.error e)) (by simp) _ (.enumerated _ e)
  | notOne after e hanswer =>
    have hcount := hanswer.card_of_error.1
    exact .breaks _ (.intro timeout keepAlias installer before after hnone hcount) before after e
      hanswer
  | named after a made result hanswer hgiven =>
    have hanswered := not_failed_installed settings.adapterClass before after
    cases hgiven with
    | kept hkept => exact .prints _ _ hanswered (not_createdNotOne_of_answer hanswer)
    | renamed hrename hother =>
      have hrenamed : ∀ exchange ∈ [Exchange.renamed a settings.productAlias (.ok ())],
          exchange.failed = false := List.forall_mem_singleton.2 rfl
      refine .prints _ _ (List.forall_mem_append.2 ⟨hanswered, hrenamed⟩) ?_
      intro hcreated
      cases hcreated
    | fails hrename hother e =>
      exact .fails _ (.renamed a settings.productAlias (.error e)) (by simp) _ (.renamed a _ e)

/-- An installation ends in one of the ways of the command that installs. -/
lemma InstallRun.execution {w : Surroundings} {c : InstallerCommand} {past : Log}
    {timeout : Option Nat} {keepAlias : Bool} {installer : List String}
    {result : Except RunError InstallOutcome} (h : InstallRun settings made result)
    (hgives : (w.responder c).Gives past made) :
    Execution settings (.install timeout keepAlias installer) made (result.map (·.describe)) := by
  cases h with
  | enumerationFails e => exact .fails _ _ List.mem_cons_self _ (.enumerated _ e)
  | alreadyPresent before a howned =>
    refine .prints _ _ (List.forall_mem_singleton.2 rfl) ?_
    intro hcreated
    cases hcreated
  | installerFails before hnone e =>
    obtain ⟨-, hinstalled, -⟩ := hgives
    exact .fails _ (.installed (.error e)) (by simp) _ (.installed c _ e hinstalled.symm)
  | installed before hnone made result hnamed => exact hnamed.execution hnone

end Paths

/-! ### Every run ends in one of the ways -/

section Runs

variable (w : Surroundings) (settings : Settings) (past : Log)

/-- The command that installs describes what its installation comes to. -/
lemma run_executeInstall {c : InstallerCommand} {installer : List String} {made : Log}
    {result : Except RunError InstallOutcome}
    (hcommand : InstallerCommand.ofCommandLine installer (1000 * settings.installTimeout) = .ok c)
    (hrun : (installCycle (w.responder c).platform settings (w.responder c).installer).run past =
      (result, past ++ made)) :
    (executeInstall w.world.toMachine settings installer).run past =
      (result.map (·.describe), past ++ made) := by
  rw [w.platform_responder, ← w.install_runProcess] at hrun
  unfold executeInstall
  rw [hcommand]
  dsimp only
  rw [StateT.run_bind, hrun]
  cases result with
  | error e => rfl
  | ok outcome => rfl

/-- Every run of a command that needs settings ends in one of the ways, as long as an installation
has an installer. -/
lemma exists_execution {command : Command} (hinit : ∀ output, command ≠ .init output)
    (hinstaller : ∀ timeout keepAlias, command ≠ .install timeout keepAlias []) :
    ∃ made answer,
      (execute w.world.toMachine settings command).run past = (answer.map some, past ++ made) ∧
      Execution settings command made answer := by
  have henumerate : (w.world.platform.enumerate settings.adapterClass).run past =
    (w.enumerate past settings.adapterClass,
      past ++ [.enumerated settings.adapterClass (w.enumerate past settings.adapterClass)]) := rfl
  cases command with
  | init output => exact absurd rfl (hinit output)
  | list asJson =>
    have hexecution := @execution_of_enumeration settings (.list asJson) nofun
      (fun adapters => (AdapterSet.ofList adapters).render settings.owns asJson)
      (w.enumerate past settings.adapterClass)
    refine ⟨_, _, ?_, hexecution⟩
    unfold execute
    rw [StateT.run_bind, run_executeList asJson henumerate]
    rfl
  | baseline =>
    have hexecution := @execution_of_enumeration settings .baseline nofun
      (fun adapters => (BaselineStatus.classify (.ofList adapters) settings.owns).name)
      (w.enumerate past settings.adapterClass)
    refine ⟨_, _, ?_, hexecution⟩
    unfold execute
    rw [StateT.run_bind, run_executeBaseline henumerate]
    rfl
  | remove =>
    -- A deletion runs no installer, so that any command will do for the responder.
    obtain ⟨made, result, hgives, hpath⟩ := exists_deletionRun (w.responder ⟨"", [], 0⟩)
      settings.adapterClass settings.owns past
    refine ⟨made, _, ?_, hpath.execution⟩
    unfold execute
    rw [StateT.run_bind, ← w.platform_responder, run_executeRemove (hpath.run hgives)]
    rfl
  | install timeout keepAlias installer =>
    cases installer with
    | nil => exact absurd rfl (hinstaller timeout keepAlias)
    | cons program arguments =>
      obtain ⟨made, result, hgives, hpath⟩ := exists_installRun
        (w.responder ⟨program, arguments, 1000 * settings.installTimeout⟩) settings past
      refine ⟨made, _, ?_, hpath.execution hgives⟩
      unfold execute
      rw [StateT.run_bind, run_executeInstall w settings past rfl (hpath.run hgives)]
      rfl

end Runs

end TapTracker
