import TapTracker.Proofs.CommandLine.Installer
import TapTracker.Proofs.Run.Execution
import TapTracker.Proofs.Run.Reinstall
import TapTracker.Proofs.Run.Serializer

/-!
# Errors that are never reported

Three errors would be faults of the program itself: a tracker that is asked for a new adapter before
both of its snapshots have been captured, an installation without an installer, and a listing that
cannot be written.  `executeBy_not_internal` says that no accepted command line leads to one of
them, whatever it meets.

The command line rules out the second one, since it is not accepted without the words of an
installer, and a serializer that writes whatever JSON allows rules out the third.  The first one is
ruled out by the order of the captures.
-/

namespace TapTracker

/-- The error is a fault of the program itself. -/
def RunError.IsInternal : RunError → Prop
  | .tracker (.missingSnapshot _) => True
  | .missingInstaller => True
  | .output _ => True
  | _ => False

section Errors

variable {settings : Settings} {command : Command} {made : Log} {exchange : Exchange}
  {e : RunError}

/-- What is reported of an exchange is no fault of the program. -/
lemma ReportedAs.not_isInternal (h : ReportedAs exchange e) : ¬ e.IsInternal := by
  cases h with
  | enumerated cls e => exact id
  | removed identifier e => exact id
  | renamed a newAlias e => exact id
  | installed c ended e hended =>
    rcases InstallerCommand.verdict_eq_error hended with ⟨reason, rfl⟩ | rfl | ⟨status, rfl⟩ <;>
      exact id

/-- Whatever a run reports, it is no fault of the program. -/
lemma Execution.not_isInternal (h : Execution settings command made (.error e)) :
    ¬ e.IsInternal := by
  cases h with
  | fails exchange hmem e hreported => exact hreported.not_isInternal
  | breaks hcreated before after e hanswer =>
    rcases hanswer.card_of_error.2 with rfl | ⟨identifiers, rfl⟩ <;> exact id

end Errors

section Present

variable {σ : Type} {p : Platform (StateM σ)} {t t' : BaselineTracker} {s s' : σ}

/-- A baseline that is reported to have an adapter of the product comes from an enumeration, and an
adapter of the product is found in it. -/
lemma exists_of_establishBaseline_present
    (h : (t.establishBaseline p).run s = ((t', .ok .productAdapterPresent), s')) :
    ∃ before a, (p.enumerate t.adapterClass).run s = (.ok before, s') ∧
      t'.owned = t.owned ∧ t'.baseline = some (.ofList before) ∧
        IsFirstOwned t.owned before a := by
  cases henumerate : (p.enumerate t.adapterClass).run s with
  | mk answer s₁ =>
    rw [run_establishBaseline henumerate] at h
    cases answer with
    | error e => cases h
    | ok before =>
      obtain ⟨hkept, rfl⟩ := Prod.mk.inj h
      obtain ⟨rfl, hstatus⟩ := Prod.mk.inj hkept
      obtain ⟨a, ha, howned⟩ := classify_eq_productAdapterPresent.1 (Except.ok.inj hstatus)
      obtain ⟨c, hc⟩ := exists_isFirstOwned (AdapterSet.mem_ofList.1 ha) howned
      exact ⟨before, c, rfl, rfl, rfl, hc⟩

end Present

/-- No accepted command line leads to an error that is a fault of the program, whatever settings it
is run with, whatever the platform answers and however the installer ends; it makes no difference
that a serializer could refuse a listing.  In particular an accepted installation has an installer;
and where a baseline is reported to have an adapter of the product, one is found there, so that an
installation ends with it as soon as it has been enumerated. -/
theorem executeBy_not_internal {words : List String} {line : CommandLine}
    (hwords : CommandLine.ofWords words = .ok line) {write : Text.Serial → Except String String}
    (hwrite : Text.WritesJson write) :
    (∀ (w : Surroundings) (settings : Settings),
      executeBy write w.world.toMachine settings line.command =
        execute w.world.toMachine settings line.command) ∧
    (∀ (w : Surroundings) (settings : Settings) (past : Log) (e : RunError),
      ((executeBy write w.world.toMachine settings line.command).run past).1 = .error e →
        ¬ e.IsInternal) ∧
    (∀ timeout keepAlias installer, line.command = .install timeout keepAlias installer →
      installer ≠ []) ∧
    ∀ (σ : Type) (p : Platform (StateM σ)) (t t' : BaselineTracker) (s s' : σ),
      (t.establishBaseline p).run s = ((t', .ok .productAdapterPresent), s') →
        ∃ adapters a, t'.baseline = some adapters ∧ adapters.find? t'.owned = some a ∧
          ∀ settings, t = .new settings.adapterClass settings.owns →
            ∀ install, (installCycle p settings install).run s = (.ok (.alreadyPresent a), s') := by
  have hinstaller : ∀ timeout keepAlias installer,
      line.command = .install timeout keepAlias installer → installer ≠ [] :=
    fun timeout keepAlias installer hinstall => installer_ne_nil_of_ofWords hwords hinstall
  refine ⟨fun w settings => executeBy_eq hwrite _ _ _, ?_, hinstaller, ?_⟩
  · intro w settings past e herror
    rw [executeBy_eq hwrite] at herror
    -- Writing a configuration file is no run with settings, and cannot fail here.
    by_cases hinit : ∃ output, line.command = .init output
    · obtain ⟨output, hinit⟩ := hinit
      rw [hinit] at herror
      cases herror
    · have hsome : ∀ timeout keepAlias, line.command ≠ .install timeout keepAlias [] :=
        fun timeout keepAlias hinstall => hinstaller timeout keepAlias [] hinstall rfl
      obtain ⟨made, answer, hrun, hexecution⟩ :=
        exists_execution w settings past (not_exists.1 hinit) hsome
      rw [hrun] at herror
      cases answer with
      | ok text => cases herror
      | error e' =>
        obtain rfl := Except.error.inj herror
        exact hexecution.not_isInternal
  · intro σ p t t' s s' hestablished
    obtain ⟨before, a, henumerate, howned, hbaseline, hfirst⟩ :=
      exists_of_establishBaseline_present hestablished
    refine ⟨.ofList before, a, hbaseline, ?_, ?_⟩
    · rw [howned]
      exact AdapterSet.find?_ofList_eq_some.2 hfirst
    · rintro settings rfl install
      exact run_installCycle_of_present henumerate hfirst

/-- An installation in surroundings without adapters reports that none has appeared, which is no
fault of the program. -/
theorem executeBy_not_internal_of_idle :
    CommandLine.ofWords ["install", "--", "setup.exe"] = .ok .plainInstall ∧
      Text.WritesJson Text.Serial.write ∧
      ((executeBy Text.Serial.write Surroundings.idle.world.toMachine defaultSettings
        CommandLine.plainInstall.command).run []).1 = .error (.tracker .noNewAdapter) ∧
      ¬ (RunError.tracker .noNewAdapter).IsInternal := by
  have herror : ((executeBy Text.Serial.write Surroundings.idle.world.toMachine defaultSettings
      CommandLine.plainInstall.command).run []).1 = .error (.tracker .noNewAdapter) := rfl
  have hnever := (executeBy_not_internal ofWords_plainInstall Text.writesJson_write).2.1
  exact ⟨ofWords_plainInstall, Text.writesJson_write, herror,
    hnever Surroundings.idle defaultSettings [] _ herror⟩

end TapTracker
