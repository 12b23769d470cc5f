import TapTracker.Proofs.Tracker.NewAdapter
import TapTracker.Run.Install

/-!
# The stages of an installation

The stages of an installation, run over a platform whose operations change some state.  Each lemma
follows one path through one stage: from what the operations answer in the states that they are run
in, it tells what the stage comes to and the state that it leaves.
-/

namespace TapTracker

section Stages

variable {σ : Type} {p : Platform (StateM σ)} {settings : Settings} {s s' s'' : σ}

/-! ### Captures -/

section Captures

variable {t : BaselineTracker} {answer : Except EnumerateError (List TapAdapter)}

/-- A capture is one enumeration, whose answer is collected. -/
lemma run_capture {cls : AdapterClass} (h : (p.enumerate cls).run s = (answer, s')) :
    (p.capture cls).run s = (answer.map AdapterSet.ofList, s') := by
  rw [Platform.capture, StateT.run_bind, h]
  rfl

/-- Establishing a baseline is one enumeration, whose answer is kept. -/
lemma run_establishBaseline (h : (p.enumerate t.adapterClass).run s = (answer, s')) :
    (t.establishBaseline p).run s = (t.keepBaseline (answer.map AdapterSet.ofList), s') := by
  rw [BaselineTracker.establishBaseline, StateT.run_bind, run_capture h]
  rfl

/-- Recording the current state is one enumeration, whose answer is kept. -/
lemma run_recordCurrentState (h : (p.enumerate t.adapterClass).run s = (answer, s')) :
    (t.recordCurrentState p).run s = (t.keepCurrentState (answer.map AdapterSet.ofList), s') := by
  rw [BaselineTracker.recordCurrentState, StateT.run_bind, run_capture h]
  rfl

end Captures

/-! ### Naming the new adapter -/

section Naming

variable {t : BaselineTracker} {a : TapAdapter} {before after : List TapAdapter}

/-- An adapter that need not be renamed is left alone. -/
lemma run_giveAlias_of_kept (h : settings.rename = false ∨ a.aliasName = settings.productAlias) :
    (giveAlias p settings a).run s = (.ok a, s) := by
  have hkept : ¬ (settings.rename = true ∧ a.aliasName ≠ settings.productAlias) := by
    rintro ⟨hrename, hother⟩
    rcases h with h | h
    · simp [h] at hrename
    · exact hother h
  rw [giveAlias, if_neg hkept]
  rfl

/-- The record of a renamed adapter is answered with its new alias. -/
lemma run_giveAlias_of_renamed {answer : Except RenameError Unit} (hrename : settings.rename = true)
    (hother : a.aliasName ≠ settings.productAlias)
    (h : (p.rename a settings.productAlias).run s = (answer, s')) :
    (giveAlias p settings a).run s =
      ((answer.mapError (RunError.rename a.identifier)).map fun _ =>
        { a with aliasName := settings.productAlias }, s') := by
  rw [giveAlias, if_pos ⟨hrename, hother⟩, StateT.run_bind, h]
  cases answer <;> rfl

/-- An adapter that has been given its alias has either been left alone or been renamed. -/
lemma run_giveAlias_eq_ok {added : TapAdapter}
    (h : (giveAlias p settings added).run s = (.ok a, s')) :
    ((settings.rename = false ∨ added.aliasName = settings.productAlias) ∧ a = added ∧ s' = s) ∨
      ((p.rename added settings.productAlias).run s = (.ok (), s') ∧
        a = { added with aliasName := settings.productAlias }) := by
  by_cases hkept : settings.rename = false ∨ added.aliasName = settings.productAlias
  · rw [run_giveAlias_of_kept hkept] at h
    cases h
    exact Or.inl ⟨hkept, rfl, rfl⟩
  · obtain ⟨hrename, hother⟩ := not_or.1 hkept
    rw [Bool.not_eq_false] at hrename
    cases hgiven : (p.rename added settings.productAlias).run s with
    | mk answer s₁ =>
      rw [run_giveAlias_of_renamed hrename hother hgiven] at h
      cases answer with
      | error e => cases h
      | ok =>
        cases h
        exact Or.inr ⟨rfl, rfl⟩

/-- If the second enumeration fails, no new adapter is sought. -/
lemma run_nameNewAdapter_of_enumerate_error {e : EnumerateError}
    (h : (p.enumerate t.adapterClass).run s = (.error e, s')) :
    (nameNewAdapter p settings t).run s = (.error (.tracker (.enumerate e)), s') := by
  rw [nameNewAdapter, StateT.run_bind, run_recordCurrentState h]
  rfl

/-- After a second enumeration the tracker has the answer that belongs to both of them. -/
lemma newAdapter_of_currentState {answer : Except TrackerError TapAdapter}
    (hbaseline : t.baseline = some (.ofList before))
    (hanswer : NewAdapterAnswer before after answer) :
    { t with currentState := some (.ofList after) }.newAdapter = answer := by
  have hcaptured : { t with currentState := some (.ofList after) }.CapturedFrom (some before)
      (some after) := ⟨hbaseline, rfl⟩
  exact (BaselineTracker.newAdapter_answer hcaptured).unique hanswer

/-- After a second enumeration it is up to the tracker whether an adapter is given its alias. -/
lemma run_nameNewAdapter (h : (p.enumerate t.adapterClass).run s = (.ok after, s')) :
    (nameNewAdapter p settings t).run s =
      StateT.run (match { t with currentState := some (.ofList after) }.newAdapter with
        | .error e => pure (.error (.tracker e))
        | .ok a => do
          let named ← giveAlias p settings a
          return named.map .created) s' := by
  rw [nameNewAdapter, StateT.run_bind, run_recordCurrentState h]
  rfl

/-- Without exactly one new adapter nothing is renamed. -/
lemma run_nameNewAdapter_of_newAdapter_error {e : TrackerError}
    (hbaseline : t.baseline = some (.ofList before))
    (h : (p.enumerate t.adapterClass).run s = (.ok after, s'))
    (hanswer : NewAdapterAnswer before after (.error e)) :
    (nameNewAdapter p settings t).run s = (.error (.tracker e), s') := by
  rw [run_nameNewAdapter h, newAdapter_of_currentState hbaseline hanswer]
  rfl

/-- One new adapter is given its alias. -/
lemma run_nameNewAdapter_of_newAdapter {result : Except RunError TapAdapter}
    (hbaseline : t.baseline = some (.ofList before))
    (h : (p.enumerate t.adapterClass).run s = (.ok after, s'))
    (hanswer : NewAdapterAnswer before after (.ok a))
    (hgiven : (giveAlias p settings a).run s' = (result, s'')) :
    (nameNewAdapter p settings t).run s = (result.map .created, s'') := by
  rw [run_nameNewAdapter h, newAdapter_of_currentState hbaseline hanswer]
  dsimp only
  rw [StateT.run_bind, hgiven]
  rfl

/-- A second half that creates an adapter enumerates, finds one new adapter and gives it its
alias. -/
lemma exists_of_run_nameNewAdapter_created (hbaseline : t.baseline = some (.ofList before))
    (h : (nameNewAdapter p settings t).run s = (.ok (.created a), s')) :
    ∃ after added s₁, (p.enumerate t.adapterClass).run s = (.ok after, s₁) ∧
      NewAdapterAnswer before after (.ok added) ∧
      (giveAlias p settings added).run s₁ = (.ok a, s') := by
  cases henumerate : (p.enumerate t.adapterClass).run s with
  | mk answer s₁ =>
    cases answer with
    | error e =>
      rw [run_nameNewAdapter_of_enumerate_error henumerate] at h
      cases h
    | ok after =>
      have hanswer := BaselineTracker.newAdapter_answer
        (t := { t with currentState := some (.ofList after) }) ⟨hbaseline, rfl⟩
      cases hadded : { t with currentState := some (.ofList after) }.newAdapter with
      | error e =>
        rw [hadded] at hanswer
        rw [run_nameNewAdapter_of_newAdapter_error hbaseline henumerate hanswer] at h
        cases h
      | ok added =>
        rw [hadded] at hanswer
        refine ⟨after, added, s₁, rfl, hanswer, ?_⟩
        cases hgiven : (giveAlias p settings added).run s₁ with
        | mk result s₂ =>
          rw [run_nameNewAdapter_of_newAdapter hbaseline henumerate hanswer hgiven] at h
          cases result with
          | error e => cases h
          | ok =>
            cases h
            rfl

end Naming

/-! ### Whole installations -/

section Whole

variable {install : StateM σ (Except RunError Unit)} {before : List TapAdapter} {a : TapAdapter}

/-- The tracker after a baseline has been captured from a list. -/
def trackerFrom (settings : Settings) (before : List TapAdapter) : BaselineTracker :=
  { BaselineTracker.new settings.adapterClass settings.owns with
    baseline := some (.ofList before) }

/-- A set is classified as one without adapters exactly if it is empty. -/
lemma classify_eq_noTapAdaptersPresent {adapters : AdapterSet} {owned : TapAdapter → Bool} :
    BaselineStatus.classify adapters owned = .noTapAdaptersPresent ↔ adapters.adapters = [] := by
  rw [BaselineStatus.classify, AdapterSet.isEmpty, ← List.isEmpty_iff]
  split
  next => simp [*]
  next => split <;> simp [*]

/-- A set is classified as one with an adapter of the product exactly if it has an owned record. -/
lemma classify_eq_productAdapterPresent {adapters : AdapterSet} {owned : TapAdapter → Bool} :
    BaselineStatus.classify adapters owned = .productAdapterPresent ↔
      ∃ a ∈ adapters.adapters, owned a := by
  have hany : adapters.any owned ↔ ∃ a ∈ adapters.adapters, owned a := List.any_eq_true
  rw [← hany, BaselineStatus.classify]
  split
  next hempty =>
    have hnone : adapters.any owned = false := by
      rw [AdapterSet.any, List.isEmpty_iff.1 hempty]
      rfl
    simp [hnone]
  next => split <;> simp [*]

/-- The adapter of the product in a classified baseline is the one that is found there, whatever the
status is. -/
lemma present?_classify {t : BaselineTracker} {adapters : AdapterSet}
    (hbaseline : t.baseline = some adapters) :
    t.present? (.classify adapters t.owned) = adapters.find? t.owned := by
  rw [BaselineTracker.present?, hbaseline, Option.bind_some]
  split
  next => rfl
  next hstatus =>
    rw [classify_eq_productAdapterPresent] at hstatus
    refine (List.find?_eq_none.2 fun a ha howned => ?_).symm
    exact hstatus ⟨a, ha, howned⟩

/-- If the first enumeration fails, the installer is not run. -/
lemma run_installCycle_of_enumerate_error {e : EnumerateError}
    (h : (p.enumerate settings.adapterClass).run s = (.error e, s')) :
    (installCycle p settings install).run s = (.error (.tracker (.enumerate e)), s') := by
  rw [installCycle, StateT.run_bind,
    run_establishBaseline (t := .new settings.adapterClass settings.owns) h]
  rfl

/-- After a first enumeration it is up to the baseline whether the installer is run. -/
lemma run_installCycle (h : (p.enumerate settings.adapterClass).run s = (.ok before, s')) :
    (installCycle p settings install).run s =
      StateT.run (match (AdapterSet.ofList before).find? settings.owns with
        | some a => pure (.ok (.alreadyPresent a))
        | none => do
          match ← install with
          | .error e => return .error e
          | .ok () => nameNewAdapter p settings (trackerFrom settings before)) s' := by
  have hpresent : (trackerFrom settings before).present?
      (.classify (.ofList before) settings.owns) =
        (AdapterSet.ofList before).find? settings.owns :=
    present?_classify (t := trackerFrom settings before) rfl
  rw [installCycle, StateT.run_bind,
    run_establishBaseline (t := .new settings.adapterClass settings.owns) h, ← hpresent]
  rfl

/-- An adapter of the product in the baseline ends the installation. -/
lemma run_installCycle_of_present
    (h : (p.enumerate settings.adapterClass).run s = (.ok before, s'))
    (howned : IsFirstOwned settings.owns before a) :
    (installCycle p settings install).run s = (.ok (.alreadyPresent a), s') := by
  rw [run_installCycle h, AdapterSet.find?_ofList_eq_some.2 howned]
  rfl

/-- If the installer fails, there is no second enumeration. -/
lemma run_installCycle_of_install_error {e : RunError}
    (h : (p.enumerate settings.adapterClass).run s = (.ok before, s'))
    (hnone : HasNoOwned settings.owns before) (hinstall : install.run s' = (.error e, s'')) :
    (installCycle p settings install).run s = (.error e, s'') := by
  rw [run_installCycle h, AdapterSet.find?_ofList_eq_none.2 hnone]
  dsimp only
  rw [StateT.run_bind, hinstall]
  rfl

/-- An installer that does its work leaves the new adapter to be named. -/
lemma run_installCycle_of_installed
    (h : (p.enumerate settings.adapterClass).run s = (.ok before, s'))
    (hnone : HasNoOwned settings.owns before) (hinstall : install.run s' = (.ok (), s'')) :
    (installCycle p settings install).run s =
      (nameNewAdapter p settings (trackerFrom settings before)).run s'' := by
  rw [run_installCycle h, AdapterSet.find?_ofList_eq_none.2 hnone]
  dsimp only
  rw [StateT.run_bind, hinstall]
  rfl

/-- An installation that creates an adapter has gone through all stages: it has enumerated without
finding an adapter of the product, installed, enumerated again, found one new adapter and given it
its alias. -/
lemma exists_of_run_installCycle_created
    (h : (installCycle p settings install).run s = (.ok (.created a), s')) :
    ∃ before after added s₁ s₂ s₃,
      (p.enumerate settings.adapterClass).run s = (.ok before, s₁) ∧
      HasNoOwned settings.owns before ∧
      install.run s₁ = (.ok (), s₂) ∧
      (p.enumerate settings.adapterClass).run s₂ = (.ok after, s₃) ∧
      NewAdapterAnswer before after (.ok added) ∧
      (giveAlias p settings added).run s₃ = (.ok a, s') := by
  -- A stage that fails ends the installation with its error, which leaves one way to an adapter.
  cases henumerate : (p.enumerate settings.adapterClass).run s with
  | mk answer s₁ =>
    cases answer with
    | error e =>
      rw [run_installCycle_of_enumerate_error henumerate] at h
      cases h
    | ok before =>
      cases hfound : (AdapterSet.ofList before).find? settings.owns with
      | some c =>
        rw [run_installCycle_of_present henumerate (AdapterSet.find?_ofList_eq_some.1 hfound)] at h
        cases h
      | none =>
        have hnone := AdapterSet.find?_ofList_eq_none.1 hfound
        cases hinstall : install.run s₁ with
        | mk done s₂ =>
          cases done with
          | error e =>
            rw [run_installCycle_of_install_error henumerate hnone hinstall] at h
            cases h
          | ok =>
            rw [run_installCycle_of_installed henumerate hnone hinstall] at h
            obtain ⟨after, added, s₃, hafter, hanswer, hgiven⟩ :=
              exists_of_run_nameNewAdapter_created (t := trackerFrom settings before) rfl h
            exact ⟨before, after, added, s₁, s₂, s₃, rfl, hnone, hinstall, hafter, hanswer, hgiven⟩

end Whole

end Stages

end TapTracker
