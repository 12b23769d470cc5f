import TapTracker.Proofs.Responder
import TapTracker.Proofs.Run.Stages

/-!
# The effects of an installation

An installation has five stages that can fail: an enumeration, the installer, a second enumeration,
the search for the new adapter, and the renaming.  `InstallRun settings made result` lists the paths
through them.  Each path is a list of exchanges, in the order in which they are made, together with
what the installation comes to; what the path depends on is said of the enumerated lists alone.

The paths are put together from the inside out: `AliasGiven` is the renaming, `NewAdapterNamed` the
second half of an installation, and `InstallRun` the whole.  An installation takes a path if it is
given the answers on it (`InstallRun.run`), and whatever answers there are, they lead along some
path (`exists_installRun`).  `installCycle_run` concludes that with every platform and every
installer an installation takes one path, and that no other path fits the same answers.
-/

namespace TapTracker

/-! ### Paths -/

/-- A new adapter is given the alias of the product if this is asked for and its alias is another
one, and is left alone otherwise. -/
inductive AliasGiven (settings : Settings) (a : TapAdapter) :
    Log → Except RunError TapAdapter → Prop
  | kept (hkept : settings.rename = false ∨ a.aliasName = settings.productAlias) :
      AliasGiven settings a [] (.ok a)
  | renamed (hrename : settings.rename = true) (hother : a.aliasName ≠ settings.productAlias) :
      AliasGiven settings a [.renamed a settings.productAlias (.ok ())]
        (.ok { a with aliasName := settings.productAlias })
  | fails (hrename : settings.rename = true) (hother : a.aliasName ≠ settings.productAlias)
      (e : RenameError) :
      AliasGiven settings a [.renamed a settings.productAlias (.error e)]
        (.error (.rename a.identifier e))

/-- What happens after an installer has done its work, where `before` has been enumerated before
it. -/
inductive NewAdapterNamed (settings : Settings) (before : List TapAdapter) :
    Log → Except RunError InstallOutcome → Prop
  | enumerationFails (e : EnumerateError) :
      NewAdapterNamed settings before [.enumerated settings.adapterClass (.error e)]
        (.error (.tracker (.enumerate e)))
  | notOne (after : List TapAdapter) (e : TrackerError)
      (hanswer : NewAdapterAnswer before after (.error e)) :
      NewAdapterNamed settings before [.enumerated settings.adapterClass (.ok after)]
        (.error (.tracker e))
  | named (after : List TapAdapter) (a : TapAdapter) (made : Log)
      (result : Except RunError TapAdapter) (hanswer : NewAdapterAnswer before after (.ok a))
      (hgiven : AliasGiven settings a made result) :
      NewAdapterNamed settings before (.enumerated settings.adapterClass (.ok after) :: made)
        (result.map .created)

/-- What happens in an installation. -/
inductive InstallRun (settings : Settings) : Log → Except RunError InstallOutcome → Prop
  | enumerationFails (e : EnumerateError) :
      InstallRun settings [.enumerated settings.adapterClass (.error e)]
        (.error (.tracker (.enumerate e)))
  | alreadyPresent (before : List TapAdapter) (a : TapAdapter)
      (howned : IsFirstOwned settings.owns before a) :
      InstallRun settings [.enumerated settings.adapterClass (.ok before)]
        (.ok (.alreadyPresent a))
  | installerFails (before : List TapAdapter) (hnone : HasNoOwned settings.owns before)
      (e : RunError) :
      InstallRun settings
        [.enumerated settings.adapterClass (.ok before), .installed (.error e)] (.error e)
  | installed (before : List TapAdapter) (hnone : HasNoOwned settings.owns before) (made : Log)
      (result : Except RunError InstallOutcome)
      (hnamed : NewAdapterNamed settings before made result) :
      InstallRun settings
        (.enumerated settings.adapterClass (.ok before) :: .installed (.ok ()) :: made) result

/-! ### Paths are taken -/

section Taken

variable {r : Responder} {settings : Settings} {past made : Log}

/-- A new adapter is given its alias along the path that the answers allow. -/
lemma AliasGiven.run {a : TapAdapter} {result : Except RunError TapAdapter}
    (h : AliasGiven settings a made result) (hgives : r.Gives past made) :
    (giveAlias r.platform settings a).run past = (result, past ++ made) := by
  cases h with
  | kept hkept => rw [run_giveAlias_of_kept hkept, List.append_nil]
  | renamed hrename hother => exact run_giveAlias_of_renamed hrename hother hgives.1.run_rename
  | fails hrename hother e => exact run_giveAlias_of_renamed hrename hother hgives.1.run_rename

/-- The second half of an installation takes the path that the answers allow. -/
lemma NewAdapterNamed.run {before : List TapAdapter} {result : Except RunError InstallOutcome}
    (h : NewAdapterNamed settings before made result) (hgives : r.Gives past made) :
    (nameNewAdapter r.platform settings (trackerFrom settings before)).run past =
      (result, past ++ made) := by
  cases h with
  | enumerationFails e => exact run_nameNewAdapter_of_enumerate_error hgives.1.run_enumerate
  | notOne after e hanswer =>
    exact run_nameNewAdapter_of_newAdapter_error rfl hgives.1.run_enumerate hanswer
  | named after a made result hanswer hgiven =>
    have hrun := hgiven.run hgives.2
    rw [run_nameNewAdapter_of_newAdapter rfl hgives.1.run_enumerate hanswer hrun,
      List.append_assoc, List.singleton_append]

/-- An installation takes the path that the answers allow. -/
lemma InstallRun.run {result : Except RunError InstallOutcome}
    (h : InstallRun settings made result) (hgives : r.Gives past made) :
    (installCycle r.platform settings r.installer).run past = (result, past ++ made) := by
  cases h with
  | enumerationFails e => exact run_installCycle_of_enumerate_error hgives.1.run_enumerate
  | alreadyPresent before a howned =>
    exact run_installCycle_of_present hgives.1.run_enumerate howned
  | installerFails before hnone e =>
    obtain ⟨hbefore, hinstalled, -⟩ := hgives
    rw [run_installCycle_of_install_error hbefore.run_enumerate hnone hinstalled.run_installer,
      List.append_assoc, List.singleton_append]
  | installed before hnone made result hnamed =>
    obtain ⟨hbefore, hinstalled, hmade⟩ := hgives
    rw [run_installCycle_of_installed hbefore.run_enumerate hnone hinstalled.run_installer,
      hnamed.run hmade, List.append_assoc, List.append_assoc, List.singleton_append,
      List.singleton_append]

end Taken

/-! ### There always is a path -/

section Exists

variable (r : Responder) (settings : Settings) (past : Log)

/-- Whatever the answer to a renaming is, a new adapter is given its alias along some path. -/
lemma exists_aliasGiven (a : TapAdapter) :
    ∃ made result, r.Gives past made ∧ AliasGiven settings a made result := by
  by_cases hkept : settings.rename = false ∨ a.aliasName = settings.productAlias
  · exact ⟨[], .ok a, trivial, .kept hkept⟩
  · obtain ⟨hrename, hother⟩ := not_or.1 hkept
    rw [Bool.not_eq_false] at hrename
    have hrenamed : r.Answers past (.renamed a settings.productAlias
      (r.rename past a settings.productAlias)) := rfl
    cases hanswer : r.rename past a settings.productAlias with
    | error e =>
      rw [hanswer] at hrenamed
      exact ⟨_, _, hrenamed.gives, .fails hrename hother e⟩
    | ok =>
      rw [hanswer] at hrenamed
      exact ⟨_, _, hrenamed.gives, .renamed hrename hother⟩

/-- Whatever the second enumeration answers, the second half of an installation has a path. -/
lemma exists_newAdapterNamed (before : List TapAdapter) :
    ∃ made result, r.Gives past made ∧ NewAdapterNamed settings before made result := by
  have hafter : r.Answers past
      (.enumerated settings.adapterClass (r.enumerate past settings.adapterClass)) := rfl
  cases henumerate : r.enumerate past settings.adapterClass with
  | error e =>
    rw [henumerate] at hafter
    exact ⟨_, _, hafter.gives, .enumerationFails e⟩
  | ok after =>
    rw [henumerate] at hafter
    have hanswer := BaselineTracker.newAdapter_answer
      (t := { trackerFrom settings before with currentState := some (.ofList after) }) ⟨rfl, rfl⟩
    cases hadded : { trackerFrom settings before with
        currentState := some (.ofList after) }.newAdapter with
    | error e =>
      rw [hadded] at hanswer
      exact ⟨_, _, hafter.gives, .notOne after e hanswer⟩
    | ok a =>
      rw [hadded] at hanswer
      obtain ⟨made, result, hmade, hgiven⟩ := exists_aliasGiven r settings
        (past ++ [.enumerated settings.adapterClass (.ok after)]) a
      exact ⟨_, _, hafter.gives_cons hmade, .named after a made result hanswer hgiven⟩

/-- Whatever the answers are, an installation has a path. -/
lemma exists_installRun :
    ∃ made result, r.Gives past made ∧ InstallRun settings made result := by
  have hbefore : r.Answers past
      (.enumerated settings.adapterClass (r.enumerate past settings.adapterClass)) := rfl
  cases henumerate : r.enumerate past settings.adapterClass with
  | error e =>
    rw [henumerate] at hbefore
    exact ⟨_, _, hbefore.gives, .enumerationFails e⟩
  | ok before =>
    rw [henumerate] at hbefore
    cases hfound : (AdapterSet.ofList before).find? settings.owns with
    | some a =>
      have howned := AdapterSet.find?_ofList_eq_some.1 hfound
      exact ⟨_, _, hbefore.gives, .alreadyPresent before a howned⟩
    | none =>
      have hnone := AdapterSet.find?_ofList_eq_none.1 hfound
      have hinstalled : r.Answers (past ++ [.enumerated settings.adapterClass (.ok before)])
          (.installed (r.install (past ++ [.enumerated settings.adapterClass (.ok before)]))) := rfl
      cases hinstall : r.install (past ++ [.enumerated settings.adapterClass (.ok before)]) with
      | error e =>
        rw [hinstall] at hinstalled
        exact ⟨_, _, hbefore.gives_cons hinstalled.gives, .installerFails before hnone e⟩
      | ok =>
        rw [hinstall] at hinstalled
        obtain ⟨made, result, hmade, hnamed⟩ := exists_newAdapterNamed r settings
          (past ++ [.enumerated settings.adapterClass (.ok before)] ++ [.installed (.ok ())]) before
        exact ⟨_, _, hbefore.gives_cons (hinstalled.gives_cons hmade),
          .installed before hnone made result hnamed⟩

/-- Every installation takes one of the paths of `InstallRun`: these are all its effects, in this
order, and this is what it comes to.  No other path goes with the same answers. -/
theorem installCycle_run :
    ∃ made result,
      (installCycle r.platform settings r.installer).run past = (result, past ++ made) ∧
      r.Gives past made ∧ InstallRun settings made result ∧
      ∀ made' result', r.Gives past made' → InstallRun settings made' result' →
        made' = made ∧ result' = result :=
  Responder.exists_unique_path InstallRun.run (exists_installRun r settings past)

end Exists

end TapTracker
