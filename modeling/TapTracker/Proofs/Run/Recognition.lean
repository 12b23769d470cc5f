import TapTracker.CommandLine.Parser
import TapTracker.Proofs.Config.Merge
import TapTracker.Proofs.Run.Reinstall
import TapTracker.Proofs.Tracker.Deletion
import TapTracker.Run.Execute

/-!
# Settings that recognise the adapter they name

A new adapter is given the alias of the product, and later commands know it again by its signature.
The two are resolved apart from each other: a signature that is given, be it on the command line or
in the file, is used as it stands, whether or not it fits the alias.  `Settings.RecognisesAlias`
says that it does.

`Settings.recognisesAlias_iff_of_resolve` tells when resolved settings recognise their alias: always
if the signature is derived from it, and otherwise exactly if the given pattern matches it.  For an
adapter that an installation has created and renamed this decides everything that follows
(`Settings.recognition_of_resolve`), since the system lists this adapter under the alias of the
product.  That a given pattern may miss the alias is shown by `resolve_of_other_signature`.
-/

namespace TapTracker

open Simulation Testbed

/-- A given pattern is the pattern of its signature. -/
lemma AliasSignature.ofPattern_eq_ok {text : String} {signature : AliasSignature} :
    ofPattern text = .ok signature ↔ Pattern.compile text = .ok signature.pattern := by
  rw [ofPattern, map_eq_ok]
  constructor
  · rintro ⟨p, hp, rfl⟩
    exact hp
  · exact fun h => ⟨_, h, rfl⟩

/-! ### Recognising the alias -/

namespace Settings

/-- Every adapter under the alias of the product belongs to the product. -/
def RecognisesAlias (s : Settings) : Prop :=
  ∀ a : TapAdapter, a.aliasName = s.productAlias → s.owns a

section Resolved

variable {line : CommandLine} {file : Option ConfigFile} {s : Settings} {a : TapAdapter}

/-- One adapter under the alias of the product stands for all of them, because adapters are owned
by their aliases. -/
lemma owns_iff_recognisesAlias (halias : a.aliasName = s.productAlias) :
    s.owns a ↔ s.RecognisesAlias := by
  refine ⟨fun howned c hc => ?_, fun h => h a halias⟩
  rw [owns, AliasSignature.owns, hc, ← halias]
  exact howned

/-- Settings recognise the alias exactly if it bears their signature. -/
lemma recognisesAlias_iff_includes :
    s.RecognisesAlias ↔ s.signature.includes s.productAlias :=
  (owns_iff_recognisesAlias (a := ⟨"", "", s.productAlias⟩) rfl).symm

/-- Resolved settings recognise their alias unless a signature is given that does not match it. -/
lemma recognisesAlias_iff_of_resolve (h : resolve line (file.getD .empty) = .ok s) :
    s.RecognisesAlias ↔ ∀ text, (MergedValues.of line file).signature = some text →
      ∃ p, Pattern.compile text = .ok p ∧ p.isMatch s.productAlias := by
  rw [recognisesAlias_iff_includes]
  cases resolve_eq_iff_validated.1 h with
  | valid cls hclass halias signature hsignature htimeout =>
    rw [MergedValues.compileSignature] at hsignature
    cases hgiven : (MergedValues.of line file).signature with
    | none =>
      rw [hgiven] at hsignature
      have hderived := (AliasSignature.includes_of_ofAlias hsignature
        (MergedValues.of line file).trimmedAlias).2 rfl
      exact iff_of_true hderived fun text htext => by cases htext
    | some text =>
      rw [hgiven] at hsignature
      have hcompiled := AliasSignature.ofPattern_eq_ok.1 hsignature
      constructor
      · rintro hmatch _ ⟨⟩
        exact ⟨signature.pattern, hcompiled, hmatch⟩
      · intro hmatches
        obtain ⟨p, hp, hmatch⟩ := hmatches text rfl
        rw [hcompiled] at hp
        cases hp
        exact hmatch

end Resolved

end Settings

/-! ### Commands after an installation -/

section Commands

variable {settings : Settings} {b : Testbed} {c : TapAdapter}

/-- A removal on a live system calls the remover for the first adapter of the product, whether or
not the remover does its work. -/
lemma removed_of_run_removeProductAdapter (hlive : b.Live)
    (howned : IsFirstOwned settings.owns (b.listed settings.adapterClass) c) :
    ((removeProductAdapter platform settings).run b).2.removed =
      b.removed ++ [c.identifier] := by
  have henumerate := hlive.run_enumerate settings.adapterClass
  cases hfault : b.removeFault with
  | none =>
    have hremove := run_remove (b := b.counted) hlive.script hfault c.identifier
    have hafter := (hlive.counted.dropped c.identifier).run_enumerate settings.adapterClass
    rw [run_removeProductAdapter (run_deletion_of_removed henumerate howned hremove hafter)]
    rfl
  | some e =>
    have hremove : (platform.remove c.identifier).run b.counted =
        (.error e, { b.counted with removed := b.removed ++ [c.identifier] }) := by
      change b.counted.remove c.identifier = _
      simp only [remove, counted, hfault]
    rw [run_removeProductAdapter (run_deletion_of_remove_error henumerate howned hremove)]

/-- The next baseline on a live system sees an adapter of the product, the next installation is
skipped for it, and the next removal calls the remover for it. -/
structure FindsNext (settings : Settings) (b : Testbed) (c : TapAdapter) : Prop where
  baseline : ∃ t, ((BaselineTracker.new settings.adapterClass settings.owns).establishBaseline
    platform).run b = ((t, .ok .productAdapterPresent), b.counted)
  installation : ∀ install, (installCycle platform settings install).run b =
    (.ok (.alreadyPresent c), b.counted)
  removal : ((removeProductAdapter platform settings).run b).2.removed =
    b.removed ++ [c.identifier]

/-- On a live system the next commands find the first adapter of the product. -/
lemma findsNext_of_isFirstOwned (hlive : b.Live)
    (howned : IsFirstOwned settings.owns (b.listed settings.adapterClass) c) :
    FindsNext settings b c := by
  have henumerate := hlive.run_enumerate settings.adapterClass
  refine ⟨⟨trackerFrom settings (b.listed settings.adapterClass), ?_⟩,
    fun install => run_installCycle_of_present henumerate howned,
    removed_of_run_removeProductAdapter hlive howned⟩
  have hstatus : BaselineStatus.classify (AdapterSet.ofList (b.listed settings.adapterClass))
      settings.owns = .productAdapterPresent :=
    classify_eq_productAdapterPresent.2 ⟨c, AdapterSet.mem_ofList.2 howned.first, howned.holds⟩
  rw [run_establishBaseline (t := .new settings.adapterClass settings.owns) henumerate, ← hstatus]
  rfl

end Commands

/-- Settings recognise the adapter they name exactly if no signature is given, on the command line
or in the file, or if the given pattern matches the alias of the product; the pattern alone decides.
An adapter that an installation has created and renamed belongs to the product exactly in this case.
The next baseline then sees an adapter of the product, the next installation is skipped and the next
removal calls the remover, for the first adapter of the product: the created one, or one that
precedes it. -/
theorem Settings.recognition_of_resolve {line : CommandLine} {file : Option ConfigFile}
    {settings : Settings} (hresolved : resolve line (file.getD .empty) = .ok settings)
    (hrename : settings.rename = true) :
    (settings.RecognisesAlias ↔ ∀ text, (MergedValues.of line file).signature = some text →
      ∃ p, Pattern.compile text = .ok p ∧ p.isMatch settings.productAlias) ∧
    ∀ (b b' : Testbed) (a : TapAdapter)
      (change : List TapAdapter → Except RunError Unit × List TapAdapter), b.script = none →
      (installCycle platform settings (changeDevices change)).run b = (.ok (.created a), b') →
      (settings.owns a ↔ settings.RecognisesAlias) ∧
      (settings.RecognisesAlias →
        ∃ c, IsFirstOwned settings.owns (b'.listed settings.adapterClass) c ∧
          (c = a ∨ c.Before a) ∧ FindsNext settings b' c) := by
  refine ⟨recognisesAlias_iff_of_resolve hresolved, fun b b' a change hscript hcreated => ?_⟩
  obtain ⟨hlive, halias, hfirst⟩ := listed_of_created hscript hrename hcreated
  have howns := owns_iff_recognisesAlias halias
  refine ⟨howns, fun hrecognised => ?_⟩
  have howned := howns.2 hrecognised
  obtain ⟨c, hc⟩ := exists_isFirstOwned hfirst howned
  exact ⟨c, hc, (hc.least a hfirst howned).imp_left Eq.symm, findsNext_of_isFirstOwned hlive hc⟩

/-- An installation of which nothing but its installer and a signature is said. -/
def CommandLine.installWithSignature (text : String) : CommandLine :=
  ⟨.install none false ["setup.exe"], none, none, some text, none, false⟩

/-- The settings of an installation with a signature for what begins with the alias. -/
def prefixSettings : Settings :=
  { defaultSettings with
    signature := ⟨⟨"^Mullvad", .catAll (.look .textStart :: "Mullvad".toList.map .anyCase)⟩⟩ }

/-- A signature for what begins with the alias is enough for later commands to find the adapter. -/
theorem recognition_of_prefix :
    Settings.resolve (.installWithSignature "^Mullvad") (Option.getD none .empty) =
      .ok prefixSettings ∧
    prefixSettings.rename = true ∧ prefixSettings.RecognisesAlias ∧
    ∃ b', (installCycle platform prefixSettings (changeDevices fun devices =>
        (.ok (), devices ++ [⟨"{2}", "TAP-Windows Adapter V9", "Ethernet 3"⟩]))).run
          (ofDevices [⟨"{1}", "TAP-Windows Adapter V9", "Ethernet 2"⟩]) =
            (.ok (.created ⟨"{2}", "TAP-Windows Adapter V9", "Mullvad"⟩), b') ∧
      ∃ c, FindsNext prefixSettings b' c := by
  have hresolved : Settings.resolve (.installWithSignature "^Mullvad") (Option.getD none .empty) =
      .ok prefixSettings := rfl
  have hcreated : (installCycle platform prefixSettings (changeDevices fun devices =>
      (.ok (), devices ++ [⟨"{2}", "TAP-Windows Adapter V9", "Ethernet 3"⟩]))).run
        (ofDevices [⟨"{1}", "TAP-Windows Adapter V9", "Ethernet 2"⟩]) =
          (.ok (.created ⟨"{2}", "TAP-Windows Adapter V9", "Mullvad"⟩),
            { ofDevices [⟨"{1}", "TAP-Windows Adapter V9", "Ethernet 2"⟩,
                ⟨"{2}", "TAP-Windows Adapter V9", "Mullvad"⟩] with
              enumerations := 2
              renamings := [⟨⟨"{2}", "TAP-Windows Adapter V9", "Ethernet 3"⟩, "Mullvad"⟩] }) := rfl
  obtain ⟨hdecides, hafter⟩ := Settings.recognition_of_resolve hresolved rfl
  have hrecognised : prefixSettings.RecognisesAlias := by
    refine hdecides.2 fun text htext => ?_
    obtain rfl := Option.some_inj.1 htext
    exact ⟨prefixSettings.signature.pattern, rfl, by decide +kernel⟩
  obtain ⟨c, -, -, hfinds⟩ := (hafter _ _ _ _ rfl hcreated).2 hrecognised
  exact ⟨hresolved, rfl, hrecognised, _, hcreated, c, hfinds⟩

/-- The settings of an installation with a signature for another alias. -/
def otherSettings : Settings :=
  { defaultSettings with signature := ⟨⟨"^Other$", .wholeText "Other".toList⟩⟩ }

/-- Accepted settings need not recognise the adapter they name.  With a signature for another alias
the words of an installation are understood and its settings resolve, but what has been created and
renamed is not seen by the next baseline, the next installation creates another adapter, and the
next removal removes nothing. -/
theorem resolve_of_other_signature :
    CommandLine.ofWords ["install", "--signature", "^Other$", "--", "setup.exe"] =
      .ok (.installWithSignature "^Other$") ∧
    Settings.resolve (.installWithSignature "^Other$") (Option.getD none .empty) =
      .ok otherSettings ∧
    otherSettings.rename = true ∧ ¬ otherSettings.RecognisesAlias ∧
    ∃ b', (installCycle platform otherSettings (changeDevices fun devices =>
        (.ok (), devices ++ [⟨"{1}", "TAP-Windows Adapter V9", "Ethernet 2"⟩]))).run
          (ofDevices []) = (.ok (.created ⟨"{1}", "TAP-Windows Adapter V9", "Mullvad"⟩), b') ∧
      (∃ t, ((BaselineTracker.new otherSettings.adapterClass otherSettings.owns).establishBaseline
        platform).run b' = ((t, .ok .someTapAdaptersPresent), b'.counted)) ∧
      ((installCycle platform otherSettings (changeDevices fun devices =>
        (.ok (), devices ++ [⟨"{2}", "TAP-Windows Adapter V9", "Ethernet 3"⟩]))).run b').1 =
          .ok (.created ⟨"{2}", "TAP-Windows Adapter V9", "Mullvad"⟩) ∧
      ((removeProductAdapter platform otherSettings).run b').2.removed = [] := by
  have hwords : CommandLine.ofWords ["install", "--signature", "^Other$", "--", "setup.exe"] =
      .ok (.installWithSignature "^Other$") := rfl
  have hunknown : ¬ otherSettings.RecognisesAlias := by
    intro hrecognised
    have howned := hrecognised ⟨"{1}", "TAP-Windows Adapter V9", "Mullvad"⟩ rfl
    exact absurd howned (by decide +kernel)
  let b' : Testbed :=
    { ofDevices [⟨"{1}", "TAP-Windows Adapter V9", "Mullvad"⟩] with
      enumerations := 2
      renamings := [⟨⟨"{1}", "TAP-Windows Adapter V9", "Ethernet 2"⟩, "Mullvad"⟩] }
  exact ⟨hwords, rfl, rfl, hunknown, b', rfl, ⟨_, rfl⟩, rfl, rfl⟩

end TapTracker
