import TapTracker.Proofs.Config.Resolve
import TapTracker.Proofs.Run.Stages
import TapTracker.Proofs.Simulation.Testbed

/-!
# Installing once more

Where the signature is derived from the alias of the product, an installation that has created an
adapter is the last one: it leaves a system whose enumerations list this adapter under the alias of
the product (`listed_of_created`), so that every later installation finds an adapter of the product
before it runs its installer (`installCycle_of_created`).
-/

namespace TapTracker

open Simulation Testbed

section Created

variable {settings : Settings} {b b' : Testbed} {a added : TapAdapter}

/-- After an adapter has been given its alias, enumerations list the record that was answered, and
list it first. -/
lemma firstRecord?_of_run_giveAlias (hlive : b.Live) (hrename : settings.rename = true)
    (hadded : firstRecord? (b.listed settings.adapterClass) added.key = some added)
    (hgiven : (giveAlias platform settings added).run b = (.ok a, b')) :
    b'.Live ∧ a.aliasName = settings.productAlias ∧
      firstRecord? (b'.listed settings.adapterClass) a.key = some a := by
  rcases run_giveAlias_eq_ok hgiven with ⟨hkept, rfl, rfl⟩ | ⟨hrenamed, rfl⟩
  · have halias : a.aliasName = settings.productAlias := by
      rcases hkept with hoff | halias
      · rw [hrename] at hoff
        cases hoff
      · exact halias
    exact ⟨hlive, halias, hadded⟩
  · have hkey : ({ added with aliasName := settings.productAlias } : TapAdapter).key = added.key :=
      rfl
    obtain rfl := run_rename_eq_ok hlive.script hrenamed
    refine ⟨⟨hlive.script, hlive.enumerateFault⟩, rfl, ?_⟩
    rw [hkey, firstRecord?_listed_setAlias]
    change (firstRecord? (b.listed settings.adapterClass) added.key).map _ = _
    rw [hadded, Option.map_some, realias_of_key_eq rfl]

/-- An installation that creates an adapter leaves a live system, whose enumerations list that
adapter under the alias of the product. -/
lemma listed_of_created (hscript : b.script = none) (hrename : settings.rename = true)
    {change : List TapAdapter → Except RunError Unit × List TapAdapter}
    (hcreated : (installCycle platform settings (changeDevices change)).run b =
      (.ok (.created a), b')) :
    b'.Live ∧ a.aliasName = settings.productAlias ∧
      firstRecord? (b'.listed settings.adapterClass) a.key = some a := by
  obtain ⟨before, after, added, b₁, b₂, b₃, hbefore, -, hinstall, hafter, hanswer, hgiven⟩ :=
    exists_of_run_installCycle_created hcreated
  obtain ⟨-, -, rfl⟩ := live_of_run_enumerate hscript hbefore
  have hscript₂ : b₂.script = none := (script_of_run_changeDevices hinstall).trans hscript
  obtain ⟨hlive, rfl, rfl⟩ := live_of_run_enumerate hscript₂ hafter
  exact firstRecord?_of_run_giveAlias (b := b₂.counted) ⟨hlive.script, hlive.enumerateFault⟩
    hrename (firstRecord?_of_newAdapterAnswer hanswer) hgiven

end Created

/-- Where the signature is derived from the alias of the product and new adapters are renamed, an
installation that has created an adapter leaves nothing to install.  As long as nobody else changes
the devices, a capture has the record that was answered, a baseline has an adapter of the product,
and every later installation, whatever its installer would do, only enumerates. -/
theorem installCycle_of_created {line : CommandLine} {file : ConfigFile} {settings : Settings}
    (hresolved : Settings.resolve line file = .ok settings)
    (hderived : line.signature = none ∧ file.signature = none) (hrename : settings.rename = true)
    {b b' : Testbed} (hscript : b.script = none) {a : TapAdapter}
    {change : List TapAdapter → Except RunError Unit × List TapAdapter}
    (hcreated : (installCycle platform settings (changeDevices change)).run b =
      (.ok (.created a), b')) :
    (∃ adapters, (platform.capture settings.adapterClass).run b' = (.ok adapters, b'.counted) ∧
      ∃ c ∈ adapters.adapters, c.hasIdentifier a.identifier ∧ c.aliasName = a.aliasName ∧
        c.deviceName = a.deviceName) ∧
    (∃ t, ((BaselineTracker.new settings.adapterClass settings.owns).establishBaseline
      platform).run b' = ((t, .ok .productAdapterPresent), b'.counted)) ∧
    ∃ c, ∀ install, (installCycle platform settings install).run b' =
      (.ok (.alreadyPresent c), b'.counted) := by
  obtain ⟨hlive, halias, hfirst⟩ := listed_of_created hscript hrename hcreated
  have howned : settings.owns a := by
    rw [Settings.owns_iff_of_derived hresolved hderived, halias]
  have henumerate := hlive.run_enumerate settings.adapterClass
  have hmem := AdapterSet.mem_ofList.2 hfirst
  refine ⟨⟨_, run_capture henumerate, a, hmem, ?_, rfl, rfl⟩,
    ⟨trackerFrom settings (b'.listed settings.adapterClass), ?_⟩, ?_⟩
  · rw [TapAdapter.hasIdentifier_eq_decide]
    exact decide_eq_true rfl
  · have hstatus : BaselineStatus.classify (AdapterSet.ofList (b'.listed settings.adapterClass))
        settings.owns = .productAdapterPresent :=
      classify_eq_productAdapterPresent.2 ⟨a, hmem, howned⟩
    rw [run_establishBaseline (t := .new settings.adapterClass settings.owns) henumerate, ← hstatus]
    rfl
  · -- The class may list several owned adapters, of which the first need not be the new one.
    obtain ⟨c, hc⟩ := exists_isFirstOwned hfirst howned
    exact ⟨c, fun install => run_installCycle_of_present henumerate hc⟩

/-- The settings of an installation where neither the command line nor the configuration file says
anything. -/
def defaultSettings : Settings where
  adapterClass :=
    ⟨⟨Defaults.adapterClass, .catAll (.look .textStart ::
      "TAP-Windows Adapter V9".toList.map .anyCase)⟩⟩
  signature :=
    ⟨⟨AliasSignature.wholeAlias Defaults.productAlias, .wholeText Defaults.productAlias.toList⟩⟩
  productAlias := Defaults.productAlias
  installTimeout := Defaults.installTimeout
  rename := Defaults.rename
  verbose := false

/-- By default, a system that has been given one more device has nothing to install. -/
theorem installCycle_of_created_by_default :
    Settings.resolve ⟨.install none false [], none, none, none, none, false⟩ .empty =
      .ok defaultSettings ∧
    ∃ b', (installCycle platform defaultSettings (PlannedInstall.install
        ⟨[], [⟨"{2}", "TAP-Windows Adapter V9", "Ethernet 3"⟩], .ok ()⟩)).run
          (ofDevices [⟨"{1}", "TAP-Windows Adapter V9", "Ethernet 2"⟩]) =
            (.ok (.created ⟨"{2}", "TAP-Windows Adapter V9", "Mullvad"⟩), b') ∧
      ∃ c, ∀ install, (installCycle platform defaultSettings install).run b' =
        (.ok (.alreadyPresent c), b'.counted) := by
  have hresolved : Settings.resolve ⟨.install none false [], none, none, none, none, false⟩ .empty =
      .ok defaultSettings := rfl
  have hcreated : (installCycle platform defaultSettings (PlannedInstall.install
      ⟨[], [⟨"{2}", "TAP-Windows Adapter V9", "Ethernet 3"⟩], .ok ()⟩)).run
        (ofDevices [⟨"{1}", "TAP-Windows Adapter V9", "Ethernet 2"⟩]) =
          (.ok (.created ⟨"{2}", "TAP-Windows Adapter V9", "Mullvad"⟩),
            { ofDevices [⟨"{1}", "TAP-Windows Adapter V9", "Ethernet 2"⟩,
                ⟨"{2}", "TAP-Windows Adapter V9", "Mullvad"⟩] with
              enumerations := 2
              renamings := [⟨⟨"{2}", "TAP-Windows Adapter V9", "Ethernet 3"⟩, "Mullvad"⟩] }) := rfl
  refine ⟨hresolved, _, hcreated, ?_⟩
  rw [PlannedInstall.install_eq_changeDevices] at hcreated
  exact (installCycle_of_created hresolved ⟨rfl, rfl⟩ rfl rfl hcreated).2.2

end TapTracker
