import TapTracker.Proofs.Adapter.Owned
import TapTracker.Proofs.Run.Reinstall
import TapTracker.Proofs.Tracker.Deletion
import TapTracker.Run.Execute

/-!
# Removing what has been installed

Where the signature is derived from the alias of the product, a removal after an installation takes
back what the installation did.  The installation finds its adapter by comparing two enumerations
and the removal finds an adapter by its alias; they agree because no adapter belonged to the product
before, so that the new one is the first that does (`isFirstOwned_append`).

`system_of_created` tells all that an installation changes whose installer adds one device, and
`removeProductAdapter_of_created` is the round trip.
-/

namespace TapTracker

open Simulation Testbed

section Created

variable {settings : Settings} {b b' : Testbed} {a added : TapAdapter} {devices : List TapAdapter}

/-- Giving the last device its alias changes no other device. -/
lemma system_of_run_giveAlias (hscript : b.script = none)
    (hdevices : b.devices = devices ++ [added]) (hnew : ∀ d ∈ devices, d.key ≠ added.key)
    (hgiven : (giveAlias platform settings added).run b = (.ok a, b')) :
    a.key = added.key ∧ b' = { b with devices := devices ++ [a], renamings := b'.renamings } := by
  rcases run_giveAlias_eq_ok hgiven with ⟨-, rfl, rfl⟩ | ⟨hrenamed, rfl⟩
  · exact ⟨rfl, by rw [← hdevices]⟩
  · obtain rfl := run_rename_eq_ok hscript hrenamed
    have hothers : devices.map (realias added.identifier settings.productAlias) = devices :=
      (List.map_congr_left fun d hd => realias_of_key_ne (hnew d hd)).trans (List.map_id devices)
    have hlast : realias added.identifier settings.productAlias added =
        { added with aliasName := settings.productAlias } := realias_of_key_eq rfl
    have hrenamed : (b.devices.map (realias added.identifier settings.productAlias)) =
        devices ++ [{ added with aliasName := settings.productAlias }] := by
      rw [hdevices, List.map_append, hothers, List.map_singleton, hlast]
    refine ⟨rfl, ?_⟩
    rw [← hrenamed]
    rfl

/-- An installation whose installer adds one device has found no adapter of the product before, and
leaves a system with that device at the end, under its new alias. -/
lemma system_of_created (hscript : b.script = none)
    {change : List TapAdapter → Except RunError Unit × List TapAdapter}
    (hadds : (change b.devices).2 = b.devices ++ [added])
    (hnew : ∀ d ∈ b.devices, d.key ≠ added.key)
    (hcreated : (installCycle platform settings (changeDevices change)).run b =
      (.ok (.created a), b')) :
    HasNoOwned settings.owns (b.listed settings.adapterClass) ∧ a.key = added.key ∧
      b' = { b with
        devices := b.devices ++ [a]
        enumerations := b.enumerations + 2
        renamings := b'.renamings } := by
  obtain ⟨before, after, c, b₁, b₂, b₃, hbefore, hnone, hinstall, hafter, hanswer, hgiven⟩ :=
    exists_of_run_installCycle_created hcreated
  obtain ⟨-, rfl, rfl⟩ := live_of_run_enumerate hscript hbefore
  have hscript₂ : b₂.script = none := (script_of_run_changeDevices hinstall).trans hscript
  obtain ⟨-, rfl, rfl⟩ := live_of_run_enumerate hscript₂ hafter
  obtain ⟨-, rfl⟩ := Prod.mk.inj hinstall
  have hanswer' : NewAdapterAnswer (b.listed settings.adapterClass)
      (b.listed settings.adapterClass ++ b.visible settings.adapterClass [added]) (.ok c) := by
    rw [listed, ← visible_append, ← hadds]
    exact hanswer
  have hadded := mem_of_newAdapterAnswer_append hanswer'
  obtain rfl := List.mem_singleton.1 (visible_subset _ hadded)
  obtain ⟨hkey, hsystem⟩ := system_of_run_giveAlias
    (b := counted { b.counted with devices := (change b.counted.devices).2 })
    hscript hadds hnew hgiven
  exact ⟨hnone, hkey, hsystem⟩

/-- On a live system whose last device is the only one of the product, a removal takes this device
away. -/
lemma run_removeProductAdapter_of_last (hlive : b.Live) (hfault : b.removeFault = none)
    (hdevices : b.devices = devices ++ [a]) (hold : ∀ d ∈ devices, d.key ≠ a.key)
    (hnone : HasNoOwned settings.owns (b.visible settings.adapterClass devices))
    (hfirst : firstRecord? (b.listed settings.adapterClass) a.key = some a)
    (howned : settings.owns a) :
    ∃ b', (removeProductAdapter platform settings).run b =
        (.ok (.ofRemaining (b.visible settings.adapterClass devices)), b') ∧
      b'.removed = b.removed ++ [a.identifier] ∧ b'.devices = devices := by
  have hlisted : b.listed settings.adapterClass =
      b.visible settings.adapterClass devices ++ b.visible settings.adapterClass [a] := by
    rw [listed, hdevices, visible_append]
  have hlast : ∀ c ∈ b.visible settings.adapterClass [a], c.key = a.key := fun c hc => by
    rw [List.mem_singleton.1 (visible_subset _ hc)]
  have hproduct : IsFirstOwned settings.owns (b.listed settings.adapterClass) a := by
    rw [hlisted] at hfirst ⊢
    exact isFirstOwned_append hnone hlast hfirst howned
  -- The removal takes `a` out of the devices and out of what is listed, and nothing else.
  have hrest : (b.counted.dropped a.identifier).listed settings.adapterClass =
      b.visible settings.adapterClass devices := by
    rw [listed_dropped]
    change ((b.listed settings.adapterClass).filter fun c => !c.hasIdentifier a.identifier) = _
    rw [hlisted]
    exact filter_append_of_added (fun d hd => hold d (visible_subset _ hd)) hlast
  have hleft : (b.counted.dropped a.identifier).devices = devices := by
    change (b.devices.filter fun c => !c.hasIdentifier a.identifier) = _
    rw [hdevices]
    exact filter_append_of_added hold (by simp)
  have hrun := run_deletion_of_removed (hlive.run_enumerate _) hproduct
    (run_remove (b := b.counted) hlive.script hfault a.identifier)
    ((hlive.counted.dropped a.identifier).run_enumerate _)
  rw [hrest] at hrun
  exact ⟨(b.counted.dropped a.identifier).counted, run_removeProductAdapter hrun, rfl, hleft⟩

end Created

/-- Where the signature is derived from the alias of the product and new adapters are renamed, a
removal takes back an installation whose installer adds one device.  It removes the adapter that the
installation answered and no other, and leaves the devices that were there before; that none remains
is its result exactly if none was listed before. -/
theorem removeProductAdapter_of_created {line : CommandLine} {file : ConfigFile}
    {settings : Settings} (hresolved : Settings.resolve line file = .ok settings)
    (hderived : line.signature = none ∧ file.signature = none) (hrename : settings.rename = true)
    {b b' : Testbed} (hscript : b.script = none) (hfault : b.removeFault = none)
    {change : List TapAdapter → Except RunError Unit × List TapAdapter} {added : TapAdapter}
    (hadds : (change b.devices).2 = b.devices ++ [added])
    (hnew : ∀ d ∈ b.devices, d.hasIdentifier added.identifier = false) {a : TapAdapter}
    (hcreated : (installCycle platform settings (changeDevices change)).run b =
      (.ok (.created a), b')) :
    b'.removed = b.removed ∧
    ∃ result b'', (removeProductAdapter platform settings).run b' = (.ok result, b'') ∧
      b''.removed = b'.removed ++ [a.identifier] ∧ b''.devices = b.devices ∧
      (result = .noRemainingTapAdapters ↔
        ((platform.enumerate settings.adapterClass).run b).1 = .ok []) := by
  have hkeys : ∀ d ∈ b.devices, d.key ≠ added.key := fun d hd =>
    TapAdapter.hasIdentifier_eq_false.1 (hnew d hd)
  obtain ⟨hnone, hkey, hsystem⟩ := system_of_created hscript hadds hkeys hcreated
  obtain ⟨hlive, halias, hfirst⟩ := listed_of_created hscript hrename hcreated
  have howned : settings.owns a := by
    rw [Settings.owns_iff_of_derived hresolved hderived, halias]
  have hstart : b.Live := by
    rw [hsystem] at hlive
    exact ⟨hscript, hlive.enumerateFault⟩
  have hvisible : b'.visible settings.adapterClass b.devices = b.listed settings.adapterClass := by
    rw [hsystem]
    rfl
  have hplaced : b'.devices = b.devices ++ [a] := by rw [hsystem]
  -- No old device that is listed is owned, so that the removal finds the new one after them.
  obtain ⟨b'', hrun, hremoved, hdevices⟩ := run_removeProductAdapter_of_last hlive
    (by rw [hsystem]; exact hfault) hplaced (fun d hd => by rw [hkey]; exact hkeys d hd)
    (by rw [hvisible]; exact hnone) hfirst howned
  refine ⟨by rw [hsystem], _, b'', hrun, hremoved, hdevices, ?_⟩
  rw [hvisible, hstart.run_enumerate, DeletionResult.ofRemaining_eq_none_iff, Except.ok.injEq]

/-- By default, a removal takes a device away that has been installed beside another one. -/
theorem removeProductAdapter_of_created_by_default :
    Settings.resolve ⟨.install none false [], none, none, none, none, false⟩ .empty =
      .ok defaultSettings ∧
    ∃ b', (installCycle platform defaultSettings (changeDevices fun devices =>
        (.ok (), devices ++ [⟨"{2}", "TAP-Windows Adapter V9", "Ethernet 3"⟩]))).run
          (ofDevices [⟨"{1}", "TAP-Windows Adapter V9", "Ethernet 2"⟩]) =
            (.ok (.created ⟨"{2}", "TAP-Windows Adapter V9", "Mullvad"⟩), b') ∧
      ∃ result b'', (removeProductAdapter platform defaultSettings).run b' = (.ok result, b'') ∧
        b''.removed = b'.removed ++ ["{2}"] ∧
        b''.devices = [⟨"{1}", "TAP-Windows Adapter V9", "Ethernet 2"⟩] := by
  have hresolved : Settings.resolve ⟨.install none false [], none, none, none, none, false⟩ .empty =
      .ok defaultSettings := rfl
  have hcreated : (installCycle platform defaultSettings (changeDevices fun devices =>
      (.ok (), devices ++ [⟨"{2}", "TAP-Windows Adapter V9", "Ethernet 3"⟩]))).run
        (ofDevices [⟨"{1}", "TAP-Windows Adapter V9", "Ethernet 2"⟩]) =
          (.ok (.created ⟨"{2}", "TAP-Windows Adapter V9", "Mullvad"⟩),
            { ofDevices [⟨"{1}", "TAP-Windows Adapter V9", "Ethernet 2"⟩,
                ⟨"{2}", "TAP-Windows Adapter V9", "Mullvad"⟩] with
              enumerations := 2
              renamings := [⟨⟨"{2}", "TAP-Windows Adapter V9", "Ethernet 3"⟩, "Mullvad"⟩] }) := rfl
  obtain ⟨-, result, b'', hrun, hremoved, hdevices, -⟩ := removeProductAdapter_of_created hresolved
    ⟨rfl, rfl⟩ rfl rfl rfl rfl (by decide) hcreated
  exact ⟨hresolved, _, hcreated, result, b'', hrun, hremoved, hdevices⟩

end TapTracker
