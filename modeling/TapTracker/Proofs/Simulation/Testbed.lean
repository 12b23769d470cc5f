import TapTracker.Proofs.Adapter.Set
import TapTracker.Simulation.Testbed

/-!
# Live simulated systems

A simulated system without a script is live: its enumerations answer the devices that it has, unless
a fault has been planned.  This file tells what the operations of a live system answer and what they
leave, and how a renaming shows in later enumerations (`Testbed.firstRecord?_listed_setAlias`).

`Testbed.changeDevices` is an installer that replaces the devices of a system by others, whichever
they may be; a planned installation is one of these (`PlannedInstall.install_eq_changeDevices`).
-/

namespace TapTracker.Simulation

namespace Testbed

variable {b b' : Testbed} {cls : AdapterClass} {a : TapAdapter} {key : List Char}

/-! ### Enumerations -/

/-- The records that an enumeration of the devices answers. -/
def listed (b : Testbed) (cls : AdapterClass) : List TapAdapter :=
  b.visible cls b.devices

/-- Devices one list after the other are seen one list after the other. -/
lemma visible_append (devices added : List TapAdapter) :
    b.visible cls (devices ++ added) = b.visible cls devices ++ b.visible cls added := by
  simp only [visible]
  split
  next => rw [List.filter_append]
  next => rfl

/-- An enumeration answers none but the devices. -/
lemma visible_subset (devices : List TapAdapter) : b.visible cls devices ⊆ devices := by
  rw [visible]
  split
  next => exact List.filter_subset_self _
  next => exact List.Subset.refl devices

/-- The system after one more enumeration. -/
def counted (b : Testbed) : Testbed :=
  { b with enumerations := b.enumerations + 1 }

/-- Enumerations answer the devices. -/
structure Live (b : Testbed) : Prop where
  script : b.script = none
  enumerateFault : b.enumerateFault = none

/-- An enumeration of a live system answers its devices and is counted. -/
lemma Live.run_enumerate (h : b.Live) (cls : AdapterClass) :
    (platform.enumerate cls).run b = (.ok (b.listed cls), b.counted) := by
  change b.enumerate cls = _
  simp only [enumerate, h.script, h.enumerateFault, listed, counted, visible]

/-- An enumeration leaves a live system live. -/
lemma Live.counted (h : b.Live) : b.counted.Live := ⟨h.script, h.enumerateFault⟩

/-- A system without a script whose enumerations do not fail is live. -/
lemma live_of_run_enumerate {answer : List TapAdapter} (hscript : b.script = none)
    (h : (platform.enumerate cls).run b = (.ok answer, b')) :
    b.Live ∧ answer = b.listed cls ∧ b' = b.counted := by
  have hlive : b.Live := by
    refine ⟨hscript, ?_⟩
    cases hfault : b.enumerateFault with
    | none => rfl
    | some e =>
      change b.enumerate cls = _ at h
      simp only [enumerate, hscript, hfault] at h
      cases h
  rw [hlive.run_enumerate] at h
  cases h
  exact ⟨hlive, rfl, rfl⟩

/-! ### Removals -/

/-- The system after a removal, which is noted down and carried out. -/
def dropped (b : Testbed) (identifier : String) : Testbed :=
  { b with removed := b.removed ++ [identifier] }.unplug identifier

/-- A removal that does not fail is noted down and carried out. -/
lemma run_remove (hscript : b.script = none) (hfault : b.removeFault = none)
    (identifier : String) :
    (platform.remove identifier).run b = (.ok (), b.dropped identifier) := by
  change b.remove identifier = _
  simp only [remove, hscript, hfault, dropped]

/-- A removal leaves a live system live. -/
lemma Live.dropped (h : b.Live) (identifier : String) : (b.dropped identifier).Live :=
  ⟨h.script, h.enumerateFault⟩

/-- A removal takes the records of one adapter out of later enumerations. -/
lemma listed_dropped (identifier : String) :
    (b.dropped identifier).listed cls =
      (b.listed cls).filter fun a => !a.hasIdentifier identifier := by
  change (if b.filtered then
      (b.devices.filter fun a => !a.hasIdentifier identifier).filter fun a =>
        cls.includes a.deviceName
    else b.devices.filter fun a => !a.hasIdentifier identifier) = _
  rw [listed, visible]
  split
  next => simp only [List.filter_filter, Bool.and_comm]
  next => rfl

/-! ### Renamings -/

/-- A renaming that does not fail is noted down, and carried out in a system without a script. -/
lemma run_rename_eq_ok {newAlias : String} (hscript : b.script = none)
    (h : (platform.rename a newAlias).run b = (.ok (), b')) :
    b' = { b with renamings := b.renamings ++ [Renaming.mk a newAlias] }.setAlias a.identifier
      newAlias := by
  change b.rename a newAlias = _ at h
  rw [rename] at h
  cases hfault : b.renameFault with
  | some e =>
    simp only [hscript, hfault] at h
    cases h
  | none =>
    simp only [hscript, hfault] at h
    cases h
    rw [hscript]

/-- The record of a device after a renaming. -/
def realias (identifier newAlias : String) (a : TapAdapter) : TapAdapter :=
  if a.hasIdentifier identifier then { a with aliasName := newAlias } else a

/-- A renaming changes the alias of the records of its adapter. -/
lemma realias_of_key_eq {identifier newAlias : String} (h : a.key = identityKey identifier) :
    realias identifier newAlias a = { a with aliasName := newAlias } := by
  rw [realias, TapAdapter.hasIdentifier_eq_decide, if_pos (decide_eq_true h)]

/-- A renaming leaves the records of other adapters alone. -/
lemma realias_of_key_ne {identifier newAlias : String} (h : a.key ≠ identityKey identifier) :
    realias identifier newAlias a = a := by
  rw [realias, TapAdapter.hasIdentifier_eq_decide, if_neg (by simpa using h)]

/-- A renaming does not change what a record is about. -/
lemma key_realias (identifier newAlias : String) (a : TapAdapter) :
    (realias identifier newAlias a).key = a.key := by
  rw [realias]
  split <;> rfl

/-- A renaming does not change the name of a device. -/
lemma deviceName_realias (identifier newAlias : String) (a : TapAdapter) :
    (realias identifier newAlias a).deviceName = a.deviceName := by
  rw [realias]
  split <;> rfl

/-- A renaming hides no device and uncovers none, because it keeps the device names. -/
lemma listed_setAlias (identifier newAlias : String) :
    (b.setAlias identifier newAlias).listed cls =
      (b.listed cls).map (realias identifier newAlias) := by
  have hname : (fun a => cls.includes a.deviceName) ∘ realias identifier newAlias =
      fun a => cls.includes a.deviceName := by
    funext a
    rw [Function.comp_apply, deviceName_realias]
  change (if b.filtered then
      (b.devices.map (realias identifier newAlias)).filter fun a => cls.includes a.deviceName
    else b.devices.map (realias identifier newAlias)) = _
  rw [listed, visible]
  split
  next => rw [List.filter_map, hname]
  next => rfl

/-- After a renaming the same records come first, with their new aliases. -/
lemma firstRecord?_listed_setAlias (identifier newAlias : String) :
    firstRecord? ((b.setAlias identifier newAlias).listed cls) key =
      (firstRecord? (b.listed cls) key).map (realias identifier newAlias) := by
  rw [listed_setAlias, firstRecord?_map (key_realias identifier newAlias)]

/-! ### Installers -/

/-- An installer that from the devices it finds makes its answer and the devices it leaves. -/
def changeDevices (change : List TapAdapter → Except RunError Unit × List TapAdapter) :
    StateM Testbed (Except RunError Unit) :=
  modifyGet fun b => ((change b.devices).1, { b with devices := (change b.devices).2 })

/-- An installer leaves the script of a system alone. -/
lemma script_of_run_changeDevices {answer : Except RunError Unit}
    {change : List TapAdapter → Except RunError Unit × List TapAdapter}
    (h : (changeDevices change).run b = (answer, b')) : b'.script = b.script := by
  obtain ⟨-, rfl⟩ := Prod.mk.inj h
  rfl

end Testbed

namespace PlannedInstall

/-- Unplugging a list of identifiers leaves the devices that have none of them. -/
lemma foldl_unplug (drops : List String) (b : Testbed) :
    drops.foldl Testbed.unplug b =
      { b with devices := b.devices.filter fun a => drops.all fun d => !a.hasIdentifier d } := by
  induction drops generalizing b with
  | nil =>
    have hall : (b.devices.filter fun a => [].all fun d => !a.hasIdentifier d) = b.devices :=
      List.filter_eq_self.2 fun _ _ => rfl
    rw [hall]
    rfl
  | cons d rest ih => simp [ih, Testbed.unplug, List.filter_filter, Bool.and_comm]

/-- Plugged devices come after those that are there. -/
lemma foldl_plug (adds : List TapAdapter) (b : Testbed) :
    adds.foldl Testbed.plug b = { b with devices := b.devices ++ adds } := by
  induction adds generalizing b with
  | nil => simp
  | cons a rest ih => simp [ih, Testbed.plug]

/-- A planned installation changes nothing but devices: it drops those with certain identifiers and
adds others. -/
lemma install_eq_changeDevices (i : PlannedInstall) :
    i.install = Testbed.changeDevices fun devices =>
      (i.answer,
        (devices.filter fun a => i.drops.all fun d => !a.hasIdentifier d) ++ i.adds) := by
  funext b
  change (i.answer, i.apply b) = _
  rw [apply, foldl_unplug, foldl_plug]
  rfl

end PlannedInstall

end TapTracker.Simulation
