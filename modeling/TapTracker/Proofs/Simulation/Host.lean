import Mathlib.Data.List.Nodup
import TapTracker.Proofs.Windows.Steady
import TapTracker.Simulation.Host

/-!
# Calm hosts

A simulated system is `Calm` if no fault is planned for the walk through its devices and none of
their properties is moody.  Asking such a system leaves it as it is, the number of its next handle
apart, so that it is steady (`Host.Calm.steady`).
-/

namespace TapTracker.Simulation

open TapTracker.Text TapTracker.Windows

/-- Reading a property that asks for no larger buffers leaves it as it is. -/
lemma StoredProperty.read_snd {p : StoredProperty} (h : p.asks = []) (buffer : List UInt8) :
    (p.read buffer).2 = p := by
  rw [read, h]
  split
  · contradiction
  · rfl
  · dsimp only
    split <;> rfl

/-- A device stays as it is when a property is set to what it is. -/
lemma HostDevice.setProperty_property (d : HostDevice) (property : Property) :
    d.setProperty (d.property property) property = d := by
  cases property <;> rfl

namespace Host

/-- The devices can be walked through, and their properties do not change when they are read. -/
structure Calm (h : Host) : Prop where
  classFault : h.classFault = none
  openKeys : h.openKeys = []
  numbers : (h.devices.map (·.1)).Nodup
  indexFault : ∀ d ∈ h.devices, d.2.indexFault = none
  asks : ∀ d ∈ h.devices, ∀ property, (d.2.property property).asks = []

/-- The devices by their numbers. -/
def numbered (h : Host) : List Device :=
  h.devices.map fun d => ⟨d.1⟩

/-- The error after the last device. -/
def endError (h : Host) : SystemError :=
  match h.endFault with
  | some number => .ofNumber number
  | none => .noMoreItems

/-- The instance identifier of a device, if its key can be opened and the text in it can be read. -/
def instanceId? (h : Host) (d : Device) : Option String :=
  match h.find? d.number with
  | none => none
  | some stored =>
    match stored.keyFault with
    | some _ => none
    | none => (readText textCapacity stored.instanceId).toOption.map Utf16.decodeStored

/-- The host with any number of handles given out. -/
def SameButHandles (h h' : Host) : Prop :=
  ∃ next, h' = { h with nextHandle := next }

variable {h h' : Host}

/-- Reading a property leaves a calm host as it is. -/
lemma Calm.readProperty (hcalm : h.Calm) (d : Device) (property : Property)
    (buffer : List UInt8) : (h.readProperty d property buffer).2 = h := by
  rw [Host.readProperty]
  cases hfound : h.find? d.number with
  | none => rfl
  | some stored =>
    obtain ⟨e, he, rfl⟩ := Option.map_eq_some_iff.1 hfound
    have hmem : e ∈ h.devices := List.mem_of_find?_eq_some he
    have hnumber : e.1 = d.number := by simpa using List.find?_some he
    have hread : ((e.2.property property).read buffer).2 = e.2.property property :=
      StoredProperty.read_snd (hcalm.asks e hmem property) buffer
    have hsame : (h.devices.map fun c =>
        if c.1 = d.number then
          (c.1, c.2.setProperty ((e.2.property property).read buffer).2 property)
        else c) = h.devices := by
      refine (List.map_congr_left fun c hc => ?_).trans (List.map_id _)
      split
      next hc_number =>
        have hce : c = e := List.inj_on_of_nodup_map hcalm.numbers hc hmem
          (hc_number.trans hnumber.symm)
        rw [hread, hce, HostDevice.setProperty_property]
        rfl
      next => rfl
    change { h with devices := _ } = h
    rw [hsame]

/-- The value under the only open key is that of its device. -/
lemma readValue_of_openKeys {next number : Nat} {stored : HostDevice} (capacity : Nat)
    (hkeys : h.openKeys = [(next, number)]) (hfound : h.find? number = some stored) :
    h.readValue ⟨next⟩ instanceIdName capacity = readText capacity stored.instanceId := by
  have hkey : h.openKeys.find? (·.1 == next) = some (next, number) := by
    simp [hkeys]
  rw [Host.readValue, hkey]
  dsimp only
  rw [if_pos rfl, hfound]
  rfl

/-- Reading an instance identifier opens a key and closes it again. -/
lemma Calm.run_instanceId (hcalm : h.Calm) (set : DeviceSet) (d : Device) :
    ∃ next, (instanceId system set d).run h = (h.instanceId? d, { h with nextHandle := next }) := by
  have hopen : (system.openDriverKey set d).run h = h.openDriverKey d := rfl
  rw [instanceId, StateT.run_bind, hopen, Host.openDriverKey, instanceId?]
  cases hfound : h.find? d.number with
  | none => exact ⟨h.nextHandle, rfl⟩
  | some stored =>
    dsimp only
    cases hfault : stored.keyFault with
    | some number => exact ⟨h.nextHandle, rfl⟩
    | none =>
      let opened : Host :=
        { h with nextHandle := h.nextHandle + 1, openKeys := [(h.nextHandle, d.number)] }
      have hread := readValue_of_openKeys (h := opened) textCapacity rfl hfound
      have hclosed : opened.openKeys.filter (·.1 ≠ h.nextHandle) = [] := by simp [opened]
      refine ⟨h.nextHandle + 1, ?_⟩
      rw [hcalm.openKeys]
      change ((opened.readValue ⟨h.nextHandle⟩ instanceIdName textCapacity).toOption.map
        Utf16.decodeStored,
          { opened with openKeys := opened.openKeys.filter (·.1 ≠ h.nextHandle) }) = _
      rw [hread, hclosed]

/-- The handles that have been given out make no difference to a calm host. -/
lemma Calm.withHandles (hcalm : h.Calm) (next : Nat) : { h with nextHandle := next }.Calm :=
  ⟨hcalm.classFault, hcalm.openKeys, hcalm.numbers, hcalm.indexFault, hcalm.asks⟩

/-- A calm host answers the devices by their indices. -/
lemma Calm.device (hcalm : h.Calm) (index : Nat) :
    h.device index = deviceOrEnd h.numbered h.endError index := by
  rw [Host.device, deviceOrEnd, numbered, List.getElem?_map]
  cases hd : h.devices[index]? with
  | none =>
    rw [endError]
    cases h.endFault <;> rfl
  | some d =>
    have hfault : d.2.indexFault = none := hcalm.indexFault d (List.mem_of_getElem? hd)
    dsimp only
    rw [hfault]
    rfl

/-- A calm host is steady, whatever handles it gives out. -/
theorem Calm.steady (hcalm : h.Calm) :
    Steady system h.SameButHandles h.numbered h.endError h.instanceId? where
  openDevices := by
    rintro _ ⟨next, rfl⟩
    refine ⟨⟨next⟩, { h with nextHandle := next + 1 }, ?_, ⟨_, rfl⟩⟩
    change Host.openDevices { h with nextHandle := next } = _
    rw [Host.openDevices, hcalm.classFault]
  closeDevices := fun _ _ hs => hs
  device := by
    rintro set index _ ⟨next, rfl⟩ - -
    have hdevice := (hcalm.withHandles next).device index
    exact ⟨_, congrArg (·, _) hdevice, next, rfl⟩
  instanceId := by
    rintro set d - _ ⟨next, rfl⟩
    obtain ⟨next', hrun⟩ := (hcalm.withHandles next).run_instanceId set d
    exact ⟨_, hrun, next', rfl⟩
  readProperty := by
    rintro set d property buffer _ ⟨next, rfl⟩
    exact ⟨next, (hcalm.withHandles next).readProperty d property buffer⟩
  interface := fun _ _ hs => hs
  interfaceAlias := fun _ _ _ hs => hs
  readMachineValue := fun _ _ _ _ hs => hs

end Host

end TapTracker.Simulation
