import TapTracker.Proofs.Windows.Walk
import TapTracker.Windows.Adapters

/-!
# What an enumeration lists

An enumeration asks about one device after the other.  A `Sighting` is what it has learnt of a
device, and `Sees` tells which questions that took: a question is asked only if the answers before
it call for it, and what has not been asked is absent.  The record of a device
(`Sighting.record`) is a matter of its sighting alone.

`EnumerationRun` lists the three courses of an enumeration: the set cannot be opened, the walk fails
at the first index that yields no device, or it comes to its end and the records of the devices are
listed in the order of their indices.  `enumerate_run` says that these are the runs of `enumerate`,
on every system, and that two enumerations that learn the same of all devices but one list the same
records before and after that of this device.
-/

namespace TapTracker.Windows

open TapTracker.Text

/-! ### Sightings -/

/-- What an enumeration has learnt of a device. -/
structure Sighting where
  device : Device
  friendlyName : Option String
  description : Option String
  instanceId : Option String
  interface : Option Interface
  interfaceAlias : Option String
  connectionName : Option String

namespace Sighting

/-- The name of the device: its friendly name or else its description. -/
def name (v : Sighting) : Option String :=
  v.friendlyName.or v.description

/-- The device has a name, and the class includes it. -/
def belongsTo (v : Sighting) (cls : AdapterClass) : Bool :=
  v.name.any cls.includes

/-- The alias of the adapter: that of its interface, or else the stored name of its connection, or
else the empty text. -/
def aliasName (v : Sighting) : String :=
  (v.interfaceAlias.or v.connectionName).getD ""

/-- The record of a device that belongs to the class and has an instance identifier. -/
def record (cls : AdapterClass) (v : Sighting) : Option TapAdapter :=
  match v.name, v.instanceId with
  | some deviceName, some identifier =>
    if cls.includes deviceName then some ⟨identifier, deviceName, v.aliasName⟩ else none
  | _, _ => none

variable {cls : AdapterClass} {v : Sighting}

/-- A device that belongs to a class has a name that the class includes. -/
lemma exists_name_of_belongsTo (h : v.belongsTo cls) :
    ∃ deviceName, v.name = some deviceName ∧ cls.includes deviceName :=
  (Option.any_eq_true _ _).1 h

/-- A device that does not belong to the class has no record. -/
lemma record_of_not_belongsTo (h : v.belongsTo cls = false) : v.record cls = none := by
  rw [record]
  split
  next deviceName identifier hname hid =>
    rw [belongsTo, hname, Option.any_some] at h
    rw [h]
    rfl
  next => rfl

/-- A device without an instance identifier has no record. -/
lemma record_of_unidentified (h : v.instanceId = none) : v.record cls = none := by
  rw [record, h]
  cases v.name <;> rfl

/-- A device with a name in the class and an instance identifier has a record of these. -/
lemma record_of_identified {deviceName identifier : String} (hname : v.name = some deviceName)
    (hincluded : cls.includes deviceName) (hid : v.instanceId = some identifier) :
    v.record cls = some ⟨identifier, deviceName, v.aliasName⟩ := by
  rw [record, hname, hid]
  exact if_pos hincluded

end Sighting

section Questions

variable {σ β γ : Type}

/-- The answer to a question about a subject.  Without a subject nothing is asked, and there is no
answer. -/
def Asked (subject : Option β) (question : β → StateM σ (Option γ)) (s : σ) (answer : Option γ)
    (s' : σ) : Prop :=
  match subject with
  | none => answer = none ∧ s' = s
  | some b => (question b).run s = (answer, s')

variable {question : β → StateM σ (Option γ)} {s s' : σ} {answer : Option γ}

/-- Every question has an answer. -/
lemma exists_asked (subject : Option β) (question : β → StateM σ (Option γ)) (s : σ) :
    ∃ answer s', Asked subject question s answer s' := by
  cases subject with
  | none => exact ⟨none, s, rfl, rfl⟩
  | some b => exact ⟨_, _, rfl⟩

/-- Without a subject there is no answer, and the state stays as it is. -/
lemma Asked.of_none (h : Asked none question s answer s') : answer = none ∧ s' = s := h

/-- A question about a subject has been asked. -/
lemma Asked.of_some {b : β} (h : Asked (some b) question s answer s') :
    (question b).run s = (answer, s') := h

end Questions

section Looks

variable {σ : Type}

/-- An enumeration learns of a device, in this order: its friendly name; its description, if it has
no friendly name; its instance identifier, if it belongs to the class; its interface, if the
identifier is a globally unique one; the alias of the interface; and the stored name of the
connection, if there is no such alias. -/
inductive Sees (sys : System (StateM σ)) (set : DeviceSet) (cls : AdapterClass) :
    Device → σ → Sighting → σ → Prop
  | intro {s s₁ s₂ s₃ s₄ s₅ s₆ : σ} (v : Sighting)
      (friendlyName :
        (textProperty sys set v.device .friendlyName).run s = (v.friendlyName, s₁))
      (description : Asked (if v.friendlyName = none then some v.device else none)
        (textProperty sys set · .description) s₁ v.description s₂)
      (instanceId : Asked (if v.belongsTo cls then some v.device else none)
        (instanceId sys set) s₂ v.instanceId s₃)
      (interface : Asked (v.instanceId.bind Guid.ofText?)
        (fun guid => Except.toOption <$> sys.interface guid) s₃ v.interface s₄)
      (interfaceAlias : Asked v.interface
        (fun i => (·.toOption.map Utf16.decodeStored) <$> sys.interfaceAlias i textCapacity)
        s₄ v.interfaceAlias s₅)
      (connectionName : Asked (if v.interfaceAlias = none then v.instanceId else none)
        (connectionName sys) s₅ v.connectionName s₆) :
      Sees sys set cls v.device s v s₆

variable {sys : System (StateM σ)} {set : DeviceSet} {cls : AdapterClass} {d : Device}
  {s s₁ s₂ s₃ s' : σ}

/-- Something is seen of every device. -/
lemma exists_sees (d : Device) (s : σ) : ∃ v s', Sees sys set cls d s v s' := by
  obtain ⟨friendlyName, s₁, h₁⟩ :
      ∃ answer s', (textProperty sys set d .friendlyName).run s = (answer, s') := ⟨_, _, rfl⟩
  obtain ⟨description, s₂, h₂⟩ := exists_asked (if friendlyName = none then some d else none)
    (textProperty sys set · .description) s₁
  obtain ⟨identifier, s₃, h₃⟩ := exists_asked
    (if (friendlyName.or description).any cls.includes then some d else none)
    (instanceId sys set) s₂
  obtain ⟨interface, s₄, h₄⟩ := exists_asked (identifier.bind Guid.ofText?)
    (fun guid => Except.toOption <$> sys.interface guid) s₃
  obtain ⟨interfaceAlias, s₅, h₅⟩ := exists_asked interface
    (fun i => (·.toOption.map Utf16.decodeStored) <$> sys.interfaceAlias i textCapacity) s₄
  obtain ⟨connectionName, s₆, h₆⟩ := exists_asked
    (if interfaceAlias = none then identifier else none) (connectionName sys) s₅
  let v : Sighting :=
    ⟨d, friendlyName, description, identifier, interface, interfaceAlias, connectionName⟩
  exact ⟨v, s₆, .intro v h₁ h₂ h₃ h₄ h₅ h₆⟩

/-! ### Readings of one device -/

/-- The name of a device that has been asked for in both properties. -/
lemma run_description {friendlyName description : Option String}
    (hfriendly : (textProperty sys set d .friendlyName).run s = (friendlyName, s₁))
    (hdescription : Asked (if friendlyName = none then some d else none)
      (textProperty sys set · .description) s₁ description s₂) :
    (Windows.description sys set d).run s = (friendlyName.or description, s₂) := by
  rw [Windows.description, StateT.run_bind, hfriendly]
  cases friendlyName with
  | none => exact hdescription.of_some
  | some name =>
    obtain ⟨-, rfl⟩ := hdescription.of_none
    rfl

/-- The alias of an interface takes both conversions. -/
lemma run_interfaceAlias {identifier : String} {interface : Option Interface}
    {aliasName : Option String}
    (hinterface : Asked (Guid.ofText? identifier)
      (fun guid => Except.toOption <$> sys.interface guid) s interface s₁)
    (halias : Asked interface
      (fun i => (·.toOption.map Utf16.decodeStored) <$> sys.interfaceAlias i textCapacity)
      s₁ aliasName s₂) :
    (Windows.interfaceAlias sys identifier).run s = (aliasName, s₂) := by
  rw [Windows.interfaceAlias]
  cases hguid : Guid.ofText? identifier with
  | none =>
    rw [hguid] at hinterface
    obtain ⟨rfl, rfl⟩ := hinterface.of_none
    obtain ⟨rfl, rfl⟩ := halias.of_none
    rfl
  | some guid =>
    rw [hguid] at hinterface
    have hasked := hinterface.of_some
    dsimp only
    rw [StateT.run_bind]
    cases hanswer : (sys.interface guid).run s with
    | mk answer s₀ =>
      rw [StateT.run_map, hanswer] at hasked
      cases answer with
      | error e =>
        cases hasked
        obtain ⟨rfl, rfl⟩ := halias.of_none
        rfl
      | ok i =>
        cases hasked
        exact halias.of_some

/-- The alias of an adapter is that of its interface or else the stored name of its connection. -/
lemma run_adapterAlias {identifier : String} {aliasName name : Option String}
    (halias : (Windows.interfaceAlias sys identifier).run s = (aliasName, s₁))
    (hname : Asked (if aliasName = none then some identifier else none) (connectionName sys) s₁ name
      s₂) :
    (adapterAlias sys identifier).run s = (aliasName.or name, s₂) := by
  rw [adapterAlias, StateT.run_bind, halias]
  cases aliasName with
  | none => exact hname.of_some
  | some aliasName =>
    obtain ⟨-, rfl⟩ := hname.of_none
    rfl

/-- Without an instance identifier no question about the alias is asked. -/
lemma eq_of_unidentified {interface : Option Interface} {aliasName name : Option String}
    (hinterface : Asked none (fun guid => Except.toOption <$> sys.interface guid) s interface s₁)
    (halias : Asked interface
      (fun i => (·.toOption.map Utf16.decodeStored) <$> sys.interfaceAlias i textCapacity)
      s₁ aliasName s₂)
    (hname : Asked (if aliasName = none then none else none) (connectionName sys) s₂ name s₃) :
    s₃ = s := by
  obtain ⟨rfl, rfl⟩ := hinterface.of_none
  obtain ⟨rfl, rfl⟩ := halias.of_none
  exact hname.of_none.2

/-- Of a device that is not of the class no more than the name is read. -/
lemma run_readAdapter_of_other {name : Option String}
    (hname : (Windows.description sys set d).run s = (name, s₁))
    (hother : name.any cls.includes = false) : (readAdapter sys set cls d).run s = (none, s₁) := by
  rw [readAdapter, StateT.run_bind, hname]
  cases name with
  | none => rfl
  | some deviceName =>
    rw [Option.any_some] at hother
    change StateT.run (if cls.includes deviceName then _ else pure none) s₁ = _
    rw [hother]
    rfl

/-- After the name of a device of the class its identifier is read. -/
lemma run_readAdapter_of_included {deviceName : String} {identifier : Option String}
    (hname : (Windows.description sys set d).run s = (some deviceName, s₁))
    (hincluded : cls.includes deviceName)
    (hid : (Windows.instanceId sys set d).run s₁ = (identifier, s₂)) :
    (readAdapter sys set cls d).run s =
      StateT.run (match identifier with
        | none => pure none
        | some identifier => do
          let aliasName ← adapterAlias sys identifier
          return some ⟨identifier, deviceName, aliasName.getD ""⟩) s₂ := by
  rw [readAdapter, StateT.run_bind, hname]
  change StateT.run (if cls.includes deviceName then _ else pure none) s₁ = _
  rw [if_pos hincluded, StateT.run_bind, hid]
  rfl

/-- What is seen of a device makes its record. -/
lemma Sees.run_readAdapter {v : Sighting} (h : Sees sys set cls d s v s') :
    (readAdapter sys set cls d).run s = (v.record cls, s') := by
  cases h with
  | @intro s s₁ s₂ s₃ s₄ s₅ s₆ v hfriendly hdescription hid hinterface halias hconnection =>
    have hname : (Windows.description sys set v.device).run s = (v.name, s₂) :=
      run_description hfriendly hdescription
    -- A device of another class is not asked for its identifier, and without an identifier nothing
    -- is asked about an alias.
    cases hbelongs : v.belongsTo cls with
    | false =>
      rw [hbelongs] at hid
      obtain ⟨hnone, rfl⟩ := hid.of_none
      rw [hnone] at hinterface hconnection
      rw [Sighting.record_of_not_belongsTo hbelongs,
        eq_of_unidentified hinterface halias hconnection]
      exact run_readAdapter_of_other hname hbelongs
    | true =>
      obtain ⟨deviceName, hdeviceName, hincluded⟩ := Sighting.exists_name_of_belongsTo hbelongs
      rw [hbelongs] at hid
      rw [hdeviceName] at hname
      rw [run_readAdapter_of_included hname hincluded hid.of_some]
      cases hidentifier : v.instanceId with
      | none =>
        rw [hidentifier] at hinterface hconnection
        rw [Sighting.record_of_unidentified hidentifier,
          eq_of_unidentified hinterface halias hconnection]
        rfl
      | some identifier =>
        rw [hidentifier] at hinterface hconnection
        have hread := run_adapterAlias (run_interfaceAlias hinterface halias) hconnection
        dsimp only
        rw [StateT.run_bind, hread, Sighting.record_of_identified hdeviceName hincluded hidentifier]
        rfl

end Looks

/-! ### Whole enumerations -/

/-- What is answered at the end of a walk on which the given records have been read. -/
def WalkEnd.listing {α : Type} (records : List TapAdapter) :
    WalkEnd α → Except SystemError (List TapAdapter)
  | .failed e => .error e
  | _ => .ok records

section Enumerations

variable {σ : Type} {sys : System (StateM σ)} {set : DeviceSet} {cls : AdapterClass} {s s' : σ}
  {visits : List Sighting} {ended : WalkEnd Sighting} {count index : Nat}

/-- The devices that an enumeration passes are all that it can see: it looks for none of them. -/
abbrev ListingWalk (sys : System (StateM σ)) (set : DeviceSet) (cls : AdapterClass) :
    Nat → σ → List Sighting → WalkEnd Sighting → σ → Prop :=
  Walk sys set (Sees sys set cls) fun _ => False

/-- The record of the first device comes before those of the others. -/
lemma filterMap_record_cons (v : Sighting) (visits : List Sighting) :
    (v :: visits).filterMap (·.record cls) =
      (v.record cls).toList ++ visits.filterMap (·.record cls) := by
  rw [List.filterMap_cons]
  cases v.record cls <;> rfl

/-- The records of the devices on a walk are read one after the other. -/
lemma Walk.run_readAdapters (h : ListingWalk sys set cls index s visits ended s')
    (hcount : index + count = indexCount) :
    (readAdapters sys set cls count index).run s =
      (ended.listing (visits.filterMap (·.record cls)), s') := by
  -- The fuel is the number of the indices that are left, so that it runs out only at the last one.
  induction h generalizing count with
  | exhausted hindex =>
    obtain rfl : count = 0 := by omega
    rfl
  | atEnd hindex hdevice =>
    obtain ⟨left, rfl⟩ : ∃ left, count = left + 1 := ⟨count - 1, by omega⟩
    rw [readAdapters, StateT.run_bind, run_deviceAt_of_noMoreItems hdevice]
    rfl
  | failed hindex hdevice he =>
    obtain ⟨left, rfl⟩ : ∃ left, count = left + 1 := ⟨count - 1, by omega⟩
    rw [readAdapters, StateT.run_bind, run_deviceAt_of_error hdevice he]
    rfl
  | found _ _ _ hwanted => exact hwanted.elim
  | @passed index s s₁ s₂ s' d a visits ended hindex hdevice hlook _ _ ih =>
    obtain ⟨left, rfl⟩ : ∃ left, count = left + 1 := ⟨count - 1, by omega⟩
    have hrest : (readAdapters sys set cls left (index + 1)).run s₂ = _ := ih (by omega)
    rw [readAdapters, StateT.run_bind, run_deviceAt_of_ok hdevice]
    change (readAdapter sys set cls d >>= _).run s₁ = _
    rw [StateT.run_bind, hlook.run_readAdapter]
    change (readAdapters sys set cls left (index + 1) >>= _).run s₂ = _
    rw [StateT.run_bind, hrest, filterMap_record_cons]
    cases ended <;> rfl

/-- The set is opened, the walk through it comes to its end, and the set is closed. -/
def Lists (sys : System (StateM σ)) (cls : AdapterClass) (s : σ) (visits : List Sighting) (s' : σ) :
    Prop :=
  ∃ set s₁ s₂ released, sys.openDevices.run s = (.ok set, s₁) ∧
    ListingWalk sys set cls 0 s₁ visits .atEnd s₂ ∧ (sys.closeDevices set).run s₂ = (released, s')

/-- The courses of an enumeration. -/
inductive EnumerationRun (sys : System (StateM σ)) (cls : AdapterClass) (s : σ) :
    Except EnumerateError (List TapAdapter) → σ → Prop
  /-- The set cannot be opened. -/
  | refused {s' : σ} {e : SystemError} (hopen : sys.openDevices.run s = (.error e, s')) :
      EnumerationRun sys cls s (.error (.system e)) s'
  /-- The first index that yields no device has another error than that there are no more. -/
  | failed {set : DeviceSet} {s₁ s₂ s' : σ} {visits : List Sighting} {e : SystemError}
      {released : Except SystemError Unit} (hopen : sys.openDevices.run s = (.ok set, s₁))
      (hwalk : ListingWalk sys set cls 0 s₁ visits (.failed e) s₂)
      (hclose : (sys.closeDevices set).run s₂ = (released, s')) :
      EnumerationRun sys cls s (.error (.system e)) s'
  /-- The records of the devices are listed in the order of the walk. -/
  | listed {visits : List Sighting} {s' : σ} (hlists : Lists sys cls s visits s') :
      EnumerationRun sys cls s (.ok (visits.filterMap (·.record cls))) s'

/-- An enumeration comes to the records of the devices on its walk, however the set is released. -/
lemma run_enumerate {s₁ s₂ : σ} {released : Except SystemError Unit}
    (hopen : sys.openDevices.run s = (.ok set, s₁))
    (hwalk : ListingWalk sys set cls 0 s₁ visits ended s₂)
    (hclose : (sys.closeDevices set).run s₂ = (released, s')) :
    (enumerate sys cls).run s =
      ((ended.listing (visits.filterMap (·.record cls))).mapError .system, s') := by
  refine run_withDevices_of_ok hopen ?_ hclose
  rw [StateT.run_bind, hwalk.run_readAdapters (Nat.zero_add _)]
  rfl

/-- An enumeration takes each of its courses. -/
lemma EnumerationRun.run {answer : Except EnumerateError (List TapAdapter)}
    (h : EnumerationRun sys cls s answer s') : (enumerate sys cls).run s = (answer, s') := by
  cases h with
  | refused hopen => exact run_withDevices_of_error hopen
  | failed hopen hwalk hclose => exact run_enumerate hopen hwalk hclose
  | listed hlists =>
    obtain ⟨set, s₁, s₂, released, hopen, hwalk, hclose⟩ := hlists
    exact run_enumerate hopen hwalk hclose

/-- An enumeration has some course. -/
lemma exists_enumerationRun (sys : System (StateM σ)) (cls : AdapterClass) (s : σ) :
    ∃ answer s', EnumerationRun sys cls s answer s' := by
  cases hopen : sys.openDevices.run s with
  | mk answer s₁ =>
    cases answer with
    | error e => exact ⟨_, s₁, .refused hopen⟩
    | ok set =>
      obtain ⟨visits, ended, s₂, hwalk⟩ : ∃ visits ended s₂,
          ListingWalk sys set cls 0 s₁ visits ended s₂ := exists_walk exists_sees 0 s₁
      cases hclose : (sys.closeDevices set).run s₂ with
      | mk released s₃ =>
        cases ended with
        | atEnd => exact ⟨_, s₃, .listed ⟨set, s₁, s₂, released, hopen, hwalk, hclose⟩⟩
        | failed e => exact ⟨_, s₃, .failed hopen hwalk hclose⟩
        | found v => exact hwalk.wanted.elim

/-- An enumeration has the courses of `EnumerationRun` and no others. -/
lemma run_enumerate_iff {answer : Except EnumerateError (List TapAdapter)} :
    (enumerate sys cls).run s = (answer, s') ↔ EnumerationRun sys cls s answer s' := by
  constructor
  · intro hrun
    obtain ⟨answer', s'', hcourse⟩ := exists_enumerationRun sys cls s
    have hsame := hrun.symm.trans hcourse.run
    obtain ⟨rfl, rfl⟩ := Prod.mk.inj hsame
    exact hcourse
  · exact EnumerationRun.run

/-- An enumeration meets a fault: the set cannot be opened, or the first index that yields no device
has another error than that there are no more. -/
def MeetsFault (sys : System (StateM σ)) (cls : AdapterClass) (s : σ) (fault : SystemError) :
    Prop :=
  (∃ s₁, sys.openDevices.run s = (.error fault, s₁)) ∨
    ∃ set s₁ visits s₂, sys.openDevices.run s = (.ok set, s₁) ∧
      ListingWalk sys set cls 0 s₁ visits (.failed fault) s₂

/-- An enumeration answers an error exactly if it meets a fault, and then it answers this one. -/
lemma enumerate_eq_error_iff {e : EnumerateError} :
    ((enumerate sys cls).run s).1 = .error e ↔
      ∃ fault, e = .system fault ∧ MeetsFault sys cls s fault := by
  constructor
  · intro herror
    have hcourse : EnumerationRun sys cls s (.error e) ((enumerate sys cls).run s).2 :=
      run_enumerate_iff.1 (Prod.ext herror rfl)
    generalize (enumerate sys cls).run s = run at hcourse
    cases hcourse with
    | refused hopen => exact ⟨_, rfl, Or.inl ⟨_, hopen⟩⟩
    | failed hopen hwalk _ => exact ⟨_, rfl, Or.inr ⟨_, _, _, _, hopen, hwalk⟩⟩
  · rintro ⟨fault, rfl, ⟨s₁, hopen⟩ | ⟨set, s₁, visits, s₂, hopen, hwalk⟩⟩
    · have hcourse : EnumerationRun sys cls s (.error (.system fault)) s₁ := .refused hopen
      exact congrArg Prod.fst hcourse.run
    · exact congrArg Prod.fst (EnumerationRun.failed hopen hwalk rfl).run

/-- Around the record of one device an enumeration lists those of the devices before and after
it. -/
lemma Lists.run_enumerate {earlier later : List Sighting} {v : Sighting}
    (h : Lists sys cls s (earlier ++ v :: later) s') :
    (enumerate sys cls).run s =
      (.ok (earlier.filterMap (·.record cls) ++ (v.record cls).toList ++
        later.filterMap (·.record cls)), s') := by
  have hsplit : (earlier ++ v :: later).filterMap (·.record cls) =
      earlier.filterMap (·.record cls) ++ (v.record cls).toList ++
        later.filterMap (·.record cls) := by
    rw [List.filterMap_append, filterMap_record_cons, List.append_assoc]
  rw [(EnumerationRun.listed h).run, hsplit]

end Enumerations

/-- An enumeration fails with the fault of the set or of the first index that yields no device,
unless that is the end of the devices.  Otherwise it lists the records of the devices in their
order, each of them a matter of what has been seen of this device: whatever is seen of one device,
and be it nothing, the records before and after its own are the same. -/
theorem enumerate_run {σ : Type} (sys : System (StateM σ)) (cls : AdapterClass) :
    (∀ s answer s', (enumerate sys cls).run s = (answer, s') ↔
      EnumerationRun sys cls s answer s') ∧
    (∀ s e, ((enumerate sys cls).run s).1 = .error e ↔
      ∃ fault, e = .system fault ∧ MeetsFault sys cls s fault) ∧
    ∀ {τ : Type} (sys' : System (StateM τ)) (s s' : σ) (t t' : τ) (earlier later : List Sighting)
      (v v' : Sighting),
      Lists sys cls s (earlier ++ v :: later) s' → Lists sys' cls t (earlier ++ v' :: later) t' →
      ∃ before after,
        (enumerate sys cls).run s = (.ok (before ++ (v.record cls).toList ++ after), s') ∧
        (enumerate sys' cls).run t = (.ok (before ++ (v'.record cls).toList ++ after), t') := by
  refine ⟨fun s answer s' => run_enumerate_iff, fun s e => enumerate_eq_error_iff, ?_⟩
  intro τ sys' s s' t t' earlier later v v' hlists hlists'
  exact ⟨_, _, hlists.run_enumerate, hlists'.run_enumerate⟩

/-- A system with two devices, of which the second one may have no driver key.  All descriptions and
instance identifiers are empty texts, and nothing else can be read. -/
def systemOfTwo (secondHasKey : Bool) : System (StateM Unit) where
  openDevices := pure (.ok ⟨0⟩)
  closeDevices _ := pure (.ok ())
  device _ index := pure (if index < 2 then .ok ⟨index⟩ else .error .noMoreItems)
  readProperty _ _ _ buffer := pure ⟨.ok (), buffer, 0⟩
  openDriverKey _ d :=
    pure (if d.number = 0 || secondHasKey then .ok ⟨d.number⟩ else .error .notFound)
  closeKey _ := pure (.ok ())
  readValue _ _ _ := pure (.ok [])
  readMachineValue _ _ _ := pure (.error .notFound)
  removeDevice _ _ := pure (.error .notFound)
  interface _ := pure (.error .notFound)
  interfaceAlias _ _ := pure (.error .notFound)
  runTool _ := pure (.notStarted "")

/-- What an enumeration of every description sees of the two devices. -/
lemma lists_systemOfTwo (secondHasKey : Bool) :
    Lists (systemOfTwo secondHasKey) ⟨⟨"", .empty⟩⟩ ()
      [⟨⟨0⟩, some "", none, some "", none, none, none⟩,
        ⟨⟨1⟩, some "", none, if secondHasKey then some "" else none, none, none, none⟩] () := by
  refine ⟨⟨0⟩, (), (), .ok (), rfl, ?_, rfl⟩
  have hfirst : Sees (systemOfTwo secondHasKey) ⟨0⟩ ⟨⟨"", .empty⟩⟩ ⟨0⟩ ()
      ⟨⟨0⟩, some "", none, some "", none, none, none⟩ () :=
    .intro ⟨⟨0⟩, some "", none, some "", none, none, none⟩ rfl ⟨rfl, rfl⟩ rfl ⟨rfl, rfl⟩ ⟨rfl, rfl⟩
      rfl
  have hsecond : Sees (systemOfTwo secondHasKey) ⟨0⟩ ⟨⟨"", .empty⟩⟩ ⟨1⟩ ()
      ⟨⟨1⟩, some "", none, if secondHasKey then some "" else none, none, none, none⟩ () := by
    cases secondHasKey with
    | false =>
      exact .intro ⟨⟨1⟩, some "", none, none, none, none, none⟩ rfl ⟨rfl, rfl⟩ rfl ⟨rfl, rfl⟩
        ⟨rfl, rfl⟩ ⟨rfl, rfl⟩
    | true =>
      exact .intro ⟨⟨1⟩, some "", none, some "", none, none, none⟩ rfl ⟨rfl, rfl⟩ rfl ⟨rfl, rfl⟩
        ⟨rfl, rfl⟩ rfl
  refine .passed (by decide) rfl hfirst id ?_
  refine .passed (by decide) rfl hsecond id ?_
  exact .atEnd (by decide) rfl

/-- The first of two devices is listed, whether the second one has a driver key or not. -/
theorem enumerate_run_of_two :
    let cls : AdapterClass := ⟨⟨"", .empty⟩⟩
    ∃ before after,
      (enumerate (systemOfTwo true) cls).run () =
        (.ok (before ++ [⟨"", "", ""⟩] ++ after), ()) ∧
      (enumerate (systemOfTwo false) cls).run () = (.ok (before ++ [] ++ after), ()) := by
  intro cls
  exact (enumerate_run (systemOfTwo true) cls).2.2 (systemOfTwo false) () () () ()
    [⟨⟨0⟩, some "", none, some "", none, none, none⟩] [] _ _
    (lists_systemOfTwo true) (lists_systemOfTwo false)

end TapTracker.Windows
