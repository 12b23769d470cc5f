import TapTracker.Proofs.Windows.Calls

/-!
# How handles are released

`Held` tells which handles an operation holds, and `Held.Allows` which calls it may make then: a set
is opened once and used only while it is open, the key of a driver is closed after its value has
been read and before anything else happens to the set, and what has been released is neither used
nor released again.  A trace that leads from nothing held to everything released (`Trace.Leads`) has
closed whatever it has opened, as `Trace.openSets` and `Trace.openKeys` count it.

`Moves` is the corresponding property of an action.  It is kept by sequencing, with what is held in
between depending on the answer, so that it covers every way out of an operation.  What the releases
answer does not matter: `System.withReleases` lets them answer anything else.
-/

namespace TapTracker.Windows

/-! ### What is held -/

/-- The handles that an operation holds. -/
inductive Held
  /-- Nothing has been opened. -/
  | nothing
  | devices (set : DeviceSet)
  /-- The key of a driver is open too, and its value has been read or not. -/
  | driverKey (set : DeviceSet) (key : RegistryKey) (wasRead : Bool)
  /-- The set has been released, or there was none to be had. -/
  | released

/-- The calls that may be made, by what is held before and after them. -/
inductive Held.Allows : Held → Call → Held → Prop
  | refused : Allows .nothing (.openDevices none) .released
  | opened (set : DeviceSet) : Allows .nothing (.openDevices (some set)) (.devices set)
  | device (set : DeviceSet) (index : Nat) :
      Allows (.devices set) (.device set index) (.devices set)
  | readProperty (set : DeviceSet) (d : Device) (property : Property) :
      Allows (.devices set) (.readProperty set d property) (.devices set)
  | noKey (set : DeviceSet) (d : Device) :
      Allows (.devices set) (.openDriverKey set d none) (.devices set)
  | key (set : DeviceSet) (d : Device) (key : RegistryKey) :
      Allows (.devices set) (.openDriverKey set d (some key)) (.driverKey set key false)
  | readValue (set : DeviceSet) (key : RegistryKey) (wasRead : Bool) (name : String) :
      Allows (.driverKey set key wasRead) (.readValue key name) (.driverKey set key true)
  | closeKey (set : DeviceSet) (key : RegistryKey) :
      Allows (.driverKey set key true) (.closeKey key) (.devices set)
  | removeDevice (set : DeviceSet) (d : Device) :
      Allows (.devices set) (.removeDevice set d) (.devices set)
  | closeDevices (set : DeviceSet) : Allows (.devices set) (.closeDevices set) .released
  -- The calls below take and give no handle that has to be released.
  | readMachineValue (held : Held) (path name : String) :
      Allows held (.readMachineValue path name) held
  | interface (held : Held) (guid : Guid) : Allows held (.interface guid) held
  | interfaceAlias (held : Held) (i : Interface) : Allows held (.interfaceAlias i) held

/-- The calls may be made one after the other, and lead from what is held before them to what is
held after them. -/
inductive Trace.Leads : Trace → Held → Held → Prop
  | nil (held : Held) : Leads [] held held
  | cons {call : Call} {rest : Trace} {held between held' : Held}
      (hcall : held.Allows call between) (hrest : Leads rest between held') :
      Leads (call :: rest) held held'

/-- Calls one after the other lead as far as the second ones lead from where the first ones do. -/
lemma Trace.Leads.append {first second : Trace} {held between held' : Held}
    (hfirst : first.Leads held between) (hsecond : second.Leads between held') :
    (first ++ second).Leads held held' := by
  induction hfirst with
  | nil => exact hsecond
  | cons hcall _ ih => exact .cons hcall (ih hsecond)

/-- Queries are made while the set is open, and leave it open. -/
lemma Queries.leads {set : DeviceSet} {made : Trace} (h : Queries set made) :
    made.Leads (.devices set) (.devices set) := by
  induction h with
  | nil => exact .nil _
  | device index _ ih => exact .cons (.device set index) ih
  | readProperty d property _ ih => exact .cons (.readProperty set d property) ih
  | noKey d _ ih => exact .cons (.noKey set d) ih
  | key d key name _ ih =>
    have hrest := ih.cons (.closeKey set key)
    exact .cons (.key set d key) (.cons (.readValue set key false name) hrest)
  | readMachineValue path name _ ih => exact .cons (.readMachineValue _ path name) ih
  | interface guid _ ih => exact .cons (.interface _ guid) ih
  | interfaceAlias i _ ih => exact .cons (.interfaceAlias _ i) ih

/-! ### What is open -/

/-- The number of device sets that are held. -/
def Held.sets : Held → Int
  | .nothing | .released => 0
  | .devices _ | .driverKey _ _ _ => 1

/-- The number of registry keys that are held. -/
def Held.keys : Held → Int
  | .nothing | .devices _ | .released => 0
  | .driverKey _ _ _ => 1

/-- What a call opens is held after it, and what it closes was held before. -/
lemma Held.Allows.balance {held held' : Held} {call : Call} (h : held.Allows call held')
    (rest : Trace) :
    held.sets + Trace.openSets (call :: rest) = held'.sets + rest.openSets ∧
      held.keys + Trace.openKeys (call :: rest) = held'.keys + rest.openKeys := by
  cases h with
  | refused | device | readProperty | noKey | readValue | removeDevice => exact ⟨rfl, rfl⟩
  | readMachineValue | interface | interfaceAlias => exact ⟨rfl, rfl⟩
  | opened set =>
    refine ⟨?_, rfl⟩
    simp only [sets, Trace.openSets]
    omega
  | closeDevices set =>
    refine ⟨?_, rfl⟩
    simp only [sets, Trace.openSets]
    omega
  | key set d key =>
    refine ⟨rfl, ?_⟩
    simp only [keys, Trace.openKeys]
    omega
  | closeKey set key =>
    refine ⟨rfl, ?_⟩
    simp only [keys, Trace.openKeys]
    omega

/-- What calls open is held after them, unless they close it. -/
lemma Trace.Leads.balance {made : Trace} {held held' : Held} (h : made.Leads held held') :
    held.sets + made.openSets = held'.sets ∧ held.keys + made.openKeys = held'.keys := by
  induction h with
  | nil held => exact ⟨Int.add_zero _, Int.add_zero _⟩
  | cons hcall _ ih =>
    obtain ⟨hsets, hkeys⟩ := hcall.balance _
    exact ⟨hsets.trans ih.1, hkeys.trans ih.2⟩

/-- When everything has been released, nothing is open. -/
lemma Trace.Leads.open_eq_zero {made : Trace} (h : made.Leads .nothing .released) :
    made.openSets = 0 ∧ made.openKeys = 0 := by
  obtain ⟨hsets, hkeys⟩ := h.balance
  exact ⟨(Int.zero_add _).symm.trans hsets, (Int.zero_add _).symm.trans hkeys⟩

/-! ### Actions that hold handles -/

section Moving

variable {σ α β : Type} {held : Held} {set : DeviceSet}

/-- Traced, the action `x` does what `y` does, and its calls lead from what is held to what is held
after its answer. -/
def Moves (held : Held) (after : α → Held) (x : StateT Trace (StateM σ) α) (y : StateM σ α) :
    Prop :=
  Adds (fun a made => made.Leads held (after a)) x y

/-- An answer that is given at once leaves what is held as it is. -/
lemma Moves.pure (a : α) :
    Moves held (fun _ => held) (pure a : StateT Trace (StateM σ) α) (pure a) :=
  Adds.pure (.nil held)

/-- An action may follow on each answer with what is held after this answer. -/
lemma Moves.bind {x : StateT Trace (StateM σ) α} {y : StateM σ α} {between : α → Held}
    {f : α → StateT Trace (StateM σ) β} {g : α → StateM σ β} {after : β → Held}
    (hx : Moves held between x y) (hf : ∀ a, Moves (between a) after (f a) (g a)) :
    Moves held after (x >>= f) (y >>= g) :=
  Adds.bind hx hf Trace.Leads.append

/-- A traced call leads to what is held after its answer. -/
lemma moves_traceCall {act : StateM σ α} {call : α → Call} {after : α → Held}
    (h : ∀ a, held.Allows (call a) (after a)) : Moves held after (traceCall act call) act :=
  adds_traceCall fun a => .cons (h a) (.nil _)

/-- Questions are asked while the set is open, and leave it open. -/
lemma Asks.moves {x : StateT Trace (StateM σ) α} {y : StateM σ α} (h : Asks set x y) :
    Moves (.devices set) (fun _ => .devices set) x y := by
  intro past s
  obtain ⟨made, hrun, hqueries⟩ := h past s
  exact ⟨made, hrun, hqueries.leads⟩

/-! ### Operations -/

variable {ε : Type} {sys : System (StateM σ)} {failed : SystemError → ε}
  {traced : DeviceSet → StateT Trace (StateM σ) (Except ε α)}
  {work : DeviceSet → StateM σ (Except ε α)}

/-- What is held after a set was to be opened. -/
def Held.opening : Except SystemError DeviceSet → Held
  | .error _ => .released
  | .ok set => .devices set

/-- Work that leaves the set open stands between its opening and its release. -/
lemma moves_withDevices
    (h : ∀ set, Moves (.devices set) (fun _ => .devices set) (traced set) (work set)) :
    Moves .nothing (fun _ => .released) (withDevices sys.traced failed traced)
      (withDevices sys failed work) := by
  have hopen : Moves .nothing Held.opening sys.traced.openDevices sys.openDevices := by
    refine moves_traceCall fun answer => ?_
    cases answer with
    | error e => exact .refused
    | ok set => exact .opened set
  refine hopen.bind fun answer => ?_
  cases answer with
  | error e => exact Moves.pure _
  | ok set =>
    refine (h set).bind fun answer => ?_
    have hclose : Moves (.devices set) (fun _ => .released) (sys.traced.closeDevices set)
        (sys.closeDevices set) := moves_traceCall fun _ => .closeDevices set
    exact hclose.bind fun _ => Moves.pure _

/-- An enumeration holds nothing before it and has released everything after it. -/
lemma moves_enumerate (sys : System (StateM σ)) (cls : AdapterClass) :
    Moves .nothing (fun _ => .released) (enumerate sys.traced cls) (enumerate sys cls) := by
  refine moves_withDevices fun set => ?_
  exact (asks_readAdapters sys set cls indexCount 0).moves.bind fun _ => Moves.pure _

/-- A removal holds nothing before it and has released everything after it. -/
lemma moves_remove (sys : System (StateM σ)) (identifier : String) :
    Moves .nothing (fun _ => .released) (remove sys.traced identifier) (remove sys identifier) := by
  refine moves_withDevices fun set => ?_
  refine (asks_findDevice sys set identifier indexCount 0).moves.bind fun found => ?_
  cases found with
  | error e => exact Moves.pure _
  | ok target =>
    cases target with
    | none => exact Moves.pure _
    | some d =>
      have hremove : Moves (.devices set) (fun _ => .devices set) (sys.traced.removeDevice set d)
          (sys.removeDevice set d) := moves_traceCall fun _ => .removeDevice set d
      exact hremove.bind fun _ => Moves.pure _

end Moving

/-! ### Answers of the releases -/

/-- The system with another release of sets and with other answers of the release of keys. -/
def System.withReleases {σ : Type} (sys : System (StateM σ))
    (closeDevices : DeviceSet → StateM σ (Except SystemError Unit))
    (keyAnswer : RegistryKey → σ → Except SystemError Unit) : System (StateM σ) :=
  { sys with
    closeDevices
    closeKey key := do
      let _ ← sys.closeKey key
      return keyAnswer key (← get) }

section Releases

variable {σ : Type} (sys : System (StateM σ))
  (closeDevices : DeviceSet → StateM σ (Except SystemError Unit))
  (keyAnswer : RegistryKey → σ → Except SystemError Unit) (set : DeviceSet)

/-- Reading a property does not depend on what releases answer. -/
lemma readTextProperty_withReleases (d : Device) (property : Property) (attempts : Nat)
    (buffer : List UInt8) :
    readTextProperty (sys.withReleases closeDevices keyAnswer) set d property attempts buffer =
      readTextProperty sys set d property attempts buffer := by
  induction attempts generalizing buffer with
  | zero => rfl
  | succ attempts ih =>
    simp only [readTextProperty, ih]
    rfl

/-- Reading an instance identifier does not depend on what releases answer. -/
lemma instanceId_withReleases (d : Device) :
    instanceId (sys.withReleases closeDevices keyAnswer) set d = instanceId sys set d := rfl

/-- Reading the record of a device does not depend on what releases answer. -/
lemma readAdapter_withReleases (cls : AdapterClass) (d : Device) :
    readAdapter (sys.withReleases closeDevices keyAnswer) set cls d =
      readAdapter sys set cls d := by
  have hdescription : description (sys.withReleases closeDevices keyAnswer) set d =
      description sys set d := by
    simp only [description, textProperty, readTextProperty_withReleases]
  simp only [readAdapter, hdescription, instanceId_withReleases]
  rfl

/-- Reading the records of all devices does not depend on what releases answer. -/
lemma readAdapters_withReleases (cls : AdapterClass) (count index : Nat) :
    readAdapters (sys.withReleases closeDevices keyAnswer) set cls count index =
      readAdapters sys set cls count index := by
  induction count generalizing index with
  | zero => rfl
  | succ count ih =>
    simp only [readAdapters, readAdapter_withReleases, ih]
    rfl

/-- Seeking a device does not depend on what releases answer. -/
lemma findDevice_withReleases (identifier : String) (count index : Nat) :
    findDevice (sys.withReleases closeDevices keyAnswer) set identifier count index =
      findDevice sys set identifier count index := by
  induction count generalizing index with
  | zero => rfl
  | succ count ih =>
    simp only [findDevice, instanceId_withReleases, ih]
    rfl

variable {ε α : Type}

/-- What comes of work on a set is settled before the set is released. -/
lemma fst_withDevices_withReleases (failed : SystemError → ε)
    (work : DeviceSet → StateM σ (Except ε α)) (s : σ) :
    ((withDevices (sys.withReleases closeDevices keyAnswer) failed work).run s).1 =
      ((withDevices sys failed work).run s).1 := by
  have hopen : (sys.withReleases closeDevices keyAnswer).openDevices = sys.openDevices := rfl
  rw [withDevices, withDevices, StateT.run_bind, StateT.run_bind, hopen]
  cases sys.openDevices.run s with
  | mk answer s₁ => cases answer <;> rfl

end Releases

/-! ### Enumerations and removals -/

/-- Every enumeration and every removal leads from nothing held to everything released, so that no
set and no key is left open, and it comes to the same whatever the releases answer. -/
theorem handles_released {σ : Type} (sys : System (StateM σ)) :
    (∀ cls past s, ∃ made,
      ((enumerate sys.traced cls).run past).run s =
        ((((enumerate sys cls).run s).1, past ++ made), ((enumerate sys cls).run s).2) ∧
      made.Leads .nothing .released ∧ made.openSets = 0 ∧ made.openKeys = 0) ∧
    (∀ identifier past s, ∃ made,
      ((remove sys.traced identifier).run past).run s =
        ((((remove sys identifier).run s).1, past ++ made), ((remove sys identifier).run s).2) ∧
      made.Leads .nothing .released ∧ made.openSets = 0 ∧ made.openKeys = 0) ∧
    ∀ closeDevices keyAnswer s,
      (∀ cls, ((enumerate (sys.withReleases closeDevices keyAnswer) cls).run s).1 =
        ((enumerate sys cls).run s).1) ∧
      ∀ identifier, ((remove (sys.withReleases closeDevices keyAnswer) identifier).run s).1 =
        ((remove sys identifier).run s).1 := by
  refine ⟨fun cls past s => ?_, fun identifier past s => ?_, fun closeDevices keyAnswer s => ?_⟩
  · obtain ⟨made, hrun, hleads⟩ := moves_enumerate sys cls past s
    exact ⟨made, hrun, hleads, hleads.open_eq_zero⟩
  · obtain ⟨made, hrun, hleads⟩ := moves_remove sys identifier past s
    exact ⟨made, hrun, hleads, hleads.open_eq_zero⟩
  · constructor
    · intro cls
      simp only [enumerate, readAdapters_withReleases]
      exact fst_withDevices_withReleases sys closeDevices keyAnswer _ _ s
    · intro identifier
      simp only [remove, findDevice_withReleases]
      exact fst_withDevices_withReleases sys closeDevices keyAnswer _ _ s

end TapTracker.Windows
