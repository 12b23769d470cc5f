import TapTracker.Proofs.Windows.Removal

/-!
# Steady systems

An enumeration and a removal are two walks that pass over different devices: the enumeration leaves
out what does not belong to the class, the removal what has no instance identifier.  They meet the
same devices only if the system gives both of them the same answers.

`Steady` says that it does, in whatever way its state changes.  Then the devices that an enumeration
has passed are the first ones of the system (`Steady.passes`), and a search for the identifier of
one of them ends at this device (`Steady.exists_search`), provided that no other device has it.  A
search for an identifier that no device has goes on to the end (`Steady.exists_search_to_end`).
-/

namespace TapTracker.Windows

open TapTracker.Text

/-! ### Steady systems -/

/-- The answer about an index of a list of devices, where an error follows the last one. -/
def deviceOrEnd (devices : List Device) (ended : SystemError) (index : Nat) :
    Except SystemError Device :=
  match devices[index]? with
  | some d => .ok d
  | none => .error ended

/-- Where something holds of the state before an action, it holds of the state after it. -/
def Keeps {σ α : Type} (Holds : σ → Prop) (act : StateM σ α) : Prop :=
  ∀ s, Holds s → Holds (act.run s).2

section Keeping

variable {σ α β : Type} {Holds : σ → Prop}

/-- An answer that is given at once keeps everything. -/
lemma Keeps.pure (a : α) : Keeps Holds (pure a : StateM σ α) := fun _ hs => hs

/-- What two actions keep is kept by one after the other. -/
lemma Keeps.bind {act : StateM σ α} {next : α → StateM σ β} (hact : Keeps Holds act)
    (hnext : ∀ a, Keeps Holds (next a)) : Keeps Holds (act >>= next) := by
  intro s hs
  rw [StateT.run_bind]
  exact hnext _ _ (hact s hs)

/-- An action keeps what it keeps whatever is made of its answer. -/
lemma Keeps.map {act : StateM σ α} (f : α → β) (hact : Keeps Holds act) :
    Keeps Holds (f <$> act) := by
  intro s hs
  rw [StateT.run_map]
  exact hact s hs

/-- A question keeps what it keeps for every subject. -/
lemma Keeps.asked {γ : Type} {subject : Option β} {question : β → StateM σ (Option γ)}
    {answer : Option γ} {s s' : σ} (hkept : ∀ b, Keeps Holds (question b))
    (hasked : Asked subject question s answer s') (hs : Holds s) : Holds s' := by
  cases subject with
  | none =>
    obtain ⟨-, rfl⟩ := hasked.of_none
    exact hs
  | some b =>
    have hafter := hkept b s hs
    rwa [hasked.of_some] at hafter

end Keeping

/-- As long as `Holds` is true of its state, the system has the same devices with the same instance
identifiers, and asking about them does not change that.  What else is asked may be answered in any
way. -/
structure Steady {σ : Type} (sys : System (StateM σ)) (Holds : σ → Prop) (devices : List Device)
    (ended : SystemError) (instanceIds : Device → Option String) : Prop where
  openDevices : ∀ s, Holds s → ∃ set s', sys.openDevices.run s = (.ok set, s') ∧ Holds s'
  closeDevices : ∀ set, Keeps Holds (sys.closeDevices set)
  device : ∀ set index s, Holds s → index < indexCount → index ≤ devices.length →
    ∃ s', (sys.device set index).run s = (deviceOrEnd devices ended index, s') ∧ Holds s'
  instanceId : ∀ set, ∀ d ∈ devices, ∀ s, Holds s →
    ∃ s', (Windows.instanceId sys set d).run s = (instanceIds d, s') ∧ Holds s'
  readProperty : ∀ set d property buffer, Keeps Holds (sys.readProperty set d property buffer)
  interface : ∀ guid, Keeps Holds (sys.interface guid)
  interfaceAlias : ∀ i capacity, Keeps Holds (sys.interfaceAlias i capacity)
  readMachineValue : ∀ path name capacity, Keeps Holds (sys.readMachineValue path name capacity)

/-- The instance identifiers that can be read differ by more than the case of ASCII letters. -/
def IdentifiersDiffer (devices : List Device) (instanceIds : Device → Option String) : Prop :=
  devices.Pairwise fun d d' => ∀ identifier identifier', instanceIds d = some identifier →
    instanceIds d' = some identifier' → ¬ EqIgnoringAsciiCase identifier identifier'

namespace Steady

variable {σ : Type} {sys : System (StateM σ)} {Holds : σ → Prop} {devices : List Device}
  {ended : SystemError} {instanceIds : Device → Option String} {set : DeviceSet} {s s' : σ}
  {index : Nat}

/-! ### Enumerating -/

/-- Reading a property of a device leaves the system steady. -/
lemma textProperty (h : Steady sys Holds devices ended instanceIds) (set : DeviceSet) (d : Device)
    (property : Property) : Keeps Holds (Windows.textProperty sys set d property) := by
  have hattempts : ∀ attempts buffer,
      Keeps Holds (readTextProperty sys set d property attempts buffer) := by
    intro attempts
    induction attempts with
    | zero => exact fun _ => Keeps.pure none
    | succ attempts ih =>
      intro buffer
      refine Keeps.bind (h.readProperty set d property buffer) fun read => ?_
      cases read.outcome with
      | ok => exact Keeps.pure _
      | error e =>
        dsimp only
        split
        · exact ih _
        · exact Keeps.pure none
  exact hattempts _ _

/-- Looking at a device changes nothing that holds, and the instance identifier that is seen is
its own. -/
lemma sees (h : Steady sys Holds devices ended instanceIds) {cls : AdapterClass} {d : Device}
    {v : Sighting} (hd : d ∈ devices) (hsees : Sees sys set cls d s v s') (hs : Holds s) :
    Holds s' ∧ v.device = d ∧
      ∀ identifier, v.instanceId = some identifier → instanceIds d = some identifier := by
  cases hsees with
  | @intro s s₁ s₂ s₃ s₄ s₅ s₆ v hfriendly hdescription hid hinterface halias hconnection =>
    have hs₁ : Holds s₁ := by
      have hafter := h.textProperty set v.device .friendlyName s hs
      rwa [hfriendly] at hafter
    have hs₂ : Holds s₂ :=
      Keeps.asked (fun d => h.textProperty set d .description) hdescription hs₁
    have hread : Holds s₃ ∧
        ∀ identifier, v.instanceId = some identifier → instanceIds v.device = some identifier := by
      cases hbelongs : v.belongsTo cls with
      | false =>
        rw [hbelongs] at hid
        obtain ⟨hnone, rfl⟩ := hid.of_none
        refine ⟨hs₂, fun identifier hsome => ?_⟩
        rw [hnone] at hsome
        cases hsome
      | true =>
        rw [hbelongs] at hid
        obtain ⟨s', hrun, hs'⟩ := h.instanceId set v.device hd s₂ hs₂
        obtain ⟨hanswer, rfl⟩ := Prod.mk.inj (hid.of_some.symm.trans hrun)
        exact ⟨hs', fun identifier hsome => hanswer ▸ hsome⟩
    have hs₄ : Holds s₄ := Keeps.asked (fun guid => (h.interface guid).map _) hinterface hread.1
    have hs₅ : Holds s₅ := Keeps.asked (fun i => (h.interfaceAlias i _).map _) halias hs₄
    have hname : ∀ identifier, Keeps Holds (connectionName sys identifier) :=
      fun identifier => (h.readMachineValue _ _ _).bind fun name => Keeps.pure _
    exact ⟨Keeps.asked hname hconnection hs₅, rfl, hread.2⟩

/-- At an index up to the length of the list the answer is that of the list. -/
lemma answer_eq (h : Steady sys Holds devices ended instanceIds)
    {answer : Except SystemError Device} {s₁ : σ}
    (hdevice : (sys.device set index).run s = (answer, s₁)) (hindex : index < indexCount)
    (hlength : index ≤ devices.length) (hs : Holds s) :
    answer = deviceOrEnd devices ended index ∧ Holds s₁ := by
  obtain ⟨s', hrun, hs'⟩ := h.device set index s hs hindex hlength
  obtain ⟨hanswer, rfl⟩ := Prod.mk.inj (hdevice.symm.trans hrun)
  exact ⟨hanswer, hs'⟩

/-- The device at an index is the one in the list. -/
lemma getElem?_of_device (h : Steady sys Holds devices ended instanceIds) {d : Device} {s₁ : σ}
    (hdevice : (sys.device set index).run s = (.ok d, s₁)) (hindex : index < indexCount)
    (hlength : index ≤ devices.length) (hs : Holds s) : devices[index]? = some d ∧ Holds s₁ := by
  obtain ⟨hanswer, hs₁⟩ := h.answer_eq hdevice hindex hlength hs
  rw [deviceOrEnd] at hanswer
  cases hd : devices[index]? with
  | none =>
    rw [hd] at hanswer
    cases hanswer
  | some other =>
    rw [hd] at hanswer
    cases hanswer
    exact ⟨rfl, hs₁⟩

/-- A walk of an enumeration passes the devices from its index on, and sees their identifiers. -/
lemma passes (h : Steady sys Holds devices ended instanceIds) {cls : AdapterClass}
    {visits : List Sighting} {stop : WalkEnd Sighting}
    (hwalk : ListingWalk sys set cls index s visits stop s') (hlength : index ≤ devices.length)
    (hs : Holds s) :
    Holds s' ∧ visits.map (·.device) <+: devices.drop index ∧
      ∀ v ∈ visits, ∀ identifier, v.instanceId = some identifier →
        instanceIds v.device = some identifier := by
  -- The index never gets beyond the list, where a steady system might answer anything.
  induction hwalk with
  | exhausted hindex => exact ⟨hs, List.nil_prefix, fun v hv => by cases hv⟩
  | atEnd hindex hdevice | failed hindex hdevice _ =>
    obtain ⟨-, hs'⟩ := h.answer_eq hdevice hindex hlength hs
    exact ⟨hs', List.nil_prefix, fun v hv => by cases hv⟩
  | found _ _ _ hwanted => exact hwanted.elim
  | @passed index s s₁ s₂ s' d v visits stop hindex hdevice hlook _ _ ih =>
    obtain ⟨hget, hs₁⟩ := h.getElem?_of_device hdevice hindex hlength hs
    obtain ⟨hs₂, hvd, hid⟩ := h.sees (List.mem_of_getElem? hget) hlook hs₁
    obtain ⟨hlt, hget⟩ := List.getElem?_eq_some_iff.1 hget
    obtain ⟨hs', hprefix, hids⟩ := ih hlt hs₂
    have hdrop : devices.drop index = d :: devices.drop (index + 1) := by
      rw [← hget]
      exact List.drop_eq_getElem_cons hlt
    refine ⟨hs', ?_, ?_⟩
    · rw [hdrop, List.map_cons, hvd]
      exact List.cons_prefix_cons.2 ⟨rfl, hprefix⟩
    · intro u hu identifier hsome
      rcases List.mem_cons.1 hu with rfl | hu
      · rw [hvd]
        exact hid identifier hsome
      · exact hids u hu identifier hsome

/-! ### Searching -/

/-- At an index within the list there is the device of the list, and it can be identified. -/
lemma exists_identified (h : Steady sys Holds devices ended instanceIds) {d : Device}
    {later : List Device} (hdrop : devices.drop index = d :: later) (hindex : index < indexCount)
    (set : DeviceSet) (hs : Holds s) :
    ∃ s₁ s₂, (sys.device set index).run s = (.ok d, s₁) ∧
      Identifies sys set d s₁ ⟨d, instanceIds d⟩ s₂ ∧ Holds s₂ := by
  have hget : devices[index]? = some d := by
    rw [← List.head?_drop, hdrop, List.head?_cons]
  obtain ⟨hlt, -⟩ := List.getElem?_eq_some_iff.1 hget
  obtain ⟨s₁, hrun, hs₁⟩ := h.device set index s hs hindex (Nat.le_of_lt hlt)
  rw [deviceOrEnd, hget] at hrun
  obtain ⟨s₂, hread, hs₂⟩ := h.instanceId set d (List.mem_of_getElem? hget) s₁ hs₁
  exact ⟨s₁, s₂, hrun, ⟨rfl, hread⟩, hs₂⟩

/-- A search for the identifier of a device that none of the devices before it has ends at this
device. -/
lemma exists_search (h : Steady sys Holds devices ended instanceIds) {identifier : String}
    {earlier later : List Device} {d : Device} (hdrop : devices.drop index = earlier ++ d :: later)
    (hindex : index + earlier.length < indexCount)
    (hd : Identification.Names identifier ⟨d, instanceIds d⟩)
    (hearlier : ∀ c ∈ earlier, ¬ Identification.Names identifier ⟨c, instanceIds c⟩)
    (set : DeviceSet) (hs : Holds s) :
    ∃ visits s', SearchingWalk sys set identifier index s visits (.found ⟨d, instanceIds d⟩) s' ∧
      Holds s' := by
  induction earlier generalizing index s with
  | nil =>
    obtain ⟨s₁, s₂, hdevice, hlook, hs₂⟩ := h.exists_identified hdrop hindex set hs
    exact ⟨[], s₂, .found hindex hdevice hlook hd, hs₂⟩
  | cons c earlier ih =>
    rw [List.length_cons] at hindex
    obtain ⟨hc, hothers⟩ := List.forall_mem_cons.1 hearlier
    have hnext : devices.drop (index + 1) = earlier ++ d :: later := by
      rw [← List.tail_drop, hdrop]
      rfl
    obtain ⟨s₁, s₂, hdevice, hlook, hs₂⟩ := h.exists_identified hdrop (by omega) set hs
    obtain ⟨visits, s', hrest, hs'⟩ := ih hnext (by omega) hothers hs₂
    exact ⟨_ :: visits, s', .passed (by omega) hdevice hlook hc hrest, hs'⟩

/-- A search for an identifier that no device has goes on to the end. -/
lemma exists_search_to_end (h : Steady sys Holds devices .noMoreItems instanceIds)
    {identifier : String} (hindex : index ≤ devices.length) (hlength : devices.length ≤ indexCount)
    (hnone : ∀ d ∈ devices, ¬ Identification.Names identifier ⟨d, instanceIds d⟩)
    (set : DeviceSet) (hs : Holds s) :
    ∃ visits s', SearchingWalk sys set identifier index s visits .atEnd s' := by
  induction hrest : devices.drop index generalizing index s with
  | nil =>
    obtain rfl : index = devices.length := Nat.le_antisymm hindex (List.drop_eq_nil_iff.1 hrest)
    -- After as many devices as there are indices the end is not asked for.
    rcases Nat.lt_or_eq_of_le hlength with hlt | heq
    · obtain ⟨s', hrun, -⟩ := h.device set devices.length s hs hlt (Nat.le_refl _)
      rw [deviceOrEnd, List.getElem?_eq_none (Nat.le_refl _)] at hrun
      exact ⟨[], s', .atEnd hlt hrun⟩
    · exact ⟨[], s, .exhausted (Nat.le_of_eq heq.symm)⟩
  | cons d rest ih =>
    have hlt : index < devices.length := List.length_lt_of_drop_ne_nil (by simp [hrest])
    have hmem : d ∈ devices := List.mem_of_mem_drop (hrest ▸ List.mem_cons_self)
    have hnext : devices.drop (index + 1) = rest := by
      rw [← List.tail_drop, hrest]
      rfl
    obtain ⟨s₁, s₂, hdevice, hlook, hs₂⟩ := h.exists_identified hrest (by omega) set hs
    obtain ⟨visits, s', hwalk⟩ := ih hlt hs₂ hnext
    exact ⟨_ :: visits, s', .passed (by omega) hdevice hlook (hnone d hmem) hwalk⟩

end Steady

/-! ### Removing -/

section Removing

variable {σ : Type} {sys : System (StateM σ)} {Holds : σ → Prop} {devices : List Device}
  {ended : SystemError} {instanceIds : Device → Option String} {s s' : σ}

/-- The instance identifier in a record is the one that has been seen. -/
lemma Sighting.instanceId_of_record {cls : AdapterClass} {v : Sighting} {a : TapAdapter}
    (h : v.record cls = some a) : v.instanceId = some a.identifier := by
  rw [record] at h
  split at h
  next deviceName identifier hname hid =>
    split at h
    · cases h
      exact hid
    · cases h
  next => cases h

/-- On a steady system a removal is called for the first device with the identifier. -/
lemma Steady.exists_removalRun_of_first (h : Steady sys Holds devices ended instanceIds)
    {identifier : String} {earlier later : List Device} {d : Device}
    (hdevices : devices = earlier ++ d :: later) (hlength : earlier.length < indexCount)
    (hd : Identification.Names identifier ⟨d, instanceIds d⟩)
    (hearlier : ∀ c ∈ earlier, ¬ Identification.Names identifier ⟨c, instanceIds c⟩)
    (hs : Holds s) :
    ∃ set t t' removed s', (sys.removeDevice set d).run t = (removed, t') ∧
      RemovalRun sys identifier s (removed.mapError .system) [(set, d)] s' := by
  obtain ⟨set, s₁, hopen, hs₁⟩ := h.openDevices s hs
  have hdrop : devices.drop 0 = earlier ++ d :: later := hdevices
  obtain ⟨visits, s₂, hwalk, hs₂⟩ :=
    h.exists_search hdrop (by rwa [Nat.zero_add]) hd hearlier set hs₁
  exact ⟨set, s₂, _, _, _, rfl, .found hopen hwalk rfl rfl⟩

/-- On a steady system whose devices have different identifiers, a removal by the identifier of a
device is called for this device. -/
lemma Steady.exists_removalRun (h : Steady sys Holds devices ended instanceIds)
    {identifier : String} {earlier later : List Device} {d : Device}
    (hdevices : devices = earlier ++ d :: later) (hlength : earlier.length < indexCount)
    (hdiffer : IdentifiersDiffer devices instanceIds) (hid : instanceIds d = some identifier)
    (hs : Holds s) :
    ∃ set t t' removed s', (sys.removeDevice set d).run t = (removed, t') ∧
      RemovalRun sys identifier s (removed.mapError .system) [(set, d)] s' := by
  have hearlier : ∀ c ∈ earlier, ¬ Identification.Names identifier ⟨c, instanceIds c⟩ := by
    rintro c hc ⟨found, hfound, hsame⟩
    rw [hdevices] at hdiffer
    obtain ⟨-, -, hbetween⟩ := List.pairwise_append.1 hdiffer
    exact hbetween c hc d List.mem_cons_self found identifier hfound hid hsame
  exact h.exists_removalRun_of_first hdevices hlength ⟨identifier, hid, rfl⟩ hearlier hs

/-- On a steady system a removal by an identifier that no device has does not find it, provided that
the last device is followed by the end of the walk. -/
lemma Steady.exists_removalRun_of_unknown (h : Steady sys Holds devices .noMoreItems instanceIds)
    {identifier : String} (hlength : devices.length ≤ indexCount)
    (hnone : ∀ d ∈ devices, ¬ Identification.Names identifier ⟨d, instanceIds d⟩) (hs : Holds s) :
    ∃ s', RemovalRun sys identifier s (.error (.notFound identifier)) [] s' := by
  obtain ⟨set, s₁, hopen, hs₁⟩ := h.openDevices s hs
  obtain ⟨visits, s₂, hwalk⟩ := h.exists_search_to_end (Nat.zero_le _) hlength hnone set hs₁
  exact ⟨_, .unknown hopen hwalk rfl⟩

/-- After an enumeration of a steady system the devices that it has seen are removed by the
identifiers in their records. -/
lemma Steady.exists_removalRun_of_lists (h : Steady sys Holds devices ended instanceIds)
    (hdiffer : IdentifiersDiffer devices instanceIds) {cls : AdapterClass} {visits : List Sighting}
    (hlists : Lists sys cls s visits s') (hs : Holds s) :
    Holds s' ∧ visits.map (·.device) <+: devices ∧
      ∀ v ∈ visits, ∀ a, v.record cls = some a →
        instanceIds v.device = some a.identifier ∧ ∀ t, Holds t →
          ∃ set r r' removed t', (sys.removeDevice set v.device).run r = (removed, r') ∧
            RemovalRun sys a.identifier t (removed.mapError .system) [(set, v.device)] t' := by
  obtain ⟨set, s₁, s₂, released, hopen, hwalk, hclose⟩ := hlists
  obtain ⟨set', s₁', hopen', hs₁⟩ := h.openDevices s hs
  obtain ⟨-, rfl⟩ := Prod.mk.inj (hopen.symm.trans hopen')
  obtain ⟨hs₂, ⟨rest, hpassed⟩, hids⟩ := h.passes hwalk (Nat.zero_le _) hs₁
  have hs' := h.closeDevices set s₂ hs₂
  rw [hclose] at hs'
  rw [List.drop_zero] at hpassed
  refine ⟨hs', ⟨rest, hpassed⟩, fun v hv a ha => ?_⟩
  have hid := hids v hv a.identifier (Sighting.instanceId_of_record ha)
  refine ⟨hid, fun t ht => ?_⟩
  obtain ⟨earlier, later, rfl⟩ := List.append_of_mem hv
  have hlength := hwalk.add_length_le (Nat.zero_le _)
  have hdevices : devices = earlier.map (·.device) ++
      v.device :: (later.map (·.device) ++ rest) := by
    rw [← hpassed, List.map_append, List.map_cons, List.append_assoc, List.cons_append]
  rw [List.length_append, List.length_cons] at hlength
  exact h.exists_removalRun hdevices (by rw [List.length_map]; omega) hdiffer hid ht

end Removing

end TapTracker.Windows
