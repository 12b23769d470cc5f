import TapTracker.Proofs.Windows.Calls
import TapTracker.Proofs.Windows.Enumeration

/-!
# What a removal removes

A removal walks through the devices until it meets the instance identifier that it has been given.
`RemovalRun` lists its courses with the devices that a removal is called for: none, unless the walk
has met a device with this identifier, and then this device alone, whatever becomes of it.

Every removal takes one of these courses (`exists_removalRun`), and its calls are a session in which
just these devices are removed (`RemovalRun.run_traced`).
-/

namespace TapTracker.Windows

open TapTracker.Text

/-! ### Identified devices -/

/-- A device with its instance identifier, if that can be read. -/
structure Identification where
  device : Device
  instanceId : Option String

/-- The device has the given instance identifier, up to the case of ASCII letters. -/
def Identification.Names (identifier : String) (v : Identification) : Prop :=
  ∃ found, v.instanceId = some found ∧ EqIgnoringAsciiCase found identifier

/-- What a removal is to do after a walk: whether there is a device to remove, and which. -/
def WalkEnd.target : WalkEnd Identification → Except SystemError (Option Device)
  | .atEnd => .ok none
  | .failed e => .error e
  | .found v => .ok (some v.device)

section Walks

variable {σ : Type}

/-- A removal reads the instance identifier of a device and nothing else. -/
def Identifies (sys : System (StateM σ)) (set : DeviceSet) (d : Device) (s : σ)
    (v : Identification) (s' : σ) : Prop :=
  v.device = d ∧ (instanceId sys set d).run s = (v.instanceId, s')

/-- The walk of a removal, which is to find the first device with an identifier. -/
abbrev SearchingWalk (sys : System (StateM σ)) (set : DeviceSet) (identifier : String) :
    Nat → σ → List Identification → WalkEnd Identification → σ → Prop :=
  Walk sys set (Identifies sys set) (Identification.Names identifier)

variable {sys : System (StateM σ)} {set : DeviceSet} {identifier : String} {s s' : σ}
  {visits : List Identification} {ended : WalkEnd Identification} {count index : Nat}

/-- Something can be read of every device, if only that it has no identifier. -/
lemma exists_identifies (d : Device) (s : σ) : ∃ v s', Identifies sys set d s v s' :=
  ⟨⟨d, _⟩, _, rfl, rfl⟩

/-- What is read of a device decides whether it is the one to be found. -/
lemma run_findDevice_of_identifies {left : Nat} {d : Device} {v : Identification} {s₁ s₂ : σ}
    (hdevice : (sys.device set index).run s = (.ok d, s₁)) (hlook : Identifies sys set d s₁ v s₂) :
    (v.Names identifier →
      (findDevice sys set identifier (left + 1) index).run s = (.ok (some v.device), s₂)) ∧
    (¬ v.Names identifier →
      (findDevice sys set identifier (left + 1) index).run s =
        (findDevice sys set identifier left (index + 1)).run s₂) := by
  obtain ⟨rfl, hid⟩ := hlook
  rw [findDevice, StateT.run_bind, run_deviceAt_of_ok hdevice]
  change (_ → (instanceId sys set v.device >>= _).run s₁ = _) ∧
    (_ → (instanceId sys set v.device >>= _).run s₁ = _)
  rw [StateT.run_bind, hid]
  cases hfound : v.instanceId with
  | none =>
    refine ⟨fun hnames => ?_, fun _ => rfl⟩
    obtain ⟨found, hsome, -⟩ := hnames
    rw [hfound] at hsome
    cases hsome
  | some found =>
    constructor
    · rintro ⟨other, hsome, hsame⟩
      obtain rfl := Option.some_inj.1 (hfound.symm.trans hsome)
      change StateT.run (if EqIgnoringAsciiCase found identifier then _ else _) s₂ = _
      rw [if_pos hsame]
      rfl
    · intro hother
      have hdifferent : ¬ EqIgnoringAsciiCase found identifier :=
        fun hsame => hother ⟨found, hfound, hsame⟩
      change StateT.run (if EqIgnoringAsciiCase found identifier then _ else _) s₂ = _
      rw [if_neg hdifferent]

/-- The device that a walk finds is the one to remove. -/
lemma Walk.run_findDevice (h : SearchingWalk sys set identifier index s visits ended s')
    (hcount : index + count = indexCount) :
    (findDevice sys set identifier count index).run s = (ended.target, s') := by
  induction h generalizing count with
  | exhausted hindex =>
    obtain rfl : count = 0 := by omega
    rfl
  | atEnd hindex hdevice =>
    obtain ⟨left, rfl⟩ : ∃ left, count = left + 1 := ⟨count - 1, by omega⟩
    rw [findDevice, StateT.run_bind, run_deviceAt_of_noMoreItems hdevice]
    rfl
  | failed hindex hdevice he =>
    obtain ⟨left, rfl⟩ : ∃ left, count = left + 1 := ⟨count - 1, by omega⟩
    rw [findDevice, StateT.run_bind, run_deviceAt_of_error hdevice he]
    rfl
  | found hindex hdevice hlook hwanted =>
    obtain ⟨left, rfl⟩ : ∃ left, count = left + 1 := ⟨count - 1, by omega⟩
    exact (run_findDevice_of_identifies hdevice hlook).1 hwanted
  | passed hindex hdevice hlook hunwanted _ ih =>
    obtain ⟨left, rfl⟩ : ∃ left, count = left + 1 := ⟨count - 1, by omega⟩
    rw [(run_findDevice_of_identifies hdevice hlook).2 hunwanted]
    exact ih (by omega)

end Walks

/-! ### Removals -/

section Removals

variable {σ : Type}

/-- The courses of a removal, with the devices that a removal is called for. -/
inductive RemovalRun (sys : System (StateM σ)) (identifier : String) (s : σ) :
    Except RemoveError Unit → List (DeviceSet × Device) → σ → Prop
  /-- The set cannot be opened. -/
  | refused {s' : σ} {e : SystemError} (hopen : sys.openDevices.run s = (.error e, s')) :
      RemovalRun sys identifier s (.error (.system e)) [] s'
  /-- The walk fails before it has met the identifier. -/
  | failed {set : DeviceSet} {s₁ s₂ s' : σ} {visits : List Identification} {e : SystemError}
      {released : Except SystemError Unit} (hopen : sys.openDevices.run s = (.ok set, s₁))
      (hwalk : SearchingWalk sys set identifier 0 s₁ visits (.failed e) s₂)
      (hclose : (sys.closeDevices set).run s₂ = (released, s')) :
      RemovalRun sys identifier s (.error (.system e)) [] s'
  /-- The walk comes to its end without having met the identifier. -/
  | unknown {set : DeviceSet} {s₁ s₂ s' : σ} {visits : List Identification}
      {released : Except SystemError Unit} (hopen : sys.openDevices.run s = (.ok set, s₁))
      (hwalk : SearchingWalk sys set identifier 0 s₁ visits .atEnd s₂)
      (hclose : (sys.closeDevices set).run s₂ = (released, s')) :
      RemovalRun sys identifier s (.error (.notFound identifier)) [] s'
  /-- The first device with the identifier is removed, and the answer to that is the answer. -/
  | found {set : DeviceSet} {s₁ s₂ s₃ s' : σ} {visits : List Identification} {v : Identification}
      {removed released : Except SystemError Unit}
      (hopen : sys.openDevices.run s = (.ok set, s₁))
      (hwalk : SearchingWalk sys set identifier 0 s₁ visits (.found v) s₂)
      (hremove : (sys.removeDevice set v.device).run s₂ = (removed, s₃))
      (hclose : (sys.closeDevices set).run s₃ = (released, s')) :
      RemovalRun sys identifier s (removed.mapError .system) [(set, v.device)] s'

variable {sys : System (StateM σ)} {identifier : String} {s s' : σ}

/-- A removal has some course. -/
lemma exists_removalRun (sys : System (StateM σ)) (identifier : String) (s : σ) :
    ∃ answer removed s', RemovalRun sys identifier s answer removed s' := by
  cases hopen : sys.openDevices.run s with
  | mk answer s₁ =>
    cases answer with
    | error e => exact ⟨_, _, s₁, .refused hopen⟩
    | ok set =>
      obtain ⟨visits, ended, s₂, hwalk⟩ : ∃ visits ended s₂,
          SearchingWalk sys set identifier 0 s₁ visits ended s₂ :=
        exists_walk exists_identifies 0 s₁
      cases ended with
      | atEnd => exact ⟨_, _, _, .unknown hopen hwalk rfl⟩
      | failed e => exact ⟨_, _, _, .failed hopen hwalk rfl⟩
      | found v => exact ⟨_, _, _, .found hopen hwalk rfl rfl⟩

/-- Traced, the search for a device makes queries and comes to what its walk comes to. -/
lemma Walk.run_traced_findDevice {set : DeviceSet} {visits : List Identification}
    {ended : WalkEnd Identification}
    (h : SearchingWalk sys set identifier 0 s visits ended s') (past : Trace) :
    ∃ queries, ((findDevice sys.traced set identifier indexCount 0).run past).run s =
      ((ended.target, past ++ queries), s') ∧ Queries set queries := by
  obtain ⟨queries, hrun, hqueries⟩ := asks_findDevice sys set identifier indexCount 0 past s
  rw [h.run_findDevice (Nat.zero_add _)] at hrun
  exact ⟨queries, hrun, hqueries⟩

/-- A removal takes each of its courses, and its calls are a session with these removals. -/
lemma RemovalRun.run_traced {answer : Except RemoveError Unit}
    {removed : List (DeviceSet × Device)} (h : RemovalRun sys identifier s answer removed s')
    (past : Trace) :
    ∃ made, ((remove sys.traced identifier).run past).run s = ((answer, past ++ made), s') ∧
      Session removed made := by
  cases h with
  | refused hopen => exact ⟨_, run_traced_withDevices_of_error hopen, .refused⟩
  | @failed set s₁ s₂ _ visits e released hopen hwalk hclose =>
    obtain ⟨queries, hfind, hqueries⟩ :=
      hwalk.run_traced_findDevice (past ++ [.openDevices (some set)])
    refine ⟨_, run_traced_withDevices_of_ok hopen ?_ hclose, .querying hqueries⟩
    rw [run_traced_bind hfind]
    rfl
  | @unknown set s₁ s₂ _ visits released hopen hwalk hclose =>
    obtain ⟨queries, hfind, hqueries⟩ :=
      hwalk.run_traced_findDevice (past ++ [.openDevices (some set)])
    refine ⟨_, run_traced_withDevices_of_ok hopen ?_ hclose, .querying hqueries⟩
    rw [run_traced_bind hfind]
    rfl
  | @found set s₁ s₂ s₃ _ visits v removed released hopen hwalk hremove hclose =>
    obtain ⟨queries, hfind, hqueries⟩ :=
      hwalk.run_traced_findDevice (past ++ [.openDevices (some set)])
    have hremoved : ((sys.traced.removeDevice set v.device).run
        (past ++ [.openDevices (some set)] ++ queries)).run s₂ = _ := run_traceCall _ _ _ s₂
    -- The work on the set ends with the removal, so that the release is split off from its calls.
    have hsession := Session.removing v.device hqueries
    rw [show queries ++ [Call.removeDevice set v.device, .closeDevices set] =
      (queries ++ [.removeDevice set v.device]) ++ [.closeDevices set] by simp] at hsession
    refine ⟨_, run_traced_withDevices_of_ok hopen ?_ hclose, hsession⟩
    rw [run_traced_bind hfind]
    change ((sys.traced.removeDevice set v.device >>= _).run _).run s₂ = _
    rw [run_traced_bind hremoved, hremove, List.append_assoc _ queries]
    rfl

end Removals

end TapTracker.Windows
