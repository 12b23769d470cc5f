import TapTracker.Proofs.Windows.Walk
import TapTracker.Windows.Adapters
import TapTracker.Windows.Trace

/-!
# The calls of the operations on devices

`System.traced` keeps the list of the calls that are made.  This file tells what the operations add
to it.  Reading about the devices of an open set adds `Queries`: calls that change nothing, and for
every key that is opened the read of its value and its release at once.  A whole operation is a
`Session`: the set is opened, queried and released, and just before its release at most one device
is removed.

`Asks` says of a traced action that it does what the action does untraced, and that its calls are
queries.  It is kept by sequencing (`Asks.bind`), so there is one lemma for each function that
reads.
-/

namespace TapTracker.Windows

/-! ### Shapes of traces -/

/-- Calls that ask about the devices of a set. -/
inductive Queries (set : DeviceSet) : Trace → Prop
  | nil : Queries set []
  | device (index : Nat) {rest : Trace} (h : Queries set rest) :
      Queries set (.device set index :: rest)
  | readProperty (d : Device) (property : Property) {rest : Trace} (h : Queries set rest) :
      Queries set (.readProperty set d property :: rest)
  /-- The key of a driver cannot be opened. -/
  | noKey (d : Device) {rest : Trace} (h : Queries set rest) :
      Queries set (.openDriverKey set d none :: rest)
  /-- The key of a driver is opened, read and closed. -/
  | key (d : Device) (key : RegistryKey) (name : String) {rest : Trace} (h : Queries set rest) :
      Queries set (.openDriverKey set d (some key) :: .readValue key name :: .closeKey key :: rest)
  | readMachineValue (path name : String) {rest : Trace} (h : Queries set rest) :
      Queries set (.readMachineValue path name :: rest)
  | interface (guid : Guid) {rest : Trace} (h : Queries set rest) :
      Queries set (.interface guid :: rest)
  | interfaceAlias (i : Interface) {rest : Trace} (h : Queries set rest) :
      Queries set (.interfaceAlias i :: rest)

/-- Queries one after the other are queries. -/
lemma Queries.append {set : DeviceSet} {first second : Trace} (hfirst : Queries set first)
    (hsecond : Queries set second) : Queries set (first ++ second) := by
  induction hfirst with
  | nil => exact hsecond
  | device index _ ih => exact .device index ih
  | readProperty d property _ ih => exact .readProperty d property ih
  | noKey d _ ih => exact .noKey d ih
  | key d key name _ ih => exact .key d key name ih
  | readMachineValue path name _ ih => exact .readMachineValue path name ih
  | interface guid _ ih => exact .interface guid ih
  | interfaceAlias i _ ih => exact .interfaceAlias i ih

/-- The devices that a removal has been called for, with their sets. -/
def Trace.removals : Trace → List (DeviceSet × Device)
  | [] => []
  | .removeDevice set d :: rest => (set, d) :: removals rest
  | _ :: rest => removals rest

/-- All calls of an operation, with the devices that it calls a removal for. -/
inductive Session : List (DeviceSet × Device) → Trace → Prop
  /-- The set cannot be opened. -/
  | refused : Session [] [.openDevices none]
  | querying {set : DeviceSet} {queries : Trace} (h : Queries set queries) :
      Session [] (.openDevices (some set) :: (queries ++ [.closeDevices set]))
  | removing {set : DeviceSet} {queries : Trace} (d : Device) (h : Queries set queries) :
      Session [(set, d)]
        (.openDevices (some set) :: (queries ++ [.removeDevice set d, .closeDevices set]))

/-- Queries remove nothing. -/
lemma Queries.removals_append {set : DeviceSet} {queries rest : Trace} (h : Queries set queries) :
    Trace.removals (queries ++ rest) = rest.removals := by
  induction h with
  | nil => rfl
  | device | readProperty | noKey | key | readMachineValue | interface | interfaceAlias =>
    assumption

/-- The removals among the calls of an operation are those that it is said to call for. -/
lemma Session.removals {removed : List (DeviceSet × Device)} {made : Trace}
    (h : Session removed made) : made.removals = removed := by
  cases h with
  | refused => rfl
  | querying h => exact h.removals_append
  | removing d h => exact h.removals_append

/-! ### Actions that ask -/

section Asking

variable {σ α β : Type} {sys : System (StateM σ)} {set : DeviceSet} {past : Trace} {s : σ}

/-- A traced call is made and written down with its answer. -/
lemma run_traceCall (act : StateM σ α) (call : α → Call) (past : Trace) (s : σ) :
    ((traceCall act call).run past).run s =
      (((act.run s).1, past ++ [call (act.run s).1]), (act.run s).2) := rfl

/-- Traced actions are run one after the other, with the trace that the first one leaves. -/
lemma run_traced_bind {x : StateT Trace (StateM σ) α} {f : α → StateT Trace (StateM σ) β}
    {past after : Trace} {s s₁ : σ} {a : α} (hx : (x.run past).run s = ((a, after), s₁)) :
    ((x >>= f).run past).run s = ((f a).run after).run s₁ := by
  rw [StateT.run_bind, StateT.run_bind, hx]
  rfl

/-- Traced, the action `x` does what `y` does, and the calls that it adds have the shape that its
answer asks for. -/
def Adds (Shape : α → Trace → Prop) (x : StateT Trace (StateM σ) α) (y : StateM σ α) : Prop :=
  ∀ past s, ∃ made, (x.run past).run s = (((y.run s).1, past ++ made), (y.run s).2) ∧
    Shape (y.run s).1 made

/-- An answer that is given at once adds no calls. -/
lemma Adds.pure {Shape : α → Trace → Prop} {a : α} (h : Shape a []) :
    Adds Shape (pure a : StateT Trace (StateM σ) α) (pure a) := by
  intro past s
  refine ⟨[], ?_, h⟩
  rw [List.append_nil]
  rfl

/-- Shapes that can be joined are kept by sequencing, whatever the first answer is. -/
lemma Adds.bind {First : α → Trace → Prop} {Second : α → β → Trace → Prop}
    {Shape : β → Trace → Prop} {x : StateT Trace (StateM σ) α} {y : StateM σ α}
    {f : α → StateT Trace (StateM σ) β} {g : α → StateM σ β} (hx : Adds First x y)
    (hf : ∀ a, Adds (Second a) (f a) (g a))
    (hjoin : ∀ {a b first second}, First a first → Second a b second → Shape b (first ++ second)) :
    Adds Shape (x >>= f) (y >>= g) := by
  intro past s
  obtain ⟨first, hrun, hfirst⟩ := hx past s
  obtain ⟨second, hrun', hsecond⟩ := hf (y.run s).1 (past ++ first) (y.run s).2
  refine ⟨first ++ second, ?_, hjoin hfirst hsecond⟩
  rw [run_traced_bind hrun, hrun', List.append_assoc, StateT.run_bind]
  rfl

/-- A traced call adds itself. -/
lemma adds_traceCall {Shape : α → Trace → Prop} {act : StateM σ α} {call : α → Call}
    (h : ∀ a, Shape a [call a]) : Adds Shape (traceCall act call) act :=
  fun past s => ⟨_, run_traceCall act call past s, h _⟩

/-- Traced, the action `x` does what `y` does, and the calls that it adds are queries. -/
def Asks (set : DeviceSet) (x : StateT Trace (StateM σ) α) (y : StateM σ α) : Prop :=
  Adds (fun _ => Queries set) x y

/-- An answer that is given at once asks nothing. -/
lemma Asks.pure (a : α) : Asks set (pure a : StateT Trace (StateM σ) α) (pure a) :=
  Adds.pure .nil

/-- Questions may be asked one after the other. -/
lemma Asks.bind {x : StateT Trace (StateM σ) α} {y : StateM σ α}
    {f : α → StateT Trace (StateM σ) β} {g : α → StateM σ β} (hx : Asks set x y)
    (hf : ∀ a, Asks set (f a) (g a)) : Asks set (x >>= f) (y >>= g) :=
  Adds.bind hx hf Queries.append

/-- A call is a query if it is one whatever it answers. -/
lemma asks_traceCall {act : StateM σ α} {call : α → Call} (h : ∀ a, Queries set [call a]) :
    Asks set (traceCall act call) act :=
  adds_traceCall h

/-! ### Functions that read -/

variable (sys) (set)

/-- Reading a property with a number of attempts makes queries only. -/
lemma asks_readTextProperty (d : Device) (property : Property) (attempts : Nat)
    (buffer : List UInt8) :
    Asks set (readTextProperty sys.traced set d property attempts buffer)
      (readTextProperty sys set d property attempts buffer) := by
  induction attempts generalizing buffer with
  | zero => exact Asks.pure none
  | succ attempts ih =>
    refine Asks.bind (asks_traceCall fun _ => .readProperty d property .nil) fun read => ?_
    cases read.outcome with
    | ok => exact Asks.pure _
    | error e =>
      dsimp only
      split
      · exact ih _
      · exact Asks.pure none

/-- Reading the description of a device makes queries only. -/
lemma asks_description (d : Device) :
    Asks set (description sys.traced set d) (description sys set d) := by
  refine Asks.bind (asks_readTextProperty sys set d .friendlyName _ _) fun name => ?_
  cases name with
  | none => exact asks_readTextProperty sys set d .description _ _
  | some name => exact Asks.pure _

/-- The key that the identifier is read from is closed again, whatever has been read. -/
lemma asks_instanceId (d : Device) :
    Asks set (instanceId sys.traced set d) (instanceId sys set d) := by
  intro past s
  have hopened : ((sys.traced.openDriverKey set d).run past).run s = _ := run_traceCall _ _ past s
  rw [instanceId, run_traced_bind hopened, instanceId, StateT.run_bind]
  cases (sys.openDriverKey set d).run s with
  | mk answer s₁ =>
    cases answer with
    | error e => exact ⟨_, rfl, .noKey d .nil⟩
    | ok key =>
      refine ⟨[.openDriverKey set d (some key), .readValue key instanceIdName, .closeKey key], ?_,
        .key d key _ .nil⟩
      have hclosed : past ++ [.openDriverKey set d (some key), .readValue key instanceIdName,
          .closeKey key] = past ++ [Call.openDriverKey set d (some key)] ++
            [.readValue key instanceIdName] ++ [.closeKey key] := by simp
      rw [hclosed]
      rfl

/-- Reading the alias of an interface makes queries only. -/
lemma asks_interfaceAlias (identifier : String) :
    Asks set (interfaceAlias sys.traced identifier) (interfaceAlias sys identifier) := by
  rw [interfaceAlias, interfaceAlias]
  cases Guid.ofText? identifier with
  | none => exact Asks.pure none
  | some guid =>
    refine Asks.bind (asks_traceCall fun _ => .interface guid .nil) fun answer => ?_
    cases answer with
    | error e => exact Asks.pure none
    | ok i =>
      exact Asks.bind (asks_traceCall fun _ => .interfaceAlias i .nil) fun units => Asks.pure _

/-- Reading the alias of an adapter makes queries only. -/
lemma asks_adapterAlias (identifier : String) :
    Asks set (adapterAlias sys.traced identifier) (adapterAlias sys identifier) := by
  refine Asks.bind (asks_interfaceAlias sys set identifier) fun aliasName => ?_
  cases aliasName with
  | none =>
    exact Asks.bind (asks_traceCall fun _ => .readMachineValue _ _ .nil) fun name => Asks.pure _
  | some aliasName => exact Asks.pure _

/-- Reading the record of a device makes queries only. -/
lemma asks_readAdapter (cls : AdapterClass) (d : Device) :
    Asks set (readAdapter sys.traced set cls d) (readAdapter sys set cls d) := by
  refine Asks.bind (asks_description sys set d) fun name => ?_
  cases name with
  | none => exact Asks.pure none
  | some deviceName =>
    dsimp only
    split
    · refine Asks.bind (asks_instanceId sys set d) fun identifier => ?_
      cases identifier with
      | none => exact Asks.pure none
      | some identifier =>
        exact Asks.bind (asks_adapterAlias sys set identifier) fun aliasName => Asks.pure _
    · exact Asks.pure none

/-- Getting a device by its index makes queries only. -/
lemma asks_deviceAt (index : Nat) :
    Asks set (deviceAt sys.traced set index) (deviceAt sys set index) := by
  refine Asks.bind (asks_traceCall fun _ => .device index .nil) fun answer => ?_
  cases answer <;> exact Asks.pure _

/-- Reading the records of all devices makes queries only. -/
lemma asks_readAdapters (cls : AdapterClass) (count index : Nat) :
    Asks set (readAdapters sys.traced set cls count index)
      (readAdapters sys set cls count index) := by
  induction count generalizing index with
  | zero => exact Asks.pure _
  | succ count ih =>
    refine Asks.bind (asks_deviceAt sys set index) fun answer => ?_
    cases answer with
    | error e => exact Asks.pure _
    | ok next =>
      cases next with
      | none => exact Asks.pure _
      | some d =>
        refine Asks.bind (asks_readAdapter sys set cls d) fun adapter => ?_
        exact Asks.bind (ih (index + 1)) fun others => Asks.pure _

/-- Seeking a device makes queries only. -/
lemma asks_findDevice (identifier : String) (count index : Nat) :
    Asks set (findDevice sys.traced set identifier count index)
      (findDevice sys set identifier count index) := by
  induction count generalizing index with
  | zero => exact Asks.pure _
  | succ count ih =>
    refine Asks.bind (asks_deviceAt sys set index) fun answer => ?_
    cases answer with
    | error e => exact Asks.pure _
    | ok next =>
      cases next with
      | none => exact Asks.pure _
      | some d =>
        refine Asks.bind (asks_instanceId sys set d) fun found => ?_
        cases found with
        | none => exact ih (index + 1)
        | some found =>
          dsimp only
          split
          · exact Asks.pure _
          · exact ih (index + 1)

end Asking

/-! ### Whole operations -/

section Operations

variable {σ ε α : Type} {sys : System (StateM σ)} {set : DeviceSet} {past : Trace}
  {s s₁ s₂ s₃ : σ} {failed : SystemError → ε}
  {work : DeviceSet → StateT Trace (StateM σ) (Except ε α)}

/-- If the set cannot be opened, the attempt to open it is the only call. -/
lemma run_traced_withDevices_of_error {e : SystemError}
    (hopen : sys.openDevices.run s = (.error e, s₁)) :
    ((withDevices sys.traced failed work).run past).run s =
      ((.error (failed e), past ++ [.openDevices none]), s₁) := by
  have hopened : ((sys.traced.openDevices).run past).run s = _ := run_traceCall _ _ past s
  rw [withDevices, run_traced_bind hopened, hopen]
  rfl

/-- Around the calls of the work stand those that open and close the set. -/
lemma run_traced_withDevices_of_ok {made : Trace} {answer : Except ε α}
    {released : Except SystemError Unit} (hopen : sys.openDevices.run s = (.ok set, s₁))
    (hwork : ((work set).run (past ++ [.openDevices (some set)])).run s₁ =
      ((answer, past ++ [.openDevices (some set)] ++ made), s₂))
    (hclose : (sys.closeDevices set).run s₂ = (released, s₃)) :
    ((withDevices sys.traced failed work).run past).run s =
      ((answer, past ++ (.openDevices (some set) :: (made ++ [.closeDevices set]))), s₃) := by
  have hopened : ((sys.traced.openDevices).run past).run s = _ := run_traceCall _ _ past s
  have hclosed : ((sys.traced.closeDevices set).run
      (past ++ [.openDevices (some set)] ++ made)).run s₂ = _ := run_traceCall _ _ _ s₂
  have hmade : past ++ (.openDevices (some set) :: (made ++ [.closeDevices set])) =
      past ++ [Call.openDevices (some set)] ++ made ++ [.closeDevices set] := by simp
  rw [withDevices, run_traced_bind hopened, hopen, hmade]
  dsimp only [Except.toOption]
  rw [run_traced_bind hwork, run_traced_bind hclosed, hclose]
  rfl

end Operations

end TapTracker.Windows
