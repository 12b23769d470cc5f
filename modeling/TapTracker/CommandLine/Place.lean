import TapTracker.CommandLine.Option

/-!
# Places in a command line

While a command line is read, `Bindings` hold what its options have set so far in one place, before
or after the name of the command.  An option whose value is a word of its own stays `Pending` until
the next option, or the end of the place, settles it: only then it counts as set and its value is
checked, so that another fault that is met first is the one that is reported.
-/

namespace TapTracker

/-- What the options of one place have set. -/
structure Bindings where
  value? : ValueOption → Option String
  isOn : Switch → Bool

namespace Bindings

/-- Nothing is set. -/
def none : Bindings := ⟨fun _ => .none, fun _ => false⟩

/-- The bindings with a value for an option that has none, if the value fits. -/
def setValue (b : Bindings) (o : ValueOption) (s : String) : Except Refusal Bindings :=
  if (b.value? o).isSome then .error .argumentConflict
  else do
    o.check s
    .ok { b with value? := fun o' => if o' = o then some s else b.value? o' }

/-- The bindings with a switch turned on that is off. -/
def turnOn (b : Bindings) (s : Switch) : Except Refusal Bindings :=
  if b.isOn s then .error .argumentConflict
  else .ok { b with isOn := fun s' => if s' = s then true else b.isOn s' }

/-- Nothing has been set in front of the name of a command. -/
def isEmptyInFront (b : Bindings) : Bool :=
  (b.value? .adapterClass).isNone && (b.value? .productAlias).isNone &&
    (b.value? .signature).isNone && (b.value? .config).isNone && !b.isOn .verbose

end Bindings

/-- An option that has been met and not yet settled. -/
structure Pending where
  option : ValueOption
  value? : Option String

/-- A place that has been read up to some word. -/
structure Place where
  bindings : Bindings
  pending : Option Pending

namespace Place

/-- The place before its first word. -/
def start : Place := ⟨.none, none⟩

/-- The next plain word is the value of an option. -/
def awaitsValue (p : Place) : Bool :=
  p.pending.any (·.value?.isNone)

/-- The bindings of the place after its pending option. -/
def settle (p : Place) : Except Refusal Bindings :=
  match p.pending with
  | none => .ok p.bindings
  | some ⟨_, none⟩ => .error .invalidValue
  | some ⟨o, some s⟩ => p.bindings.setValue o s

/-- The place with a word as the value of its pending option. -/
def supply (p : Place) (word : String) : Place :=
  { p with pending := p.pending.map fun pending => { pending with value? := some word } }

/-- The place after an option that has no value attached. -/
def meet (p : Place) : OptionName → Except Refusal Place
  | .value o => do
    let bindings ← p.settle
    .ok ⟨bindings, some ⟨o, none⟩⟩
  | .switch s => do
    let bindings ← p.settle
    let bindings ← bindings.turnOn s
    .ok ⟨bindings, none⟩
  | .help => do
    let _ ← p.settle
    .error .displayHelp
  | .version => do
    let _ ← p.settle
    .error .displayVersion

/-- The place after an option with an attached value. -/
def meetAttached (p : Place) (o : ValueOption) (s : String) : Except Refusal Place := do
  let bindings ← p.settle
  let bindings ← bindings.setValue o s
  .ok ⟨bindings, none⟩

/-- The place after an option with a long spelling. -/
def readLong (p : Place) (scope : Scope) (name : String) (attached : Option String) :
    Except Refusal Place :=
  match scope.long? name, attached with
  | none, _ => .error .unknownArgument
  | some (.value o), some s => p.meetAttached o s
  | some _, some _ => .error .tooManyValues
  | some o, none => p.meet o

/-- The place after a cluster of short spellings.  What follows an option with a value in it is the
value, after an equals sign if there is one. -/
def readCluster (p : Place) (scope : Scope) : List Char → Except Refusal Place
  | [] => .ok p
  | c :: rest =>
    match scope.short? c with
    | none => .error .unknownArgument
    | some (.value o) =>
      match rest with
      | [] => p.meet (.value o)
      | '=' :: value => p.meetAttached o (String.ofList value)
      | value => p.meetAttached o (String.ofList value)
    | some o => do
      let p ← p.meet o
      p.readCluster scope rest

end Place

end TapTracker
