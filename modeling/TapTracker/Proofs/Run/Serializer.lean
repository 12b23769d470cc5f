import Mathlib.Tactic.Choose
import Mathlib.Tactic.Lemma
import TapTracker.Run.Execute

/-!
# Listings and serializers

A JSON listing is written by a serializer, and a serializer can refuse what it is given.  It is
given a `Serial`, a value whose mappings may have keys of any kind, and only those with texts for
their keys can be written as JSON.  Besides, the record of an adapter is flattened into the mapping
of its entry, which is possible for a mapping and for nothing else.

`executeBy` runs a command with a serializer and reports its refusals.  A serializer that writes
whatever JSON allows has nothing to refuse (`AdapterSet.renderBy_eq`), so that the commands come to
what `execute` says (`executeBy_eq`).
-/

namespace TapTracker

namespace Text

/-! ### Values -/

/-- A value to be written. -/
inductive Serial
  | text (s : String)
  | truth (b : Bool)
  | sequence (items : List Serial)
  /-- Keys and values in their order. -/
  | mapping (members : List (Serial × Serial))

mutual

/-- The value as JSON, if the keys of all its mappings are texts. -/
def Serial.json? : Serial → Option Json
  | .text s => some (.string s)
  | .truth b => some (.bool b)
  | .sequence items => (jsonItems? items).map .array
  | .mapping members => (jsonMembers? members).map .object

/-- The elements as JSON. -/
def jsonItems? : List Serial → Option (List Json)
  | [] => some []
  | v :: rest => do return (← v.json?) :: (← jsonItems? rest)

/-- The members as JSON. -/
def jsonMembers? : List (Serial × Serial) → Option (List (String × Json))
  | [] => some []
  | (.text name, v) :: rest => do return (name, ← v.json?) :: (← jsonMembers? rest)
  | _ :: _ => none

end

/-- The mapping with more members; nothing else can have members. -/
def Serial.flattenWith (more : List (Serial × Serial)) : Serial → Except String Serial
  | .mapping members => .ok (.mapping (members ++ more))
  | _ => .error "can only flatten structs and maps"

/-- The serializer writes every value that can be written as JSON. -/
def WritesJson (write : Serial → Except String String) : Prop :=
  ∀ v json, v.json? = some json → write v = .ok json.pretty

/-- The serializer that refuses a value only if a key in it is not a text. -/
def Serial.write (v : Serial) : Except String String :=
  match v.json? with
  | some json => .ok json.pretty
  | none => .error "key must be a string"

/-- The serializer of the program writes the values that it is given. -/
lemma writesJson_write : WritesJson Serial.write := by
  intro v json hjson
  rw [Serial.write, hjson]

/-- Elements that can be written one by one can be written together. -/
lemma jsonItems?_map {α : Type} {value : α → Serial} {json : α → Json}
    (h : ∀ a, (value a).json? = some (json a)) (items : List α) :
    jsonItems? (items.map value) = some (items.map json) := by
  induction items with
  | nil => rfl
  | cons a rest ih =>
    rw [List.map_cons, List.map_cons, jsonItems?, h, ih]
    rfl

end Text

open Text

/-! ### Listings -/

/-- The record as a value to be written. -/
def TapAdapter.serial (a : TapAdapter) : Serial :=
  .mapping [(.text "identifier", .text a.identifier), (.text "device_name", .text a.deviceName),
    (.text "alias", .text a.aliasName)]

/-- The entry of a listing as a value to be written. -/
def TapAdapter.listedSerial (owned : TapAdapter → Bool) (a : TapAdapter) : Except String Serial :=
  a.serial.flattenWith [(.text "product_owned", .truth (owned a))]

/-- The record of an adapter can be flattened into its entry, whose keys are texts. -/
lemma TapAdapter.exists_listedSerial (owned : TapAdapter → Bool) (a : TapAdapter) :
    ∃ v, a.listedSerial owned = .ok v ∧ v.json? = some (a.listingJson owned) :=
  ⟨_, rfl, rfl⟩

namespace AdapterSet

/-- The listing of the set as a value to be written. -/
def listedSerial (s : AdapterSet) (owned : TapAdapter → Bool) : Except String Serial := do
  let entries ← s.adapters.mapM (·.listedSerial owned)
  return .sequence entries

/-- The listing of the set in one of the two forms, by means of a serializer. -/
def renderBy (write : Serial → Except String String) (s : AdapterSet)
    (owned : TapAdapter → Bool) (asJson : Bool) : Except RunError String :=
  if asJson then ((s.listedSerial owned).bind write).mapError .output else .ok (s.listing owned)

/-- A listing can be written as JSON, and it is then the listing of the set as JSON. -/
lemma exists_listedSerial (s : AdapterSet) (owned : TapAdapter → Bool) :
    ∃ v, s.listedSerial owned = .ok v ∧ v.json? = some (s.listingJson owned) := by
  choose entry hentry hjson using TapAdapter.exists_listedSerial owned
  have hpure : (·.listedSerial owned) = fun a => (pure (entry a) : Except String Serial) :=
    funext hentry
  refine ⟨.sequence (s.adapters.map entry), ?_, ?_⟩
  · rw [listedSerial, hpure, List.mapM_pure]
    rfl
  · rw [Serial.json?, jsonItems?_map hjson]
    rfl

/-- A serializer that writes whatever JSON allows has nothing to refuse in a listing. -/
lemma renderBy_eq {write : Serial → Except String String} (hwrite : WritesJson write)
    (s : AdapterSet) (owned : TapAdapter → Bool) (asJson : Bool) :
    s.renderBy write owned asJson = .ok (s.render owned asJson) := by
  obtain ⟨v, hlisted, hjson⟩ := s.exists_listedSerial owned
  unfold renderBy render
  cases asJson with
  | false => rfl
  | true =>
    rw [if_pos rfl, if_pos rfl, hlisted]
    change (write v).mapError _ = _
    rw [hwrite v _ hjson]
    rfl

end AdapterSet

/-! ### Commands -/

section Commands

variable {m : Type → Type} [Monad m] (write : Serial → Except String String)

/-- Lists the adapters by means of a serializer. -/
def executeListBy (p : Platform m) (settings : Settings) (asJson : Bool) :
    m (Except RunError String) := do
  let captured ← p.capture settings.adapterClass
  match captured with
  | .error e => return .error (.tracker (.enumerate e))
  | .ok adapters => return adapters.renderBy write settings.owns asJson

/-- Runs a command by means of a serializer. -/
def executeBy (machine : Machine m) (settings : Settings) :
    Command → m (Except RunError (Option String))
  | .list asJson => do
    let answer ← executeListBy write machine.platform settings asJson
    return answer.map some
  | command => execute machine settings command

variable {write}

/-- With a serializer that writes whatever JSON allows, commands come to what they come to without
regard to serializers. -/
lemma executeBy_eq (hwrite : WritesJson write) (machine : Machine m) (settings : Settings)
    (command : Command) : executeBy write machine settings command =
      execute machine settings command := by
  cases command with
  | list asJson =>
    have hlist : executeListBy write machine.platform settings asJson =
        executeList machine.platform settings asJson := by
      refine bind_congr fun captured => ?_
      cases captured with
      | error e => rfl
      | ok adapters =>
        have hrender := AdapterSet.renderBy_eq hwrite adapters settings.owns asJson
        exact congrArg pure hrender
    rw [executeBy, execute, hlist]
  | init output => rfl
  | baseline => rfl
  | install timeout keepAlias installer => rfl
  | remove => rfl

end Commands

end TapTracker
