import TapTracker.Adapter.Record

/-!
# Sets of adapters

An `AdapterSet` holds at most one record for each adapter, in increasing order of identifiers, and
keeps the first record that it is given for an adapter: a later one changes nothing, neither the
spelling of the identifier nor the device name or the alias.

Differences and equality walk two sets in their common order; `contains` scans a set from its
beginning.
-/

namespace TapTracker

/-- The first record precedes the second in the order of identifiers. -/
def TapAdapter.Before (a b : TapAdapter) : Prop :=
  compare a b = .lt

instance (a b : TapAdapter) : Decidable (a.Before b) := by
  unfold TapAdapter.Before; infer_instance

/-! ### Ordered lists -/

/-- The ordered list with a record put in its place, unless it has a record of that adapter. -/
def insertRecord (a : TapAdapter) : List TapAdapter → List TapAdapter
  | [] => [a]
  | b :: rest =>
    match compare a b with
    | .lt => a :: b :: rest
    | .eq => b :: rest
    | .gt => b :: insertRecord a rest

/-- The walk to the place of a record in an ordered list meets no record of its adapter. -/
def isNewTo (a : TapAdapter) : List TapAdapter → Bool
  | [] => true
  | b :: rest =>
    match compare a b with
    | .lt => true
    | .eq => false
    | .gt => isNewTo a rest

/-- The records of an ordered list whose adapters are not in another ordered list. -/
def differenceRecords : List TapAdapter → List TapAdapter → List TapAdapter
  | [], _ => []
  | a :: rest, others =>
    match others.dropWhile fun b => compare b a == .lt with
    | [] => a :: differenceRecords rest []
    | b :: others =>
      if a.sameAdapter b then differenceRecords rest (b :: others)
      else a :: differenceRecords rest (b :: others)

/-- After an insertion there is nothing but the new record and the old ones. -/
theorem mem_insertRecord {a c : TapAdapter} {adapters : List TapAdapter}
    (h : c ∈ insertRecord a adapters) : c = a ∨ c ∈ adapters := by
  induction adapters with
  | nil => simpa [insertRecord] using h
  | cons b rest ih =>
    unfold insertRecord at h
    split at h
    · simpa using h
    · exact .inr h
    · rcases List.mem_cons.1 h with rfl | h
      · simp
      · rcases ih h with rfl | h <;> simp [*]

/-- A record put in its place keeps the order. -/
theorem pairwise_insertRecord (a : TapAdapter) {adapters : List TapAdapter}
    (h : adapters.Pairwise TapAdapter.Before) :
    (insertRecord a adapters).Pairwise TapAdapter.Before := by
  induction adapters with
  | nil => simp [insertRecord]
  | cons b rest ih =>
    obtain ⟨first, ordered⟩ := List.pairwise_cons.1 h
    unfold insertRecord
    split
    next lt =>
      refine List.pairwise_cons.2 ⟨fun c hc => ?_, h⟩
      rcases List.mem_cons.1 hc with rfl | hc
      · exact lt
      · exact Std.TransCmp.lt_trans lt (first c hc)
    next => exact h
    next gt =>
      refine List.pairwise_cons.2 ⟨fun c hc => ?_, ih ordered⟩
      rcases mem_insertRecord hc with rfl | hc
      · exact Std.OrientedCmp.lt_of_gt gt
      · exact first c hc

/-! ### Sets -/

/-- Records of different adapters in increasing order of their identifiers. -/
structure AdapterSet where
  adapters : List TapAdapter
  increasing : adapters.Pairwise TapAdapter.Before

namespace AdapterSet

/-- The set without any adapter. -/
def empty : AdapterSet := ⟨[], .nil⟩

/-- The set with a record of one more adapter; without a change if it has that adapter already. -/
def insert (s : AdapterSet) (a : TapAdapter) : AdapterSet :=
  ⟨insertRecord a s.adapters, pairwise_insertRecord a s.increasing⟩

/-- The set after an insertion, and whether the record has been added to it. -/
def add (s : AdapterSet) (a : TapAdapter) : AdapterSet × Bool :=
  (s.insert a, isNewTo a s.adapters)

/-- The set has a record of the adapter with the given identifier. -/
def contains (s : AdapterSet) (identifier : String) : Bool :=
  s.adapters.any (·.hasIdentifier identifier)

/-- The set of the first records of the adapters in a list. -/
def ofList (adapters : List TapAdapter) : AdapterSet :=
  adapters.foldl insert empty

/-- The number of adapters. -/
def size (s : AdapterSet) : Nat := s.adapters.length

/-- The set has no adapter. -/
def isEmpty (s : AdapterSet) : Bool := s.adapters.isEmpty

/-- The records of a set whose adapters are not in another set, in order. -/
def difference (s t : AdapterSet) : List TapAdapter :=
  differenceRecords s.adapters t.adapters

/-- The two sets are about the same adapters. -/
def sameAdapters (s t : AdapterSet) : Bool :=
  s.size == t.size && (s.adapters.zip t.adapters).all fun (a, b) => a.sameAdapter b

/-- The first record in order that satisfies `owned`. -/
def find? (s : AdapterSet) (owned : TapAdapter → Bool) : Option TapAdapter :=
  s.adapters.find? owned

/-- Some record satisfies `owned`. -/
def any (s : AdapterSet) (owned : TapAdapter → Bool) : Bool :=
  s.adapters.any owned

end AdapterSet

end TapTracker
