import Mathlib.Data.List.Sort
import TapTracker.Proofs.Adapter.Identity

/-!
# Adapter sets and the lists they are collected from

`firstRecord? adapters key` is the first record of a list with a given key.  A set is determined by
these look-ups (`AdapterSet.mem_iff_firstRecord?`), and the set collected from a list answers them
as the list does (`AdapterSet.firstRecord?_ofList`).  Hence its members are exactly the first
records of the adapters in the list (`AdapterSet.mem_ofList`).

The walk in common order that makes up a difference keeps just the records that the other set does
not contain (`AdapterSet.difference_eq_filter`).
-/

namespace TapTracker

/-- The first record of a list with the given key. -/
def firstRecord? (adapters : List TapAdapter) (key : List Char) : Option TapAdapter :=
  adapters.find? fun a => a.key = key

section FirstRecord

variable {adapters : List TapAdapter} {a b : TapAdapter} {key : List Char}

/-- The empty list has no record with a key. -/
@[simp] lemma firstRecord?_nil : firstRecord? [] key = none := rfl

/-- The first record with a key is the head of the list, or is sought in the rest of it. -/
lemma firstRecord?_cons :
    firstRecord? (a :: adapters) key =
      if a.key = key then some a else firstRecord? adapters key := by
  by_cases h : a.key = key <;> simp [firstRecord?, h]

/-- The first record of two lists one after the other is in the first list, if that has one. -/
lemma firstRecord?_append {others : List TapAdapter} :
    firstRecord? (adapters ++ others) key =
      (firstRecord? adapters key).or (firstRecord? others key) :=
  List.find?_append

/-- A list has a first record with a key exactly if it has a record with that key. -/
lemma isSome_firstRecord? : (firstRecord? adapters key).isSome ↔ ∃ a ∈ adapters, a.key = key := by
  simp [firstRecord?]

/-- There is no first record with a key exactly if no record has that key. -/
lemma firstRecord?_eq_none : firstRecord? adapters key = none ↔ ∀ a ∈ adapters, a.key ≠ key := by
  simp [firstRecord?]

/-- The first record with a key is a record of the list. -/
lemma mem_of_firstRecord? (h : firstRecord? adapters key = some a) : a ∈ adapters :=
  List.mem_of_find?_eq_some h

/-- The first record with a key has that key. -/
lemma key_of_firstRecord? (h : firstRecord? adapters key = some a) : a.key = key := by
  simpa using List.find?_some h

/-- A map that keeps the keys of records takes first records to first records. -/
lemma firstRecord?_map {f : TapAdapter → TapAdapter} (hf : ∀ a, (f a).key = a.key) :
    firstRecord? (adapters.map f) key = (firstRecord? adapters key).map f := by
  have hkey : (fun a : TapAdapter => decide (a.key = key)) ∘ f = fun a => decide (a.key = key) := by
    funext a
    rw [Function.comp_apply, hf]
  rw [firstRecord?, List.find?_map, hkey]
  rfl

/-- Dropping all records with certain keys changes the look-ups of these keys only. -/
lemma firstRecord?_filter (keep : List Char → Bool) :
    firstRecord? (adapters.filter fun a => keep a.key) key =
      if keep key then firstRecord? adapters key else none := by
  induction adapters with
  | nil => simp
  | cons a rest ih =>
    by_cases ha : a.key = key
    · subst ha
      cases hkeep : keep a.key <;> simp [firstRecord?_cons, hkeep, ih]
    · cases hkeep : keep a.key <;> simp [firstRecord?_cons, hkeep, ih, ha]

end FirstRecord

/-! ### Ordered lists -/

section Ordered

variable {adapters others : List TapAdapter} {a : TapAdapter} {key : List Char}

/-- A record before a whole list is about none of its adapters. -/
lemma firstRecord?_eq_none_of_before (h : ∀ b ∈ adapters, a.Before b) (hkey : a.key = key) :
    firstRecord? adapters key = none := by
  rw [firstRecord?_eq_none]
  intro b hb hbkey
  exact (h b hb).key_ne (hkey.trans hbkey.symm)

/-- In an ordered list every record is the first one with its key. -/
lemma firstRecord?_of_mem (hord : adapters.Pairwise TapAdapter.Before) (ha : a ∈ adapters) :
    firstRecord? adapters a.key = some a := by
  induction adapters with
  | nil => cases ha
  | cons b rest ih =>
    obtain ⟨hb, hrest⟩ := List.pairwise_cons.1 hord
    rw [firstRecord?_cons]
    rcases List.mem_cons.1 ha with rfl | ha
    · rw [if_pos rfl]
    · rw [if_neg (hb a ha).key_ne, ih hrest ha]

/-- Putting a record in its place changes the look-up of its own key only, and that only if the
list had no record with this key. -/
lemma firstRecord?_insertRecord (hord : adapters.Pairwise TapAdapter.Before) :
    firstRecord? (insertRecord a adapters) key =
      (firstRecord? adapters key).or (if a.key = key then some a else none) := by
  induction adapters with
  | nil => simp [insertRecord, firstRecord?_cons]
  | cons b rest ih =>
    obtain ⟨hb, hrest⟩ := List.pairwise_cons.1 hord
    -- The new record stands before `b`, is about the same adapter as `b`, or goes into the rest.
    rw [insertRecord]
    split
    next hlt =>
      have hbefore : ∀ c ∈ b :: rest, a.Before c := by
        intro c hc
        rcases List.mem_cons.1 hc with rfl | hc
        · exact hlt
        · exact TapAdapter.Before.trans hlt (hb c hc)
      rw [firstRecord?_cons]
      by_cases hkey : a.key = key
      · simp [hkey, firstRecord?_eq_none_of_before hbefore hkey]
      · simp [hkey]
    next heq =>
      have hab : a.key = b.key := by
        rwa [TapAdapter.compare_eq_compare_key, Std.compare_eq_iff_eq] at heq
      by_cases hkey : b.key = key <;> simp [firstRecord?_cons, hab, hkey]
    next =>
      rw [firstRecord?_cons, firstRecord?_cons, ih hrest]
      split <;> simp

/-- Dropping the records before `a` at the head of a list loses no record with the key of `a` or of
a record after it. -/
lemma any_dropWhile_before {c : TapAdapter} (hc : c.key = a.key ∨ a.Before c) :
    (others.dropWhile fun b => compare b a == .lt).any (·.sameAdapter c) =
      others.any (·.sameAdapter c) := by
  induction others with
  | nil => rfl
  | cons b rest ih =>
    rw [List.dropWhile_cons]
    split
    next hlt =>
      have hba : b.Before a := beq_iff_eq.1 hlt
      have hbc : b.key ≠ c.key := by
        rcases hc with hc | hc
        · exact hc ▸ hba.key_ne
        · exact (hba.trans hc).key_ne
      rw [ih, List.any_cons, TapAdapter.sameAdapter_eq_decide, decide_eq_false hbc, Bool.false_or]
    next => rfl

/-- The head of the first list is kept exactly if the second list has no record of its adapter; the
walk goes on after the records of the second list that precede it. -/
lemma differenceRecords_cons (hothers : others.Pairwise TapAdapter.Before) :
    differenceRecords (a :: adapters) others =
      (if others.any (·.sameAdapter a) then [] else [a]) ++
        differenceRecords adapters (others.dropWhile fun b => compare b a == .lt) := by
  have hdropped := hothers.sublist (List.dropWhile_sublist fun b => compare b a == .lt)
  have hhead := List.head?_dropWhile_not (fun b => compare b a == .lt) others
  rw [differenceRecords, ← any_dropWhile_before (a := a) (Or.inl rfl)]
  split
  next hnil => simp [hnil]
  next b rest hcons =>
    rw [hcons] at hdropped hhead ⊢
    by_cases hab : a.key = b.key
    · simp [hab]
    · have hbefore : a.Before b := by
        refine (TapAdapter.before_or_before hab).resolve_right fun hba => ?_
        simp [show compare b a = .lt from hba] at hhead
      have hnone : ∀ c ∈ b :: rest, c.key ≠ a.key := by
        intro c hc
        rcases List.mem_cons.1 hc with rfl | hc
        · exact fun h => hab h.symm
        · exact (hbefore.trans ((List.pairwise_cons.1 hdropped).1 c hc)).key_ne.symm
      have hany : (b :: rest).any (·.sameAdapter a) = false := by
        simpa using hnone
      rw [hany]
      simp [hab]

/-- The walk over two ordered lists keeps exactly the records without a counterpart. -/
lemma differenceRecords_eq_filter (hord : adapters.Pairwise TapAdapter.Before)
    (hothers : others.Pairwise TapAdapter.Before) :
    differenceRecords adapters others =
      adapters.filter fun a => !others.any (·.sameAdapter a) := by
  induction adapters generalizing others with
  | nil => simp [differenceRecords]
  | cons a rest ih =>
    obtain ⟨ha, hrest⟩ := List.pairwise_cons.1 hord
    have hdropped := hothers.sublist (List.dropWhile_sublist fun b => compare b a == .lt)
    -- What has been dropped is not missed by the records after `a`.
    have hfilter : (rest.filter fun c =>
        !(others.dropWhile fun b => compare b a == .lt).any (·.sameAdapter c)) =
          rest.filter fun c => !others.any (·.sameAdapter c) := by
      refine List.filter_congr fun c hc => ?_
      rw [any_dropWhile_before (Or.inr (ha c hc))]
    rw [differenceRecords_cons hothers, ih hrest hdropped, hfilter, List.filter_cons]
    cases others.any (·.sameAdapter a) <;> rfl

/-- The record found in an ordered list is the one that precedes all others of its kind. -/
lemma find?_eq_some_iff_of_pairwise {p : TapAdapter → Bool}
    (hord : adapters.Pairwise TapAdapter.Before) :
    adapters.find? p = some a ↔
      a ∈ adapters ∧ p a ∧ ∀ b ∈ adapters, p b → b = a ∨ a.Before b := by
  induction adapters with
  | nil => simp
  | cons c rest ih =>
    obtain ⟨hc, hrest⟩ := List.pairwise_cons.1 hord
    rw [List.find?_cons]
    -- A head of the kind precedes all others, and any other head can be left out on both sides.
    cases hpc : p c with
    | true =>
      constructor
      · intro h
        obtain rfl := Option.some_inj.1 h
        refine ⟨List.mem_cons_self, hpc, fun b hb _ => ?_⟩
        rcases List.mem_cons.1 hb with rfl | hb
        · exact Or.inl rfl
        · exact Or.inr (hc b hb)
      · rintro ⟨ha, -, hleast⟩
        rcases hleast c List.mem_cons_self hpc with h | h
        · rw [h]
        · rcases List.mem_cons.1 ha with rfl | ha
          · rfl
          · exact absurd h (hc a ha).asymm
    | false =>
      have hne : p a → a ≠ c := by
        rintro hpa rfl
        rw [hpa] at hpc
        cases hpc
      simp only [ih hrest, List.mem_cons, forall_eq_or_imp, hpc]
      constructor
      · rintro ⟨ha, hpa, hleast⟩
        exact ⟨Or.inr ha, hpa, fun h => absurd h Bool.false_ne_true, hleast⟩
      · rintro ⟨ha, hpa, -, hleast⟩
        exact ⟨ha.resolve_left (hne hpa), hpa, hleast⟩

end Ordered

/-! ### Sets -/

namespace AdapterSet

variable {s t : AdapterSet} {a : TapAdapter} {adapters : List TapAdapter} {key : List Char}

/-- The members of a set are the records that it is looked up to. -/
lemma mem_iff_firstRecord? : a ∈ s.adapters ↔ firstRecord? s.adapters a.key = some a :=
  ⟨firstRecord?_of_mem s.increasing, mem_of_firstRecord?⟩

/-- After an insertion a key has its old record, or else the new one if that has the key. -/
lemma firstRecord?_insert :
    firstRecord? (s.insert a).adapters key =
      (firstRecord? s.adapters key).or (if a.key = key then some a else none) :=
  firstRecord?_insertRecord s.increasing

/-- After the insertion of a list a key has its old record, or else the first one of the list. -/
lemma firstRecord?_foldl_insert :
    firstRecord? (adapters.foldl insert s).adapters key =
      (firstRecord? s.adapters key).or (firstRecord? adapters key) := by
  induction adapters generalizing s with
  | nil => simp
  | cons b rest ih =>
    rw [List.foldl_cons, ih, firstRecord?_insert, firstRecord?_cons, Option.or_assoc]
    congr 1
    split <;> simp

/-- A set collected from a list is looked up as the list is. -/
@[simp] lemma firstRecord?_ofList :
    firstRecord? (ofList adapters).adapters key = firstRecord? adapters key := by
  rw [ofList, firstRecord?_foldl_insert]
  simp [empty]

/-- The members of a collected set are the first records of the adapters in the list. -/
lemma mem_ofList : a ∈ (ofList adapters).adapters ↔ firstRecord? adapters a.key = some a := by
  rw [mem_iff_firstRecord?, firstRecord?_ofList]

/-- A set collected from a list is empty exactly if the list is. -/
lemma isEmpty_ofList : (ofList adapters).isEmpty = adapters.isEmpty := by
  rw [Bool.eq_iff_iff, isEmpty, List.isEmpty_iff, List.isEmpty_iff]
  simp only [List.eq_nil_iff_forall_not_mem, mem_ofList]
  constructor
  · intro hnone a ha
    obtain ⟨c, hc⟩ := Option.isSome_iff_exists.1 (isSome_firstRecord?.2 ⟨a, ha, rfl⟩)
    exact hnone c (by rwa [key_of_firstRecord? hc])
  · intro hnone a hfirst
    exact hnone a (mem_of_firstRecord? hfirst)

/-- Collecting commutes with dropping adapters. -/
lemma ofList_filter (keep : List Char → Bool) :
    (ofList (adapters.filter fun a => keep a.key)).adapters =
      (ofList adapters).adapters.filter fun a => keep a.key := by
  refine (ofList _).increasing.eq_of_mem_iff ((ofList adapters).increasing.filter _) fun a => ?_
  rw [mem_ofList, firstRecord?_filter, List.mem_filter, mem_ofList]
  cases keep a.key <;> simp

/-- A set contains an identifier exactly if it has a record with its key. -/
lemma contains_iff {identifier : String} :
    s.contains identifier ↔ (firstRecord? s.adapters (identityKey identifier)).isSome := by
  simp [contains, isSome_firstRecord?]

/-- The difference keeps the records that the other set does not contain. -/
lemma difference_eq_filter :
    s.difference t = s.adapters.filter fun a => !t.contains a.identifier := by
  rw [difference, differenceRecords_eq_filter s.increasing t.increasing]
  refine List.filter_congr fun a _ => ?_
  rfl

/-- The difference is in order. -/
lemma pairwise_difference (s t : AdapterSet) : (s.difference t).Pairwise TapAdapter.Before := by
  rw [difference_eq_filter]
  exact s.increasing.sublist List.filter_sublist

end AdapterSet

/-! ### Adapters of the product -/

/-- No first record of an adapter satisfies `owned`. -/
def HasNoOwned (owned : TapAdapter → Bool) (adapters : List TapAdapter) : Prop :=
  ∀ a, firstRecord? adapters a.key = some a → owned a = false

/-- Among the first records of the adapters in a list, `a` is the one that satisfies `owned` and
precedes all others that do. -/
structure IsFirstOwned (owned : TapAdapter → Bool) (adapters : List TapAdapter) (a : TapAdapter) :
    Prop where
  first : firstRecord? adapters a.key = some a
  holds : owned a
  least : ∀ b, firstRecord? adapters b.key = some b → owned b → b = a ∨ a.Before b

section Owned

variable {owned : TapAdapter → Bool} {adapters : List TapAdapter} {a : TapAdapter}

/-- The record found in a collected set is the first owned one of the list. -/
lemma AdapterSet.find?_ofList_eq_some :
    (AdapterSet.ofList adapters).find? owned = some a ↔ IsFirstOwned owned adapters a := by
  rw [AdapterSet.find?, find?_eq_some_iff_of_pairwise (AdapterSet.ofList adapters).increasing]
  simp only [AdapterSet.mem_ofList]
  exact ⟨fun ⟨h₁, h₂, h₃⟩ => ⟨h₁, h₂, h₃⟩, fun ⟨h₁, h₂, h₃⟩ => ⟨h₁, h₂, h₃⟩⟩

/-- Nothing is found in a collected set exactly if the list has no owned first record. -/
lemma AdapterSet.find?_ofList_eq_none :
    (AdapterSet.ofList adapters).find? owned = none ↔ HasNoOwned owned adapters := by
  simp only [AdapterSet.find?, List.find?_eq_none, AdapterSet.mem_ofList, HasNoOwned,
    Bool.not_eq_true]

/-- Where some first record is owned, one of them precedes all others. -/
lemma exists_isFirstOwned (hfirst : firstRecord? adapters a.key = some a) (howned : owned a) :
    ∃ c, IsFirstOwned owned adapters c := by
  cases hfound : (AdapterSet.ofList adapters).find? owned with
  | some c => exact ⟨c, AdapterSet.find?_ofList_eq_some.1 hfound⟩
  | none =>
    have hnone := AdapterSet.find?_ofList_eq_none.1 hfound a hfirst
    rw [howned] at hnone
    cases hnone

end Owned

end TapTracker
