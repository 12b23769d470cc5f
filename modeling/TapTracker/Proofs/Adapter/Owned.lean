import TapTracker.Proofs.Adapter.Set

/-!
# The records of the product

`ownedRecords owned adapters` are the records that a set collected from a list has of the adapters
of the product, in the order of the set.  The first of them is the one that is found in the set, and
taking an adapter out of the list takes its record out of them and leaves the others as they are
(`ownedRecords_filter`): no other record comes to light, and none changes its place.
-/

namespace TapTracker

/-- The records in a set collected from a list that belong to the product. -/
def ownedRecords (owned : TapAdapter → Bool) (adapters : List TapAdapter) : List TapAdapter :=
  (AdapterSet.ofList adapters).adapters.filter owned

section OwnedRecords

variable {owned : TapAdapter → Bool} {adapters rest : List TapAdapter} {a : TapAdapter}

/-- The records are in order. -/
lemma pairwise_ownedRecords : (ownedRecords owned adapters).Pairwise TapAdapter.Before :=
  (AdapterSet.ofList adapters).increasing.filter owned

/-- The first of the records is the one that is found. -/
lemma head?_ownedRecords :
    (ownedRecords owned adapters).head? = (AdapterSet.ofList adapters).find? owned :=
  List.head?_filter

/-- There is no such record exactly if no first record of an adapter is owned. -/
lemma ownedRecords_eq_nil : ownedRecords owned adapters = [] ↔ HasNoOwned owned adapters := by
  rw [← AdapterSet.find?_ofList_eq_none, ← head?_ownedRecords, List.head?_eq_none_iff]

/-- The first of the owned records is the one that a search for an owned record finds. -/
lemma isFirstOwned_of_ownedRecords (h : ownedRecords owned adapters = a :: rest) :
    IsFirstOwned owned adapters a := by
  rw [← AdapterSet.find?_ofList_eq_some, ← head?_ownedRecords, h, List.head?_cons]

/-- Taking one adapter out of a list takes its record out. -/
lemma ownedRecords_filter (identifier : String) :
    ownedRecords owned (adapters.filter fun c => !c.hasIdentifier identifier) =
      (ownedRecords owned adapters).filter fun c => !c.hasIdentifier identifier := by
  have hcollected : (AdapterSet.ofList (adapters.filter fun c =>
      !decide (c.key = identityKey identifier))).adapters =
        (AdapterSet.ofList adapters).adapters.filter fun c =>
          !decide (c.key = identityKey identifier) :=
    AdapterSet.ofList_filter fun key => !decide (key = identityKey identifier)
  simp only [ownedRecords, TapAdapter.hasIdentifier_eq_decide, hcollected, List.filter_filter,
    Bool.and_comm]

/-- Without its first adapter a list has the remaining records. -/
lemma ownedRecords_filter_of_cons (h : ownedRecords owned adapters = a :: rest) :
    ownedRecords owned (adapters.filter fun c => !c.hasIdentifier a.identifier) = rest := by
  have hordered : (ownedRecords owned adapters).Pairwise TapAdapter.Before :=
    pairwise_ownedRecords
  rw [h] at hordered
  obtain ⟨hbefore, -⟩ := List.pairwise_cons.1 hordered
  rw [ownedRecords_filter, h, List.filter_cons_of_neg (by simp)]
  refine List.filter_eq_self.2 fun c hc => ?_
  rw [Bool.not_eq_true', TapAdapter.hasIdentifier_eq_false]
  exact (hbefore c hc).key_ne.symm

/-- Taking out the adapter that has been added to a list gives the list back. -/
lemma filter_append_of_added {added : List TapAdapter} {identifier : String}
    (hold : ∀ d ∈ adapters, d.key ≠ identityKey identifier)
    (hadded : ∀ c ∈ added, c.key = identityKey identifier) :
    ((adapters ++ added).filter fun c => !c.hasIdentifier identifier) = adapters := by
  have hkept : (adapters.filter fun c => !c.hasIdentifier identifier) = adapters := by
    refine List.filter_eq_self.2 fun d hd => ?_
    rw [Bool.not_eq_true', TapAdapter.hasIdentifier_eq_false]
    exact hold d hd
  have htaken : (added.filter fun c => !c.hasIdentifier identifier) = [] := by
    refine List.filter_eq_nil_iff.2 fun c hc => ?_
    simp [hadded c hc]
  rw [List.filter_append, hkept, htaken, List.append_nil]

/-- Where no adapter belonged to the product, one that has come to the end of a list is the first
that does. -/
lemma isFirstOwned_append {added : List TapAdapter} (hnone : HasNoOwned owned adapters)
    (hadded : ∀ c ∈ added, c.key = a.key)
    (hfirst : firstRecord? (adapters ++ added) a.key = some a) (howned : owned a) :
    IsFirstOwned owned (adapters ++ added) a := by
  refine ⟨hfirst, howned, fun c hc hcowned => Or.inl ?_⟩
  have hplace := hc
  rw [firstRecord?_append, Option.or_eq_some_iff] at hplace
  rcases hplace with hold | ⟨-, hnew⟩
  · rw [hnone c hold] at hcowned
    cases hcowned
  · rw [hadded c (mem_of_firstRecord? hnew), hfirst] at hc
    exact (Option.some_inj.1 hc).symm

end OwnedRecords

end TapTracker
