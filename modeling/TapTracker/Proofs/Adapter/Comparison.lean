import Mathlib.Tactic.TFAE
import TapTracker.Proofs.Adapter.Set

/-!
# Comparing two sets

Two sets are compared in two ways.  `difference` and `sameAdapters` walk both of them in their
common order, and `contains` scans one of them for an identifier.  `AdapterSet.difference_agrees`
says that the two ways agree on every pair of sets.

Behind it stand the `keys` of a set.  Equality compares them place by place
(`AdapterSet.sameAdapters_iff_keys_eq`), and as they are in increasing order in both sets, it is
enough that both sets have the same ones (`AdapterSet.keys_eq_iff`); which keys a set has is what a
scan of it tells (`AdapterSet.mem_keys_iff`).
-/

namespace TapTracker

/-- Two lists agree place by place exactly if they have the same keys in the same order. -/
lemma all_zip_sameAdapter_iff {adapters others : List TapAdapter} :
    (adapters.length = others.length ∧
      (adapters.zip others).all fun (a, b) => a.sameAdapter b) ↔
      adapters.map TapAdapter.key = others.map TapAdapter.key := by
  induction adapters generalizing others with
  | nil => cases others <;> simp
  | cons a rest ih =>
    cases others with
    | nil => simp
    | cons b others =>
      simp only [List.map_cons, List.cons.injEq, ← ih, List.zip_cons_cons, List.all_cons,
        Bool.and_eq_true, TapAdapter.sameAdapter_eq_decide, decide_eq_true_iff, List.length_cons,
        Nat.add_right_cancel_iff]
      exact and_left_comm

namespace AdapterSet

variable {s t : AdapterSet} {identifier : String}

/-! ### Keys -/

/-- The keys of the records, in order. -/
def keys (s : AdapterSet) : List (List Char) := s.adapters.map TapAdapter.key

/-- A set contains an identifier exactly if the key of the identifier is one of its keys. -/
lemma mem_keys_iff : identityKey identifier ∈ s.keys ↔ s.contains identifier := by
  rw [contains_iff, isSome_firstRecord?, keys, List.mem_map]

/-- The keys of a set are in increasing order. -/
lemma pairwise_keys (s : AdapterSet) : s.keys.Pairwise fun k l => compare k l = .lt :=
  List.pairwise_map.2 s.increasing

/-- The order of keys goes one way. -/
lemma compare_key_asymm {k l : List Char} (h : compare k l = .lt) : compare l k ≠ .lt :=
  Std.OrientedCmp.not_lt_of_lt h

/-- The keys of a set are different ones. -/
lemma nodup_keys (s : AdapterSet) : s.keys.Nodup :=
  List.pairwise_map.2 (s.increasing.imp TapAdapter.Before.key_ne)

/-- Two sets with the same keys have them in the same order. -/
lemma keys_eq_iff : s.keys = t.keys ↔ ∀ key, key ∈ s.keys ↔ key ∈ t.keys := by
  refine ⟨fun h key => by rw [h], fun h => ?_⟩
  have hperm : s.keys.Perm t.keys := (List.perm_ext_iff_of_nodup s.nodup_keys t.nodup_keys).2 h
  exact hperm.eq_of_pairwise (fun k l _ _ hkl hlk => absurd hlk (compare_key_asymm hkl))
    s.pairwise_keys t.pairwise_keys

/-- Two sets are equal exactly if they have the same keys. -/
lemma sameAdapters_iff_keys_eq : s.sameAdapters t ↔ s.keys = t.keys := by
  rw [sameAdapters, Bool.and_eq_true, beq_iff_eq]
  exact all_zip_sameAdapter_iff

/-- The keys of one set are keys of another exactly if the other contains its identifiers. -/
lemma forall_mem_keys_iff :
    (∀ key ∈ s.keys, key ∈ t.keys) ↔ ∀ a ∈ s.adapters, t.contains a.identifier := by
  rw [keys, List.forall_mem_map]
  exact forall₂_congr fun a _ => mem_keys_iff

/-! ### Differences -/

/-- What is in the difference of two sets is what a scan of the other set does not find. -/
lemma mem_difference {a : TapAdapter} :
    a ∈ s.difference t ↔ a ∈ s.adapters ∧ t.contains a.identifier = false := by
  rw [difference_eq_filter, List.mem_filter, Bool.not_eq_true']

/-- Nothing is in the difference exactly if a scan of the other set finds everything. -/
lemma difference_eq_nil_iff :
    s.difference t = [] ↔ ∀ a ∈ s.adapters, t.contains a.identifier := by
  rw [difference_eq_filter, List.filter_eq_nil_iff]
  refine forall₂_congr fun a _ => ?_
  rw [Bool.not_eq_true', Bool.not_eq_false]

/-- The records of a set are those in the difference and those that the other set contains. -/
lemma size_eq_length_difference_add :
    s.size = (s.difference t).length +
      (s.adapters.filter fun a => t.contains a.identifier).length := by
  rw [size, difference_eq_filter, Nat.add_comm]
  exact List.length_eq_length_filter_add _

/-- The walks over two sets agree with the scans of them.  A difference has exactly the records
whose identifiers a scan of the other set does not find, as they are, in increasing order and once
each; the others make up the rest of the set.  Two sets are equal exactly if both differences are
empty, that is if a scan of each set finds every identifier in the other, that is if the scans of
the two sets find the same identifiers. -/
theorem difference_agrees (s t : AdapterSet) :
    (∀ a, a ∈ s.difference t ↔ a ∈ s.adapters ∧ t.contains a.identifier = false) ∧
    ((s.difference t).Pairwise fun a b => compareIdentifiers a.identifier b.identifier = .lt) ∧
    (s.difference t).Nodup ∧
    s.size = (s.difference t).length +
      (s.adapters.filter fun a => t.contains a.identifier).length ∧
    List.TFAE
      [s.sameAdapters t,
       s.difference t = [] ∧ t.difference s = [],
       (∀ a ∈ s.adapters, t.contains a.identifier) ∧ ∀ b ∈ t.adapters, s.contains b.identifier,
       ∀ identifier, s.contains identifier = t.contains identifier] := by
  have hordered : (s.difference t).Pairwise TapAdapter.Before := pairwise_difference s t
  refine ⟨fun a => mem_difference, hordered, hordered.imp fun hab => ?_,
    size_eq_length_difference_add, ?_⟩
  · rintro rfl
    exact hab.key_ne rfl
  · -- The keys of a set are what its scans find, and sets with the same keys are the same.
    tfae_have 1 → 4 := by
      intro hsame identifier
      rw [sameAdapters_iff_keys_eq] at hsame
      rw [Bool.eq_iff_iff, ← mem_keys_iff, ← mem_keys_iff, hsame]
    tfae_have 4 → 3 := by
      intro hscans
      have hself (u : AdapterSet) : ∀ a ∈ u.adapters, u.contains a.identifier := fun a ha =>
        mem_keys_iff.1 (List.mem_map_of_mem ha)
      refine ⟨fun a ha => ?_, fun b hb => ?_⟩
      · rw [← hscans]
        exact hself s a ha
      · rw [hscans]
        exact hself t b hb
    tfae_have 3 ↔ 2 := by
      rw [difference_eq_nil_iff, difference_eq_nil_iff]
    tfae_have 3 → 1 := by
      rintro ⟨hst, hts⟩
      rw [sameAdapters_iff_keys_eq, keys_eq_iff]
      exact fun key => ⟨forall_mem_keys_iff.2 hst key, forall_mem_keys_iff.2 hts key⟩
    tfae_finish

end AdapterSet

end TapTracker
