import Mathlib.Order.Defs.LinearOrder
import Mathlib.Tactic.Lemma
import TapTracker.Adapter.Set

/-!
# Identity of adapters

Two records are about the same adapter exactly if their identifiers have the same key, the
lower-case form that identifiers are compared by.  This file reduces every comparison of records
(`compare`, `hasIdentifier`, `sameAdapter`, `Before`) to their keys, so that later files speak of
keys only.
-/

namespace TapTracker

/-- What a record is identified by. -/
def TapAdapter.key (a : TapAdapter) : List Char :=
  identityKey a.identifier

/-- Two identifiers compare as equal exactly if they have the same key. -/
lemma compareIdentifiers_eq_iff {s t : String} :
    compareIdentifiers s t = .eq ↔ identityKey s = identityKey t :=
  Std.compare_eq_iff_eq

/-- The order of identifiers goes one way. -/
lemma compareIdentifiers_asymm {s t : String} (h : compareIdentifiers s t = .lt) :
    compareIdentifiers t s ≠ .lt := by
  rw [compareIdentifiers] at h ⊢
  exact Std.OrientedCmp.not_lt_of_lt h

/-- Identifiers in increasing order are different ones. -/
lemma nodup_of_pairwise_compareIdentifiers {identifiers : List String}
    (h : identifiers.Pairwise fun s t => compareIdentifiers s t = .lt) : identifiers.Nodup := by
  refine h.imp fun {s t} hst => ?_
  rintro rfl
  exact compareIdentifiers_asymm hst hst

namespace TapAdapter

variable {a b c : TapAdapter} {identifier : String}

/-- Records are compared by their keys. -/
lemma compare_eq_compare_key : compare a b = compare a.key b.key := rfl

/-- The key of a record is that of its identifier. -/
@[simp] lemma identityKey_identifier : identityKey a.identifier = a.key := rfl

/-- The record has an identifier exactly if the identifier has the key of the record. -/
@[simp] lemma hasIdentifier_eq_decide :
    a.hasIdentifier identifier = decide (a.key = identityKey identifier) := by
  rw [Bool.eq_iff_iff, hasIdentifier, beq_iff_eq, compareIdentifiers_eq_iff, decide_eq_true_iff,
    key]

/-- A record has an identifier exactly if they have the same key. -/
lemma hasIdentifier_iff : a.hasIdentifier identifier ↔ a.key = identityKey identifier := by
  rw [hasIdentifier_eq_decide, decide_eq_true_iff]

/-- A record does not have an identifier exactly if their keys differ. -/
lemma hasIdentifier_eq_false :
    a.hasIdentifier identifier = false ↔ a.key ≠ identityKey identifier := by
  rw [hasIdentifier_eq_decide, decide_eq_false_iff_not]

/-- Two records are about the same adapter exactly if they have the same key. -/
@[simp] lemma sameAdapter_eq_decide : a.sameAdapter b = decide (a.key = b.key) := by
  rw [Bool.eq_iff_iff, sameAdapter, beq_iff_eq, compare_eq_compare_key, Std.compare_eq_iff_eq,
    decide_eq_true_iff]

/-! ### The order of records -/

/-- What precedes a record precedes also what comes after it. -/
lemma Before.trans (hab : a.Before b) (hbc : b.Before c) : a.Before c :=
  Std.TransCmp.lt_trans hab hbc

/-- A record that precedes another one is about another adapter. -/
lemma Before.key_ne (h : a.Before b) : a.key ≠ b.key := by
  intro hkey
  rw [Before, compare_eq_compare_key, Std.compare_eq_iff_eq.2 hkey] at h
  cases h

/-- No two records precede each other. -/
lemma Before.asymm (h : a.Before b) : ¬ b.Before a :=
  fun h' => (h.trans h').key_ne rfl

instance : Std.Irrefl Before := ⟨fun _ h => h.key_ne rfl⟩

instance : Std.Antisymm Before := ⟨fun _ _ h h' => absurd h' h.asymm⟩

/-- Records of different adapters are ordered one way or the other. -/
lemma before_or_before (h : a.key ≠ b.key) : a.Before b ∨ b.Before a := by
  cases hcmp : compare a b with
  | lt => exact Or.inl hcmp
  | eq =>
    rw [compare_eq_compare_key, Std.compare_eq_iff_eq] at hcmp
    exact absurd hcmp h
  | gt => exact Or.inr (Std.OrientedCmp.lt_of_gt hcmp)

end TapAdapter

end TapTracker
