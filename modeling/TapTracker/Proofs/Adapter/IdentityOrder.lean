import TapTracker.Proofs.Adapter.Identity
import TapTracker.Proofs.Text.LowerCase

/-!
# The order of identifiers

`IsTotalOrder cmp` lists what is expected of a comparison by which elements are kept in order, when
different elements may be equal for it.  Texts are compared character by character, and the order
that this gives is the lexicographic one (`compare_eq_lt_iff`).  Identifiers are compared by their
lower-case forms, which may be longer than the identifiers themselves, so that their order is that
of these forms and not one of characters in equal places.

A lower-case form stays as it is in lower case.  Hence an identifier and its lower-case form have
the same key (`identityKey_lowerCase`), and may stand for each other in every comparison.
-/

namespace TapTracker

open TapTracker.Text

/-! ### Total orders -/

/-- The comparison is a total order, up to elements that are equal for it. -/
structure IsTotalOrder {α : Type} (cmp : α → α → Ordering) : Prop where
  refl : ∀ a, cmp a a = .eq
  trans : ∀ a b c, (cmp a b).isLE → (cmp b c).isLE → (cmp a c).isLE
  total : ∀ a b, (cmp a b).isLE ∨ (cmp b a).isLE
  antisymm : ∀ a b, (cmp a b).isLE → (cmp b a).isLE → cmp a b = .eq
  swap : ∀ a b, cmp b a = (cmp a b).swap
  /-- Elements that are equal for it may stand for each other. -/
  congr : ∀ a a' b b', cmp a a' = .eq → cmp b b' = .eq → cmp a b = cmp a' b'

section Orders

variable {α β : Type} {cmp : α → α → Ordering}

/-- A comparison that the library knows to be transitive is a total order. -/
lemma isTotalOrder_of_transCmp [Std.TransCmp cmp] : IsTotalOrder cmp where
  refl _ := Std.ReflCmp.compare_self
  trans _ _ _ := Std.TransCmp.isLE_trans
  total a b := by
    have hswap : cmp b a = (cmp a b).swap := Std.OrientedCmp.eq_swap
    rw [hswap]
    cases cmp a b with
    | lt | eq => exact .inl rfl
    | gt => exact .inr rfl
  antisymm _ _ := Std.OrientedCmp.isLE_antisymm
  swap _ _ := Std.OrientedCmp.eq_swap
  congr _ _ _ _ ha hb := (Std.TransCmp.congr_left ha).trans (Std.TransCmp.congr_right hb)

/-- What is compared by keys is ordered as the keys are. -/
lemma IsTotalOrder.comap (h : IsTotalOrder cmp) (key : β → α) :
    IsTotalOrder fun a b => cmp (key a) (key b) where
  refl a := h.refl (key a)
  trans a b c := h.trans (key a) (key b) (key c)
  total a b := h.total (key a) (key b)
  antisymm a b := h.antisymm (key a) (key b)
  swap a b := h.swap (key a) (key b)
  congr a a' b b' := h.congr (key a) (key a') (key b) (key b')

end Orders

/-! ### Keys -/

section Keys

variable {cs ds : List Char} {s t : String}

/-- The order of texts is the lexicographic order of their code points. -/
lemma compare_eq_lt_iff : compare cs ds = .lt ↔ cs < ds := by
  induction cs generalizing ds with
  | nil => cases ds <;> simp
  | cons c cs ih =>
    cases ds with
    | nil => simp
    | cons d ds =>
      have hchar : compare c d = .lt ↔ c < d := compareOfLessAndEq_eq_lt
      rw [List.compare_cons_cons, Ordering.then_eq_lt, ih, hchar, Std.compare_eq_iff_eq,
        List.cons_lt_cons_iff]

/-- An identifier and its lower-case form have the same key. -/
lemma identityKey_lowerCase : identityKey (lowerCase s) = identityKey s := by
  rw [identityKey, lowerCase, String.toList_ofList, lowerChars_lowerChars]
  rfl

/-- Lower case in the first identifier makes no difference to the comparison. -/
lemma compareIdentifiers_lowerCase_left :
    compareIdentifiers (lowerCase s) t = compareIdentifiers s t := by
  rw [compareIdentifiers, identityKey_lowerCase]
  rfl

/-- Lower case in the second identifier makes no difference to the comparison. -/
lemma compareIdentifiers_lowerCase_right :
    compareIdentifiers s (lowerCase t) = compareIdentifiers s t := by
  rw [compareIdentifiers, identityKey_lowerCase]
  rfl

end Keys

/-- The order of identifiers is the lexicographic order of their lower-case forms.  It is total, and
identifiers with the same form are those that are equal for it.  All comparisons of two records tell
the same, and tell it from the identifiers alone.  A record has the lower-case form of its
identifier, and lower-case forms may stand for identifiers in every comparison. -/
theorem compareIdentifiers_isTotalOrder :
    IsTotalOrder compareIdentifiers ∧
    (∀ s t : String,
      (compareIdentifiers s t = .lt ↔ lowerChars s.toList < lowerChars t.toList) ∧
      (compareIdentifiers s t = .eq ↔ lowerChars s.toList = lowerChars t.toList)) ∧
    (∀ a b : TapAdapter,
      compare a b = compareIdentifiers a.identifier b.identifier ∧
      a.partialCompare b = some (compare a b) ∧
      (a.sameAdapter b ↔ compare a b = .eq) ∧
      (a.hasIdentifier b.identifier ↔ compare a b = .eq)) ∧
    (∀ a : TapAdapter, a.hasIdentifier (lowerCase a.identifier)) ∧
    ∀ s t : String,
      compareIdentifiers (lowerCase s) t = compareIdentifiers s t ∧
      compareIdentifiers s (lowerCase t) = compareIdentifiers s t ∧
      compareIdentifiers (lowerCase s) (lowerCase t) = compareIdentifiers s t := by
  refine ⟨isTotalOrder_of_transCmp.comap identityKey,
    fun s t => ⟨compare_eq_lt_iff, compareIdentifiers_eq_iff⟩,
    fun a b => ⟨rfl, rfl, beq_iff_eq, beq_iff_eq⟩, fun a => ?_, fun s t => ⟨?_, ?_, ?_⟩⟩
  · rw [TapAdapter.hasIdentifier_iff, identityKey_lowerCase]
    rfl
  · exact compareIdentifiers_lowerCase_left
  · exact compareIdentifiers_lowerCase_right
  · rw [compareIdentifiers_lowerCase_left, compareIdentifiers_lowerCase_right]

/-- A capital I with a dot above is a small one with a dot of its own, two characters in place of
one, and comes after a plain one. -/
example :
    compareIdentifiers "\u0130" "i\u0307" = .eq ∧ compareIdentifiers "\u0130" "I" = .gt := by
  decide +kernel

end TapTracker
