import Mathlib.Data.List.Basic
import Mathlib.Tactic.Lemma
import Mathlib.Tactic.SplitIfs

/-!
# Elements left out

What is left of a list without the first elements that have a property begins with an element that
does not have it (`eq_false_of_mem_head?_dropWhile`), and only such a list is left as it is
(`dropWhile_eq_self`).

Where every element is replaced by others with the same property, leaving out before and after comes
to the same (`dropWhile_flatMap`, `filter_flatMap_of_forall`).
-/

namespace TapTracker.Text

section Front

variable {α : Type} {p : α → Bool} {as : List α} {a : α}

/-- Nothing is left out if the first element stays. -/
lemma dropWhile_eq_self (h : ∀ a ∈ as.head?, p a = false) : as.dropWhile p = as := by
  cases as with
  | nil => rfl
  | cons a as =>
    have ha : ¬ p a = true := by
      rw [h a rfl]
      exact Bool.false_ne_true
    exact List.dropWhile_cons_of_neg ha

/-- The first element that is left has not got the property. -/
lemma eq_false_of_mem_head?_dropWhile (h : a ∈ (as.dropWhile p).head?) : p a = false := by
  have hnot := List.head?_dropWhile_not p as
  rw [Option.mem_def.1 h] at hnot
  exact hnot

end Front

section Replacement

variable {α β : Type} {p : β → Bool} {q : α → Bool} {f : α → List β}

/-- Elements at the front that are replaced by others can be left out before. -/
lemma dropWhile_flatMap (hne : ∀ a, f a ≠ []) (hp : ∀ a, ∀ b ∈ f a, p b = q a) (as : List α) :
    (as.flatMap f).dropWhile p = (as.dropWhile q).flatMap f := by
  induction as with
  | nil => rfl
  | cons a as ih =>
    rw [List.flatMap_cons, List.dropWhile_cons]
    split_ifs with ha
    · have hall : ∀ b ∈ f a, p b = true := fun b hb => (hp a b hb).trans ha
      rw [List.dropWhile_append_of_pos hall, ih]
    · obtain ⟨b, bs, hb⟩ := List.exists_cons_of_ne_nil (hne a)
      have hfront : ¬ p b = true := by
        rw [hp a b (by rw [hb]; exact List.mem_cons_self)]
        exact ha
      rw [List.flatMap_cons, hb, List.cons_append, List.dropWhile_cons_of_neg hfront]

/-- Elements that are replaced by others can be left out before. -/
lemma filter_flatMap_of_forall (hp : ∀ a, ∀ b ∈ f a, p b = q a) (as : List α) :
    (as.flatMap f).filter p = (as.filter q).flatMap f := by
  induction as with
  | nil => rfl
  | cons a as ih =>
    rw [List.flatMap_cons, List.filter_append, ih, List.filter_cons]
    split_ifs with ha
    · rw [List.filter_eq_self.2 fun b hb => (hp a b hb).trans ha, List.flatMap_cons]
    · have hnone : ∀ b ∈ f a, ¬ p b = true := fun b hb => by
        rw [hp a b hb]
        exact ha
      rw [List.filter_eq_nil_iff.2 hnone, List.nil_append]

end Replacement

end TapTracker.Text
