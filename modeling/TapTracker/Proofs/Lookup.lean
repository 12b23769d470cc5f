import Mathlib.Data.List.Nodup
import Mathlib.Tactic.Lemma

/-!
# Look-ups in lists with distinct keys

Where no key occurs twice in a list, the first element with a key is the only one
(`find?_key_eq_some_iff`), and it does not depend on the order of the list (`find?_key_eq_of_perm`).
What is found in two lists that are related element by element is related (`rel_find?`).
-/

namespace TapTracker

section Lookup

variable {α κ : Type} [DecidableEq κ] {f : α → κ} {l l' : List α} {a : α} {key : κ}

/-- With distinct keys, what is found under a key is the element that has it. -/
lemma find?_key_eq_some_iff (hdistinct : (l.map f).Nodup) :
    l.find? (f · == key) = some a ↔ a ∈ l ∧ f a = key := by
  constructor
  · intro h
    have hkey := List.find?_some h
    exact ⟨List.mem_of_find?_eq_some h, beq_iff_eq.1 hkey⟩
  · rintro ⟨hmem, rfl⟩
    cases hfind : l.find? (f · == f a) with
    | none =>
      have hall := List.find?_eq_none.1 hfind a hmem
      rw [beq_self_eq_true] at hall
      exact absurd rfl hall
    | some b =>
      have hb := List.find?_some hfind
      rw [List.inj_on_of_nodup_map hdistinct (List.mem_of_find?_eq_some hfind) hmem
        (beq_iff_eq.1 hb)]

/-- Nothing is found under a key exactly if no element has it. -/
lemma find?_key_eq_none_iff : l.find? (f · == key) = none ↔ ∀ a ∈ l, f a ≠ key := by
  simp only [List.find?_eq_none, beq_iff_eq, ne_eq]

/-- With distinct keys, the order of the elements makes no difference. -/
lemma find?_key_eq_of_perm (hperm : l.Perm l') (hdistinct : (l.map f).Nodup) :
    l.find? (f · == key) = l'.find? (f · == key) := by
  have hdistinct' : (l'.map f).Nodup := (hperm.map f).nodup_iff.1 hdistinct
  refine Option.ext fun a => ?_
  rw [find?_key_eq_some_iff hdistinct, find?_key_eq_some_iff hdistinct', hperm.mem_iff]

end Lookup

section Related

variable {α β : Type} {R : α → β → Prop} {p : α → Bool} {q : β → Bool} {l : List α} {l' : List β}
  {a : α} {b : β}

/-- In lists that are related element by element, related elements are found. -/
lemma rel_find? (h : List.Forall₂ R l l') (hpq : ∀ {a b}, R a b → p a = q b) :
    Option.Rel R (l.find? p) (l'.find? q) := by
  induction h with
  | nil => exact .none
  | @cons a b l l' hab _ ih =>
    rw [List.find?_cons, List.find?_cons, hpq hab]
    cases q b with
    | false => exact ih
    | true => exact .some hab

/-- What is found in the first list has its counterpart found in the second one. -/
lemma exists_find?_right (h : List.Forall₂ R l l') (hpq : ∀ {a b}, R a b → p a = q b)
    (hfind : l.find? p = some a) : ∃ b, l'.find? q = some b ∧ R a b := by
  have hrel := rel_find? h hpq
  rw [hfind] at hrel
  cases hfound : l'.find? q with
  | none =>
    rw [hfound] at hrel
    cases hrel
  | some b =>
    rw [hfound] at hrel
    cases hrel with
    | some hab => exact ⟨b, rfl, hab⟩

/-- What is found in the second list has its counterpart found in the first one. -/
lemma exists_find?_left (h : List.Forall₂ R l l') (hpq : ∀ {a b}, R a b → p a = q b)
    (hfind : l'.find? q = some b) : ∃ a, l.find? p = some a ∧ R a b := by
  have hrel := rel_find? h hpq
  rw [hfind] at hrel
  cases hfound : l.find? p with
  | none =>
    rw [hfound] at hrel
    cases hrel
  | some a =>
    rw [hfound] at hrel
    cases hrel with
    | some hab => exact ⟨a, rfl, hab⟩

end Related

end TapTracker
