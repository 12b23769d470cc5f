import Mathlib.Data.List.Basic
import Mathlib.Tactic.Lemma
import TapTracker.Text.Decimal

/-!
# Decimal texts

The decimal text of a number is what `toString` makes of it: digits without a zero in front of
others (`head?_toDigits_ne`).  `paddedDecimal zeros n` is this text with zeros in front of it, and
is read as the number again, however long it is (`readDecimal_paddedDecimal`).
-/

namespace TapTracker.Text

/-- The decimal text of a number with zeros in front of it. -/
def paddedDecimal (zeros n : Nat) : String :=
  String.ofList (List.replicate zeros '0') ++ toString n

section Digits

variable {n : Nat}

/-- The text of a number is that of its decimal digits. -/
lemma toList_toString (n : Nat) : (toString n).toList = Nat.toDigits 10 n := by
  rw [Nat.toString_eq_repr, Nat.toList_repr]

/-- The padded text of a number is some zeros and then its decimal digits. -/
lemma toList_paddedDecimal (zeros n : Nat) :
    (paddedDecimal zeros n).toList = List.replicate zeros '0' ++ Nat.toDigits 10 n := by
  rw [paddedDecimal, String.toList_append, String.toList_ofList, toList_toString]

/-- Decimal digits are digits. -/
lemma isDigit_toDigits (n : Nat) : ∀ c ∈ Nat.toDigits 10 n, c.isDigit = true :=
  fun _ hc => Nat.isDigit_of_mem_toDigits (by decide) (by decide) hc

/-- Padded decimal digits are digits. -/
lemma isDigit_paddedDecimal (zeros n : Nat) :
    ∀ c ∈ (paddedDecimal zeros n).toList, c.isDigit = true := by
  intro c hc
  rw [toList_paddedDecimal, List.mem_append] at hc
  rcases hc with hzero | hdigit
  · rw [List.eq_of_mem_replicate hzero]
    rfl
  · exact isDigit_toDigits n c hdigit

/-- No zero stands in front of the decimal text of a positive number. -/
lemma head?_toDigits_ne (hn : 0 < n) : (Nat.toDigits 10 n).head? ≠ some '0' := by
  induction n using Nat.strongRecOn with
  | ind n ih =>
    by_cases hlt : n < 10
    · rw [Nat.toDigits_of_lt_base hlt, List.head?_cons, ne_eq, Option.some.injEq,
        Nat.digitChar_eq_zero]
      omega
    · -- The first digit of a longer text is that of a tenth of the number.
      have htenth : 0 < n / 10 := by omega
      rw [Nat.toDigits_of_base_le (by decide) (by omega), List.head?_append_of_ne_nil _
        Nat.toDigits_ne_nil]
      exact ih (n / 10) (by omega) htenth

/-- Decimal digits are read as the number that they are written for. -/
lemma readDecimal_paddedDecimal (zeros n : Nat) :
    readDecimal (paddedDecimal zeros n).toList = some n := by
  have hvalue : decimalValue (paddedDecimal zeros n).toList =
      Nat.ofDigitChars 10 (paddedDecimal zeros n).toList 0 := Nat.ofDigitChars_eq_foldl.symm
  have hne : (paddedDecimal zeros n).toList ≠ [] := by
    rw [toList_paddedDecimal]
    exact List.append_ne_nil_of_right_ne_nil _ Nat.toDigits_ne_nil
  have hall : (paddedDecimal zeros n).toList.all Char.isDigit = true :=
    List.all_eq_true.2 (isDigit_paddedDecimal zeros n)
  rw [readDecimal, if_pos ⟨hne, hall⟩, hvalue, toList_paddedDecimal, Nat.ofDigitChars_append,
    Nat.ofDigitChars_replicate_zero, Nat.mul_zero, Nat.ofDigitChars_ten_toDigits]

end Digits

end TapTracker.Text
