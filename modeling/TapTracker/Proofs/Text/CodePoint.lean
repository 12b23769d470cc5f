import Mathlib.Tactic.Lemma

/-!
# Characters and code points

A character is determined by its code point.  Every number outside the surrogates and below the
limit is the code point of a character (`toNat_ofNat_of_isValidChar`), and those below 128 are so
few that what is said of their characters can be checked one by one (`forall_ascii`).
-/

namespace TapTracker.Text

/-- A valid code point is the code point of its character. -/
lemma toNat_ofNat_of_isValidChar {n : Nat} (h : n.isValidChar) : (Char.ofNat n).toNat = n := by
  rw [Char.ofNat, dif_pos h]
  rfl

/-- The code point of a character is below the surrogates or above them. -/
lemma toNat_lt_or_lt (c : Char) :
    c.toNat < 0xD800 ∨ 0xDFFF < c.toNat ∧ c.toNat < 0x110000 := c.valid

/-- What is true of every code point of ASCII is true of every character there. -/
lemma forall_ascii {P : Char → Prop} (h : ∀ n < 128, P (Char.ofNat n)) {c : Char}
    (hc : c.toNat < 128) : P c := by
  rw [← Char.ofNat_toNat c]
  exact h c.toNat hc

end TapTracker.Text
