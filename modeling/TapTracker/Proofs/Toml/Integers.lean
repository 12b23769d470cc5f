import TapTracker.Proofs.Text.Decimal
import TapTracker.Proofs.Toml.Lines

/-!
# Integers in documents

The decimal text of an integer, with a hyphen in front of it if the integer is negative, stands for
this integer in a document, however long it is (`isWritten_toString`).  Decimal digits are grouped
digits without groups (`natural?_of_isDigit`), and no other way to write a number is met first:
numbers in other bases have a letter after a zero.
-/

namespace TapTracker.Toml

section Digits

variable {c : Char} {cs : List Char} {n : Nat}

/-- A decimal digit has its value as a hexadecimal digit too. -/
lemma hexValue?_of_isDigit (hc : c.isDigit = true) : hexValue? c = some (c.toNat - '0'.toNat) := by
  rw [Char.isDigit, Bool.and_eq_true, decide_eq_true_iff, decide_eq_true_iff] at hc
  exact if_pos hc

/-- The value of a decimal digit is below ten. -/
lemma any_hexValue?_of_isDigit (hc : c.isDigit = true) :
    (hexValue? c).any (· < 10) = true := by
  have hle : c.toNat ≤ 57 := (Char.isDigit_iff_toNat.1 hc).2
  rw [hexValue?_of_isDigit hc, Option.any_some, decide_eq_true_iff]
  change c.toNat - 48 < 10
  omega

/-- Digits without underscores stay as they are. -/
lemma ungroup_of_forall {isDigit : Char → Bool} (h : ∀ c ∈ cs, isDigit c = true) :
    ungroup isDigit true cs = some cs := by
  induction cs with
  | nil => rfl
  | cons c cs ih =>
    obtain ⟨hc, hcs⟩ := List.forall_mem_cons.1 h
    rw [ungroup, if_pos hc, ih hcs]
    rfl

/-- The value of decimal digits is the number that they write. -/
lemma digitsValue_of_isDigit (h : ∀ c ∈ cs, c.isDigit = true) :
    digitsValue 10 cs = Nat.ofDigitChars 10 cs 0 := by
  rw [digitsValue, Nat.ofDigitChars_eq_foldl]
  refine List.foldl_ext _ _ _ fun n c hc => ?_
  rw [hexValue?_of_isDigit (h c hc), Option.getD_some, Nat.mul_comm]

/-- Decimal digits are read as their number. -/
lemma natural?_of_isDigit (hne : cs ≠ []) (h : ∀ c ∈ cs, c.isDigit = true) :
    natural? 10 cs = some (Nat.ofDigitChars 10 cs 0) := by
  obtain ⟨c, cs, rfl⟩ := List.exists_cons_of_ne_nil hne
  have hall : ∀ d ∈ c :: cs, (hexValue? d).any (· < 10) = true := fun d hd =>
    any_hexValue?_of_isDigit (h d hd)
  obtain ⟨hc, hcs⟩ := List.forall_mem_cons.1 hall
  rw [natural?, ungroup, if_pos hc, ungroup_of_forall hcs, ← digitsValue_of_isDigit h]
  rfl

/-- The digits of a number have no leading zero. -/
lemma hasLeadingZero_toDigits (n : Nat) : hasLeadingZero (Nat.toDigits 10 n) = false := by
  rcases Nat.eq_zero_or_pos n with rfl | hn
  · rfl
  · have hhead := Text.head?_toDigits_ne hn
    rw [hasLeadingZero.eq_def]
    split
    next hzero =>
      rw [hzero] at hhead
      exact absurd rfl hhead
    next => rfl

/-- The digits of a number are read as the number. -/
lemma decimal?_toDigits (n : Nat) : decimal? (Nat.toDigits 10 n) = some n := by
  rw [decimal?, hasLeadingZero_toDigits, if_neg Bool.false_ne_true,
    natural?_of_isDigit Nat.toDigits_ne_nil (Text.isDigit_toDigits n),
    Nat.ofDigitChars_ten_toDigits]

/-- Digits have no sign. -/
lemma splitSign_of_isDigit (h : ∀ c ∈ cs, c.isDigit = true) : splitSign cs = (none, cs) := by
  rw [splitSign.eq_def]
  split
  next => exact absurd (h '+' List.mem_cons_self) (by decide)
  next => exact absurd (h '-' List.mem_cons_self) (by decide)
  next => rfl

/-- The digits of a number are read as an integer. -/
lemma integer?_toDigits (n : Nat) : integer? (Nat.toDigits 10 n) = some (Int.ofNat n) := by
  have hdigits := Text.isDigit_toDigits n
  have hletter {c : Char} {cs : List Char} (heq : Nat.toDigits 10 n = '0' :: c :: cs) :
      c.isDigit = true :=
    hdigits c (heq ▸ List.mem_cons_of_mem _ List.mem_cons_self)
  rw [integer?.eq_def]
  split
  next heq => exact absurd (hletter heq) (by decide)
  next heq => exact absurd (hletter heq) (by decide)
  next heq => exact absurd (hletter heq) (by decide)
  next =>
    rw [splitSign_of_isDigit hdigits]
    dsimp only
    rw [decimal?_toDigits]
    rfl

/-- The digits of a number after a hyphen are read with the other sign. -/
lemma integer?_hyphen_toDigits (n : Nat) :
    integer? ('-' :: Nat.toDigits 10 n) = some (-Int.ofNat n) := by
  change (decimal? (Nat.toDigits 10 n)).map _ = _
  rw [decimal?_toDigits]
  rfl

end Digits

/-- A text that is read as an integer is written for it, if it needs no quotation marks. -/
lemma isWritten_of_integer? {text : String} {cs : List Char} {z : Int} (hchars : text.toList = cs)
    (hne : cs ≠ []) (hbare : ∀ c ∈ cs, isBareKeyChar c = true) (h : integer? cs = some z) :
    IsWritten text (.integer z) := by
  subst hchars
  refine .word ⟨?_, List.all_eq_true.2 hbare⟩ ?_
  · rintro rfl
    exact hne rfl
  · -- The words for truth values are no integers.
    rw [Value.ofWord, if_neg, if_neg, h]
    · intro heq
      rw [heq] at h
      cases h
    · intro heq
      rw [heq] at h
      cases h

/-- The decimal text of an integer is written for it. -/
lemma isWritten_toString (z : Int) : IsWritten (toString z) (.integer z) := by
  have hbare (n : Nat) : ∀ c ∈ Nat.toDigits 10 n, isBareKeyChar c = true := fun c hc => by
    rw [isBareKeyChar, Char.isAlphanum, Text.isDigit_toDigits n c hc, Bool.or_true, Bool.true_or,
      Bool.true_or]
  cases z with
  | ofNat n =>
    exact isWritten_of_integer? (Text.toList_toString n) Nat.toDigits_ne_nil (hbare n)
      (integer?_toDigits n)
  | negSucc n =>
    have hchars : (toString (Int.negSucc n)).toList = '-' :: Nat.toDigits 10 (n + 1) := by
      rw [← Text.toList_toString]
      exact String.toList_append
    exact isWritten_of_integer? hchars (List.cons_ne_nil _ _)
      (List.forall_mem_cons.2 ⟨rfl, hbare (n + 1)⟩) (integer?_hyphen_toDigits (n + 1))

/-- The decimal text of a natural number is written for it. -/
lemma isWritten_toString_nat (n : Nat) : IsWritten (toString n) (.integer (Int.ofNat n)) :=
  isWritten_toString (Int.ofNat n)

end TapTracker.Toml
