import Mathlib.Data.List.Forall2
import Mathlib.Data.List.SplitLengths
import Mathlib.Data.Nat.Digits.Defs
import Mathlib.Tactic.NormNum
import Mathlib.Tactic.Ring
import TapTracker.Proofs.Adapter.Identity
import TapTracker.Proofs.Text.LeftOut
import TapTracker.Proofs.Text.LowerCase
import TapTracker.Windows.Guid

/-!
# Written identifiers

A globally unique identifier is written as a hexadecimal number of 32 digits.  What a text says is
fixed here apart from how it is read: `IsInner` takes off the braces around it, `WritesDigit` is
the table of the digits, and a text denotes the number that its digits have in base 16
(`ofText?_eq_some_iff`).  The number of digits bounds the number, so that no digit is lost in the
128 bits.

The usual way to write an identifier is `grouped`: the digits in groups of 8, 4, 4, 4 and 12.

The digits and the marks around them are characters of ASCII, and lower case respects them: the
marks because they are no letters, and the digits because the only letters that come from outside
of ASCII are k and i.  So texts with the same lower-case form denote the same
(`ofText?_eq_of_identityKey_eq`).
-/

namespace TapTracker.Windows.Guid

open TapTracker.Text

/-! ### What a text says -/

/-- The text inside all opening braces in front and all closing braces at the end. -/
structure IsInner (cs inner : List Char) : Prop where
  eq : ∃ m n, cs = List.replicate m '{' ++ inner ++ List.replicate n '}'
  head : inner.head? ≠ some '{'
  last : inner.getLast? ≠ some '}'

/-- The digits in order, with small letters. -/
def smallDigits : List Char :=
  ['0', '1', '2', '3', '4', '5', '6', '7', '8', '9', 'a', 'b', 'c', 'd', 'e', 'f']

/-- The digits in order, with capital letters. -/
def capitalDigits : List Char :=
  ['0', '1', '2', '3', '4', '5', '6', '7', '8', '9', 'A', 'B', 'C', 'D', 'E', 'F']

/-- The characters that are digits. -/
def hexDigits : List Char :=
  smallDigits ++ capitalDigits

/-- The character is the digit with the given value. -/
def WritesDigit (d : Nat) (c : Char) : Prop :=
  smallDigits[d]? = some c ∨ capitalDigits[d]? = some c

instance (d : Nat) (c : Char) : Decidable (WritesDigit d c) := by
  unfold WritesDigit; infer_instance

/-- The digits of the identifier in groups. -/
def grouped (g : Guid) : String :=
  String.ofList (['-'].intercalate ([8, 4, 4, 4, 12].splitLengths g.hexText.toList))

/-- The digits of the identifier in groups and in braces. -/
def braced (g : Guid) : String :=
  "\x7b" ++ g.grouped ++ "\x7d"

/-! ### Digits and numbers -/

section Digits

variable {c : Char} {cs : List Char} {d n m : Nat} {ds : List Nat}

/-- A digit is below 16. -/
lemma WritesDigit.lt (h : WritesDigit d c) : d < 16 := by
  rcases h with h | h
  · exact (List.getElem?_eq_some_iff.1 h).1
  · exact (List.getElem?_eq_some_iff.1 h).1

/-- A character that writes a digit is one of the digits. -/
lemma WritesDigit.mem (h : WritesDigit d c) : c ∈ hexDigits :=
  List.mem_append.2 (h.imp List.mem_of_getElem? List.mem_of_getElem?)

/-- Each of the digits writes some digit. -/
lemma exists_writesDigit (hc : c ∈ hexDigits) : ∃ d, WritesDigit d c := by
  rcases List.mem_append.1 hc with hc | hc
  · obtain ⟨d, hd⟩ := List.getElem?_of_mem hc
    exact ⟨d, .inl hd⟩
  · obtain ⟨d, hd⟩ := List.getElem?_of_mem hc
    exact ⟨d, .inr hd⟩

/-- The hexadecimal digits are in ASCII. -/
lemma toNat_lt_of_mem_hexDigits (hc : c ∈ hexDigits) : c.toNat < 128 := by
  have hall : hexDigits.all (fun c => c.toNat < 128) = true := by decide
  exact of_decide_eq_true (List.all_eq_true.1 hall c hc)

/-- A character that has a value as a digit is in ASCII. -/
lemma toNat_lt_of_digitValue? (h : digitValue? c = some d) : c.toNat < 128 := by
  rw [digitValue?] at h
  split_ifs at h with hdecimal hsmall hcapital
  · have hc : c.toNat ≤ '9'.toNat := hdecimal.2
    exact hc.trans_lt (by decide)
  · have hc : c.toNat ≤ 'f'.toNat := hsmall.2
    exact hc.trans_lt (by decide)
  · have hc : c.toNat ≤ 'F'.toNat := hcapital.2
    exact hc.trans_lt (by decide)

/-- A character has a value as a digit exactly if it writes the digit. -/
lemma digitValue?_eq_some_iff : digitValue? c = some d ↔ WritesDigit d c := by
  constructor
  · intro h
    exact forall_ascii (P := fun c => ∀ d ∈ digitValue? c, WritesDigit d c) (by decide +kernel)
      (toNat_lt_of_digitValue? h) d h
  · rintro (h | h)
    · obtain ⟨hd, rfl⟩ := List.getElem?_eq_some_iff.1 h
      have htable : ∀ d : Fin 16, digitValue? (smallDigits.get d) = some d.val := by decide
      exact htable ⟨d, hd⟩
    · obtain ⟨hd, rfl⟩ := List.getElem?_eq_some_iff.1 h
      have htable : ∀ d : Fin 16, digitValue? (capitalDigits.get d) = some d.val := by decide
      exact htable ⟨d, hd⟩

/-- Digits are read as the number that they denote after what is before them. -/
lemma hexValue?_eq_some_iff :
    hexValue? n cs = some m ↔
      ∃ ds, List.Forall₂ WritesDigit ds cs ∧
        m = 16 ^ ds.length * n + Nat.ofDigits 16 ds.reverse := by
  -- Every digit changes the number that has been read before the rest, so this number varies.
  induction cs generalizing n with
  | nil =>
    rw [hexValue?, Option.some_inj]
    constructor
    · rintro rfl
      exact ⟨[], .nil, by simp⟩
    · rintro ⟨ds, hds, rfl⟩
      obtain rfl := List.forall₂_nil_right_iff.1 hds
      simp
  | cons c cs ih =>
    rw [hexValue?]
    constructor
    · intro h
      cases hd : digitValue? c with
      | none =>
        rw [hd] at h
        cases h
      | some d =>
        rw [hd] at h
        obtain ⟨ds, hds, rfl⟩ := ih.1 h
        refine ⟨d :: ds, .cons (digitValue?_eq_some_iff.1 hd) hds, ?_⟩
        rw [Nat.ofDigits_reverse_cons, List.length_cons, pow_succ]
        ring
    · rintro ⟨ds, hds, rfl⟩
      obtain ⟨d, rest, hd, hrest, rfl⟩ := List.forall₂_cons_right_iff.1 hds
      rw [digitValue?_eq_some_iff.2 hd]
      refine ih.2 ⟨rest, hrest, ?_⟩
      rw [Nat.ofDigits_reverse_cons, List.length_cons, pow_succ]
      ring

/-- The number that 32 digits denote has a place in 128 bits. -/
lemma ofDigits_lt (hds : List.Forall₂ WritesDigit ds cs) (hlength : ds.length = 32) :
    Nat.ofDigits 16 ds.reverse < 2 ^ 128 := by
  have hlt : ∀ d ∈ ds, d < 16 :=
    ((List.forall₂_and_left ds cs).1 (hds.imp fun _ _ h => ⟨h.lt, h⟩)).1
  have hbound := Nat.ofDigits_lt_base_pow_length (by decide)
    fun d hd => hlt d (List.mem_reverse.1 hd)
  rw [List.length_reverse, hlength] at hbound
  exact hbound.trans_eq (by norm_num)

end Digits

/-! ### Braces -/

section Braces

variable {cs inner : List Char} {c : Char}

/-- Copies of a character are dropped up to another one. -/
lemma dropWhile_replicate_append (hhead : cs.head? ≠ some c) (n : Nat) :
    (List.replicate n c ++ cs).dropWhile (· = c) = cs := by
  have hall : ∀ a ∈ List.replicate n c, decide (a = c) = true := fun a ha =>
    decide_eq_true (List.eq_of_mem_replicate ha)
  rw [List.dropWhile_append_of_pos hall]
  refine dropWhile_eq_self fun a ha => decide_eq_false ?_
  rintro rfl
  exact hhead ha

/-- What is dropped at the beginning of a text are copies of the character. -/
lemma exists_replicate_append (c : Char) (cs : List Char) :
    ∃ n, cs = List.replicate n c ++ cs.dropWhile (· = c) := by
  induction cs with
  | nil => exact ⟨0, rfl⟩
  | cons a cs ih =>
    by_cases ha : a = c
    · obtain ⟨n, hn⟩ := ih
      refine ⟨n + 1, ?_⟩
      rw [List.dropWhile_cons_of_pos (by simpa using ha), List.replicate_succ, List.cons_append,
        ← hn, ha]
    · exact ⟨0, by rw [List.dropWhile_cons_of_neg (by simpa using ha)]; rfl⟩

/-- What is left does not begin with the character that has been dropped. -/
lemma head?_dropWhile_ne (c : Char) (cs : List Char) :
    (cs.dropWhile (· = c)).head? ≠ some c := by
  intro h
  have hne := eq_false_of_mem_head?_dropWhile h
  exact of_decide_eq_false hne rfl

/-- What is inside the braces is what is left without them. -/
lemma isInner_iff : IsInner cs inner ↔ withoutBraces cs = inner := by
  rw [withoutBraces]
  constructor
  · intro h
    obtain ⟨m, n, rfl⟩ := h.eq
    have hhead : (inner ++ List.replicate n '}').head? ≠ some '{' := by
      cases inner with
      | nil => cases n <;> simp [List.replicate_succ]
      | cons c inner => exact h.head
    have hlast : inner.reverse.head? ≠ some '}' := by
      rw [List.head?_reverse]
      exact h.last
    rw [List.append_assoc, dropWhile_replicate_append hhead, List.reverse_append,
      List.reverse_replicate, dropWhile_replicate_append hlast, List.reverse_reverse]
  · rintro rfl
    obtain ⟨m, hm⟩ := exists_replicate_append '{' cs
    obtain ⟨n, hn⟩ := exists_replicate_append '}' (cs.dropWhile (· = '{')).reverse
    have hbody := congrArg List.reverse hn
    rw [List.reverse_reverse, List.reverse_append, List.reverse_replicate] at hbody
    constructor
    · exact ⟨m, n, by rw [List.append_assoc, ← hbody, ← hm]⟩
    · intro hhead
      refine head?_dropWhile_ne '{' cs ?_
      rw [hbody, List.head?_append, hhead, Option.some_or]
    · rw [List.getLast?_reverse]
      exact head?_dropWhile_ne '}' _

end Braces

/-! ### Texts and identifiers -/

section Texts

variable {text : String} {g : Guid} {cs : List Char} {ds : List Nat}

/-- A text is read as the number of its 32 digits. -/
lemma ofText?_eq_some_iff :
    ofText? text = some g ↔
      ∃ ds, ds.length = 32 ∧ List.Forall₂ WritesDigit ds (digits text.toList) ∧
        g.bits.toNat = Nat.ofDigits 16 ds.reverse := by
  have hread : ofText? text = some g ↔ (digits text.toList).length = 32 ∧
      ∃ n, hexValue? 0 (digits text.toList) = some n ∧ (⟨BitVec.ofNat 128 n⟩ : Guid) = g := by
    simp only [ofText?, Option.ite_none_right_eq_some, Option.map_eq_some_iff]
  rw [hread]
  constructor
  · rintro ⟨hlength, n, hn, rfl⟩
    obtain ⟨ds, hds, rfl⟩ := hexValue?_eq_some_iff.1 hn
    rw [← hds.length_eq] at hlength
    refine ⟨ds, hlength, hds, ?_⟩
    rw [Nat.mul_zero, Nat.zero_add, BitVec.toNat_ofNat, Nat.mod_eq_of_lt (ofDigits_lt hds hlength)]
  · rintro ⟨ds, hlength, hds, hbits⟩
    refine ⟨hds.length_eq.symm.trans hlength, g.bits.toNat, hexValue?_eq_some_iff.2 ⟨ds, hds, ?_⟩,
      ?_⟩
    · rw [hbits, Nat.mul_zero, Nat.zero_add]
    · rw [BitVec.ofNat_toNat, BitVec.setWidth_eq]

/-- Only hexadecimal digits write digits. -/
lemma mem_hexDigits_of_forall₂ (hds : List.Forall₂ WritesDigit ds cs) :
    ∀ c ∈ cs, c ∈ hexDigits := by
  have hflip : List.Forall₂ (fun c d => c ∈ hexDigits ∧ flip WritesDigit c d) cs ds :=
    hds.flip.imp fun _ _ h => ⟨WritesDigit.mem h, h⟩
  exact ((List.forall₂_and_left cs ds).1 hflip).1

/-- There are digits that denote any characters among the hexadecimal digits. -/
lemma exists_forall₂_writesDigit (hcs : ∀ c ∈ cs, c ∈ hexDigits) :
    ∃ ds, List.Forall₂ WritesDigit ds cs := by
  induction cs with
  | nil => exact ⟨[], .nil⟩
  | cons c cs ih =>
    obtain ⟨d, hd⟩ := exists_writesDigit (hcs c List.mem_cons_self)
    obtain ⟨ds, hds⟩ := ih fun a ha => hcs a (List.mem_cons_of_mem _ ha)
    exact ⟨d :: ds, .cons hd hds⟩

/-- A text is read exactly if it has 32 characters between the marks, all of them digits. -/
lemma isSome_ofText?_iff :
    (ofText? text).isSome ↔
      (digits text.toList).length = 32 ∧ ∀ c ∈ digits text.toList, c ∈ hexDigits := by
  rw [Option.isSome_iff_exists]
  constructor
  · rintro ⟨g, hg⟩
    obtain ⟨ds, hlength, hds, -⟩ := ofText?_eq_some_iff.1 hg
    exact ⟨hds.length_eq.symm.trans hlength, mem_hexDigits_of_forall₂ hds⟩
  · rintro ⟨hlength, hhex⟩
    obtain ⟨ds, hds⟩ := exists_forall₂_writesDigit hhex
    have hlength : ds.length = 32 := hds.length_eq.trans hlength
    refine ⟨⟨BitVec.ofNat 128 (Nat.ofDigits 16 ds.reverse)⟩,
      ofText?_eq_some_iff.2 ⟨ds, hlength, hds, ?_⟩⟩
    rw [BitVec.toNat_ofNat, Nat.mod_eq_of_lt (ofDigits_lt hds hlength)]

end Texts

/-! ### Spellings -/

section Spellings

variable {cs : List Char} {c y : Char} {d : Nat} {ds : List Nat} {s t : String} {g : Guid}

/-- The digits of the identifier denote its bits. -/
lemma forall₂_hexText (g : Guid) :
    List.Forall₂ WritesDigit
      ((List.range 32).reverse.map fun place => g.bits.toNat / 16 ^ place % 16)
      g.hexText.toList := by
  have hdigit : ∀ d < 16, WritesDigit d (Nat.digitChar d) := by decide
  rw [hexText, String.toList_ofList, List.forall₂_map_left_iff, List.forall₂_map_right_iff,
    List.forall₂_same]
  intro place _
  rw [Nat.shiftRight_eq_div_pow, pow_mul]
  exact hdigit _ (Nat.mod_lt _ (by decide))

/-- The last digits of a number in base 16 denote what is left of it. -/
lemma ofDigits_map_range (n m : Nat) :
    Nat.ofDigits 16 ((List.range m).map fun place => n / 16 ^ place % 16) = n % 16 ^ m := by
  induction m with
  | zero => rw [pow_zero, Nat.mod_one]; rfl
  | succ m ih =>
    rw [List.range_succ, List.map_append, List.map_singleton, Nat.ofDigits_append,
      Nat.ofDigits_singleton, ih, List.length_map, List.length_range, Nat.mod_pow_succ]

/-- Between the hyphens are the groups. -/
lemma filter_intercalate (groups : List (List Char)) :
    (['-'].intercalate groups).filter (· ≠ '-') = groups.flatten.filter (· ≠ '-') := by
  induction groups with
  | nil => rfl
  | cons group groups ih =>
    cases groups with
    | nil => simp
    | cons next groups =>
      have hhyphen : ['-'].filter (· ≠ '-') = [] := rfl
      rw [List.intercalate_cons_cons, List.filter_append, List.filter_append, ih, hhyphen,
        List.append_nil, List.flatten_cons (l := group), List.filter_append]

/-- The digits of the identifier are what is between the hyphens of its grouped form. -/
lemma filter_grouped (g : Guid) : g.grouped.toList.filter (· ≠ '-') = g.hexText.toList := by
  have hlength : g.hexText.toList.length ≤ [8, 4, 4, 4, 12].sum := by
    rw [← (forall₂_hexText g).length_eq, List.length_map, List.length_reverse, List.length_range]
    rfl
  rw [grouped, String.toList_ofList, filter_intercalate,
    List.flatten_splitLengths _ _ hlength, List.filter_eq_self]
  intro c hc
  have hhyphen : '-' ∉ hexDigits := by decide
  refine decide_eq_true ?_
  rintro rfl
  exact hhyphen (mem_hexDigits_of_forall₂ (forall₂_hexText g) _ hc)

/-- The grouped form is inside of any braces around it. -/
lemma isInner_grouped (g : Guid) (m n : Nat) :
    IsInner (List.replicate m '{' ++ g.grouped.toList ++ List.replicate n '}')
      g.grouped.toList := by
  have hnot : ∀ c, c ≠ '-' → c ∉ hexDigits → c ∉ g.grouped.toList := by
    intro c hne hdigit hc
    have hhex : c ∈ g.grouped.toList.filter (· ≠ '-') :=
      List.mem_filter.2 ⟨hc, decide_eq_true hne⟩
    rw [filter_grouped] at hhex
    exact hdigit (mem_hexDigits_of_forall₂ (forall₂_hexText g) c hhex)
  constructor
  · exact ⟨m, n, rfl⟩
  · exact fun h => hnot '{' (by decide) (by decide) (List.mem_of_head? h)
  · exact fun h => hnot '}' (by decide) (by decide) (List.mem_of_getLast? h)

/-- The identifier is read from its grouped form in any braces. -/
lemma ofText?_eq_of_isInner (h : IsInner t.toList g.grouped.toList) : ofText? t = some g := by
  have hdigits : digits t.toList = g.hexText.toList := by
    rw [digits, isInner_iff.1 h, filter_grouped]
  refine ofText?_eq_some_iff.2 ⟨_, ?_, hdigits ▸ forall₂_hexText g, ?_⟩
  · rw [List.length_map, List.length_reverse, List.length_range]
  · rw [← List.map_reverse, List.reverse_reverse, ofDigits_map_range, Nat.mod_eq_of_lt]
    exact g.bits.isLt

/-- The identifier is read from its grouped form. -/
lemma ofText?_grouped (g : Guid) : ofText? g.grouped = some g :=
  ofText?_eq_of_isInner (by simpa using isInner_grouped g 0 0)

/-- The identifier is read from its grouped form in braces. -/
lemma ofText?_braced (g : Guid) : ofText? g.braced = some g :=
  ofText?_eq_of_isInner (by simpa [braced] using isInner_grouped g 1 1)

example : (⟨0x3F1A0C2B4D5E4F608A7B9C0D1E2F3A4B⟩ : Guid).braced =
    "\x7b3f1a0c2b-4d5e-4f60-8a7b-9c0d1e2f3a4b\x7d" := by decide +kernel

/-- What a character of the lower-case form writes as a digit, the character itself writes. -/
lemma writesDigit_iff_of_mem_lowerChar (hy : y ∈ lowerChar c) :
    WritesDigit d y ↔ WritesDigit d c := by
  by_cases hc : c.toNat < 128
  · rw [lowerChar_eq_singleton hc, List.mem_singleton] at hy
    have hsame : digitValue? (lowerAscii c) = digitValue? c :=
      forall_ascii (P := fun c => digitValue? (lowerAscii c) = digitValue? c) (by decide +kernel) hc
    rw [hy, ← digitValue?_eq_some_iff, ← digitValue?_eq_some_iff, hsame]
  · refine iff_of_false (fun h => ?_) fun h => hc (toNat_lt_of_mem_hexDigits h.mem)
    rcases eq_or_of_mem_lowerChar (by omega) hy with hhigh | rfl | rfl
    · exact absurd (toNat_lt_of_mem_hexDigits h.mem) (by omega)
    · exact absurd h.mem (by decide)
    · exact absurd h.mem (by decide)

/-- Lower case makes no difference to the digits that are written. -/
lemma forall₂_writesDigit_lowerChars :
    List.Forall₂ WritesDigit ds (lowerChars cs) ↔ List.Forall₂ WritesDigit ds cs := by
  induction cs generalizing ds with
  | nil => rfl
  | cons c cs ih =>
    obtain ⟨y, ys, hy⟩ := List.exists_cons_of_ne_nil (lowerChar_ne_nil c)
    have hdigit : ∀ d, WritesDigit d y ↔ WritesDigit d c := fun d =>
      writesDigit_iff_of_mem_lowerChar (by rw [hy]; exact List.mem_cons_self)
    by_cases hc : c.toNat < 128
    · rw [lowerChar_eq_singleton hc] at hy
      obtain ⟨rfl, rfl⟩ := List.cons.inj hy
      rw [lowerChars, List.flatMap_cons, lowerChar_eq_singleton hc, List.singleton_append,
        ← lowerChars]
      simp only [List.forall₂_cons_right_iff, hdigit, ih]
    · have hno : ∀ d, ¬ WritesDigit d c := fun d hd => hc (toNat_lt_of_mem_hexDigits hd.mem)
      rw [lowerChars, List.flatMap_cons, hy, List.cons_append]
      simp only [List.forall₂_cons_right_iff, hdigit, hno, false_and, exists_false]

/-- The marks are the same in lower case. -/
lemma digits_lowerChars (cs : List Char) : digits (lowerChars cs) = lowerChars (digits cs) := by
  have hbrace : ∀ c, ∀ y ∈ lowerChar c, decide (y = '{') = decide (c = '{') := fun c y hy =>
    decide_eq_decide.2 (eq_iff_of_mem_lowerChar (by decide) (by decide) hy)
  have hclosing : ∀ c, ∀ y ∈ (List.reverse ∘ lowerChar) c, decide (y = '}') = decide (c = '}') :=
    fun c y hy => decide_eq_decide.2
      (eq_iff_of_mem_lowerChar (by decide) (by decide) (List.mem_reverse.1 hy))
  have hhyphen : ∀ c, ∀ y ∈ lowerChar c, decide (y ≠ '-') = decide (c ≠ '-') := fun c y hy =>
    decide_eq_decide.2 (not_congr (eq_iff_of_mem_lowerChar (by decide) (by decide) hy))
  have hne : ∀ c, (List.reverse ∘ lowerChar) c ≠ [] := fun c h =>
    lowerChar_ne_nil c (List.reverse_eq_nil_iff.1 h)
  have hback : (List.reverse ∘ List.reverse ∘ lowerChar) = lowerChar :=
    funext fun c => List.reverse_reverse _
  rw [digits, withoutBraces, lowerChars, dropWhile_flatMap lowerChar_ne_nil hbrace,
    List.reverse_flatMap, dropWhile_flatMap hne hclosing, List.reverse_flatMap, hback,
    filter_flatMap_of_forall hhyphen]
  rfl

/-- Texts with the same lower-case form denote the same. -/
lemma ofText?_eq_of_identityKey_eq (h : identityKey s = identityKey t) : ofText? s = ofText? t := by
  have hiff : ∀ text g, ofText? text = some g ↔
      ∃ ds, ds.length = 32 ∧ List.Forall₂ WritesDigit ds (digits (identityKey text)) ∧
        g.bits.toNat = Nat.ofDigits 16 ds.reverse := by
    intro text g
    simp only [ofText?_eq_some_iff, identityKey, digits_lowerChars, forall₂_writesDigit_lowerChars]
  refine Option.ext fun g => ?_
  rw [hiff, hiff, h]

/-- An identifier is read from its digits in groups, in any spelling and in braces or without.
Every text has one inner part.  It is read exactly if 32 hexadecimal digits are left of this part
without the hyphens, and then as the number that they denote in base 16.  Texts that a record has
as its identifier are read alike. -/
theorem reads_written_number :
    (∀ (g : Guid) (text : String),
      EqIgnoringAsciiCase text g.grouped ∨ EqIgnoringAsciiCase text g.braced →
        ofText? text = some g) ∧
    (∀ text : String, ∃! inner, IsInner text.toList inner) ∧
    (∀ (text : String) (inner : List Char), IsInner text.toList inner →
      let hex := inner.filter (· ≠ '-')
      ((ofText? text).isSome ↔ hex.length = 32 ∧ ∀ c ∈ hex, c ∈ hexDigits) ∧
      ∀ g, ofText? text = some g ↔
        ∃ ds, ds.length = 32 ∧ List.Forall₂ WritesDigit ds hex ∧
          g.bits.toNat = Nat.ofDigits 16 ds.reverse) ∧
    (∀ (a : TapAdapter) (text : String), a.hasIdentifier text →
      ofText? a.identifier = ofText? text) := by
  refine ⟨fun g text hsame => ?_, fun text => ?_, fun text inner hinner => ?_,
    fun a text hidentity => ?_⟩
  · rcases hsame with hsame | hsame
    · rw [ofText?_eq_of_identityKey_eq hsame.lowerChars_eq, ofText?_grouped]
    · rw [ofText?_eq_of_identityKey_eq hsame.lowerChars_eq, ofText?_braced]
  · exact ⟨_, isInner_iff.2 rfl, fun inner h => (isInner_iff.1 h).symm⟩
  · have hdigits : digits text.toList = inner.filter (· ≠ '-') := by
      rw [digits, isInner_iff.1 hinner]
    rw [← hdigits]
    exact ⟨isSome_ofText?_iff, fun g => ofText?_eq_some_iff⟩
  · exact ofText?_eq_of_identityKey_eq (TapAdapter.hasIdentifier_iff.1 hidentity)

/-- Two spellings of an identifier are read, and a record has the identifier in both; with a digit
too few nothing is read. -/
theorem reads_written_number_of_spellings :
    let g : Guid := ⟨0x3F1A0C2B4D5E4F608A7B9C0D1E2F3A4B⟩
    let a : TapAdapter := ⟨"3F1A0C2B-4D5E-4F60-8A7B-9C0D1E2F3A4B", "TAP", "VPN"⟩
    ofText? "\x7b3f1a0c2B-4d5e-4F60-8a7b-9c0d1e2f3a4b\x7d" = some g ∧
      a.hasIdentifier "3f1a0c2b-4d5e-4f60-8a7b-9c0d1e2f3a4b" ∧
      ofText? a.identifier = ofText? "3f1a0c2b-4d5e-4f60-8a7b-9c0d1e2f3a4b" ∧
      (ofText? "\x7b3f1a0c2b-4d5e-4f60-8a7b-9c0d1e2f3a4\x7d").isSome = false := by
  have hidentity : TapAdapter.hasIdentifier
      ⟨"3F1A0C2B-4D5E-4F60-8A7B-9C0D1E2F3A4B", "TAP", "VPN"⟩
      "3f1a0c2b-4d5e-4f60-8a7b-9c0d1e2f3a4b" := by decide +kernel
  obtain ⟨hspelled, -, hread, hsame⟩ := reads_written_number
  refine ⟨hspelled _ _ (.inr (by decide +kernel)), hidentity, hsame _ _ hidentity, ?_⟩
  rw [← Bool.not_eq_true, (hread _ _ (isInner_iff.2 rfl)).1]
  exact fun h => absurd h.1 (by decide +kernel)

end Spellings

end TapTracker.Windows.Guid
