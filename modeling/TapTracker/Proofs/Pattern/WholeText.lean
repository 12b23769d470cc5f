import TapTracker.Proofs.Pattern.Places

/-!
# The expression of one whole text

`Regex.wholeText` demands the start of the text, then the characters of a word one after the other
without regard to their case, and then the end of the text.  It occurs in exactly those texts that
agree with the word up to case (`Regex.occursIn_wholeText`).
-/

namespace TapTracker.Pattern

open TapTracker.Text

namespace Regex

/-- The one character and what differs from it by case only. -/
def anyCase (c : Char) : Regex := chars (.single .simple c)

/-- The characters of a word and then the end of the text. -/
def wordAtEnd (word : List Char) : List Regex := word.map anyCase ++ [look .textEnd]

/-- The expressions of a word are those of its characters, one by one. -/
lemma wordAtEnd_cons (c : Char) (word : List Char) :
    wordAtEnd (c :: word) = anyCase c :: wordAtEnd word := rfl

/-- A word that is a whole text. -/
def wholeText (word : List Char) : Regex := catAll (look .textStart :: wordAtEnd word)

variable {text : List Char} {places i : Nat}

/-- After a character stand the places that follow one of its occurrences. -/
lemma testBit_reach_anyCase (c : Char) :
    ((anyCase c).reach text places).testBit i ↔
      ∃ k d, i = k + 1 ∧ places.testBit k ∧ text[k]? = some d ∧ foldCase d = foldCase c := by
  cases i with
  | zero =>
    rw [anyCase, testBit_zero_reach_chars]
    constructor
    · intro h
      cases h
    · rintro ⟨k, d, hk, -⟩
      cases hk
  | succ k =>
    rw [anyCase, testBit_reach_chars, Bool.and_eq_true, Option.any_eq_true]
    constructor
    · rintro ⟨hplace, d, hd, hc⟩
      exact ⟨k, d, rfl, hplace, hd, (of_decide_eq_true hc).symm⟩
    · rintro ⟨k', d, hk, hplace, hd, hc⟩
      obtain rfl := Nat.succ.inj hk
      exact ⟨hplace, d, hd, decide_eq_true hc.symm⟩

/-- The end of the text is the place after its last character. -/
lemma testBit_reach_textEnd :
    ((look .textEnd).reach text places).testBit i ↔ places.testBit i ∧ i = text.length := by
  rw [testBit_reach_look, Bool.and_eq_true, Bool.and_eq_true, decide_eq_true_iff, Look.holds,
    Option.isNone_iff_eq_none, List.getElem?_eq_none_iff, ← Nat.le_antisymm_iff]

/-- The start of the text is its first place. -/
lemma testBit_reach_textStart :
    ((look .textStart).reach text places).testBit i ↔ places.testBit i ∧ i = 0 := by
  rw [testBit_reach_look, Bool.and_eq_true, Bool.and_eq_true, decide_eq_true_iff, Look.holds,
    Option.isNone_iff_eq_none]
  refine and_congr_right fun _ => ?_
  cases i with
  | zero => simp [charBefore]
  | succ k =>
    rw [charBefore, List.getElem?_eq_none_iff]
    omega

/-- A word and the end of the text follow the places where what is left of the text agrees with the
word up to case. -/
lemma exists_testBit_reach_wordAtEnd (word : List Char) :
    (∃ j, ((catAll (wordAtEnd word)).reach text places).testBit j) ↔
      ∃ i ≤ text.length, places.testBit i ∧ (text.drop i).map foldCase = word.map foldCase := by
  induction word generalizing places with
  | nil =>
    have hword : catAll (wordAtEnd []) = look .textEnd := rfl
    rw [hword]
    constructor
    · rintro ⟨j, hj⟩
      obtain ⟨hplace, rfl⟩ := testBit_reach_textEnd.1 hj
      exact ⟨text.length, Nat.le_refl _, hplace, by rw [List.drop_length]⟩
    · rintro ⟨i, hi, hplace, hrest⟩
      rw [List.map_nil, List.map_eq_nil_iff, List.drop_eq_nil_iff] at hrest
      exact ⟨i, testBit_reach_textEnd.2 ⟨hplace, Nat.le_antisymm hi hrest⟩⟩
  | cons c word ih =>
    rw [wordAtEnd_cons]
    simp only [reach_catAll_cons, ih]
    constructor
    · rintro ⟨i, hi, hplace, hrest⟩
      obtain ⟨k, d, rfl, hk, hd, hfold⟩ := (testBit_reach_anyCase c).1 hplace
      obtain ⟨hlt, hget⟩ := List.getElem?_eq_some_iff.1 hd
      refine ⟨k, Nat.le_of_lt hlt, hk, ?_⟩
      rw [List.drop_eq_getElem_cons hlt, hget, List.map_cons, List.map_cons, hfold, hrest]
    · rintro ⟨k, hle, hk, hrest⟩
      -- The rest cannot be empty, because a character of the word is still to come.
      have hlt : k < text.length := by
        rcases Nat.lt_or_ge k text.length with hlt | hge
        · exact hlt
        · rw [List.drop_eq_nil_of_le hge] at hrest
          cases hrest
      rw [List.drop_eq_getElem_cons hlt, List.map_cons, List.map_cons] at hrest
      obtain ⟨hfold, hrest⟩ := List.cons.inj hrest
      refine ⟨k + 1, hlt, ?_, hrest⟩
      exact (testBit_reach_anyCase c).2
        ⟨k, text[k], rfl, hk, List.getElem?_eq_getElem hlt, hfold⟩

/-- The expression of a whole text matches what differs from this text by case only. -/
theorem occursIn_wholeText (word : List Char) :
    (wholeText word).occursIn text ↔ text.map foldCase = word.map foldCase := by
  rw [occursIn_iff, wholeText]
  simp only [reach_catAll_cons, exists_testBit_reach_wordAtEnd, testBit_reach_textStart]
  constructor
  · rintro ⟨i, -, ⟨-, rfl⟩, hrest⟩
    exact hrest
  · intro htext
    refine ⟨0, Nat.zero_le _, ⟨?_, rfl⟩, htext⟩
    rw [testBit_allPlaces]
    exact decide_eq_true (Nat.zero_le _)

end Regex

end TapTracker.Pattern
