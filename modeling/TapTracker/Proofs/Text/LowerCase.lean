import Mathlib.Data.List.Basic
import Mathlib.Tactic.SplitIfs
import TapTracker.Proofs.Text.CodePoint
import TapTracker.Text.LowerCase

/-!
# Lower case and ASCII

The lower-case form of an ASCII character is one ASCII character (`lowerChar_eq_singleton`).  From
outside of ASCII only two letters are reached: the Kelvin sign goes to k, and the capital I with a
dot above to i and a combining dot (`eq_or_of_mem_lowerChar`).  So a character of ASCII that is no
letter comes from itself only (`eq_iff_of_mem_lowerChar`).

No run of the mapping moves a code point to where another run, or the rule for the dotted capital I,
would move it on (`CaseRun.endsOutside`).  So the lower-case form of a text is its own lower-case
form (`lowerChars_lowerChars`), also where a character expands.
-/

namespace TapTracker.Text

/-! ### The runs of a mapping -/

namespace CaseRun

/-- A mapping leaves a code point alone unless one of its runs moves it. -/
lemma image_eq_or (runs : List CaseRun) (n : Nat) :
    image runs n = n ∨ ∃ r ∈ runs, r.Covers n ∧ image runs n = r.move n := by
  induction runs with
  | nil => exact .inl rfl
  | cons r rest ih =>
    rw [image]
    split_ifs with hbefore hcovers
    · exact .inl rfl
    · exact .inr ⟨r, List.mem_cons_self, hcovers, rfl⟩
    · rcases ih with heq | ⟨r', hr', hmoved⟩
      · exact .inl heq
      · exact .inr ⟨r', List.mem_cons_of_mem _ hr', hmoved⟩

/-- The run moves no code point to one that another run covers: it ends before the other run or
after it, or both take every second code point and they do so by turns. -/
def endsOutside (r r' : CaseRun) : Bool :=
  Nat.blt (r.target + (r.last - r.first)) r'.first || Nat.blt r'.last r.target ||
    (r'.step == 2 && (r.step == 2 || r.first == r.last) && (r.target + r'.first) % 2 == 1)

/-- What a run moves is not covered by a run that it ends outside of. -/
lemma not_covers_move {r r' : CaseRun} {n : Nat} (houtside : r.endsOutside r' = true)
    (h : r.Covers n) : ¬ r'.Covers (r.move n) := by
  obtain ⟨hfirst, hlast, hstep⟩ := h
  rintro ⟨hfirst', hlast', hstep'⟩
  simp only [endsOutside, Bool.or_eq_true, Bool.and_eq_true, Nat.blt_eq, beq_iff_eq] at houtside
  unfold move at hfirst' hlast' hstep'
  rcases houtside with (hbefore | hafter) | ⟨⟨heven', heven⟩, hodd⟩
  · omega
  · omega
  · rw [heven'] at hstep'
    rcases heven with heven | hsingle
    · rw [heven] at hstep
      omega
    · omega

/-- What a run moves stays where it has been moved to if the run ends outside of all runs. -/
lemma image_move {runs : List CaseRun} {r : CaseRun} {n : Nat}
    (houtside : ∀ r' ∈ runs, r.endsOutside r' = true) (h : r.Covers n) :
    image runs (r.move n) = r.move n := by
  rcases image_eq_or runs (r.move n) with heq | ⟨r', hr', hcovers', -⟩
  · exact heq
  · exact absurd hcovers' (not_covers_move (houtside r' hr') h)

end CaseRun

/-- Every run of lower case stays among the code points, and it enters ASCII from outside only
with the Kelvin sign. -/
lemma lowerRuns_targets :
    ∀ r ∈ lowerRuns,
      (r.target + (r.last - r.first) < 0xD800 ∨
        0xDFFF < r.target ∧ r.target + (r.last - r.first) < 0x110000) ∧
      (r.last < 128 ∨ 128 ≤ r.target ∨ r.first = r.last ∧ r.target = 'k'.toNat) := by
  decide +kernel

/-- Every run of lower case ends outside of all runs, and does not reach the dotted capital I. -/
lemma lowerRuns_endOutside :
    (lowerRuns.all fun r => lowerRuns.all r.endsOutside) = true ∧
      ∀ r ∈ lowerRuns, r.target + (r.last - r.first) < dottedCapitalI.toNat ∨
        dottedCapitalI.toNat < r.target := by
  constructor
  · decide +kernel
  · decide +kernel

/-- A run of lower case moves its code points to code points. -/
lemma isValidChar_move {r : CaseRun} {n : Nat} (hr : r ∈ lowerRuns) (h : r.Covers n) :
    (r.move n).isValidChar := by
  obtain ⟨hfirst, hlast, -⟩ := h
  have hrange := (lowerRuns_targets r hr).1
  unfold CaseRun.move Nat.isValidChar
  omega

/-! ### The lower-case form of a character -/

section Characters

variable {c y m : Char}

/-- In ASCII the lower-case form of a character is one character. -/
lemma lowerChar_eq_singleton (hc : c.toNat < 128) : lowerChar c = [lowerAscii c] :=
  forall_ascii (P := fun c => lowerChar c = [lowerAscii c]) (by decide +kernel) hc

/-- Taking the lower case of an ASCII letter first makes no difference to the lower-case form. -/
lemma lowerChar_lowerAscii (c : Char) : lowerChar (lowerAscii c) = lowerChar c := by
  by_cases hc : c.toNat < 128
  · exact forall_ascii (P := fun c => lowerChar (lowerAscii c) = lowerChar c)
      (by decide +kernel) hc
  · have hcapital : ¬ ('A' ≤ c ∧ c ≤ 'Z') := by
      rintro ⟨-, hle⟩
      have hle : c.toNat ≤ 90 := hle
      omega
    rw [lowerAscii, if_neg hcapital]

/-- Lower case in ASCII letters makes no difference to the lower-case form. -/
lemma lowerChars_map_lowerAscii (cs : List Char) :
    lowerChars (cs.map lowerAscii) = lowerChars cs := by
  rw [lowerChars, lowerChars, List.flatMap_map]
  exact List.flatMap_congr fun c _ => lowerChar_lowerAscii c

/-- Texts that agree up to the case of ASCII letters have the same lower-case form. -/
lemma EqIgnoringAsciiCase.lowerChars_eq {s t : String} (h : EqIgnoringAsciiCase s t) :
    lowerChars s.toList = lowerChars t.toList := by
  rw [← lowerChars_map_lowerAscii, h, lowerChars_map_lowerAscii]

/-- The lower-case form of a character is not empty. -/
lemma lowerChar_ne_nil (c : Char) : lowerChar c ≠ [] := by
  rw [lowerChar]
  split_ifs
  · exact List.cons_ne_nil _ _
  · exact List.cons_ne_nil _ _

/-- From outside of ASCII lower case leads into it only at the letters k and i. -/
lemma eq_or_of_mem_lowerChar (hc : 128 ≤ c.toNat) (hy : y ∈ lowerChar c) :
    128 ≤ y.toNat ∨ y = 'k' ∨ y = 'i' := by
  rw [lowerChar] at hy
  split_ifs at hy with hdotted
  · rcases List.mem_pair.1 hy with rfl | rfl
    · exact .inr (.inr rfl)
    · exact .inl (by decide)
  · obtain rfl := List.mem_singleton.1 hy
    rcases CaseRun.image_eq_or lowerRuns c.toNat with himage | ⟨r, hr, hcovers, himage⟩
    · rw [himage, Char.ofNat_toNat]
      exact .inl hc
    · have hvalid := isValidChar_move hr hcovers
      obtain ⟨hfirst, hlast, -⟩ := hcovers
      rw [himage]
      unfold CaseRun.move at hvalid ⊢
      rcases (lowerRuns_targets r hr).2 with hsource | htarget | ⟨hsingle, hkelvin⟩
      · omega
      · rw [toNat_ofNat_of_isValidChar hvalid]
        exact .inl (by omega)
      · have hfirst : c.toNat - r.first = 0 := by omega
        rw [hkelvin, hfirst, Nat.add_zero, Char.ofNat_toNat]
        exact .inr (.inl rfl)

/-- A character of ASCII that is no letter comes from itself only. -/
lemma eq_iff_of_mem_lowerChar (hm : m.toNat < 128) (halpha : m.isAlpha = false)
    (hy : y ∈ lowerChar c) : y = m ↔ c = m := by
  by_cases hc : c.toNat < 128
  · rw [lowerChar_eq_singleton hc, List.mem_singleton] at hy
    have hlower : (lowerAscii c).isAlpha = c.isAlpha ∧ (c.isAlpha = false → lowerAscii c = c) :=
      forall_ascii (P := fun c => (lowerAscii c).isAlpha = c.isAlpha ∧
        (c.isAlpha = false → lowerAscii c = c)) (by decide +kernel) hc
    rw [hy]
    constructor
    · rintro rfl
      rw [hlower.1] at halpha
      exact (hlower.2 halpha).symm
    · rintro rfl
      exact hlower.2 halpha
  · have hne : c ≠ m := by
      rintro rfl
      exact hc hm
    refine iff_of_false ?_ hne
    rintro rfl
    rcases eq_or_of_mem_lowerChar (by omega) hy with hhigh | rfl | rfl
    · omega
    · exact absurd halpha (by decide)
    · exact absurd halpha (by decide)

/-- What a lower-case form holds is in lower case. -/
lemma lowerChar_of_mem_lowerChar (hy : y ∈ lowerChar c) : lowerChar y = [y] := by
  by_cases hdotted : c = dottedCapitalI
  · rw [lowerChar, if_pos hdotted] at hy
    rcases List.mem_pair.1 hy with rfl | rfl
    · decide
    · decide
  · rw [lowerChar, if_neg hdotted] at hy
    obtain rfl := List.mem_singleton.1 hy
    rcases CaseRun.image_eq_or lowerRuns c.toNat with himage | ⟨r, hr, hcovers, himage⟩
    · rw [himage, Char.ofNat_toNat, lowerChar, if_neg hdotted, himage, Char.ofNat_toNat]
    · have hcode := toNat_ofNat_of_isValidChar (isValidChar_move hr hcovers)
      have hstays : CaseRun.image lowerRuns (r.move c.toNat) = r.move c.toNat :=
        CaseRun.image_move (List.all_eq_true.1 (List.all_eq_true.1 lowerRuns_endOutside.1 r hr))
          hcovers
      have hundotted : Char.ofNat (r.move c.toNat) ≠ dottedCapitalI := by
        intro heq
        have hreach := lowerRuns_endOutside.2 r hr
        rw [← heq, hcode, CaseRun.move] at hreach
        obtain ⟨hfirst, hlast, -⟩ := hcovers
        omega
      rw [himage, lowerChar, if_neg hundotted, hcode, hstays]

/-- The lower-case form of a text is its own lower-case form. -/
lemma lowerChars_lowerChars (cs : List Char) : lowerChars (lowerChars cs) = lowerChars cs := by
  have hsame (c : Char) : (lowerChar c).flatMap lowerChar = lowerChar c := by
    rw [List.flatMap_congr fun y hy => lowerChar_of_mem_lowerChar hy, List.flatMap_singleton']
  rw [lowerChars, lowerChars, List.flatMap_assoc]
  exact List.flatMap_congr fun c _ => hsame c

end Characters

end TapTracker.Text
