import Mathlib.Data.List.DropRight
import TapTracker.Proofs.Text.LeftOut
import TapTracker.Text.Blank

/-!
# Trimmed texts

A text is trimmed if there is no white space at its ends (`IsTrimmed`).  These are the texts that
`trim` leaves as they are (`trim_eq_self_iff`), and what it makes of any text is one of them
(`isTrimmed_trim`), so that there is nothing left to trim a second time.
-/

namespace TapTracker.Text

/-- There is no white space at the ends of the text. -/
structure IsTrimmed (s : String) : Prop where
  head : ∀ c ∈ s.toList.head?, isBlank c = false
  last : ∀ c ∈ s.toList.getLast?, isBlank c = false

section Trimmed

variable {s : String}

/-- A trimmed text is left as it is. -/
lemma IsTrimmed.trim_eq (h : IsTrimmed s) : trim s = s := by
  have hlast : ∀ c ∈ s.toList.reverse.head?, isBlank c = false := by
    rw [List.head?_reverse]
    exact h.last
  rw [trim, trimChars, dropWhile_eq_self h.head, dropWhile_eq_self hlast,
    List.reverse_reverse, String.ofList_toList]

/-- Without the white space at its ends a text is trimmed. -/
lemma isTrimmed_trim (s : String) : IsTrimmed (trim s) := by
  have hchars : (trim s).toList = (s.toList.dropWhile isBlank).rdropWhile isBlank :=
    String.toList_ofList
  constructor
  · intro c hc
    -- What the second pass leaves begins with what the first pass has left.
    obtain ⟨rest, hrest⟩ := List.rdropWhile_prefix isBlank (s.toList.dropWhile isBlank)
    rw [hchars] at hc
    have hfront : c ∈ (s.toList.dropWhile isBlank).head? := by
      rw [← hrest, List.head?_append, Option.mem_def.1 hc]
      rfl
    exact eq_false_of_mem_head?_dropWhile hfront
  · intro c hc
    rw [hchars, List.rdropWhile, List.getLast?_reverse] at hc
    exact eq_false_of_mem_head?_dropWhile hc

/-- A text is trimmed exactly if nothing is trimmed. -/
lemma trim_eq_self_iff : trim s = s ↔ IsTrimmed s := by
  constructor
  · intro h
    rw [← h]
    exact isTrimmed_trim s
  · exact IsTrimmed.trim_eq

end Trimmed

end TapTracker.Text
