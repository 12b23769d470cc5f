import Mathlib.Data.List.Basic
import TapTracker.Proofs.Success
import TapTracker.Toml.Reader

/-!
# Parts of documents

Whatever its layout is, an expression of a document does one of three things (`Change`): nothing, as
comments do, opening a table, or setting a key.  `IsPart text change` says that a text is read by
itself as a change: whatever the document is so far, and whatever follows after the end of its last
line.  Most parts are lines, but strings and arrays may go over several of them.

A text that is cut into parts is read as their changes, one after another (`read_parts`).
-/

namespace TapTracker.Toml

/-! ### Changes -/

/-- What an expression of a document does. -/
inductive Change
  | nothing
  /-- Opens a table, or the next element of an array of tables. -/
  | opens (isElement : Bool) (key : List String)
  /-- Sets a key of the open table. -/
  | sets (key : List String) (v : Value)

/-- The table that is open stays open. -/
def Change.staysInTable : Change → Bool
  | opens .. => false
  | nothing | sets .. => true

/-- The document after a change. -/
def Change.apply (d : Document) : Change → Except Error Document
  | nothing => .ok d
  | opens isElement key => d.openHeader isElement key
  | sets key v => d.setKey key v

/-- What may follow a line: the text ends, or a line feed stands before the rest. -/
inductive EndsLine : (after rest : List Char) → Prop
  | text : EndsLine [] []
  | feed (rest : List Char) : EndsLine ('\n' :: rest) rest

/-- The text is read by itself as a change.  The byte order mark is no part of a document. -/
structure IsPart (text : String) (change : Change) : Prop where
  unmarked : text.toList.head? ≠ some '\uFEFF'
  step_eq : ∀ (d : Document) {after rest : List Char}, EndsLine after rest →
    d.step (text.toList ++ after) = (change.apply d).bind fun d => .ok (d, rest)

/-- A part of a document, with the change that it is read as. -/
structure Part where
  text : String
  change : Change
  isPart : IsPart text change

/-! ### Reading -/

section Texts

variable {d : Document} {cs : List Char} {parts : List String} {changes : List Change} {fuel : Nat}

/-- A line of joined lines ends where the rest of them begins. -/
lemma exists_endsLine (line : List Char) (lines : List (List Char)) :
    ∃ after, ['\n'].intercalate (line :: lines) = line ++ after ∧
      EndsLine after (['\n'].intercalate lines) := by
  cases lines with
  | nil => exact ⟨[], by simp, .text⟩
  | cons line' lines =>
    refine ⟨'\n' :: ['\n'].intercalate (line' :: lines), ?_, .feed _⟩
    rw [List.intercalate_cons_cons, List.append_assoc, List.singleton_append]

/-- There are no more lines than line feeds, but for one. -/
lemma length_le_length_intercalate (lines : List (List Char)) :
    lines.length ≤ (['\n'].intercalate lines).length + 1 := by
  induction lines with
  | nil => exact Nat.zero_le _
  | cons line lines ih =>
    cases lines with
    | nil => exact Nat.le_add_left ..
    | cons line' lines =>
      rw [List.intercalate_cons_cons, List.length_append, List.length_append,
        List.length_singleton, List.length_cons]
      omega

/-- With one more unit of fuel, a document is read by one more step. -/
lemma Document.loop_succ (cs : List Char) :
    d.loop (fuel + 1) cs = (d.step cs).bind fun (d, rest) => loop fuel d rest := by
  cases cs with
  | nil => cases fuel <;> rfl
  | cons c cs => rfl

/-- Parts are read as their changes, one after another. -/
lemma loop_parts (h : List.Forall₂ IsPart parts changes) (hfuel : parts.length ≤ fuel) :
    d.loop fuel (['\n'].intercalate (parts.map String.toList)) =
      changes.foldlM Change.apply d := by
  -- One part takes one unit of fuel, and the document that it leaves is the next one to start from.
  induction h generalizing d fuel with
  | nil => cases fuel <;> rfl
  | @cons part change parts changes hpart _ ih =>
    obtain ⟨fuel, rfl⟩ := Nat.exists_eq_add_one.2 (Nat.zero_lt_of_lt hfuel)
    obtain ⟨after, hafter, hend⟩ := exists_endsLine part.toList (parts.map String.toList)
    rw [List.map_cons, hafter, Document.loop_succ, hpart.step_eq d hend, List.foldlM_cons]
    cases change.apply d with
    | error cause => rfl
    | ok d' => exact ih (Nat.le_of_succ_le_succ hfuel)

/-- Without a byte order mark a text is read from its first character on. -/
lemma readChars_of_ne (h : ∀ rest, cs ≠ '\uFEFF' :: rest) :
    readChars cs =
      (Document.loop (cs.length + 1) .start cs).map fun d => Node.entryValues d.root := by
  rw [readChars]
  · cases Document.loop (cs.length + 1) .start cs <;> rfl
  · exact h

/-- No part begins with a byte order mark, and neither does what ends its line. -/
lemma IsPart.append_ne_cons {part : String} {change : Change} {after rest : List Char}
    (h : IsPart part change) (hend : EndsLine after rest) :
    part.toList ++ after ≠ '\uFEFF' :: cs := by
  have hunmarked := h.unmarked
  cases hchars : part.toList with
  | nil => cases hend <;> exact nofun
  | cons c part =>
    rw [hchars] at hunmarked
    intro heq
    exact hunmarked (congrArg some (List.cons.inj heq).1)

/-- A text of parts is read as their changes, from the empty document on. -/
lemma read_parts (h : List.Forall₂ IsPart parts changes) :
    read ("\n".intercalate parts) =
      (changes.foldlM Change.apply .start).map fun d => Node.entryValues d.root := by
  have hchars : ("\n".intercalate parts).toList = ['\n'].intercalate (parts.map String.toList) :=
    String.toList_intercalate
  have hlength := length_le_length_intercalate (parts.map String.toList)
  rw [List.length_map] at hlength
  rw [read, hchars, readChars_of_ne, loop_parts h hlength]
  intro rest
  cases h with
  | nil => exact nofun
  | @cons part _ parts _ hpart _ =>
    obtain ⟨after, hafter, hend⟩ := exists_endsLine part.toList (parts.map String.toList)
    rw [List.map_cons, hafter]
    exact hpart.append_ne_cons hend

/-- The text of a list of parts is read as their changes. -/
lemma read_map_text (parts : List Part) :
    read ("\n".intercalate (parts.map Part.text)) =
      ((parts.map Part.change).foldlM Change.apply .start).map fun d =>
        Node.entryValues d.root := by
  refine read_parts ?_
  induction parts with
  | nil => exact .nil
  | cons part parts ih => exact .cons part.isPart ih

end Texts

end TapTracker.Toml
