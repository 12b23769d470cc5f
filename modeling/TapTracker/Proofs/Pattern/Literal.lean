import TapTracker.Adapter.Class
import TapTracker.Proofs.Pattern.WholeText

/-!
# Texts as patterns

A text with a backslash before its meta characters is read back as its own characters
(`Reader.loop_escapeChars`).  The pattern of a whole alias therefore is the expression of a whole
text (`AliasSignature.compile_wholeAlias`), and the signature of an alias is borne by what differs
from this alias by case only (`AliasSignature.includes_of_ofAlias`).
-/

namespace TapTracker.Pattern

/-- The characters of a word are escaped one by one. -/
lemma escapeChars_cons (c : Char) (word : List Char) :
    escapeChars (c :: word) =
      (if c ∈ Reader.metaCharacters then ['\\', c] else [c]) ++ escapeChars word := rfl

namespace Reader

variable {s : State} {rest tail : List Char}

/-- A character that stands for itself. -/
def literal (c : Char) : Ast := .primitive (.literal c false)

/-- A character without a meaning of its own stands for itself. -/
lemma step_of_notMem {c : Char} (hc : c ∉ metaCharacters) :
    step s c rest = .ok (s.push (literal c), rest) := by
  have hprimitive : readPrimitive s.verbose c rest = .ok (.literal c false, rest) := by
    unfold readPrimitive
    split
    case h_5 => rfl
    all_goals exact absurd (by decide) hc
  unfold step
  split
  case h_9 =>
    rw [hprimitive]
    rfl
  all_goals exact absurd (by decide) hc

/-- A meta character after a backslash stands for itself. -/
lemma step_backslash {c : Char} (hc : c ∈ metaCharacters) :
    step s '\\' (c :: rest) = .ok (s.push (literal c), rest) := by
  have hescapable : escapable c = true := by
    rw [escapable, List.contains_iff_mem.2 hc, Bool.true_or]
  have hescape : readEscape s.verbose (c :: rest) = .ok (.literal c false, rest) :=
    if_pos hescapable
  simp only [step, readPrimitive, hescape]
  rfl

/-- A step that reads without an error. -/
lemma loop_succ_of_step {fuel : Nat} {c : Char} {s' : State} (hverbose : s.verbose = false)
    (hstep : step s c rest = .ok (s', tail)) :
    loop (fuel + 1) s (c :: rest) = loop fuel s' tail := by
  rw [loop, hverbose]
  simp only [skipIf, Bool.false_eq_true, if_false, hstep]

/-- A text with its meta characters escaped is read as its characters one after the other. -/
lemma loop_escapeChars (fuel : Nat) (hverbose : s.verbose = false) (word : List Char) :
    loop (fuel + word.length) s (escapeChars word ++ tail) =
      loop fuel { s with items := (word.map literal).reverse ++ s.items } tail := by
  induction word generalizing s with
  | nil => rfl
  | cons c word ih =>
    have hpush : (s.push (literal c)).verbose = false := hverbose
    have hitems : { s with items := ((c :: word).map literal).reverse ++ s.items } =
        { s.push (literal c) with
          items := (word.map literal).reverse ++ (s.push (literal c)).items } := by
      simp [State.push]
    rw [hitems, ← ih hpush, List.length_cons, ← Nat.add_assoc]
    rw [escapeChars_cons]
    by_cases hc : c ∈ metaCharacters
    · rw [if_pos hc]
      exact loop_succ_of_step hverbose (step_backslash hc)
    · rw [if_neg hc]
      exact loop_succ_of_step hverbose (step_of_notMem hc)

end Reader

/-! ### The tree and its expression -/

namespace Ast

/-- The items after the start of a text: the characters of a word and the end of the text. -/
def wordAtEnd (word : List Char) : List Ast :=
  word.map Reader.literal ++ [.primitive (.assertion .lineEnd)]

/-- The items of a word are those of its characters, one by one. -/
lemma wordAtEnd_cons (c : Char) (word : List Char) :
    wordAtEnd (c :: word) = Reader.literal c :: wordAtEnd word := rfl

/-- The tree of a whole text. -/
def wholeText (word : List Char) : Ast :=
  .concat (.primitive (.assertion .lineStart) :: wordAtEnd word)

/-- Escaping makes no word shorter. -/
lemma length_le_length_escapeChars (word : List Char) :
    word.length ≤ (escapeChars word).length := by
  induction word with
  | nil => exact Nat.le_refl _
  | cons c word ih =>
    rw [escapeChars_cons, List.length_append, List.length_cons]
    split <;> simp only [List.length_cons, List.length_nil] <;> omega

/-- The tree of a sequence that begins with an item and has another one at its end. -/
lemma ofItems_cons_append (first last : Ast) (items : List Ast) :
    ofItems (first :: (items ++ [last])) = .concat (first :: (items ++ [last])) := by
  cases items <;> rfl

/-- An escaped word between the two anchors is read as a whole text. -/
lemma ofChars_wholeText (word : List Char) :
    ofChars ('^' :: (escapeChars word ++ ['$'])) = .ok (wholeText word) := by
  obtain ⟨extra, hextra⟩ := Nat.exists_eq_add_of_le' (length_le_length_escapeChars word)
  have hlength : ('^' :: (escapeChars word ++ ['$'])).length + 1 =
      extra + 2 + word.length + 1 := by
    rw [List.length_cons, List.length_append, hextra, List.length_singleton]
    omega
  have hstart : Reader.step .start '^' (escapeChars word ++ ['$']) =
      .ok (Reader.State.start.push (.primitive (.assertion .lineStart)),
        escapeChars word ++ ['$']) := rfl
  rw [ofChars, hlength, Reader.loop_succ_of_step rfl hstart, Reader.loop_escapeChars _ rfl]
  -- The last two steps read the second anchor and find the end of the pattern.
  have htree (items : List Ast) :
      Reader.loop (extra + 2) { Reader.State.start with items } ['$'] =
        .ok (ofItems (.primitive (.assertion .lineEnd) :: items).reverse) := rfl
  have hread := htree ((word.map Reader.literal).reverse ++ [.primitive (.assertion .lineStart)])
  refine hread.trans (congrArg _ ?_)
  rw [List.reverse_cons, List.reverse_append, List.reverse_reverse, List.reverse_singleton,
    List.singleton_append, List.cons_append, ofItems_cons_append]
  rfl

/-- Elements without parts enclose nothing. -/
lemma depthAll_wordAtEnd (word : List Char) : depthAll (wordAtEnd word) = 0 := by
  induction word with
  | nil => rfl
  | cons c word ih =>
    rw [wordAtEnd_cons, depthAll, ih]
    rfl

/-- The tree of a whole text has no parts below its items. -/
lemma depth_wholeText (word : List Char) : (wholeText word).depth = 1 := by
  rw [wholeText, depth, depthAll, depthAll_wordAtEnd]
  rfl

/-- Without flags the items of a word become its expressions. -/
lemma toRegexes_wordAtEnd (word : List Char) :
    toRegexes (wordAtEnd word) .initial = .ok (Regex.wordAtEnd word, .initial) := by
  induction word with
  | nil => rfl
  | cons c word ih =>
    have hliteral : (Reader.literal c).toRegex .initial = .ok (Regex.anyCase c, .initial) := rfl
    rw [wordAtEnd_cons, toRegexes, hliteral]
    change (toRegexes (wordAtEnd word) .initial >>= fun next =>
      .ok (Regex.anyCase c :: next.1, next.2)) = _
    rw [ih]
    rfl

/-- Without flags the tree of a whole text is its expression. -/
lemma toRegex_wholeText (word : List Char) :
    (wholeText word).toRegex .initial = .ok (Regex.wholeText word, .initial) := by
  have hanchor : toRegex (.primitive (.assertion .lineStart)) .initial =
      .ok (.look .textStart, .initial) := rfl
  have hitems : toRegexes (.primitive (.assertion .lineStart) :: wordAtEnd word) .initial =
      .ok (.look .textStart :: Regex.wordAtEnd word, .initial) := by
    rw [toRegexes, hanchor]
    change (toRegexes (wordAtEnd word) .initial >>= fun next =>
      .ok (.look .textStart :: next.1, next.2)) = _
    rw [toRegexes_wordAtEnd]
    rfl
  rw [wholeText, toRegex, hitems]
  rfl

end Ast

end TapTracker.Pattern

namespace TapTracker

open Text

namespace AliasSignature

/-- The pattern of a whole alias is the escaped alias between two anchors. -/
lemma toList_wholeAlias (aliasName : String) :
    (wholeAlias aliasName).toList = '^' :: (Pattern.escapeChars aliasName.toList ++ ['$']) := by
  simp [wholeAlias, Pattern.escape]

/-- The pattern of a whole alias is refused for its size only. -/
lemma compile_wholeAlias (aliasName : String) :
    Pattern.compile (wholeAlias aliasName) =
      if (Pattern.Regex.wholeText aliasName.toList).weight ≤ Pattern.Regex.weightLimit then
        .ok ⟨wholeAlias aliasName, Pattern.Regex.wholeText aliasName.toList⟩
      else .error .tooLarge := by
  have hread : Pattern.Ast.read (wholeAlias aliasName) =
      .ok (Pattern.Ast.wholeText aliasName.toList) := by
    rw [Pattern.Ast.read, toList_wholeAlias, Pattern.Ast.ofChars_wholeText]
    exact if_pos (by rw [Pattern.Ast.depth_wholeText]; decide)
  simp only [Pattern.compile, hread, Pattern.Ast.toRegex_wholeText]

/-- The signature of an alias is borne by what differs from this alias by case only. -/
theorem includes_of_ofAlias {aliasName : String} {signature : AliasSignature}
    (h : ofAlias aliasName = .ok signature) (other : String) :
    signature.includes other ↔ other.toList.map foldCase = aliasName.toList.map foldCase := by
  rw [ofAlias, ofPattern, compile_wholeAlias] at h
  split at h
  next =>
    cases h
    exact Pattern.Regex.occursIn_wholeText aliasName.toList
  next => cases h

end AliasSignature

end TapTracker
