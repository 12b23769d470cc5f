import TapTracker.Proofs.Pattern.Literal

/-!
# The signature of one alias

A signature can be derived from an alias, whatever characters this alias has: those with a meaning
in patterns are escaped, and the pattern is bound to the start and to the end of a text.
`AliasSignature.owns_of_ofAlias` says what becomes of it.  The pattern is never refused for its
syntax, and it is borne by exactly the aliases that agree with the given one up to case, character
by character (`AgreeUpToCase`), so that nothing can stand before or after it.
-/

namespace TapTracker

open Text

/-- The two texts have the same number of characters, and those in the same place share their simple
case folding. -/
structure AgreeUpToCase (s t : String) : Prop where
  length : s.length = t.length
  characters : ∀ (i : Nat) (c d : Char), s.toList[i]? = some c → t.toList[i]? = some d →
    foldCase c = foldCase d

/-- Texts agree up to case exactly if all their characters have the same representatives. -/
lemma agreeUpToCase_iff {s t : String} :
    AgreeUpToCase s t ↔ s.toList.map foldCase = t.toList.map foldCase := by
  constructor
  · rintro ⟨hlength, hfold⟩
    rw [← String.length_toList, ← String.length_toList] at hlength
    refine List.ext_getElem (by rwa [List.length_map, List.length_map]) fun i hs ht => ?_
    rw [List.length_map] at hs ht
    rw [List.getElem_map, List.getElem_map]
    exact hfold i _ _ (List.getElem?_eq_getElem hs) (List.getElem?_eq_getElem ht)
  · intro hmap
    have hlength := congrArg List.length hmap
    rw [List.length_map, List.length_map, String.length_toList, String.length_toList] at hlength
    refine ⟨hlength, fun i c d hc hd => ?_⟩
    have hplace := congrArg (·[i]?) hmap
    simpa only [List.getElem?_map, hc, hd, Option.map_some, Option.some_inj] using hplace

/-- Every text agrees with itself up to case. -/
lemma AgreeUpToCase.refl (s : String) : AgreeUpToCase s s := agreeUpToCase_iff.2 rfl

namespace AliasSignature

variable {aliasName : String} {signature : AliasSignature}

/-- The signature of an alias is refused only because its pattern is too large. -/
lemma ofAlias_eq_error {aliasName : String} {e : PatternError} (h : ofAlias aliasName = .error e) :
    e = .tooLarge := by
  rw [ofAlias, ofPattern, compile_wholeAlias] at h
  split at h
  next => cases h
  next =>
    cases h
    rfl

/-- An alias has a signature exactly if its expression is small enough. -/
lemma exists_ofAlias_iff :
    (∃ signature, ofAlias aliasName = .ok signature) ↔
      (Pattern.Regex.wholeText aliasName.toList).weight ≤ Pattern.Regex.weightLimit := by
  rw [ofAlias, ofPattern, compile_wholeAlias]
  split
  next hsmall => exact ⟨fun _ => hsmall, fun _ => ⟨_, rfl⟩⟩
  next hlarge =>
    refine ⟨?_, fun hsmall => absurd hsmall hlarge⟩
    rintro ⟨signature, h⟩
    cases h

/-- The signature of an alias is borne by the aliases that agree with it up to case. -/
lemma includes_iff_agreeUpToCase (h : ofAlias aliasName = .ok signature) (other : String) :
    signature.includes other ↔ AgreeUpToCase other aliasName := by
  rw [agreeUpToCase_iff]
  exact includes_of_ofAlias h other

/-- Text before or after an alias that bears the signature makes one that does not. -/
lemma eq_empty_of_includes_append (h : ofAlias aliasName = .ok signature)
    {before other after : String} (hother : signature.includes other)
    (hlonger : signature.includes (before ++ other ++ after)) : before = "" ∧ after = "" := by
  have hlength := ((includes_iff_agreeUpToCase h other).1 hother).length
  have hlonger_length := ((includes_iff_agreeUpToCase h _).1 hlonger).length
  rw [String.length_append, String.length_append, ← hlength] at hlonger_length
  have hbefore : before.length = 0 := by omega
  have hafter : after.length = 0 := by omega
  exact ⟨String.length_eq_zero_iff.1 hbefore, String.length_eq_zero_iff.1 hafter⟩

/-- The pattern of any alias can be read, so that there is a signature of the alias unless its
expression is too large, as measured by `Pattern.Regex.weight`, which counts no more bytes for an
alias than its automaton takes.  An adapter bears this signature exactly if its alias has as many
characters as the given one and each of them is the same up to case; in particular the alias itself
bears it, and neither it nor another spelling of it does with text before or after it.  Identifiers
and device names make no difference. -/
theorem owns_of_ofAlias (aliasName : String) :
    (∀ cause, ofAlias aliasName ≠ .error (.notPattern cause)) ∧
    ((∃ signature, ofAlias aliasName = .ok signature) ↔
      (Pattern.Regex.wholeText aliasName.toList).weight ≤ Pattern.Regex.weightLimit) ∧
    ∀ signature, ofAlias aliasName = .ok signature →
      (∀ a : TapAdapter, signature.owns a ↔ AgreeUpToCase a.aliasName aliasName) ∧
      (∀ identifier deviceName, signature.owns ⟨identifier, deviceName, aliasName⟩) ∧
      (∀ identifier deviceName before other after, AgreeUpToCase other aliasName →
        before ≠ "" ∨ after ≠ "" →
          signature.owns ⟨identifier, deviceName, before ++ other ++ after⟩ = false) ∧
      ∀ a b : TapAdapter, a.aliasName = b.aliasName → signature.owns a = signature.owns b := by
  refine ⟨fun cause h => ?_, exists_ofAlias_iff, fun signature h => ⟨fun a => ?_,
    fun identifier deviceName => ?_,
    fun identifier deviceName before other after hother hlonger => ?_, fun a b hab => ?_⟩⟩
  · cases ofAlias_eq_error h
  · exact includes_iff_agreeUpToCase h a.aliasName
  · exact (includes_iff_agreeUpToCase h aliasName).2 (.refl aliasName)
  · have hincludes := (includes_iff_agreeUpToCase h other).2 hother
    rw [← Bool.not_eq_true]
    intro howned
    obtain ⟨hbefore, hafter⟩ := eq_empty_of_includes_append h hincludes howned
    exact hlonger.elim (· hbefore) (· hafter)
  · rw [owns, owns, hab]

/-- The Kelvin sign is a `k` up to case, a dot stands for itself, and a line feed at the end
counts. -/
example : (ofAlias "k. (1)").toOption.map (fun signature =>
    ["K. (1)", "\u212A. (1)", "k- (1)", "k. (1)\n"].map signature.includes) =
      some [true, true, false, false] := by
  decide +kernel

end AliasSignature

end TapTracker
