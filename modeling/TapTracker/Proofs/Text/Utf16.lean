import TapTracker.Proofs.Text.CodePoint
import TapTracker.Text.Utf16

/-!
# Reading back what was written in UTF-16

A character takes one unit that is no surrogate, or a high surrogate and a low one; either way it is
read back before whatever units follow it (`decode_encodeChar_append`).  No unit of it is zero
unless the character is the zero character, so that the units of a text without zero characters are
read back in full, be it that they end the stored units or that a zero follows them
(`UnitsBeforeZero`, `UnitsBeforeZero.decodeStored_encode`).  Bytes give back the units that they
were made of, whether or not there is an odd byte after them (`unitsOfBytes_bytesOfUnits_append`).
-/

namespace TapTracker.Text.Utf16

/-! ### Units of characters -/

section Units

variable {u v : UInt16} {c : Char}

/-- The first halves are a range of the units. -/
lemma isHigh_iff : isHigh u = true ↔ 0xD800 ≤ u.toNat ∧ u.toNat < 0xDC00 := by
  simp [isHigh, UInt16.le_iff_toNat_le, UInt16.lt_iff_toNat_lt]

/-- The second halves are a range of the units. -/
lemma isLow_iff : isLow u = true ↔ 0xDC00 ≤ u.toNat ∧ u.toNat < 0xE000 := by
  simp [isLow, UInt16.le_iff_toNat_le, UInt16.lt_iff_toNat_lt]

/-- A number of 16 bits is the number of its unit. -/
lemma toNat_ofNat_of_lt {n : Nat} (h : n < 0x10000) : (UInt16.ofNat n).toNat = n :=
  UInt16.toNat_ofNat_of_lt' h

/-- A unit is read by itself unless it is the first of two halves. -/
lemma decode_cons_of_not_pair {rest : List UInt16}
    (h : isHigh u = true → ∀ v ∈ rest.head?, isLow v = false) :
    decode (u :: rest) = unitChar u :: decode rest := by
  cases rest with
  | nil => rfl
  | cons v rest =>
    have hpair : (isHigh u && isLow v) = false := by
      cases hu : isHigh u with
      | false => rfl
      | true => exact h hu v rfl
    rw [decode, hpair, if_neg Bool.false_ne_true]

/-- Two halves are read together. -/
lemma decode_pair (hu : isHigh u = true) (hv : isLow v = true) (rest : List UInt16) :
    decode (u :: v :: rest) = pairChar u v :: decode rest := by
  rw [decode, hu, hv, Bool.and_self, if_pos rfl]

/-- A unit that is no surrogate stands for the character with this code point. -/
structure IsUnitOf (u : UInt16) (c : Char) : Prop where
  not_high : isHigh u = false
  not_low : isLow u = false
  shown : unitChar u = c

/-- Two halves stand for a character. -/
structure IsPairOf (u v : UInt16) (c : Char) : Prop where
  high : isHigh u = true
  low : isLow v = true
  shown : pairChar u v = c

/-- A character has one unit or two halves. -/
lemma encodeChar_cases (c : Char) :
    (∃ u, encodeChar c = [u] ∧ IsUnitOf u c) ∨ ∃ u v, encodeChar c = [u, v] ∧ IsPairOf u v c := by
  have hvalid := toNat_lt_or_lt c
  unfold encodeChar
  split
  next hsmall =>
    have hunit : (UInt16.ofNat c.toNat).toNat = c.toNat := toNat_ofNat_of_lt hsmall
    have hhigh : isHigh (UInt16.ofNat c.toNat) = false := by
      rw [← Bool.not_eq_true, isHigh_iff, hunit]
      omega
    have hlow : isLow (UInt16.ofNat c.toNat) = false := by
      rw [← Bool.not_eq_true, isLow_iff, hunit]
      omega
    have hchar : unitChar (UInt16.ofNat c.toNat) = c := by
      rw [unitChar, hhigh, hlow, Bool.or_self, if_neg Bool.false_ne_true, hunit, Char.ofNat_toNat]
    exact .inl ⟨_, rfl, hhigh, hlow, hchar⟩
  next hlarge =>
    have hquotient : (c.toNat - 0x10000) / 0x400 < 0x400 := by omega
    have hremainder : (c.toNat - 0x10000) % 0x400 < 0x400 := Nat.mod_lt _ (by decide)
    have hhigh : (UInt16.ofNat (0xD800 + (c.toNat - 0x10000) / 0x400)).toNat =
        0xD800 + (c.toNat - 0x10000) / 0x400 := toNat_ofNat_of_lt (by omega)
    have hlow : (UInt16.ofNat (0xDC00 + (c.toNat - 0x10000) % 0x400)).toNat =
        0xDC00 + (c.toNat - 0x10000) % 0x400 := toNat_ofNat_of_lt (by omega)
    have hpoint : 0x10000 + (c.toNat - 0x10000) / 0x400 * 0x400 + (c.toNat - 0x10000) % 0x400 =
        c.toNat := by omega
    refine .inr ⟨_, _, rfl, isHigh_iff.2 (by omega), isLow_iff.2 (by omega), ?_⟩
    rw [pairChar, hhigh, hlow, Nat.add_sub_cancel_left, Nat.add_sub_cancel_left, hpoint,
      Char.ofNat_toNat]

/-- A character is read back, whatever follows its units. -/
lemma decode_encodeChar_append (c : Char) (rest : List UInt16) :
    decode (encodeChar c ++ rest) = c :: decode rest := by
  rcases encodeChar_cases c with ⟨u, hunits, hu⟩ | ⟨u, v, hunits, huv⟩
  · have hsingle : isHigh u = true → ∀ v ∈ rest.head?, isLow v = false := by
      rw [hu.not_high]
      rintro ⟨⟩
    rw [hunits, List.singleton_append, decode_cons_of_not_pair hsingle, hu.shown]
  · rw [hunits, List.cons_append, List.singleton_append, decode_pair huv.high huv.low, huv.shown]

/-- Only the zero character has a zero unit. -/
lemma ne_zero_of_mem_encodeChar (hc : c ≠ '\x00') (hu : u ∈ encodeChar c) : u ≠ 0 := by
  have hvalid := toNat_lt_or_lt c
  rintro rfl
  unfold encodeChar at hu
  split at hu
  next hsmall =>
    have hzero := congrArg UInt16.toNat (List.mem_singleton.1 hu)
    rw [toNat_ofNat_of_lt hsmall] at hzero
    exact hc (Char.toNat_inj.1 hzero.symm)
  next hlarge =>
    rcases List.mem_cons.1 hu with hhigh | hlow
    · have hzero := congrArg UInt16.toNat hhigh
      rw [toNat_ofNat_of_lt (by omega)] at hzero
      exact absurd hzero.symm (Nat.ne_of_gt (Nat.lt_add_right _ (by decide)))
    · have hzero := congrArg UInt16.toNat (List.mem_singleton.1 hlow)
      rw [toNat_ofNat_of_lt (by omega)] at hzero
      exact absurd hzero.symm (Nat.ne_of_gt (Nat.lt_add_right _ (by decide)))

end Units

/-! ### Texts -/

/-- A text is read back before whatever units follow it. -/
lemma decode_encode_append (cs : List Char) (rest : List UInt16) :
    decode (encode cs ++ rest) = cs ++ decode rest := by
  induction cs with
  | nil => rfl
  | cons c cs ih =>
    rw [encode, List.flatMap_cons, List.append_assoc, decode_encodeChar_append, List.cons_append]
    exact congrArg (c :: ·) ih

/-- A text without zero characters has no zero unit. -/
lemma ne_zero_of_mem_encode {cs : List Char} (hcs : '\x00' ∉ cs) {u : UInt16}
    (hu : u ∈ encode cs) : u ≠ 0 := by
  obtain ⟨c, hc, hmem⟩ := List.mem_flatMap.1 hu
  have hne : c ≠ '\x00' := fun hzero => hcs (hzero ▸ hc)
  exact ne_zero_of_mem_encodeChar hne hmem

/-! ### Stored texts -/

/-- The units in front of the first zero, or all of them if there is none. -/
structure UnitsBeforeZero (us stored : List UInt16) : Prop where
  no_zero : 0 ∉ stored
  rest : us = stored ∨ ∃ rest, us = stored ++ 0 :: rest

section Stored

variable {us stored stored' : List UInt16} {s : String}

/-- Every list of units has a part in front of its first zero. -/
lemma exists_unitsBeforeZero (us : List UInt16) : ∃ stored, UnitsBeforeZero us stored := by
  induction us with
  | nil => exact ⟨[], List.not_mem_nil, .inl rfl⟩
  | cons u us ih =>
    by_cases hu : u = 0
    · subst hu
      exact ⟨[], List.not_mem_nil, .inr ⟨us, rfl⟩⟩
    · obtain ⟨stored, hzero, hrest⟩ := ih
      refine ⟨u :: stored, List.not_mem_cons_of_ne_of_not_mem (Ne.symm hu) hzero, ?_⟩
      rcases hrest with rfl | ⟨rest, rfl⟩
      · exact .inl rfl
      · exact .inr ⟨rest, rfl⟩

namespace UnitsBeforeZero

/-- The units in front of the first zero are those that are taken while there is none. -/
lemma takeWhile_eq (h : UnitsBeforeZero us stored) : us.takeWhile (· ≠ 0) = stored := by
  have hall : ∀ u ∈ stored, decide (u ≠ 0) = true := fun u hu =>
    decide_eq_true fun hzero => h.no_zero (hzero ▸ hu)
  rcases h.rest with rfl | ⟨rest, rfl⟩
  · rw [← List.append_nil us, List.takeWhile_append_of_pos (by simpa using hall)]
    rfl
  · rw [List.takeWhile_append_of_pos hall]
    exact List.append_nil _

/-- There is only one part in front of the first zero. -/
lemma unique (h : UnitsBeforeZero us stored) (h' : UnitsBeforeZero us stored') :
    stored = stored' :=
  h.takeWhile_eq.symm.trans h'.takeWhile_eq

/-- Only the units in front of the first zero are read. -/
lemma decodeStored_eq (h : UnitsBeforeZero us stored) :
    decodeStored us = String.ofList (decode stored) := by
  rw [decodeStored, h.takeWhile_eq]

/-- A text whose units are all that is in front of the first zero is read back. -/
lemma decodeStored_encode (h : UnitsBeforeZero us (encode s.toList)) : decodeStored us = s := by
  have hdecoded := decode_encode_append s.toList []
  rw [List.append_nil] at hdecoded
  rw [h.decodeStored_eq, hdecoded, decode, List.append_nil, String.ofList_toList]

end UnitsBeforeZero

/-- The units of a text without zero characters are all that is in front of the first zero, if they
end there or a zero follows. -/
lemma unitsBeforeZero_encode (hs : '\x00' ∉ s.toList)
    (hus : us = encode s.toList ∨ ∃ rest, us = encode s.toList ++ 0 :: rest) :
    UnitsBeforeZero us (encode s.toList) :=
  ⟨fun hzero => ne_zero_of_mem_encode hs hzero rfl, hus⟩

end Stored

/-! ### Bytes -/

section Bytes

variable (us : List UInt16) {extra : List UInt8}

/-- Bytes give back the units that they were made of, and an odd byte after them is no unit. -/
lemma unitsOfBytes_bytesOfUnits_append (hextra : extra.length ≤ 1) :
    unitsOfBytes (bytesOfUnits us ++ extra) = us := by
  induction us with
  | nil =>
    match extra, hextra with
    | [], _ => rfl
    | [b], _ => rfl
  | cons u us ih =>
    have hu : u.toNat < 0x10000 := u.toNat_lt
    have hlow : (UInt8.ofNat (u.toNat % 0x100)).toNat = u.toNat % 0x100 :=
      UInt8.toNat_ofNat_of_lt' (Nat.mod_lt _ (by decide))
    have hhigh : (UInt8.ofNat (u.toNat / 0x100)).toNat = u.toNat / 0x100 := by
      refine UInt8.toNat_ofNat_of_lt' ?_
      change u.toNat / 0x100 < 0x100
      omega
    have hunit : u.toNat % 0x100 + 0x100 * (u.toNat / 0x100) = u.toNat := Nat.mod_add_div _ _
    rw [bytesOfUnits, List.flatMap_cons, List.append_assoc, List.cons_append,
      List.singleton_append, unitsOfBytes, hlow, hhigh, hunit, UInt16.ofNat_toNat]
    exact congrArg (u :: ·) ih

/-- The bytes of units are read like the units, with or without an odd byte after them. -/
lemma decodeBytes_bytesOfUnits_append (hextra : extra.length ≤ 1) :
    decodeBytes (bytesOfUnits us ++ extra) = decodeStored us := by
  rw [decodeBytes, unitsOfBytes_bytesOfUnits_append us hextra]

end Bytes

/-- The bytes of a text without zero characters, with a zero unit at their end, are read back. -/
lemma decodeBytes_bytesOfUnits {s : String} (h : '\x00' ∉ s.toList) :
    decodeBytes (bytesOfUnits (encode s.toList ++ [0])) = s := by
  have hnone : ([] : List UInt8).length ≤ 1 := by decide
  have hbytes := decodeBytes_bytesOfUnits_append (encode s.toList ++ [0]) hnone
  rw [List.append_nil] at hbytes
  rw [hbytes]
  exact (unitsBeforeZero_encode h (.inr ⟨[], rfl⟩)).decodeStored_encode

end TapTracker.Text.Utf16
