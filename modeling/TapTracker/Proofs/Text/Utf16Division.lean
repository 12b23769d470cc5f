import TapTracker.Proofs.Text.Utf16

/-!
# Units that are no text

Not every list of units is a text in UTF-16: there may be surrogates without a partner among them.
Such a list is still divided in one way into `Part`s, each of which is a character or a single
surrogate without a partner next to it (`IsDivision`, `IsDivision.unique`, `exists_isDivision`).

What is read is one character for each part: the character itself, or U+FFFD for the surrogate
(`IsDivision.decode_eq`).  Of a stored text only the units before the first zero are divided
(`UnitsBeforeZero`), and none of the characters read from them is the zero character.
-/

namespace TapTracker.Text.Utf16

/-! ### Divisions -/

/-- A part of a list of units. -/
inductive Part
  | char (c : Char)
  /-- A surrogate that stands alone. -/
  | lone (u : UInt16)

namespace Part

/-- The units of the part. -/
def units : Part → List UInt16
  | char c => encodeChar c
  | lone u => [u]

/-- The character that is read for the part. -/
def shown : Part → Char
  | char c => c
  | lone _ => replacement

end Part

/-- A unit between others is a surrogate, and its partner is not next to it. -/
def IsUnpaired (before : List UInt16) (u : UInt16) (after : List UInt16) : Prop :=
  (isHigh u = true ∧ ∀ v ∈ after.head?, isLow v = false) ∨
    (isLow u = true ∧ ∀ v ∈ before.getLast?, isHigh v = false)

/-- The parts make up the units, and every surrogate among them that is a part of its own has no
partner. -/
structure IsDivision (us : List UInt16) (parts : List Part) : Prop where
  units_eq : parts.flatMap Part.units = us
  unpaired : ∀ before u after, parts = before ++ .lone u :: after →
    IsUnpaired (before.flatMap Part.units) u (after.flatMap Part.units)

/-! ### Characters and their units -/

section Characters

variable {u v : UInt16} {c : Char} {rest rest' : List UInt16}

/-- No unit is a surrogate of both kinds. -/
lemma isHigh_eq_false_of_isLow (h : isLow u = true) : isHigh u = false := by
  have hrange := isLow_iff.1 h
  rw [← Bool.not_eq_true, isHigh_iff]
  omega

/-- A unit that is no surrogate is the unit of a character. -/
lemma encodeChar_unitChar (hhigh : isHigh u = false) (hlow : isLow u = false) :
    encodeChar (unitChar u) = [u] := by
  have hu : u.toNat < 0x10000 := u.toNat_lt
  have hvalid : u.toNat.isValidChar := by
    rw [← Bool.not_eq_true, isHigh_iff] at hhigh
    rw [← Bool.not_eq_true, isLow_iff] at hlow
    unfold Nat.isValidChar
    omega
  rw [unitChar, hhigh, hlow, Bool.or_self, if_neg Bool.false_ne_true, encodeChar,
    toNat_ofNat_of_isValidChar hvalid, if_pos hu, UInt16.ofNat_toNat]

/-- Two halves are the units of a character. -/
lemma encodeChar_pairChar (hhigh : isHigh u = true) (hlow : isLow v = true) :
    encodeChar (pairChar u v) = [u, v] := by
  have hu := isHigh_iff.1 hhigh
  have hv := isLow_iff.1 hlow
  have hvalid : (0x10000 + (u.toNat - 0xD800) * 0x400 + (v.toNat - 0xDC00)).isValidChar := by
    unfold Nat.isValidChar
    omega
  have hfirst : 0xD800 + ((u.toNat - 0xD800) * 0x400 + (v.toNat - 0xDC00)) / 0x400 = u.toNat := by
    omega
  have hsecond :
      0xDC00 + ((u.toNat - 0xD800) * 0x400 + (v.toNat - 0xDC00)) % 0x400 = v.toNat := by
    omega
  rw [encodeChar, pairChar, toNat_ofNat_of_isValidChar hvalid, if_neg (by omega), Nat.add_assoc,
    Nat.add_sub_cancel_left, hfirst, hsecond, UInt16.ofNat_toNat, UInt16.ofNat_toNat]

/-- Every character has a unit. -/
lemma encodeChar_ne_nil (c : Char) : encodeChar c ≠ [] := by
  rcases encodeChar_cases c with ⟨u, hunits, -⟩ | ⟨u, v, hunits, -⟩ <;> simp [hunits]

/-- The units of a character do not end with the first of two halves. -/
lemma isHigh_eq_false_of_mem_getLast? (h : u ∈ (encodeChar c).getLast?) : isHigh u = false := by
  rcases encodeChar_cases c with ⟨x, hunits, hx⟩ | ⟨x, y, hunits, hxy⟩
  · rw [hunits] at h
    obtain rfl := Option.some_inj.1 h
    exact hx.not_high
  · rw [hunits] at h
    obtain rfl := Option.some_inj.1 h
    exact isHigh_eq_false_of_isLow hxy.low

/-- The first unit of a character is no surrogate, or its partner comes next. -/
lemma not_isUnpaired_of_encodeChar (hunits : encodeChar c ++ rest = u :: rest') :
    ¬ IsUnpaired [] u rest' := by
  rcases encodeChar_cases c with ⟨x, hx, hsingle⟩ | ⟨x, y, hxy, hpair⟩
  · rw [hx, List.singleton_append] at hunits
    obtain ⟨rfl, rfl⟩ := List.cons_eq_cons.1 hunits
    rintro (⟨hhigh, -⟩ | ⟨hlow, -⟩)
    · exact absurd hhigh (Bool.eq_false_iff.1 hsingle.not_high)
    · exact absurd hlow (Bool.eq_false_iff.1 hsingle.not_low)
  · rw [hxy, List.cons_append, List.singleton_append] at hunits
    obtain ⟨rfl, rfl⟩ := List.cons_eq_cons.1 hunits
    rintro (⟨-, hafter⟩ | ⟨hlow, -⟩)
    · exact absurd hpair.low (Bool.eq_false_iff.1 (hafter y rfl))
    · exact absurd hpair.high (Bool.eq_false_iff.1 (isHigh_eq_false_of_isLow hlow))

end Characters

/-! ### Units in front of others -/

section Unpaired

variable {u : UInt16} {more before after : List UInt16}

/-- A unit without a partner has none if the first units before it are left out. -/
lemma IsUnpaired.of_append_left (h : IsUnpaired (more ++ before) u after) :
    IsUnpaired before u after := by
  refine h.imp_right fun ⟨hlow, hbefore⟩ => ⟨hlow, fun v hv => hbefore v ?_⟩
  rw [List.getLast?_append, Option.mem_def.1 hv]
  rfl

/-- More units in front of a surrogate do not matter, unless they bring its partner to it. -/
lemma IsUnpaired.append_left (h : IsUnpaired before u after)
    (hmore : isLow u = true → before = [] → ∀ v ∈ more.getLast?, isHigh v = false) :
    IsUnpaired (more ++ before) u after := by
  refine h.imp_right fun ⟨hlow, hbefore⟩ => ⟨hlow, fun v hv => ?_⟩
  rw [List.getLast?_append] at hv
  cases hlast : before.getLast? with
  | none =>
    rw [hlast] at hv
    exact hmore hlow (List.getLast?_eq_none_iff.1 hlast) v hv
  | some w =>
    rw [hlast] at hv
    obtain rfl := Option.some_inj.1 hv
    exact hbefore w hlast

/-- A surrogate without a partner is read as U+FFFD. -/
lemma IsUnpaired.decode_cons (h : IsUnpaired [] u after) :
    decode (u :: after) = replacement :: decode after := by
  have hsurrogate : (isHigh u || isLow u) = true := by
    rw [Bool.or_eq_true]
    exact h.imp And.left And.left
  have hsingle : isHigh u = true → ∀ v ∈ after.head?, isLow v = false := by
    intro hhigh
    rcases h with ⟨-, hafter⟩ | ⟨hlow, -⟩
    · exact hafter
    · exact absurd hhigh (Bool.eq_false_iff.1 (isHigh_eq_false_of_isLow hlow))
  rw [decode_cons_of_not_pair hsingle, unitChar, if_pos hsurrogate]

end Unpaired

/-! ### Every list of units has one division -/

section Divisions

variable {us : List UInt16} {u : UInt16} {p q : Part} {parts parts' : List Part}

/-- The empty list of units has the empty division. -/
lemma isDivision_nil : IsDivision [] [] where
  units_eq := rfl
  unpaired before u after h := by cases before <;> cases h

/-- The units of a character can be put in front of a division. -/
lemma IsDivision.cons_char (h : IsDivision us parts) (c : Char) :
    IsDivision (encodeChar c ++ us) (.char c :: parts) where
  units_eq := by rw [List.flatMap_cons, h.units_eq]; rfl
  unpaired before u after hsplit := by
    cases before with
    | nil => cases hsplit
    | cons p before =>
      obtain ⟨rfl, hrest⟩ := List.cons_eq_cons.1 hsplit
      refine (h.unpaired before u after hrest).append_left fun _ _ v hv => ?_
      exact isHigh_eq_false_of_mem_getLast? hv

/-- A surrogate without a partner can be put in front of a division. -/
lemma IsDivision.cons_lone (h : IsDivision us parts) (hu : IsUnpaired [] u us) :
    IsDivision (u :: us) (.lone u :: parts) where
  units_eq := by rw [List.flatMap_cons, h.units_eq]; rfl
  unpaired before w after hsplit := by
    cases before with
    | nil =>
      obtain ⟨hw, rfl⟩ := List.cons_eq_cons.1 hsplit
      obtain rfl := Part.lone.inj hw
      rw [h.units_eq]
      exact hu
    | cons p before =>
      rw [List.cons_append] at hsplit
      obtain ⟨rfl, hrest⟩ := List.cons_eq_cons.1 hsplit
      refine (h.unpaired before w after hrest).append_left fun hlow hbefore v hv => ?_
      obtain rfl := Option.some_inj.1 hv
      have hhead : us.head? = some w := by
        rw [← h.units_eq, hrest, List.flatMap_append, hbefore]
        rfl
      rcases hu with ⟨-, hafter⟩ | ⟨hlow', -⟩
      · exact absurd hlow (Bool.eq_false_iff.1 (hafter w hhead))
      · exact isHigh_eq_false_of_isLow hlow'

/-- A division without its first part is a division of the other units. -/
lemma IsDivision.tail (h : IsDivision us (p :: parts)) :
    IsDivision (parts.flatMap Part.units) parts where
  units_eq := rfl
  unpaired before u after hsplit := by
    have hu := h.unpaired (p :: before) u after (congrArg (p :: ·) hsplit)
    rw [List.flatMap_cons] at hu
    exact hu.of_append_left

/-- A surrogate that is the first part of a division has no partner after it. -/
lemma IsDivision.isUnpaired_head (h : IsDivision us (.lone u :: parts)) :
    IsUnpaired [] u (parts.flatMap Part.units) :=
  h.unpaired [] u parts rfl

/-- A unit that is not the first of two halves is a part by itself. -/
lemma exists_isDivision_cons (hpair : isHigh u = true → ∀ v ∈ us.head?, isLow v = false)
    (h : ∃ parts, IsDivision us parts) : ∃ parts, IsDivision (u :: us) parts := by
  obtain ⟨parts, hparts⟩ := h
  cases hhigh : isHigh u with
  | true => exact ⟨_, hparts.cons_lone (.inl ⟨hhigh, hpair hhigh⟩)⟩
  | false =>
    cases hlow : isLow u with
    | true => exact ⟨_, hparts.cons_lone (.inr ⟨hlow, fun v hv => by cases hv⟩)⟩
    | false =>
      have hchar := hparts.cons_char (unitChar u)
      rw [encodeChar_unitChar hhigh hlow] at hchar
      exact ⟨_, hchar⟩

/-- Any units can be divided. -/
theorem exists_isDivision (us : List UInt16) : ∃ parts, IsDivision us parts := by
  induction us using decode.induct with
  | case1 => exact ⟨[], isDivision_nil⟩
  | case2 u => exact exists_isDivision_cons (fun _ v hv => by cases hv) ⟨[], isDivision_nil⟩
  | case3 u v rest hpair ih =>
    obtain ⟨parts, hparts⟩ := ih
    obtain ⟨hhigh, hlow⟩ := Bool.and_eq_true_iff.1 hpair
    have hchar := hparts.cons_char (pairChar u v)
    rw [encodeChar_pairChar hhigh hlow] at hchar
    exact ⟨_, hchar⟩
  | case4 u v rest hpair ih =>
    refine exists_isDivision_cons (fun hhigh w hw => ?_) ih
    obtain rfl := Option.some_inj.1 hw
    rw [hhigh, Bool.true_and, Bool.not_eq_true] at hpair
    exact hpair

/-- What is read is one character for each part. -/
theorem IsDivision.decode_eq (h : IsDivision us parts) : decode us = parts.map Part.shown := by
  induction parts generalizing us with
  | nil =>
    rw [← h.units_eq]
    rfl
  | cons p parts ih =>
    have hrest := ih h.tail
    rw [← h.units_eq, List.flatMap_cons, List.map_cons, ← hrest]
    cases p with
    | char c => exact decode_encodeChar_append c _
    | lone u => exact h.isUnpaired_head.decode_cons

/-- The first parts of two divisions are the same. -/
lemma IsDivision.head_eq (h : IsDivision us (p :: parts)) (h' : IsDivision us (q :: parts')) :
    p = q := by
  have hunits := h.units_eq.trans h'.units_eq.symm
  rw [List.flatMap_cons, List.flatMap_cons] at hunits
  cases p with
  | char c =>
    cases q with
    | char d =>
      have hread := congrArg decode hunits
      change decode (encodeChar c ++ _) = decode (encodeChar d ++ _) at hread
      rw [decode_encodeChar_append, decode_encodeChar_append] at hread
      rw [(List.cons_eq_cons.1 hread).1]
    | lone v => exact absurd h'.isUnpaired_head (not_isUnpaired_of_encodeChar hunits)
  | lone u =>
    cases q with
    | char d => exact absurd h.isUnpaired_head (not_isUnpaired_of_encodeChar hunits.symm)
    | lone v => rw [(List.cons_eq_cons.1 hunits).1]

/-- The empty list of units has no other division than the empty one. -/
lemma IsDivision.eq_nil (h : IsDivision [] parts) : parts = [] := by
  cases parts with
  | nil => rfl
  | cons p parts =>
    have hunits := (List.append_eq_nil_iff.1 h.units_eq).1
    cases p with
    | char c => exact absurd hunits (encodeChar_ne_nil c)
    | lone u => cases hunits

/-- Units are divided in one way only. -/
theorem IsDivision.unique (h : IsDivision us parts) (h' : IsDivision us parts') :
    parts = parts' := by
  induction parts generalizing us parts' with
  | nil =>
    obtain rfl := h.units_eq
    exact h'.eq_nil.symm
  | cons p parts ih =>
    cases parts' with
    | nil =>
      obtain rfl := h'.units_eq
      exact h.eq_nil
    | cons q parts' =>
      obtain rfl := h.head_eq h'
      have hunits := h.units_eq.trans h'.units_eq.symm
      rw [List.flatMap_cons, List.flatMap_cons] at hunits
      have htail := h.tail
      rw [List.append_cancel_left hunits] at htail
      rw [ih htail h'.tail]

end Divisions

/-! ### Stored texts -/

/-- The zero character is not read for a part without zero units. -/
lemma Part.shown_ne_zero {p : Part} (h : 0 ∉ p.units) : p.shown ≠ '\x00' := by
  cases p with
  | char c =>
    rintro rfl
    exact h (by decide)
  | lone u =>
    change replacement ≠ '\x00'
    decide

/-- No zero character is read from units without zeros. -/
lemma IsDivision.zero_not_mem {us : List UInt16} {parts : List Part} (h : IsDivision us parts)
    (hzero : 0 ∉ us) : '\x00' ∉ parts.map Part.shown := by
  intro hmem
  obtain ⟨p, hp, hshown⟩ := List.mem_map.1 hmem
  refine Part.shown_ne_zero (fun hunit => hzero ?_) hshown
  rw [← h.units_eq]
  exact List.mem_flatMap.2 ⟨p, hp, hunit⟩

/-- A text without zero characters is read back from its units, whether they end there or a zero and
any other units follow, and bytes are read like the units that they make up, with or without an odd
one at the end.  Of any units only those in front of the first zero are read.  They are divided in
one way into the units of characters and surrogates without a partner, and what is read is one
character for each part: the character itself, or U+FFFD for the surrogate.  None of these is the
zero character. -/
theorem decodeStored_reads :
    (∀ (s : String) (us : List UInt16), '\x00' ∉ s.toList →
      (us = encode s.toList ∨ ∃ rest, us = encode s.toList ++ 0 :: rest) →
      decodeStored us = s ∧
        ∀ extra : List UInt8, extra.length ≤ 1 → decodeBytes (bytesOfUnits us ++ extra) = s) ∧
    ∀ us : List UInt16, ∃ stored parts,
      UnitsBeforeZero us stored ∧ IsDivision stored parts ∧
      (∀ stored' parts', UnitsBeforeZero us stored' → IsDivision stored' parts' →
        stored' = stored ∧ parts' = parts) ∧
      decodeStored us = String.ofList (parts.map Part.shown) ∧
      '\x00' ∉ (decodeStored us).toList ∧
      ∀ extra : List UInt8, extra.length ≤ 1 →
        decodeBytes (bytesOfUnits us ++ extra) = decodeStored us := by
  refine ⟨fun s us hs hus => ?_, fun us => ?_⟩
  · have hread : decodeStored us = s := (unitsBeforeZero_encode hs hus).decodeStored_encode
    exact ⟨hread, fun extra hextra => (decodeBytes_bytesOfUnits_append us hextra).trans hread⟩
  · obtain ⟨stored, hstored⟩ := exists_unitsBeforeZero us
    obtain ⟨parts, hparts⟩ := exists_isDivision stored
    have hread : decodeStored us = String.ofList (parts.map Part.shown) := by
      rw [hstored.decodeStored_eq, hparts.decode_eq]
    refine ⟨stored, parts, hstored, hparts, fun stored' parts' hstored' hparts' => ?_, hread, ?_,
      fun extra hextra => decodeBytes_bytesOfUnits_append us hextra⟩
    · obtain rfl := hstored'.unique hstored
      exact ⟨rfl, hparts'.unique hparts⟩
    · rw [hread, String.toList_ofList]
      exact hparts.zero_not_mem hstored.no_zero

/-- A character of two halves is read back, and two halves in the wrong order are not joined. -/
theorem decodeStored_reads_of_halves :
    ('\x00' ∉ "a😀".toList ∧ ([7] : List UInt8).length ≤ 1 ∧
      decodeStored (encode "a😀".toList ++ 0 :: [0xD83D]) = "a😀" ∧
      decodeBytes (bytesOfUnits (encode "a😀".toList ++ 0 :: [0xD83D]) ++ [7]) = "a😀") ∧
    UnitsBeforeZero [0xDE00, 0xD83D, 0x61, 0] [0xDE00, 0xD83D, 0x61] ∧
    IsDivision [0xDE00, 0xD83D, 0x61] [.lone 0xDE00, .lone 0xD83D, .char 'a'] ∧
    decodeStored [0xDE00, 0xD83D, 0x61, 0] = "\uFFFD\uFFFDa" := by
  have hstored : UnitsBeforeZero [0xDE00, 0xD83D, 0x61, 0] [0xDE00, 0xD83D, 0x61] :=
    ⟨by decide, .inr ⟨[], rfl⟩⟩
  have hparts : IsDivision [0xDE00, 0xD83D, 0x61] [.lone 0xDE00, .lone 0xD83D, .char 'a'] := by
    have hchar : IsDivision [0x61] [.char 'a'] := isDivision_nil.cons_char 'a'
    have hhigh : IsUnpaired [] 0xD83D [0x61] := .inl ⟨by decide, by simp [isLow]⟩
    have hlow : IsUnpaired [] 0xDE00 [0xD83D, 0x61] := .inr ⟨by decide, by simp⟩
    exact (hchar.cons_lone hhigh).cons_lone hlow
  obtain ⟨hencoded, hany⟩ := decodeStored_reads
  obtain ⟨hread, hbytes⟩ := hencoded "a😀" _ (by decide) (.inr ⟨[0xD83D], rfl⟩)
  obtain ⟨stored, parts, -, -, hunique, hshown, -⟩ := hany [0xDE00, 0xD83D, 0x61, 0]
  obtain ⟨rfl, rfl⟩ := hunique _ _ hstored hparts
  exact ⟨⟨by decide, by decide, hread, hbytes [7] (by decide)⟩, hstored, hparts, hshown⟩

end TapTracker.Text.Utf16
