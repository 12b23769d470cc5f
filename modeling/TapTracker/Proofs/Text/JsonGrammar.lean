import TapTracker.Proofs.Text.JsonReader

/-!
# The grammar of JSON

`Json.IsTextOf text v` says by the rules of the grammar that a text is a text of a value.  Each rule
is a relation between a text, what its beginning stands for, and the rest of the text:
`BlankText` for white space, `MarkText` for brackets, braces, commas and colons, `LetterText` and
`LettersText` for strings, and `ValueText`, `ItemsText` and `MembersText` for values.  White space
is allowed around marks and around the whole.  A character beyond U+FFFF stands for itself; the
escape that takes two halves for it is left out, like numbers and `null`.

Both forms in which values are written obey the grammar (`isTextOf_pretty`, `isTextOf_compact`), and
whatever obeys it is read as its value (`IsTextOf.read_eq`).  So a text is a text of one value at
most, and no two values are ever written alike.
-/

namespace TapTracker.Text.Json

/-! ### Rules -/

/-- Any amount of white space. -/
inductive BlankText : List Char → List Char → Prop
  | none {t : List Char} : BlankText t t
  | cons {c : Char} {t r : List Char} (hblank : c ∈ [' ', '\t', '\n', '\r']) (h : BlankText t r) :
      BlankText (c :: t) r

/-- The characters that are no part of a string, `true` or `false`. -/
def marks : List Char := ['[', ']', '\x7b', '\x7d', ',', ':']

/-- A mark with white space around it. -/
inductive MarkText (c : Char) : List Char → List Char → Prop
  | mk {t u r : List Char} (before : BlankText t (c :: u)) (after : BlankText u r) : MarkText c t r

/-- A character in one of the ways in which it can be written in a string. -/
inductive LetterText : List Char → Char → List Char → Prop
  | plain {c : Char} {r : List Char} (hcontrol : ¬ c.toNat < 0x20) (hquote : c ≠ '"')
      (hbackslash : c ≠ '\\') : LetterText (c :: r) c r
  | short {e c : Char} {r : List Char} (hescape : charOfEscape? e = some c) :
      LetterText ('\\' :: e :: r) c r
  | code {c₁ c₂ c₃ c₄ c : Char} {r : List Char} (hcode : charOfHex? [c₁, c₂, c₃, c₄] = some c) :
      LetterText ('\\' :: 'u' :: c₁ :: c₂ :: c₃ :: c₄ :: r) c r

/-- The characters of a string up to its closing quotation mark. -/
inductive LettersText : List Char → List Char → List Char → Prop
  | close {r : List Char} : LettersText ('"' :: r) [] r
  | cons {t u r cs : List Char} {c : Char} (first : LetterText t c u) (rest : LettersText u cs r) :
      LettersText t (c :: cs) r

mutual

/-- A value. -/
inductive ValueText : List Char → Json → List Char → Prop
  | string {t r : List Char} {s : String} (letters : LettersText t s.toList r) :
      ValueText ('"' :: t) (.string s) r
  | bool {r : List Char} (b : Bool) : ValueText (boolText b ++ r) (.bool b) r
  | emptyArray {t u r : List Char} (opened : MarkText '[' t u) (closed : MarkText ']' u r) :
      ValueText t (.array []) r
  | array {t u w r : List Char} {items : List Json} (opened : MarkText '[' t u)
      (inside : ItemsText u items w) (closed : MarkText ']' w r) : ValueText t (.array items) r
  | emptyObject {t u r : List Char} (opened : MarkText '\x7b' t u) (closed : MarkText '\x7d' u r) :
      ValueText t (.object []) r
  | object {t u w r : List Char} {members : List (String × Json)} (opened : MarkText '\x7b' t u)
      (inside : MembersText u members w) (closed : MarkText '\x7d' w r) :
      ValueText t (.object members) r

/-- One or more elements with commas between them. -/
inductive ItemsText : List Char → List Json → List Char → Prop
  | last {t r : List Char} {v : Json} (value : ValueText t v r) : ItemsText t [v] r
  | cons {t u w r : List Char} {v : Json} {items : List Json} (value : ValueText t v u)
      (comma : MarkText ',' u w) (rest : ItemsText w items r) : ItemsText t (v :: items) r

/-- One or more members with commas between them. -/
inductive MembersText : List Char → List (String × Json) → List Char → Prop
  | last {t u w r : List Char} {name : String} {v : Json} (letters : LettersText t name.toList u)
      (colon : MarkText ':' u w) (value : ValueText w v r) :
      MembersText ('"' :: t) [(name, v)] r
  | cons {t u w x y r : List Char} {name : String} {v : Json} {members : List (String × Json)}
      (letters : LettersText t name.toList u) (colon : MarkText ':' u w) (value : ValueText w v x)
      (comma : MarkText ',' x y) (rest : MembersText y members r) :
      MembersText ('"' :: t) ((name, v) :: members) r

end

/-- The text is a text of the value. -/
def IsTextOf (text : String) (v : Json) : Prop :=
  ∃ t r, BlankText text.toList t ∧ ValueText t v r ∧ BlankText r []

/-! ### What obeys the grammar is read -/

section Tokens

variable {t r cs : List Char}

/-- White space is no token. -/
lemma BlankText.lex_eq (h : BlankText t r) : lex t = lex r := by
  induction h with
  | none => rfl
  | cons hblank h ih =>
    rw [← ih]
    simp only [List.mem_cons, List.not_mem_nil, or_false] at hblank
    rcases hblank with rfl | rfl | rfl | rfl <;> rfl

/-- A mark is a token of its own. -/
lemma lex_mark {c : Char} (hc : c ∈ marks) (t : List Char) : lex (c :: t) = .mark c :: lex t := by
  simp only [marks, List.mem_cons, List.not_mem_nil, or_false] at hc
  rcases hc with rfl | rfl | rfl | rfl | rfl | rfl <;> rfl

/-- A mark with white space around it is one token. -/
lemma MarkText.lex_eq {c : Char} (h : MarkText c t r) (hc : c ∈ marks := by decide) :
    lex t = .mark c :: lex r := by
  obtain ⟨before, after⟩ := h
  rw [before.lex_eq, lex_mark hc, after.lex_eq]

/-- A truth value is one token. -/
lemma lex_boolText (b : Bool) (r : List Char) : lex (boolText b ++ r) = .truth b :: lex r := by
  cases b <;> rfl

/-- However a character is written in a string, it is read as this character. -/
lemma LetterText.lexText_eq {c : Char} (h : LetterText t c r) (before : List Char) :
    lexText before t = lexText (before ++ [c]) r := by
  cases h with
  | plain hcontrol hquote hbackslash =>
    rw [lexText, if_neg hcontrol]
    · exact hquote
    · exact hbackslash
  | @short e c r hescape =>
    have hcode : e ≠ 'u' := by
      rintro rfl
      cases hescape
    rw [lexText, hescape]
    rintro c₁ c₂ c₃ c₄ rest rfl
    exact absurd rfl hcode
  | code hcode => rw [lexText, hcode]

/-- The letters up to the closing quotation mark are read as the string that they write. -/
lemma LettersText.lexText_eq (h : LettersText t cs r) (before : List Char) :
    lexText before t = .text (String.ofList (before ++ cs)) :: lex r := by
  induction h generalizing before with
  | close => rw [lexText, List.append_nil]
  | cons first rest ih => rw [first.lexText_eq, ih, List.append_assoc, List.singleton_append]

/-- A string is one token. -/
lemma LettersText.lex_eq {s : String} (h : LettersText t s.toList r) :
    lex ('"' :: t) = .text s :: lex r := by
  rw [lex, h.lexText_eq, List.nil_append, String.ofList_toList]

mutual

/-- The text of a value has the tokens of the value. -/
theorem ValueText.lex_eq : ∀ {t r : List Char} {v : Json}, ValueText t v r →
    lex t = v.tokens ++ lex r
  | _, _, _, .string letters => letters.lex_eq
  | _, _, _, .bool b => lex_boolText b _
  | _, _, _, .emptyArray opened closed => by
    rw [opened.lex_eq, closed.lex_eq]
    rfl
  | _, _, _, .array opened inside closed => by
    rw [opened.lex_eq, inside.lex_eq, closed.lex_eq]
    simp [tokens]
  | _, _, _, .emptyObject opened closed => by
    rw [opened.lex_eq, closed.lex_eq]
    rfl
  | _, _, _, .object opened inside closed => by
    rw [opened.lex_eq, inside.lex_eq, closed.lex_eq]
    simp [tokens]

/-- The text of elements has the tokens of the elements. -/
theorem ItemsText.lex_eq : ∀ {t r : List Char} {items : List Json}, ItemsText t items r →
    lex t = itemTokens items ++ lex r
  | _, _, _, .last value => value.lex_eq
  | _, _, _, .cons value comma rest => by
    rw [value.lex_eq, comma.lex_eq, rest.lex_eq]
    cases rest <;> simp [itemTokens]

/-- The text of members has the tokens of the members. -/
theorem MembersText.lex_eq : ∀ {t r : List Char} {members : List (String × Json)},
    MembersText t members r → lex t = memberTokens members ++ lex r
  | _, _, _, .last letters colon value => by
    rw [letters.lex_eq, colon.lex_eq, value.lex_eq]
    rfl
  | _, _, _, .cons letters colon value comma rest => by
    rw [letters.lex_eq, colon.lex_eq, value.lex_eq, comma.lex_eq, rest.lex_eq]
    cases rest <;> simp [memberTokens]

end

end Tokens

/-- A text of a value is read as the value. -/
lemma IsTextOf.read_eq {text : String} {v : Json} (h : IsTextOf text v) : read text = some v := by
  obtain ⟨t, r, before, value, after⟩ := h
  have hlex : lex text.toList = v.tokens := by
    rw [before.lex_eq, value.lex_eq, after.lex_eq]
    exact List.append_nil _
  have hvalue := readValue_tokens v v.tokens.length [] (Nat.le_refl _)
  rw [List.append_nil] at hvalue
  rw [read, hlex, hvalue]

/-- A text is a text of one value at most. -/
lemma IsTextOf.unique {text : String} {v w : Json} (hv : IsTextOf text v) (hw : IsTextOf text w) :
    v = w :=
  Option.some_inj.1 (hv.read_eq.symm.trans hw.read_eq)

/-! ### What is written obeys the grammar -/

section Written

/-- The digits of a control character are read as that character. -/
lemma charOfHex?_hexDigit {c : Char} (h : c.toNat < 0x20) :
    charOfHex? ['0', '0', hexDigit (c.toNat / 16), hexDigit (c.toNat % 16)] = some c := by
  have hcode : ∀ n < 0x20,
      charOfHex? ['0', '0', hexDigit (n / 16), hexDigit (n % 16)] = some (Char.ofNat n) := by
    decide
  rw [hcode _ h, Char.ofNat_toNat]

/-- An escaped character is one of the ways to write the character. -/
lemma letterText_escapeChar (c : Char) (r : List Char) : LetterText (escapeChar c ++ r) c r := by
  unfold escapeChar
  split
  case h_8 hquote hbackslash _ _ _ _ _ =>
    split
    next hcontrol => exact .code (charOfHex?_hexDigit hcontrol)
    next hcontrol => exact .plain hcontrol hquote hbackslash
  all_goals exact .short rfl

/-- Escaped characters and a closing quotation mark are the letters of their string. -/
lemma lettersText_flatMap (cs r : List Char) :
    LettersText (cs.flatMap escapeChar ++ '"' :: r) cs r := by
  induction cs with
  | nil => exact .close
  | cons c cs ih =>
    rw [List.flatMap_cons, List.append_assoc]
    exact .cons (letterText_escapeChar c _) ih

/-- What `quote` writes is a quotation mark and the letters of a string. -/
lemma exists_quote_append (s : String) (r : List Char) :
    ∃ t, quote s ++ r = '"' :: t ∧ LettersText t s.toList r := by
  refine ⟨s.toList.flatMap escapeChar ++ '"' :: r, ?_, lettersText_flatMap s.toList r⟩
  rw [quote, List.append_assoc, List.cons_append, List.singleton_append]

/-- What `quote` writes is the text of a string. -/
lemma valueText_quote (s : String) (r : List Char) : ValueText (quote s ++ r) (.string s) r := by
  obtain ⟨t, ht, letters⟩ := exists_quote_append s r
  rw [ht]
  exact .string letters

/-- A mark without white space around it. -/
lemma MarkText.bare (c : Char) (r : List Char) : MarkText c (c :: r) r := ⟨.none, .none⟩

/-- A mark with one blank after it. -/
lemma MarkText.beforeBlank (c : Char) (r : List Char) : MarkText c (c :: ' ' :: r) r :=
  ⟨.none, .cons (by decide) .none⟩

/-- A new line at any depth is white space. -/
lemma blankText_newline (depth : Nat) (r : List Char) : BlankText (newline depth ++ r) r := by
  have hblanks : ∀ count, BlankText (List.replicate count ' ' ++ r) r := fun count => by
    induction count with
    | zero => exact .none
    | succ count ih => exact .cons (by decide) ih
  exact .cons (by decide) (hblanks _)

mutual

/-- The compact text of a value is a text of it, whatever follows. -/
theorem valueText_compactChars : ∀ (v : Json) (r : List Char), ValueText (v.compactChars ++ r) v r
  | .string s, r => valueText_quote s r
  | .bool b, r => .bool b
  | .array [], r => .emptyArray (.bare '[' _) (.bare ']' r)
  | .object [], r => .emptyObject (.bare '\x7b' _) (.bare '\x7d' r)
  | .array (v :: items), r => by
    have hinside := itemsText_compactItems (v :: items) (']' :: r) (by simp)
    rw [compactChars, List.append_assoc]
    exact .array (.bare '[' _) hinside (.bare ']' r)
  | .object (m :: members), r => by
    have hinside := membersText_compactMembers (m :: members) ('\x7d' :: r) (by simp)
    rw [compactChars, List.append_assoc]
    exact .object (.bare '\x7b' _) hinside (.bare '\x7d' r)

/-- What `compactItems` writes is a text of its elements. -/
theorem itemsText_compactItems : ∀ (items : List Json) (r : List Char), items ≠ [] →
    ItemsText (compactItems items ++ r) items r
  | [], r, h => absurd rfl h
  | [v], r, _ => .last (valueText_compactChars v r)
  | v :: w :: items, r, _ => by
    have hvalue := valueText_compactChars v (',' :: (compactItems (w :: items) ++ r))
    simp only [compactItems, List.append_assoc, List.cons_append]
    exact .cons hvalue (.bare ',' _) (itemsText_compactItems (w :: items) r (by simp))

/-- What `compactMembers` writes is a text of its members. -/
theorem membersText_compactMembers : ∀ (members : List (String × Json)) (r : List Char),
    members ≠ [] → MembersText (compactMembers members ++ r) members r
  | [], r, h => absurd rfl h
  | [(name, v)], r, _ => by
    obtain ⟨t, ht, hname⟩ := exists_quote_append name (':' :: (v.compactChars ++ r))
    simp only [compactMembers, List.append_assoc, List.cons_append, ht]
    exact .last hname (.bare ':' _) (valueText_compactChars v r)
  | (name, v) :: m :: members, r, _ => by
    have hvalue := valueText_compactChars v (',' :: (compactMembers (m :: members) ++ r))
    have hrest := membersText_compactMembers (m :: members) r (by simp)
    obtain ⟨t, ht, hname⟩ := exists_quote_append name
      (':' :: (v.compactChars ++ ',' :: (compactMembers (m :: members) ++ r)))
    simp only [compactMembers, List.append_assoc, List.cons_append, ht]
    exact .cons hname (.bare ':' _) hvalue (.bare ',' _) hrest

end

mutual

/-- The text of a value with one item a line is a text of it, whatever follows. -/
theorem valueText_prettyChars : ∀ (v : Json) (depth : Nat) (r : List Char),
    ValueText (v.prettyChars depth ++ r) v r
  | .string s, depth, r => valueText_quote s r
  | .bool b, depth, r => .bool b
  | .array [], depth, r => .emptyArray (.bare '[' _) (.bare ']' r)
  | .object [], depth, r => .emptyObject (.bare '\x7b' _) (.bare '\x7d' r)
  | .array (v :: items), depth, r => by
    obtain ⟨t, hline, hinside⟩ :=
      exists_itemsText_prettyItems (v :: items) (depth + 1) (newline depth ++ ']' :: r) (by simp)
    simp only [prettyChars, List.append_assoc, List.cons_append]
    exact .array ⟨.none, hline⟩ hinside ⟨blankText_newline depth _, .none⟩
  | .object (m :: members), depth, r => by
    obtain ⟨t, hline, hinside⟩ := exists_membersText_prettyMembers (m :: members) (depth + 1)
      (newline depth ++ '\x7d' :: r) (by simp)
    simp only [prettyChars, List.append_assoc, List.cons_append]
    exact .object ⟨.none, hline⟩ hinside ⟨blankText_newline depth _, .none⟩

/-- What `prettyItems` writes is white space and then a text of its elements. -/
theorem exists_itemsText_prettyItems : ∀ (items : List Json) (depth : Nat) (r : List Char),
    items ≠ [] → ∃ t, BlankText (prettyItems depth items ++ r) t ∧ ItemsText t items r
  | [], depth, r, h => absurd rfl h
  | [v], depth, r, _ => by
    simp only [prettyItems, List.append_assoc]
    exact ⟨_, blankText_newline depth _, .last (valueText_prettyChars v depth r)⟩
  | v :: w :: items, depth, r, _ => by
    obtain ⟨t, hline, hrest⟩ := exists_itemsText_prettyItems (w :: items) depth r (by simp)
    have hvalue := valueText_prettyChars v depth (',' :: (prettyItems depth (w :: items) ++ r))
    simp only [prettyItems, List.append_assoc, List.cons_append]
    exact ⟨_, blankText_newline depth _, .cons hvalue ⟨.none, hline⟩ hrest⟩

/-- What `prettyMembers` writes is white space and then a text of its members. -/
theorem exists_membersText_prettyMembers : ∀ (members : List (String × Json)) (depth : Nat)
    (r : List Char), members ≠ [] →
      ∃ t, BlankText (prettyMembers depth members ++ r) t ∧ MembersText t members r
  | [], depth, r, h => absurd rfl h
  | [(name, v)], depth, r, _ => by
    obtain ⟨t, ht, hname⟩ := exists_quote_append name (':' :: ' ' :: (v.prettyChars depth ++ r))
    simp only [prettyMembers, List.append_assoc, List.cons_append, ht]
    exact ⟨_, blankText_newline depth _,
      .last hname (.beforeBlank ':' _) (valueText_prettyChars v depth r)⟩
  | (name, v) :: m :: members, depth, r, _ => by
    obtain ⟨u, hline, hrest⟩ := exists_membersText_prettyMembers (m :: members) depth r (by simp)
    have hvalue := valueText_prettyChars v depth (',' :: (prettyMembers depth (m :: members) ++ r))
    obtain ⟨t, ht, hname⟩ := exists_quote_append name
      (':' :: ' ' :: (v.prettyChars depth ++ ',' :: (prettyMembers depth (m :: members) ++ r)))
    simp only [prettyMembers, List.append_assoc, List.cons_append, ht]
    exact ⟨_, blankText_newline depth _,
      .cons hname (.beforeBlank ':' _) hvalue ⟨.none, hline⟩ hrest⟩

end

end Written

/-- The compact text of a value is a text of it. -/
theorem isTextOf_compact (v : Json) : IsTextOf v.compact v := by
  have hvalue := valueText_compactChars v []
  rw [List.append_nil] at hvalue
  refine ⟨v.compactChars, [], ?_, hvalue, .none⟩
  rw [compact, String.toList_ofList]
  exact .none

/-- The text of a value with one item a line is a text of it. -/
theorem isTextOf_pretty (v : Json) : IsTextOf v.pretty v := by
  have hvalue := valueText_prettyChars v 0 []
  rw [List.append_nil] at hvalue
  refine ⟨v.prettyChars 0, [], ?_, hvalue, .none⟩
  rw [pretty, String.toList_ofList]
  exact .none

/-- Different values are never written as the same text. -/
lemma pretty_inj {v w : Json} : v.pretty = w.pretty ↔ v = w := by
  refine ⟨fun h => ?_, congrArg pretty⟩
  have hw := isTextOf_pretty w
  rw [← h] at hw
  exact (isTextOf_pretty v).unique hw

/-- Values with the same compact text are the same. -/
lemma compact_inj {v w : Json} : v.compact = w.compact ↔ v = w := by
  refine ⟨fun h => ?_, congrArg compact⟩
  have hw := isTextOf_compact w
  rw [← h] at hw
  exact (isTextOf_compact v).unique hw

end TapTracker.Text.Json
