import Mathlib.Data.List.Forall2
import TapTracker.Proofs.Toml.Parts

/-!
# Lines of documents

`IsLine line e` says that a line is written to have an effect on a document: an empty line or a
comment has none, a header opens a table, and a setting sets a key of the open table.  Names are
bare, and values are words or strings in quotation marks without escapes.  The value in a setting
may be any text that is read as a value where its line ends (`IsValueText`).

A line that is written for an effect is a part that is read as that effect (`IsLine.isPart`), so
that a text of such lines is read as the effects of its lines, one after another
(`read_intercalate`).
-/

namespace TapTracker.Toml

/-! ### Effects -/

/-- What a line does to a document. -/
inductive LineEffect
  | nothing
  /-- Opens the table of a header. -/
  | opens (name : String)
  /-- Sets a key of the open table. -/
  | sets (name : String) (v : Value)

/-- The document after a line with the effect. -/
def LineEffect.apply (d : Document) : LineEffect → Except Error Document
  | nothing => .ok d
  | opens name => d.openHeader false [name]
  | sets name v => d.setKey [name] v

/-- The effect as a change. -/
def LineEffect.change : LineEffect → Change
  | nothing => .nothing
  | opens name => .opens false [name]
  | sets name v => .sets [name] v

/-- An effect does to a document what its change does. -/
lemma LineEffect.apply_change (d : Document) (e : LineEffect) : e.change.apply d = e.apply d := by
  cases e <;> rfl

/-! ### Writing -/

/-- A text that needs no quotation marks. -/
def IsBare (s : String) : Prop := s ≠ "" ∧ s.toList.all isBareKeyChar = true

/-- A character that may stand between quotation marks as it is. -/
def isUnescaped (c : Char) : Bool := isPlain c && c != '"' && c != '\\'

/-- A text is written for a value. -/
inductive IsWritten : String → Value → Prop
  | quoted {s : String} (hs : s.toList.all isUnescaped = true) :
      IsWritten ("\"" ++ s ++ "\"") (.string s)
  | word {s : String} (hs : IsBare s) {v : Value} (hv : Value.ofWord s.toList = .ok v) :
      IsWritten s v

/-- A line is written for an effect. -/
inductive IsLine : String → LineEffect → Prop
  | blank : IsLine "" .nothing
  | comment {text : List Char} (htext : text.all isPlain = true) :
      IsLine (String.ofList ('#' :: text)) .nothing
  | header {name : String} (hname : IsBare name) : IsLine ("[" ++ name ++ "]") (.opens name)
  | setting {name text : String} (hname : IsBare name) {v : Value} (hv : IsWritten text v) :
      IsLine (name ++ " = " ++ text) (.sets name v)

/-- The text is read as a value where its line ends, and no blank stands before it. -/
structure IsValueText (text : String) (v : Value) : Prop where
  skip_eq : ∀ rest : List Char, skipSpace (text.toList ++ rest) = text.toList ++ rest
  read_eq : ∀ {fuel : Nat} {after rest : List Char}, text.toList.length < fuel →
    EndsLine after rest → readValue fuel 0 (text.toList ++ after) = .ok (v, after)

/-! ### Reading -/

section Characters

variable {c d : Char} {cs after rest : List Char} {s : String}

/-- Bare texts have none of the characters that mean something in a document. -/
lemma ne_of_isBareKeyChar (hc : isBareKeyChar c = true) (hd : isBareKeyChar d = false) : c ≠ d := by
  rintro rfl
  rw [hc] at hd
  cases hd

/-- The characters of bare texts are no blanks. -/
lemma isSpace_of_isBareKeyChar (hc : isBareKeyChar c = true) : isSpace c = false := by
  simp [isSpace, ne_of_isBareKeyChar hc (d := ' ') rfl, ne_of_isBareKeyChar hc (d := '\t') rfl]

/-- The characters of bare texts end no word. -/
lemma endsWord_of_isBareKeyChar (hc : isBareKeyChar c = true) : endsWord c = false := by
  have hne {d : Char} (hd : isBareKeyChar d = false) : c ≠ d := ne_of_isBareKeyChar hc hd
  simp [endsWord, hne (d := ' ') rfl, hne (d := '\t') rfl, hne (d := '\n') rfl,
    hne (d := '\r') rfl, hne (d := '#') rfl, hne (d := ',') rfl, hne (d := ']') rfl,
    hne (d := '}') rfl]

/-- A bare text begins with one of its characters. -/
lemma IsBare.exists_cons (hs : IsBare s) :
    ∃ c cs, s.toList = c :: cs ∧ isBareKeyChar c = true := by
  obtain ⟨hne, hall⟩ := hs
  cases hchars : s.toList with
  | nil => exact absurd (String.toList_eq_nil_iff.1 hchars) hne
  | cons c cs =>
    rw [hchars, List.all_cons, Bool.and_eq_true] at hall
    exact ⟨c, cs, rfl, hall.1⟩

/-- What begins with a bare text does not begin with another character. -/
lemma IsBare.append_ne_cons (hs : IsBare s) (hd : isBareKeyChar d = false) :
    s.toList ++ rest ≠ d :: cs := by
  obtain ⟨c, cs, hchars, hc⟩ := hs.exists_cons
  rw [hchars]
  intro heq
  exact ne_of_isBareKeyChar hc hd (List.cons.inj heq).1

/-- Nothing is skipped before a character that is no blank. -/
lemma skipSpace_cons (hc : isSpace c = false) : skipSpace (c :: cs) = c :: cs :=
  List.dropWhile_cons_of_neg (by simp [hc])

/-- No bare text begins with a blank. -/
lemma IsBare.skipSpace_append (hs : IsBare s) :
    skipSpace (s.toList ++ rest) = s.toList ++ rest := by
  obtain ⟨c, cs, hchars, hc⟩ := hs.exists_cons
  rw [hchars]
  exact skipSpace_cons (isSpace_of_isBareKeyChar hc)

/-- The end of a line is read up to the next line. -/
lemma EndsLine.readLineEnd_eq (h : EndsLine after rest) : readLineEnd after = .ok rest := by
  cases h <;> rfl

end Characters

section Parts

variable {c : Char} {cs after rest : List Char} {name s text : String} {v : Value}
  {fuel depth : Nat}

/-- A bare name is read as a part of a key up to a character that is not bare. -/
lemma IsBare.readKeyPart_append (hname : IsBare name) (hc : isBareKeyChar c = false) :
    readKeyPart (name.toList ++ c :: rest) = .ok (name, c :: rest) := by
  have hall : ∀ e ∈ name.toList, isBareKeyChar e = true := List.all_eq_true.1 hname.2
  have htake : (name.toList ++ c :: rest).takeWhile isBareKeyChar = name.toList := by
    rw [List.takeWhile_append_of_pos hall, List.takeWhile_cons_of_neg (by simp [hc]),
      List.append_nil]
  have hdrop : (name.toList ++ c :: rest).dropWhile isBareKeyChar = c :: rest := by
    rw [List.dropWhile_append_of_pos hall, List.dropWhile_cons_of_neg (by simp [hc])]
  rw [readKeyPart.eq_def]
  split
  next hquote => exact absurd hquote (hname.append_ne_cons rfl)
  next hquote => exact absurd hquote (hname.append_ne_cons rfl)
  next =>
    rw [htake, hdrop]
    split
    next hnil => exact absurd (String.toList_eq_nil_iff.1 hnil) hname.1
    next => rw [String.ofList_toList]

/-- A bare name is a key where no dot follows. -/
lemma IsBare.readKey_append (hname : IsBare name) (hc : isBareKeyChar c = false)
    (hdot : (skipSpace (c :: rest)).head? ≠ some '.') :
    readKey (fuel + 1) (name.toList ++ c :: rest) = .ok ([name], skipSpace (c :: rest)) := by
  rw [readKey, hname.skipSpace_append, hname.readKeyPart_append hc]
  dsimp only [bind, Except.bind]
  split
  next hrest =>
    rw [hrest] at hdot
    exact absurd rfl hdot
  next => rfl

/-- Between quotation marks a text without escapes is read as it is. -/
lemma readBasic_append (hcs : cs.all isUnescaped = true) (hfuel : cs.length < fuel) :
    readBasic fuel (cs ++ '"' :: rest) = .ok (cs, rest) := by
  induction cs generalizing fuel with
  | nil =>
    obtain ⟨fuel, rfl⟩ := Nat.exists_eq_add_one.2 hfuel
    rfl
  | cons c cs ih =>
    obtain ⟨fuel, rfl⟩ := Nat.exists_eq_add_one.2 (Nat.zero_lt_of_lt hfuel)
    rw [List.all_cons, Bool.and_eq_true] at hcs
    obtain ⟨hc, hcs⟩ := hcs
    simp only [isUnescaped, Bool.and_eq_true, bne_iff_ne] at hc
    obtain ⟨⟨hplain, hquote⟩, hbackslash⟩ := hc
    rw [List.cons_append, readBasic, if_pos hplain, ih hcs (Nat.lt_of_succ_lt_succ hfuel)]
    · rfl
    · exact hquote
    · exact hbackslash

/-- A bare text is no string in quotation marks. -/
lemma IsBare.readString?_append (hs : IsBare s) : readString? (s.toList ++ rest) = none := by
  rw [readString?.eq_def]
  split
  next hquote => exact absurd hquote (hs.append_ne_cons rfl)
  next hquote => exact absurd hquote (hs.append_ne_cons rfl)
  next hquote => exact absurd hquote (hs.append_ne_cons rfl)
  next hquote => exact absurd hquote (hs.append_ne_cons rfl)
  next => rfl

/-- A bare text is a word up to the end of its line. -/
lemma IsBare.readWord_append (hs : IsBare s) (h : EndsLine after rest) :
    readWord (s.toList ++ after) = (s.toList, after) := by
  have hall : ∀ c ∈ s.toList, (!endsWord c) = true := fun c hc => by
    rw [endsWord_of_isBareKeyChar (List.all_eq_true.1 hs.2 c hc)]
    rfl
  have htake : after.takeWhile (!endsWord ·) = [] := by cases h <;> rfl
  have hdrop : after.dropWhile (!endsWord ·) = after := by cases h <;> rfl
  rw [readWord, List.takeWhile_append_of_pos hall, List.dropWhile_append_of_pos hall, htake, hdrop,
    List.append_nil]
  split
  next => cases h
  next => rfl

/-- A string in quotation marks without escapes is read whole: a third quotation mark cannot follow
an empty one. -/
lemma readString?_quoted (hs : s.toList.all isUnescaped = true) (h : EndsLine after rest) :
    readString? ('"' :: (s.toList ++ '"' :: after)) = some (.ok (s.toList, after)) := by
  have hlength : s.toList.length < (s.toList ++ '"' :: after).length + 1 := by
    rw [List.length_append, List.length_cons]
    omega
  rw [readString?.eq_def]
  split
  next after' htriple =>
    have hquotes := (List.cons.inj htriple).2
    cases hchars : s.toList with
    | nil =>
      rw [hchars] at hquotes
      cases h <;> cases hquotes
    | cons c cs =>
      rw [hchars] at hs hquotes
      obtain rfl : c = '"' := (List.cons.inj hquotes).1
      cases hs
  next inside _ hquote =>
    obtain rfl := (List.cons.inj hquote).2
    rw [readBasic_append hs hlength]
  next hquote => cases hquote
  next hquote => cases hquote
  next hnone _ _ => exact absurd rfl (hnone _)

/-- A written value is read where its line ends. -/
lemma IsWritten.readValue_append (hv : IsWritten text v) (h : EndsLine after rest) :
    readValue (fuel + 1) depth (text.toList ++ after) = .ok (v, after) := by
  cases hv with
  | @quoted s hs =>
    have hchars : ("\"" ++ s ++ "\"").toList ++ after = '"' :: (s.toList ++ '"' :: after) := by
      simp
    have hread : readString? (("\"" ++ s ++ "\"").toList ++ after) =
        some (.ok (s.toList, after)) := by
      rw [hchars, readString?_quoted hs h]
    rw [readValue, hread]
    · change Except.ok (Value.string (String.ofList s.toList), after) = _
      rw [String.ofList_toList]
    · rw [hchars]
      exact nofun
    · rw [hchars]
      exact nofun
  | word hs hv =>
    rw [readValue, hs.readString?_append]
    · dsimp only
      rw [hs.readWord_append h]
      dsimp only
      rw [hv]
      rfl
    · exact fun _ => hs.append_ne_cons rfl
    · exact fun _ => hs.append_ne_cons rfl

/-- No written value begins with a blank. -/
lemma IsWritten.skipSpace_append (hv : IsWritten text v) :
    skipSpace (text.toList ++ rest) = text.toList ++ rest := by
  cases hv with
  | quoted =>
    rw [String.toList_append, String.toList_append]
    rfl
  | word hs => exact hs.skipSpace_append

/-- What is written for a value is read as the value. -/
lemma IsWritten.isValueText (hv : IsWritten text v) : IsValueText text v where
  skip_eq _ := hv.skipSpace_append
  read_eq {fuel _ _} hfuel hend := by
    obtain ⟨fuel, rfl⟩ := Nat.exists_eq_add_one.2 (Nat.zero_lt_of_lt hfuel)
    exact hv.readValue_append hend

/-- A comment is skipped to the end of its line. -/
lemma EndsLine.skipComment_append (h : EndsLine after rest) (hcs : cs.all isPlain = true) :
    skipComment (cs ++ after) = .ok after := by
  induction cs with
  | nil => cases h <;> rfl
  | cons c cs ih =>
    rw [List.all_cons, Bool.and_eq_true] at hcs
    rw [List.cons_append, skipComment, if_pos hcs.1, ih hcs.2]
    · rintro rfl
      exact absurd hcs.1 (by decide)
    · rintro _ rfl
      exact absurd hcs.1 (by decide)

/-- A comment is read together with the end of its line. -/
lemma EndsLine.readLineEnd_comment (h : EndsLine after rest) (hcs : cs.all isPlain = true) :
    readLineEnd ('#' :: (cs ++ after)) = .ok rest := by
  rw [readLineEnd, skipSpace_cons rfl]
  simp only [h.skipComment_append hcs]
  cases h <;> rfl

end Parts

/-! ### Lines -/

section Lines

variable {d : Document} {line name text : String} {e : LineEffect} {v : Value}

/-- A line that begins with a number sign is read as the end of a line. -/
lemma step_comment (cs : List Char) :
    d.step ('#' :: cs) = (readLineEnd ('#' :: cs)).bind fun rest => .ok (d, rest) := rfl

/-- A line that begins with a bracket is read as a header. -/
lemma step_header (cs : List Char) : d.step ('[' :: cs) = d.readHeader cs := rfl

/-- A line that begins with a bare text sets a key. -/
lemma IsBare.step_append (hname : IsBare name) (cs : List Char) :
    d.step (name.toList ++ cs) = d.readSetting (name.toList ++ cs) := by
  rw [Document.step, hname.skipSpace_append]
  split
  next hnil =>
    obtain ⟨c, cs', hchars, -⟩ := hname.exists_cons
    rw [hchars] at hnil
    cases hnil
  next hbracket => exact absurd hbracket (hname.append_ne_cons rfl)
  next c rest _ hcons =>
    have hne {x : Char} (hx : isBareKeyChar x = false) : c ≠ x := by
      rintro rfl
      exact hname.append_ne_cons hx hcons
    rw [if_neg (by simp [hne (x := '#') rfl, hne (x := '\n') rfl, hne (x := '\r') rfl]), hcons]

/-- A key with a value is a part that sets the key. -/
lemma IsValueText.isPart (hname : IsBare name) (hv : IsValueText text v) :
    IsPart (name ++ " = " ++ text) (.sets [name] v) where
  unmarked := by
    obtain ⟨c, cs, hchars, hc⟩ := hname.exists_cons
    rw [String.toList_append, String.toList_append, hchars, List.cons_append, List.cons_append,
      List.head?_cons, ne_eq, Option.some.injEq]
    exact ne_of_isBareKeyChar hc (by decide)
  step_eq d after rest hend := by
    have hchars : (name ++ " = " ++ text).toList ++ after =
        name.toList ++ ' ' :: '=' :: ' ' :: (text.toList ++ after) := by
      simp
    have hkey (fuel : Nat) :
        readKey (fuel + 1) (name.toList ++ ' ' :: '=' :: ' ' :: (text.toList ++ after)) =
          .ok ([name], '=' :: ' ' :: (text.toList ++ after)) :=
      hname.readKey_append rfl nofun
    have hskip : skipSpace (' ' :: (text.toList ++ after)) = text.toList ++ after :=
      hv.skip_eq after
    have hlength : text.toList.length < (' ' :: (text.toList ++ after)).length + 1 := by
      rw [List.length_cons, List.length_append]
      omega
    rw [hchars, hname.step_append, Document.readSetting, hkey]
    change (readValue _ 0 (skipSpace (' ' :: (text.toList ++ after)))).bind _ = _
    rw [hskip, hv.read_eq hlength hend]
    change (d.setKey [name] v).bind _ = (d.setKey [name] v).bind _
    rw [hend.readLineEnd_eq]
    rfl

/-- A name in brackets is a part that opens the table of that name. -/
lemma IsBare.isPart_header (hname : IsBare name) :
    IsPart ("[" ++ name ++ "]") (.opens false [name]) where
  unmarked := by
    rw [String.toList_append, String.toList_append]
    exact nofun
  step_eq d after rest hend := by
    have hchars : ("[" ++ name ++ "]").toList ++ after = '[' :: (name.toList ++ ']' :: after) := by
      simp
    have hkey (fuel : Nat) :
        readKey (fuel + 1) (name.toList ++ ']' :: after) = .ok ([name], ']' :: after) :=
      hname.readKey_append rfl nofun
    -- A bare name does not begin with a second bracket, so that this opens no array of tables.
    rw [hchars, step_header, Document.readHeader, hkey]
    · change (d.openHeader false [name]).bind _ = (d.openHeader false [name]).bind _
      rw [hend.readLineEnd_eq]
      rfl
    · exact fun _ => hname.append_ne_cons rfl

/-- A line is a part that is read as its effect. -/
lemma IsLine.isPart (h : IsLine line e) : IsPart line e.change := by
  cases h with
  | blank => exact ⟨nofun, fun d _ _ hend => by cases hend <;> rfl⟩
  | @comment text htext =>
    refine ⟨?_, fun d _ _ hend => ?_⟩
    · rw [String.toList_ofList]
      exact nofun
    · rw [String.toList_ofList, List.cons_append, step_comment, hend.readLineEnd_comment htext]
      rfl
  | header hname => exact hname.isPart_header
  | setting hname hv => exact hv.isValueText.isPart hname

/-- A text of lines is read as their effects, from the empty document on. -/
lemma read_intercalate {lines : List String} {effects : List LineEffect}
    (h : List.Forall₂ IsLine lines effects) :
    read ("\n".intercalate lines) =
      (effects.foldlM LineEffect.apply .start).map fun d => Node.entryValues d.root := by
  have hparts : List.Forall₂ IsPart lines (effects.map LineEffect.change) :=
    List.forall₂_map_right_iff.2 (h.imp fun _ _ hline => hline.isPart)
  rw [read_parts hparts, List.foldlM_map]
  simp only [LineEffect.apply_change]

end Lines

end TapTracker.Toml
