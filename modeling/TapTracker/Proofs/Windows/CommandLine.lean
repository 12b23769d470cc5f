import Mathlib.Data.List.Forall2
import Mathlib.Data.List.TakeWhile
import Mathlib.Tactic.Lemma

/-!
# Command lines of the operating system

A process is handed one text, up to the first zero character, and divides it into its arguments
itself.  `readCommandLine` divides it by the usual rules.  Spaces and tabs separate arguments unless
they stand between quotation marks, and a quotation mark is not part of the argument that it stands
in.  Backslashes stand for themselves unless a quotation mark follows: then every two of them stand
for one, and the mark itself is part of the argument if one is left over.  In the name of the
program, which comes first, backslashes always stand for themselves.

`commandLine` writes arguments one after the other as they are.  A text is read as one argument
whatever follows it (`StandsFor`) if it is a word without anything special in it (`standsFor_word`),
or such a word and after it, between quotation marks, a value that has no quotation mark in it and
no backslash at its end (`standsFor_quoted`).  `readCommandLine_commandLine` is the composition of
all that has been written.
-/

namespace TapTracker.Windows

/-! ### Reading -/

/-- The character separates arguments that stand outside quotation marks. -/
def IsSeparator (c : Char) : Prop := c = ' ' ∨ c = '\t'

instance : DecidablePred IsSeparator :=
  fun c => inferInstanceAs (Decidable (c = ' ' ∨ c = '\t'))

/-- The name of the program, and the text after it. -/
def readProgram (quoted : Bool) : List Char → List Char × List Char
  | [] => ([], [])
  | c :: rest =>
    if c = '"' then readProgram (!quoted) rest
    else if IsSeparator c ∧ quoted = false then ([], c :: rest)
    else
      let (name, rest) := readProgram quoted rest
      (c :: name, rest)

/-- The argument that has been begun, with the backslashes after it. -/
def withBackslashes (slashes : Nat) (argument : Option (List Char)) : Option (List Char) :=
  if slashes = 0 then argument else some (argument.getD [] ++ List.replicate slashes '\\')

/-- The arguments in a text, where an argument may have been begun and a number of backslashes been
read after it. -/
def readArguments (quoted : Bool) (slashes : Nat) (argument : Option (List Char)) :
    List Char → List (List Char)
  | [] => (withBackslashes slashes argument).toList
  | c :: rest =>
    if c = '\\' then readArguments quoted (slashes + 1) argument rest
    else if c = '"' then
      let text := argument.getD [] ++ List.replicate (slashes / 2) '\\'
      if slashes % 2 = 0 then readArguments (!quoted) 0 (some text) rest
      else readArguments quoted 0 (some (text ++ ['"'])) rest
    else if IsSeparator c ∧ quoted = false then
      (withBackslashes slashes argument).toList ++ readArguments quoted 0 none rest
    else readArguments quoted 0 (some ((withBackslashes slashes argument).getD [] ++ [c])) rest

/-- The program and the arguments of a command line. -/
def readCommandLine (line : String) : List String :=
  let (program, rest) := readProgram false (line.toList.takeWhile (· ≠ '\x00'))
  (program :: readArguments false 0 none rest).map String.ofList

/-! ### Writing -/

/-- A program and the texts of its arguments, separated by spaces. -/
def commandLine (program : String) (arguments : List String) : String :=
  String.ofList (program.toList ++ arguments.flatMap fun a => ' ' :: a.toList)

/-- No character of the text has a meaning of its own. -/
def IsWord (cs : List Char) : Prop :=
  ∀ c ∈ cs, c ≠ '\\' ∧ c ≠ '"' ∧ ¬ IsSeparator c

instance (cs : List Char) : Decidable (IsWord cs) :=
  List.decidableBAll (fun c => c ≠ '\\' ∧ c ≠ '"' ∧ ¬ IsSeparator c) cs

/-- The text can be written between quotation marks. -/
structure IsQuotable (cs : List Char) : Prop where
  no_quote : '"' ∉ cs
  no_backslash_at_end : cs.getLast? ≠ some '\\'

/-- The text is read as an argument, whatever comes after it. -/
def StandsFor (text argument : List Char) : Prop :=
  ∀ rest, readArguments false 0 none (text ++ rest) = readArguments false 0 (some argument) rest

/-! ### Words and quoted values -/

section Reading

variable {cs key value text rest : List Char} {slashes : Nat}

/-- Backslashes without a quotation mark after them are characters of the argument. -/
lemma withBackslashes_getD (slashes : Nat) (text : List Char) :
    (withBackslashes slashes (some text)).getD [] = text ++ List.replicate slashes '\\' := by
  rw [withBackslashes]
  split
  next h => simp [h]
  next => rfl

/-- A word goes on with the argument that it stands in. -/
lemma readArguments_word (h : IsWord cs) :
    readArguments false 0 (some text) (cs ++ rest) =
      readArguments false 0 (some (text ++ cs)) rest := by
  induction cs generalizing text with
  | nil => rw [List.nil_append, List.append_nil]
  | cons c cs ih =>
    obtain ⟨⟨hslash, hquote, hseparator⟩, hcs⟩ := List.forall_mem_cons.1 h
    rw [List.cons_append, readArguments, if_neg hslash, if_neg hquote,
      if_neg (fun hc => hseparator hc.1), withBackslashes_getD, List.replicate_zero,
      List.append_nil, ih hcs, List.append_assoc]
    rfl

/-- A word stands for itself. -/
lemma standsFor_word (h : IsWord cs) (hne : cs ≠ []) : StandsFor cs cs := by
  intro rest
  cases cs with
  | nil => exact absurd rfl hne
  | cons c cs =>
    obtain ⟨⟨hslash, hquote, hseparator⟩, hcs⟩ := List.forall_mem_cons.1 h
    rw [List.cons_append, readArguments, if_neg hslash, if_neg hquote,
      if_neg (fun hc => hseparator hc.1)]
    exact readArguments_word hcs

/-- Up to the closing quotation mark all is part of the argument.  Backslashes that have been read
before are part of it as well, since one other character at least comes before the mark. -/
lemma readArguments_quoted (hquote : '"' ∉ cs) (hlast : cs.getLast? ≠ some '\\')
    (hslashes : cs = [] → slashes = 0) :
    readArguments true slashes (some text) (cs ++ '"' :: rest) =
      readArguments false 0 (some (text ++ List.replicate slashes '\\' ++ cs)) rest := by
  induction cs generalizing slashes text with
  | nil =>
    obtain rfl := hslashes rfl
    simp [readArguments]
  | cons c cs ih =>
    obtain ⟨hc, hcs⟩ : '"' ≠ c ∧ '"' ∉ cs := by
      rwa [List.mem_cons, not_or] at hquote
    have hlast' : cs.getLast? ≠ some '\\' := by
      intro hcs_last
      rw [List.getLast?_cons, hcs_last] at hlast
      exact hlast rfl
    by_cases hslash : c = '\\'
    · subst hslash
      -- Not the last character: the mark cannot follow it, and it is counted until one comes.
      have hne : cs ≠ [] := by
        rintro rfl
        exact hlast rfl
      rw [List.cons_append, readArguments, if_pos rfl,
        ih hcs hlast' (fun hnil => absurd hnil hne), List.replicate_succ']
      simp
    · rw [List.cons_append, readArguments, if_neg hslash, if_neg (Ne.symm hc),
        if_neg (by simp), withBackslashes_getD, ih hcs hlast' (fun _ => rfl)]
      simp

/-- A word and a quoted value after it stand for the two together. -/
lemma standsFor_quoted (hkey : IsWord key) (hne : key ≠ []) (hvalue : IsQuotable value) :
    StandsFor (key ++ '"' :: value ++ ['"']) (key ++ value) := by
  intro rest
  have hopen : readArguments false 0 (some key) ('"' :: (value ++ '"' :: rest)) =
      readArguments true 0 (some key) (value ++ '"' :: rest) := by
    simp [readArguments]
  calc readArguments false 0 none (key ++ '"' :: value ++ ['"'] ++ rest)
      = readArguments false 0 none (key ++ '"' :: (value ++ '"' :: rest)) := by simp
    _ = readArguments false 0 (some key) ('"' :: (value ++ '"' :: rest)) :=
        standsFor_word hkey hne _
    _ = readArguments true 0 (some key) (value ++ '"' :: rest) := hopen
    _ = readArguments false 0 (some (key ++ value)) rest := by
        rw [readArguments_quoted hvalue.no_quote hvalue.no_backslash_at_end fun _ => rfl]
        simp

end Reading

/-! ### Whole command lines -/

/-- A program may be named in front of its arguments as it is or between quotation marks. -/
def programSpellings (name : String) : List String :=
  [name, "\"" ++ name ++ "\""]

section Lines

variable {rest : List Char} {name program : String} {cs : List Char}

/-- Texts after spaces are read as the arguments that they stand for. -/
lemma readArguments_flatMap {texts arguments : List (List Char)}
    (h : List.Forall₂ StandsFor texts arguments) (argument : Option (List Char)) :
    readArguments false 0 argument (texts.flatMap (' ' :: ·)) = argument.toList ++ arguments := by
  induction h generalizing argument with
  | nil => simp [readArguments, withBackslashes]
  | @cons text a texts arguments htext _ ih =>
    have hspace : ∀ rest, readArguments false 0 argument (' ' :: rest) =
        argument.toList ++ readArguments false 0 none rest := by
      intro rest
      simp [readArguments, withBackslashes, IsSeparator]
    rw [List.flatMap_cons, List.cons_append, hspace, htext, ih]
    rfl

/-- The name of a program ends at a separator. -/
lemma readProgram_of_separated (hrest : ∀ c ∈ rest.head?, IsSeparator c) :
    readProgram false rest = ([], rest) := by
  cases rest with
  | nil => rfl
  | cons c rest =>
    have hseparator : IsSeparator c := hrest c rfl
    have hquote : c ≠ '"' := by
      rintro rfl
      exact absurd hseparator (by decide)
    rw [readProgram, if_neg hquote, if_pos ⟨hseparator, rfl⟩]

/-- A word before a separator is the name of a program. -/
lemma readProgram_word (h : IsWord cs) (hrest : ∀ c ∈ rest.head?, IsSeparator c) :
    readProgram false (cs ++ rest) = (cs, rest) := by
  induction cs with
  | nil => exact readProgram_of_separated hrest
  | cons c cs ih =>
    obtain ⟨⟨-, hquote, hseparator⟩, hcs⟩ := List.forall_mem_cons.1 h
    rw [List.cons_append, readProgram, if_neg hquote, if_neg (fun hc => hseparator hc.1), ih hcs]

/-- Between quotation marks the name of a program goes on up to the second one. -/
lemma readProgram_quoted (h : '"' ∉ cs) (hrest : ∀ c ∈ rest.head?, IsSeparator c) :
    readProgram true (cs ++ '"' :: rest) = (cs, rest) := by
  induction cs with
  | nil =>
    rw [List.nil_append, readProgram, if_pos rfl]
    exact readProgram_of_separated hrest
  | cons c cs ih =>
    obtain ⟨hc, hcs⟩ : '"' ≠ c ∧ '"' ∉ cs := by
      rwa [List.mem_cons, not_or] at h
    rw [List.cons_append, readProgram, if_neg (Ne.symm hc), if_neg (by simp), ih hcs]

/-- A program whose name is a word is read in both spellings. -/
lemma readProgram_spelling (hname : IsWord name.toList) (hprogram : program ∈ programSpellings name)
    (hrest : ∀ c ∈ rest.head?, IsSeparator c) :
    readProgram false (program.toList ++ rest) = (name.toList, rest) := by
  rcases List.mem_pair.1 hprogram with rfl | rfl
  · exact readProgram_word hname hrest
  · have hquote : '"' ∉ name.toList := fun hmem => (hname _ hmem).2.1 rfl
    have hread := readProgram_quoted hquote hrest
    rw [String.toList_append, String.toList_append]
    change readProgram false ('"' :: name.toList ++ ['"'] ++ rest) = _
    rw [List.append_assoc, List.cons_append, readProgram, if_pos rfl]
    exact hread

/-- A command line without zero characters, whose arguments are written as texts that stand for
them, is divided into the program and these arguments. -/
lemma readCommandLine_commandLine {texts arguments : List String} (hname : IsWord name.toList)
    (hprogram : program ∈ programSpellings name)
    (htexts : List.Forall₂ (fun text a => StandsFor text.toList a.toList) texts arguments)
    (hzero : '\x00' ∉ (commandLine program texts).toList) :
    readCommandLine (commandLine program texts) = name :: arguments := by
  have hline : (commandLine program texts).toList.takeWhile (· ≠ '\x00') =
      program.toList ++ (texts.map String.toList).flatMap (' ' :: ·) := by
    have hall : ∀ c ∈ (commandLine program texts).toList, decide (c ≠ '\x00') = true := by
      intro c hc
      refine decide_eq_true ?_
      rintro rfl
      exact hzero hc
    rw [List.takeWhile_eq_self_iff.2 hall, commandLine, String.toList_ofList, List.flatMap_map]
  have hrest : ∀ c ∈ ((texts.map String.toList).flatMap (' ' :: ·)).head?, IsSeparator c := by
    cases texts with
    | nil => exact fun c hc => by cases hc
    | cons text texts =>
      rintro c ⟨⟩
      exact .inl rfl
  have hstand : List.Forall₂ StandsFor (texts.map String.toList) (arguments.map String.toList) :=
    List.forall₂_map_left_iff.2 (List.forall₂_map_right_iff.2 htexts)
  rw [readCommandLine, hline, readProgram_spelling hname hprogram hrest]
  dsimp only
  rw [readArguments_flatMap hstand, List.map_cons, String.ofList_toList]
  simp [Function.comp_def]

/-- Backslashes before a quotation mark are halved, and others stand for themselves. -/
example : readCommandLine "p a\\\\b d\"e f\"g a\\\\\\\"b a\\\\\\\\\"b c\"" =
    ["p", "a\\\\b", "de fg", "a\\\"b", "a\\\\b c"] := by
  decide +kernel

end Lines

end TapTracker.Windows
