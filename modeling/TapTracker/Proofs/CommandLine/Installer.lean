import TapTracker.CommandLine.Parser
import TapTracker.Proofs.Success

/-!
# Accepted installations name an installer

A command line is read word by word.  `readFront_cons` and `readWithin_cons` say what reading one
word comes to if the line is accepted: the rest is read from another place, or the word names the
command, or it is the separator.  By induction over the words, an accepted line has one of the
readings after a command name (`exists_tail_of_readFront`), and that of an installation ends with
the words of an installer (`installer_ne_nil_of_ofWords`).
-/

namespace TapTracker

section Readings

variable {p : Place} {word : String} {words rest : List String} {name : CommandName} {t : Tail}
  {line : CommandLine}

/-! ### After the name of the command -/

/-- What is read after the separator of an installation are the words of an installer. -/
lemma installer_ne_nil_of_readTrailing (h : readTrailing .install p words = .ok t) :
    t.installer ≠ [] := by
  unfold readTrailing at h
  obtain ⟨bindings, -, hread⟩ := bind_eq_ok.1 h
  cases words with
  | nil => cases hread
  | cons word rest =>
    cases hread
    exact List.cons_ne_nil word rest

/-- A word after the name of a command is the separator, or it leaves a place from which the rest is
read. -/
lemma readWithin_cons (h : readWithin name p (word :: rest) = .ok t) :
    readTrailing name p rest = .ok t ∨ ∃ p', readWithin name p' rest = .ok t := by
  unfold readWithin at h
  split at h
  next => exact Or.inl h
  next =>
    obtain ⟨p', -, hrest⟩ := bind_eq_ok.1 h
    exact Or.inr ⟨p', hrest⟩
  next =>
    obtain ⟨p', -, hrest⟩ := bind_eq_ok.1 h
    exact Or.inr ⟨p', hrest⟩
  next =>
    split at h
    · exact Or.inr ⟨_, h⟩
    · cases h

/-- The words after the name of an installation end with those of an installer. -/
lemma installer_ne_nil_of_readWithin (h : readWithin .install p words = .ok t) :
    t.installer ≠ [] := by
  induction words generalizing p with
  | nil =>
    unfold readWithin at h
    exact installer_ne_nil_of_readTrailing h
  | cons word rest ih =>
    rcases readWithin_cons h with htrailing | ⟨p', hrest⟩
    · exact installer_ne_nil_of_readTrailing htrailing
    · exact ih hrest

/-! ### The whole line -/

/-- A line that names no command is refused. -/
lemma readNothing_ne_ok : readNothing p ≠ .ok line := by
  intro h
  unfold readNothing at h
  obtain ⟨bindings, -, hread⟩ := bind_eq_ok.1 h
  split at hread <;> cases hread

/-- A word of an accepted line leaves a place from which the rest is read, or it names the command
whose words are the rest. -/
lemma readFront_cons (h : readFront p (word :: rest) = .ok line) :
    (∃ p', readFront p' rest = .ok line) ∨
      ∃ name t front, readWithin name .start rest = .ok t ∧ line = t.toCommandLine name front := by
  unfold readFront at h
  split at h
  next =>
    split at h
    · exact absurd h readNothing_ne_ok
    · split at h <;> cases h
  next =>
    obtain ⟨p', -, hrest⟩ := bind_eq_ok.1 h
    exact Or.inl ⟨p', hrest⟩
  next =>
    obtain ⟨p', -, hrest⟩ := bind_eq_ok.1 h
    exact Or.inl ⟨p', hrest⟩
  next =>
    split at h
    next => exact Or.inl ⟨_, h⟩
    next =>
      split at h
      · cases h
      · split at h
        · cases h
        next name _ =>
          obtain ⟨t, htail, h⟩ := bind_eq_ok.1 h
          obtain ⟨front, -, hline⟩ := bind_eq_ok.1 h
          cases hline
          exact Or.inr ⟨name, t, front, htail, rfl⟩

/-- An accepted line has been read as the words after the name of its command. -/
lemma exists_tail_of_readFront (h : readFront p words = .ok line) :
    ∃ name rest t front, readWithin name .start rest = .ok t ∧
      line = t.toCommandLine name front := by
  induction words generalizing p with
  | nil =>
    unfold readFront at h
    exact absurd h readNothing_ne_ok
  | cons word rest ih =>
    rcases readFront_cons h with ⟨p', hrest⟩ | ⟨name, t, front, htail, hline⟩
    · exact ih hrest
    · exact ⟨name, rest, t, front, htail, hline⟩

/-- An accepted installation has the words of an installer. -/
lemma installer_ne_nil_of_ofWords {timeout : Option Nat} {keepAlias : Bool}
    {installer : List String} (h : CommandLine.ofWords words = .ok line)
    (hcommand : line.command = .install timeout keepAlias installer) : installer ≠ [] := by
  obtain ⟨name, rest, t, front, htail, hline⟩ := exists_tail_of_readFront h
  rw [hline] at hcommand
  cases name with
  | install =>
    have hinstaller : t.installer = installer := by
      injection hcommand
    rw [← hinstaller]
    exact installer_ne_nil_of_readWithin htail
  | init | list | baseline | remove => cases hcommand

/-- An installation of which nothing but its installer is said. -/
def CommandLine.plainInstall : CommandLine :=
  ⟨.install none false ["setup.exe"], none, none, none, none, false⟩

/-- An installation whose options are all left out is read from its words. -/
lemma ofWords_plainInstall :
    CommandLine.ofWords ["install", "--", "setup.exe"] = .ok .plainInstall := by
  cbv

end Readings

end TapTracker
