import Mathlib.Tactic.Lemma
import TapTracker.Adapter.Platform
import TapTracker.Run.Error

/-!
# Platforms and installers that answer at will

A `Responder` stands for any environment.  Whatever it is asked, it gives some answer, and the
answer may depend on everything that has been asked and answered before, the `Log`.  Its operations
write themselves into the log, so that the log of a run is at once the sequence of its effects and
the list of the answers it was given.

`Responder.Gives past exchanges` says that the answers in `exchanges` are those of the responder.
-/

namespace TapTracker

/-- One question to a platform or to an installer, with its answer. -/
inductive Exchange
  | enumerated (cls : AdapterClass) (answer : Except EnumerateError (List TapAdapter))
  | removed (identifier : String) (answer : Except RemoveError Unit)
  | renamed (adapter : TapAdapter) (newAlias : String) (answer : Except RenameError Unit)
  | installed (answer : Except RunError Unit)

/-- Exchanges in the order in which they took place. -/
abbrev Log := List Exchange

/-- A platform and an installer whose answers depend on the exchanges so far. -/
structure Responder where
  enumerate : Log → AdapterClass → Except EnumerateError (List TapAdapter)
  remove : Log → String → Except RemoveError Unit
  rename : Log → TapAdapter → String → Except RenameError Unit
  install : Log → Except RunError Unit

namespace Responder

/-- Gives an answer and writes the exchange into the log. -/
def reply {α : Type} (answer : Log → α) (exchange : α → Exchange) : StateM Log α :=
  modifyGet fun past => (answer past, past ++ [exchange (answer past)])

/-- The platform of the responder. -/
def platform (r : Responder) : Platform (StateM Log) where
  enumerate cls := reply (r.enumerate · cls) (.enumerated cls)
  remove identifier := reply (r.remove · identifier) (.removed identifier)
  rename a newAlias := reply (r.rename · a newAlias) (.renamed a newAlias)

/-- The installer of the responder. -/
def installer (r : Responder) : StateM Log (Except RunError Unit) :=
  reply r.install .installed

/-- The answer in the exchange is the one that the responder gives after `past`. -/
def Answers (r : Responder) (past : Log) : Exchange → Prop
  | .enumerated cls answer => answer = r.enumerate past cls
  | .removed identifier answer => answer = r.remove past identifier
  | .renamed a newAlias answer => answer = r.rename past a newAlias
  | .installed answer => answer = r.install past

/-- All answers in the exchanges that follow `past` are those of the responder. -/
def Gives (r : Responder) : (past exchanges : Log) → Prop
  | _, [] => True
  | past, e :: rest => r.Answers past e ∧ r.Gives (past ++ [e]) rest

/-- An exchange and those that are given after it are given as a whole. -/
lemma Answers.gives_cons {r : Responder} {past rest : Log} {e : Exchange} (he : r.Answers past e)
    (hrest : r.Gives (past ++ [e]) rest) : r.Gives past (e :: rest) := ⟨he, hrest⟩

/-- A single exchange is given if it has the answer of the responder. -/
lemma Answers.gives {r : Responder} {past : Log} {e : Exchange} (he : r.Answers past e) :
    r.Gives past [e] := he.gives_cons trivial

/-- Exchanges that are given one after the other are given as a whole. -/
lemma gives_append {r : Responder} {past first second : Log} (hfirst : r.Gives past first)
    (hsecond : r.Gives (past ++ first) second) : r.Gives past (first ++ second) := by
  induction first generalizing past with
  | nil => simpa using hsecond
  | cons e rest ih =>
    obtain ⟨he, hrest⟩ := hfirst
    refine ⟨he, ih hrest ?_⟩
    simpa using hsecond

/-- Where an action takes every path that its answers allow, and answers always allow some path, it
takes exactly one. -/
lemma exists_unique_path {r : Responder} {past : Log} {α : Type} {act : StateM Log α}
    {Path : Log → α → Prop}
    (htaken : ∀ {made result}, Path made result → r.Gives past made →
      act.run past = (result, past ++ made))
    (hexists : ∃ made result, r.Gives past made ∧ Path made result) :
    ∃ made result, act.run past = (result, past ++ made) ∧ r.Gives past made ∧
      Path made result ∧
      ∀ made' result', r.Gives past made' → Path made' result' →
        made' = made ∧ result' = result := by
  obtain ⟨made, result, hgives, hpath⟩ := hexists
  have hrun := htaken hpath hgives
  refine ⟨made, result, hrun, hgives, hpath, fun made' result' hgives' hpath' => ?_⟩
  have hsame := (htaken hpath' hgives').symm.trans hrun
  obtain ⟨hresult, hlog⟩ := Prod.mk.inj hsame
  exact ⟨List.append_cancel_left hlog, hresult⟩

/-! ### Single operations

What an operation comes to and writes down, where the responder gives a certain answer. -/

section Operations

variable {r : Responder} {past : Log}

/-- An enumeration comes to the answer of the responder and is written down. -/
lemma Answers.run_enumerate {cls : AdapterClass} {answer : Except EnumerateError (List TapAdapter)}
    (h : r.Answers past (.enumerated cls answer)) :
    (r.platform.enumerate cls).run past = (answer, past ++ [.enumerated cls answer]) := by
  rw [Answers] at h
  subst h
  rfl

/-- A removal comes to the answer of the responder and is written down. -/
lemma Answers.run_remove {identifier : String} {answer : Except RemoveError Unit}
    (h : r.Answers past (.removed identifier answer)) :
    (r.platform.remove identifier).run past = (answer, past ++ [.removed identifier answer]) := by
  rw [Answers] at h
  subst h
  rfl

/-- A renaming comes to the answer of the responder and is written down. -/
lemma Answers.run_rename {a : TapAdapter} {newAlias : String} {answer : Except RenameError Unit}
    (h : r.Answers past (.renamed a newAlias answer)) :
    (r.platform.rename a newAlias).run past = (answer, past ++ [.renamed a newAlias answer]) := by
  rw [Answers] at h
  subst h
  rfl

/-- An installer comes to the answer of the responder and is written down. -/
lemma Answers.run_installer {answer : Except RunError Unit}
    (h : r.Answers past (.installed answer)) :
    r.installer.run past = (answer, past ++ [.installed answer]) := by
  rw [Answers] at h
  subst h
  rfl

end Operations

end Responder

end TapTracker
