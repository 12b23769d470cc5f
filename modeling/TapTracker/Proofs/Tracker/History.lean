import TapTracker.Proofs.Responder
import TapTracker.Proofs.Tracker.NewAdapter

/-!
# What a tracker remembers

A tracker may be called in any order and any number of times.  `TrackerCall.performAll` makes a list
of calls, and `captures` are those among them that enumerate.  Pairing the captures with the answers
they were given yields the history of the run, and each snapshot is the set collected from the last
answer in the history that was a success and was given to a capture of its kind (`lastSuccess`).

`TrackerStep` says all that one call does, and `TrackerRun` puts steps together.  The calls of a
tracker over any responder are such a run (`performAll_run`), and what a run makes of the snapshots
is an induction over its steps (`TrackerRun.snapshots`).  `performAll_snapshots` states both of a
new tracker.
-/

namespace TapTracker

/-- A call on a tracker. -/
inductive TrackerCall
  | establishBaseline
  | recordCurrentState
  | newAdapter
deriving DecidableEq, Repr

/-- What a call on a tracker returned. -/
inductive TrackerReturn
  | status (result : Except TrackerError BaselineStatus)
  | recorded (result : Except TrackerError Unit)
  | adapter (result : Except TrackerError TapAdapter)

namespace TrackerCall

section Perform

variable {m : Type → Type} [Monad m]

/-- Makes a call. -/
def perform (p : Platform m) (t : BaselineTracker) :
    TrackerCall → m (BaselineTracker × TrackerReturn)
  | establishBaseline => do
    let (t, result) ← t.establishBaseline p
    return (t, .status result)
  | recordCurrentState => do
    let (t, result) ← t.recordCurrentState p
    return (t, .recorded result)
  | newAdapter => return (t, .adapter t.newAdapter)

/-- Makes one call after another. -/
def performAll (p : Platform m) :
    BaselineTracker → List TrackerCall → m (BaselineTracker × List TrackerReturn)
  | t, [] => return (t, [])
  | t, call :: calls => do
    let (t, result) ← call.perform p t
    let (t, results) ← performAll p t calls
    return (t, result :: results)

end Perform

/-- One call and then the others. -/
lemma run_performAll_cons {σ : Type} {p : Platform (StateM σ)} {s s' s'' : σ}
    {t t' t'' : BaselineTracker} {call : TrackerCall} {calls : List TrackerCall}
    {result : TrackerReturn} {results : List TrackerReturn}
    (hcall : (call.perform p t).run s = ((t', result), s'))
    (hcalls : (performAll p t' calls).run s' = ((t'', results), s'')) :
    (performAll p t (call :: calls)).run s = ((t'', result :: results), s'') := by
  rw [performAll, StateT.run_bind, hcall]
  change (StateT.run (performAll p t' calls) s' >>= fun next =>
    pure ((next.1.1, result :: next.1.2), next.2)) = _
  rw [hcalls]
  rfl

end TrackerCall

/-! ### Steps and runs

A step is a call together with the exchanges that it makes, what it returns and the tracker after
it.  The cases below are all there are: a capture enumerates once, a capture that fails returns the
error and keeps the tracker as it is, a capture that succeeds replaces the snapshot of its own kind
only, and asking for the new adapter does nothing. -/

/-- One call on a tracker. -/
inductive TrackerStep : BaselineTracker → TrackerCall → Log → TrackerReturn → BaselineTracker → Prop
  | baselineFails (t : BaselineTracker) (e : EnumerateError) :
      TrackerStep t .establishBaseline [.enumerated t.adapterClass (.error e)]
        (.status (.error (.enumerate e))) t
  | baselineKept (t : BaselineTracker) (adapters : List TapAdapter) :
      TrackerStep t .establishBaseline [.enumerated t.adapterClass (.ok adapters)]
        (.status (.ok (.classify (.ofList adapters) t.owned)))
        { t with baseline := some (.ofList adapters) }
  | currentStateFails (t : BaselineTracker) (e : EnumerateError) :
      TrackerStep t .recordCurrentState [.enumerated t.adapterClass (.error e)]
        (.recorded (.error (.enumerate e))) t
  | currentStateKept (t : BaselineTracker) (adapters : List TapAdapter) :
      TrackerStep t .recordCurrentState [.enumerated t.adapterClass (.ok adapters)]
        (.recorded (.ok ())) { t with currentState := some (.ofList adapters) }
  | newAdapter (t : BaselineTracker) :
      TrackerStep t .newAdapter [] (.adapter t.newAdapter) t

/-- One call after another. -/
inductive TrackerRun :
    BaselineTracker → List TrackerCall → Log → List TrackerReturn → BaselineTracker → Prop
  | nil (t : BaselineTracker) : TrackerRun t [] [] [] t
  | cons {t t' t'' : BaselineTracker} {call : TrackerCall} {calls : List TrackerCall}
      {made made' : Log} {result : TrackerReturn} {results : List TrackerReturn}
      (step : TrackerStep t call made result t') (run : TrackerRun t' calls made' results t'') :
      TrackerRun t (call :: calls) (made ++ made') (result :: results) t''

section Runs

variable (r : Responder)

/-- A call is a step. -/
lemma perform_step (t : BaselineTracker) (call : TrackerCall) (past : Log) :
    ∃ made result t', (call.perform r.platform t).run past = ((t', result), past ++ made) ∧
      r.Gives past made ∧ TrackerStep t call made result t' := by
  have hgives : r.Gives past [.enumerated t.adapterClass (r.enumerate past t.adapterClass)] :=
    ⟨rfl, trivial⟩
  cases call with
  | establishBaseline =>
    have hrun : (TrackerCall.establishBaseline.perform r.platform t).run past =
        (((t.keepBaseline ((r.enumerate past t.adapterClass).map .ofList)).1,
          .status (t.keepBaseline ((r.enumerate past t.adapterClass).map .ofList)).2),
          past ++ [.enumerated t.adapterClass (r.enumerate past t.adapterClass)]) := rfl
    cases hanswer : r.enumerate past t.adapterClass with
    | error e =>
      rw [hanswer] at hrun hgives
      exact ⟨_, _, _, hrun, hgives, .baselineFails t e⟩
    | ok adapters =>
      rw [hanswer] at hrun hgives
      exact ⟨_, _, _, hrun, hgives, .baselineKept t adapters⟩
  | recordCurrentState =>
    have hrun : (TrackerCall.recordCurrentState.perform r.platform t).run past =
        (((t.keepCurrentState ((r.enumerate past t.adapterClass).map .ofList)).1,
          .recorded (t.keepCurrentState ((r.enumerate past t.adapterClass).map .ofList)).2),
          past ++ [.enumerated t.adapterClass (r.enumerate past t.adapterClass)]) := rfl
    cases hanswer : r.enumerate past t.adapterClass with
    | error e =>
      rw [hanswer] at hrun hgives
      exact ⟨_, _, _, hrun, hgives, .currentStateFails t e⟩
    | ok adapters =>
      rw [hanswer] at hrun hgives
      exact ⟨_, _, _, hrun, hgives, .currentStateKept t adapters⟩
  | newAdapter =>
    refine ⟨[], .adapter t.newAdapter, t, ?_, trivial, .newAdapter t⟩
    rw [List.append_nil]
    rfl

/-- Calls one after the other are a run. -/
lemma performAll_run (t : BaselineTracker) (calls : List TrackerCall) (past : Log) :
    ∃ made results t', (TrackerCall.performAll r.platform t calls).run past =
        ((t', results), past ++ made) ∧
      r.Gives past made ∧ TrackerRun t calls made results t' := by
  induction calls generalizing t past with
  | nil =>
    refine ⟨[], [], t, ?_, trivial, .nil t⟩
    rw [List.append_nil]
    rfl
  | cons call calls ih =>
    obtain ⟨made, result, t', hcall, hgives, hstep⟩ := perform_step r t call past
    obtain ⟨made', results, t'', hcalls, hgives', hrun⟩ := ih t' (past ++ made)
    refine ⟨made ++ made', result :: results, t'', ?_, Responder.gives_append hgives hgives',
      .cons hstep hrun⟩
    rw [← List.append_assoc]
    exact TrackerCall.run_performAll_cons hcall hcalls

end Runs

/-! ### Histories -/

/-- The answer of an enumeration. -/
abbrev Enumeration := Except EnumerateError (List TapAdapter)

/-- The snapshot that a call captures. -/
def TrackerCall.captured? : TrackerCall → Option Snapshot
  | establishBaseline => some .baseline
  | recordCurrentState => some .currentState
  | newAdapter => none

/-- The captures among the calls, by the snapshots that they capture. -/
def captures (calls : List TrackerCall) : List Snapshot :=
  calls.filterMap TrackerCall.captured?

/-- The last list that a capture of the given snapshot was answered with. -/
def lastSuccess (snapshot : Snapshot) (history : List (Snapshot × Enumeration)) :
    Option (List TapAdapter) :=
  (history.filterMap fun (s, answer) => if s = snapshot then answer.toOption else none).getLast?

/-- A later success wins over the first entry of a history. -/
lemma lastSuccess_cons (snapshot s : Snapshot) (answer : Enumeration)
    (history : List (Snapshot × Enumeration)) :
    lastSuccess snapshot ((s, answer) :: history) =
      (lastSuccess snapshot history).or (if s = snapshot then answer.toOption else none) := by
  rw [lastSuccess, lastSuccess, List.filterMap_cons]
  dsimp only
  generalize (if s = snapshot then answer.toOption else none) = first
  cases first with
  | none => rw [Option.or_none]
  | some adapters =>
    rw [List.getLast?_cons]
    cases List.getLast? _ <;> rfl

/-- A snapshot of the tracker, if it has been captured. -/
def BaselineTracker.snapshot? (t : BaselineTracker) : Snapshot → Option AdapterSet
  | .baseline => t.baseline
  | .currentState => t.currentState

section Snapshots

variable {t t' : BaselineTracker} {call : TrackerCall} {calls : List TrackerCall} {made : Log}
  {result : TrackerReturn} {results : List TrackerReturn} {captured snapshot : Snapshot}

/-- A step that captures nothing does nothing. -/
lemma TrackerStep.of_captured?_eq_none (h : TrackerStep t call made result t')
    (hcall : call.captured? = none) : made = [] ∧ t' = t := by
  cases h with
  | newAdapter => exact ⟨rfl, rfl⟩
  | _ => cases hcall

/-- A step that captures a snapshot enumerates once, and a success replaces this snapshot. -/
lemma TrackerStep.of_captured?_eq_some (h : TrackerStep t call made result t')
    (hcall : call.captured? = some captured) :
    ∃ answer : Enumeration, made = [.enumerated t.adapterClass answer] ∧
      t'.adapterClass = t.adapterClass ∧
      ∀ snapshot, t'.snapshot? snapshot =
        ((if captured = snapshot then answer.toOption else none).map AdapterSet.ofList).or
          (t.snapshot? snapshot) := by
  cases h with
  | newAdapter => cases hcall
  | baselineFails e | currentStateFails e =>
    refine ⟨.error e, rfl, rfl, fun snapshot => ?_⟩
    split <;> rfl
  | baselineKept adapters | currentStateKept adapters =>
    obtain rfl := Option.some_inj.1 hcall
    exact ⟨.ok adapters, rfl, rfl, fun snapshot => by cases snapshot <;> rfl⟩

/-- The snapshots after a run are those of the last successes in its history; where there is none,
the snapshot is the one before the run. -/
lemma TrackerRun.snapshots (h : TrackerRun t calls made results t') :
    ∃ given : List Enumeration,
      made = given.map (.enumerated t.adapterClass) ∧ given.length = (captures calls).length ∧
      ∀ snapshot, t'.snapshot? snapshot =
        ((lastSuccess snapshot ((captures calls).zip given)).map AdapterSet.ofList).or
          (t.snapshot? snapshot) := by
  induction h with
  | nil => exact ⟨[], rfl, rfl, fun _ => rfl⟩
  | @cons t t' t'' call calls made made' result results step _ ih =>
    obtain ⟨given, rfl, hlength, hsnapshots⟩ := ih
    rw [captures, List.filterMap_cons, ← captures]
    cases hcall : call.captured? with
    | none =>
      obtain ⟨rfl, rfl⟩ := step.of_captured?_eq_none hcall
      exact ⟨given, rfl, hlength, hsnapshots⟩
    | some captured =>
      obtain ⟨answer, rfl, hclass, hstep⟩ := step.of_captured?_eq_some hcall
      refine ⟨answer :: given, ?_, congrArg Nat.succ hlength, fun snapshot => ?_⟩
      · rw [hclass]
        rfl
      · rw [hsnapshots, hstep, List.zip_cons_cons, lastSuccess_cons, Option.map_or,
          Option.or_assoc]

end Snapshots

/-- After any run of a new tracker, each snapshot is the set collected from the last list that a
capture of its kind was answered with, and is missing if there is none. -/
theorem performAll_snapshots (r : Responder) (cls : AdapterClass) (owned : TapAdapter → Bool)
    (calls : List TrackerCall) (past : Log) :
    ∃ given results t',
      (TrackerCall.performAll r.platform (.new cls owned) calls).run past =
        ((t', results), past ++ given.map (.enumerated cls)) ∧
      given.length = (captures calls).length ∧
      r.Gives past (given.map (.enumerated cls)) ∧
      TrackerRun (.new cls owned) calls (given.map (.enumerated cls)) results t' ∧
      t'.CapturedFrom (lastSuccess .baseline ((captures calls).zip given))
        (lastSuccess .currentState ((captures calls).zip given)) := by
  obtain ⟨made, results, t', hcalls, hgives, hrun⟩ := performAll_run r (.new cls owned) calls past
  obtain ⟨given, rfl, hlength, hsnapshots⟩ := hrun.snapshots
  refine ⟨given, results, t', hcalls, hlength, hgives, hrun, ?_, ?_⟩
  · have hbaseline := hsnapshots .baseline
    simpa [BaselineTracker.snapshot?, BaselineTracker.new] using hbaseline
  · have hcurrent := hsnapshots .currentState
    simpa [BaselineTracker.snapshot?, BaselineTracker.new] using hcurrent

end TapTracker
