import TapTracker.Proofs.Adapter.Owned
import TapTracker.Proofs.Simulation.Testbed
import TapTracker.Proofs.Tracker.Deletion

/-!
# Deletions one after another

A deletion removes one adapter even where several belong to the product, so it takes as many
deletions to remove all of them as there are such adapters, and further deletions change nothing.

`deleteRepeatedly` makes a number of deletions and `Testbed.afterDeletions` is the live system that
they leave.  One deletion removes the adapter of the first of the `ownedRecords` and leaves the
remaining ones (`run_deletion_of_live`); the whole run is an induction over the number of deletions
(`run_deleteRepeatedly`).
-/

namespace TapTracker

open Simulation Testbed

/-- Makes a number of deletions, one after another. -/
def deleteRepeatedly {m : Type → Type} [Monad m] (p : Platform m) (cls : AdapterClass)
    (owned : TapAdapter → Bool) : Nat → m (List (Except TrackerError DeletionResult))
  | 0 => return []
  | n + 1 => do
    let result ← (deleteProductAdapter p cls owned).run
    let results ← deleteRepeatedly p cls owned n
    return result :: results

/-! ### The system after deletions -/

/-- The system after a number of deletions that have removed the adapters of the records in
`gone`. -/
def Simulation.Testbed.afterDeletions (b : Testbed) (calls : Nat) (gone : List TapAdapter) :
    Testbed :=
  { b with
    devices := b.devices.filter fun d => gone.all fun a => !d.hasIdentifier a.identifier
    removed := b.removed ++ gone.map (·.identifier)
    enumerations := b.enumerations + 2 * calls }

section Systems

variable {b : Testbed} {cls : AdapterClass} {calls calls' : Nat} {gone gone' : List TapAdapter}

/-- After no deletion the system is as it was. -/
lemma afterDeletions_zero : b.afterDeletions 0 [] = b := by
  have hall : (b.devices.filter fun d => [].all fun a : TapAdapter =>
      !d.hasIdentifier a.identifier) = b.devices := List.filter_eq_self.2 fun _ _ => rfl
  rw [afterDeletions, hall, List.map_nil, List.append_nil]
  rfl

/-- Deletions after deletions. -/
lemma afterDeletions_afterDeletions :
    (b.afterDeletions calls gone).afterDeletions calls' gone' =
      b.afterDeletions (calls + calls') (gone ++ gone') := by
  simp only [afterDeletions, List.filter_filter, List.all_append, List.map_append,
    List.append_assoc, Nat.mul_add, Nat.add_assoc, Bool.and_comm]

/-- Two enumerations with a removal between them. -/
lemma counted_dropped_counted (a : TapAdapter) :
    (b.counted.dropped a.identifier).counted = b.afterDeletions 1 [a] := by
  simp [dropped, unplug, counted, afterDeletions]

/-- Two enumerations without a removal between them. -/
lemma counted_counted : b.counted.counted = b.afterDeletions 1 [] := by
  simp [counted, afterDeletions]

/-- Deletions leave a live system live. -/
lemma live_afterDeletions (h : b.Live) : (b.afterDeletions calls gone).Live :=
  ⟨h.script, h.enumerateFault⟩

end Systems

/-! ### One deletion, and any number of them -/

section Live

variable {b : Testbed} {cls : AdapterClass} {owned : TapAdapter → Bool}
  {targets : List TapAdapter}

/-- The result of a deletion after which the adapters of certain records are gone. -/
def resultAfter (b : Testbed) (cls : AdapterClass) (gone : List TapAdapter) : DeletionResult :=
  .ofRemaining ((b.afterDeletions 1 gone).listed cls)

/-- A deletion on a live system removes the adapter of the first owned record, if there is one. -/
lemma run_deletion_of_live (hlive : b.Live) (hfault : b.removeFault = none)
    (htargets : ownedRecords owned (b.listed cls) = targets) :
    (deleteProductAdapter platform cls owned).run.run b =
      (.ok (resultAfter b cls (targets.take 1)), b.afterDeletions 1 (targets.take 1)) := by
  have hbefore := hlive.run_enumerate cls
  cases targets with
  | nil =>
    have hafter := hlive.counted.run_enumerate cls
    rw [run_deletion_of_nothing hbefore (ownedRecords_eq_nil.1 htargets) hafter, resultAfter,
      List.take_nil, ← counted_counted]
    rfl
  | cons a rest =>
    have hremove := run_remove (b := b.counted) hlive.script hfault a.identifier
    have hafter := (hlive.counted.dropped a.identifier).run_enumerate cls
    rw [run_deletion_of_removed hbefore (isFirstOwned_of_ownedRecords htargets) hremove hafter,
      resultAfter, List.take_succ_cons, List.take_zero, ← counted_dropped_counted]
    rfl

/-- A deletion on a live system leaves the owned records after the first. -/
lemma ownedRecords_afterDeletion (htargets : ownedRecords owned (b.listed cls) = targets) :
    ownedRecords owned ((b.afterDeletions 1 (targets.take 1)).listed cls) = targets.drop 1 := by
  cases targets with
  | nil =>
    rw [List.take_nil, ← counted_counted]
    exact htargets
  | cons a rest =>
    rw [List.take_succ_cons, List.take_zero, ← counted_dropped_counted]
    change ownedRecords owned ((b.counted.dropped a.identifier).listed cls) = rest
    rw [listed_dropped]
    exact ownedRecords_filter_of_cons htargets

/-- Deletions on a live system leave the owned records after the first ones. -/
lemma ownedRecords_afterDeletions (htargets : ownedRecords owned (b.listed cls) = targets)
    (n : Nat) :
    ownedRecords owned ((b.afterDeletions n (targets.take n)).listed cls) = targets.drop n := by
  induction n with
  | zero =>
    rw [List.take_zero, afterDeletions_zero]
    exact htargets
  | succ n ih =>
    have hstep := ownedRecords_afterDeletion ih
    rwa [afterDeletions_afterDeletions, ← List.take_add, List.drop_drop] at hstep

/-- The next deletion takes the next of the owned records. -/
lemma run_deletion_afterDeletions (hlive : b.Live) (hfault : b.removeFault = none)
    (htargets : ownedRecords owned (b.listed cls) = targets) (n : Nat) :
    (deleteProductAdapter platform cls owned).run.run (b.afterDeletions n (targets.take n)) =
      (.ok (resultAfter b cls (targets.take (n + 1))),
        b.afterDeletions (n + 1) (targets.take (n + 1))) := by
  have hstep := run_deletion_of_live (live_afterDeletions hlive) hfault
    (ownedRecords_afterDeletions htargets n)
  rw [resultAfter, afterDeletions_afterDeletions, ← List.take_add] at hstep
  exact hstep

/-- From any of its deletions on, a run takes one owned record after the other. -/
lemma run_deleteRepeatedly (hlive : b.Live) (hfault : b.removeFault = none)
    (htargets : ownedRecords owned (b.listed cls) = targets) (k n : Nat) :
    (deleteRepeatedly platform cls owned n).run (b.afterDeletions k (targets.take k)) =
      ((List.range' k n).map fun i => .ok (resultAfter b cls (targets.take (i + 1))),
        b.afterDeletions (k + n) (targets.take (k + n))) := by
  induction n generalizing k with
  | zero => rfl
  | succ n ih =>
    rw [deleteRepeatedly, StateT.run_bind, run_deletion_afterDeletions hlive hfault htargets]
    change (StateT.run (deleteRepeatedly platform cls owned n) _ >>= fun next =>
      pure (_ :: next.1, next.2)) = _
    rw [ih (k + 1), List.range'_succ, List.map_cons, Nat.add_right_comm k 1 n]
    rfl

end Live

/-- Deletions converge.  On a system with any devices, `n` deletions all succeed and remove the
adapters of the first `n` records that belong to the product, one each, in order; all other devices
stay as they are.  Once there is no such record left, one more deletion removes nothing, changes no
device and has the same result as the one before it. -/
theorem deleteRepeatedly_converges (devices : List TapAdapter) (filtered : Bool)
    (cls : AdapterClass) (owned : TapAdapter → Bool) (n : Nat) :
    let start : Testbed := { ofDevices devices with filtered }
    let targets := ownedRecords owned (start.listed cls)
    targets.Pairwise TapAdapter.Before ∧
    ∃ (results : List DeletionResult) (b' : Testbed),
      (deleteRepeatedly platform cls owned n).run start = (results.map .ok, b') ∧
      results.length = n ∧
      b'.removed = (targets.take n).map (·.identifier) ∧
      b'.devices = devices.filter (fun d =>
        (targets.take n).all fun a => !d.hasIdentifier a.identifier) ∧
      ∃ result b'', (deleteProductAdapter platform cls owned).run.run b' = (.ok result, b'') ∧
        (targets.length ≤ n → b''.removed = b'.removed ∧ b''.devices = b'.devices ∧
          ∀ last ∈ results.getLast?, result = last) := by
  intro start targets
  have hlive : start.Live := ⟨rfl, rfl⟩
  have htargets : ownedRecords owned (start.listed cls) = targets := rfl
  have hrun := run_deleteRepeatedly hlive rfl htargets 0 n
  have hnext := run_deletion_afterDeletions hlive rfl htargets n
  rw [List.take_zero, afterDeletions_zero, Nat.zero_add] at hrun
  refine ⟨pairwise_ownedRecords, (List.range' 0 n).map fun i => resultAfter start cls
    (targets.take (i + 1)), start.afterDeletions n (targets.take n), ?_, ?_, rfl, rfl, _, _,
    hnext, fun hall => ?_⟩
  · rw [List.map_map]
    exact hrun
  · rw [List.length_map, List.length_range']
  · have hsame : targets.take (n + 1) = targets.take n := by
      rw [List.take_of_length_le hall, List.take_of_length_le (Nat.le_succ_of_le hall)]
    refine ⟨by rw [hsame]; rfl, by rw [hsame]; rfl, fun last hlast => ?_⟩
    -- The last result is the one after the first `n` targets, and these are all of them.
    cases n with
    | zero => cases hlast
    | succ n =>
      rw [List.range'_1_concat, List.map_append, List.map_singleton, List.getLast?_concat,
        Nat.zero_add] at hlast
      rw [hsame]
      exact Option.some_inj.1 hlast

end TapTracker
