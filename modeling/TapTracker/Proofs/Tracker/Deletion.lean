import TapTracker.Proofs.Responder
import TapTracker.Proofs.Run.Stages
import TapTracker.Run.Execute
import TapTracker.Tracker.Deletion

/-!
# The effects of a deletion

A deletion enumerates, removes at most one adapter and enumerates again.  As with installations, the
stages come first, over a platform whose operations change some state: from what the operations
answer they tell what the deletion comes to and the state that it leaves.

`DeletionRun cls owned made result` lists the paths through a deletion.  Which adapter is removed is
said of the first enumeration alone, by `IsFirstOwned`, and what the deletion comes to is said of
the second enumeration alone, by `remainder`.  `deleteProductAdapter_run` concludes that with every
platform a deletion takes one of these paths, and that no other path fits the same answers.
-/

namespace TapTracker

/-! ### What remains -/

/-- The result for the records that are still enumerated after a removal. -/
def DeletionResult.ofRemaining : List TapAdapter → DeletionResult
  | [] => .noRemainingTapAdapters
  | _ :: _ => .someRemainingTapAdapters

/-- The result is that no adapters remain exactly if none remain. -/
lemma DeletionResult.ofRemaining_eq_none_iff {remaining : List TapAdapter} :
    ofRemaining remaining = noRemainingTapAdapters ↔ remaining = [] := by
  cases remaining <;> simp [ofRemaining]

/-- What a deletion comes to by the answer of its second enumeration. -/
def remainder (answer : Except EnumerateError (List TapAdapter)) :
    Except TrackerError DeletionResult :=
  (answer.mapError .enumerate).map .ofRemaining

/-- A collected set is classified as the list that it has been collected from. -/
lemma DeletionResult.classify_ofList (remaining : List TapAdapter) :
    classify (.ofList remaining) = ofRemaining remaining := by
  rw [classify, AdapterSet.isEmpty_ofList]
  cases remaining <;> rfl

/-! ### Stages -/

section Stages

variable {σ : Type} {p : Platform (StateM σ)} {cls : AdapterClass} {owned : TapAdapter → Bool}
  {s s₁ s₂ s₃ : σ} {before : List TapAdapter} {a : TapAdapter}
  {answer : Except EnumerateError (List TapAdapter)}

/-- A capture in a deletion is one enumeration, whose fault ends the deletion. -/
lemma run_captureOrFail (h : (p.enumerate cls).run s = (answer, s₁)) :
    (captureOrFail p cls).run.run s =
      ((answer.map AdapterSet.ofList).mapError .enumerate, s₁) := by
  rw [captureOrFail, ExceptT.run_mk, StateT.run_bind, run_capture h]
  rfl

/-- A removal in a deletion is one call, whose fault ends the deletion. -/
lemma run_removeOrFail {identifier : String} {removed : Except RemoveError Unit}
    (h : (p.remove identifier).run s = (removed, s₁)) :
    (removeOrFail p identifier).run.run s = (removed.mapError (.remove identifier), s₁) := by
  rw [removeOrFail, ExceptT.run_mk, StateT.run_bind, h]
  rfl

/-- A deletion whose adapter is gone comes to what its second enumeration answers. -/
lemma run_captureOrFail_classify (h : (p.enumerate cls).run s = (answer, s₁)) :
    (do return DeletionResult.classify (← captureOrFail p cls) :
      ExceptT TrackerError (StateM σ) DeletionResult).run.run s = (remainder answer, s₁) := by
  rw [ExceptT.run_bind, StateT.run_bind, run_captureOrFail h]
  cases answer with
  | error e => rfl
  | ok remaining =>
    change (Except.ok (DeletionResult.classify (.ofList remaining)), s₁) = _
    rw [DeletionResult.classify_ofList]
    rfl

/-- If the first enumeration fails, nothing is removed. -/
lemma run_deletion_of_enumerate_error {e : EnumerateError}
    (h : (p.enumerate cls).run s = (.error e, s₁)) :
    (deleteProductAdapter p cls owned).run.run s = (.error (.enumerate e), s₁) := by
  rw [deleteProductAdapter, ExceptT.run_bind, StateT.run_bind, run_captureOrFail h]
  rfl

/-- After a first enumeration it is up to the collected set whether an adapter is removed. -/
lemma run_deletion (h : (p.enumerate cls).run s = (.ok before, s₁)) :
    (deleteProductAdapter p cls owned).run.run s =
      (do
        match (AdapterSet.ofList before).find? owned with
        | some a => removeOrFail p a.identifier
        | none => pure ()
        return DeletionResult.classify (← captureOrFail p cls) :
          ExceptT TrackerError (StateM σ) DeletionResult).run.run s₁ := by
  rw [deleteProductAdapter, ExceptT.run_bind, StateT.run_bind, run_captureOrFail h]
  rfl

/-- Without an adapter of the product nothing is removed. -/
lemma run_deletion_of_nothing (h : (p.enumerate cls).run s = (.ok before, s₁))
    (hnone : HasNoOwned owned before) (hafter : (p.enumerate cls).run s₁ = (answer, s₂)) :
    (deleteProductAdapter p cls owned).run.run s = (remainder answer, s₂) := by
  rw [run_deletion h, AdapterSet.find?_ofList_eq_none.2 hnone]
  exact run_captureOrFail_classify hafter

/-- A removal that fails ends the deletion. -/
lemma run_deletion_of_remove_error {e : RemoveError}
    (h : (p.enumerate cls).run s = (.ok before, s₁)) (howned : IsFirstOwned owned before a)
    (hremove : (p.remove a.identifier).run s₁ = (.error e, s₂)) :
    (deleteProductAdapter p cls owned).run.run s = (.error (.remove a.identifier e), s₂) := by
  rw [run_deletion h, AdapterSet.find?_ofList_eq_some.2 howned]
  dsimp only
  rw [ExceptT.run_bind, StateT.run_bind, run_removeOrFail hremove]
  rfl

/-- The first adapter of the product is removed. -/
lemma run_deletion_of_removed (h : (p.enumerate cls).run s = (.ok before, s₁))
    (howned : IsFirstOwned owned before a)
    (hremove : (p.remove a.identifier).run s₁ = (.ok (), s₂))
    (hafter : (p.enumerate cls).run s₂ = (answer, s₃)) :
    (deleteProductAdapter p cls owned).run.run s = (remainder answer, s₃) := by
  rw [run_deletion h, AdapterSet.find?_ofList_eq_some.2 howned]
  dsimp only
  rw [ExceptT.run_bind, StateT.run_bind, run_removeOrFail hremove]
  exact run_captureOrFail_classify hafter

/-- A removal is a deletion with the errors of a run. -/
lemma run_removeProductAdapter {settings : Settings} {result : Except TrackerError DeletionResult}
    (h : (deleteProductAdapter p settings.adapterClass settings.owns).run.run s = (result, s₁)) :
    (removeProductAdapter p settings).run s = (result.mapError .tracker, s₁) := by
  rw [removeProductAdapter, StateT.run_bind, h]
  rfl

end Stages

/-! ### Paths -/

/-- What happens in a deletion. -/
inductive DeletionRun (cls : AdapterClass) (owned : TapAdapter → Bool) :
    Log → Except TrackerError DeletionResult → Prop
  | enumerationFails (e : EnumerateError) :
      DeletionRun cls owned [.enumerated cls (.error e)] (.error (.enumerate e))
  | nothingOwned (before : List TapAdapter) (hnone : HasNoOwned owned before)
      (answer : Except EnumerateError (List TapAdapter)) :
      DeletionRun cls owned [.enumerated cls (.ok before), .enumerated cls answer]
        (remainder answer)
  | removalFails (before : List TapAdapter) (a : TapAdapter)
      (howned : IsFirstOwned owned before a) (e : RemoveError) :
      DeletionRun cls owned [.enumerated cls (.ok before), .removed a.identifier (.error e)]
        (.error (.remove a.identifier e))
  | removed (before : List TapAdapter) (a : TapAdapter) (howned : IsFirstOwned owned before a)
      (answer : Except EnumerateError (List TapAdapter)) :
      DeletionRun cls owned
        [.enumerated cls (.ok before), .removed a.identifier (.ok ()), .enumerated cls answer]
        (remainder answer)

section Taken

variable {r : Responder} {cls : AdapterClass} {owned : TapAdapter → Bool} {past made : Log}

/-- A deletion takes the path that the answers allow. -/
lemma DeletionRun.run {result : Except TrackerError DeletionResult}
    (h : DeletionRun cls owned made result) (hgives : r.Gives past made) :
    (deleteProductAdapter r.platform cls owned).run.run past = (result, past ++ made) := by
  cases h with
  | enumerationFails e => exact run_deletion_of_enumerate_error hgives.1.run_enumerate
  | nothingOwned before hnone answer =>
    obtain ⟨hbefore, hafter, -⟩ := hgives
    rw [run_deletion_of_nothing hbefore.run_enumerate hnone hafter.run_enumerate,
      List.append_assoc, List.singleton_append]
  | removalFails before a howned e =>
    obtain ⟨hbefore, hremoved, -⟩ := hgives
    rw [run_deletion_of_remove_error hbefore.run_enumerate howned hremoved.run_remove,
      List.append_assoc, List.singleton_append]
  | removed before a howned answer =>
    obtain ⟨hbefore, hremoved, hafter, -⟩ := hgives
    rw [run_deletion_of_removed hbefore.run_enumerate howned hremoved.run_remove
      hafter.run_enumerate, List.append_assoc, List.append_assoc, List.singleton_append,
      List.singleton_append]

end Taken

section Exists

variable (r : Responder) (cls : AdapterClass) (owned : TapAdapter → Bool) (past : Log)

/-- Whatever the answers are, a deletion has a path. -/
lemma exists_deletionRun :
    ∃ made result, r.Gives past made ∧ DeletionRun cls owned made result := by
  have henumerated : ∀ past, r.Answers past (.enumerated cls (r.enumerate past cls)) :=
    fun _ => rfl
  have hbefore := henumerated past
  cases henumerate : r.enumerate past cls with
  | error e =>
    rw [henumerate] at hbefore
    exact ⟨_, _, hbefore.gives, .enumerationFails e⟩
  | ok before =>
    rw [henumerate] at hbefore
    cases hfound : (AdapterSet.ofList before).find? owned with
    | none =>
      have hnone := AdapterSet.find?_ofList_eq_none.1 hfound
      exact ⟨_, _, hbefore.gives_cons (henumerated _).gives, .nothingOwned before hnone _⟩
    | some a =>
      have howned := AdapterSet.find?_ofList_eq_some.1 hfound
      have hremoved : r.Answers (past ++ [.enumerated cls (.ok before)])
          (.removed a.identifier
            (r.remove (past ++ [.enumerated cls (.ok before)]) a.identifier)) := rfl
      cases hremove : r.remove (past ++ [.enumerated cls (.ok before)]) a.identifier with
      | error e =>
        rw [hremove] at hremoved
        exact ⟨_, _, hbefore.gives_cons hremoved.gives, .removalFails before a howned e⟩
      | ok =>
        rw [hremove] at hremoved
        exact ⟨_, _, hbefore.gives_cons (hremoved.gives_cons (henumerated _).gives),
          .removed before a howned _⟩

/-- Every deletion takes one of the paths of `DeletionRun`: these are all its effects, in this
order, and this is what it comes to.  No other path goes with the same answers. -/
theorem deleteProductAdapter_run :
    ∃ made result,
      (deleteProductAdapter r.platform cls owned).run.run past = (result, past ++ made) ∧
      r.Gives past made ∧ DeletionRun cls owned made result ∧
      ∀ made' result', r.Gives past made' → DeletionRun cls owned made' result' →
        made' = made ∧ result' = result :=
  Responder.exists_unique_path DeletionRun.run (exists_deletionRun r cls owned past)

end Exists

end TapTracker
