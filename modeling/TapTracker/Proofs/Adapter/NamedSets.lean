import Mathlib.Logic.Function.Basic
import TapTracker.Proofs.Adapter.Set

/-!
# Sets held under names

Sets are made, added to, collected from lists and copied in any order.  To speak of such a run as a
whole, sets are held under names: a `SetCall` gives one name, its target, another set, and may look
at the set that this name or another one has.

Beside the sets runs a history, which knows nothing of order: `offeredAfter calls name` lists the
records that have been offered to the set under a name since it was made.  One call keeps every set
the one that is collected from its history (`perform_collected`), and so does a run
(`performAll_collected`).  `performAll_sets` reads off what this means: a set is in order, it holds
for each adapter the first record that was offered, and nothing reaches it but the calls on its own
name.
-/

namespace TapTracker

/-! ### Adding a record -/

section Add

variable {a b : TapAdapter} {adapters : List TapAdapter} {s : AdapterSet}

/-- The walk in order finds a record of an adapter exactly if a scan of the list does. -/
lemma isNewTo_eq_not_any (hord : adapters.Pairwise TapAdapter.Before) :
    isNewTo a adapters = !adapters.any (·.hasIdentifier a.identifier) := by
  induction adapters with
  | nil => rfl
  | cons b rest ih =>
    obtain ⟨hb, hrest⟩ := List.pairwise_cons.1 hord
    unfold isNewTo
    split
    next hlt =>
      -- The walk stops at `b`, because all records after it come after `a` as well.
      have hbefore : ∀ c ∈ b :: rest, a.Before c := by
        intro c hc
        rcases List.mem_cons.1 hc with rfl | hc
        · exact hlt
        · exact TapAdapter.Before.trans hlt (hb c hc)
      have hnone : ∀ c ∈ b :: rest, ¬ c.hasIdentifier a.identifier = true := by
        intro c hc
        rw [Bool.not_eq_true, TapAdapter.hasIdentifier_eq_false]
        exact (hbefore c hc).key_ne.symm
      rw [List.any_eq_false.2 hnone]
      rfl
    next heq =>
      have hkey : b.hasIdentifier a.identifier = true := by
        rw [TapAdapter.compare_eq_compare_key, Std.compare_eq_iff_eq] at heq
        rw [TapAdapter.hasIdentifier_eq_decide]
        exact decide_eq_true heq.symm
      rw [List.any_cons, hkey]
      rfl
    next hgt =>
      have hkey : b.hasIdentifier a.identifier = false := by
        have hba : b.Before a := Std.OrientedCmp.lt_of_gt hgt
        rw [TapAdapter.hasIdentifier_eq_false]
        exact hba.key_ne
      rw [ih hrest, List.any_cons, hkey, Bool.false_or]

/-- The first record that has an identifier is the first one with its key. -/
lemma find?_hasIdentifier (identifier : String) :
    adapters.find? (·.hasIdentifier identifier) =
      firstRecord? adapters (identityKey identifier) := by
  unfold firstRecord?
  congr 1
  funext c
  exact TapAdapter.hasIdentifier_eq_decide

/-- A record that is new to an ordered list makes it longer by one. -/
lemma length_insertRecord_of_new (hnew : isNewTo a adapters = true) :
    (insertRecord a adapters).length = adapters.length + 1 := by
  induction adapters with
  | nil => rfl
  | cons b rest ih =>
    unfold isNewTo at hnew
    unfold insertRecord
    cases hcmp : compare a b with
    | lt => rfl
    | eq => simp [hcmp] at hnew
    | gt =>
      simp only [hcmp] at hnew
      have hlength := ih hnew
      simp only [List.length_cons]
      omega

/-- A record that is not new to an ordered list leaves it as it is. -/
lemma insertRecord_of_not_new (hold : isNewTo a adapters = false) :
    insertRecord a adapters = adapters := by
  induction adapters with
  | nil => cases hold
  | cons b rest ih =>
    unfold isNewTo at hold
    unfold insertRecord
    cases hcmp : compare a b with
    | lt => simp [hcmp] at hold
    | eq => rfl
    | gt =>
      simp only [hcmp] at hold
      simp only [ih hold]

namespace AdapterSet

/-- A record is added exactly if the set does not contain its identifier. -/
lemma add_snd (s : AdapterSet) (a : TapAdapter) : (s.add a).2 = !s.contains a.identifier :=
  isNewTo_eq_not_any s.increasing

/-- A record that is added makes the set larger by one. -/
lemma size_add (hnew : (s.add a).2 = true) : (s.add a).1.size = s.size + 1 :=
  length_insertRecord_of_new hnew

/-- A set that contains the identifier of a record stays as it is. -/
lemma add_fst_of_not_new (hold : (s.add a).2 = false) : (s.add a).1 = s := by
  have hsame : insertRecord a s.adapters = s.adapters := insertRecord_of_not_new hold
  cases s
  simpa only [add, insert, AdapterSet.mk.injEq] using hsame

/-- A list with one more record at its end is collected by one more insertion. -/
lemma ofList_append_singleton : ofList (adapters ++ [a]) = (ofList adapters).insert a := by
  unfold ofList
  rw [List.foldl_append]
  rfl

end AdapterSet

end Add

/-! ### Calls -/

/-- A call that gives a name another set. -/
inductive SetCall (Name : Type)
  /-- The set without any adapter. -/
  | new (name : Name)
  /-- The set under the name, with a record added. -/
  | insert (name : Name) (a : TapAdapter)
  /-- The set of the first records of the adapters in a list. -/
  | collect (name : Name) (adapters : List TapAdapter)
  /-- A copy of the set under another name. -/
  | clone (name source : Name)

namespace SetCall

variable {Name : Type}

/-- The name that is given another set. -/
def target : SetCall Name → Name
  | new name => name
  | insert name _ => name
  | collect name _ => name
  | clone name _ => name

/-- The set that the target is given. -/
def result (sets : Name → AdapterSet) : SetCall Name → AdapterSet
  | new _ => .empty
  | insert name a => ((sets name).add a).1
  | collect _ adapters => .ofList adapters
  | clone _ source => sets source

/-- What has been offered to the set that the target is given. -/
def offers (offered : Name → List TapAdapter) : SetCall Name → List TapAdapter
  | new _ => []
  | insert name a => offered name ++ [a]
  | collect _ adapters => adapters
  | clone _ source => offered source

variable [DecidableEq Name]

/-- The sets after a call. -/
def perform (sets : Name → AdapterSet) (call : SetCall Name) : Name → AdapterSet :=
  Function.update sets call.target (call.result sets)

/-- The sets after one call after another. -/
def performAll (sets : Name → AdapterSet) (calls : List (SetCall Name)) : Name → AdapterSet :=
  calls.foldl perform sets

/-- The records that have been offered to the set under each name since it was made. -/
def offeredAfter (calls : List (SetCall Name)) : Name → List TapAdapter :=
  calls.foldl (fun offered call => Function.update offered call.target (call.offers offered))
    fun _ => []

/-! ### Sets and their histories -/

/-- Every set is the one that is collected from what it has been offered. -/
def Collected (sets : Name → AdapterSet) (offered : Name → List TapAdapter) : Prop :=
  ∀ name, sets name = .ofList (offered name)

section Runs

variable {sets : Name → AdapterSet} {offered : Name → List TapAdapter} {calls : List (SetCall Name)}
  {name : Name}

/-- A call keeps every set the one that is collected from its history. -/
lemma perform_collected (h : Collected sets offered) (call : SetCall Name) :
    Collected (perform sets call)
      (Function.update offered call.target (call.offers offered)) := by
  have hresult : call.result sets = .ofList (call.offers offered) := by
    cases call with
    | new name => rfl
    | insert name a =>
      unfold result offers
      rw [AdapterSet.ofList_append_singleton, ← h name]
      rfl
    | collect name adapters => rfl
    | clone name source => exact h source
  intro name
  unfold perform
  by_cases hname : name = call.target
  · subst hname
    rw [Function.update_self, Function.update_self, hresult]
  · rw [Function.update_of_ne hname, Function.update_of_ne hname, h name]

/-- A run keeps every set the one that is collected from its history. -/
lemma performAll_collected (h : Collected sets offered) :
    Collected (performAll sets calls)
      (calls.foldl (fun offered call =>
        Function.update offered call.target (call.offers offered)) offered) := by
  induction calls generalizing sets offered with
  | nil => exact h
  | cons call rest ih =>
    have hstep := perform_collected h call
    exact ih hstep

/-- A run leaves the set under a name alone that is the target of none of its calls. -/
lemma performAll_of_target_ne (h : ∀ call ∈ calls, call.target ≠ name) :
    performAll sets calls name = sets name := by
  induction calls generalizing sets with
  | nil => rfl
  | cons call rest ih =>
    obtain ⟨hcall, hrest⟩ := List.forall_mem_cons.1 h
    have hstep : perform sets call name = sets name := Function.update_of_ne hcall.symm _ _
    change performAll (perform sets call) rest name = sets name
    rw [ih hrest, hstep]

/-- Adding the records of a list one after the other gives the name all of them. -/
lemma performAll_insert (adapters : List TapAdapter) :
    performAll sets (adapters.map (insert name)) =
      Function.update sets name (adapters.foldl AdapterSet.insert (sets name)) := by
  induction adapters generalizing sets with
  | nil => exact (Function.update_eq_self name sets).symm
  | cons a rest ih =>
    change performAll (perform sets (insert name a)) (rest.map (insert name)) = _
    rw [ih]
    change Function.update (Function.update sets name _) name
      (rest.foldl AdapterSet.insert (Function.update sets name ((sets name).insert a) name)) = _
    rw [Function.update_self, Function.update_idem, List.foldl_cons]

/-- Collecting a list is adding its records one after the other to a new set. -/
lemma performAll_collect (adapters : List TapAdapter) :
    performAll sets [collect name adapters] =
      performAll sets (new name :: adapters.map (insert name)) := by
  change Function.update sets name (.ofList adapters) =
    performAll (Function.update sets name .empty) (adapters.map (insert name))
  rw [performAll_insert, Function.update_self, Function.update_idem]
  rfl

end Runs

/-- What a run leaves under a name is a set in increasing order, without two records of one adapter,
which holds exactly the adapters that have been offered to it, each with the first record that was.
A scan of it finds exactly these.  An insertion tells whether the adapter is new; it then makes the
set larger by one, and otherwise changes nothing.  Collecting a list is inserting its records into a
new set.  A copy is the set that is copied, and calls on other names, such as those of copies,
change nothing. -/
theorem performAll_sets (calls : List (SetCall Name)) (name : Name) :
    let sets := performAll (fun _ => .empty) calls
    let s := sets name
    let offered := offeredAfter calls name
    (s.adapters.Pairwise fun a b => compareIdentifiers a.identifier b.identifier = .lt) ∧
    (s.adapters.Pairwise fun a b => a.hasIdentifier b.identifier = false) ∧
    (∀ identifier, (∃ a ∈ s.adapters, a.hasIdentifier identifier) ↔
      ∃ a ∈ offered, a.hasIdentifier identifier) ∧
    (∀ a, a ∈ s.adapters ↔ offered.find? (·.hasIdentifier a.identifier) = some a) ∧
    (∀ identifier, s.contains identifier ↔
      ∃ a ∈ s.adapters, identityKey a.identifier = identityKey identifier) ∧
    (∀ a, (s.add a).2 = (!s.contains a.identifier) ∧
      ((s.add a).2 = true → (s.add a).1.size = s.size + 1) ∧
      ((s.add a).2 = false → (s.add a).1 = s)) ∧
    (∀ adapters, performAll sets [collect name adapters] =
      performAll sets (new name :: adapters.map (insert name))) ∧
    (∀ source, perform sets (clone name source) name = sets source) ∧
    ∀ later : List (SetCall Name), (∀ call ∈ later, call.target ≠ name) →
      performAll sets later name = s := by
  intro sets s offered
  -- The set is what the offered list is collected to, whatever the calls in between were.
  have hempty : Collected (fun _ : Name => .empty) fun _ => [] := fun _ => rfl
  have hcollected : s = .ofList offered := performAll_collected hempty name
  have hfirst : ∀ a, a ∈ s.adapters ↔ firstRecord? offered a.key = some a := by
    intro a
    rw [hcollected]
    exact AdapterSet.mem_ofList
  refine ⟨s.increasing, ?_, ?_, ?_, ?_, ?_, fun adapters => performAll_collect adapters,
    fun source => Function.update_self .., fun later h => performAll_of_target_ne h⟩
  · refine s.increasing.imp fun {a b} hab => ?_
    rw [TapAdapter.hasIdentifier_eq_false]
    exact hab.key_ne
  · intro identifier
    simp only [TapAdapter.hasIdentifier_eq_decide, decide_eq_true_iff]
    rw [← isSome_firstRecord?, ← isSome_firstRecord?, hcollected,
      AdapterSet.firstRecord?_ofList]
  · intro a
    rw [hfirst, find?_hasIdentifier]
    rfl
  · intro identifier
    rw [AdapterSet.contains, List.any_eq_true]
    simp only [TapAdapter.hasIdentifier_eq_decide, decide_eq_true_iff]
    rfl
  · intro a
    exact ⟨AdapterSet.add_snd s a, AdapterSet.size_add, AdapterSet.add_fst_of_not_new⟩

end SetCall

end TapTracker
