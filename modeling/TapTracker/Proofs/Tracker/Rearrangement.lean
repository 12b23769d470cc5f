import Mathlib.Data.List.Find
import TapTracker.Proofs.Run.Stages
import TapTracker.Proofs.Simulation.Testbed
import TapTracker.Proofs.Tracker.History

/-!
# The new adapter and the presentation of enumerations

A system may list its adapters in any order, and between two runs the spelling of an identifier, a
device name or an alias may change.  None of this leaks into the answer about the new adapter:
`newAdapter_of_rearranged` compares two runs of a tracker, on two platforms that have nothing to do
with each other.

Of the first list only the adapters matter that it tells of (`Rearranged`), and of the second only
what it shows of the first record of each adapter (`ShowSame`), which is not a matter of its order
(`showSame_of_perm`).  Two runs with the same in both respects have answers that show the same.
-/

namespace TapTracker

open Simulation Testbed

/-! ### Enumerations that tell of the same adapters -/

/-- The two lists tell of the same adapters: each record of one of them has a record of the same
adapter in the other.  Order, repetitions, spellings, device names and aliases are free. -/
structure Rearranged (before before' : List TapAdapter) : Prop where
  kept : ∀ a ∈ before, ∃ b ∈ before', b.hasIdentifier a.identifier
  noneNew : ∀ b ∈ before', ∃ a ∈ before, a.hasIdentifier b.identifier

section Views

variable {β : Type} {view : TapAdapter → β} {before before' after after' : List TapAdapter}
  {key : List Char}

/-- Rearranged lists have records with the same keys. -/
lemma Rearranged.exists_key_iff (h : Rearranged before before') :
    (∃ a ∈ before, a.key = key) ↔ ∃ b ∈ before', b.key = key := by
  constructor
  · rintro ⟨a, ha, rfl⟩
    obtain ⟨b, hb, hkey⟩ := h.kept a ha
    exact ⟨b, hb, TapAdapter.hasIdentifier_iff.1 hkey⟩
  · rintro ⟨b, hb, rfl⟩
    obtain ⟨a, ha, hkey⟩ := h.noneNew b hb
    exact ⟨a, ha, TapAdapter.hasIdentifier_iff.1 hkey⟩

/-- Lists that show the same have records with the same keys. -/
lemma ShowSame.exists_key_iff (h : ShowSame view after after') :
    (∃ a ∈ after, a.key = key) ↔ ∃ a ∈ after', a.key = key := by
  rw [← isSome_firstRecord?, ← isSome_firstRecord?, ← Option.isSome_map (f := view), h key,
    Option.isSome_map]

/-- The same adapters are new. -/
lemma newKeys_eq_of_rearranged (hbefore : Rearranged before before')
    (hafter : ShowSame view after after') : newKeys before after = newKeys before' after' := by
  ext key
  have hold : (∃ b ∈ before, b.key = key) ↔ ∃ b ∈ before', b.key = key :=
    hbefore.exists_key_iff
  have hnone : (∀ b ∈ before, b.key ≠ key) ↔ ∀ b ∈ before', b.key ≠ key := by
    simpa only [not_exists, not_and] using not_congr hold
  rw [mem_newKeys, mem_newKeys, hafter.exists_key_iff, hnone]

/-- In lists without two records of one adapter it does not matter for what they show in which order
they show it. -/
lemma showSame_of_perm (hview : ShowsIdentifier view)
    (hperm : (after.map view).Perm (after'.map view))
    (hdistinct : (after.map TapAdapter.key).Nodup) : ShowSame view after after' := by
  intro key
  obtain ⟨spelling, hspelling⟩ := hview
  have hkeys : (after.map view).map (identityKey ∘ spelling) = after.map TapAdapter.key := by
    rw [List.map_map]
    exact List.map_congr_left fun a _ => congrArg identityKey (hspelling a)
  have hfind (adapters : List TapAdapter) : (firstRecord? adapters key).map view =
      (adapters.map view).find? fun v => identityKey (spelling v) = key := by
    rw [List.find?_map, firstRecord?]
    congr 2
    funext a
    rw [Function.comp_apply, hspelling]
    rfl
  rw [hfind, hfind]
  refine List.find?_eq_find?_of_perm hperm ?_
  rintro v ⟨hv, hvkey⟩ w ⟨hw, hwkey⟩
  have hsame : identityKey (spelling v) = identityKey (spelling w) :=
    (of_decide_eq_true hvkey).trans (of_decide_eq_true hwkey).symm
  exact List.inj_on_of_nodup_map (hkeys ▸ hdistinct) hv hw hsame

end Views

/-! ### Runs of a tracker around an installation -/

/-- The calls on a tracker around one installation. -/
def callsAroundInstallation : List TrackerCall :=
  [.establishBaseline, .recordCurrentState, .newAdapter]

/-- The next two enumerations answer the two lists. -/
def EnumeratesTwice {σ : Type} (p : Platform (StateM σ)) (cls : AdapterClass) (s : σ)
    (before after : List TapAdapter) (s' : σ) : Prop :=
  ∃ middle, (p.enumerate cls).run s = (.ok before, middle) ∧
    (p.enumerate cls).run middle = (.ok after, s')

section Runs

variable {σ : Type} {p : Platform (StateM σ)} {s s' : σ}

/-- Two captures that succeed make a tracker that gives the answer of the two lists. -/
lemma run_callsAroundInstallation {cls : AdapterClass} {before after : List TapAdapter}
    (owned : TapAdapter → Bool) (h : EnumeratesTwice p cls s before after s') :
    ∃ t status answer,
      (TrackerCall.performAll p (.new cls owned) callsAroundInstallation).run s =
        ((t, [.status (.ok status), .recorded (.ok ()), .adapter answer]), s') ∧
      NewAdapterAnswer before after answer := by
  obtain ⟨middle, hbefore, hafter⟩ := h
  let first : BaselineTracker := ⟨cls, owned, some (.ofList before), none⟩
  let second : BaselineTracker := ⟨cls, owned, some (.ofList before), some (.ofList after)⟩
  have hbaseline : (TrackerCall.establishBaseline.perform p (.new cls owned)).run s =
      ((first, .status (.ok (.classify (.ofList before) owned))), middle) := by
    rw [TrackerCall.perform, StateT.run_bind,
      run_establishBaseline (t := .new cls owned) hbefore]
    rfl
  have hcurrent : (TrackerCall.recordCurrentState.perform p first).run middle =
      ((second, .recorded (.ok ())), s') := by
    rw [TrackerCall.perform, StateT.run_bind, run_recordCurrentState (t := first) hafter]
    rfl
  have hanswer : (TrackerCall.performAll p second [.newAdapter]).run s' =
      ((second, [.adapter second.newAdapter]), s') := rfl
  exact ⟨second, _, second.newAdapter,
    TrackerCall.run_performAll_cons hbaseline (TrackerCall.run_performAll_cons hcurrent hanswer),
    BaselineTracker.newAdapter_answer ⟨rfl, rfl⟩⟩

end Runs

/-- Two runs of trackers around an installation both come to an answer.  Let their first lists tell
of the same adapters, and let the second list of one of them have no two records of one adapter.  If
the other second list is a permutation of it, the answers are the same, and if it is one up to
device names and aliases, the answers are the same up to device names and aliases. -/
theorem newAdapter_of_rearranged {σ σ' : Type} {p : Platform (StateM σ)}
    {p' : Platform (StateM σ')} {cls cls' : AdapterClass} (owned owned' : TapAdapter → Bool)
    {start stop : σ} {start' stop' : σ'} {before after before' after' : List TapAdapter}
    (hlists : EnumeratesTwice p cls start before after stop)
    (hlists' : EnumeratesTwice p' cls' start' before' after' stop')
    (hbefore : Rearranged before before')
    (hdistinct : after.Pairwise fun a b => a.hasIdentifier b.identifier = false) :
    ∃ t t' status status' answer answer',
      (TrackerCall.performAll p (.new cls owned) callsAroundInstallation).run start =
        ((t, [.status (.ok status), .recorded (.ok ()), .adapter answer]), stop) ∧
      (TrackerCall.performAll p' (.new cls' owned') callsAroundInstallation).run start' =
        ((t', [.status (.ok status'), .recorded (.ok ()), .adapter answer']), stop') ∧
      (after'.Perm after → answer' = answer) ∧
      ((after'.map (·.identifier)).Perm (after.map (·.identifier)) →
        answer'.map (·.identifier) = answer.map (·.identifier)) := by
  obtain ⟨t, status, answer, hrun, hanswer⟩ := run_callsAroundInstallation owned hlists
  obtain ⟨t', status', answer', hrun', hanswer'⟩ := run_callsAroundInstallation owned' hlists'
  have hkeys : (after.map TapAdapter.key).Nodup :=
    List.pairwise_map.2 (hdistinct.imp TapAdapter.hasIdentifier_eq_false.1)
  refine ⟨t, t', status, status', answer, answer', hrun, hrun', fun hperm => ?_, fun hperm => ?_⟩
  · have hshown : ShowSame id after after' :=
      showSame_of_perm showsIdentifier_id (hperm.symm.map id) hkeys
    have hsame := newKeys_eq_of_rearranged hbefore hshown
    have hequal := hanswer.map_eq showsIdentifier_id hsame hshown hanswer'
    rw [Except.map_id] at hequal
    exact hequal.symm
  · have hview : ShowsIdentifier fun a : TapAdapter => a.identifier := ⟨id, fun _ => rfl⟩
    have hshown : ShowSame (·.identifier) after after' := showSame_of_perm hview hperm.symm hkeys
    have hsame := newKeys_eq_of_rearranged hbefore hshown
    exact (hanswer.map_eq hview hsame hshown hanswer').symm

/-- A system that answers two enumerations with two lists. -/
def systemListing (before after : List TapAdapter) : Testbed :=
  { ofDevices [] with script := some [.ok before, .ok after] }

/-- The system after these two enumerations. -/
def systemAtEnd : Testbed :=
  { ofDevices [] with script := some [], enumerations := 2 }

/-- The system answers its two enumerations with the two lists. -/
lemma enumeratesTwice_systemListing (cls : AdapterClass) (before after : List TapAdapter) :
    EnumeratesTwice platform cls (systemListing before after) before after systemAtEnd :=
  ⟨_, rfl, rfl⟩

/-- In another order and spelling, and one of them twice, the old adapters make no difference to
which adapter is new. -/
theorem newAdapter_of_rearranged_spellings :
    let cls : AdapterClass := ⟨⟨"", .empty⟩⟩
    let owned : TapAdapter → Bool := fun _ => false
    let before : List TapAdapter := [⟨"{A}", "TAP", "one"⟩, ⟨"{b}", "TAP", "two"⟩]
    let after : List TapAdapter :=
      [⟨"{A}", "TAP", "one"⟩, ⟨"{b}", "TAP", "two"⟩, ⟨"{C}", "TAP", "three"⟩]
    let before' : List TapAdapter := [⟨"{B}", "TAP", "2"⟩, ⟨"{a}", "TUN", "1"⟩, ⟨"{A}", "", ""⟩]
    let after' : List TapAdapter :=
      [⟨"{C}", "TAP", "three"⟩, ⟨"{b}", "TAP", "two"⟩, ⟨"{A}", "TAP", "one"⟩]
    Rearranged before before' ∧
    (after.Pairwise fun a b => a.hasIdentifier b.identifier = false) ∧
    after'.Perm after ∧
    ∃ t t' status status',
      (TrackerCall.performAll platform (.new cls owned) callsAroundInstallation).run
        (systemListing before after) =
          ((t, [.status (.ok status), .recorded (.ok ()),
            .adapter (.ok ⟨"{C}", "TAP", "three"⟩)]), systemAtEnd) ∧
      (TrackerCall.performAll platform (.new cls owned) callsAroundInstallation).run
        (systemListing before' after') =
          ((t', [.status (.ok status'), .recorded (.ok ()),
            .adapter (.ok ⟨"{C}", "TAP", "three"⟩)]), systemAtEnd) := by
  intro cls owned before after before' after'
  have hbefore : Rearranged before before' := ⟨by decide, by decide⟩
  have hdistinct : after.Pairwise fun a b => a.hasIdentifier b.identifier = false := by decide
  have hperm : after'.Perm after := by decide
  obtain ⟨t, t', status, status', answer, answer', hrun, hrun', hsame, -⟩ :=
    newAdapter_of_rearranged owned owned (enumeratesTwice_systemListing cls before after)
      (enumeratesTwice_systemListing cls before' after') hbefore hdistinct
  obtain rfl := hsame hperm
  have hanswer : answer' = .ok ⟨"{C}", "TAP", "three"⟩ := by
    have hlist := congrArg (fun run => run.1.2.getLast?) hrun
    exact TrackerReturn.adapter.inj (Option.some_inj.1 hlist).symm
  rw [hanswer] at hrun hrun'
  exact ⟨hbefore, hdistinct, hperm, t, t', status, status', hrun, hrun'⟩

end TapTracker
