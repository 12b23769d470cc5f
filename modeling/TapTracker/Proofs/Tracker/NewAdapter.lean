import Mathlib.Data.Finset.Card
import TapTracker.Proofs.Adapter.Set
import TapTracker.Tracker.Baseline

/-!
# The new adapter of two enumerations

What a tracker answers about a new adapter is a matter of two enumerated lists, and
`NewAdapterAnswer before after` says what it is without a set, an order or a difference: `newKeys`
are the keys that occur in the second list only, and the answer depends on whether there are none,
one or several of them.

Two such answers show the same under a view of the records if the lists do
(`NewAdapterAnswer.map_eq`), so that there is one answer for two lists (`NewAdapterAnswer.unique`).
`newAdapter_of_capturedFrom` shows that a tracker gives it, whatever the two lists hold, and
whichever snapshot is missing.
-/

namespace TapTracker

/-- The keys of the records in the second list that no record in the first list has. -/
def newKeys (before after : List TapAdapter) : Finset (List Char) :=
  (after.map TapAdapter.key).toFinset \ (before.map TapAdapter.key).toFinset

/-- The identifier is spelled as in the first record of its adapter. -/
def IsSpelledAsIn (adapters : List TapAdapter) (identifier : String) : Prop :=
  (firstRecord? adapters (identityKey identifier)).map (·.identifier) = some identifier

/-- What there is to say about the new adapter between two enumerations. -/
inductive NewAdapterAnswer (before after : List TapAdapter) :
    Except TrackerError TapAdapter → Prop
  /-- No adapter is new. -/
  | none (hkeys : newKeys before after = ∅) : NewAdapterAnswer before after (.error .noNewAdapter)
  /-- One adapter is new, and its first record is the answer. -/
  | one (key : List Char) (a : TapAdapter) (hkeys : newKeys before after = {key})
      (hfirst : firstRecord? after key = some a) : NewAdapterAnswer before after (.ok a)
  /-- Several adapters are new.  They are listed once each, in increasing order, with the
  identifiers of their first records. -/
  | several (identifiers : List String) (hkeys : 2 ≤ (newKeys before after).card)
      (hlisted : (identifiers.map identityKey).toFinset = newKeys before after)
      (hordered : identifiers.Pairwise fun s t => compareIdentifiers s t = .lt)
      (hspelled : ∀ s ∈ identifiers, IsSpelledAsIn after s) :
      NewAdapterAnswer before after (.error (.multipleNewAdapters identifiers))

/-! ### The difference of two collected sets -/

section Difference

variable {before after : List TapAdapter} {a : TapAdapter} {key : List Char}

/-- A key is new exactly if the second list has a record with it and the first one has none. -/
lemma mem_newKeys :
    key ∈ newKeys before after ↔
      (∃ a ∈ after, a.key = key) ∧ ∀ b ∈ before, b.key ≠ key := by
  simp [newKeys]

/-- The difference of two collected sets consists of the first records of the new adapters. -/
lemma mem_difference_ofList :
    a ∈ (AdapterSet.ofList after).difference (AdapterSet.ofList before) ↔
      firstRecord? after a.key = some a ∧ a.key ∈ newKeys before after := by
  have habsent : (!(AdapterSet.ofList before).contains a.identifier) = true ↔
      ∀ b ∈ before, b.key ≠ a.key := by
    rw [Bool.not_eq_true', ← Bool.not_eq_true, AdapterSet.contains_iff,
      AdapterSet.firstRecord?_ofList, ← Option.isNone_iff_eq_none.trans firstRecord?_eq_none,
      Bool.not_eq_true, Option.isSome_eq_false_iff, TapAdapter.key]
  rw [AdapterSet.difference_eq_filter, List.mem_filter, AdapterSet.mem_ofList, habsent,
    mem_newKeys]
  constructor
  · rintro ⟨hfirst, hold⟩
    exact ⟨hfirst, ⟨a, mem_of_firstRecord? hfirst, rfl⟩, hold⟩
  · rintro ⟨hfirst, -, hold⟩
    exact ⟨hfirst, hold⟩

/-- The keys in the difference of two collected sets are the new keys. -/
lemma toFinset_map_key_difference :
    (((AdapterSet.ofList after).difference (AdapterSet.ofList before)).map
      TapAdapter.key).toFinset = newKeys before after := by
  ext key
  rw [List.mem_toFinset, List.mem_map]
  constructor
  · rintro ⟨a, ha, rfl⟩
    exact (mem_difference_ofList.1 ha).2
  · intro hkey
    obtain ⟨hafter, -⟩ := mem_newKeys.1 hkey
    obtain ⟨a, ha⟩ := Option.isSome_iff_exists.1 (isSome_firstRecord?.2 hafter)
    have hkey_a := key_of_firstRecord? ha
    subst hkey_a
    exact ⟨a, mem_difference_ofList.2 ⟨ha, hkey⟩, rfl⟩

/-- The difference of two collected sets has as many records as there are new keys. -/
lemma length_difference_ofList :
    ((AdapterSet.ofList after).difference (AdapterSet.ofList before)).length =
      (newKeys before after).card := by
  have hnodup : (((AdapterSet.ofList after).difference (AdapterSet.ofList before)).map
      TapAdapter.key).Nodup :=
    List.pairwise_map.2 ((AdapterSet.pairwise_difference _ _).imp TapAdapter.Before.key_ne)
  rw [← toFinset_map_key_difference, List.toFinset_card_of_nodup hnodup, List.length_map]

/-- The only new adapter is the first one of its key in the second enumeration. -/
lemma firstRecord?_of_newAdapterAnswer (h : NewAdapterAnswer before after (.ok a)) :
    firstRecord? after a.key = some a := by
  cases h with
  | one key a hkeys hfirst => rwa [key_of_firstRecord? hfirst]

/-- Where records have been added to the end of a list, the only new adapter is one of them. -/
lemma mem_of_newAdapterAnswer_append {added : List TapAdapter}
    (h : NewAdapterAnswer before (before ++ added) (.ok a)) : a ∈ added := by
  cases h with
  | one key a hkeys hfirst =>
    have hnew : key ∈ newKeys before (before ++ added) := by
      rw [hkeys, Finset.mem_singleton]
    obtain ⟨-, hold⟩ := mem_newKeys.1 hnew
    rcases List.mem_append.1 (mem_of_firstRecord? hfirst) with ha | ha
    · exact absurd (key_of_firstRecord? hfirst) (hold a ha)
    · exact ha

end Difference

/-! ### Listed identifiers -/

section Listed

variable {after : List TapAdapter}

/-- Identifiers spelled as in one list are the same if they have the same key. -/
lemma IsSpelledAsIn.eq {s t : String} (hs : IsSpelledAsIn after s) (ht : IsSpelledAsIn after t)
    (hkey : identityKey s = identityKey t) : s = t := by
  rw [IsSpelledAsIn, hkey, ht] at hs
  exact (Option.some_inj.1 hs).symm

/-- A listing has every identifier, spelled as in the list, whose key another listing has. -/
lemma mem_of_map_identityKey_subset {ss ts : List String}
    (hss : ∀ s ∈ ss, IsSpelledAsIn after s) (hts : ∀ t ∈ ts, IsSpelledAsIn after t)
    (hkeys : (ss.map identityKey).toFinset = (ts.map identityKey).toFinset) {s : String}
    (hs : s ∈ ss) : s ∈ ts := by
  have hkey : identityKey s ∈ (ts.map identityKey).toFinset := by
    rw [← hkeys, List.mem_toFinset]
    exact List.mem_map_of_mem hs
  obtain ⟨t, ht, hts_key⟩ := List.mem_map.1 (List.mem_toFinset.1 hkey)
  rwa [(hss s hs).eq (hts t ht) hts_key.symm]

/-- Listings in increasing order that are spelled as in one list are determined by their keys. -/
lemma eq_of_toFinset_map_identityKey_eq {ss ts : List String}
    (hss : ss.Pairwise fun s t => compareIdentifiers s t = .lt)
    (hts : ts.Pairwise fun s t => compareIdentifiers s t = .lt)
    (hspelled : ∀ s ∈ ss, IsSpelledAsIn after s) (hspelled' : ∀ t ∈ ts, IsSpelledAsIn after t)
    (hkeys : (ss.map identityKey).toFinset = (ts.map identityKey).toFinset) : ss = ts := by
  have hperm : ss.Perm ts := by
    rw [List.perm_ext_iff_of_nodup (nodup_of_pairwise_compareIdentifiers hss)
      (nodup_of_pairwise_compareIdentifiers hts)]
    intro s
    exact ⟨mem_of_map_identityKey_subset hspelled hspelled' hkeys,
      mem_of_map_identityKey_subset hspelled' hspelled hkeys.symm⟩
  exact hperm.eq_of_pairwise (fun s t _ _ hst h => absurd h (compareIdentifiers_asymm hst)) hss hts

end Listed

/-! ### One answer for two lists

How much of a record is looked at is a parameter, its view.  The whole record is one view, and the
identifier is another. -/

section Views

variable {β : Type} {view : TapAdapter → β} {before before' after after' : List TapAdapter}

/-- What the view takes from a record tells its identifier. -/
def ShowsIdentifier (view : TapAdapter → β) : Prop :=
  ∃ spelling : β → String, ∀ a, spelling (view a) = a.identifier

/-- The two lists show the same of the first record of every adapter. -/
def ShowSame (view : TapAdapter → β) (after after' : List TapAdapter) : Prop :=
  ∀ key, (firstRecord? after key).map view = (firstRecord? after' key).map view

/-- A view that shows the identifiers shows how they are spelled. -/
lemma ShowSame.isSpelledAsIn (hview : ShowsIdentifier view) (h : ShowSame view after after')
    {identifier : String} (hs : IsSpelledAsIn after' identifier) :
    IsSpelledAsIn after identifier := by
  obtain ⟨spelling, hspelling⟩ := hview
  have hidentifier : (·.identifier) = spelling ∘ view := funext fun a => (hspelling a).symm
  rw [IsSpelledAsIn, hidentifier, ← Option.map_map] at hs ⊢
  rw [h, hs]

/-- Where the same adapters are new and the second lists show the same, the answers show the same:
either the same error, down to the identifiers that it lists, or records that look the same. -/
lemma NewAdapterAnswer.map_eq {first second : Except TrackerError TapAdapter}
    (hview : ShowsIdentifier view) (hsame : newKeys before after = newKeys before' after')
    (hafter : ShowSame view after after') (h : NewAdapterAnswer before after first)
    (h' : NewAdapterAnswer before' after' second) : first.map view = second.map view := by
  -- Answers of two kinds would need two different numbers of new adapters.
  cases h with
  | none hkeys =>
    cases h' with
    | none => rfl
    | one _ _ hkeys' => simp [← hsame, hkeys] at hkeys'
    | several _ hkeys' => simp [← hsame, hkeys] at hkeys'
  | one key a hkeys hfirst =>
    cases h' with
    | none hkeys' => simp [← hsame, hkeys] at hkeys'
    | one key' a' hkeys' hfirst' =>
      obtain rfl := Finset.singleton_injective (hkeys.symm.trans (hsame.trans hkeys'))
      have hshown := hafter key
      rw [hfirst, hfirst'] at hshown
      exact congrArg Except.ok (Option.some_inj.1 hshown)
    | several _ hkeys' => simp [← hsame, hkeys] at hkeys'
  | several ss hkeys hlisted hordered hspelled =>
    cases h' with
    | none hkeys' => simp [hsame, hkeys'] at hkeys
    | one _ _ hkeys' => simp [hsame, hkeys'] at hkeys
    | several ts _ hlisted' hordered' hspelled' =>
      have hequal : ss = ts := eq_of_toFinset_map_identityKey_eq hordered hordered' hspelled
        (fun t ht => hafter.isSpelledAsIn hview (hspelled' t ht))
        (hlisted.trans (hsame.trans hlisted'.symm))
      rw [hequal]

/-- The whole record tells its identifier. -/
lemma showsIdentifier_id : ShowsIdentifier (id : TapAdapter → TapAdapter) :=
  ⟨(·.identifier), fun _ => rfl⟩

/-- Two lists belong to one answer only. -/
lemma NewAdapterAnswer.unique {first second : Except TrackerError TapAdapter}
    (h : NewAdapterAnswer before after first) (h' : NewAdapterAnswer before after second) :
    first = second := by
  have hshown := h.map_eq showsIdentifier_id rfl (fun _ => rfl) h'
  rwa [Except.map_id] at hshown

end Views

/-! ### Trackers -/

namespace BaselineTracker

variable {t : BaselineTracker} {before after : List TapAdapter}

/-- The snapshots of the tracker have been captured from enumerated lists; a snapshot without a list
is missing. -/
structure CapturedFrom (t : BaselineTracker) (before after : Option (List TapAdapter)) : Prop where
  baseline : t.baseline = before.map AdapterSet.ofList
  currentState : t.currentState = after.map AdapterSet.ofList

/-- A tracker with both snapshots gives the answer that belongs to the two lists. -/
lemma newAdapter_answer (h : t.CapturedFrom (some before) (some after)) :
    NewAdapterAnswer before after t.newAdapter := by
  have hlength := @length_difference_ofList before after
  have hkeys := @toFinset_map_key_difference before after
  have hmem := @mem_difference_ofList before after
  have hord := AdapterSet.pairwise_difference (AdapterSet.ofList after) (AdapterSet.ofList before)
  rw [newAdapter, h.baseline, h.currentState]
  simp only [Option.map_some]
  generalize (AdapterSet.ofList after).difference (AdapterSet.ofList before) = added at *
  rcases added with _ | ⟨a, _ | ⟨b, rest⟩⟩
  · exact .none (by simpa using hkeys.symm)
  · refine .one a.key a (by simpa using hkeys.symm) ?_
    exact (hmem.1 List.mem_cons_self).1
  · refine .several _ ?_ ?_ ?_ ?_
    · rw [← hlength]
      simp
    · rw [← hkeys, List.map_map]
      rfl
    · exact List.pairwise_map.2 hord
    · intro s hs
      obtain ⟨c, hc, rfl⟩ := List.mem_map.1 hs
      have hfirst := (hmem.1 hc).1
      rw [TapAdapter.key] at hfirst
      rw [IsSpelledAsIn, hfirst, Option.map_some]

/-- A tracker answers what belongs to the lists that its snapshots have been captured from, and
nothing else; without both of them it names the one that is missing, and the baseline first. -/
theorem newAdapter_of_capturedFrom {before after : Option (List TapAdapter)}
    (h : t.CapturedFrom before after) :
    match before, after with
    | none, _ => t.newAdapter = .error (.missingSnapshot .baseline)
    | some _, none => t.newAdapter = .error (.missingSnapshot .currentState)
    | some before, some after =>
      ∀ answer, t.newAdapter = answer ↔ NewAdapterAnswer before after answer := by
  match before, after with
  | none, _ => simp [newAdapter, h.baseline]
  | some _, none => simp [newAdapter, h.baseline, h.currentState]
  | some _, some _ =>
    refine fun answer => ⟨?_, fun hanswer => (newAdapter_answer h).unique hanswer⟩
    rintro rfl
    exact newAdapter_answer h

/-- A new adapter that is enumerated in two spellings is one adapter, and its first record is the
answer; another spelling of an old adapter is not new. -/
theorem newAdapter_of_two_spellings :
    ∃ t : BaselineTracker,
      t.CapturedFrom (some [⟨"{A}", "TAP", "one"⟩])
        (some [⟨"{b}", "TAP", "two"⟩, ⟨"{a}", "TAP", "three"⟩, ⟨"{B}", "TAP", "four"⟩]) ∧
      t.newAdapter = .ok ⟨"{b}", "TAP", "two"⟩ := by
  let t : BaselineTracker :=
    ⟨⟨⟨"", .empty⟩⟩, fun _ => false, some (.ofList [⟨"{A}", "TAP", "one"⟩]),
      some (.ofList
        [⟨"{b}", "TAP", "two"⟩, ⟨"{a}", "TAP", "three"⟩, ⟨"{B}", "TAP", "four"⟩])⟩
  have hcaptured : t.CapturedFrom (some [⟨"{A}", "TAP", "one"⟩])
      (some [⟨"{b}", "TAP", "two"⟩, ⟨"{a}", "TAP", "three"⟩, ⟨"{B}", "TAP", "four"⟩]) :=
    ⟨rfl, rfl⟩
  refine ⟨t, hcaptured, (newAdapter_of_capturedFrom hcaptured _).2 ?_⟩
  exact .one (identityKey "{b}") _ (by decide) rfl

end BaselineTracker

end TapTracker
