import TapTracker.Proofs.Run.Stages
import TapTracker.Proofs.Simulation.Testbed

/-!
# The status of a baseline and the enumerated list

A baseline is classified as a set, collapsed and reordered, while the system has answered a list.
`ComesFirst adapters a` says of the list alone which records survive: those before which no record
has their identifier.  A product adapter is seen exactly if such a record belongs to the product,
and the one that is found is the least of them by identifier.

A list without two records of one adapter loses nothing, and its order is lost
(`AdapterSet.ofList_eq_of_perm`); so neither the status nor the adapter that is found depends on the
order in which the system lists its adapters.
-/

namespace TapTracker

/-- `a` stands in the list, and no record before it has its identifier. -/
def ComesFirst (adapters : List TapAdapter) (a : TapAdapter) : Prop :=
  ∃ earlier later, adapters = earlier ++ a :: later ∧
    ∀ b ∈ earlier, b.hasIdentifier a.identifier = false

/-- No two records of the list are about one adapter. -/
def Distinct (adapters : List TapAdapter) : Prop :=
  adapters.Pairwise fun a b => a.hasIdentifier b.identifier = false

/-! ### First records -/

section FirstRecords

variable {adapters adapters' : List TapAdapter} {a : TapAdapter}

/-- The records that come first are those that look-ups end at. -/
lemma comesFirst_iff_firstRecord? :
    ComesFirst adapters a ↔ firstRecord? adapters a.key = some a := by
  rw [firstRecord?, List.find?_eq_some_iff_append]
  constructor
  · rintro ⟨earlier, later, hsplit, hbefore⟩
    refine ⟨decide_eq_true rfl, earlier, later, hsplit, fun b hb => ?_⟩
    have hother : b.key ≠ a.key := TapAdapter.hasIdentifier_eq_false.1 (hbefore b hb)
    rw [decide_eq_false hother]
    rfl
  · rintro ⟨-, earlier, later, hsplit, hbefore⟩
    refine ⟨earlier, later, hsplit, fun b hb => ?_⟩
    have hother : b.key ≠ a.key := by simpa using hbefore b hb
    exact TapAdapter.hasIdentifier_eq_false.2 hother

/-- The members of a collected set are the records that come first. -/
lemma AdapterSet.mem_ofList_iff_comesFirst :
    a ∈ (AdapterSet.ofList adapters).adapters ↔ ComesFirst adapters a := by
  rw [AdapterSet.mem_ofList, comesFirst_iff_firstRecord?]

/-- Where no two records are about one adapter, every record comes first. -/
lemma Distinct.comesFirst_iff (hdistinct : Distinct adapters) :
    ComesFirst adapters a ↔ a ∈ adapters := by
  constructor
  · rintro ⟨earlier, later, rfl, -⟩
    exact List.mem_append_right _ List.mem_cons_self
  · intro ha
    obtain ⟨earlier, later, rfl⟩ := List.append_of_mem ha
    obtain ⟨-, -, hbetween⟩ := List.pairwise_append.1 hdistinct
    exact ⟨earlier, later, rfl, fun b hb => hbetween b hb a List.mem_cons_self⟩

/-- A list without two records of one adapter has none in another order either. -/
lemma Distinct.of_perm (hdistinct : Distinct adapters) (hperm : adapters'.Perm adapters) :
    Distinct adapters' := by
  refine (hperm.pairwise_iff fun hab => ?_).2 hdistinct
  exact TapAdapter.hasIdentifier_eq_false.2 (TapAdapter.hasIdentifier_eq_false.1 hab).symm

/-- What a list without two records of one adapter is collected to does not depend on its order. -/
lemma AdapterSet.ofList_eq_of_perm (hdistinct : Distinct adapters)
    (hperm : adapters'.Perm adapters) :
    AdapterSet.ofList adapters' = AdapterSet.ofList adapters := by
  have hmembers : ∀ a, a ∈ (AdapterSet.ofList adapters').adapters ↔
      a ∈ (AdapterSet.ofList adapters).adapters := by
    intro a
    rw [mem_ofList_iff_comesFirst, mem_ofList_iff_comesFirst, hdistinct.comesFirst_iff,
      (hdistinct.of_perm hperm).comesFirst_iff, hperm.mem_iff]
  have hadapters := (AdapterSet.ofList adapters').increasing.eq_of_mem_iff
    (AdapterSet.ofList adapters).increasing hmembers
  rw [AdapterSet.mk.injEq]
  exact hadapters

end FirstRecords

/-! ### The classification -/

section Classification

variable {adapters : List TapAdapter} {owned : TapAdapter → Bool} {a : TapAdapter}

/-- A baseline has no adapters exactly if the list is empty. -/
lemma classify_ofList_eq_noTapAdaptersPresent :
    BaselineStatus.classify (.ofList adapters) owned = .noTapAdaptersPresent ↔ adapters = [] := by
  rw [classify_eq_noTapAdaptersPresent, ← List.isEmpty_iff, ← AdapterSet.isEmpty,
    AdapterSet.isEmpty_ofList, List.isEmpty_iff]

/-- A baseline has a product adapter exactly if a record that comes first belongs to the product. -/
lemma classify_ofList_eq_productAdapterPresent :
    BaselineStatus.classify (.ofList adapters) owned = .productAdapterPresent ↔
      ∃ a, ComesFirst adapters a ∧ owned a := by
  simp only [classify_eq_productAdapterPresent, AdapterSet.mem_ofList_iff_comesFirst]

/-- The adapter that is found is the least of the records that come first and belong to the
product. -/
lemma find?_ofList_eq_some_iff_comesFirst :
    (AdapterSet.ofList adapters).find? owned = some a ↔
      ComesFirst adapters a ∧ owned a ∧
        ∀ b, ComesFirst adapters b → owned b →
          b = a ∨ compareIdentifiers a.identifier b.identifier = .lt := by
  rw [AdapterSet.find?_ofList_eq_some]
  simp only [comesFirst_iff_firstRecord?]
  exact ⟨fun ⟨hfirst, howned, hleast⟩ => ⟨hfirst, howned, hleast⟩,
    fun ⟨hfirst, howned, hleast⟩ => ⟨hfirst, howned, hleast⟩⟩

/-- None is found exactly if no record that comes first is owned. -/
lemma find?_ofList_eq_none_iff_comesFirst :
    (AdapterSet.ofList adapters).find? owned = none ↔
      ∀ a, ComesFirst adapters a → owned a = false := by
  simp only [AdapterSet.find?_ofList_eq_none, HasNoOwned, comesFirst_iff_firstRecord?]

end Classification

/-! ### Baselines -/

/-- What the status of a baseline says of the enumerated list. -/
structure StatusOf (owned : TapAdapter → Bool) (adapters : List TapAdapter)
    (status : BaselineStatus) : Prop where
  none_iff : status = .noTapAdaptersPresent ↔ adapters = []
  product_iff : status = .productAdapterPresent ↔ ∃ a, ComesFirst adapters a ∧ owned a
  some_iff : status = .someTapAdaptersPresent ↔
    adapters ≠ [] ∧ ¬ ∃ a, ComesFirst adapters a ∧ owned a

/-- A baseline is classified by the enumerated list as its status says. -/
lemma statusOf_classify (owned : TapAdapter → Bool) (adapters : List TapAdapter) :
    StatusOf owned adapters (.classify (.ofList adapters) owned) := by
  have hnone : BaselineStatus.classify (.ofList adapters) owned = .noTapAdaptersPresent ↔
      adapters = [] := classify_ofList_eq_noTapAdaptersPresent
  have hproduct : BaselineStatus.classify (.ofList adapters) owned = .productAdapterPresent ↔
      ∃ a, ComesFirst adapters a ∧ owned a := classify_ofList_eq_productAdapterPresent
  refine ⟨hnone, hproduct, ?_⟩
  rw [Ne, ← hnone, ← hproduct]
  cases BaselineStatus.classify (.ofList adapters) owned <;> simp

section Baselines

variable {σ : Type} {p : Platform (StateM σ)} {t : BaselineTracker} {s s' : σ}
  {adapters : List TapAdapter}

/-- The status of a baseline and the adapter of the product in it are a matter of the first records
of the enumerated list.  If the list has no two records of one adapter, they do not depend on its
order, and every record of the product is seen. -/
theorem establishBaseline_status (h : (p.enumerate t.adapterClass).run s = (.ok adapters, s')) :
    ∃ status,
      (t.establishBaseline p).run s =
        (({ t with baseline := some (.ofList adapters) }, .ok status), s') ∧
      StatusOf t.owned adapters status ∧
      (∀ a, (AdapterSet.ofList adapters).find? t.owned = some a ↔
        ComesFirst adapters a ∧ t.owned a ∧
          ∀ b, ComesFirst adapters b → t.owned b →
            b = a ∨ compareIdentifiers a.identifier b.identifier = .lt) ∧
      ((AdapterSet.ofList adapters).find? t.owned = none ↔
        ∀ a, ComesFirst adapters a → t.owned a = false) ∧
      (Distinct adapters →
        (∀ a ∈ adapters, t.owned a → status = .productAdapterPresent ∧
          ((AdapterSet.ofList adapters).find? t.owned).isSome) ∧
        ∀ {τ : Type} (p' : Platform (StateM τ)) (r r' : τ) (adapters' : List TapAdapter),
          adapters'.Perm adapters →
          (p'.enumerate t.adapterClass).run r = (.ok adapters', r') →
          (t.establishBaseline p').run r =
            (({ t with baseline := some (.ofList adapters') }, .ok status), r') ∧
          (AdapterSet.ofList adapters').find? t.owned =
            (AdapterSet.ofList adapters).find? t.owned) := by
  have hstatus := statusOf_classify t.owned adapters
  refine ⟨.classify (.ofList adapters) t.owned, run_establishBaseline h, hstatus,
    fun a => find?_ofList_eq_some_iff_comesFirst, find?_ofList_eq_none_iff_comesFirst,
    fun hdistinct => ⟨fun a ha howned => ?_, fun p' r r' adapters' hperm h' => ?_⟩⟩
  · have hfirst : ComesFirst adapters a := hdistinct.comesFirst_iff.2 ha
    refine ⟨hstatus.product_iff.2 ⟨a, hfirst, howned⟩, ?_⟩
    rw [Option.isSome_iff_ne_none, Ne, find?_ofList_eq_none_iff_comesFirst]
    intro hnone
    rw [hnone a hfirst] at howned
    cases howned
  · -- The answers of the two platforms are used only as they are collected, which is the same.
    have hset : AdapterSet.ofList adapters' = AdapterSet.ofList adapters :=
      AdapterSet.ofList_eq_of_perm hdistinct hperm
    have hrun := run_establishBaseline (t := t) h'
    rw [hset]
    refine ⟨?_, rfl⟩
    rw [hrun, Except.map, hset]
    rfl

open Simulation in
/-- A record of the product that repeats the identifier of an earlier record is not seen. -/
theorem establishBaseline_status_of_repeated :
    let owned : TapAdapter → Bool := fun a => a.aliasName == "Mullvad"
    let adapters : List TapAdapter :=
      [⟨"{b}", "TAP", "one"⟩, ⟨"{C}", "TAP", "two"⟩, ⟨"{B}", "TAP", "Mullvad"⟩]
    let b : Testbed := .ofDevices adapters
    let t : BaselineTracker := .new ⟨⟨"", .empty⟩⟩ owned
    (Testbed.platform.enumerate t.adapterClass).run b = (.ok adapters, b.counted) ∧
    ∃ t', (t.establishBaseline Testbed.platform).run b =
      ((t', .ok .someTapAdaptersPresent), b.counted) := by
  intro owned adapters b t
  have henumerate : (Testbed.platform.enumerate t.adapterClass).run b = (.ok adapters, b.counted) :=
    rfl
  have hfound : (AdapterSet.ofList adapters).find? t.owned = none := by decide
  obtain ⟨status, hrun, hstatus, -, hnone, -⟩ := establishBaseline_status henumerate
  have hunseen : ¬ ∃ a, ComesFirst adapters a ∧ t.owned a := by
    rintro ⟨a, hfirst, howned⟩
    rw [hnone.1 hfound a hfirst] at howned
    cases howned
  obtain rfl := hstatus.some_iff.2 ⟨by decide, hunseen⟩
  exact ⟨henumerate, _, hrun⟩

end Baselines

end TapTracker
