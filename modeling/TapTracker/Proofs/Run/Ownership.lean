import Mathlib.Data.List.TFAE
import TapTracker.Proofs.Run.Install
import TapTracker.Proofs.Run.Listing
import TapTracker.Proofs.Tracker.Deletion
import TapTracker.Run.Execute

/-!
# The commands agree on the product

Every command asks in its own way whether an adapter belongs to the product: the listings ask of
each record, the baseline is classified, an installation looks for the record that it reports, and a
removal for the one that it removes.  `commands_agree` says that all of them come to the same
answer, and that it is the same record that an installation reports, that a removal removes and that
is the first to be marked in a listing.

The commands are run on the same platform, whose first answer is thus the same for all of them;
whatever it answers after that, and however the installer ends, is left open.  What each command
tells is compared with `productAdapter?`, which is a matter of this first answer alone.
-/

namespace TapTracker

open TapTracker.Text

/-! ### What the commands tell -/

/-- The entries of the JSON listing that a command has printed. -/
def jsonEntries (printed : Except RunError String) : Option (List (TapAdapter × Bool)) :=
  printed.toOption.bind readListing

/-- The entries of the listing in lines that a command has printed of the enumerated adapters. -/
def lineEntries (enumerated : Except EnumerateError (List TapAdapter))
    (printed : Except RunError String) : Option (List (TapAdapter × Bool)) := do
  let adapters ← enumerated.toOption
  let text ← printed.toOption
  return readMarks (AdapterSet.ofList adapters).adapters text.toList

/-- The record of the first entry that is marked. -/
def firstMarked (entries : List (TapAdapter × Bool)) : Option TapAdapter :=
  (entries.find? (·.2)).map (·.1)

/-- The identifiers for which the remover has been called. -/
def removals (log : Log) : List String :=
  log.filterMap fun
    | .removed identifier _ => some identifier
    | _ => none

/-- The adapter of the product in the answer to an enumeration. -/
def productAdapter? (settings : Settings) (enumerated : Except EnumerateError (List TapAdapter)) :
    Option TapAdapter :=
  enumerated.toOption.bind fun adapters => (AdapterSet.ofList adapters).find? settings.owns

/-- The entries of the set captured from the answer to an enumeration. -/
def capturedEntries (settings : Settings)
    (enumerated : Except EnumerateError (List TapAdapter)) : Option (List (TapAdapter × Bool)) :=
  enumerated.toOption.map fun adapters => (AdapterSet.ofList adapters).entries settings.owns

/-- The adapter of the product is the first owned one that is enumerated. -/
lemma productAdapter?_of_owned {settings : Settings} {adapters : List TapAdapter} {a : TapAdapter}
    (h : IsFirstOwned settings.owns adapters a) :
    productAdapter? settings (.ok adapters) = some a :=
  AdapterSet.find?_ofList_eq_some.2 h

/-- There is no adapter of the product if none that is enumerated is owned. -/
lemma productAdapter?_of_nothing {settings : Settings} {adapters : List TapAdapter}
    (h : HasNoOwned settings.owns adapters) : productAdapter? settings (.ok adapters) = none :=
  AdapterSet.find?_ofList_eq_none.2 h

/-- The first marked entry of a set is the first record that is owned. -/
lemma firstMarked_entries (s : AdapterSet) (owned : TapAdapter → Bool) :
    firstMarked (s.entries owned) = s.find? owned := by
  rw [firstMarked, AdapterSet.entries, List.find?_map, Option.map_map]
  exact Option.map_id'

/-- The first marked record of the captured set is the adapter of the product. -/
lemma firstMarked_capturedEntries (settings : Settings)
    (enumerated : Except EnumerateError (List TapAdapter)) :
    (capturedEntries settings enumerated).bind firstMarked =
      productAdapter? settings enumerated := by
  cases enumerated with
  | error e => rfl
  | ok adapters => exact firstMarked_entries (.ofList adapters) settings.owns

/-- Something is marked exactly if there is a first record that is. -/
lemma exists_marked_iff {shown : Option (List (TapAdapter × Bool))} :
    (∃ entries, shown = some entries ∧ ∃ a, (a, true) ∈ entries) ↔
      (shown.bind firstMarked).isSome := by
  cases shown with
  | none => simp
  | some entries =>
    rw [Option.bind_some, firstMarked, Option.isSome_map, List.find?_isSome]
    simp

/-! ### Runs of the commands -/

section Runs

variable {σ : Type} {p : Platform (StateM σ)} {settings : Settings} {s s' : σ}
  {answer : Except EnumerateError (List TapAdapter)}

/-- A listing shows what has been enumerated. -/
lemma run_executeList (asJson : Bool)
    (h : (p.enumerate settings.adapterClass).run s = (answer, s')) :
    (executeList p settings asJson).run s =
      ((answer.map fun adapters =>
        (AdapterSet.ofList adapters).render settings.owns asJson).mapError
          (.tracker ∘ .enumerate), s') := by
  rw [executeList, StateT.run_bind, run_capture h]
  cases answer <;> rfl

/-- The baseline is classified by what has been enumerated. -/
lemma run_executeBaseline (h : (p.enumerate settings.adapterClass).run s = (answer, s')) :
    (executeBaseline p settings).run s =
      ((answer.map fun adapters =>
        (BaselineStatus.classify (.ofList adapters) settings.owns).name).mapError
          (.tracker ∘ .enumerate), s') := by
  rw [executeBaseline, StateT.run_bind,
    run_establishBaseline (t := .new settings.adapterClass settings.owns) h]
  cases answer <;> rfl

/-- The command that removes names what its deletion comes to. -/
lemma run_executeRemove {result : Except TrackerError DeletionResult}
    (h : (deleteProductAdapter p settings.adapterClass settings.owns).run.run s = (result, s')) :
    (executeRemove p settings).run s = ((result.mapError .tracker).map (·.name), s') := by
  rw [executeRemove, StateT.run_bind, run_removeProductAdapter h]
  rfl

end Runs

/-- The statuses of a baseline have different names. -/
lemma BaselineStatus.name_inj {status other : BaselineStatus} :
    status.name = other.name ↔ status = other := by
  cases status <;> cases other <;> simp [name]

/-! ### Each command by the first enumeration -/

section Commands

variable (r : Responder) (settings : Settings)

/-- A JSON listing shows the entries of the captured set. -/
lemma jsonEntries_executeList :
    jsonEntries ((executeList r.platform settings true).run []).1 =
      capturedEntries settings (r.enumerate [] settings.adapterClass) := by
  rw [run_executeList true (Responder.Answers.run_enumerate rfl)]
  cases r.enumerate [] settings.adapterClass with
  | error e => rfl
  | ok adapters => exact readListing_pretty (.ofList adapters) settings.owns

/-- A listing in lines shows the same entries. -/
lemma lineEntries_executeList :
    lineEntries (r.enumerate [] settings.adapterClass)
        ((executeList r.platform settings false).run []).1 =
      capturedEntries settings (r.enumerate [] settings.adapterClass) := by
  rw [run_executeList false (Responder.Answers.run_enumerate rfl)]
  cases r.enumerate [] settings.adapterClass with
  | error e => rfl
  | ok adapters => exact congrArg some (readMarks_listing (.ofList adapters) settings.owns)

/-- The baseline tells of an adapter of the product exactly if there is one. -/
lemma executeBaseline_present_iff :
    ((executeBaseline r.platform settings).run []).1 = .ok "MULLVAD_ADAPTER_PRESENT" ↔
      (productAdapter? settings (r.enumerate [] settings.adapterClass)).isSome := by
  rw [run_executeBaseline (Responder.Answers.run_enumerate rfl)]
  cases r.enumerate [] settings.adapterClass with
  | error e => simp [Except.map, Except.mapError, productAdapter?, Except.toOption]
  | ok adapters =>
    change Except.ok (BaselineStatus.name _) = .ok BaselineStatus.productAdapterPresent.name ↔
      ((AdapterSet.ofList adapters).find? settings.owns).isSome
    rw [Except.ok.injEq, BaselineStatus.name_inj, classify_eq_productAdapterPresent,
      AdapterSet.find?, List.find?_isSome]

/-- An installation reports the adapter of the product if there is one, and has then done nothing
but enumerate. -/
lemma installCycle_of_productAdapter? {a : TapAdapter}
    (h : productAdapter? settings (r.enumerate [] settings.adapterClass) = some a) :
    (installCycle r.platform settings r.installer).run [] =
      (.ok (.alreadyPresent a),
        [.enumerated settings.adapterClass (r.enumerate [] settings.adapterClass)]) := by
  have hfirst : r.Answers [] (.enumerated settings.adapterClass
    (r.enumerate [] settings.adapterClass)) := rfl
  have henumerate := hfirst.run_enumerate
  cases hanswer : r.enumerate [] settings.adapterClass with
  | error e =>
    rw [hanswer] at h
    cases h
  | ok adapters =>
    rw [hanswer] at h henumerate
    exact run_installCycle_of_present henumerate (AdapterSet.find?_ofList_eq_some.1 h)

/-- An installation that reports an adapter reports the adapter of the product. -/
lemma productAdapter?_of_alreadyPresent {a : TapAdapter}
    (h : ((installCycle r.platform settings r.installer).run []).1 = .ok (.alreadyPresent a)) :
    productAdapter? settings (r.enumerate [] settings.adapterClass) = some a := by
  obtain ⟨made, result, hgives, hpath⟩ := exists_installRun r settings []
  rw [hpath.run hgives] at h
  cases hpath with
  | enumerationFails e => cases h
  | alreadyPresent before c howned =>
    cases h
    rw [← hgives.1, productAdapter?_of_owned howned]
  | installerFails before hnone e => cases h
  | installed before hnone made result hnamed =>
    cases hnamed with
    | enumerationFails e => cases h
    | notOne after e hanswer => cases h
    | named after added made result hanswer hgiven => cases result <;> cases h

/-- An installation reports an adapter without running the installer exactly if the product has an
adapter. -/
lemma installCycle_alreadyPresent_iff :
    (∃ a, ((installCycle r.platform settings r.installer).run []).1 = .ok (.alreadyPresent a) ∧
      ∀ answer, .installed answer ∉ ((installCycle r.platform settings r.installer).run []).2) ↔
      (productAdapter? settings (r.enumerate [] settings.adapterClass)).isSome := by
  rw [Option.isSome_iff_exists]
  constructor
  · rintro ⟨a, hpresent, -⟩
    exact ⟨a, productAdapter?_of_alreadyPresent r settings hpresent⟩
  · rintro ⟨a, hproduct⟩
    have hrun := installCycle_of_productAdapter? r settings hproduct
    exact ⟨a, by rw [hrun], by simp [hrun]⟩

/-- A removal calls the remover for the adapter of the product and for no other. -/
lemma removals_executeRemove :
    removals ((executeRemove r.platform settings).run []).2 =
      ((productAdapter? settings (r.enumerate [] settings.adapterClass)).map
        (·.identifier)).toList := by
  obtain ⟨made, result, hgives, hpath⟩ :=
    exists_deletionRun r settings.adapterClass settings.owns []
  rw [run_executeRemove (hpath.run hgives), List.nil_append]
  cases hpath with
  | enumerationFails e =>
    rw [← hgives.1]
    rfl
  | nothingOwned before hnone answer =>
    rw [← hgives.1, productAdapter?_of_nothing hnone]
    rfl
  | removalFails before a howned e =>
    rw [← hgives.1, productAdapter?_of_owned howned]
    rfl
  | removed before a howned answer =>
    rw [← hgives.1, productAdapter?_of_owned howned]
    rfl

/-- A JSON listing is empty exactly if there is no adapter to be classified. -/
lemma executeList_empty_iff :
    ((executeList r.platform settings true).run []).1 = .ok "[]" ↔
      ((executeBaseline r.platform settings).run []).1 = .ok "NO_TAP_ADAPTERS_PRESENT" := by
  rw [run_executeList true (Responder.Answers.run_enumerate rfl),
    run_executeBaseline (Responder.Answers.run_enumerate rfl)]
  cases r.enumerate [] settings.adapterClass with
  | error e => simp [Except.map, Except.mapError]
  | ok adapters =>
    change Except.ok (Json.pretty _) = .ok (Json.array []).pretty ↔
      Except.ok (BaselineStatus.name _) = .ok BaselineStatus.noTapAdaptersPresent.name
    rw [Except.ok.injEq, Except.ok.injEq, Json.pretty_inj, BaselineStatus.name_inj,
      classify_eq_noTapAdaptersPresent, AdapterSet.listingJson, Json.array.injEq,
      List.map_eq_nil_iff]

end Commands

/-- All commands agree on whether an adapter of the product is present, whatever is enumerated and
whether or not it can be enumerated; if one is, an installation reports the same record that a
removal asks to have removed and that is the first to be marked in both listings.  A JSON listing is
empty exactly if the baseline is classified as one without adapters. -/
theorem commands_agree (r : Responder) (settings : Settings) :
    let enumerated := r.enumerate [] settings.adapterClass
    let listing := ((executeList r.platform settings true).run []).1
    let lines := ((executeList r.platform settings false).run []).1
    let baseline := ((executeBaseline r.platform settings).run []).1
    let install := (installCycle r.platform settings r.installer).run []
    let removed := removals ((executeRemove r.platform settings).run []).2
    List.TFAE
      [∃ entries, jsonEntries listing = some entries ∧ ∃ a, (a, true) ∈ entries,
       ∃ entries, lineEntries enumerated lines = some entries ∧ ∃ a, (a, true) ∈ entries,
       baseline = .ok "MULLVAD_ADAPTER_PRESENT",
       ∃ a, install.1 = .ok (.alreadyPresent a) ∧ ∀ answer, .installed answer ∉ install.2,
       removed ≠ []] ∧
    (∀ a, install.1 = .ok (.alreadyPresent a) →
      (jsonEntries listing).bind firstMarked = some a ∧
      (lineEntries enumerated lines).bind firstMarked = some a ∧
      removed = [a.identifier]) ∧
    (listing = .ok "[]" ↔ baseline = .ok "NO_TAP_ADAPTERS_PRESENT") := by
  intro enumerated listing lines baseline install removed
  have hjson : (jsonEntries listing).bind firstMarked = productAdapter? settings enumerated := by
    rw [jsonEntries_executeList, firstMarked_capturedEntries]
  have hlines : (lineEntries enumerated lines).bind firstMarked =
      productAdapter? settings enumerated := by
    rw [lineEntries_executeList, firstMarked_capturedEntries]
  have hremoved : removed = ((productAdapter? settings enumerated).map (·.identifier)).toList :=
    removals_executeRemove r settings
  -- Each of the conditions says that the first enumeration has an adapter of the product.
  refine ⟨List.tfae_of_forall (productAdapter? settings enumerated).isSome _ ?_, fun a ha => ?_,
    executeList_empty_iff r settings⟩
  · simp only [List.forall_mem_cons]
    refine ⟨?_, ?_, executeBaseline_present_iff r settings,
      installCycle_alreadyPresent_iff r settings, ?_, by simp⟩
    · rw [exists_marked_iff, hjson]
    · rw [exists_marked_iff, hlines]
    · rw [hremoved]
      cases productAdapter? settings enumerated <;> simp
  · have hpresent := productAdapter?_of_alreadyPresent r settings ha
    rw [hjson, hlines, hremoved, hpresent]
    exact ⟨rfl, rfl, rfl⟩

end TapTracker
