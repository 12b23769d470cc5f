import TapTracker.Proofs.Run.Listing

/-!
# What listings show

A JSON listing is a text of the array that has one object for each record of the set, with the
fields of the record and whether it belongs to the product.  A JSON text is a text of one value
only, so that nothing of the listing can be lost or mixed up: the records are found again in it,
whatever characters stand in their fields.  The same holds for the compact text of one record.

A listing for people is cut into its lines at line feeds.  Its fields are not escaped, and therefore
it has one line for each record only if there are no line feeds in them (`textLines_listing`).
-/

namespace TapTracker

open TapTracker.Text

/-! ### Records -/

section Records

variable {a b : TapAdapter}

/-- The object of a record shows the record. -/
lemma TapAdapter.ofJson?_toJson (a : TapAdapter) : ofJson? a.toJson = some a := rfl

/-- Different records are never written as the same text. -/
lemma TapAdapter.compact_toJson_inj : a.toJson.compact = b.toJson.compact ↔ a = b := by
  refine ⟨fun h => ?_, fun h => by rw [h]⟩
  have hshown := congrArg ofJson? (Json.compact_inj.1 h)
  rw [ofJson?_toJson, ofJson?_toJson] at hshown
  exact Option.some_inj.1 hshown

end Records

/-! ### Lines -/

/-- The lines of a text, of which the empty text has none. -/
def textLines (text : String) : List String :=
  if text = "" then [] else (text.toList.splitOn '\n').map String.ofList

/-- There is a line feed in a field of the record. -/
def TapAdapter.HasLineFeed (a : TapAdapter) : Prop :=
  '\n' ∈ a.identifier.toList ∨ '\n' ∈ a.deviceName.toList ∨ '\n' ∈ a.aliasName.toList

instance (a : TapAdapter) : Decidable a.HasLineFeed := by
  unfold TapAdapter.HasLineFeed; infer_instance

section Lines

variable {a : TapAdapter} {s : AdapterSet}

/-- A description has no other line feeds than the fields. -/
lemma TapAdapter.not_mem_describe (h : ¬ a.HasLineFeed) : '\n' ∉ a.describe.toList := by
  obtain ⟨hidentifier, hrest⟩ := not_or.1 h
  obtain ⟨hdevice, halias⟩ := not_or.1 hrest
  simp [describe, hidentifier, hdevice, halias]

/-- The line of a record without line feeds is a single line. -/
lemma TapAdapter.not_mem_listingLine (owned : TapAdapter → Bool) (h : ¬ a.HasLineFeed) :
    '\n' ∉ (a.listingLine owned).toList := by
  rw [toList_listingLine]
  cases owned a <;> simp [not_mem_describe h]

/-- Nothing but an empty line or no line at all is joined to the empty text. -/
lemma eq_nil_of_intercalate_eq_empty {lines : List String} (hlines : "" ∉ lines)
    (hjoined : "\n".intercalate lines = "") : lines = [] := by
  have hchars := congrArg String.toList hjoined
  rw [String.toList_intercalate] at hchars
  cases lines with
  | nil => rfl
  | cons line rest =>
    cases rest with
    | nil =>
      have hempty : line = "" := by simpa using hchars
      exact absurd (hempty ▸ List.mem_cons_self) hlines
    | cons line' rest => simp [List.intercalate_cons_cons] at hchars

/-- Lines that are joined by line feeds are found again. -/
lemma textLines_intercalate {lines : List String} (hlines : "" ∉ lines)
    (hfeed : ∀ line ∈ lines, '\n' ∉ line.toList) :
    textLines ("\n".intercalate lines) = lines := by
  unfold textLines
  split
  next hempty => exact (eq_nil_of_intercalate_eq_empty hlines hempty).symm
  next hempty =>
    have hsome : lines.map String.toList ≠ [] := by
      rintro hnil
      rw [List.map_eq_nil_iff] at hnil
      exact hempty (hnil ▸ rfl)
    have hchars : ∀ chars ∈ lines.map String.toList, '\n' ∉ chars := by
      rintro _ hmem
      obtain ⟨line, hline, rfl⟩ := List.mem_map.1 hmem
      exact hfeed line hline
    have hjoined : ("\n".intercalate lines).toList = ['\n'].intercalate (lines.map String.toList) :=
      String.toList_intercalate
    rw [hjoined, List.splitOn_intercalate '\n' hchars hsome, List.map_map]
    exact List.map_id'' (fun line => line.ofList_toList) lines

/-- A listing without line feeds in the fields has one line for each record. -/
lemma textLines_listing (owned : TapAdapter → Bool) (hfeed : ∀ a ∈ s.adapters, ¬ a.HasLineFeed) :
    textLines (s.listing owned) = s.adapters.map (·.listingLine owned) := by
  refine textLines_intercalate ?_ ?_
  · rintro hmem
    obtain ⟨a, -, hline⟩ := List.mem_map.1 hmem
    have hchars := congrArg String.toList hline
    rw [toList_listingLine] at hchars
    cases hchars
  · intro line hline
    obtain ⟨a, ha, rfl⟩ := List.mem_map.1 hline
    exact a.not_mem_listingLine owned (hfeed a ha)

end Lines

/-- A JSON listing of any set is a text of the array that has an object for each record, in the
order of the set, with the fields of the record and whether it belongs to the product, so that
reading it gives just these; and the compact text of a record is a text of the object with its
fields, so that different records have different texts.  If there are no line feeds in the fields, a
listing for people has one line for each record, in the same order: a star and a blank, or two
blanks, and the description of the record. -/
theorem AdapterSet.render_faithful (s : AdapterSet) (owned : TapAdapter → Bool) :
    (s.adapters.Pairwise TapAdapter.Before ∧
      Json.IsTextOf (s.render owned true) (.array (s.adapters.map fun a => .object
        [("identifier", .string a.identifier), ("device_name", .string a.deviceName),
          ("alias", .string a.aliasName), ("product_owned", .bool (owned a))])) ∧
      readListing (s.render owned true) = some (s.adapters.map fun a => (a, owned a))) ∧
    (∀ a : TapAdapter,
      Json.IsTextOf a.toJson.compact (.object
        [("identifier", .string a.identifier), ("device_name", .string a.deviceName),
          ("alias", .string a.aliasName)]) ∧
      (Json.read a.toJson.compact).bind TapAdapter.ofJson? = some a ∧
      ∀ b : TapAdapter, a.toJson.compact = b.toJson.compact ↔ a = b) ∧
    ((∀ a ∈ s.adapters, ¬ a.HasLineFeed) →
      textLines (s.render owned false) =
        s.adapters.map fun a => (if owned a then "* " else "  ") ++ a.describe) := by
  refine ⟨⟨s.increasing, Json.isTextOf_pretty _, readListing_pretty s owned⟩,
    fun a => ⟨Json.isTextOf_compact _, ?_, fun b => TapAdapter.compact_toJson_inj⟩,
    fun hfeed => textLines_listing owned hfeed⟩
  rw [(Json.isTextOf_compact a.toJson).read_eq]
  exact TapAdapter.ofJson?_toJson a

/-- Quotation marks, backslashes, control characters and letters of any script. -/
theorem AdapterSet.render_faithful_of_marks :
    let s := AdapterSet.ofList
      [⟨"{b}", "say \"V9\" \\ \u0001", "Ä\t😀"⟩, ⟨"{A}", "TAP", "Mullvad"⟩, ⟨"{B}", "", ""⟩]
    let owned : TapAdapter → Bool := fun a => a.aliasName == "Mullvad"
    (∀ a ∈ s.adapters, ¬ a.HasLineFeed) ∧
      textLines (s.render owned false) =
        ["* {A} (alias: \"Mullvad\", device: \"TAP\")",
          "  {b} (alias: \"Ä\t😀\", device: \"say \"V9\" \\ \u0001\")"] := by
  intro s owned
  have hfeed : ∀ a ∈ s.adapters, ¬ a.HasLineFeed := by decide +kernel
  have hlines := (AdapterSet.render_faithful s owned).2.2 hfeed
  exact ⟨hfeed, hlines⟩

end TapTracker
