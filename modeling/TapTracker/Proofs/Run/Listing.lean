import TapTracker.Proofs.Text.JsonGrammar
import TapTracker.Run.Listing

/-!
# Reading listings

A listing tells which records a set has and which of them belong to the product.  `readListing`
reads this from the text of a JSON listing, and `readMarks` from the lines of a listing for people.

A field may hold a line feed, and then the lines do not tell how many records there are.
`readMarks` is therefore given the records, and looks for the mark of a record where its line
begins.
-/

namespace TapTracker

open TapTracker.Text

/-- The records of a set, each with whether it belongs to the product. -/
def AdapterSet.entries (s : AdapterSet) (owned : TapAdapter → Bool) : List (TapAdapter × Bool) :=
  s.adapters.map fun a => (a, owned a)

/-! ### JSON -/

/-- The record that an object shows. -/
def TapAdapter.ofJson? (v : Json) : Option TapAdapter := do
  let identifier ← (← v.member? "identifier").string?
  let deviceName ← (← v.member? "device_name").string?
  let aliasName ← (← v.member? "alias").string?
  return ⟨identifier, deviceName, aliasName⟩

/-- The record that an object of a listing shows, and whether it says that the record belongs to
the product. -/
def readEntry (v : Json) : Option (TapAdapter × Bool) := do
  let a ← TapAdapter.ofJson? v
  let owned ← (← v.member? "product_owned").bool?
  return (a, owned)

/-- The entries that the text of a JSON listing shows. -/
def readListing (text : String) : Option (List (TapAdapter × Bool)) := do
  let listing ← Json.read text
  let items ← listing.items?
  items.mapM readEntry

/-- An entry of a listing is read as its record and its mark. -/
lemma readEntry_listingJson (owned : TapAdapter → Bool) (a : TapAdapter) :
    readEntry (a.listingJson owned) = some (a, owned a) := rfl

/-- A JSON listing shows the entries of its set. -/
lemma readListing_pretty (s : AdapterSet) (owned : TapAdapter → Bool) :
    readListing (s.listingJson owned).pretty = some (s.entries owned) := by
  have hentries : readEntry ∘ (·.listingJson owned) = fun a => pure (a, owned a) :=
    funext (readEntry_listingJson owned)
  rw [readListing, (Json.isTextOf_pretty _).read_eq]
  change (s.adapters.map (·.listingJson owned)).mapM readEntry = _
  rw [List.mapM_map, hentries, List.mapM_pure]
  rfl

/-! ### Lines -/

/-- The records, each with whether there is a star at the beginning of its line. -/
def readMarks : List TapAdapter → List Char → List (TapAdapter × Bool)
  | [], _ => []
  | a :: rest, text =>
    (a, text.head? == some '*') :: readMarks rest (text.drop (a.describe.length + 3))

section Lines

variable (owned : TapAdapter → Bool) (a : TapAdapter)

/-- A line of a listing is a mark, a blank and the description of the record. -/
lemma toList_listingLine :
    (a.listingLine owned).toList =
      (if owned a then '*' else ' ') :: ' ' :: a.describe.toList := by
  rw [TapAdapter.listingLine, String.toList_append]
  split <;> rfl

/-- At the beginning of a line stands whether its record belongs to the product.  The next line
begins after a line feed. -/
lemma readMarks_listingLine (adapters : List TapAdapter) (rest : List Char) :
    readMarks (a :: adapters) ((a.listingLine owned).toList ++ rest) =
      (a, owned a) :: readMarks adapters (rest.drop 1) := by
  have hstar : (((a.listingLine owned).toList ++ rest).head? == some '*') = owned a := by
    rw [toList_listingLine]
    cases owned a <;> rfl
  have hlength : (a.listingLine owned).toList.length = a.describe.length + 2 := by
    rw [toList_listingLine, List.length_cons, List.length_cons, String.length_toList]
  rw [readMarks, hstar, List.drop_append, List.drop_eq_nil_of_le (by omega), hlength,
    List.nil_append, Nat.add_sub_add_left]

end Lines

/-- A listing in lines marks the records that belong to the product. -/
lemma readMarks_listing (s : AdapterSet) (owned : TapAdapter → Bool) :
    readMarks s.adapters (s.listing owned).toList = s.entries owned := by
  rw [AdapterSet.listing, AdapterSet.entries, String.toList_intercalate]
  induction s.adapters with
  | nil => rfl
  | cons a rest ih =>
    cases rest with
    | nil => simpa [readMarks] using readMarks_listingLine owned a [] []
    | cons b rest =>
      simp only [List.map_cons, List.intercalate_cons_cons] at ih ⊢
      rw [List.append_assoc, readMarks_listingLine, ← ih]
      rfl

end TapTracker
