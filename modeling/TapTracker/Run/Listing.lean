import TapTracker.Adapter.Set

/-!
# Listings

A listing shows the adapters of a set in order and marks those that belong to the product: line by
line for people, or as a JSON array for programs.
-/

namespace TapTracker

open TapTracker.Text

/-- The record in one line, after a star if it belongs to the product and a blank otherwise. -/
def TapAdapter.listingLine (owned : TapAdapter → Bool) (a : TapAdapter) : String :=
  (if owned a then "* " else "  ") ++ a.describe

/-- The members of the record, and whether it belongs to the product. -/
def TapAdapter.listingJson (owned : TapAdapter → Bool) (a : TapAdapter) : Json :=
  .object (a.jsonMembers ++ [("product_owned", .bool (owned a))])

namespace AdapterSet

/-- The listing of the set in lines. -/
def listing (s : AdapterSet) (owned : TapAdapter → Bool) : String :=
  "\n".intercalate (s.adapters.map (·.listingLine owned))

/-- The listing of the set as JSON. -/
def listingJson (s : AdapterSet) (owned : TapAdapter → Bool) : Json :=
  .array (s.adapters.map (·.listingJson owned))

/-- The listing of the set in one of the two forms. -/
def render (s : AdapterSet) (owned : TapAdapter → Bool) (asJson : Bool) : String :=
  if asJson then (s.listingJson owned).pretty else s.listing owned

end AdapterSet

end TapTracker
