import TapTracker.Text.Json
import TapTracker.Text.LowerCase

/-!
# Adapter records

A `TapAdapter` is what an operating system reports about one virtual adapter.  Only the identifier
says which adapter it is, and it does so without regard to case: two records are the same adapter
if the lower-case forms of their identifiers agree, and records are ordered by these forms.  The
device name and the alias are information.
-/

namespace TapTracker

open TapTracker.Text

/-- A virtual adapter as it is reported. -/
structure TapAdapter where
  /-- The identifier of this instance of the adapter. -/
  identifier : String
  /-- The description of the device. -/
  deviceName : String
  /-- The name of the connection. -/
  aliasName : String
deriving DecidableEq, Repr

/-! ### Identity -/

/-- What identifiers are compared by. -/
def identityKey (identifier : String) : List Char :=
  lowerChars identifier.toList

/-- The order of identifiers. -/
def compareIdentifiers (s t : String) : Ordering :=
  compare (identityKey s) (identityKey t)

namespace TapAdapter

instance : Ord TapAdapter where
  compare a b := compareIdentifiers a.identifier b.identifier

instance : Std.TransOrd TapAdapter where
  eq_swap {a b} := Std.OrientedOrd.eq_swap (a := identityKey a.identifier)
    (b := identityKey b.identifier)
  isLE_trans {a b c} := Std.TransOrd.isLE_trans (a := identityKey a.identifier)
    (b := identityKey b.identifier) (c := identityKey c.identifier)

/-- The order of two records for those who expect that some have none: there is always one. -/
def partialCompare (a b : TapAdapter) : Option Ordering :=
  some (compare a b)

/-- The record is about the adapter with the given identifier. -/
def hasIdentifier (a : TapAdapter) (identifier : String) : Bool :=
  compareIdentifiers a.identifier identifier == .eq

/-- The two records are about the same adapter. -/
def sameAdapter (a b : TapAdapter) : Bool :=
  compare a b == .eq

/-! ### Texts -/

/-- The record in one line. -/
def describe (a : TapAdapter) : String :=
  a.identifier ++ " (alias: \"" ++ a.aliasName ++ "\", device: \"" ++ a.deviceName ++ "\")"

/-- The members of the record as a JSON object. -/
def jsonMembers (a : TapAdapter) : List (String × Json) :=
  [("identifier", .string a.identifier), ("device_name", .string a.deviceName),
   ("alias", .string a.aliasName)]

/-- The record as a JSON object. -/
def toJson (a : TapAdapter) : Json :=
  .object a.jsonMembers

end TapAdapter

end TapTracker
