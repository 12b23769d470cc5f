import TapTracker.Adapter.Record
import TapTracker.Pattern.Basic

/-!
# Adapter classes and alias signatures

An `AdapterClass` selects devices by a pattern over their descriptions.  An `AliasSignature` tells
the adapters of the product from others by a pattern over their aliases; without a pattern of its
own it is derived from the alias that the product gives its adapter, and then matches this alias
and what differs from it by case only.
-/

namespace TapTracker

/-! ### Classes -/

/-- A class of devices. -/
structure AdapterClass where
  pattern : Pattern

namespace AdapterClass

/-- The class of the devices whose descriptions match a pattern. -/
def ofPattern (text : String) : Except PatternError AdapterClass :=
  (Pattern.compile text).map AdapterClass.mk

/-- The text of the pattern. -/
def text (c : AdapterClass) : String := c.pattern.text

/-- A device with the given description belongs to the class. -/
def includes (c : AdapterClass) (description : String) : Bool :=
  c.pattern.isMatch description

end AdapterClass

/-! ### Signatures -/

/-- A mark of the adapters that belong to the product. -/
structure AliasSignature where
  pattern : Pattern

namespace AliasSignature

/-- The signature of the aliases that match a pattern. -/
def ofPattern (text : String) : Except PatternError AliasSignature :=
  (Pattern.compile text).map AliasSignature.mk

/-- The pattern of a whole alias. -/
def wholeAlias (aliasName : String) : String :=
  "^" ++ Pattern.escape aliasName ++ "$"

/-- The signature of one alias. -/
def ofAlias (aliasName : String) : Except PatternError AliasSignature :=
  ofPattern (wholeAlias aliasName)

/-- The text of the pattern. -/
def text (s : AliasSignature) : String := s.pattern.text

/-- The alias bears the signature. -/
def includes (s : AliasSignature) (aliasName : String) : Bool :=
  s.pattern.isMatch aliasName

/-- The adapter belongs to the product. -/
def owns (s : AliasSignature) (a : TapAdapter) : Bool :=
  s.includes a.aliasName

end AliasSignature

end TapTracker
