/-!
# TOML values

A `Toml.Value` is what a TOML document means, apart from its layout.  The values of floats and
dates are not needed beyond their being one, so that they keep their text.

`Toml.Error` lists why a text is not a TOML document, or not the document that was expected.
-/

namespace TapTracker.Toml

/-- A TOML value. -/
inductive Value
  | string (s : String)
  | integer (n : Int)
  | float (text : String)
  | boolean (b : Bool)
  | datetime (text : String)
  | array (items : List Value)
  | table (entries : List (String × Value))

/-- Why a text is not the TOML document that was expected. -/
inductive Error
  /-- A control character where text is expected. -/
  | controlCharacter
  | unclosedString
  | invalidEscape
  | missingKey
  | missingEquals
  | missingValue
  | invalidScalar (text : String)
  | missingLineEnd
  | unclosedHeader
  | unclosedArray
  | unclosedTable
  | duplicateKey (key : String)
  | notExtendable (key : String)
  | tooDeep
  | unknownField (field : String)
  /-- A value of another type than the field has. -/
  | wrongType (field : String)
  /-- An integer outside the range of the field. -/
  | outOfRange (field : String)
  /-- An array with fewer elements than the section has fields. -/
  | missingElement (field : String)
deriving DecidableEq, Repr

/-- The error in words. -/
def Error.message : Error → String
  | controlCharacter => "TOML parse error: control character"
  | unclosedString => "TOML parse error: unclosed string"
  | invalidEscape => "TOML parse error: invalid escape sequence"
  | missingKey => "TOML parse error: expected a key"
  | missingEquals => "TOML parse error: expected an equals sign"
  | missingValue => "TOML parse error: expected a value"
  | invalidScalar text => "TOML parse error: invalid value " ++ text
  | missingLineEnd => "TOML parse error: expected the end of the line"
  | unclosedHeader => "TOML parse error: unclosed table header"
  | unclosedArray => "TOML parse error: unclosed array"
  | unclosedTable => "TOML parse error: unclosed inline table"
  | duplicateKey key => "TOML parse error: duplicate key " ++ key
  | notExtendable key => "TOML parse error: cannot extend the value of " ++ key
  | tooDeep => "TOML parse error: nested too deeply"
  | unknownField field => "TOML parse error: unknown field " ++ field
  | wrongType field => "TOML parse error: invalid type for " ++ field
  | outOfRange field => "TOML parse error: invalid value for " ++ field
  | missingElement field => "TOML parse error: missing element for " ++ field

end TapTracker.Toml
