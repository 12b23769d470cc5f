/-!
# Text in UTF-16

A text in UTF-16 is a list of 16-bit units.  A character above U+FFFF takes two of them, a high and
a low surrogate; a surrogate without its partner stands for no character and is read as U+FFFD.
Stored texts end at the first zero unit.
-/

namespace TapTracker.Text.Utf16

/-! ### Units -/

/-- The unit is the first half of a character. -/
def isHigh (u : UInt16) : Bool := 0xD800 ≤ u && u < 0xDC00

/-- The unit is the second half of a character. -/
def isLow (u : UInt16) : Bool := 0xDC00 ≤ u && u < 0xE000

/-- What stands for a unit that is no character. -/
def replacement : Char := '\uFFFD'

/-- The character of a unit that stands alone. -/
def unitChar (u : UInt16) : Char :=
  if isHigh u || isLow u then replacement else Char.ofNat u.toNat

/-- The character of two halves. -/
def pairChar (high low : UInt16) : Char :=
  Char.ofNat (0x10000 + (high.toNat - 0xD800) * 0x400 + (low.toNat - 0xDC00))

/-! ### Texts -/

/-- The units of a character. -/
def encodeChar (c : Char) : List UInt16 :=
  if c.toNat < 0x10000 then [UInt16.ofNat c.toNat]
  else
    [UInt16.ofNat (0xD800 + (c.toNat - 0x10000) / 0x400),
     UInt16.ofNat (0xDC00 + (c.toNat - 0x10000) % 0x400)]

/-- The units of a text. -/
def encode (cs : List Char) : List UInt16 :=
  cs.flatMap encodeChar

/-- The text of units. -/
def decode : List UInt16 → List Char
  | [] => []
  | [u] => [unitChar u]
  | u :: v :: rest =>
    if isHigh u && isLow v then pairChar u v :: decode rest else unitChar u :: decode (v :: rest)

/-- The text of units that end at the first zero. -/
def decodeStored (units : List UInt16) : String :=
  String.ofList (decode (units.takeWhile (· ≠ 0)))

/-! ### Bytes -/

/-- The units of bytes, the low byte of each first.  A last odd byte is dropped. -/
def unitsOfBytes : List UInt8 → List UInt16
  | low :: high :: rest =>
    UInt16.ofNat (low.toNat + 0x100 * high.toNat) :: unitsOfBytes rest
  | _ => []

/-- The bytes of units, the low byte of each first. -/
def bytesOfUnits (units : List UInt16) : List UInt8 :=
  units.flatMap fun u => [UInt8.ofNat (u.toNat % 0x100), UInt8.ofNat (u.toNat / 0x100)]

/-- The text of bytes whose units end at the first zero. -/
def decodeBytes (bytes : List UInt8) : String :=
  decodeStored (unitsOfBytes bytes)

end TapTracker.Text.Utf16
