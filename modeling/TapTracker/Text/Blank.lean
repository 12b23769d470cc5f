/-!
# Blank characters

`isBlank` is the white space of the Unicode standard, the characters that are cut from both ends of
a configured name and that a verbose pattern ignores.  The zero-width space U+200B and the byte
order mark U+FEFF are not among them.
-/

namespace TapTracker.Text

/-- The code points of white space, as closed ranges. -/
def blankRanges : List (Nat × Nat) :=
  [(0x9, 0xD), (0x20, 0x20), (0x85, 0x85), (0xA0, 0xA0), (0x1680, 0x1680), (0x2000, 0x200A),
   (0x2028, 0x2029), (0x202F, 0x202F), (0x205F, 0x205F), (0x3000, 0x3000)]

/-- The character is white space. -/
def isBlank (c : Char) : Bool :=
  blankRanges.any fun (lo, hi) => lo ≤ c.toNat && c.toNat ≤ hi

/-- The characters without the white space at their two ends. -/
def trimChars (cs : List Char) : List Char :=
  ((cs.dropWhile isBlank).reverse.dropWhile isBlank).reverse

/-- The string without the white space at its two ends. -/
def trim (s : String) : String :=
  String.ofList (trimChars s.toList)

end TapTracker.Text
