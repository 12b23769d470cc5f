/-!
# Quoted texts

A quoted text stands between double quotes.  In it a backslash stands before quotes, before
backslashes and before the letters for the usual control characters; the other control characters
are written as numbers.
-/

namespace TapTracker.Text

/-- The least hexadecimal digits of a number, in lower case. -/
def lowerHex (n : Nat) : List Char :=
  Nat.toDigits 16 n

/-- A character as it is written between quotes. -/
def quotedChar (c : Char) : List Char :=
  match c with
  | '"' => ['\\', '"']
  | '\\' => ['\\', '\\']
  | '\n' => ['\\', 'n']
  | '\r' => ['\\', 'r']
  | '\t' => ['\\', 't']
  | '\x00' => ['\\', '0']
  | c =>
    if c < ' ' ∨ c = '\x7f' then ['\\', 'u', '\x7b'] ++ lowerHex c.toNat ++ ['\x7d'] else [c]

/-- The text between quotes. -/
def quoted (s : String) : String :=
  String.ofList ('"' :: s.toList.flatMap quotedChar ++ ['"'])

end TapTracker.Text
