import Mathlib.Tactic.Lemma
import TapTracker.Text.Json

/-!
# Reading JSON

`Json.read` reads the text of a value, as any other program would that is handed the text: it knows
the grammar and not how the text has been written.  `Json.lex` cuts the text into tokens and skips
the blanks between them, and `Json.readValue` puts a value together from tokens.  Numbers and `null`
are left out, like in `Json` itself.

The second step is the subject of this file: the tokens of a value, whatever follows them, are read
as this value (`Json.readValue_tokens`).
-/

namespace TapTracker.Text.Json

/-! ### Tokens -/

/-- The words of which the text of a value is made. -/
inductive Token
  /-- A bracket, a brace, a comma or a colon. -/
  | mark (c : Char)
  | text (s : String)
  | truth (b : Bool)
  /-- Something that does not belong into the text of a value. -/
  | junk
deriving DecidableEq

/-- The value of a hexadecimal digit. -/
def hexDigitValue? (c : Char) : Option Nat :=
  if c.isDigit then some (c.toNat - '0'.toNat)
  else if 'a' ≤ c ∧ c ≤ 'f' then some (c.toNat - 'a'.toNat + 10)
  else if 'A' ≤ c ∧ c ≤ 'F' then some (c.toNat - 'A'.toNat + 10)
  else none

/-- The character whose code point is written in hexadecimal digits. -/
def charOfHex? (digits : List Char) : Option Char := do
  let values ← digits.mapM hexDigitValue?
  let n := values.foldl (fun n d => 16 * n + d) 0
  if n.isValidChar then some (Char.ofNat n) else none

/-- The character that a single one stands for after a backslash. -/
def charOfEscape? : Char → Option Char
  | '"' => some '"'
  | '\\' => some '\\'
  | '/' => some '/'
  | 'b' => some '\x08'
  | 'f' => some '\x0c'
  | 'n' => some '\n'
  | 'r' => some '\r'
  | 't' => some '\t'
  | _ => none

mutual

/-- The tokens of a text. -/
def lex : List Char → List Token
  | [] => []
  | '"' :: cs => lexText [] cs
  | 't' :: 'r' :: 'u' :: 'e' :: cs => .truth true :: lex cs
  | 'f' :: 'a' :: 'l' :: 's' :: 'e' :: cs => .truth false :: lex cs
  | c :: cs =>
    if c ∈ [' ', '\t', '\n', '\r'] then lex cs
    else if c ∈ ['[', ']', '\x7b', '\x7d', ',', ':'] then .mark c :: lex cs
    else [.junk]

/-- The tokens of a text that begins within a string, after the given characters of it. -/
def lexText (before : List Char) : List Char → List Token
  | [] => [.junk]
  | '"' :: cs => .text (String.ofList before) :: lex cs
  | '\\' :: cs =>
    match cs with
    | 'u' :: c₁ :: c₂ :: c₃ :: c₄ :: cs =>
      match charOfHex? [c₁, c₂, c₃, c₄] with
      | some c => lexText (before ++ [c]) cs
      | none => [.junk]
    | e :: cs =>
      match charOfEscape? e with
      | some c => lexText (before ++ [c]) cs
      | none => [.junk]
    | [] => [.junk]
  | c :: cs => if c.toNat < 0x20 then [.junk] else lexText (before ++ [c]) cs

end

/-! ### Values -/

mutual

/-- A value at the beginning of the tokens, with the tokens after it.  A value has no more parts
than there are tokens, which is what `fuel` has to allow for. -/
def readValue : (fuel : Nat) → List Token → Option (Json × List Token)
  | _ + 1, .text s :: ts => some (.string s, ts)
  | _ + 1, .truth b :: ts => some (.bool b, ts)
  | _ + 1, .mark '[' :: .mark ']' :: ts => some (.array [], ts)
  | _ + 1, .mark '\x7b' :: .mark '\x7d' :: ts => some (.object [], ts)
  | fuel + 1, .mark '[' :: ts => do
    let (items, ts) ← readItems fuel ts
    return (.array items, ts)
  | fuel + 1, .mark '\x7b' :: ts => do
    let (members, ts) ← readMembers fuel ts
    return (.object members, ts)
  | _, _ => none

/-- The elements of an array up to its closing bracket. -/
def readItems : (fuel : Nat) → List Token → Option (List Json × List Token)
  | 0, _ => none
  | fuel + 1, ts => do
    let (v, ts) ← readValue fuel ts
    match ts with
    | .mark ',' :: ts =>
      let (items, ts) ← readItems fuel ts
      return (v :: items, ts)
    | .mark ']' :: ts => return ([v], ts)
    | _ => none

/-- The members of an object up to its closing brace. -/
def readMembers : (fuel : Nat) → List Token → Option (List (String × Json) × List Token)
  | fuel + 1, .text name :: .mark ':' :: ts => do
    let (v, ts) ← readValue fuel ts
    match ts with
    | .mark ',' :: ts =>
      let (members, ts) ← readMembers fuel ts
      return ((name, v) :: members, ts)
    | .mark '\x7d' :: ts => return ([(name, v)], ts)
    | _ => none
  | _, _ => none

end

/-- The value whose text this is. -/
def read (text : String) : Option Json :=
  let ts := lex text.toList
  match readValue ts.length ts with
  | some (v, []) => some v
  | _ => none

/-! ### The tokens of a value -/

mutual

/-- The tokens in the text of a value. -/
def tokens : Json → List Token
  | string s => [.text s]
  | bool b => [.truth b]
  | array items => .mark '[' :: itemTokens items ++ [.mark ']']
  | object members => .mark '\x7b' :: memberTokens members ++ [.mark '\x7d']

/-- The tokens of elements with commas between them. -/
def itemTokens : List Json → List Token
  | [] => []
  | [v] => tokens v
  | v :: rest => tokens v ++ .mark ',' :: itemTokens rest

/-- The tokens of members with commas between them. -/
def memberTokens : List (String × Json) → List Token
  | [] => []
  | [(name, v)] => .text name :: .mark ':' :: tokens v
  | (name, v) :: rest => .text name :: .mark ':' :: tokens v ++ .mark ',' :: memberTokens rest

end

/-! ### Tokens are put together again -/

section Steps

variable {fuel : Nat} {ts rest rest' : List Token} {v : Json} {items : List Json}
  {members : List (String × Json)} {name : String}

/-- An array that has elements is read by reading these. -/
lemma readValue_array (hsome : ∀ ts', ts ≠ .mark ']' :: ts')
    (hitems : readItems fuel ts = some (items, rest)) :
    readValue (fuel + 1) (.mark '[' :: ts) = some (.array items, rest) := by
  rw [readValue, hitems]
  · rfl
  · exact fun ts' h => hsome ts' h

/-- An object that has members is read by reading these. -/
lemma readValue_object (hsome : ∀ ts', ts ≠ .mark '\x7d' :: ts')
    (hmembers : readMembers fuel ts = some (members, rest)) :
    readValue (fuel + 1) (.mark '\x7b' :: ts) = some (.object members, rest) := by
  rw [readValue, hmembers]
  · rfl
  · exact fun ts' h => hsome ts' h

/-- A value before a closing bracket is the last element. -/
lemma readItems_last (hvalue : readValue fuel ts = some (v, .mark ']' :: rest)) :
    readItems (fuel + 1) ts = some ([v], rest) := by
  rw [readItems, hvalue]
  rfl

/-- A value before a comma is an element, and the others come after the comma. -/
lemma readItems_cons (hvalue : readValue fuel ts = some (v, .mark ',' :: rest))
    (hitems : readItems fuel rest = some (items, rest')) :
    readItems (fuel + 1) ts = some (v :: items, rest') := by
  rw [readItems, hvalue]
  change (readItems fuel rest).bind _ = _
  rw [hitems]
  rfl

/-- A name and a value before a closing brace are the last member. -/
lemma readMembers_last (hvalue : readValue fuel ts = some (v, .mark '\x7d' :: rest)) :
    readMembers (fuel + 1) (.text name :: .mark ':' :: ts) = some ([(name, v)], rest) := by
  rw [readMembers, hvalue]
  rfl

/-- A name and a value before a comma are a member, and the others come after the comma. -/
lemma readMembers_cons (hvalue : readValue fuel ts = some (v, .mark ',' :: rest))
    (hmembers : readMembers fuel rest = some (members, rest')) :
    readMembers (fuel + 1) (.text name :: .mark ':' :: ts) =
      some ((name, v) :: members, rest') := by
  rw [readMembers, hvalue]
  change (readMembers fuel rest).bind _ = _
  rw [hmembers]
  rfl

end Steps

/-- No element begins with a closing bracket. -/
lemma tokens_append_ne (v : Json) (rest ts : List Token) : v.tokens ++ rest ≠ .mark ']' :: ts := by
  cases v <;> simp [tokens]

/-- The tokens of elements do not begin with a closing bracket. -/
lemma itemTokens_append_ne (v : Json) (items : List Json) (rest ts : List Token) :
    itemTokens (v :: items) ++ rest ≠ .mark ']' :: ts := by
  cases items with
  | nil => exact tokens_append_ne v rest ts
  | cons w items =>
    rw [itemTokens, List.append_assoc]
    · exact tokens_append_ne v _ ts
    · simp

/-- No member begins with a closing brace. -/
lemma memberTokens_append_ne (m : String × Json) (members : List (String × Json))
    (rest ts : List Token) : memberTokens (m :: members) ++ rest ≠ .mark '\x7d' :: ts := by
  cases members <;> simp [memberTokens]

mutual

/-- The tokens of a value are read as the value. -/
theorem readValue_tokens : ∀ (v : Json) (fuel : Nat) (rest : List Token),
    v.tokens.length ≤ fuel → readValue fuel (v.tokens ++ rest) = some (v, rest)
  | .string s, fuel + 1, rest, _ => rfl
  | .bool b, fuel + 1, rest, _ => rfl
  | .array [], fuel + 1, rest, _ => rfl
  | .object [], fuel + 1, rest, _ => rfl
  | .array (v :: items), fuel + 1, rest, h => by
    simp only [tokens, List.length_append, List.length_cons] at h
    rw [tokens, List.append_assoc]
    exact readValue_array (itemTokens_append_ne v items _)
      (readItems_itemTokens v items fuel rest (by omega))
  | .object (m :: members), fuel + 1, rest, h => by
    simp only [tokens, List.length_append, List.length_cons] at h
    rw [tokens, List.append_assoc]
    exact readValue_object (memberTokens_append_ne m members _)
      (readMembers_memberTokens m members fuel rest (by omega))

/-- The tokens of elements are read as these elements. -/
theorem readItems_itemTokens : ∀ (v : Json) (items : List Json) (fuel : Nat) (rest : List Token),
    (itemTokens (v :: items)).length < fuel →
      readItems fuel (itemTokens (v :: items) ++ .mark ']' :: rest) = some (v :: items, rest)
  | v, [], fuel + 1, rest, h =>
    readItems_last (readValue_tokens v fuel (.mark ']' :: rest) (Nat.le_of_lt_succ h))
  | v, w :: items, fuel + 1, rest, h => by
    simp only [itemTokens, List.length_append, List.length_cons] at h
    simp only [itemTokens, List.append_assoc]
    exact readItems_cons (readValue_tokens v fuel _ (by omega))
      (readItems_itemTokens w items fuel rest (by omega))

/-- The tokens of members are read as these members. -/
theorem readMembers_memberTokens : ∀ (m : String × Json) (members : List (String × Json))
    (fuel : Nat) (rest : List Token), (memberTokens (m :: members)).length < fuel →
      readMembers fuel (memberTokens (m :: members) ++ .mark '\x7d' :: rest) =
        some (m :: members, rest)
  | (name, v), [], fuel + 1, rest, h => by
    simp only [memberTokens, List.length_cons] at h
    exact readMembers_last (readValue_tokens v fuel _ (by omega))
  | (name, v), m :: members, fuel + 1, rest, h => by
    simp only [memberTokens, List.length_append, List.length_cons] at h
    simp only [memberTokens, List.cons_append, List.append_assoc]
    exact readMembers_cons (readValue_tokens v fuel _ (by omega))
      (readMembers_memberTokens m members fuel rest (by omega))

end

example : read " [true,\"\\u00C9\\/\" ]" = some (.array [.bool true, .string "É/"]) := by cbv

example : read "[true, ]" = none := by cbv

/-! ### Parts of a value -/

def string? : Json → Option String
  | .string s => some s
  | _ => none

def bool? : Json → Option Bool
  | .bool b => some b
  | _ => none

def items? : Json → Option (List Json)
  | .array items => some items
  | _ => none

/-- The value of the member with the given name. -/
def member? (name : String) : Json → Option Json
  | .object members => members.lookup name
  | _ => none

end TapTracker.Text.Json
