/-!
# Range tables

A property of characters is a table of closed ranges of code points in increasing order.  The
tables of the Unicode standard are long, so they are written down as text: for each range the
distance from the end of the range before it and the number of further code points in it, both in
base 36.

`RangeTable.ofDeltas` reads such a text and `RangeTable.contains` searches a table by halving.
-/

namespace TapTracker.Text

/-- Closed ranges of code points, in increasing order and pairwise disjoint. -/
structure RangeTable where
  ranges : Array (Nat × Nat)

namespace RangeTable

/-- The value of a digit in base 36. -/
def digit36 (c : Char) : Nat :=
  if c.isDigit then c.toNat - '0'.toNat else c.toNat - 'a'.toNat + 10

/-- The numbers in a text of base-36 numbers that stand apart by blanks and line breaks. -/
def numbers (text : List Char) : List Nat :=
  let (done, pending) := text.foldl
    (fun (done, pending) c =>
      if c = ' ' ∨ c = '\n' then (pending.toList ++ done, none)
      else (done, some (pending.getD 0 * 36 + digit36 c)))
    (([] : List Nat), (none : Option Nat))
  (pending.toList ++ done).reverse

/-- The ranges that a list of distances and lengths describes, from the code point `start` on. -/
def rangesFrom (start : Nat) : List Nat → List (Nat × Nat)
  | gap :: more :: rest =>
    let lo := start + gap
    (lo, lo + more) :: rangesFrom (lo + more + 1) rest
  | _ => []

/-- The table that a text of distances and lengths describes. -/
def ofDeltas (text : String) : RangeTable :=
  ⟨(rangesFrom 0 (numbers text.toList)).toArray⟩

/-- One of the ranges with an index from `lo` up to, not including, `hi` holds `n`.  Each round
halves the distance, so `fuel` rounds suffice for fewer than `2 ^ fuel` ranges. -/
def search (t : RangeTable) (n : Nat) : (fuel lo hi : Nat) → Bool
  | 0, _, _ => false
  | fuel + 1, lo, hi =>
    if lo < hi then
      let mid := (lo + hi) / 2
      match t.ranges[mid]? with
      | none => false
      | some (first, last) =>
        if n < first then search t n fuel lo mid
        else if last < n then search t n fuel (mid + 1) hi
        else true
    else false

/-- The character is in one of the ranges. -/
def contains (t : RangeTable) (c : Char) : Bool :=
  t.search c.toNat 16 0 t.ranges.size

end RangeTable

/-- A table together with the names by which a pattern may call for it, in lower case and without
separators. -/
structure NamedTable where
  names : List String
  table : RangeTable

/-- The table with the given name. -/
def NamedTable.find? (tables : List NamedTable) (name : String) : Option RangeTable :=
  (tables.find? (·.names.contains name)).map (·.table)

end TapTracker.Text
