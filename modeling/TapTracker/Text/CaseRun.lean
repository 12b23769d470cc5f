/-!
# Case runs

A case mapping of the Unicode standard moves most of its code points in blocks: a whole range, or
every second member of a range, is shifted by one distance.  `CaseRun` is such a block.  A mapping
is a list of runs, ordered by their first code points and pairwise disjoint.

`CaseRun.image` reads a mapping forwards and `CaseRun.preimages` backwards; both leave alone a code
point that no run covers.
-/

namespace TapTracker.Text

/-- The code points `first`, `first + step`, …, `last`, moved to `target`, `target + step`, … -/
structure CaseRun where
  first : Nat
  last : Nat
  step : Nat
  target : Nat
deriving DecidableEq, Repr

namespace CaseRun

/-- The run moves `n`. -/
def Covers (r : CaseRun) (n : Nat) : Prop :=
  r.first ≤ n ∧ n ≤ r.last ∧ (n - r.first) % r.step = 0

instance (r : CaseRun) (n : Nat) : Decidable (r.Covers n) := by
  unfold Covers; infer_instance

/-- Where the run moves `n`, for an `n` that it covers. -/
def move (r : CaseRun) (n : Nat) : Nat :=
  r.target + (n - r.first)

/-- The code point that the run moves to `m`, if there is one. -/
def source? (r : CaseRun) (m : Nat) : Option Nat :=
  let n := r.first + (m - r.target)
  if r.target ≤ m ∧ r.Covers n then some n else none

/-- The image of `n` under an ordered list of runs. -/
def image : List CaseRun → Nat → Nat
  | [], n => n
  | r :: rest, n =>
    if n < r.first then n
    else if r.Covers n then r.move n
    else image rest n

/-- The code points that a list of runs moves to `m`. -/
def preimages (runs : List CaseRun) (m : Nat) : List Nat :=
  runs.filterMap (·.source? m)

end CaseRun

end TapTracker.Text
