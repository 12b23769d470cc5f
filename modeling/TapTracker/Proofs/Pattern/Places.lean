import Mathlib.Tactic.Lemma
import TapTracker.Pattern.Regex

/-!
# Sets of places

A set of places is a number, and a place belongs to it if its bit is set.  This file reads the sets
that the search works with: where a character or a class comes next (`testBit_placesOf`,
`testBit_placesIn`), where a condition holds (`testBit_placesHolding`), and where the spans of an
expression can end (`testBit_reach_chars`, `testBit_reach_look`, `reach_cat`).
-/

namespace TapTracker.Pattern

namespace Regex

variable {text : List Char} {i : Nat}

/-! ### Sets that belong to a text -/

/-- The set of places of a text is that of its tail, moved by one, and perhaps the first place. -/
lemma testBit_two_mul_add {n : Nat} {p : Prop} [Decidable p] :
    (2 * n + (if p then 1 else 0)).testBit i = if i = 0 then decide p else n.testBit (i - 1) := by
  cases i with
  | zero =>
    rw [Nat.testBit_zero, if_pos rfl, decide_eq_decide]
    by_cases hp : p <;> simp [hp]
  | succ i =>
    have hhalf : (2 * n + (if p then 1 else 0)) / 2 = n := by
      split <;> omega
    rw [Nat.testBit_succ, hhalf, if_neg (Nat.succ_ne_zero i), Nat.add_sub_cancel]

/-- The places of a character are those at which it comes next. -/
lemma testBit_placesOf (c : Char) : (placesOf c text).testBit i = decide (text[i]? = some c) := by
  induction text generalizing i with
  | nil => simp [placesOf]
  | cons d rest ih =>
    rw [placesOf, testBit_two_mul_add]
    cases i with
    | zero => simp
    | succ i => simp [ih]

/-- To some places are added those of all characters that belong to a class. -/
lemma testBit_foldl_places (set : CharClass) (occurring : List (Char × Nat)) (places : Nat) :
    (occurring.foldl (fun places (c, own) =>
      if set.contains c then places ||| own else places) places).testBit i =
        (places.testBit i || occurring.any fun (c, own) => set.contains c && own.testBit i) := by
  induction occurring generalizing places with
  | nil => simp
  | cons first rest ih =>
    obtain ⟨c, own⟩ := first
    rw [List.foldl_cons, ih, List.any_cons]
    by_cases hset : set.contains c <;> simp [hset, Bool.or_assoc]

/-- The places of a class are those at which one of its characters comes next. -/
lemma testBit_placesIn (set : CharClass) :
    (placesIn set (occurrences text)).testBit i = (text[i]?).any set.contains := by
  rw [placesIn, testBit_foldl_places, Nat.zero_testBit, Bool.false_or, Bool.eq_iff_iff,
    List.any_eq_true]
  constructor
  · rintro ⟨⟨c, own⟩, hmem, hbit⟩
    obtain ⟨d, -, hpair⟩ := List.mem_map.1 hmem
    obtain ⟨rfl, rfl⟩ := Prod.mk.inj hpair
    rw [Bool.and_eq_true, testBit_placesOf, decide_eq_true_iff] at hbit
    rw [hbit.2]
    exact hbit.1
  · intro hany
    obtain ⟨c, hc, hset⟩ := (Option.any_eq_true _ _).1 hany
    refine ⟨(c, placesOf c text), List.mem_map.2 ⟨c, ?_, rfl⟩, ?_⟩
    · exact List.mem_eraseDups.2 (List.mem_of_getElem? hc)
    · simp [testBit_placesOf, hc, hset]

/-- The character before a place, where `before` comes before the first place. -/
def charBefore (before : Option Char) (text : List Char) : Nat → Option Char
  | 0 => before
  | i + 1 => text[i]?

/-- The places of a condition are those whose neighbours meet it. -/
lemma testBit_placesHolding (condition : Look) (before : Option Char) :
    (placesHolding condition before text).testBit i =
      (decide (i ≤ text.length) && condition.holds (charBefore before text i) text[i]?) := by
  induction text generalizing i before with
  | nil =>
    rw [placesHolding]
    cases i with
    | zero => by_cases hends : condition.holds before none <;> simp [hends, charBefore]
    | succ i => split <;> simp [Nat.testBit_succ]
  | cons c rest ih =>
    rw [placesHolding, testBit_two_mul_add]
    cases i with
    | zero => simp [charBefore]
    | succ i =>
      rw [if_neg (Nat.succ_ne_zero i), Nat.add_sub_cancel, ih]
      cases i <;> simp [charBefore]

/-- The places of a text are the numbers up to its length. -/
lemma testBit_allPlaces : (allPlaces text).testBit i = decide (i ≤ text.length) := by
  rw [allPlaces, Nat.one_shiftLeft, Nat.testBit_two_pow_sub_one, decide_eq_decide]
  exact Nat.lt_succ_iff

end Regex

/-! ### Spans -/

namespace Chart

/-- No place is reached from no place. -/
lemma reach_zero (length : Nat) (chart : Chart) : chart.reach length 0 = 0 := by
  induction chart with
  | empty => rfl
  | step places => simp [reach]
  | stay places => simp [reach]
  | cat a b iha ihb => simp [reach, iha]
  | alt a b iha ihb => simp [reach, iha, ihb]
  | repeated min max body ih =>
    have hiterate : ∀ count, iterate (reach length body) count 0 = 0 := by
      intro count
      cases count <;> simp [iterate]
    have hspread : ∀ rounds, spread (reach length body) rounds 0 0 = 0 := by
      intro rounds
      cases rounds <;> simp [spread, ih, Regex.without]
    simp only [reach, hiterate, hspread]

end Chart

namespace Regex

variable {text : List Char} {places i : Nat}

/-- A span of two expressions one after the other ends where a span of the second ends that begins
at an end of the first. -/
lemma reach_cat (a b : Regex) :
    (cat a b).reach text places = b.reach text (a.reach text places) := by
  rw [reach, chart, Chart.reach]
  split
  next hzero => rw [reach, reach, hzero, Chart.reach_zero]
  next => rfl

/-- A span of a sequence is a span of its head and then one of the rest. -/
lemma reach_catAll_cons (a : Regex) (rest : List Regex) :
    (catAll (a :: rest)).reach text places = (catAll rest).reach text (a.reach text places) := by
  cases rest with
  | nil => rfl
  | cons b rest => exact reach_cat a (catAll (b :: rest))

/-- A class spans the one character after a place, if it has this character. -/
lemma testBit_reach_chars (set : CharClass) :
    ((chars set).reach text places).testBit (i + 1) =
      (places.testBit i && (text[i]?).any set.contains) := by
  rw [reach, chart, Chart.reach, Nat.testBit_shiftLeft, Nat.add_sub_cancel, Nat.testBit_and,
    testBit_placesIn]
  simp

/-- No span of a class ends at the first place. -/
lemma testBit_zero_reach_chars (set : CharClass) :
    ((chars set).reach text places).testBit 0 = false := by
  rw [reach, chart, Chart.reach, Nat.testBit_shiftLeft]
  simp

/-- A condition spans nothing, at the places where it holds. -/
lemma testBit_reach_look (condition : Look) :
    ((look condition).reach text places).testBit i =
      (places.testBit i &&
        (decide (i ≤ text.length) && condition.holds (charBefore none text i) text[i]?)) := by
  rw [reach, chart, Chart.reach, Nat.testBit_and, testBit_placesHolding]

/-- A stretch of the text is spanned if some place is reached. -/
lemma occursIn_iff (r : Regex) :
    r.occursIn text ↔ ∃ j, (r.reach text (allPlaces text)).testBit j := by
  rw [occursIn, bne_iff_ne]
  constructor
  · exact Nat.exists_testBit_of_ne_zero
  · rintro ⟨j, hj⟩ hzero
    rw [hzero, Nat.zero_testBit] at hj
    cases hj

end Regex

end TapTracker.Pattern
