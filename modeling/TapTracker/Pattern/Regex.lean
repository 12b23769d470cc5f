import TapTracker.Pattern.CharClass

/-!
# Regular expressions and their search

A regular expression says which stretches of a text it spans.  A place of a text of `n` characters
is one of the numbers `0, …, n`, and a set of places is a natural number whose bit `i` tells whether
the place `i` belongs to it.  A `Chart` is an expression on one text, in which such sets stand for
the classes of characters and for the conditions.  `Regex.reach` follows all spans at once: it takes
a set of places to the set of places where a span that begins in it can end.  No place is followed
twice in a repetition, so that nested repetitions do not multiply the work.

`Regex.occursIn` asks whether any stretch of a text is spanned.
-/

namespace TapTracker.Pattern

open TapTracker.Text

/-! ### Conditions on a place -/

/-- The kinds of conditions on the words next to a place. -/
inductive WordEdge
  | boundary
  | inside
  | start
  | finish
  | startHalf
  | finishHalf
deriving DecidableEq, Repr

/-- Whether the characters before and after a place belong to a word meets the condition. -/
def WordEdge.holds : WordEdge → (before after : Bool) → Bool
  | boundary, before, after => before != after
  | inside, before, after => before == after
  | start, before, after => !before && after
  | finish, before, after => before && !after
  | startHalf, before, _ => !before
  | finishHalf, _, after => !after

/-- A condition on a place of a text. -/
inductive Look
  | textStart
  | textEnd
  /-- After a line feed; with `crlf` also after a carriage return without one. -/
  | lineStart (crlf : Bool)
  /-- Before a line feed; with `crlf` also before a carriage return, and not between the two. -/
  | lineEnd (crlf : Bool)
  | word (edge : WordEdge) (words : CharClass)

/-- The characters before and after a place, if there are any, meet the condition. -/
def Look.holds : Look → (before after : Option Char) → Bool
  | textStart, before, _ => before.isNone
  | textEnd, _, after => after.isNone
  | lineStart false, before, _ => before.all (· == '\n')
  | lineStart true, before, after =>
    before.all fun c => c == '\n' || (c == '\r' && after != some '\n')
  | lineEnd false, _, after => after.all (· == '\n')
  | lineEnd true, before, after =>
    after.all fun c => c == '\r' || (c == '\n' && before != some '\r')
  | word edge words, before, after =>
    edge.holds (before.any words.contains) (after.any words.contains)

/-! ### Expressions -/

/-- A regular expression. -/
inductive Regex
  | empty
  | chars (set : CharClass)
  | look (condition : Look)
  | cat (a b : Regex)
  | alt (a b : Regex)
  /-- At least `min` spans of `body` one after the other, and at most `max` if it is given. -/
  | repeated (min : Nat) (max : Option Nat) (body : Regex)
  /-- A part that the notation marks as a group; it spans what its body spans. -/
  | group (body : Regex)

namespace Regex

/-- The expression of a sequence. -/
def catAll : List Regex → Regex
  | [] => .empty
  | [a] => a
  | a :: rest => .cat a (catAll rest)

/-- The expression of a list of alternatives. -/
def altAll : List Regex → Regex
  | [] => .chars .empty
  | [a] => a
  | a :: rest => .alt a (altAll rest)

/-- No stretch that the expression spans has a character. -/
def spansNoChars : Regex → Bool
  | empty => true
  | chars _ => false
  | look _ => true
  | cat a b => a.spansNoChars && b.spansNoChars
  | alt a b => a.spansNoChars && b.spansNoChars
  | repeated _ max body => max == some 0 || body.spansNoChars
  | group body => body.spansNoChars

/-! ### Sets of places -/

/-- The places of a text at which `c` comes next. -/
def placesOf (c : Char) : List Char → Nat
  | [] => 0
  | d :: rest => 2 * placesOf c rest + (if d = c then 1 else 0)

/-- The characters of a text, each of them once, with the places at which they come next. -/
def occurrences (text : List Char) : List (Char × Nat) :=
  text.eraseDups.map fun c => (c, placesOf c text)

/-- The places at which a character of `set` comes next. -/
def placesIn (set : CharClass) (occurring : List (Char × Nat)) : Nat :=
  occurring.foldl (fun places (c, own) => if set.contains c then places ||| own else places) 0

/-- The places of a text that meet a condition, where `before` is the character before the first
place. -/
def placesHolding (condition : Look) : (before : Option Char) → List Char → Nat
  | before, [] => if condition.holds before none then 1 else 0
  | before, c :: rest =>
    2 * placesHolding condition (some c) rest + (if condition.holds before (some c) then 1 else 0)

/-- All places of a text. -/
def allPlaces (text : List Char) : Nat := 1 <<< (text.length + 1) - 1

/-- The places of `a` that are not places of `b`. -/
def without (a b : Nat) : Nat := (a ||| b) ^^^ b

end Regex

/-! ### Expressions on one text -/

/-- A regular expression on one text: in the stead of classes and conditions stand the sets of
places where they apply. -/
inductive Chart
  | empty
  /-- One character from one of the places. -/
  | step (places : Nat)
  /-- No character, at one of the places. -/
  | stay (places : Nat)
  | cat (a b : Chart)
  | alt (a b : Chart)
  | repeated (min : Nat) (max : Option Nat) (body : Chart)

/-- The expression on a text, whose characters occur as `occurring` tells. -/
def Regex.chart (text : List Char) (occurring : List (Char × Nat)) : Regex → Chart
  | empty => .empty
  | chars set => .step (placesIn set occurring)
  | look condition => .stay (placesHolding condition none text)
  | cat a b => .cat (a.chart text occurring) (b.chart text occurring)
  | alt a b => .alt (a.chart text occurring) (b.chart text occurring)
  | repeated min max body => .repeated min max (body.chart text occurring)
  | group body => body.chart text occurring

namespace Chart

/-- The places that `rounds` rounds of `step` reach from `seen`, where only `fresh` has not been
followed yet. -/
def spread (step : Nat → Nat) : (rounds fresh seen : Nat) → Nat
  | 0, _, seen => seen
  | rounds + 1, fresh, seen =>
    let new := Regex.without (step fresh) seen
    if new = 0 then seen else spread step rounds new (seen ||| new)

/-- The places after exactly `count` rounds of `step`. -/
def iterate (step : Nat → Nat) : (count places : Nat) → Nat
  | 0, places => places
  | count + 1, places => if places = 0 then 0 else iterate step count (step places)

/-- The places where a span that begins at one of the given places can end, in a text of `length`
characters.  A repetition without an upper bound needs no more rounds than there are characters. -/
def reach (length : Nat) : Chart → Nat → Nat
  | empty, places => places
  | step begins, places => (places &&& begins) <<< 1
  | stay held, places => places &&& held
  | cat a b, places =>
    let middle := reach length a places
    if middle = 0 then 0 else reach length b middle
  | alt a b, places => reach length a places ||| reach length b places
  | repeated min max body, places =>
    let first := iterate (reach length body) min places
    let rounds := match max with
      | none => length
      | some max => max - min
    spread (reach length body) rounds first first

end Chart

namespace Regex

/-- The places where a span that begins at one of the given places can end. -/
def reach (text : List Char) (r : Regex) (places : Nat) : Nat :=
  (r.chart text (occurrences text)).reach text.length places

/-- Some stretch of the text is spanned. -/
def occursIn (r : Regex) (text : List Char) : Bool :=
  r.reach text (allPlaces text) != 0

/-! ### Size

An expression is carried out by an automaton with a bounded size.  `weight` estimates that size in
bytes for the expression as it is written: a state takes 32 bytes, an arrow between states that
choose by ranges 8, and an arrow between states that choose freely 4.  A character that stands for
itself alone, such as a digit, takes a single state, and any other class a state with two arrows.

For characters one after the other between conditions, as in the pattern of an alias, the estimate
is a lower bound.  In general it is none, since automata are made smaller than they are written,
for instance where alternatives begin alike. -/

/-- The bytes that the automaton of an expression is taken to need. -/
def weight : Regex → Nat
  | empty => 0
  | chars set => if set.isLiteral then 32 else 48
  | look _ => 32
  | cat a b => a.weight + b.weight
  | alt a b => 40 + a.weight + b.weight
  | repeated min none body => max min 1 * body.weight + 40
  | repeated _ (some max) body => max * body.weight
  | group body => 64 + body.weight

/-- The greatest size of an automaton that is accepted. -/
def weightLimit : Nat := 10 * 1024 * 1024

end Regex

end TapTracker.Pattern
