import CodecGen.Text.RangeSet

/-!
# Patterns

A pattern says which stretches of a text it matches. Only whether a text has a matching stretch is
ever asked, so that a pattern is taken as a relation between places of a text: `Pattern.ends` gives
all places where a match can end that begins at one of some places.
-/

namespace CodecGen

/-- What a place of a text can be asked for, by the characters on its two sides. -/
inductive Look where
  | textStart
  | textEnd
  /-- The start of a line; `crlf` says whether carriage returns count as line ends. -/
  | lineStart (crlf : Bool)
  | lineEnd (crlf : Bool)
  /-- The characters on the two sides differ in being word characters of the given set. -/
  | boundary (word : Text.RangeSet)
  | noBoundary (word : Text.RangeSet)
  | wordStart (word : Text.RangeSet)
  | wordEnd (word : Text.RangeSet)
  /-- No word character stands before the place. -/
  | wordStartHalf (word : Text.RangeSet)
  /-- No word character stands after the place. -/
  | wordEndHalf (word : Text.RangeSet)
  deriving DecidableEq, Repr, Inhabited

/-- A pattern for stretches of text. -/
inductive Pattern where
  /-- The empty stretch. -/
  | empty
  /-- A text, character by character. -/
  | literal (text : List Char)
  /-- One character of a set. -/
  | chars (set : Text.RangeSet)
  /-- The empty stretch at certain places. -/
  | look (l : Look)
  /-- A pattern in parentheses that are counted. -/
  | group (number : Nat) (p : Pattern)
  /-- One pattern after the other. -/
  | seq (p q : Pattern)
  /-- Either pattern. -/
  | alt (p q : Pattern)
  /-- A pattern some number of times, as often or as rarely as possible. -/
  | times (p : Pattern) (least : Nat) (most : Option Nat) (greedy : Bool)
  deriving DecidableEq, Repr, Inhabited

namespace Look

/-- The character is in the set, and there is one. -/
private def isIn (word : Text.RangeSet) (c : Option Char) : Bool :=
  c.any fun c => word.contains c.toNat

/-- A place has what is asked for, given the characters before and after it. -/
def holds (before after : Option Char) : Look → Bool
  | textStart => before.isNone
  | textEnd => after.isNone
  | lineStart false => before.isNone || before = some '\n'
  | lineEnd false => after.isNone || after = some '\n'
  | lineStart true =>
    before.isNone || before = some '\n' || (before = some '\r' && after ≠ some '\n')
  | lineEnd true =>
    after.isNone || after = some '\r' || (after = some '\n' && before ≠ some '\r')
  | boundary word => isIn word before != isIn word after
  | noBoundary word => isIn word before == isIn word after
  | wordStart word => !isIn word before && isIn word after
  | wordEnd word => isIn word before && !isIn word after
  | wordStartHalf word => !isIn word before
  | wordEndHalf word => !isIn word after

end Look

namespace Pattern

/-! ## Where matches end

Places of a text are numbers, and sets of places are lists in order without repetition.
-/

/-- The character before a place. -/
def before? (text : Array Char) (place : Nat) : Option Char :=
  if place = 0 then none else text[place - 1]?

/-- The places in either of two sets. -/
def merge : List Nat → List Nat → List Nat
  | [], js => js
  | is, [] => is
  | i :: is, j :: js =>
    if i < j then i :: merge is (j :: js)
    else if j < i then j :: merge (i :: is) js
    else i :: merge is js
termination_by is js => is.length + js.length

/-- The places of the first set that are not in the second. -/
def without : List Nat → List Nat → List Nat
  | [], _ => []
  | is, [] => is
  | i :: is, j :: js =>
    if i < j then i :: without is (j :: js)
    else if j < i then without (i :: is) js
    else without is js
termination_by is js => is.length + js.length

/-- Apply a function some number of times. -/
def iterate (f : List Nat → List Nat) : Nat → List Nat → List Nat
  | 0, places => places
  | n + 1, places => iterate f n (f places)

/-- The places reached by applying a function at most some number of times, given those that were
reached before and those that were reached last. -/
def reach (f : List Nat → List Nat) : Nat → List Nat → List Nat → List Nat
  | 0, reached, _ => reached
  | n + 1, reached, latest =>
    match without (f latest) reached with
    | [] => reached
    | new => reach f n (merge reached new) new

/-- The given characters stand in a text from a place on. -/
def standsAt (text : Array Char) : List Char → Nat → Bool
  | [], _ => true
  | c :: cs, place => text[place]? = some c && standsAt text cs (place + 1)

/-- The places where a match can end that begins at one of the given places. A pattern repeated more
often than the text has places ends nowhere new, so that no repetition is followed any longer. -/
def ends (text : Array Char) : Pattern → List Nat → List Nat
  | empty, places => places
  | literal cs, places => (places.filter (standsAt text cs)).map (· + cs.length)
  | chars set, places =>
    (places.filter fun i => text[i]?.any fun c => set.contains c.toNat).map (· + 1)
  | look l, places => places.filter fun i => l.holds (before? text i) text[i]?
  | group _ p, places => p.ends text places
  | seq p q, places => q.ends text (p.ends text places)
  | alt p q, places => merge (p.ends text places) (q.ends text places)
  | times p least most _, places =>
    let bound := text.size + 1
    let further := (most.map (· - least)).getD bound
    let start := iterate (p.ends text) (min least bound) places
    reach (p.ends text) (min further bound) start start

/-- Some stretch of a text matches. -/
def isMatch (p : Pattern) (text : String) : Bool :=
  !(p.ends text.toList.toArray (List.range (text.length + 1))).isEmpty

end Pattern

end CodecGen
