import CodecGen.Text.Basic

/-!
# Sets of characters

A set of characters as a list of closed ranges of code points, in order and apart from each other.
Tables of characters are written as text and read by `RangeSet.ofText`. The UTF-8 encodings of the
characters of a set are rows of byte ranges (`RangeSet.encodedRows`): a row stands for all encodings
that take one byte from each of its ranges in turn.

Surrogates are code points but no characters. A range may run over them, and the neighbours of a
character are characters, so that `next 0xD7FF` is `0xE000`; two ranges are joined only where their
code points are adjacent.
-/

namespace CodecGen.Text

/-- A set of characters, as the closed ranges of code points that it is made of. -/
structure RangeSet where
  /-- The first and last code point of each range. -/
  ranges : List (Nat × Nat)
  deriving DecidableEq, Repr, Inhabited

namespace RangeSet

/-- The last code point there is. -/
def lastCodePoint : Nat := 0x10FFFF

/-- The last character before the surrogates. -/
def beforeSurrogates : Nat := 0xD7FF

/-- The first character after the surrogates. -/
def afterSurrogates : Nat := 0xE000

/-- The character that follows a character. -/
def next (n : Nat) : Nat :=
  if n = beforeSurrogates then afterSurrogates else n + 1

/-- The character that precedes a character. -/
def previous (n : Nat) : Nat :=
  if n = afterSurrogates then beforeSurrogates else n - 1

/-- The set without members. -/
def empty : RangeSet := ⟨[]⟩

/-- The set of all characters. -/
def full : RangeSet := ⟨[(0, lastCodePoint)]⟩

/-- The set of one character. -/
def singleton (n : Nat) : RangeSet := ⟨[(n, n)]⟩

/-- Membership of a code point. -/
def contains (s : RangeSet) (n : Nat) : Bool :=
  s.ranges.any fun r => r.1 ≤ n && n ≤ r.2

/-- The set has no members. -/
def isEmpty (s : RangeSet) : Bool :=
  s.ranges.isEmpty

/-- The set has no members beyond ASCII. -/
def isAscii (s : RangeSet) : Bool :=
  s.ranges.all fun r => r.2 < 128

/-! ## Union -/

/-- Join the ranges of a list sorted by first code point that overlap or touch. `current` is the
range that is still growing. -/
private def joinFrom (current : Nat × Nat) : List (Nat × Nat) → List (Nat × Nat)
  | [] => [current]
  | r :: rest =>
    if r.1 ≤ current.2 + 1 then joinFrom (current.1, max current.2 r.2) rest
    else current :: joinFrom r rest

/-- The set that the ranges of a list cover, which is sorted by first code point. -/
private def ofSorted : List (Nat × Nat) → RangeSet
  | [] => empty
  | r :: rest => ⟨joinFrom r rest⟩

/-- The set that a list of ranges covers; ranges written backwards are left out. -/
def ofRanges (ranges : List (Nat × Nat)) : RangeSet :=
  ofSorted ((ranges.filter fun r => r.1 ≤ r.2).mergeSort fun a b => a.1 ≤ b.1)

/-- The characters in either set. -/
def union (a b : RangeSet) : RangeSet :=
  ofSorted (a.ranges.merge b.ranges fun r s => r.1 ≤ s.1)

/-- The characters in any set of a list. -/
def unionAll (sets : List RangeSet) : RangeSet :=
  ofRanges (sets.flatMap ranges)

/-! ## Complement, intersection and differences -/

/-- The gaps after the end of a range, given the ranges that follow it. Where only the surrogates
lie between two ranges there is no gap, and the pair of their neighbours is given in its place. -/
private def gapsAfter (last : Nat) : List (Nat × Nat) → List (Nat × Nat)
  | [] => if last < lastCodePoint then [(next last, lastCodePoint)] else []
  | r :: rest =>
    (min (next last) (previous r.1), max (next last) (previous r.1)) :: gapsAfter r.2 rest

/-- The characters outside a set. -/
def complement (s : RangeSet) : RangeSet :=
  match s.ranges with
  | [] => full
  | r :: rest => ⟨(if 0 < r.1 then [(0, previous r.1)] else []) ++ gapsAfter r.2 rest⟩

/-- The parts that ranges of two sorted lists have in common. -/
private def commonRanges : List (Nat × Nat) → List (Nat × Nat) → List (Nat × Nat)
  | [], _ => []
  | _, [] => []
  | r :: rs, s :: ss =>
    let rest := if r.2 < s.2 then commonRanges rs (s :: ss) else commonRanges (r :: rs) ss
    if max r.1 s.1 ≤ min r.2 s.2 then (max r.1 s.1, min r.2 s.2) :: rest else rest
termination_by rs ss => rs.length + ss.length

/-- The characters in both sets. -/
def inter (a b : RangeSet) : RangeSet :=
  ⟨commonRanges a.ranges b.ranges⟩

/-- What is left of the ranges of a sorted list outside those of another. -/
private def remainingRanges : List (Nat × Nat) → List (Nat × Nat) → List (Nat × Nat)
  | [], _ => []
  | rs, [] => rs
  | r :: rs, s :: ss =>
    if s.2 < r.1 then remainingRanges (r :: rs) ss
    else if r.2 < s.1 then r :: remainingRanges rs (s :: ss)
    else
      let before := if r.1 < s.1 then [(r.1, previous s.1)] else []
      if s.2 < r.2 then before ++ remainingRanges ((next s.2, r.2) :: rs) ss
      else before ++ remainingRanges rs (s :: ss)
termination_by rs ss => rs.length + ss.length

/-- The characters of the first set that are not in the second. -/
def diff (a b : RangeSet) : RangeSet :=
  ⟨remainingRanges a.ranges b.ranges⟩

/-- The characters in exactly one of two sets. -/
def symmDiff (a b : RangeSet) : RangeSet :=
  (a.union b).diff (a.inter b)

/-! ## Tables written as text -/

/-- The value of a hexadecimal digit, in either case. -/
def hexDigit? (c : Char) : Option Nat :=
  if '0' ≤ c ∧ c ≤ '9' then some (c.toNat - '0'.toNat)
  else if 'a' ≤ c ∧ c ≤ 'f' then some (c.toNat - 'a'.toNat + 10)
  else if 'A' ≤ c ∧ c ≤ 'F' then some (c.toNat - 'A'.toNat + 10)
  else none

/-- The items of a table that is written as text, with blanks or line ends between them. -/
def tableItems (text : String) : List (List Char) :=
  (split ' ' (text.toList.map fun c => if c = '\n' then ' ' else c)).filter (· ≠ [])

/-- The number that hexadecimal digits write; anything else counts as zero. -/
def hexValue (digits : List Char) : Nat :=
  digits.foldl (fun n c => 16 * n + (hexDigit? c).getD 0) 0

/-- One item of a table, as first code point, last code point and step: `41`, `41-5A`, or
`100-12E/2` for every second code point of a range. -/
def readItem (item : List Char) : Nat × Nat × Nat :=
  let (ends, step) :=
    match split '/' item with
    | [ends, step] => (ends, hexValue step)
    | _ => (item, 1)
  match split '-' ends with
  | [lo, hi] => (hexValue lo, hexValue hi, step)
  | _ => (hexValue ends, hexValue ends, step)

/-- The ranges of one item of a table. -/
private def itemRanges (item : List Char) : List (Nat × Nat) :=
  match readItem item with
  | (lo, hi, 1) => [(lo, hi)]
  | (lo, hi, step) =>
    (List.range ((hi - lo) / max step 1 + 1)).map fun k => (lo + k * step, lo + k * step)

/-- Read a table of code points, each item as `readItem` says. -/
def ofText (text : String) : RangeSet :=
  ofRanges ((tableItems text).flatMap itemRanges)

end RangeSet

/-! ## Encoded characters -/

/-- The first and last byte of a range of bytes. -/
abbrev ByteRange := Nat × Nat

/-- The parts of the code points whose characters are encoded alike, in as many bytes. -/
def encodingParts : List (Nat × Nat) :=
  [(0, 0x7F), (0x80, 0x7FF), (0x800, RangeSet.beforeSurrogates),
    (RangeSet.afterSurrogates, 0xFFFF), (0x10000, RangeSet.lastCodePoint)]

/-- Cut a range of code points into what stands before its first whole block, the whole blocks, and
what stands after them. The blocks are then cut at the next greater size. -/
def cutAtBlocks : List Nat → Nat → Nat → List (Nat × Nat)
  | [], lo, hi => [(lo, hi)]
  | block :: greater, lo, hi =>
    if lo / block = hi / block then [(lo, hi)]
    else
      let first := (lo + block - 1) / block * block
      let last := (hi + 1) / block * block - 1
      (if lo < first then [(lo, first - 1)] else []) ++
        (if first ≤ last then cutAtBlocks greater first last else []) ++
        (if last < hi then [(last + 1, hi)] else [])

/-- The row of the encodings of a range of characters. -/
def encodedRow (lo hi : Nat) : List ByteRange :=
  ((String.utf8EncodeChar (Char.ofNat lo)).zip (String.utf8EncodeChar (Char.ofNat hi))).map
    fun b => (b.1.toNat, b.2.toNat)

/-- The rows of the encodings of the characters of a set, in order. Blocks are the characters that
differ in their last byte, their last two or their last three bytes. -/
def RangeSet.encodedRows (s : RangeSet) : List (List ByteRange) :=
  (s.ranges.flatMap fun r =>
    encodingParts.flatMap fun part =>
      let (lo, hi) := (max r.1 part.1, min r.2 part.2)
      if hi < lo then []
      else if hi < 0x80 then [(lo, hi)]
      else cutAtBlocks [0x40, 0x1000, 0x40000] lo hi).map
    fun r => encodedRow r.1 r.2

end CodecGen.Text
