import CodecGen.Pattern.Basic

/-!
# Patterns in normal form

The ways to put patterns together that keep them simple: texts that follow each other are one text,
alternatives of single characters are one set, alternatives that begin alike share their beginning,
and repetitions that change nothing are left out. None of this changes what is matched.
-/

namespace CodecGen.Pattern

open CodecGen.Text

/-! ## Sets and groups -/

/-- One character of a set; the text of a single character is a literal. -/
def ofSet (s : RangeSet) : Pattern :=
  match s.ranges with
  | [(lo, hi)] => if lo = hi then literal [Char.ofNat lo] else chars s
  | _ => chars s

/-- The set of characters that a pattern matches, if it matches one character each time. -/
def singleSet? : Pattern → Option RangeSet
  | literal [c] => some (.singleton c.toNat)
  | chars s => some s
  | _ => none

/-! ## Rows -/

/-- The parts of a row. -/
def parts : Pattern → List Pattern
  | empty => []
  | seq p q => p :: q.parts
  | p => [p]

/-- Put a part before a row; texts are joined. -/
private def consPart (p : Pattern) (row : List Pattern) : List Pattern :=
  match p, row with
  | literal s, literal t :: rest => literal (s ++ t) :: rest
  | p, row => p :: row

/-- One part after the other. -/
private def ofParts : List Pattern → Pattern
  | [] => empty
  | [p] => p
  | p :: rest => seq p (ofParts rest)

/-- The patterns of a list, one after the other. -/
def inOrder (ps : List Pattern) : Pattern :=
  ofParts ((ps.flatMap parts).foldr consPart [])

/-! ## Alternatives -/

/-- The alternatives of a pattern, given those that come after them. -/
private def branchesBefore : Pattern → List Pattern → List Pattern
  | alt p q, rest => branchesBefore p (q :: rest)
  | p, rest => p :: rest

/-- The alternatives of a pattern. -/
def branches (p : Pattern) : List Pattern :=
  branchesBefore p []

/-- The parts that two rows begin with alike. -/
private def commonParts : List Pattern → List Pattern → List Pattern
  | p :: ps, q :: qs => if p = q then p :: commonParts ps qs else []
  | _, _ => []

/-- The alternatives of a list that is not empty, further ones joining on the right. -/
private def ofBranches : List Pattern → Pattern
  | [] => chars .empty
  | p :: rest => rest.foldl alt p

/-- One set, where all alternatives match one character each time; the alternatives otherwise. -/
private def setOrBranches (ps : List Pattern) : Pattern :=
  match ps with
  | [p] => p
  | ps =>
    match ps.mapM singleSet? with
    | some sets => ofSet (RangeSet.unionAll sets)
    | none => ofBranches ps

/-- The parts that all rows of a list begin with. A pattern of a single part is no row. -/
private def sharedParts (ps : List Pattern) : List Pattern :=
  match ps.map parts with
  | [] => []
  | row :: rows =>
    if (row :: rows).any fun row => row.length < 2 then [] else rows.foldl commonParts row

/-- Any pattern of a list. What rows begin with alike stands before the alternatives, whose rest has
nothing more in common. -/
def anyOf (ps : List Pattern) : Pattern :=
  let ps := ps.flatMap branches
  match ps.mapM singleSet?, sharedParts ps with
  | none, p :: shared =>
    let rests := ps.map fun q => inOrder (q.parts.drop (shared.length + 1))
    inOrder (p :: shared ++ [setOrBranches (rests.flatMap branches)])
  | _, _ => setOrBranches ps

/-! ## Extent and repetition -/

/-- What is known of the stretches that a pattern matches. -/
structure Extent where
  /-- The fewest characters of a stretch; none where a part can match nothing. -/
  least : Option Nat
  /-- The most characters of a stretch; none where there is no such number, or a part can match
  nothing. -/
  most : Option Nat
  /-- Stretches begin at the start of the text. -/
  fromStart : Bool
  /-- Stretches stop at the end of the text. -/
  toEnd : Bool
  deriving DecidableEq, Repr, Inhabited

/-- The extent of a pattern for stretches of some length. -/
private def Extent.ofLength (n : Nat) : Extent :=
  ⟨some n, some n, false, false⟩

/-- The sum of two lengths, where both are known. -/
private def addLengths (a b : Option Nat) : Option Nat := do
  return (← a) + (← b)

/-- The extent of one pattern after another. -/
private def Extent.followedBy (a b : Extent) : Extent where
  least := addLengths a.least b.least
  most := addLengths a.most b.most
  fromStart := a.fromStart || (a.most = some 0 && b.fromStart)
  toEnd := b.toEnd || (b.most = some 0 && a.toEnd)

/-- The extent of either of two patterns. -/
private def Extent.or (a b : Extent) : Extent where
  least := do return min (← a.least) (← b.least)
  most := do return max (← a.most) (← b.most)
  fromStart := a.fromStart && b.fromStart
  toEnd := a.toEnd && b.toEnd

/-- The extent of a repetition. -/
private def Extent.repeated (e : Extent) (least : Nat) (most : Option Nat) : Extent where
  least := e.least.map (· * least)
  most := do return (← e.most) * (← most)
  fromStart := 0 < least && e.fromStart
  toEnd := 0 < least && e.toEnd

/-- The extent of a pattern. -/
def extent : Pattern → Extent
  | empty => .ofLength 0
  | literal cs => .ofLength cs.length
  | chars s => if s.isEmpty then ⟨none, none, false, false⟩ else .ofLength 1
  | look l => ⟨some 0, some 0, l = .textStart, l = .textEnd⟩
  | group _ p => p.extent
  | seq p q => p.extent.followedBy q.extent
  | alt p q => p.extent.or q.extent
  | times p least most _ => p.extent.repeated least most

/-- A pattern some number of times. What matches the empty stretch only is repeated once at most. -/
def repeated (p : Pattern) (least : Nat) (most : Option Nat) (greedy : Bool) : Pattern :=
  let onlyEmpty := p.extent.most = some 0
  let least := if onlyEmpty then min least 1 else least
  let most := if onlyEmpty then some ((most.map (min · 1)).getD 1) else most
  if most = some 0 then empty
  else if least = 1 ∧ most = some 1 then p
  else times p least most greedy

end CodecGen.Pattern
