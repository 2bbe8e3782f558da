import CodecGen.Pattern.Escape

/-!
# Bracketed classes

The sets of characters that patterns write between brackets: characters, ranges, named classes and
further brackets next to each other, and the operations on sets between such rows. Open brackets are
kept as a stack of levels.
-/

namespace CodecGen.Pattern

open CodecGen.Text

/-- The operations on sets that brackets can hold. -/
inductive SetOperation where
  | intersection
  | difference
  | symmetricDifference
  deriving DecidableEq, Repr, Inhabited

/-- An operation on two sets. -/
def SetOperation.apply : SetOperation → RangeSet → RangeSet → RangeSet
  | intersection => RangeSet.inter
  | difference => RangeSet.diff
  | symmetricDifference => RangeSet.symmDiff

/-- A set that is written, with how deep its nesting is. -/
structure Nested where
  /-- The characters. -/
  set : RangeSet
  /-- How many brackets, rows and operations lie inside each other. -/
  height : Nat
  deriving Repr, Inhabited

/-- The items of a row that has been read so far. -/
structure Row where
  /-- The characters of all items. -/
  set : RangeSet
  /-- The number of items. -/
  count : Nat
  /-- The greatest height of an item. -/
  height : Nat
  deriving Repr, Inhabited

/-- A row without items. -/
def Row.empty : Row :=
  ⟨.empty, 0, 0⟩

/-- A row with one more item. -/
def Row.add (r : Row) (item : Nested) : Row :=
  ⟨r.set.union item.set, r.count + 1, max r.height item.height⟩

/-- What a row stands for. A row of a single item is no more than that item. -/
def Row.value (r : Row) : Nested :=
  ⟨r.set, if r.count < 2 then r.height else r.height + 1⟩

/-- A bracket that is still open. -/
structure ClassLevel where
  /-- The bracket is for all but what it holds. -/
  negated : Bool
  /-- The first operand and the operation, where one awaits its second operand. -/
  pending : Option (Nested × SetOperation)
  /-- The row that is being read. -/
  row : Row
  deriving Repr, Inhabited

namespace ClassLevel

/-- A level with one more item in its row. -/
def add (l : ClassLevel) (item : Nested) : ClassLevel :=
  { l with row := l.row.add item }

/-- A level with one more set in its row, which has no brackets in it. -/
def addSet (l : ClassLevel) (s : RangeSet) : ClassLevel :=
  l.add ⟨s, 0⟩

/-- What the rows read so far stand for. -/
def value (m : Mode) (l : ClassLevel) : Nested :=
  let last := l.row.value
  match l.pending with
  | none => last
  | some (s, operation) =>
    ⟨operation.apply (m.fold s.set) (m.fold last.set), max s.height last.height + 1⟩

/-- A level that awaits the second operand of an operation. -/
def await (m : Mode) (l : ClassLevel) (operation : SetOperation) : ClassLevel :=
  ⟨l.negated, some (l.value m, operation), .empty⟩

end ClassLevel

/-- The hyphens at the start of a bracket, which stand for themselves. -/
def leadingHyphens (m : Mode) : Nat → ClassLevel → List Char → ClassLevel × List Char
  | 0, l, cs => (l, cs)
  | turns + 1, l, cs =>
    match cs with
    | '-' :: rest => leadingHyphens m turns (l.addSet (RangeSet.singleton '-'.toNat)) (m.skip rest)
    | _ => (l, cs)

/-- Open a bracket, from the character after it on. A closing bracket that comes first stands for
itself. -/
def openBracket (m : Mode) (cs : List Char) : ClassLevel × List Char :=
  let cs := m.skip cs
  let (negated, cs) :=
    match cs with
    | '^' :: rest => (true, m.skip rest)
    | _ => (false, cs)
  match leadingHyphens m cs.length ⟨negated, none, .empty⟩ cs with
  | (l, ']' :: rest) =>
    if l.row.count = 0 then (l.addSet (RangeSet.singleton ']'.toNat), rest) else (l, ']' :: rest)
  | p => p

/-- A class named between colons, from the opening bracket on. -/
def colonClass? (m : Mode) (cs : List Char) : Option (Option RangeSet × List Char) :=
  match cs with
  | '[' :: ':' :: rest =>
    let (negated, rest) :=
      match rest with
      | '^' :: rest => (true, rest)
      | _ => (false, rest)
    match rest.dropWhile (· ≠ ':') with
    | ':' :: ']' :: after =>
      (asciiClass? (String.ofList (rest.takeWhile (· ≠ ':')))).map fun s =>
        (m.classOf? negated s, after)
    | _ => none
  | _ => none

/-- One character or escape inside brackets. -/
def bracketAtom? (m : Mode) (cs : List Char) : Option (Atom × List Char) :=
  match cs with
  | [] => none
  | '\\' :: rest => escape? m rest
  | c :: rest => some (.char c, rest)

/-- The set of one character or escape inside brackets. -/
def atomSet? (m : Mode) : Atom → Option RangeSet
  | .char c => if m.allows c then some (RangeSet.singleton c.toNat) else none
  | .set s => some s
  | .look _ => none

/-- The set of a range of characters. -/
def rangeSet? (m : Mode) : Atom → Atom → Option RangeSet
  | .char a, .char b =>
    if a ≤ b ∧ m.allows a ∧ m.allows b then some ⟨[(a.toNat, b.toNat)]⟩ else none
  | _, _ => none

/-- The character after a hyphen, by which it is told whether the hyphen makes a range. Where blanks
and comments do not count, only the sign of one comment is passed over and not its text. -/
def Mode.afterHyphen? (m : Mode) (cs : List Char) : Option Char :=
  if !m.verbose then cs.head?
  else
    match cs.dropWhile isBlank with
    | '#' :: rest => (rest.dropWhile isBlank).head?
    | rest => rest.head?

/-- A character, an escape or a range inside brackets. A hyphen makes a range unless a closing
bracket or another hyphen follows it. -/
def bracketItem? (m : Mode) (cs : List Char) : Option (RangeSet × List Char) := do
  let (first, rest) ← bracketAtom? m cs
  match m.skip rest with
  | [] => none
  | '-' :: after =>
    if m.afterHyphen? after ∈ [some ']', some '-'] then pure (← atomSet? m first, '-' :: after)
    else
      let (last, rest) ← bracketAtom? m (m.skip after)
      pure (← rangeSet? m first last, rest)
  | rest => pure (← atomSet? m first, rest)

/-- The set of a bracket from some point inside it on, and what follows it. `levels` holds the open
brackets, the innermost first; each turn reads at least one character. -/
def bracketFrom? (m : Mode) : Nat → List ClassLevel → List Char → Option (Nested × List Char)
  | 0, _, _ => none
  | _, [], _ => none
  | turns + 1, l :: levels, cs =>
    match m.skip cs with
    | [] => none
    | '[' :: rest =>
      match colonClass? m ('[' :: rest) with
      | some (s, rest) => do bracketFrom? m turns (l.addSet (← s) :: levels) rest
      | none =>
        let (inner, rest) := openBracket m rest
        bracketFrom? m turns (inner :: l :: levels) rest
    | ']' :: rest => do
      let inside := l.value m
      let bracket : Nested := ⟨← m.classOf? l.negated inside.set, inside.height + 1⟩
      match levels with
      | [] => pure (bracket, rest)
      | outer :: levels => bracketFrom? m turns (outer.add bracket :: levels) rest
    | '&' :: '&' :: rest => bracketFrom? m turns (l.await m .intersection :: levels) rest
    | '-' :: '-' :: rest => bracketFrom? m turns (l.await m .difference :: levels) rest
    | '~' :: '~' :: rest => bracketFrom? m turns (l.await m .symmetricDifference :: levels) rest
    | cs => do
      let (s, rest) ← bracketItem? m cs
      bracketFrom? m turns (l.addSet s :: levels) rest

/-- A bracket, from the character after it on. -/
def bracket? (m : Mode) (cs : List Char) : Option (Nested × List Char) :=
  let (l, rest) := openBracket m cs
  bracketFrom? m (cs.length + 1) [l] rest

end CodecGen.Pattern
