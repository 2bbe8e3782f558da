import CodecGen.Pattern.Automaton
import CodecGen.Pattern.Bracket
import CodecGen.Text.Property.Alphabet

/-!
# Reading patterns

`Pattern.ofText?` reads the text of a pattern: alternatives of rows of characters, classes, places
and groups, each with repetitions after it. Open groups are kept as a stack of levels. Text that is
no pattern, is nested too deeply or whose automata would be too large has no reading.
-/

namespace CodecGen.Pattern

open CodecGen.Text

/-- One item of a row. -/
structure Item where
  /-- What it matches. -/
  pattern : Pattern
  /-- How deep its nesting is. -/
  height : Nat
  /-- A repetition may follow it. -/
  repeatable : Bool
  deriving Repr, Inhabited

/-- A group that is still open, or the whole pattern. -/
structure Level where
  /-- The row that is being read, the latest item first. -/
  row : List Item
  /-- The alternatives before it with their heights, the latest first. -/
  branches : List (Pattern × Nat)
  /-- The number of the group, if it is counted. -/
  number : Option Nat
  /-- The mode that holds after the group. -/
  outer : Mode
  deriving Repr, Inhabited

/-- The deepest nesting that is read. -/
def maxHeight : Nat := 250

namespace Level

/-- The pattern of a row with its height. -/
def rowPattern (row : List Item) : Pattern × Nat :=
  match row with
  | [] => (.empty, 0)
  | [i] => (i.pattern, i.height)
  | row => (inOrder (row.reverse.map Item.pattern), (row.map Item.height).foldl max 0 + 1)

/-- The pattern of a level with its height. -/
def value (l : Level) : Pattern × Nat :=
  let last := rowPattern l.row
  match l.branches with
  | [] => last
  | branches =>
    (anyOf ((last :: branches).reverse.map Prod.fst),
      (branches.map Prod.snd).foldl max last.2 + 1)

/-- The pattern of a group with its height. -/
def groupValue (l : Level) : Pattern × Nat :=
  let (p, height) := l.value
  ((l.number.map (Pattern.group · p)).getD p, height + 1)

/-- A level with one more item in its row. -/
def push (l : Level) (i : Item) : Level :=
  { l with row := i :: l.row }

/-- A level whose row is finished and another alternative begun. -/
def branch (l : Level) : Level :=
  { l with row := [], branches := rowPattern l.row :: l.branches }

/-- A level whose latest item is repeated. -/
def repeatLast? (l : Level) (least : Nat) (most : Option Nat) (greedy : Bool) : Option Level :=
  match l.row with
  | i :: before =>
    if i.repeatable then
      some { l with row := ⟨.repeated i.pattern least most greedy, i.height + 1, true⟩ :: before }
    else none
  | [] => none

end Level

/-- What has been read of a pattern. -/
structure Progress where
  /-- The open groups, the innermost first; the last is the whole pattern. -/
  levels : List Level
  /-- The mode that holds. -/
  mode : Mode
  /-- The names given to groups. -/
  names : List (List Char)
  /-- The number of the latest group that is counted. -/
  groups : Nat
  deriving Repr, Inhabited

namespace Progress

/-- The start of a pattern. -/
def initial : Progress :=
  ⟨[⟨[], [], none, .initial⟩], .initial, [], 0⟩

/-- Change the innermost level. -/
def onLevel? (p : Progress) (f : Level → Option Level) : Option Progress :=
  match p.levels with
  | [] => none
  | l :: levels => (f l).map fun l => { p with levels := l :: levels }

/-- Add an item to the row of the innermost level. -/
def push? (p : Progress) (i : Item) : Option Progress :=
  p.onLevel? fun l => some (l.push i)

/-- Open a group that is not counted, with the mode that holds inside it. -/
def enter (p : Progress) (inside : Mode) : Progress :=
  { p with levels := ⟨[], [], none, p.mode⟩ :: p.levels, mode := inside }

/-- Open a group that is counted. -/
def enterCounted (p : Progress) : Progress :=
  let number := p.groups + 1
  { p with levels := ⟨[], [], some number, p.mode⟩ :: p.levels, groups := number }

/-- Close the innermost group. -/
def leave? (p : Progress) : Option Progress :=
  match p.levels with
  | l :: outer :: levels =>
    let (pattern, height) := l.groupValue
    some { p with levels := outer.push ⟨pattern, height, true⟩ :: levels, mode := l.outer }
  | _ => none

/-- Repeat the latest item. A mark after the repetition turns the preference for many around. -/
def repeat? (p : Progress) (least : Nat) (most : Option Nat) (cs : List Char) :
    Option (Progress × List Char) :=
  let (marked, rest) :=
    match cs with
    | '?' :: rest => (true, rest)
    | cs => (false, cs)
  (p.onLevel? (·.repeatLast? least most (marked == p.mode.rare))).map (·, rest)

/-- The whole pattern, if no group is open. -/
def finish? (p : Progress) : Option Pattern :=
  match p.levels with
  | [l] => if l.value.2 ≤ maxHeight ∧ l.value.1.isBuildable then some l.value.1 else none
  | _ => none

end Progress

/-- The decimal digits at the front, with what does not count after each; in at most some number of
turns. -/
def digitsOf (m : Mode) : Nat → List Char → List Char × List Char
  | 0, cs => ([], cs)
  | _ + 1, [] => ([], [])
  | turns + 1, c :: cs =>
    if c.isDigit then
      let (ds, rest) := digitsOf m turns (m.skip cs)
      (c :: ds, rest)
    else ([], c :: cs)

/-- The greatest count of a repetition. -/
def maxCount : Nat := 4294967295

/-- A decimal count with blanks around it; no count where there are no digits. A count that is too
large has no reading. -/
def count? (m : Mode) (cs : List Char) : Option (Option Nat × List Char) :=
  let (ds, rest) := digitsOf m cs.length (cs.dropWhile isBlank)
  let n := ds.foldl (fun n c => 10 * n + (c.toNat - '0'.toNat)) 0
  let rest := m.skip (rest.dropWhile isBlank)
  if ds.isEmpty then some (none, rest)
  else if n ≤ maxCount then some (some n, rest)
  else none

/-- The counts of a repetition in braces, from the character after the opening brace on. -/
def counts? (m : Mode) (cs : List Char) : Option (Nat × Option Nat × List Char) := do
  let (least, rest) ← count? m (m.skip cs)
  let least ← least
  match rest with
  | '\x7d' :: rest => pure (least, some least, rest)
  | ',' :: rest =>
    match m.skip rest with
    | '\x7d' :: rest => pure (least, none, rest)
    | rest => do
      let (most, rest) ← count? m rest
      let most ← most
      match rest with
      | '\x7d' :: rest => if least ≤ most then pure (least, some most, rest) else none
      | _ => none
  | _ => none

/-- Switch the modes that letters stand for. -/
def Mode.switch? (m : Mode) (on : Bool) : Char → Option Mode
  | 'i' => some { m with ignoreCase := on }
  | 'm' => some { m with multiLine := on }
  | 's' => some { m with dotAll := on }
  | 'R' => some { m with crlf := on }
  | 'u' => some { m with unicode := on }
  | 'x' => some { m with verbose := on }
  | 'U' => some { m with rare := on }
  | _ => none

/-- Switch modes on, and off after a hyphen. -/
def Mode.switchAll? (m : Mode) (on : Bool) : List Char → Option Mode
  | [] => some m
  | '-' :: cs => if on then m.switchAll? false cs else none
  | c :: cs => do (← m.switch? on c).switchAll? on cs

/-- The mode that letters in a group switch to. No letter may occur twice, and one must follow a
hyphen. -/
def Mode.switched? (m : Mode) (letters : List Char) : Option Mode :=
  if letters.eraseDups = letters ∧ letters.getLast? ≠ some '-' then m.switchAll? true letters
  else none

/-- The character can stand in the name of a group, at its start or later. -/
def isNameChar (atStart : Bool) (c : Char) : Bool :=
  c == '_' || nameLetters.contains c.toNat ||
    (!atStart && (c == '.' || c == '[' || c == ']' || nameNumbers.contains c.toNat))

/-- The name of a group, from its first character on. -/
def groupName? (cs : List Char) : Option (List Char × List Char) :=
  match cs.takeWhile (· ≠ '>'), cs.dropWhile (· ≠ '>') with
  | c :: name, _ :: rest =>
    if isNameChar true c ∧ name.all (isNameChar false) then some (c :: name, rest) else none
  | _, _ => none

/-- Open a group with a name. -/
def namedGroup? (p : Progress) (cs : List Char) : Option (Progress × List Char) := do
  let (name, rest) ← groupName? cs
  if name ∈ p.names then none
  else pure ({ p with names := name :: p.names }.enterCounted, rest)

/-- Open a group, or switch modes, from the character after the opening parenthesis on. -/
def group? (p : Progress) (cs : List Char) : Option (Progress × List Char) :=
  match p.mode.skip cs with
  | '?' :: 'P' :: '<' :: rest => namedGroup? p rest
  | '?' :: '<' :: rest => namedGroup? p rest
  | '?' :: rest => do
    let letters := rest.takeWhile fun c => c ≠ ':' ∧ c ≠ ')'
    let mode ← p.mode.switched? letters
    match rest.dropWhile fun c => c ≠ ':' ∧ c ≠ ')' with
    | ':' :: rest => pure (p.enter mode, rest)
    | ')' :: rest =>
      if letters.isEmpty then none
      else pure ({ ← p.push? ⟨.empty, 0, false⟩ with mode }, rest)
    | _ => none
  | rest => some (p.enterCounted, rest)

/-- Read what the text ahead begins with. -/
def step? (p : Progress) (cs : List Char) : Option (Progress × List Char) :=
  match cs with
  | [] => none
  | '(' :: rest => group? p rest
  | ')' :: rest => p.leave?.map (·, rest)
  | '|' :: rest => (p.onLevel? (some ·.branch)).map (·, rest)
  | '[' :: rest => do
    let (s, rest) ← bracket? p.mode rest
    pure (← p.push? ⟨.ofSet s.set, s.height, true⟩, rest)
  | '?' :: rest => p.repeat? 0 (some 1) rest
  | '*' :: rest => p.repeat? 0 none rest
  | '+' :: rest => p.repeat? 1 none rest
  | '\x7b' :: rest => do
    let (least, most, rest) ← counts? p.mode rest
    p.repeat? least most (p.mode.skip rest)
  | cs => do
    let (pattern, rest) ← single? p.mode cs
    pure (← p.push? ⟨pattern, 0, true⟩, rest)

/-- Read a pattern from some point on. Each turn reads at least one character. -/
def readFrom? : Nat → Progress → List Char → Option Pattern
  | 0, _, _ => none
  | turns + 1, p, cs =>
    match p.mode.skip cs with
    | [] => p.finish?
    | cs => do
      let (p, rest) ← step? p cs
      readFrom? turns p rest

/-- The pattern with the given text. -/
def ofText? (text : String) : Option Pattern :=
  readFrom? (text.length + 1) .initial text.toList

end CodecGen.Pattern
