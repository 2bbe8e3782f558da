import CodecGen.Yaml.Place

/-!
# YAML scalars

The text of scalars in all their styles. Where a scalar goes over several lines, a single line end
between two lines becomes a space, and further ones are kept. Readers take the place that a scalar
begins at and return the place after it. Loops take a bound on their turns, each of which reads at
least one character.
-/

namespace CodecGen.Yaml

/-- What stands between two words of a scalar. -/
structure Break where
  /-- The blanks, where no line ends. -/
  blanks : List Char
  /-- A line ends. -/
  ended : Bool
  /-- The first line end. -/
  first : List Char
  /-- The line ends after it. -/
  more : List Char
  deriving Repr, Inhabited

namespace Break

/-- Nothing between two words. -/
def none : Break :=
  ⟨[], false, [], []⟩

/-- Line ends folded: the first becomes a space unless more follow. -/
def fold (first more : List Char) : List Char :=
  if first = ['\n'] then if more.isEmpty then [' '] else more else first ++ more

/-- What a break becomes in the text of a scalar. -/
def text (b : Break) : List Char :=
  if b.ended then fold b.first b.more else b.blanks

/-- A break with one more line end. -/
def addLineEnd (b : Break) (c : Char) : Break :=
  if b.ended then { b with more := b.more ++ [c] } else ⟨[], true, [c], []⟩

/-- Read the rest of a break. A tab may not stand before the given column on a new line. -/
def read? (column : Nat) : Nat → Break → Place → Option (Break × Place)
  | 0, b, p => some (b, p)
  | turns + 1, b, p =>
    match p.rest with
    | [] => some (b, p)
    | c :: _ =>
      if isSpace c then
        if b.ended then
          if c = '\t' ∧ p.column < column then Option.none else read? column turns b (p.skip 1)
        else read? column turns { b with blanks := b.blanks ++ [c] } (p.skip 1)
      else
        match p.lineEnd? with
        | some (c, p) => read? column turns (b.addLineEnd c) p
        | Option.none => some (b, p)

end Break

/-- A character that ends a plain scalar inside brackets. -/
def isFlowIndicator (c : Char) : Bool :=
  c == ',' || c == '[' || c == ']' || c == '\x7b' || c == '\x7d'

/-- The word of a plain scalar at the front of a text. Inside brackets a colon may not stand right
before an indicator. -/
def plainWord? (flow : Bool) : List Char → Option (List Char)
  | [] => some []
  | c :: rest =>
    if isGap c then some []
    else if c = ':' ∧ flow ∧ rest.head?.any (fun d => isFlowIndicator d || d == '?') then none
    else if c = ':' ∧ atGap rest then some []
    else if flow ∧ isFlowIndicator c then some []
    else (plainWord? flow rest).map (c :: ·)

/-- The rest of a plain scalar after some text and a break, and whether a line ends after it. The
lines of the scalar begin at the given column at least, unless it stands inside brackets. -/
def plainFrom? (flow : Bool) (column : Nat) :
    Nat → List Char → Break → Place → Option (List Char × Bool × Place)
  | 0, _, _, _ => none
  | turns + 1, text, b, p => do
    if p.atDocumentMark ∨ p.rest.head? = some '#' then return (text, b.ended, p)
    let word ← plainWord? flow p.rest
    let (text, b) := if word.isEmpty then (text, b) else (text ++ b.text ++ word, Break.none)
    let p := p.skip word.length
    if !p.rest.head?.any isGap then return (text, b.ended, p)
    let (b, p) ← b.read? column (p.rest.length + 1) p
    if !flow ∧ p.column < column then return (text, b.ended, p)
    plainFrom? flow column turns text b p

/-- A plain scalar, and whether a line ends after it. -/
def plain? (flow : Bool) (column : Nat) (p : Place) : Option (List Char × Bool × Place) :=
  plainFrom? flow column (p.rest.length + 1) [] Break.none p

/-- The character that one letter after a backslash stands for. -/
def escaped? : Char → Option Char
  | '0' => some '\x00'
  | 'a' => some '\x07'
  | 'b' => some '\x08'
  | 't' => some '\t'
  | '\t' => some '\t'
  | 'n' => some '\n'
  | 'v' => some '\x0b'
  | 'f' => some '\x0c'
  | 'r' => some '\r'
  | 'e' => some '\x1b'
  | ' ' => some ' '
  | '"' => some '"'
  | '/' => some '/'
  | '\\' => some '\\'
  | 'N' => some (Char.ofNat 0x85)
  | '_' => some (Char.ofNat 0xA0)
  | 'L' => some (Char.ofNat 0x2028)
  | 'P' => some (Char.ofNat 0x2029)
  | _ => none

/-- The number of digits of a code point after a letter. -/
def codeDigits? : Char → Option Nat
  | 'x' => some 2
  | 'u' => some 4
  | 'U' => some 8
  | _ => none

/-- The character whose code point a number of digits at the front of a text write. -/
def codePoint? (digits : Nat) (cs : List Char) : Option Char := do
  if cs.length < digits then none
  let n ← (cs.take digits).foldlM
    (fun n c => (Text.RangeSet.hexDigit? c).map (16 * n + ·)) 0
  if n.isValidChar then some (Char.ofNat n) else none

/-- The character that an escape stands for, from the character after the backslash on, and the
number of characters that it takes. -/
def escape? : List Char → Option (Char × Nat)
  | [] => none
  | c :: rest =>
    match codeDigits? c with
    | some digits => (codePoint? digits rest).map (·, digits + 1)
    | none => (escaped? c).map (·, 1)

/-- The word of a quoted scalar at a place, the place after it, and whether an escaped line end
follows. Escapes are read between double quotes only. -/
def quotedWord? (quote : Char) : Nat → Place → Option (List Char × Bool × Place)
  | 0, _ => none
  | turns + 1, p =>
    match p.rest with
    | [] => some ([], false, p)
    | c :: rest =>
      if isGap c then some ([], false, p)
      else if c = quote then
        if c = '\'' ∧ rest.head? = some c then
          (quotedWord? quote turns (p.skip 2)).map fun r => (c :: r.1, r.2)
        else some ([], false, p)
      else if c = '\\' ∧ quote = '"' then
        match (p.skip 1).lineEnd? with
        | some (_, p) => some ([], true, p)
        | none => do
          let (d, length) ← escape? rest
          let (word, ended, p) ← quotedWord? quote turns (p.skip (length + 1))
          pure (d :: word, ended, p)
      else (quotedWord? quote turns (p.skip 1)).map fun r => (c :: r.1, r.2)

/-- The rest of a quoted scalar after some text. -/
def quotedFrom? (quote : Char) : Nat → List Char → Place → Option (List Char × Place)
  | 0, _, _ => none
  | turns + 1, text, p => do
    if p.atDocumentMark ∨ p.rest.isEmpty then none
    let (word, ended, p) ← quotedWord? quote (p.rest.length + 1) p
    let text := text ++ word
    if p.rest.head? = some quote then return (text, p.skip 1)
    let (b, p) ← Break.read? 0 (p.rest.length + 1) { Break.none with ended } p
    quotedFrom? quote turns (text ++ b.text) p

/-- A scalar in quotes, from its opening quote on. -/
def quoted? (quote : Char) (p : Place) : Option (List Char × Place) :=
  quotedFrom? quote (p.rest.length + 1) [] (p.skip 1)

/-- What becomes of the line ends at the end of a block scalar. -/
inductive Chomping where
  /-- None is kept. -/
  | strip
  /-- One is kept. -/
  | clip
  /-- All are kept. -/
  | keep
  deriving DecidableEq, Repr, Inhabited

/-- The indicators after the mark of a block scalar: what becomes of its end, and how deep it is
indented if that is said. -/
def blockIndicators? (p : Place) : Option (Chomping × Option Nat × Place) :=
  let chomping? : Char → Option Chomping
    | '+' => some .keep
    | '-' => some .strip
    | _ => none
  let digit (c : Char) : Nat := c.toNat - '0'.toNat
  match p.rest with
  | c :: rest =>
    match chomping? c, rest with
    | some chomping, d :: _ =>
      if d = '0' then none
      else if d.isDigit then some (chomping, some (digit d), p.skip 2)
      else some (chomping, none, p.skip 1)
    | some chomping, [] => some (chomping, none, p.skip 1)
    | none, rest =>
      if c = '0' then none
      else if c.isDigit then
        match rest.head?.bind chomping? with
        | some chomping => some (chomping, some (digit c), p.skip 2)
        | none => some (.clip, some (digit c), p.skip 1)
      else some (.clip, none, p)
  | [] => some (.clip, none, p)

/-- Pass over indentation and empty lines of a block scalar: the greatest column met, the line ends,
and the place after them. Where no indentation is set, all spaces count as such. -/
def blockBreaks? (indent : Option Nat) :
    Nat → Nat → List Char → Place → Option (Nat × List Char × Place)
  | 0, _, _, _ => none
  | turns + 1, widest, breaks, p =>
    let spaces := (p.rest.takeWhile (· == ' ')).length
    let p := p.skip ((indent.map (· - p.column)).getD spaces |> min spaces)
    let widest := max widest p.column
    if p.rest.head? = some '\t' ∧ indent.all (p.column < ·) then none
    else
      match p.lineEnd? with
      | some (c, p) => blockBreaks? indent turns widest (breaks ++ [c]) p
      | none => some (widest, breaks, p)

/-- The lines of a block scalar from some point on: the text, and the line ends after it, the last
line's own apart from those of empty lines. `first` and `more` are the line ends before the next
line, and `indented` says that the line before began with a blank. -/
def blockLines? (literal : Bool) (indent : Nat) :
    Nat → List Char → List Char → List Char → Bool → Place →
      Option (List Char × List Char × List Char × Place)
  | 0, _, _, _, _, _ => none
  | turns + 1, text, first, more, indented, p =>
    if p.column ≠ indent ∨ p.rest.isEmpty then some (text, first, more, p)
    else do
      let blank := p.rest.head?.any isSpace
      let joined :=
        if !literal ∧ first = ['\n'] ∧ !indented ∧ !blank then if more.isEmpty then [' '] else []
        else first
      let line := p.rest.takeWhile (!isBreak ·)
      let p := p.skip line.length
      let (first, p) :=
        match p.lineEnd? with
        | some (c, p) => ([c], p)
        | none => ([], p)
      let text := text ++ joined ++ more ++ line
      let (_, more, p) ← blockBreaks? (some indent) (p.rest.length + 2) 0 [] p
      blockLines? literal indent turns text first more blank p

/-- A block scalar, from its mark on. `outer` is the column that the text around it is indented to,
if it is. -/
def block? (literal : Bool) (outer : Option Nat) (p : Place) : Option (List Char × Place) := do
  let (chomping, increment, p) ← blockIndicators? (p.skip 1)
  let p ← p.lineTail?
  let set := increment.map (outer.getD 0 + ·)
  let (widest, breaks, p) ← blockBreaks? set (p.rest.length + 2) 0 [] p
  let indent := set.getD (max (max widest ((outer.map (· + 1)).getD 0)) 1)
  let (text, first, more, p) ←
    blockLines? literal indent (p.rest.length + 2) [] [] breaks false p
  let text :=
    match chomping with
    | .strip => text
    | .clip => text ++ first
    | .keep => text ++ first ++ more
  pure (text, p)

end CodecGen.Yaml
