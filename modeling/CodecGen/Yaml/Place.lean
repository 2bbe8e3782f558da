import CodecGen.Text.RangeSet

/-!
# Places in a YAML text

A place holds the text ahead with the line and column it begins at, and how many bytes stand before
it. Line ends are told by several characters; all but two of them count as the same line end in
scalars.
-/

namespace CodecGen.Yaml

/-- A place in a text. -/
structure Place where
  /-- The text from there on. -/
  rest : List Char
  /-- The number of bytes before it. -/
  index : Nat
  /-- The number of lines before it. -/
  line : Nat
  /-- The number of characters before it on its line. -/
  column : Nat
  deriving DecidableEq, Repr, Inhabited

/-- A space or a tab. -/
def isSpace (c : Char) : Bool :=
  c == ' ' || c == '\t'

/-- A character that ends a line. -/
def isBreak (c : Char) : Bool :=
  c == '\n' || c == '\r' || c.toNat == 0x85 || c.toNat == 0x2028 || c.toNat == 0x2029

/-- A blank or a line end. -/
def isGap (c : Char) : Bool :=
  isSpace c || isBreak c

/-- The text begins with a blank or a line end, or there is none. -/
def atGap : List Char → Bool
  | [] => true
  | c :: _ => isGap c

/-- A character that may stand in a text. -/
def isPrintable (c : Char) : Bool :=
  let n := c.toNat
  n == 9 || n == 10 || n == 13 || (0x20 ≤ n && n ≤ 0x7E) || n == 0x85 ||
    (0xA0 ≤ n && n ≤ 0xD7FF) || (0xE000 ≤ n && n ≤ 0xFFFD) || 0x10000 ≤ n

namespace Place

/-- The start of a text. -/
def start (cs : List Char) : Place :=
  ⟨cs, 0, 0, 0⟩

/-- The place some characters further on the same line. -/
def skip (p : Place) (n : Nat) : Place :=
  ⟨p.rest.drop n, (p.rest.take n).foldl (fun index c => index + c.utf8Size) p.index, p.line,
    p.column + n⟩

/-- The place after the characters of a class, up to the end of the line. -/
def skipWhile (p : Place) (f : Char → Bool) : Place :=
  p.skip (p.rest.takeWhile f).length

/-- A byte order mark at the start of a line is passed over, but takes a column. -/
def skipOrderMark (p : Place) : Place :=
  if p.column = 0 ∧ p.rest.head? = some (Char.ofNat 0xFEFF) then p.skip 1 else p

/-- The line end ahead as scalars keep it, and the place after it. -/
def lineEnd? (p : Place) : Option (Char × Place) :=
  match p.rest with
  | '\r' :: '\n' :: rest => some ('\n', ⟨rest, p.index + 2, p.line + 1, 0⟩)
  | c :: rest =>
    if isBreak c then
      let kept := if c.toNat = 0x2028 ∨ c.toNat = 0x2029 then c else '\n'
      some (kept, ⟨rest, p.index + c.utf8Size, p.line + 1, 0⟩)
    else none
  | [] => none

/-- A line that separates documents begins here. -/
def atDocumentMark (p : Place) : Bool :=
  p.column == 0 &&
    match p.rest with
    | '-' :: '-' :: '-' :: rest => atGap rest
    | '.' :: '.' :: '.' :: rest => atGap rest
    | _ => false

/-- Pass over blanks and a comment to the end of the line; nothing else may stand there. -/
def lineTail? (p : Place) : Option Place :=
  let p := p.skipWhile isSpace
  let p := if p.rest.head? = some '#' then p.skipWhile (!isBreak ·) else p
  match p.rest with
  | [] => some p
  | _ => p.lineEnd?.map Prod.snd

end Place

end CodecGen.Yaml
