import CodecGen.Pattern.Class
import CodecGen.Pattern.Normal
import CodecGen.Text.Basic

/-!
# Single characters of patterns

What stands for one character or one place in the text of a pattern, outside and inside brackets,
under the mode that is set at that point: a character by itself, or what follows a backslash. Text
for which there is no such reading is no pattern.
-/

namespace CodecGen.Pattern

open CodecGen.Text

/-- How the text of a pattern is read at some point. -/
structure Mode where
  /-- Letters match in either case. -/
  ignoreCase : Bool
  /-- The ends of lines count as ends of the text. -/
  multiLine : Bool
  /-- The dot matches line ends. -/
  dotAll : Bool
  /-- Carriage returns count as line ends. -/
  crlf : Bool
  /-- Classes are those of the whole character standard. -/
  unicode : Bool
  /-- Repetitions are as rare as possible unless they are marked. -/
  rare : Bool
  /-- Blanks and comments in the pattern do not count. -/
  verbose : Bool
  deriving DecidableEq, Repr, Inhabited

/-- How a pattern is read at its start. -/
def Mode.initial : Mode :=
  ⟨false, false, false, false, true, false, false⟩

/-- What one character or escape stands for. -/
inductive Atom where
  | char (c : Char)
  | set (s : RangeSet)
  | look (l : Look)
  deriving Repr, Inhabited

/-- Pass over a comment and the line end after it. -/
def skipComment : List Char → List Char
  | [] => []
  | c :: cs => if c = '\n' then cs else skipComment cs

/-- Pass over blanks and comments in at most some number of turns. -/
def skipBlanks : Nat → List Char → List Char
  | 0, cs => cs
  | _ + 1, [] => []
  | turns + 1, c :: cs =>
    if isBlank c then skipBlanks turns cs
    else if c = '#' then skipBlanks turns (skipComment cs)
    else c :: cs

/-- Pass over what does not count. -/
def Mode.skip (m : Mode) (cs : List Char) : List Char :=
  if m.verbose then skipBlanks cs.length cs else cs

/-- A set and all that differs from it in case only, if case does not matter. Without the whole
character standard, sets are of ASCII and stay so. -/
def Mode.fold (m : Mode) (s : RangeSet) : RangeSet :=
  if !m.ignoreCase then s
  else if m.unicode then s.foldClosure
  else s.foldClosure.inter (RangeSet.ofText "0-7F")

/-- A class as it is written, in all cases if case does not matter, or its complement. Without the
whole character standard there are no complements. -/
def Mode.classOf? (m : Mode) (negated : Bool) (s : RangeSet) : Option RangeSet :=
  if negated then if m.unicode then some (m.fold s).complement else none else some (m.fold s)

/-- A character that sets may hold. -/
def Mode.allows (m : Mode) (c : Char) : Bool :=
  m.unicode || c.val < 128

/-- The characters that stand for themselves after a backslash: those of ASCII that are neither
letters nor digits, angle brackets left out. -/
def isEscapable (c : Char) : Bool :=
  c.val < 128 && !c.isAlphanum && c != '<' && c != '>'

/-- The character that a letter after a backslash stands for. -/
def controlEscape? : Char → Option Char
  | 'a' => some '\x07'
  | 'f' => some '\x0c'
  | 't' => some '\t'
  | 'n' => some '\n'
  | 'r' => some '\r'
  | 'v' => some '\x0b'
  | _ => none

/-- The number of digits of a code point after a letter. -/
def codeDigits? : Char → Option Nat
  | 'x' => some 2
  | 'u' => some 4
  | 'U' => some 8
  | _ => none

/-- Some number of characters, with what does not count between them. -/
def Mode.take? (m : Mode) : Nat → List Char → Option (List Char × List Char)
  | 0, cs => some ([], cs)
  | n + 1, cs =>
    match m.skip cs with
    | [] => none
    | c :: rest => (m.take? n rest).map fun p => (c :: p.1, p.2)

/-- The characters up to a closing brace, without those that do not count, and what follows the
brace; in at most some number of turns. -/
def Mode.braced? (m : Mode) : Nat → List Char → Option (List Char × List Char)
  | 0, _ => none
  | turns + 1, cs =>
    match m.skip cs with
    | [] => none
    | c :: rest =>
      if c = '\x7d' then some ([], rest) else (m.braced? turns rest).map fun p => (c :: p.1, p.2)

/-- The character whose code point some digits write. -/
def codePoint? (digits : List Char) : Option Char := do
  if digits.isEmpty then none
  let n ← digits.foldlM (fun n c => (RangeSet.hexDigit? c).map (16 * n + ·)) 0
  if n.isValidChar then some (Char.ofNat n) else none

/-- A character by its code point, from the text after the letter on. Without the whole character
standard, two digits stand for a byte, and beyond ASCII that is no character. -/
def codeEscape? (m : Mode) (digits : Nat) (cs : List Char) : Option (Atom × List Char) := do
  match m.skip cs with
  | '\x7b' :: rest => do
    let (ds, rest) ← m.braced? (rest.length + 1) rest
    return (.char (← codePoint? ds), rest)
  | rest => do
    let (ds, rest) ← m.take? digits rest
    let c ← codePoint? ds
    if digits = 2 ∧ !m.allows c then none else return (.char c, rest)

/-- A class by property, from the text after the letter on. -/
def propertyEscape? (m : Mode) (negated : Bool) (cs : List Char) : Option (Atom × List Char) := do
  let ((s, unequal), rest) ←
    match m.skip cs with
    | [] | '\\' :: _ => none
    | '\x7b' :: rest => do
      let (name, rest) ← m.braced? (rest.length + 1) rest
      pure (← bracedClass? name, rest)
    | c :: rest => do pure ((← namedClass? [c], false), rest)
  if m.unicode then return (.set (← m.classOf? (negated != unequal) s), rest) else none

/-- A kind of word boundary by its name in braces, from the text after the brace on. Text that
begins with no letter or hyphen is none of these, and left to be read as a repetition. -/
def namedBoundary? (m : Mode) (cs : List Char) : Option (Look × List Char) := do
  match m.skip cs with
  | [] => none
  | c :: rest =>
    if c.isAlpha || c = '-' then
      let (name, after) ← m.braced? (rest.length + 2) (c :: rest)
      let word := wordClass m.unicode
      match String.ofList name with
      | "start" => some (.wordStart word, after)
      | "end" => some (.wordEnd word, after)
      | "start-half" => some (.wordStartHalf word, after)
      | "end-half" => some (.wordEndHalf word, after)
      | _ => none
    else some (.boundary word, '\x7b' :: cs)
where
  /-- The word characters that plain boundaries are told by. -/
  word : RangeSet := wordClass m.unicode

/-- What follows a backslash. -/
def escape? (m : Mode) (cs : List Char) : Option (Atom × List Char) :=
  match cs with
  | [] => none
  | c :: rest =>
    if let some digits := codeDigits? c then codeEscape? m digits rest
    else if c = 'p' ∨ c = 'P' then propertyEscape? m (c = 'P') rest
    else if let some s := letterClass? m.unicode c.toLower then
      (if c.isUpper then if m.unicode then some s.complement else none else some s).map
        fun s => (.set s, rest)
    else if isEscapable c then some (.char c, rest)
    else if let some c := controlEscape? c then some (.char c, rest)
    else
      match c, rest with
      | 'A', _ => some (.look .textStart, rest)
      | 'z', _ => some (.look .textEnd, rest)
      | 'b', '\x7b' :: after => (namedBoundary? m after).map fun p => (.look p.1, p.2)
      | 'b', _ => some (.look (.boundary (wordClass m.unicode)), rest)
      | 'B', _ => some (.look (.noBoundary (wordClass m.unicode)), rest)
      | '<', _ => some (.look (.wordStart (wordClass m.unicode)), rest)
      | '>', _ => some (.look (.wordEnd (wordClass m.unicode)), rest)
      | _, _ => none

/-- The pattern of one character as it is written. Without the whole character standard, case
matters beyond ASCII. -/
def charPattern (m : Mode) (c : Char) : Pattern :=
  if m.allows c then .ofSet (m.fold (RangeSet.singleton c.toNat)) else .literal [c]

/-- What the dot matches: any character but the line ends, or any at all. -/
def dotPattern? (m : Mode) : Option Pattern :=
  if !m.unicode then none
  else if m.dotAll then some (.chars .full)
  else some (.chars (RangeSet.ofText (if m.crlf then "A D" else "A")).complement)

/-- The pattern of one character or escape outside brackets. -/
def single? (m : Mode) (cs : List Char) : Option (Pattern × List Char) :=
  match cs with
  | [] => none
  | '\\' :: rest => do
    match ← escape? m rest with
    | (.char c, rest) => pure (charPattern m c, rest)
    | (.set s, rest) => pure (.ofSet s, rest)
    | (.look l, rest) => pure (.look l, rest)
  | '.' :: rest => (dotPattern? m).map (·, rest)
  | '^' :: rest => some (.look (if m.multiLine then .lineStart m.crlf else .textStart), rest)
  | '$' :: rest => some (.look (if m.multiLine then .lineEnd m.crlf else .textEnd), rest)
  | c :: rest => some (charPattern m c, rest)

end CodecGen.Pattern
