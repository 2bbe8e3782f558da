import CodecGen.Yaml.Scalar
import CodecGen.Yaml.Tag

/-!
# YAML tokens

The tokens of a YAML text: its indicators and scalars, and marks for where blocks begin and end,
which follow from indentation. A key that is not marked as such is known by the colon after it, so
that the place of a possible key is kept until then; `Slot` is the list of marks that turn out to
stand there.
-/

namespace CodecGen.Yaml

/-- The styles of scalars that are told apart. -/
inductive Style where
  | plain
  | quoted
  deriving DecidableEq, Repr, Inhabited

/-- A token. -/
inductive Token where
  | versionDirective (major minor : Nat)
  | tagDirective (handle : List Char) (uri : Tag)
  | documentStart
  | documentEnd
  | sequenceStart
  | mappingStart
  | blockEnd
  | flowSequenceStart
  | flowSequenceEnd
  | flowMappingStart
  | flowMappingEnd
  | blockEntry
  | flowEntry
  | key
  | value
  | aliasOf (name : List Char)
  | anchor (name : List Char)
  | tag (handle : List Char) (suffix : Tag)
  | scalar (style : Style) (text : List Char)
  deriving DecidableEq, Repr, Inhabited

/-- What may turn out to be a key. -/
structure PossibleKey where
  /-- It must be one. -/
  required : Bool
  /-- The number of the slot before it. -/
  slot : Nat
  /-- The line it is on. -/
  line : Nat
  /-- The column it begins at. -/
  column : Nat
  /-- The number of bytes before it. -/
  index : Nat
  deriving Repr, Inhabited

/-- The state of reading tokens. -/
structure Scan where
  /-- The place that is reached. -/
  place : Place
  /-- The tokens read, some of them marks that were added at their slot later. -/
  slots : Array (List Token)
  /-- The columns of the open blocks, the innermost first. -/
  blocks : List Nat
  /-- A key may stand here. -/
  keyAllowed : Bool
  /-- The possible key of the block level and of each open bracket, the innermost first. -/
  keys : List (Option PossibleKey)
  deriving Repr, Inhabited

namespace Scan

/-- The state at the start of a text. -/
def start (cs : List Char) : Scan :=
  ⟨.start cs, #[], [], true, [none]⟩

/-- Some bracket is open. -/
def inFlow (s : Scan) : Bool :=
  1 < s.keys.length

/-- The column of the innermost block is smaller than the given one. -/
def opensBlock (s : Scan) (column : Nat) : Bool :=
  s.blocks.head?.all (· < column)

/-- The column that the lines of a scalar begin at, at least. -/
def lineColumn (s : Scan) : Nat :=
  (s.blocks.head?.map (· + 1)).getD 0

/-- Add a token. -/
def push (s : Scan) (t : Token) : Scan :=
  { s with slots := s.slots.push [t] }

/-- Move to another place. -/
def moveTo (s : Scan) (p : Place) : Scan :=
  { s with place := p }

/-- Say whether a key may stand here. -/
def allowKey (s : Scan) (allowed : Bool) : Scan :=
  { s with keyAllowed := allowed }

/-- Add a token of a number of characters. -/
def take (s : Scan) (length : Nat) (t : Token) : Scan :=
  (s.push t).moveTo (s.place.skip length)

/-- End the blocks that are indented deeper than the given column, or all of them. -/
def endBlocks (s : Scan) (column : Option Nat) : Scan :=
  if s.inFlow then s
  else
    let deeper (c : Nat) : Bool := column.all (· < c)
    let ended := (s.blocks.takeWhile deeper).length
    { s with
      blocks := s.blocks.dropWhile deeper
      slots := s.slots ++ Array.replicate ended [Token.blockEnd] }

/-- Begin a block at the place reached, if it is indented deeper than the one around it. -/
def beginBlock (s : Scan) (t : Token) : Scan :=
  if !s.inFlow && s.opensBlock s.place.column then
    { s with blocks := s.place.column :: s.blocks }.push t
  else s

/-- A possible key that can no longer be one. It must not have been required. -/
def dropKey? (s : Scan) : Option Scan :=
  match s.keys with
  | some k :: keys => if k.required then none else some { s with keys := none :: keys }
  | _ => some s

/-- A possible key on an earlier line or too far back is none. -/
def isStale (s : Scan) (k : PossibleKey) : Bool :=
  k.line < s.place.line || k.index + 1024 < s.place.index

/-- Drop the possible keys that can no longer be keys. -/
def dropStale? (s : Scan) : Option Scan :=
  if s.keys.any fun k => k.any fun k => k.required && s.isStale k then none
  else some { s with keys := s.keys.map fun k => k.filter fun k => !s.isStale k }

/-- Note that what begins here may be a key. -/
def saveKey? (s : Scan) : Option Scan :=
  if !s.keyAllowed then some s
  else do
    let s ← s.dropKey?
    let p := s.place
    let required := !s.inFlow && s.blocks.head? = some p.column
    let k : PossibleKey := ⟨required, s.slots.size, p.line, p.column, p.index⟩
    pure { s with slots := s.slots.push [], keys := some k :: s.keys.tail }

/-- Pass over blanks, comments and line ends before the next token, in at most some number of
turns. -/
def skipGap : Nat → Scan → Scan
  | 0, s => s
  | turns + 1, s =>
    let tabs := s.inFlow || !s.keyAllowed
    let p := s.place.skipOrderMark.skipWhile fun c => c == ' ' || (tabs && c == '\t')
    let p := if p.rest.head? = some '#' then p.skipWhile (!isBreak ·) else p
    match p.lineEnd? with
    | some (_, p) => skipGap turns ((s.moveTo p).allowKey (s.keyAllowed || !s.inFlow))
    | none => s.moveTo p

/-- The tokens read, each mark at its place. -/
def tokens (s : Scan) : List Token :=
  s.slots.toList.flatten

end Scan

namespace Scan

/-- An anchor or alias. -/
def anchor? (s : Scan) (token : List Char → Token) : Option Scan := do
  let s ← s.saveKey?
  let name := s.place.rest.tail.takeWhile isWordChar
  let after := s.place.rest.drop (name.length + 1)
  if name.isEmpty then none
  else if atGap after ∨ after.head?.any ("?:,]\x7d%@\x60".toList.contains ·) then
    pure ((s.take (name.length + 1) (token name)).allowKey false)
  else none

/-- A tag. -/
def tag? (s : Scan) : Option Scan := do
  let s ← s.saveKey?
  let (handle, suffix, length) ← tagParts? s.place.rest
  let after := s.place.rest.drop length
  if atGap after ∨ (s.inFlow ∧ after.head? = some ',') then
    pure ((s.take length (.tag handle suffix)).allowKey false)
  else none

/-- The number that at most nine decimal digits write, and what follows them. -/
def versionNumber? (cs : List Char) : Option (Nat × List Char) :=
  let ds := cs.takeWhile Char.isDigit
  if ds.isEmpty ∨ 9 < ds.length then none
  else some (ds.foldl (fun n c => 10 * n + (c.toNat - '0'.toNat)) 0, cs.drop ds.length)

/-- The version of a directive, and the number of characters it takes. -/
def version? (cs : List Char) : Option (Nat × Nat × Nat) := do
  match ← versionNumber? cs with
  | (major, '.' :: rest) =>
    let (minor, rest) ← versionNumber? rest
    pure (major, minor, cs.length - rest.length)
  | _ => none

/-- A directive. -/
def directive? (s : Scan) : Option Scan := do
  let s ← (s.endBlocks none).dropKey?
  let name := s.place.rest.tail.takeWhile isWordChar
  if !atGap (s.place.rest.drop (name.length + 1)) then none
  let p := (s.place.skip (name.length + 1)).skipWhile isSpace
  let (token, p) ←
    if name = "YAML".toList then do
      let (major, minor, length) ← version? p.rest
      pure (Token.versionDirective major minor, p.skip length)
    else if name = "TAG".toList then do
      let handle ← directiveHandle? p.rest
      let p := p.skip handle.length
      let p' := p.skipWhile isSpace
      let uri := p'.rest.takeWhile isUriChar
      if p'.column = p.column ∨ uri.isEmpty then none
      else if atGap (p'.rest.drop uri.length) then
        pure (Token.tagDirective handle (← Tag.ofUri? uri), p'.skip uri.length)
      else none
    else none
  pure (((s.push token).allowKey false).moveTo (← p.lineTail?))

/-- A line that separates documents. -/
def documentMark? (s : Scan) (token : Token) : Option Scan := do
  let s ← (s.endBlocks none).dropKey?
  pure ((s.take 3 token).allowKey false)

/-- An opening bracket. -/
def openFlow? (s : Scan) (token : Token) : Option Scan := do
  let s ← s.saveKey?
  pure (({ s with keys := none :: s.keys }.take 1 token).allowKey true)

/-- A closing bracket. -/
def closeFlow? (s : Scan) (token : Token) : Option Scan := do
  let s ← s.dropKey?
  let keys := if s.inFlow then s.keys.tail else s.keys
  pure (({ s with keys }.take 1 token).allowKey false)

/-- A comma between items in brackets. -/
def flowEntry? (s : Scan) : Option Scan := do
  let s ← s.dropKey?
  pure ((s.take 1 .flowEntry).allowKey true)

/-- The mark of a list item. -/
def blockEntry? (s : Scan) : Option Scan := do
  if !s.inFlow ∧ !s.keyAllowed then none
  let s ← (s.beginBlock .sequenceStart).dropKey?
  pure ((s.take 1 .blockEntry).allowKey true)

/-- The mark of a key. -/
def key? (s : Scan) : Option Scan := do
  if !s.inFlow ∧ !s.keyAllowed then none
  let s ← (s.beginBlock .mappingStart).dropKey?
  pure ((s.take 1 .key).allowKey (!s.inFlow))

/-- The colon after a key: what was a possible key is one. -/
def value? (s : Scan) : Option Scan :=
  match s.keys with
  | some k :: keys =>
    let begins := !s.inFlow && s.opensBlock k.column
    let marks := if begins then [Token.mappingStart, .key] else [.key]
    let s := { s with
      slots := s.slots.setIfInBounds k.slot marks
      blocks := if begins then k.column :: s.blocks else s.blocks
      keys := none :: keys }
    some ((s.take 1 .value).allowKey false)
  | _ =>
    if !s.inFlow ∧ !s.keyAllowed then none
    else some (((s.beginBlock .mappingStart).take 1 .value).allowKey (!s.inFlow))

/-- A scalar in quotes. -/
def quotedScalar? (s : Scan) (quote : Char) : Option Scan := do
  let s ← s.saveKey?
  let (text, p) ← quoted? quote s.place
  pure (((s.push (.scalar .quoted text)).moveTo p).allowKey false)

/-- A scalar without quotes. -/
def plainScalar? (s : Scan) : Option Scan := do
  let s ← s.saveKey?
  let (text, ended, p) ← plain? s.inFlow s.lineColumn s.place
  pure (((s.push (.scalar .plain text)).moveTo p).allowKey ended)

/-- A block scalar. -/
def blockScalar? (s : Scan) (literal : Bool) : Option Scan := do
  let s ← s.dropKey?
  let (text, p) ← block? literal s.blocks.head? s.place
  pure (((s.push (.scalar .quoted text)).moveTo p).allowKey true)

/-- Some characters that no plain scalar begins with. -/
def isIndicator (c : Char) : Bool :=
  "-?:,[]\x7b\x7d#&*!|>'\"%@\x60".toList.contains c

/-- Read the token that the text ahead begins with. -/
def token? (s : Scan) : Option Scan :=
  match s.place.rest with
  | [] => none
  | c :: rest =>
    let spaced := s.inFlow || atGap rest
    if c = '%' ∧ s.place.column = 0 then s.directive?
    else if s.place.atDocumentMark then
      s.documentMark? (if c = '-' then .documentStart else .documentEnd)
    else if c = '[' then s.openFlow? .flowSequenceStart
    else if c = '\x7b' then s.openFlow? .flowMappingStart
    else if c = ']' then s.closeFlow? .flowSequenceEnd
    else if c = '\x7d' then s.closeFlow? .flowMappingEnd
    else if c = ',' then s.flowEntry?
    else if c = '-' ∧ atGap rest then s.blockEntry?
    else if c = '?' ∧ spaced then s.key?
    else if c = ':' ∧ spaced then s.value?
    else if c = '*' then s.anchor? .aliasOf
    else if c = '&' then s.anchor? .anchor
    else if c = '!' then s.tag?
    else if c = '|' ∧ !s.inFlow then s.blockScalar? true
    else if c = '>' ∧ !s.inFlow then s.blockScalar? false
    else if c = '\'' ∨ c = '"' then s.quotedScalar? c
    else if !(isGap c || isIndicator c) then s.plainScalar?
    else if c = '-' ∧ !rest.head?.any isSpace then s.plainScalar?
    else if (c = '?' ∨ c = ':') ∧ !spaced then s.plainScalar?
    else none

/-- Read all tokens from some point on. Each turn reads at least one character. -/
def readFrom? : Nat → Scan → Option (List Token)
  | 0, _ => none
  | turns + 1, s => do
    let s ← (s.skipGap (s.place.rest.length + 1)).dropStale?
    let s := s.endBlocks (some s.place.column)
    if s.place.rest.isEmpty then
      let s ← (s.endBlocks none).dropKey?
      pure s.tokens
    else readFrom? turns (← s.token?)

end Scan

/-- The tokens of a text. -/
def tokens? (text : String) : Option (List Token) :=
  let cs := text.toList
  if cs.all isPrintable then Scan.readFrom? (cs.length + 1) (.start cs) else none

end CodecGen.Yaml
