import CodecGen.Text.RangeSet

/-!
# YAML tags

What a node is marked as. A tag is written in full between angle brackets, or as a handle and a
suffix; the handle stands for the beginning of a full tag. Bytes can be written as two hexadecimal
digits after a percent sign, so that a tag is a row of bytes, which need not be text.
-/

namespace CodecGen.Yaml

/-- The characters of the names of anchors and of words in directives. -/
def isWordChar (c : Char) : Bool :=
  c.isAlphanum || c == '_' || c == '-'

/-- The characters of short tags. -/
def isTagChar (c : Char) : Bool :=
  isWordChar c || ";/?:@&=+$.%!~*'()".toList.contains c

/-- The characters of full tags and of what handles stand for. -/
def isUriChar (c : Char) : Bool :=
  isTagChar c || c == ',' || c == '[' || c == ']'

/-- The bytes of a tag, or of a part of one. -/
abbrev Tag := List UInt8

namespace Tag

/-- The tag with the given text. -/
def ofText (text : String) : Tag :=
  text.toUTF8.toList

/-- The number of further bytes that a character has which begins with the given byte. -/
def furtherBytes? (byte : Nat) : Option Nat :=
  if byte < 0x80 then some 0
  else if byte < 0xC0 then none
  else if byte < 0xE0 then some 1
  else if byte < 0xF0 then some 2
  else if byte < 0xF8 then some 3
  else none

/-- The bytes that a text stands for. A character written in bytes is written so altogether; `owed`
is the number of its bytes that must follow. -/
def bytes? (owed : Nat) : List Char → Option Tag
  | [] => if owed = 0 then some [] else none
  | '%' :: a :: b :: rest => do
    let byte := 16 * (← Text.RangeSet.hexDigit? a) + (← Text.RangeSet.hexDigit? b)
    let owed ←
      if owed = 0 then furtherBytes? byte
      else if 0x80 ≤ byte ∧ byte < 0xC0 then some (owed - 1)
      else none
    return byte.toUInt8 :: (← bytes? owed rest)
  | c :: rest =>
    if owed = 0 ∧ c ≠ '%' then (bytes? 0 rest).map (c.toNat.toUInt8 :: ·) else none

/-- The tag or part of a tag that a text stands for. A zero byte ends it. -/
def ofUri? (text : List Char) : Option Tag :=
  (bytes? 0 text).map fun bytes => bytes.takeWhile (· ≠ 0)

/-- The tag is text. -/
def isText (t : Tag) : Bool :=
  (String.fromUTF8? ⟨t.toArray⟩).isSome

/-- The tag is one of the document's own. -/
def isLocal (t : Tag) : Bool :=
  t.head? = some '!'.toNat.toUInt8 && t.isText

end Tag

/-- The handle and the suffix of a tag, and the number of characters it takes. -/
def tagParts? (cs : List Char) : Option (List Char × Tag × Nat) :=
  match cs with
  | '!' :: '<' :: rest => do
    let uri := rest.takeWhile isUriChar
    if uri.isEmpty ∨ (rest.drop uri.length).head? ≠ some '>' then none
    else return ([], ← Tag.ofUri? uri, uri.length + 3)
  | '!' :: rest =>
    let word := rest.takeWhile isWordChar
    match rest.drop word.length with
    | '!' :: after => do
      let suffix := after.takeWhile isTagChar
      if suffix.isEmpty then none
      else
        return ('!' :: word ++ ['!'], ← Tag.ofUri? suffix, word.length + suffix.length + 2)
    | _ => do
      let suffix := rest.takeWhile isTagChar
      return (['!'], ← Tag.ofUri? suffix, suffix.length + 1)
  | _ => none

/-- The handle of a tag in a directive. -/
def directiveHandle? (cs : List Char) : Option (List Char) :=
  match cs with
  | '!' :: rest =>
    let word := rest.takeWhile isWordChar
    match rest.drop word.length with
    | '!' :: _ => some ('!' :: word ++ ['!'])
    | _ => if word.isEmpty then some ['!'] else none
  | _ => none

/-- What the handles of tags stand for. -/
abbrev Handles := List (List Char × Tag)

/-- The handles that need no directive. -/
def defaultHandles : Handles :=
  [("!".toList, .ofText "!"), ("!!".toList, .ofText "tag:yaml.org,2002:")]

/-- A tag in full; none where its handle is unknown. An exclamation mark by itself is a tag. -/
def fullTag? (handles : Handles) (handle : List Char) (suffix : Tag) : Option Tag :=
  if handle.isEmpty then some suffix
  else if handle = ['!'] ∧ suffix.isEmpty then some (.ofText "!")
  else (handles.lookup handle).map fun uri => uri ++ suffix

end CodecGen.Yaml
