import CodecGen.Cursor.Basic
import CodecGen.Tag.Pairs

/-!
# Reading tags by positions

The pairs of a tag, read by positions among its bytes. What is read are the pairs that are read from
characters, but here nothing is taken for granted: that a byte which is looked at is there, that
slices are cut out at characters, and that every turn takes a pair. What would break that is a
panic, which ends all reading and is not a fault of the tag.
-/

namespace CodecGen.Tag

open Text (slice?)

/-- The bytes of a text. -/
def bytesOf (cs : List Char) : List UInt8 :=
  cs.flatMap String.utf8EncodeChar

/-- The bytes of keys: those above a space, without a colon, a double quote and the last one of a
single byte. -/
def isKeyByte (b : UInt8) : Bool :=
  0x20 < b && b != 0x3A && b != 0x22 && b != 0x7F

/-- The byte at a position, which has to be one of the text. -/
def readByte (bytes : List UInt8) (i : Nat) : Except Panic UInt8 :=
  match bytes[i]? with
  | some b => .ok b
  | none => .error .index

/-- A slice of a text, which has to be one. -/
def cutText (text : List Char) (start stop : Nat) : Except Panic (List Char) :=
  match slice? text start stop with
  | some cs => .ok cs
  | none => .error .slice

/-- The position after all bytes of a class. -/
def skipBytes (p : UInt8 → Bool) (bytes : List UInt8) (i : Nat) : Except Panic Nat :=
  if i < bytes.length then do
    let b ← readByte bytes i
    if p b then skipBytes p bytes (i + 1) else return i
  else return i
termination_by bytes.length - i

/-- The position of the quote that closes a literal, or one behind the text. A byte after a
backslash is passed over whatever it is. -/
def closingByte (bytes : List UInt8) (i : Nat) : Except Panic Nat :=
  if i < bytes.length then do
    let b ← readByte bytes i
    if b = 0x22 then return i
    else if b = 0x5C then closingByte bytes (i + 2)
    else closingByte bytes (i + 1)
  else return i
termination_by bytes.length - i

/-- The pair whose key lies between two positions, with its value after them, and the position after
the value. -/
def valueAt (text : List Char) (start stop : Nat) :
    Except Panic (Except Fault (Pair × Nat)) := do
  let key ← cutText text start stop
  let close ← closingByte (bytesOf text) (stop + 2)
  if (bytesOf text).length ≤ close then return .error ⟨.value, stop + 1⟩
  else do
    let literal ← cutText text (stop + 1) (close + 1)
    match unquote? literal with
    | none => return .error ⟨.value, stop + 1⟩
    | some value => return .ok (.ofValue key value, close + 1)

/-- The pair that begins at a position, and the position after it. -/
def pairAt (text : List Char) (start : Nat) : Except Panic (Except Fault (Pair × Nat)) := do
  let stop ← skipBytes isKeyByte (bytesOf text) start
  if stop = start then return .error ⟨.key, start⟩
  else if (bytesOf text).length ≤ stop + 1 then return .error ⟨.pair, stop⟩
  else do
    let colon ← readByte (bytesOf text) stop
    let quote ← readByte (bytesOf text) (stop + 1)
    if colon ≠ 0x3A ∨ quote ≠ 0x22 then return .error ⟨.pair, stop⟩
    else valueAt text start stop

/-- The pairs from a position on. Each has to end behind the position, and within the text. -/
def pairsFrom (text : List Char) (i : Nat) : Except Panic (Except Fault (List Pair)) := do
  let start ← skipBytes (· == 0x20) (bytesOf text) i
  if (bytesOf text).length ≤ start then return .ok []
  else do
    match ← pairAt text start with
    | .error e => return .error e
    | .ok (p, next) =>
      if _h : i < next ∧ next ≤ (bytesOf text).length then
        return (← pairsFrom text next).map (p :: ·)
      else throw .stalled
termination_by (bytesOf text).length - i

/-- The pairs of a tag, read by positions. -/
def parseBytes (text : String) : Except Panic (Except Fault (List Pair)) :=
  pairsFrom text.toList 0

end CodecGen.Tag
