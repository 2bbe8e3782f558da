import CodecGen.Toml.Basic
import CodecGen.Toml.Scalar

/-!
# TOML documents

`Toml.ofText?` reads a document line by line: blank lines, headers of tables, and keys with values.
Text that is not well formed has no reading, and neither has a document that defines anything twice.
-/

namespace CodecGen.Toml

/-- The deepest nesting of arrays and inline tables, and the most parts of a key. -/
def maxDepth : Nat := 79

/-- Pass over a comment, if there is one, up to the end of its line. -/
def skipComment (cs : List Char) : List Char :=
  match cs with
  | '#' :: rest => rest.dropWhile isPlain
  | _ => cs

/-- Pass over blanks, comments and line ends, in at most some number of turns. -/
def skipAll : Nat → List Char → List Char
  | 0, cs => cs
  | turns + 1, cs =>
    match lineEnd? (skipComment (skipSpace cs)) with
    | some rest => skipAll turns rest
    | none => skipSpace cs

/-- A character of a key without quotes. -/
def isKeyChar (c : Char) : Bool :=
  c.isAlphanum || c == '_' || c == '-'

/-- One part of a key, and what follows it. -/
def keyPart? (cs : List Char) : Option (String × List Char) :=
  match cs with
  | '"' :: _ => lineText? cs
  | '\'' :: _ => lineText? cs
  | _ =>
    let word := cs.takeWhile isKeyChar
    if word.isEmpty then none else some (String.ofList word, cs.dropWhile isKeyChar)

/-- The parts of a key with dots between them, and what follows it, blanks apart. -/
def key? : Nat → List Char → Option (List String × List Char)
  | 0, _ => none
  | depth + 1, cs => do
    let (part, rest) ← keyPart? (skipSpace cs)
    match skipSpace rest with
    | '.' :: rest => do
      let (parts, rest) ← key? depth rest
      pure (part :: parts, rest)
    | rest => pure ([part], rest)

/-- Add an entry under the parts of a key. -/
def addUnder? (key : List String) (v : Toml) (es : Entries) : Option Entries := do
  addDotted? key.dropLast (← key.getLast?) v es

/-- The items of an array from some point on, by a reader for items. Each turn reads at least one
character. -/
def items? (item : List Char → Option (Toml × List Char)) :
    Nat → List Char → Option (List Toml × List Char)
  | 0, _ => none
  | turns + 1, cs =>
    match skipAll (cs.length + 1) cs with
    | ']' :: rest => some ([], rest)
    | cs => do
      let (v, rest) ← item cs
      match skipAll (rest.length + 1) rest with
      | ',' :: rest => do
        let (vs, rest) ← items? item turns rest
        pure (v :: vs, rest)
      | ']' :: rest => pure ([v], rest)
      | _ => none

/-- The entries of an inline table from some point on, by a reader for values. Each turn reads at
least one character. -/
def inlineEntries? (item : List Char → Option (Toml × List Char)) :
    Nat → Entries → List Char → Option (Entries × List Char)
  | 0, _, _ => none
  | turns + 1, es, cs => do
    let (key, rest) ← key? maxDepth cs
    let (v, rest) ← item (skipSpace (← after? '=' rest))
    let es ← addUnder? key v es
    match skipSpace rest with
    | ',' :: rest => inlineEntries? item turns es rest
    | '\x7d' :: rest => pure (es, rest)
    | _ => none

/-- A value whose arrays and inline tables are nested at most to the given depth. -/
def value? : Nat → List Char → Option (Toml × List Char)
  | depth, cs =>
    match cs with
    | '"' :: _ => (text? cs).map fun p => (.string p.1, p.2)
    | '\'' :: _ => (text? cs).map fun p => (.string p.1, p.2)
    | '[' :: rest =>
      match depth with
      | 0 => none
      | depth + 1 =>
        (items? (value? depth) (rest.length + 1) rest).map fun p => (.array p.1, p.2)
    | '\x7b' :: rest =>
      match depth with
      | 0 => none
      | depth + 1 =>
        match skipSpace rest with
        | '\x7d' :: rest => some (.table .inline [], rest)
        | rest =>
          (inlineEntries? (value? depth) (rest.length + 1) [] rest).map fun p =>
            (.table .inline p.1, p.2)
    | _ => (scalar? cs).map (Toml.scalar, ·)

/-- What has been read of a document. -/
structure Progress where
  /-- The table of the whole document. -/
  root : Entries
  /-- The key of the last header. -/
  header : List String

/-- A header, from its opening bracket on. -/
def header? (p : Progress) (cs : List Char) : Option (Progress × List Char) := do
  let begin? (begin : String → Entries → Option Entries) (key : List String) : Option Progress := do
    let name ← key.getLast?
    pure ⟨← within? key.dropLast (begin name) p.root, key⟩
  match cs with
  | '[' :: '[' :: rest =>
    let (key, rest) ← key? maxDepth rest
    pure (← begin? beginTables? key, ← after? ']' (← after? ']' rest))
  | '[' :: rest =>
    let (key, rest) ← key? maxDepth rest
    pure (← begin? beginTable? key, ← after? ']' rest)
  | _ => none

/-- A key with its value. -/
def keyValue? (p : Progress) (cs : List Char) : Option (Progress × List Char) := do
  let (key, rest) ← key? maxDepth cs
  let (v, rest) ← value? maxDepth (skipSpace (← after? '=' rest))
  pure ({ p with root := ← within? p.header (addUnder? key v) p.root }, rest)

/-- Read a document from the start of some line on. -/
def readFrom? : Nat → Progress → List Char → Option Entries
  | 0, _, _ => none
  | turns + 1, p, cs => do
    let cs := skipSpace cs
    let (p, rest) ←
      match cs with
      | [] | '#' :: _ | '\n' :: _ | '\r' :: _ => some (p, cs)
      | '[' :: _ => header? p cs
      | _ => keyValue? p cs
    match skipComment (skipSpace rest) with
    | [] => pure p.root
    | rest => readFrom? turns p (← lineEnd? rest)

/-- The entries of the document with the given text. A byte order mark may come first. -/
def ofText? (text : String) : Option Entries :=
  let cs := text.toList
  let cs := if cs.head? = some (Char.ofNat 0xFEFF) then cs.tail else cs
  readFrom? (cs.length + 1) ⟨[], []⟩ cs

end CodecGen.Toml
