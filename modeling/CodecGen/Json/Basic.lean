import CodecGen.Text.RangeSet

/-!
# JSON

JSON values and their text. `Json.ofText?` reads a value and nothing else, blanks apart. Strings
whose escapes name half a surrogate pair are well formed, but have no text; numbers are told from
other values, and their amount is not kept.
-/

namespace CodecGen

/-- A JSON value. -/
inductive Json where
  | null
  | bool (b : Bool)
  | number
  /-- A string, with its text if it has one. -/
  | string (text : Option String)
  | array (items : List Json)
  | object (members : List (Option String × Json))
  deriving Repr, Inhabited

namespace Json

/-- The blanks between the parts of a JSON text. -/
def isGap (c : Char) : Bool :=
  c == ' ' || c == '\t' || c == '\n' || c == '\r'

/-- Pass over blanks. -/
def skipGap (cs : List Char) : List Char :=
  cs.dropWhile isGap

/-- Four hexadecimal digits as a number, and what follows them. -/
def hex4? : List Char → Option (Nat × List Char)
  | a :: b :: c :: d :: rest =>
    ([a, b, c, d].foldlM (fun n c => (Text.RangeSet.hexDigit? c).map (16 * n + ·)) 0).map (·, rest)
  | _ => none

/-- The character that one letter after a backslash stands for. -/
def escaped? : Char → Option Char
  | '"' => some '"'
  | '\\' => some '\\'
  | '/' => some '/'
  | 'b' => some '\x08'
  | 'f' => some '\x0c'
  | 'n' => some '\n'
  | 'r' => some '\r'
  | 't' => some '\t'
  | _ => none

/-- The number is the first half of a surrogate pair. -/
def isLeading (n : Nat) : Bool :=
  0xD800 ≤ n && n < 0xDC00

/-- The number is the second half of a surrogate pair. -/
def isTrailing (n : Nat) : Bool :=
  0xDC00 ≤ n && n < 0xE000

/-- The second half of a surrogate pair that a text begins with, and what follows it. -/
def trailing? : List Char → Option (Nat × List Char)
  | '\\' :: 'u' :: rest => (hex4? rest).filter fun p => isTrailing p.1
  | _ => none

/-- What an escape by number stands for, if it is a character, and what follows it. A pair of
surrogates is taken together. -/
def codeEscape? (cs : List Char) : Option (Option Char × List Char) := do
  let (n, rest) ← hex4? cs
  if isLeading n then
    match trailing? rest with
    | some (m, rest) =>
      pure (some (Char.ofNat (0x10000 + (n - 0xD800) * 0x400 + (m - 0xDC00))), rest)
    | none => pure (none, rest)
  else if isTrailing n then pure (none, rest)
  else pure (some (Char.ofNat n), rest)

/-- The next character of a string, or that it stands for none, and what follows it. -/
def stringChar? : List Char → Option (Option Char × List Char)
  | [] => none
  | '\\' :: 'u' :: rest => codeEscape? rest
  | '\\' :: c :: rest => (escaped? c).map fun c => (some c, rest)
  | c :: rest => if c.val < 0x20 ∨ c = '\\' then none else some (some c, rest)

/-- The text of a string from some point on, if it has one, and what follows its closing quote. Each
turn reads at least one character. -/
def stringEnd? : Nat → List Char → Option (Option (List Char) × List Char)
  | 0, _ => none
  | _ + 1, '"' :: rest => some (some [], rest)
  | turns + 1, cs => do
    let (c, rest) ← stringChar? cs
    let (text, rest) ← stringEnd? turns rest
    pure ((do pure ((← c) :: (← text))), rest)

/-- A string, from the character after its opening quote on. -/
def string? (cs : List Char) : Option (Option String × List Char) :=
  (stringEnd? (cs.length + 1) cs).map fun p => (p.1.map String.ofList, p.2)

/-- Pass over at least one digit. -/
def digits? (cs : List Char) : Option (List Char) :=
  if (cs.takeWhile Char.isDigit).isEmpty then none else some (cs.dropWhile Char.isDigit)

/-- Pass over the digits before the point; a zero stands alone. -/
def wholePart? : List Char → Option (List Char)
  | '0' :: rest => some rest
  | cs => digits? cs

/-- Pass over a point and digits, if there is a point. -/
def fraction? : List Char → Option (List Char)
  | '.' :: rest => digits? rest
  | cs => some cs

/-- Pass over a sign, if there is one. -/
def skipSign : List Char → List Char
  | '+' :: rest => rest
  | '-' :: rest => rest
  | cs => cs

/-- Pass over an exponent, if there is one. -/
def exponent? : List Char → Option (List Char)
  | 'e' :: rest => digits? (skipSign rest)
  | 'E' :: rest => digits? (skipSign rest)
  | cs => some cs

/-- Pass over a number. -/
def number? (cs : List Char) : Option (List Char) := do
  let cs :=
    match cs with
    | '-' :: rest => rest
    | cs => cs
  exponent? (← fraction? (← wholePart? cs))

mutual

/-- A value at the front of a text, and what follows it. The first argument bounds the number of
steps; two for each character are enough. -/
def value? : Nat → List Char → Option (Json × List Char)
  | 0, _ => none
  | steps + 1, cs =>
    match skipGap cs with
    | 'n' :: 'u' :: 'l' :: 'l' :: rest => some (.null, rest)
    | 't' :: 'r' :: 'u' :: 'e' :: rest => some (.bool true, rest)
    | 'f' :: 'a' :: 'l' :: 's' :: 'e' :: rest => some (.bool false, rest)
    | '"' :: rest => (string? rest).map fun p => (.string p.1, p.2)
    | '[' :: rest =>
      match skipGap rest with
      | ']' :: rest => some (.array [], rest)
      | rest => (items? steps rest).map fun p => (.array p.1, p.2)
    | '\x7b' :: rest =>
      match skipGap rest with
      | '\x7d' :: rest => some (.object [], rest)
      | rest => (members? steps rest).map fun p => (.object p.1, p.2)
    | cs => (number? cs).map fun rest => (.number, rest)

/-- The items of an array through its closing bracket, one at least. -/
def items? : Nat → List Char → Option (List Json × List Char)
  | 0, _ => none
  | steps + 1, cs => do
    let (v, rest) ← value? steps cs
    match skipGap rest with
    | ']' :: rest => pure ([v], rest)
    | ',' :: rest =>
      let (vs, rest) ← items? steps rest
      pure (v :: vs, rest)
    | _ => none

/-- The members of an object through its closing brace, one at least. -/
def members? : Nat → List Char → Option (List (Option String × Json) × List Char)
  | 0, _ => none
  | steps + 1, cs => do
    match skipGap cs with
    | '"' :: rest =>
      let (key, rest) ← string? rest
      match skipGap rest with
      | ':' :: rest =>
        let (v, rest) ← value? steps rest
        match skipGap rest with
        | '\x7d' :: rest => pure ([(key, v)], rest)
        | ',' :: rest =>
          let (ms, rest) ← members? steps rest
          pure ((key, v) :: ms, rest)
        | _ => none
      | _ => none
    | _ => none

end

/-- The value that a text writes. -/
def ofText? (text : String) : Option Json :=
  match value? (2 * text.length + 1) text.toList with
  | some (v, rest) => if (skipGap rest).isEmpty then some v else none
  | none => none

end Json

end CodecGen
