import CodecGen.Text.RangeSet

/-!
# TOML strings, numbers and times

Readers for values that have no parts. Each takes the text that begins with the value and returns
what follows it. Of strings the text is kept; numbers and times are only passed over, but must be
well formed and in range.
-/

namespace CodecGen.Toml

/-- A character that may stand in a comment or a string; line ends are none. -/
def isPlain (c : Char) : Bool :=
  c == '\t' || (' ' ≤ c && c != '\x7f')

/-- Pass over spaces and tabs. -/
def skipSpace (cs : List Char) : List Char :=
  cs.dropWhile fun c => c == ' ' || c == '\t'

/-- What follows a line end, if there is one. -/
def lineEnd? : List Char → Option (List Char)
  | '\n' :: rest => some rest
  | '\r' :: '\n' :: rest => some rest
  | _ => none

/-- The character that one letter after a backslash stands for. -/
def escaped? : Char → Option Char
  | 'b' => some '\x08'
  | 't' => some '\t'
  | 'n' => some '\n'
  | 'f' => some '\x0c'
  | 'r' => some '\r'
  | '"' => some '"'
  | '\\' => some '\\'
  | _ => none

/-- The character whose code point a number of digits write, and what follows them. -/
def codePoint? (digits : Nat) (cs : List Char) : Option (Char × List Char) := do
  if cs.length < digits then none
  let n ← (cs.take digits).foldlM
    (fun n c => (Text.RangeSet.hexDigit? c).map (16 * n + ·)) 0
  if n.isValidChar then some (Char.ofNat n, cs.drop digits) else none

/-- What an escape stands for, from the character after the backslash on, and what follows it. -/
def escape? : List Char → Option (Char × List Char)
  | 'u' :: rest => codePoint? 4 rest
  | 'U' :: rest => codePoint? 8 rest
  | c :: rest => (escaped? c).map (·, rest)
  | [] => none

/-- The rest of a string on one line. `escapes` says whether backslashes escape. Each turn reads at
least one character. -/
def lineString? (quote : Char) (escapes : Bool) : Nat → List Char → Option (List Char × List Char)
  | 0, _ => none
  | _ + 1, [] => none
  | turns + 1, c :: rest =>
    if c = quote then some ([], rest)
    else if c = '\\' ∧ escapes then do
      let (c, rest) ← escape? rest
      let (text, rest) ← lineString? quote escapes turns rest
      pure (c :: text, rest)
    else if isPlain c then (lineString? quote escapes turns rest).map fun p => (c :: p.1, p.2)
    else none

/-- Pass over blanks and line ends, in at most some number of turns. -/
def skipLines : Nat → List Char → List Char
  | 0, cs => cs
  | turns + 1, cs =>
    match lineEnd? (skipSpace cs) with
    | some rest => skipLines turns rest
    | none => skipSpace cs

/-- What follows a backslash at the end of a line: the next character that is no blank or line
end. -/
def lineJoin? (cs : List Char) : Option (List Char) :=
  (lineEnd? (skipSpace cs)).map fun rest => skipLines (rest.length + 1) rest

/-- The rest of a string between triple quotes. Of five quotes in a row the first two belong to the
string. Each turn reads at least one character. -/
def linesString? (quote : Char) (escapes : Bool) : Nat → List Char → Option (List Char × List Char)
  | 0, _ => none
  | _ + 1, [] => none
  | turns + 1, c :: rest =>
    if c = quote then
      let run := (rest.takeWhile (· == quote)).length + 1
      if run < 3 then (linesString? quote escapes turns rest).map fun p => (c :: p.1, p.2)
      else if run ≤ 5 then some (List.replicate (run - 3) quote, rest.drop (run - 1))
      else none
    else if c = '\\' ∧ escapes then
      match lineJoin? rest with
      | some rest => linesString? quote escapes turns rest
      | none => do
        let (c, rest) ← escape? rest
        let (text, rest) ← linesString? quote escapes turns rest
        pure (c :: text, rest)
    else
      match lineEnd? (c :: rest) with
      | some rest => (linesString? quote escapes turns rest).map fun p => ('\n' :: p.1, p.2)
      | none =>
        if isPlain c then (linesString? quote escapes turns rest).map fun p => (c :: p.1, p.2)
        else none

/-- A string on one line, from its opening quote on. -/
def lineText? (cs : List Char) : Option (String × List Char) :=
  match cs with
  | '"' :: rest => (lineString? '"' true (rest.length + 1) rest).map fun p => (.ofList p.1, p.2)
  | '\'' :: rest =>
    (lineString? '\'' false (rest.length + 1) rest).map fun p => (.ofList p.1, p.2)
  | _ => none

/-- A string between triple quotes, from the character after them on. A line end that comes first
does not count. -/
def linesText? (quote : Char) (cs : List Char) : Option (String × List Char) :=
  let cs := (lineEnd? cs).getD cs
  (linesString? quote (quote == '"') (cs.length + 1) cs).map fun p => (.ofList p.1, p.2)

/-- A string of any kind. -/
def text? (cs : List Char) : Option (String × List Char) :=
  match cs with
  | '"' :: '"' :: '"' :: rest => linesText? '"' rest
  | '\'' :: '\'' :: '\'' :: rest => linesText? '\'' rest
  | _ => lineText? cs

/-- Digits of a class with single underscores between them; the digits, and what follows them. -/
def digitRun (isDigit : Char → Bool) : List Char → List Char × List Char
  | c :: '_' :: d :: rest =>
    if isDigit c then
      if isDigit d then
        let (ds, after) := digitRun isDigit (d :: rest)
        (c :: ds, after)
      else ([c], '_' :: d :: rest)
    else ([], c :: '_' :: d :: rest)
  | c :: rest =>
    if isDigit c then
      let (ds, after) := digitRun isDigit rest
      (c :: ds, after)
    else ([], c :: rest)
  | [] => ([], [])

/-- The number that digits write in a base. -/
def numeral (base : Nat) (ds : List Char) : Nat :=
  ds.foldl (fun n c => base * n + (Text.RangeSet.hexDigit? c).getD 0) 0

/-- One more than the greatest integer. -/
def integerBound : Nat := 9223372036854775808

/-- A digit in a base of at most sixteen. -/
def isDigitIn (base : Nat) (c : Char) : Bool :=
  (Text.RangeSet.hexDigit? c).any (· < base)

/-- Pass over an integer in a base other than ten, from its first digit on. -/
def basedInteger? (base : Nat) (cs : List Char) : Option (List Char) :=
  let (ds, rest) := digitRun (isDigitIn base) cs
  if ds.isEmpty ∨ integerBound ≤ numeral base ds then none else some rest

/-- An exponent, and what follows it. -/
def exponent? (cs : List Char) : Option (Int × List Char) :=
  match cs with
  | c :: rest =>
    if c = 'e' ∨ c = 'E' then
      let (sign, rest) :=
        match rest with
        | '+' :: rest => (1, rest)
        | '-' :: rest => (-1, rest)
        | rest => (1, rest)
      let (ds, rest) := digitRun Char.isDigit rest
      if ds.isEmpty then none else some (sign * numeral 10 ds, rest)
    else none
  | [] => none

/-- Half a step above the greatest double. -/
def doubleBound : Nat := Nat.pow 2 1024 - Nat.pow 2 970

/-- The number with the given digits, taken as an integer, times a power of ten is nearer to a
double than to infinity. -/
def isDouble (digits : List Char) (power : Int) : Bool :=
  let digits := digits.dropWhile (· == '0')
  let width : Int := digits.length + power
  if digits.isEmpty ∨ width < 309 then true
  else if 309 < width then false
  else numeral 10 digits * Nat.pow 10 power.toNat < doubleBound * Nat.pow 10 (-power).toNat

/-- Pass over an integer or a number with a fraction or an exponent, in base ten. An integer must be
in range, and so must any other number that is not negative. -/
def decimal? (cs : List Char) : Option (List Char) := do
  let (negative, cs) :=
    match cs with
    | '-' :: rest => (true, rest)
    | '+' :: rest => (false, rest)
    | cs => (false, cs)
  match cs with
  | 'i' :: 'n' :: 'f' :: rest => pure rest
  | 'n' :: 'a' :: 'n' :: rest => pure rest
  | _ =>
    let (ds, rest) := digitRun Char.isDigit cs
    let (ds, rest) := if ds.head? = some '0' then (['0'], cs.tail) else (ds, rest)
    if ds.isEmpty then none
    let (fs, rest) ←
      match rest with
      | '.' :: after =>
        let (fs, after) := digitRun Char.isDigit after
        if fs.isEmpty then none else pure (fs, after)
      | _ => pure ([], rest)
    if rest.head? = some 'e' ∨ rest.head? = some 'E' then
      let (power, rest) ← exponent? rest
      if negative ∨ isDouble (ds ++ fs) (power - fs.length) then pure rest else none
    else if !fs.isEmpty then
      if negative ∨ isDouble (ds ++ fs) (-fs.length) then pure rest else none
    else
      let n := numeral 10 ds
      if n < integerBound ∨ (negative ∧ n = integerBound) then pure rest else none

/-- A number of a fixed count of decimal digits within bounds, and what follows it. -/
def fixed? (count least most : Nat) (cs : List Char) : Option (Nat × List Char) :=
  let ds := cs.take count
  let n := numeral 10 ds
  if ds.length = count ∧ ds.all Char.isDigit ∧ least ≤ n ∧ n ≤ most then some (n, cs.drop count)
  else none

/-- What follows a character, if the text begins with it. -/
def after? (c : Char) (cs : List Char) : Option (List Char) :=
  if cs.head? = some c then some cs.tail else none

/-- The number of days of a month. -/
def daysIn (year month : Nat) : Nat :=
  if month = 2 then
    if (year % 4 = 0 ∧ year % 100 ≠ 0) ∨ year % 400 = 0 then 29 else 28
  else if month = 4 ∨ month = 6 ∨ month = 9 ∨ month = 11 then 30
  else 31

/-- Pass over a date. -/
def date? (cs : List Char) : Option (List Char) := do
  let (year, cs) ← fixed? 4 0 9999 cs
  let (month, cs) ← fixed? 2 1 12 (← after? '-' cs)
  let (_, cs) ← fixed? 2 1 (daysIn year month) (← after? '-' cs)
  pure cs

/-- Pass over a time of day. -/
def clock? (cs : List Char) : Option (List Char) := do
  let (_, cs) ← fixed? 2 0 23 cs
  let (_, cs) ← fixed? 2 0 59 (← after? ':' cs)
  let (_, cs) ← fixed? 2 0 60 (← after? ':' cs)
  match cs with
  | '.' :: rest =>
    if (rest.takeWhile Char.isDigit).isEmpty then none else pure (rest.dropWhile Char.isDigit)
  | _ => pure cs

/-- Pass over an offset from universal time, if there is one. -/
def offset? (cs : List Char) : Option (List Char) :=
  match cs with
  | 'Z' :: rest => some rest
  | 'z' :: rest => some rest
  | c :: rest =>
    if c = '+' ∨ c = '-' then do
      let (_, rest) ← fixed? 2 0 23 rest
      let (_, rest) ← fixed? 2 0 59 (← after? ':' rest)
      pure rest
    else some cs
  | [] => some cs

/-- The text begins with a number of digits and then a character. -/
def beginsTime (count : Nat) (c : Char) (cs : List Char) : Bool :=
  (cs.take count).length == count && (cs.take count).all Char.isDigit &&
    (cs.drop count).head? == some c

/-- Pass over a date, a time of day, or both. -/
def time? (cs : List Char) : Option (List Char) := do
  if beginsTime 2 ':' cs then clock? cs
  else
    let rest ← date? cs
    match rest with
    | c :: after =>
      if c = 'T' ∨ c = 't' ∨ (c = ' ' ∧ beginsTime 2 ':' after) then offset? (← clock? after)
      else pure rest
    | [] => pure rest

/-- Pass over a boolean, a number or a time. -/
def scalar? (cs : List Char) : Option (List Char) :=
  match cs with
  | 't' :: 'r' :: 'u' :: 'e' :: rest => some rest
  | 'f' :: 'a' :: 'l' :: 's' :: 'e' :: rest => some rest
  | '0' :: 'x' :: rest => basedInteger? 16 rest
  | '0' :: 'o' :: rest => basedInteger? 8 rest
  | '0' :: 'b' :: rest => basedInteger? 2 rest
  | _ => if beginsTime 4 '-' cs || beginsTime 2 ':' cs then time? cs else decimal? cs

end CodecGen.Toml
