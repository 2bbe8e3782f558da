import CodecGen.Text.Basic
import CodecGen.Token.Basic

/-!
# Cursors on tokens

A cursor on the tokens of a source, and what can be done with it. Nothing is taken for granted here:
that positions stay in range, that counts do not go below zero, that slices are cut at characters,
and that every turn of a loop takes a token. What would break that is a panic, and ends all reading
just as a fault of the source does, but is not one.
-/

namespace CodecGen

/-- What must not happen while a source is read. -/
inductive Panic where
  /-- The cursor is moved past the last token. -/
  | index
  /-- A count goes below zero. -/
  | underflow
  /-- Text is cut past its end, or within a character. -/
  | slice
  /-- A loop goes on after a turn that took no token. -/
  | stalled
  /-- More type expressions stand in each other than levels were foreseen. -/
  | recursion
  /-- The nesting counter is left changed. -/
  | nesting
  deriving DecidableEq, Repr, Inhabited

/-- Why reading ends before its time. -/
inductive Crash where
  /-- Something is wrong with the source. -/
  | fault (e : SourceError)
  /-- Something is wrong with the reader. -/
  | panic (p : Panic)
  deriving DecidableEq, Repr, Inhabited

/-- A token with the positions in its source, in bytes, that it begins and ends at. -/
structure Spanned where
  /-- The token. -/
  token : Token
  /-- Where it begins. -/
  start : Nat
  /-- Where it ends. -/
  stop : Nat
  deriving DecidableEq, Repr, Inhabited

/-- A source with its tokens. -/
structure Input where
  /-- The text of the source. -/
  source : List Char
  /-- The tokens. -/
  tokens : List Spanned
  deriving Repr, Inhabited

/-- Where a reader is. -/
structure Cursor where
  /-- The position among the tokens. -/
  pos : Nat
  /-- How many type expressions stand around it. -/
  depth : Nat
  deriving DecidableEq, Repr, Inhabited

/-- The cursor with the nesting counter one higher. -/
def Cursor.deeper (c : Cursor) : Cursor :=
  { c with depth := c.depth + 1 }

/-- A reader that moves a cursor. Where it ends is known also when it crashes. -/
abbrev Walk := EStateM Crash Cursor

namespace Walk

variable {α σ : Type}

/-- Something that must not happen happened. -/
def panic (p : Panic) : Walk α :=
  throw (.panic p)

/-- What there is, or a panic. -/
def ofOption (p : Panic) : Option α → Walk α
  | some a => pure a
  | none => panic p

/-- A count without some of it. -/
def minus (n m : Nat) : Walk Nat :=
  if m ≤ n then pure (n - m) else panic .underflow

/-- Read with the nesting counter one higher. The counter goes back also after a fault. -/
def nested (x : Walk α) : Walk α := fun c =>
  match x.run c.deeper with
  | .ok a c' =>
    if c'.depth = c.deeper.depth then .ok a { c' with depth := c'.depth - 1 }
    else .error (.panic .nesting) c'
  | .error e c' =>
    if c'.depth = c.deeper.depth then .error e { c' with depth := c'.depth - 1 }
    else .error (.panic .nesting) c'

section

variable (input : Input)

/-- The token some places ahead. -/
def peekAt (n : Nat) : Walk (Option Token) := do
  let c ← get
  return input.tokens[c.pos + n]?.map Spanned.token

/-- The next token. -/
def peek : Walk (Option Token) :=
  peekAt input 0

/-- Move past the next token. -/
def advance : Walk Unit := do
  let c ← get
  if c.pos < input.tokens.length then set { c with pos := c.pos + 1 } else panic .index

/-- Take the next token, if there is one. -/
def bump : Walk (Option Token) := do
  match ← peek input with
  | some t =>
    advance input
    return some t
  | none => return none

/-- The line of the next token; at the end of the source, of the last one. -/
def line : Walk Nat := do
  match ← peek input with
  | some t => return t.line
  | none => return (input.tokens.getLast?.map fun s => s.token.line).getD 1

/-- A fault at the next token. -/
def fail (fault : SourceFault) : Walk α := do
  throw (.fault ⟨← line input, fault⟩)

/-- The next token is not what was expected. -/
def unexpected (what : String) : Walk α := do
  fail input (.expected what ((← peek input).map Token.describe))

/-- Move past the next token if it is of the given class. -/
def eat (kind : TokenKind) : Walk Bool := do
  if (← peek input).map Token.kind = some kind then
    advance input
    return true
  else return false

/-- Move past the next token, which has to be of the given class. -/
def expect (kind : TokenKind) (what : String) : Walk Unit := do
  if ← eat input kind then pure () else unexpected input what

/-- The name that comes next. -/
def expectIdent : Walk String := do
  match ← peek input with
  | some t =>
    if t.kind = .ident then
      advance input
      return t.lexeme
    else unexpected input "identifier"
  | none => unexpected input "identifier"

/-- Take turns until one ends the loop. Each turn before that has to take a token, and none can go
past the last. -/
def loop (turn : σ → Walk (σ ⊕ α)) (x : σ) : Walk α := fun c =>
  match (turn x).run c with
  | .error e c' => .error e c'
  | .ok (.inr a) c' => .ok a c'
  | .ok (.inl y) c' =>
    if c.pos < c'.pos ∧ c'.pos ≤ input.tokens.length then loop turn y c'
    else .error (.panic .stalled) c'
termination_by c => input.tokens.length - c.pos

/-- Move past all tokens of some classes. -/
def skipWhile (p : TokenKind → Bool) : Walk Unit :=
  loop input (fun () => do
    if (← peek input).any fun t => p t.kind then
      advance input
      return .inl ()
    else return .inr ()) ()

end

end Walk

end CodecGen
