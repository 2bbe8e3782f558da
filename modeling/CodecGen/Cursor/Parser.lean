import CodecGen.Cursor.Lexer
import CodecGen.Package.Parser

/-!
# Reading declarations by a cursor

The readers of declarations on a cursor, with a counter for the nesting of type expressions. What
they read is what the readers on lists of tokens read, but here every position, count and slice is
looked at, every loop is watched, and a type expression is read by as many levels of readers as are
foreseen.
-/

namespace CodecGen.Walk

open Text (trim slice?)

section

variable (input : Input)

/-! ## Brackets -/

/-- One turn of passing over a statement, with the number of brackets that are open. -/
def statementTurn (depth : Nat) : Walk (Nat ⊕ Unit) := do
  match ← peek input with
  | none => if 0 < depth then fail input .unbalanced else return .inr ()
  | some t =>
    if t.kind.opens then
      advance input
      return .inl (depth + 1)
    else if t.kind.closes then
      if depth = 0 then unexpected input "declaration"
      else
        let depth ← minus depth 1
        advance input
        return .inl depth
    else if depth = 0 ∧ t.kind.isSeparator then return .inr ()
    else
      advance input
      return .inl depth

/-- Pass over a statement up to the separator that ends it outside brackets. -/
def skipStatement : Walk Unit :=
  loop input (statementTurn input) 0

/-- One turn of passing over a group. The number of open brackets stays at zero there. -/
def groupTurn (depth : Nat) : Walk (Nat ⊕ Unit) := do
  match ← peek input with
  | none => fail input .unbalanced
  | some t =>
    if t.kind.opens then
      advance input
      return .inl (depth + 1)
    else if t.kind.closes then
      advance input
      if depth - 1 = 0 then return .inr () else return .inl (depth - 1)
    else
      advance input
      return .inl depth

/-- Pass over a bracketed group through the bracket that closes it. -/
def skipGroup : Walk Unit :=
  loop input (groupTurn input) 0

/-- Pass over a group if an opening bracket of the given class is next. -/
def expectGroup (kind : TokenKind) (what : String) : Walk Unit := do
  if (← peek input).map Token.kind = some kind then skipGroup input else unexpected input what

/-! ## Type expressions -/

/-- A class of tokens after a name in brackets that makes it a type parameter. -/
def followsParam : TokenKind → Bool
  | .ident | .comma | .operator | .lbracket => true
  | .keyword .interface | .keyword .func | .keyword .map | .keyword .chan => true
  | _ => false

/-- The brackets ahead hold type parameters, not an array length. -/
def atTypeParams : Walk Bool := do
  let bracket ← peek input
  let name ← peekAt input 1
  let next ← peekAt input 2
  return bracket.map Token.kind = some .lbracket && name.map Token.kind = some .ident &&
    next.any fun t => followsParam t.kind

/-- A type that is named, from the token of its name on. -/
def namedType (name : Token) : Walk GoType := do
  let type ←
    if ← eat input .dot then
      let sel ← expectIdent input
      pure (GoType.qualified name.lexeme sel)
    else pure (.ident name.lexeme)
  if (← peek input).map Token.kind = some .lbracket then
    skipGroup input
    return type
  else return type

/-- One turn of passing over the length of an array, with the number of brackets that are open. -/
def lengthTurn (depth : Nat) : Walk (Nat ⊕ Unit) := do
  match ← peek input with
  | none => fail input .unterminatedLength
  | some t =>
    if t.kind = .rbracket ∧ depth = 0 then return .inr ()
    else
      advance input
      if t.kind = .lbracket ∨ t.kind = .lparen then return .inl (depth + 1)
      else if t.kind = .rbracket ∨ t.kind = .rparen then return .inl (depth - 1)
      else return .inl depth

/-- The source from the token at one position to the one just before another. -/
def lengthText (start stop : Nat) : Walk String := do
  let last ← minus stop 1
  match input.tokens[start]?, input.tokens[last]? with
  | some first, some last =>
    if start < stop then
      let text ← ofOption .slice (slice? input.source first.start last.stop)
      return String.ofList (trim text)
    else unexpected input "array length"
  | _, _ => unexpected input "array length"

/-- The length of an array, through the bracket that ends it. -/
def arrayLength : Walk String := do
  let start := (← get).pos
  loop input (lengthTurn input) 0
  let len ← lengthText input start (← get).pos
  advance input
  return len

variable (inner : Walk GoType)

/-- A slice or array type, from the token after its opening bracket on. -/
def arrayType : Walk GoType := do
  if ← eat input .rbracket then return .array none (← inner)
  else
    let len ← arrayLength input
    return .array (some len) (← inner)

/-- A map type, from the token after its keyword on. -/
def mapType : Walk GoType := do
  expect input .lbracket "`[`"
  let key ← inner
  expect input .rbracket "`]`"
  let value ← inner
  return .map key value

/-- Pass over the parameters and results of a function type. -/
def skipSignature : Walk Unit := do
  expectGroup input .lparen "`(`"
  let next ← peek input
  if next.map Token.kind = some .lparen then skipGroup input
  else if next.any fun t => Package.beginsResult t.kind then
    let _ ← inner
    pure ()
  else pure ()

/-! ## Structs -/

/-- A class of tokens that shows that the name before it is an embedded type. -/
def followsEmbedded : TokenKind → Bool
  | .newline | .comment | .semicolon | .rbrace | .rawString | .string | .dot => true
  | _ => false

/-- The field ahead embeds its type. -/
def atEmbedded : Walk Bool := do
  let first ← peek input
  let second ← peekAt input 1
  return first.map Token.kind = some .star ||
    first.map Token.kind = some .ident && second.all fun t => followsEmbedded t.kind

/-- One turn of taking the names of a field: a comma, line ends, and a name. -/
def nameTurn (names : List String) : Walk (List String ⊕ List String) := do
  if ← eat input .comma then
    skipWhile input TokenKind.isNewline
    let name ← expectIdent input
    return .inl (names ++ [name])
  else return .inr names

/-- The tag that may follow a field. -/
def fieldTag : Walk (Option String) := do
  match ← peek input with
  | some t =>
    if t.kind.isStringLiteral then
      advance input
      return some t.lexeme
    else return none
  | none => return none

/-- One line of a struct body. -/
def fieldLine : Walk Field := do
  if ← atEmbedded input then
    let type ← inner
    return ⟨[], type, ← fieldTag input⟩
  else
    let name ← expectIdent input
    let names ← loop input (nameTurn input) [name]
    let type ← inner
    return ⟨names, type, ← fieldTag input⟩

/-- Pass over the separator after a field; none is needed before the closing brace. -/
def fieldEnd : Walk Unit := do
  if (← peek input).any fun t => t.kind.isSeparator then advance input
  else if (← peek input).map Token.kind = some .rbrace then pure ()
  else unexpected input "newline, `;` or `\x7d` after field"

/-- One turn of reading the fields of a struct: a field, or the closing brace. -/
def fieldTurn (fields : List Field) : Walk (List Field ⊕ List Field) := do
  skipWhile input TokenKind.isSeparator
  match ← peek input with
  | none => fail input .unterminatedStruct
  | some t =>
    if t.kind = .rbrace then
      advance input
      return .inr fields
    else
      let field ← fieldLine input inner
      fieldEnd input
      return .inl (fields ++ [field])

/-- A struct type, from the token after its keyword on. -/
def structType : Walk GoType := do
  expect input .lbrace "`\x7b`"
  return .struct (← loop input (fieldTurn input inner) [])

/-- A type expression whose inner expressions `inner` reads. -/
def typeForm : Walk GoType := do
  match ← bump input with
  | none => unexpected input "type"
  | some t =>
    match t.kind with
    | .ident => namedType input t
    | .star => return .pointer (← inner)
    | .lbracket => arrayType input inner
    | .keyword .map => mapType input inner
    | .keyword .struct => structType input inner
    | .keyword .interface =>
      expectGroup input .lbrace "`\x7b`"
      return .interface
    | .keyword .func =>
      skipSignature input inner
      return .func
    | .keyword .chan =>
      let _ ← eat input .arrow
      return .chan (← inner)
    | .arrow =>
      expect input (.keyword .chan) "`chan`"
      return .chan (← inner)
    | .lparen =>
      let type ← inner
      expect input .rparen "`)`"
      return type
    | _ => throw (.fault ⟨t.line, .expected "type" (some t.describe)⟩)

end

section

variable (input : Input)

/-- A type expression, read by as many levels of readers as are given. Past the deepest nesting that
is read there need not be any. -/
def typeExpr : Nat → Walk GoType
  | 0 => do
    if maxTypeDepth ≤ (← get).depth then fail input .nesting else panic .recursion
  | levels + 1 => do
    if maxTypeDepth ≤ (← get).depth then fail input .nesting
    else nested (typeForm input (typeExpr levels))

/-! ## Declarations -/

/-- One declaration after others, from its name on. A generic one is dropped. -/
def typeSpec (decls : List TypeDecl) : Walk (List TypeDecl) := do
  let name ← expectIdent input
  if ← atTypeParams input then
    skipGroup input
    let _ ← eat input .assign
    let _ ← typeExpr input maxTypeDepth
    return decls
  else
    let _ ← eat input .assign
    return decls ++ [⟨name, ← typeExpr input maxTypeDepth⟩]

/-- One turn of reading a group of declarations: a declaration, or the closing parenthesis. -/
def specTurn (decls : List TypeDecl) : Walk (List TypeDecl ⊕ List TypeDecl) := do
  skipWhile input TokenKind.isSeparator
  match ← peek input with
  | none => fail input .unterminatedGroup
  | some t =>
    if t.kind = .rparen then
      advance input
      return .inr decls
    else
      let decls ← typeSpec input decls
      if (← peek input).any fun t => t.kind.isSeparator || t.kind = .rparen then return .inl decls
      else unexpected input "newline or `)`"

/-- What follows the keyword of a type declaration: a group or a single declaration. -/
def typeDecls (decls : List TypeDecl) : Walk (List TypeDecl) := do
  if ← eat input .lparen then loop input (specTurn input) decls else typeSpec input decls

/-- One turn of reading a source: a type declaration, or any other statement. -/
def fileTurn (decls : List TypeDecl) : Walk (List TypeDecl ⊕ List TypeDecl) := do
  skipWhile input TokenKind.isSeparator
  match ← peek input with
  | none => return .inr decls
  | some t =>
    if t.kind = .keyword .typeDecl then
      advance input
      return .inl (← typeDecls input decls)
    else
      skipStatement input
      return .inl decls

/-- The package that a source declares. -/
def file : Walk Package := do
  skipWhile input TokenKind.isSeparator
  expect input (.keyword .package) "package clause"
  let name ← expectIdent input
  return ⟨name, ← loop input (fileTurn input) []⟩

end

/-- Read the package clause and the type declarations of a source. -/
def parse (source : String) : EStateM.Result Crash Cursor Package :=
  match Spanned.scan source.toList with
  | .ok tokens => (file ⟨source.toList, tokens⟩).run ⟨0, 0⟩
  | .error e => .error e ⟨0, 0⟩

end CodecGen.Walk
