import CodecGen.Journal
import CodecGen.Package.Basic
import CodecGen.Text.Basic
import CodecGen.Token.Lexer

/-!
# Reading declarations

Reads the package clause and the type declarations of a source and passes over everything else by
its brackets. Each reader takes the tokens ahead and returns those that it leaves. A type expression
is read by `typeExpr`, whose first argument is the nesting that is still allowed; the forms are
written over a reader `inner` for the expressions inside, which is one level less.

Generic declarations are passed over with a note, and type arguments are dropped from the types
they are given to.
-/

namespace CodecGen

/-- A fault at a token; at the end of the file where it has no line. -/
structure ReadFault where
  /-- The line of the token. -/
  line? : Option Nat
  /-- What is wrong there. -/
  fault : SourceFault
  deriving DecidableEq, Repr, Inhabited

/-- The deepest nesting of type expressions that is read. -/
def maxTypeDepth : Nat := 64

/-- What a reader of declarations answers. -/
abbrev Reading := Logged ReadFault

namespace Reading

variable {α : Type}

/-- A fault at the first of the tokens ahead. -/
def failAt (ts : List Token) (fault : SourceFault) : Reading α :=
  .fail ⟨ts.head?.map Token.line, fault⟩

/-- The first of the tokens ahead is not what was expected. -/
def expected (what : String) (ts : List Token) : Reading α :=
  failAt ts (.expected what (ts.head?.map Token.describe))

end Reading

namespace Package

open Reading

/-- The class of the next token. -/
def next? (ts : List Token) : Option TokenKind :=
  ts.head?.map Token.kind

/-- Pass over one token of the given class, and fail at any other. -/
def expectKind (kind : TokenKind) (what : String) : List Token → Reading (List Token)
  | [] => expected what []
  | t :: ts => if t.kind = kind then pure ts else expected what (t :: ts)

/-- Pass over one token of the given class if it is next. -/
def skipKind (kind : TokenKind) : List Token → List Token
  | [] => []
  | t :: ts => if t.kind = kind then ts else t :: ts

/-- The next token is an identifier. -/
def identifier : List Token → Reading (String × List Token)
  | [] => expected "identifier" []
  | t :: ts => if t.kind = .ident then pure (t.lexeme, ts) else expected "identifier" (t :: ts)

/-- The tokens from the first that separates no statements on. -/
def skipSeparators (ts : List Token) : List Token :=
  ts.dropWhile fun t => t.kind.isSeparator

/-- Pass over a statement up to the separator that ends it outside brackets. `depth` counts the
brackets that are open. -/
def skipStatement (depth : Nat) : List Token → Reading (List Token)
  | [] => if depth = 0 then pure [] else failAt [] .unbalanced
  | t :: ts =>
    if t.kind.opens then skipStatement (depth + 1) ts
    else if t.kind.closes then
      if depth = 0 then expected "declaration" (t :: ts) else skipStatement (depth - 1) ts
    else if depth = 0 ∧ t.kind.isSeparator then pure (t :: ts)
    else skipStatement depth ts

/-- Pass over a bracketed group through the bracket that closes it. `depth` counts the brackets that
are open; the shapes of brackets are not told apart. -/
def skipGroup (depth : Nat) : List Token → Reading (List Token)
  | [] => failAt [] .unbalanced
  | t :: ts =>
    if t.kind.opens then skipGroup (depth + 1) ts
    else if t.kind.closes then if depth ≤ 1 then pure ts else skipGroup (depth - 1) ts
    else skipGroup depth ts

/-- Pass over a group if an opening bracket of the given class is next, and fail otherwise. -/
def expectGroup (kind : TokenKind) (what : String) (ts : List Token) : Reading (List Token) :=
  if next? ts = some kind then skipGroup 0 ts else expected what ts

/-- The brackets ahead hold type parameters, not an array length: a name, and after it what cannot
go on an expression that begins with a name. -/
def atTypeParams (ts : List Token) : Bool :=
  match (ts.take 3).map Token.kind with
  | .lbracket :: .ident :: kind :: _ =>
    match kind with
    | .ident | .comma | .operator | .lbracket => true
    | .keyword .interface | .keyword .func | .keyword .map | .keyword .chan => true
    | _ => false
  | _ => false

/-- A reader of type expressions. -/
abbrev TypeReader := List Token → Reading (GoType × List Token)

/-- A type that is named, from the token of its name on. Type arguments are passed over. -/
def namedType (name : Token) (ts : List Token) : Reading (GoType × List Token) := do
  let (type, ts) ←
    if next? ts = some .dot then do
      let (sel, ts) ← identifier ts.tail
      pure (GoType.qualified name.lexeme sel, ts)
    else pure (.ident name.lexeme, ts)
  if next? ts = some .lbracket then
    let ts ← skipGroup 0 ts
    Logged.note .debug ("line " ++ toString name.line ++ ": ignoring type arguments")
    pure (type, ts)
  else pure (type, ts)

/-- The tokens of an array length and those from its closing bracket on. `depth` counts the brackets
and parentheses that are open. -/
def lengthTokens (depth : Nat) : List Token → Reading (List Token × List Token)
  | [] => failAt [] .unterminatedLength
  | t :: ts =>
    if t.kind = .rbracket ∧ depth = 0 then pure ([], t :: ts)
    else do
      let depth :=
        if t.kind = .lbracket ∨ t.kind = .lparen then depth + 1
        else if t.kind = .rbracket ∨ t.kind = .rparen then depth - 1
        else depth
      let (len, ts) ← lengthTokens depth ts
      pure (t :: len, ts)

/-- A slice or array type, from the token after its opening bracket on. The length is kept as it is
written, without blanks at its ends. -/
def arrayType (inner : TypeReader) (ts : List Token) : Reading (GoType × List Token) := do
  if next? ts = some .rbracket then
    let (elem, ts) ← inner ts.tail
    pure (.array none elem, ts)
  else
    let (len, ts) ← lengthTokens 0 ts
    let (elem, ts) ← inner ts.tail
    pure (.array (some (String.ofList (Text.trim (Token.spanText len)))) elem, ts)

/-- A map type, from the token after its keyword on. -/
def mapType (inner : TypeReader) (ts : List Token) : Reading (GoType × List Token) := do
  let ts ← expectKind .lbracket "`[`" ts
  let (key, ts) ← inner ts
  let ts ← expectKind .rbracket "`]`" ts
  let (value, ts) ← inner ts
  pure (.map key value, ts)

/-- A channel type, from the token that its element type begins with on. -/
def chanType (inner : TypeReader) (ts : List Token) : Reading (GoType × List Token) := do
  let (elem, ts) ← inner ts
  pure (.chan elem, ts)

/-- A class of tokens that a result type begins with; a parenthesis begins a list of results. -/
def beginsResult : TokenKind → Bool
  | .ident | .star | .lbracket | .arrow => true
  | .keyword .map | .keyword .struct | .keyword .interface | .keyword .func
  | .keyword .chan => true
  | _ => false

/-- Pass over the parameters and results of a function type. -/
def skipSignature (inner : TypeReader) (ts : List Token) : Reading (List Token) := do
  let ts ← expectGroup .lparen "`(`" ts
  match next? ts with
  | some .lparen => skipGroup 0 ts
  | some kind =>
    if beginsResult kind then
      let (_, ts) ← inner ts
      pure ts
    else pure ts
  | none => pure ts

mutual

/-- The names of a field after one of them: none, or a comma and more. -/
def namesAfter : List Token → Reading (List String × List Token)
  | [] => pure ([], [])
  | t :: ts => if t.kind = .comma then nameAwaited ts else pure ([], t :: ts)

/-- The names of a field after a comma, which line ends may follow. -/
def nameAwaited : List Token → Reading (List String × List Token)
  | [] => expected "identifier" []
  | t :: ts =>
    if t.kind.isNewline then nameAwaited ts
    else if t.kind = .ident then do
      let (names, ts) ← namesAfter ts
      pure (t.lexeme :: names, ts)
    else expected "identifier" (t :: ts)

end

/-- The field ahead embeds its type: it begins with a pointer, or with a name that nothing follows
which could be its type. -/
def atEmbedded (ts : List Token) : Bool :=
  match (ts.take 2).map Token.kind with
  | .star :: _ => true
  | [.ident] => true
  | .ident :: kind :: _ =>
    match kind with
    | .newline | .comment | .semicolon | .rbrace | .rawString | .string | .dot => true
    | _ => false
  | _ => false

/-- A field of the given names and type, with the tag that may follow. -/
def fieldTag (names : List String) (type : GoType) : List Token → Reading (Field × List Token)
  | [] => pure (⟨names, type, none⟩, [])
  | t :: ts =>
    if t.kind.isStringLiteral then pure (⟨names, type, some t.lexeme⟩, ts)
    else pure (⟨names, type, none⟩, t :: ts)

/-- One line of a struct body. -/
def fieldLine (inner : TypeReader) (ts : List Token) : Reading (Field × List Token) :=
  if atEmbedded ts then do
    let (type, ts) ← inner ts
    fieldTag [] type ts
  else do
    let (name, ts) ← identifier ts
    let (names, ts) ← namesAfter ts
    let (type, ts) ← inner ts
    fieldTag (name :: names) type ts

/-- Pass over the separator after a field; none is needed before the closing brace. -/
def fieldEnd : List Token → Reading (List Token)
  | [] => expected "newline, `;` or `\x7d` after field" []
  | t :: ts =>
    if t.kind.isSeparator then pure ts
    else if t.kind = .rbrace then pure (t :: ts)
    else expected "newline, `;` or `\x7d` after field" (t :: ts)

/-- The fields of a struct through its closing brace. Each takes at least one token, so that as many
turns as there are tokens suffice. -/
def structFields (inner : TypeReader) : Nat → List Token → Reading (List Field × List Token)
  | 0, _ => failAt [] .unterminatedStruct
  | turns + 1, ts =>
    match skipSeparators ts with
    | [] => failAt [] .unterminatedStruct
    | t :: ts =>
      if t.kind = .rbrace then pure ([], ts)
      else do
        let (field, ts) ← fieldLine inner (t :: ts)
        let ts ← fieldEnd ts
        let (fields, ts) ← structFields inner turns ts
        pure (field :: fields, ts)

/-- A struct type, from the token after its keyword on. -/
def structType (inner : TypeReader) (ts : List Token) : Reading (GoType × List Token) := do
  let ts ← expectKind .lbrace "`\x7b`" ts
  let (fields, ts) ← structFields inner (ts.length + 1) ts
  pure (.struct fields, ts)

/-- A type expression whose inner expressions `inner` reads. -/
def typeForm (inner : TypeReader) : TypeReader
  | [] => expected "type" []
  | t :: ts =>
    match t.kind with
    | .ident => namedType t ts
    | .star => do
      let (elem, ts) ← inner ts
      pure (.pointer elem, ts)
    | .lbracket => arrayType inner ts
    | .keyword .map => mapType inner ts
    | .keyword .struct => structType inner ts
    | .keyword .interface => do
      let ts ← expectGroup .lbrace "`\x7b`" ts
      pure (.interface, ts)
    | .keyword .func => do
      let ts ← skipSignature inner ts
      pure (.func, ts)
    | .keyword .chan => chanType inner (skipKind .arrow ts)
    | .arrow => do
      let ts ← expectKind (.keyword .chan) "`chan`" ts
      chanType inner ts
    | .lparen => do
      let (type, ts) ← inner ts
      let ts ← expectKind .rparen "`)`" ts
      pure (type, ts)
    | _ => expected "type" (t :: ts)

/-- A type expression of at most the given nesting. -/
def typeExpr : Nat → TypeReader
  | 0, ts => failAt ts .nesting
  | depth + 1, ts => typeForm (typeExpr depth) ts

/-- One declaration, from its name on; none where it is generic and so dropped. -/
def typeSpec (ts : List Token) : Reading (Option TypeDecl × List Token) := do
  let line := (ts.head?.map Token.line).getD 1
  let (name, ts) ← identifier ts
  if atTypeParams ts then
    let ts ← skipGroup 0 ts
    let (_, ts) ← typeExpr maxTypeDepth (skipKind .assign ts)
    Logged.note .warn ("line " ++ toString line ++ ": dropping generic type `" ++ name ++ "`")
    pure (none, ts)
  else
    let (type, ts) ← typeExpr maxTypeDepth (skipKind .assign ts)
    pure (some ⟨name, type⟩, ts)

/-- The declarations of a group through its closing parenthesis. Each takes at least one token, so
that as many turns as there are tokens suffice. -/
def typeGroup : Nat → List Token → Reading (List TypeDecl × List Token)
  | 0, _ => failAt [] .unterminatedGroup
  | turns + 1, ts =>
    match skipSeparators ts with
    | [] => failAt [] .unterminatedGroup
    | t :: ts =>
      if t.kind = .rparen then pure ([], ts)
      else do
        let (decl, ts) ← typeSpec (t :: ts)
        match next? ts with
        | some kind =>
          if kind.isSeparator ∨ kind = .rparen then
            let (decls, ts) ← typeGroup turns ts
            pure (decl.toList ++ decls, ts)
          else expected "newline or `)`" ts
        | none => expected "newline or `)`" ts

/-- What follows the keyword of a type declaration: a group or a single declaration. -/
def typeDecls (ts : List Token) : Reading (List TypeDecl × List Token) :=
  match ts with
  | t :: rest =>
    if t.kind = .lparen then typeGroup (rest.length + 1) rest
    else do
      let (decl, ts) ← typeSpec ts
      pure (decl.toList, ts)
  | [] => do
    let (decl, ts) ← typeSpec []
    pure (decl.toList, ts)

/-- The type declarations among the statements of a source. Each statement takes at least one token,
so that as many turns as there are tokens suffice. -/
def statements : Nat → List Token → Reading (List TypeDecl)
  | 0, _ => pure []
  | turns + 1, ts =>
    match skipSeparators ts with
    | [] => pure []
    | t :: ts =>
      if t.kind = .keyword .typeDecl then do
        let (decls, ts) ← typeDecls ts
        let more ← statements turns ts
        pure (decls ++ more)
      else do
        let ts ← skipStatement 0 (t :: ts)
        statements turns ts

/-- The package that the tokens of a source declare. -/
def ofTokens (ts : List Token) : Reading Package := do
  let ts ← expectKind (.keyword .package) "package clause" (skipSeparators ts)
  let (name, ts) ← identifier ts
  let decls ← statements (ts.length + 1) ts
  Logged.note .debug ("parsed package " ++ name ++ " with " ++ toString decls.length ++
    " type declarations")
  pure ⟨name, decls⟩

/-- The line that a fault is reported on: at the end of a file, the line of its last token. -/
def locate (ts : List Token) (e : ReadFault) : SourceError :=
  ⟨e.line?.getD ((ts.getLast?.map Token.line).getD 1), e.fault⟩

/-- Read the package clause and the type declarations of a source. -/
def parse (source : String) : Logged SourceError Package := do
  let tokens ← Logged.ofExcept (Token.scan source.toList)
  (ofTokens tokens).mapError (locate tokens)

end Package

end CodecGen
