/-!
# Tokens

The tokens of source text. A token keeps the text it was read from and the blanks and comments
skipped before it, so that tokens in a row are the source again.
-/

namespace CodecGen

/-- The words that are not identifiers. -/
inductive Keyword where
  | package
  | importDecl
  | typeDecl
  | struct
  | map
  | interface
  | func
  | chan
  | constDecl
  | varDecl
  deriving DecidableEq, Repr, Inhabited

namespace Keyword

/-- The keyword that a word is, if any. -/
def ofText? (word : String) : Option Keyword :=
  match word with
  | "package" => some package
  | "import" => some importDecl
  | "type" => some typeDecl
  | "struct" => some struct
  | "map" => some map
  | "interface" => some interface
  | "func" => some func
  | "chan" => some chan
  | "const" => some constDecl
  | "var" => some varDecl
  | _ => none

/-- The name of a keyword in messages. -/
def label : Keyword → String
  | package => "Package"
  | importDecl => "Import"
  | typeDecl => "Type"
  | struct => "Struct"
  | map => "Map"
  | interface => "Interface"
  | func => "Func"
  | chan => "Chan"
  | constDecl => "Const"
  | varDecl => "Var"

end Keyword

/-- The classes of token. -/
inductive TokenKind where
  | newline
  /-- A block comment that spans lines. -/
  | comment
  | keyword (word : Keyword)
  | ident
  | number
  | rawString
  | string
  | rune
  | lparen
  | rparen
  | lbracket
  | rbracket
  | lbrace
  | rbrace
  | comma
  | semicolon
  | dot
  | ellipsis
  | star
  | assign
  | arrow
  /-- Any other run of operator characters. -/
  | operator
  deriving DecidableEq, Repr, Inhabited

namespace TokenKind

/-- A line end, or a comment that stands for one. -/
def isNewline : TokenKind → Bool
  | newline | comment => true
  | _ => false

/-- What ends a statement: a line end or a semicolon. -/
def isSeparator : TokenKind → Bool
  | newline | comment | semicolon => true
  | _ => false

/-- An opening bracket of any shape. -/
def opens : TokenKind → Bool
  | lparen | lbracket | lbrace => true
  | _ => false

/-- A closing bracket of any shape. -/
def closes : TokenKind → Bool
  | rparen | rbracket | rbrace => true
  | _ => false

/-- A string literal, raw or interpreted. -/
def isStringLiteral : TokenKind → Bool
  | rawString | string => true
  | _ => false

/-- The name of a class of tokens in messages. -/
def label : TokenKind → String
  | newline | comment => "newline"
  | keyword word => word.label
  | ident => "identifier"
  | number => "Number"
  | rawString | string => "string literal"
  | rune => "Rune"
  | lparen => "LParen"
  | rparen => "RParen"
  | lbracket => "LBracket"
  | rbracket => "RBracket"
  | lbrace => "LBrace"
  | rbrace => "RBrace"
  | comma => "Comma"
  | semicolon => "Semi"
  | dot => "Dot"
  | ellipsis => "Ellipsis"
  | star => "Star"
  | assign => "Assign"
  | arrow => "Arrow"
  | operator => "Op"

end TokenKind

/-- A token with the place it was read at. -/
structure Token where
  /-- Its class. -/
  kind : TokenKind
  /-- The blanks and comments skipped just before it. -/
  gap : List Char
  /-- The text it was read from. -/
  text : List Char
  /-- The line it begins on, counted from one. -/
  line : Nat
  deriving DecidableEq, Repr, Inhabited

namespace Token

/-- The text of a token as a string. -/
def lexeme (t : Token) : String :=
  String.ofList t.text

/-- How messages speak of a token. -/
def describe (t : Token) : String :=
  if t.kind = .ident then "identifier `" ++ t.lexeme ++ "`" else t.kind.label

/-- The stretch of source from the first to the last of some tokens in a row. -/
def spanText : List Token → List Char
  | [] => []
  | t :: ts => t.text ++ ts.flatMap fun u => u.gap ++ u.text

/-- The source that tokens in a row were read from, from the gap before the first. -/
def source (ts : List Token) : List Char :=
  ts.flatMap fun t => t.gap ++ t.text

end Token

/-- What can be wrong with source text. -/
inductive SourceFault where
  /-- No token begins with this character. -/
  | character (c : Char)
  /-- Something else was expected than the token found; nothing was found at the end of the file. -/
  | expected (what : String) (found : Option String)
  | unbalanced
  | unterminatedGroup
  | unterminatedStruct
  | unterminatedLength
  | nesting
  deriving DecidableEq, Repr, Inhabited

/-- What is wrong, in words. -/
def SourceFault.text : SourceFault → String
  | .character c => "unexpected character `" ++ String.ofList [c] ++ "`"
  | .expected what found => "expected " ++ what ++ ", found " ++ found.getD "end of file"
  | .unbalanced => "unbalanced brackets at end of file"
  | .unterminatedGroup => "unterminated type group"
  | .unterminatedStruct => "unterminated struct"
  | .unterminatedLength => "unterminated array length"
  | .nesting => "type expression nested too deeply"

/-- A fault of source text with the line it was found on. -/
structure SourceError where
  /-- The line, counted from one. -/
  line : Nat
  /-- What is wrong there. -/
  fault : SourceFault
  deriving DecidableEq, Repr, Inhabited

/-- The message for a fault of source text. -/
def SourceError.message (e : SourceError) : String :=
  "line " ++ toString e.line ++ ": " ++ e.fault.text

end CodecGen
