import CodecGen.Text.Category
import CodecGen.Token.Basic

/-!
# Reading tokens

`Token.front?` reads what stands at the front of a text, the longest run that forms one token, blank
stretch or comment; `Token.scan` reads a whole source that way. `front?_split` says that nothing is
lost on the way.
-/

namespace CodecGen.Token

open CodecGen.Text

/-- The characters that separate tokens within a line. -/
def isGapChar (c : Char) : Bool :=
  c == ' ' || c == '\t' || c == '\r' || c == '\x0c'

/-- The characters an identifier begins with. -/
def isIdentStart (c : Char) : Bool :=
  c == '_' || isLetter c

/-- The characters an identifier goes on with. -/
def isIdentPart (c : Char) : Bool :=
  c == '_' || isLetter c || isNumber c

/-- The characters a number goes on with. -/
def isNumberPart (c : Char) : Bool :=
  c.isAlphanum || c == '_' || c == '.'

/-- The characters that runs of operators are made of; the asterisk stands alone. -/
def isOperatorChar (c : Char) : Bool :=
  "-+/%&|^<>!=:~".toList.contains c

/-- Cut after the end of a block comment, or after all text where it has none. -/
def blockComment : List Char → List Char × List Char
  | [] => ([], [])
  | '*' :: '/' :: rest => (['*', '/'], rest)
  | c :: rest => (c :: (blockComment rest).1, (blockComment rest).2)

/-- Cut after the closing quote of a literal with backslash escapes. A line end, also an escaped
one, and the end of the text leave the literal without a closing quote. -/
def quoted? (quote : Char) : List Char → Option (List Char × List Char)
  | [] => none
  | '\\' :: c :: rest =>
    if c = '\n' then none
    else (quoted? quote rest).map fun p => ('\\' :: c :: p.1, p.2)
  | c :: rest =>
    if c = quote then some ([c], rest)
    else if c = '\n' ∨ c = '\\' then none
    else (quoted? quote rest).map fun p => (c :: p.1, p.2)

/-- Cut after the closing quote of a raw literal, which may span lines. -/
def rawQuoted? : List Char → Option (List Char × List Char)
  | [] => none
  | c :: rest =>
    if c = '\x60' then some ([c], rest) else (rawQuoted? rest).map fun p => (c :: p.1, p.2)

/-- The class of a word. -/
def wordKind (word : List Char) : TokenKind :=
  match Keyword.ofText? (String.ofList word) with
  | some k => .keyword k
  | none => .ident

/-- The class of a run of operator characters. -/
def operatorKind (run : List Char) : TokenKind :=
  if run = ['='] then .assign else if run = ['<', '-'] then .arrow else .operator

/-- The class of a character that is a token by itself. -/
def punctuation? (c : Char) : Option TokenKind :=
  match c with
  | '\n' => some .newline
  | '(' => some .lparen
  | ')' => some .rparen
  | '[' => some .lbracket
  | ']' => some .rbracket
  | '\x7b' => some .lbrace
  | '\x7d' => some .rbrace
  | ',' => some .comma
  | ';' => some .semicolon
  | '.' => some .dot
  | '*' => some .star
  | _ => none

/-- A piece of source text: its class, none where it is skipped, its text, and what follows. -/
abbrev Piece := Option TokenKind × List Char × List Char

/-- The longest run of characters of a class after the first one. -/
def runOf (p : Char → Bool) (kind : List Char → Option TokenKind) (c : Char)
    (rest : List Char) : Piece :=
  (kind (c :: rest.takeWhile p), c :: rest.takeWhile p, rest.dropWhile p)

/-- The piece that is told by its first character alone; none where no piece begins with it. -/
def plain? (c : Char) (rest : List Char) : Option Piece :=
  if isGapChar c then some (runOf isGapChar (fun _ => none) c rest)
  else if isIdentStart c then some (runOf isIdentPart (some ∘ wordKind) c rest)
  else if c.isDigit then some (runOf isNumberPart (fun _ => some .number) c rest)
  else if isOperatorChar c then some (runOf isOperatorChar (some ∘ operatorKind) c rest)
  else if c = '\x60' then (rawQuoted? rest).map fun p => (some .rawString, c :: p.1, p.2)
  else if c = '"' then (quoted? c rest).map fun p => (some .string, c :: p.1, p.2)
  else if c = '\'' then (quoted? c rest).map fun p => (some .rune, c :: p.1, p.2)
  else (punctuation? c).map fun kind => (some kind, [c], rest)

/-- The piece at the front of a text; none where no piece begins with the first character. -/
def front? (source : List Char) : Option Piece :=
  match source with
  | '/' :: '/' :: rest => some (runOf (· ≠ '\n') (fun _ => none) '/' ('/' :: rest))
  | '/' :: '*' :: rest =>
    let (body, after) := blockComment rest
    some (if body.contains '\n' then some .comment else none, '/' :: '*' :: body, after)
  | '.' :: '.' :: '.' :: rest => some (some .ellipsis, ['.', '.', '.'], rest)
  | [] => none
  | c :: rest => plain? c rest

/-- A block comment and what follows it are the text again, whether the comment is closed or not. -/
theorem blockComment_append (cs : List Char) :
    (blockComment cs).1 ++ (blockComment cs).2 = cs := by
  fun_induction blockComment cs with
  | case1 => rfl
  | case2 rest => rfl
  | case3 c rest _ ih => simp [ih]

/-- The body of a literal and what follows it are the text again. -/
theorem quoted?_append {quote : Char} {cs body after : List Char}
    (h : quoted? quote cs = some (body, after)) : body ++ after = cs := by
  fun_induction quoted? quote cs generalizing body after with
  | case1 => simp at h
  | case2 => simp at h
  | case3 c rest _ ih =>
    obtain ⟨⟨b, a⟩, hb, heq⟩ := Option.map_eq_some_iff.1 h
    cases heq
    simp [ih hb]
  | case4 rest =>
    cases h
    rfl
  | case5 => simp at h
  | case6 c rest _ _ _ ih =>
    obtain ⟨⟨b, a⟩, hb, heq⟩ := Option.map_eq_some_iff.1 h
    cases heq
    simp [ih hb]

/-- The body of a raw literal and what follows it are the text again. -/
theorem rawQuoted?_append {cs body after : List Char}
    (h : rawQuoted? cs = some (body, after)) : body ++ after = cs := by
  fun_induction rawQuoted? cs generalizing body after with
  | case1 => simp at h
  | case2 rest =>
    cases h
    rfl
  | case3 c rest _ ih =>
    obtain ⟨⟨b, a⟩, hb, heq⟩ := Option.map_eq_some_iff.1 h
    cases heq
    simp [ih hb]

/-- A piece that its first character tells is not empty, and makes the text up with what follows it.
-/
theorem plain?_split {c : Char} {cs text rest : List Char} {kind : Option TokenKind}
    (h : plain? c cs = some (kind, text, rest)) : text ++ rest = c :: cs ∧ text ≠ [] := by
  have run : ∀ (p : Char → Bool) (k : List Char → Option TokenKind),
      runOf p k c cs = (kind, text, rest) → text ++ rest = c :: cs ∧ text ≠ [] := by
    intro p k hp
    simp only [runOf, Prod.mk.injEq] at hp
    obtain ⟨_, rfl, rfl⟩ := hp
    simp [List.takeWhile_append_dropWhile]
  unfold plain? at h
  split at h
  · exact run _ _ (Option.some.inj h)
  split at h
  · exact run _ _ (Option.some.inj h)
  split at h
  · exact run _ _ (Option.some.inj h)
  split at h
  · exact run _ _ (Option.some.inj h)
  split at h
  · obtain ⟨⟨b, a⟩, hb, heq⟩ := Option.map_eq_some_iff.1 h
    cases heq
    simp [rawQuoted?_append hb]
  split at h
  · obtain ⟨⟨b, a⟩, hb, heq⟩ := Option.map_eq_some_iff.1 h
    cases heq
    simp [quoted?_append hb]
  split at h
  · obtain ⟨⟨b, a⟩, hb, heq⟩ := Option.map_eq_some_iff.1 h
    cases heq
    simp [quoted?_append hb]
  · obtain ⟨k, _, heq⟩ := Option.map_eq_some_iff.1 h
    cases heq
    simp

/-- A piece and what follows it are the text, and a piece is never empty. -/
theorem front?_split {source text rest : List Char} {kind : Option TokenKind}
    (h : front? source = some (kind, text, rest)) : text ++ rest = source ∧ text ≠ [] := by
  unfold front? at h
  split at h
  · simp only [runOf, Option.some.injEq, Prod.mk.injEq] at h
    obtain ⟨_, rfl, rfl⟩ := h
    simp [List.takeWhile_append_dropWhile]
  · rename_i cs
    simp only [Option.some.injEq, Prod.mk.injEq] at h
    obtain ⟨_, rfl, rfl⟩ := h
    simp [blockComment_append]
  · simp only [Option.some.injEq, Prod.mk.injEq] at h
    obtain ⟨_, rfl, rfl⟩ := h
    simp
  · simp at h
  · exact plain?_split h

/-- What follows a piece is shorter than the text, so that reading one piece after another ends. -/
theorem length_lt_of_front? {source text rest : List Char} {kind : Option TokenKind}
    (h : front? source = some (kind, text, rest)) : rest.length < source.length := by
  obtain ⟨rfl, ht⟩ := front?_split h
  have := List.length_pos_iff.mpr ht
  simp only [List.length_append]
  omega

/-- Read tokens from some point of a source on: the line there, and the text skipped just before. -/
def scanFrom (line : Nat) (gap source : List Char) : Except SourceError (List Token) :=
  match h : front? source with
  | some (none, text, rest) =>
    have := length_lt_of_front? h
    scanFrom line (gap ++ text) rest
  | some (some kind, text, rest) =>
    have := length_lt_of_front? h
    return ⟨kind, gap, text, line⟩ :: (← scanFrom (line + text.count '\n') [] rest)
  | none =>
    match source with
    | [] => .ok []
    | c :: _ => .error ⟨line, .character c⟩
termination_by source.length

/-- The tokens of a source, or the first character that none begins with. -/
def scan (source : List Char) : Except SourceError (List Token) :=
  scanFrom 1 [] source

end CodecGen.Token
