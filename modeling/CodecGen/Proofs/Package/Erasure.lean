import CodecGen.Proofs.Cursor.Lexer
import CodecGen.Proofs.Package.Instances
import CodecGen.Proofs.Package.Names
import CodecGen.Proofs.Token.Insertion

/-!
# Type arguments are erased

A source stays readable when type arguments are written after the named types in it, and is read as
the same package (`parse_erases_arguments`). A name that is embedded by itself is the exception:
with type arguments it is taken for the name of a field, and refused
(`fieldLine_refuses_arguments`).
-/

namespace CodecGen.Package

open Logged (result_bind_of_ok)

/-! ## Other lines -/

/-- Whether brackets balance does not depend on the lines that tokens are on. -/
theorem Balanced.sameText {flat : Bool} {ts ts' : List Token} (h : Balanced flat ts)
    (hsame : List.Forall₂ Token.SameText ts ts') : Balanced flat ts' := by
  induction h generalizing ts' with
  | nil =>
    cases hsame
    exact .nil
  | cons hopen hclose hflat _ ih =>
    cases hsame with
    | cons ht hts =>
      rw [ht.kind] at hopen hclose hflat
      exact .cons hopen hclose hflat (ih hts)
  | group hl hr _ _ ihinside ih =>
    cases hsame with
    | cons hl' htail =>
      obtain ⟨inside', back', rfl, hinside, hback⟩ := Token.exists_append_of_sameText htail
      cases hback with
      | cons hr' hts =>
        rw [hl'.kind] at hl
        rw [hr'.kind] at hr
        exact .group hl hr (ihinside hinside) (ih hts)

/-- Type arguments on other lines are type arguments. -/
theorem Arguments.sameText {row row' : List Token} (h : Arguments row)
    (hsame : List.Forall₂ Token.SameText row row') : Arguments row' := by
  cases h with
  | intro hl hinside hr =>
    cases hsame with
    | cons hl' htail =>
      obtain ⟨inside', last, rfl, hinside', hlast⟩ := Token.exists_append_of_sameText htail
      cases hlast with
      | cons hr' hnil =>
        cases hnil
        exact .intro (hl'.kind.symm.trans hl) (hinside.sameText hinside') (hr'.kind.symm.trans hr)

/-! ## Text put in at places -/

/-- The text of a list of type arguments: a balanced row in square brackets, on one line. -/
def IsArguments (text : List Char) : Prop :=
  ∃ row, Token.Bracketed text row ∧ Arguments row

/-- A row of arguments that is laid out on one line is their text. -/
theorem isArguments_of_laid {row : List Token} (hlaid : Token.Laid 1 [] row)
    (hline : '\n' ∉ Token.source row) (hopens : (Token.source row).head? = some '[')
    (hrow : Arguments row) : IsArguments (Token.source row) := by
  have hscan := Token.scan_source hlaid
  rw [List.append_nil] at hscan
  refine ⟨row, ⟨hline, hopens, hscan, rfl, ?_⟩, hrow⟩
  cases hrow with
  | @intro l r inside _ _ hr => exact ⟨l :: inside, r, rfl, hr⟩

/-- The source of tokens with further text put in directly after them, given by the number of tokens
after the place. -/
def withTexts (texts : Nat → List Char) : List Token → List Char
  | [] => []
  | t :: ts => t.gap ++ (t.text ++ (texts ts.length ++ withTexts texts ts))

/-- What is put in depends only on the places within the tokens. -/
theorem spread_congr {args args' : Nat → List Token} {ts : List Token}
    (h : ∀ n < ts.length, args n = args' n) : spread args ts = spread args' ts := by
  induction ts with
  | nil => rfl
  | cons t ts ih =>
    rw [spread, spread, h _ (Nat.lt_succ_self _), ih fun n hn => h n (Nat.lt_succ_of_lt hn)]

section

variable {texts : Nat → List Char} {tail : List Char}

/-- What is written after one token is read there. -/
theorem exists_scan_after {front back : List Token} {t : Token}
    (hrows : ∀ n, texts n ≠ [] → IsArguments (texts n))
    (ht : texts back.length ≠ [] → t.kind = .ident)
    (h : Token.scan (Token.source (front ++ t :: back) ++ tail) = .ok (front ++ t :: back)) :
    ∃ row, (row ≠ [] → texts back.length ≠ [] ∧ Arguments row) ∧
      Token.source row = texts back.length ∧
      Token.scan (Token.source (front ++ t :: (row ++ back)) ++ tail) =
        .ok (front ++ t :: (row ++ back)) := by
  by_cases hnone : texts back.length = []
  · exact ⟨[], fun hne => absurd rfl hne, hnone.symm, h⟩
  · obtain ⟨row, hbracketed, harguments⟩ := hrows _ hnone
    obtain ⟨row', hsame, hscan⟩ := Token.exists_scan_inserted hbracketed (ht hnone) h
    exact ⟨row', fun _ => ⟨hnone, harguments.sameText hsame⟩,
      (Token.source_eq_of_sameText hsame).symm.trans hbracketed.source, hscan⟩

/-- What is written after names is read there, from the first place to the last. -/
theorem exists_scan_spread {front ts : List Token}
    (hrows : ∀ n, texts n ≠ [] → IsArguments (texts n))
    (hnames : ∀ n < ts.length, texts n ≠ [] → NameAt ts n)
    (h : Token.scan (Token.source (front ++ ts) ++ tail) = .ok (front ++ ts)) :
    ∃ args : Nat → List Token, (∀ n, args n ≠ [] → texts n ≠ [] ∧ Arguments (args n)) ∧
      Token.source (spread args ts) = withTexts texts ts ∧
      Token.scan (Token.source (front ++ spread args ts) ++ tail) =
        .ok (front ++ spread args ts) := by
  induction ts generalizing front with
  | nil => exact ⟨fun _ => [], fun n hne => absurd rfl hne, rfl, h⟩
  | cons t ts ih =>
    have ht : texts ts.length ≠ [] → t.kind = .ident := fun hne =>
      (hnames _ (Nat.lt_succ_self _) hne).kind
    have hnames' : ∀ n < ts.length, texts n ≠ [] → NameAt ts n := fun n hn hne =>
      (hnames n (Nat.lt_succ_of_lt hn) hne).of_cons hn
    obtain ⟨row, hrow, hsource, hscan⟩ := exists_scan_after hrows ht h
    have hsplit : ∀ us, front ++ t :: (row ++ us) = (front ++ t :: row) ++ us := fun us => by
      rw [List.append_assoc, List.cons_append]
    rw [hsplit] at hscan
    obtain ⟨args, hargs, hmore, hall⟩ := ih hnames' hscan
    -- the row after this token is put in, and later places are as they are
    have hrest : spread (fun n => if n = ts.length then row else args n) ts = spread args ts :=
      spread_congr fun n hn => if_neg (Nat.ne_of_lt hn)
    have hspread : spread (fun n => if n = ts.length then row else args n) (t :: ts) =
        t :: (row ++ spread args ts) := by
      rw [spread, hrest, if_pos rfl]
    refine ⟨fun n => if n = ts.length then row else args n, fun n hne => ?_, ?_, ?_⟩
    · dsimp only at hne ⊢
      split_ifs at hne ⊢ with hn
      · rw [hn]
        exact hrow hne
      · exact hargs n hne
    · rw [hspread, withTexts, ← hsource, ← hmore]
      simp [Token.source]
    · rw [hspread, hsplit]
      exact hall

end

/-! ## Sources -/

/-- The text of a source is that of its tokens and what is skipped after them. -/
theorem exists_tail_of_scan {source : List Char} {ts : List Token}
    (h : Token.scan source = .ok ts) : ∃ tail, source = Token.source ts ++ tail := by
  have hscan := Spanned.scan_eq source
  rw [h] at hscan
  exact hscan.2

/-- Type arguments that are written after any of the named types of a source leave it readable, and
it is read as the same package. -/
theorem parse_erases_arguments {source : String} {p : Package}
    (h : (parse source).result = .ok p) :
    ∃ ts tail, Token.scan source.toList = .ok ts ∧ source.toList = Token.source ts ++ tail ∧
      (∃ places, SourceReads ts p places) ∧
      ∀ places, SourceReads ts p places → ∀ texts : Nat → List Char,
        (∀ n, texts n ≠ [] → n ∈ places ∧ IsArguments (texts n)) →
        (parse (String.ofList (withTexts texts ts ++ tail))).result = .ok p := by
  obtain ⟨ts, hscan, hread⟩ := exists_scan_of_parse h
  obtain ⟨tail, htail⟩ := exists_tail_of_scan hscan
  refine ⟨ts, tail, hscan, htail, ofTokens_places hread, fun places hplaces texts htexts => ?_⟩
  rw [htail] at hscan
  have hall : Token.scan (Token.source ([] ++ ts) ++ tail) = .ok ([] ++ ts) := hscan
  have hnames : ∀ n < ts.length, texts n ≠ [] → NameAt ts n := fun n _ hne =>
    hplaces.names n (htexts n hne).1
  obtain ⟨args, hargs, hsource, hscan'⟩ :=
    exists_scan_spread (fun n hne => (htexts n hne).2) hnames hall
  have hspread := ofTokens_spread hplaces fun n hne =>
    ⟨(htexts n (hargs n hne).1).1, (hargs n hne).2⟩
  rw [List.nil_append, hsource] at hscan'
  rw [parse_of_scan (by rw [String.toList_ofList]; exact hscan'), hspread]
  rfl

/-- The tokens of a source with two named types, a key and a value. -/
def instanceSampleTokens : List Token :=
  [⟨.keyword .package, [], "package".toList, 1⟩, ⟨.ident, [' '], ['p'], 1⟩,
    ⟨.newline, [], ['\n'], 1⟩,
    ⟨.keyword .typeDecl, [], "type".toList, 2⟩, ⟨.ident, [' '], ['A'], 2⟩,
    ⟨.keyword .map, [' '], "map".toList, 2⟩, ⟨.lbracket, [], ['['], 2⟩,
    ⟨.ident, [], "Key".toList, 2⟩, ⟨.rbracket, [], [']'], 2⟩, ⟨.ident, [], ['q'], 2⟩,
    ⟨.dot, [], ['.'], 2⟩, ⟨.ident, [], "List".toList, 2⟩]

/-- The arguments of the key. -/
def keyArguments : List Token :=
  [⟨.lbracket, [], ['['], 1⟩, ⟨.ident, [], "int".toList, 1⟩, ⟨.rbracket, [], [']'], 1⟩]

/-- The arguments of the value. -/
def listArguments : List Token :=
  [⟨.lbracket, [], ['['], 1⟩, ⟨.ident, [], ['T'], 1⟩, ⟨.comma, [], [','], 1⟩,
    ⟨.lbracket, [' '], ['['], 1⟩, ⟨.number, [], ['2'], 1⟩, ⟨.rbracket, [], [']'], 1⟩,
    ⟨.ident, [], "string".toList, 1⟩, ⟨.rbracket, [], [']'], 1⟩]

/-- A key and a value lose their arguments, one of them nested: a case of the general theorem. -/
theorem parse_erases_arguments_instanceSample :
    ∃ p, (parse "package p\ntype A map[Key]q.List").result = .ok p ∧
      (parse "package p\ntype A map[Key[int]]q.List[T, [2]string]").result = .ok p := by
  have hlaid : Token.Laid 1 [] instanceSampleTokens := by decide +kernel
  have hsource : String.ofList (Token.source instanceSampleTokens ++ []) =
      "package p\ntype A map[Key]q.List" := by
    decide +kernel
  have hparse := parse_laid (p := ⟨"p", [⟨"A", .map (.ident "Key") (.qualified "q" "List")⟩]⟩)
    rfl hlaid
  obtain ⟨ts, tail, hscan, htext, -, herased⟩ := parse_erases_arguments hparse
  have hscan' := Token.scan_source hlaid
  rw [String.toList_ofList, hscan'] at hscan
  obtain rfl : instanceSampleTokens = ts := Except.ok.inj hscan
  rw [String.toList_ofList] at htext
  obtain rfl : [] = tail := List.append_cancel_left htext
  have hkeyRead : TypeReads 63 (instanceSampleTokens.drop 7) (.ident "Key")
      (instanceSampleTokens.drop 8) [4] :=
    FormReads.ident rfl (by decide) (by decide)
  have hvalueRead : TypeReads 63 (instanceSampleTokens.drop 9) (.qualified "q" "List") [] [0] :=
    FormReads.selector rfl rfl rfl (by decide)
  have hmap : TypeReads 64 (instanceSampleTokens.drop 5) _ [] ([4] ++ [0]) :=
    FormReads.map rfl rfl hkeyRead rfl hvalueRead
  have hspec : SpecReads (instanceSampleTokens.drop 4) _ [] [4, 0] := .plain rfl rfl hmap
  have hplaces : SourceReads instanceSampleTokens _ ([4, 0] ++ []) :=
    .intro rfl rfl rfl (.decls rfl rfl (.single hspec) (.done rfl))
  have hkey : IsArguments (Token.source keyArguments) :=
    isArguments_of_laid (by decide +kernel) (by decide) rfl
      (@Arguments.intro _ _ [_] rfl (.cons rfl rfl (fun h => by cases h) .nil) rfl)
  have hlist : IsArguments (Token.source listArguments) :=
    isArguments_of_laid (by decide +kernel) (by decide) rfl
      (@Arguments.intro _ _ [_, _, _, _, _, _] rfl (.cons rfl rfl (fun h => by cases h)
        (.cons rfl rfl (fun h => by cases h) (@Balanced.group _ _ _ [_] [_] rfl rfl
          (.cons rfl rfl (fun h => by cases h) .nil)
          (.cons rfl rfl (fun h => by cases h) .nil)))) rfl)
  refine ⟨_, hsource ▸ hparse, ?_⟩
  have hboth := herased _ hplaces
    (fun n => if n = 4 then Token.source keyArguments
      else if n = 0 then Token.source listArguments else []) fun n hne => by
        split_ifs at hne ⊢ with hfour hzero
        · exact ⟨by simp [hfour], hkey⟩
        · exact ⟨by simp [hzero], hlist⟩
        · exact absurd rfl hne
  have hedited : String.ofList (withTexts (fun n => if n = 4 then Token.source keyArguments
      else if n = 0 then Token.source listArguments else []) instanceSampleTokens ++ []) =
      "package p\ntype A map[Key[int]]q.List[T, [2]string]" := by
    decide +kernel
  rwa [hedited] at hboth

/-! ## Names that are embedded by themselves -/

/-- No type expression begins with a separator, a string literal or a closing brace. -/
theorem typeForm_refuses {t : Token}
    (ht : t.kind.isSeparator = true ∨ t.kind.isStringLiteral = true ∨ t.kind = .rbrace)
    (inner : TypeReader) (ts : List Token) :
    (typeForm inner (t :: ts)).result =
      .error ⟨some t.line, .expected "type" (some t.describe)⟩ := by
  cases hkind : t.kind <;> rw [hkind] at ht <;>
    simp [TokenKind.isSeparator, TokenKind.isStringLiteral] at ht <;>
    (unfold typeForm; simp only [hkind]; rfl)

/-- An array fails where its element type does. -/
theorem arrayType_error {inner : TypeReader} {inside us : List Token} {r : Token} {e : ReadFault}
    (hinside : Matched inside) (hr : r.kind = .rbracket) (h : (inner us).result = .error e) :
    (arrayType inner (inside ++ r :: us)).result = .error e := by
  unfold arrayType
  split_ifs with hnext
  · cases inside with
    | nil =>
      rw [List.nil_append, List.tail_cons, Logged.result_bind, h]
      rfl
    | cons t ts =>
      have hclose := hinside.closes_head
      rw [Option.some.inj hnext] at hclose
      cases hclose
  · rw [result_bind_of_ok (lengthTokens_closed hinside hr us)]
    dsimp only [List.tail_cons]
    rw [Logged.result_bind, h]
    rfl

/-- A name that is embedded by itself cannot have type arguments: it is taken for the name of a
field of an array type, and what comes after the arguments is no type. -/
theorem fieldLine_refuses_arguments {name l r t : Token} {inside : List Token}
    (hname : name.kind = .ident) (hl : l.kind = .lbracket) (hinside : Matched inside)
    (hr : r.kind = .rbracket)
    (ht : t.kind.isSeparator = true ∨ t.kind.isStringLiteral = true ∨ t.kind = .rbrace)
    (depth : Nat) (rest : List Token) :
    (fieldLine (typeExpr (depth + 2)) (name :: l :: (inside ++ r :: t :: rest))).result =
      .error ⟨some t.line, .expected "type" (some t.describe)⟩ := by
  have hnamed := atEmbedded_named hname (.inr (by rw [hl]; rfl)) (inside ++ r :: t :: rest)
  have hnames : namesAfter (l :: (inside ++ r :: t :: rest)) =
      pure ([], l :: (inside ++ r :: t :: rest)) := by
    rw [namesAfter, if_neg (by rw [hl]; decide)]
  have htype : (typeExpr (depth + 2) (l :: (inside ++ r :: t :: rest))).result =
      .error ⟨some t.line, .expected "type" (some t.describe)⟩ := by
    show (typeForm (typeExpr (depth + 1)) _).result = _
    simp only [typeForm, hl]
    exact arrayType_error hinside hr (typeForm_refuses ht (typeExpr depth) rest)
  unfold fieldLine
  rw [if_neg (by simp [hnamed]), identifier_cons hname, result_bind_of_ok rfl]
  dsimp only
  rw [hnames, result_bind_of_ok rfl]
  dsimp only
  rw [Logged.result_bind, htype]
  rfl

/-- The tokens of a source with a struct that embeds a name, and further tokens after the name. -/
def embeddedSampleTokens (row : List Token) : List Token :=
  [⟨.keyword .package, [], "package".toList, 1⟩, ⟨.ident, [' '], ['p'], 1⟩,
    ⟨.newline, [], ['\n'], 1⟩, ⟨.newline, [], ['\n'], 2⟩,
    ⟨.keyword .typeDecl, [], "type".toList, 3⟩, ⟨.ident, [' '], ['A'], 3⟩,
    ⟨.keyword .struct, [' '], "struct".toList, 3⟩, ⟨.lbrace, [' '], ['\x7b'], 3⟩,
    ⟨.newline, [], ['\n'], 3⟩, ⟨.ident, ['\t'], "Base".toList, 4⟩] ++ row ++
  [⟨.newline, [], ['\n'], 4⟩, ⟨.rbrace, [], ['\x7d'], 5⟩, ⟨.newline, [], ['\n'], 5⟩]

/-- A struct that embeds `Base` is read, and one that embeds `Base[int]` is not. -/
theorem parse_not_erasing :
    (parse "package p\n\ntype A struct \x7b\n\tBase\n\x7d\n").result =
        .ok ⟨"p", [⟨"A", .struct [⟨[], .ident "Base", none⟩]⟩]⟩ ∧
      (parse "package p\n\ntype A struct \x7b\n\tBase[int]\n\x7d\n").result =
        .error ⟨4, .expected "type" (some "newline")⟩ := by
  have hlaid : Token.Laid 1 [] (embeddedSampleTokens []) := by decide +kernel
  have hsource : String.ofList (Token.source (embeddedSampleTokens []) ++ []) =
      "package p\n\ntype A struct \x7b\n\tBase\n\x7d\n" := by
    decide +kernel
  have hlaid' : Token.Laid 1 [] (embeddedSampleTokens [⟨.lbracket, [], ['['], 4⟩,
      ⟨.ident, [], "int".toList, 4⟩, ⟨.rbracket, [], [']'], 4⟩]) := by
    decide +kernel
  have hsource' : String.ofList (Token.source (embeddedSampleTokens [⟨.lbracket, [], ['['], 4⟩,
      ⟨.ident, [], "int".toList, 4⟩, ⟨.rbracket, [], [']'], 4⟩]) ++ []) =
      "package p\n\ntype A struct \x7b\n\tBase[int]\n\x7d\n" := by
    decide +kernel
  refine ⟨hsource ▸ parse_laid rfl hlaid, ?_⟩
  rw [← hsource', parse_of_scan (by rw [String.toList_ofList]; exact Token.scan_source hlaid')]
  rfl

end CodecGen.Package
