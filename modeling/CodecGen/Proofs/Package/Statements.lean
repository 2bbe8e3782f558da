import CodecGen.Proofs.Package.Types

/-!
# Reading declarations

The declarations of a source are read as what they spell, and every other statement is passed over
by its brackets. With the lexer before the readers, a source that is laid out as text is read as
the package that it spells.
-/

namespace CodecGen.Package

open Logged (result_bind_of_ok)

/-! ## Statements -/

/-- An opening bracket is not a separator. -/
theorem isSeparator_of_opens {kind : TokenKind} (h : kind.opens = true) :
    kind.isSeparator = false := by
  cases kind <;> first | rfl | cases h

/-- Balanced tokens leave the number of open brackets as it is, and no separator among them ends a
statement. -/
theorem skipStatement_balanced {flat : Bool} {ts : List Token} (h : Balanced flat ts) {depth : Nat}
    (hdepth : flat = true ∨ 0 < depth) (rest : List Token) :
    skipStatement depth (ts ++ rest) = skipStatement depth rest := by
  induction h generalizing depth rest with
  | nil => rfl
  | cons hopen hclose hflat _ ih =>
    rename_i flat t ts _
    -- outside of brackets the row is flat, and has no separator to stop at
    have hsep : ¬(depth = 0 ∧ t.kind.isSeparator = true) := by
      rintro ⟨hzero, hsep⟩
      rcases hdepth with hdepth | hdepth
      · rw [hflat hdepth] at hsep
        cases hsep
      · omega
    rw [List.cons_append, skipStatement, if_neg (by simp [hopen]), if_neg (by simp [hclose]),
      if_neg hsep]
    exact ih hdepth rest
  | group hl hr _ _ ihinside ih =>
    have hopen := opens_of_closes hr
    rw [List.cons_append, List.append_assoc, skipStatement, if_pos hl,
      ihinside (.inr (by omega)), List.cons_append, skipStatement, if_neg (by simp [hopen]),
      if_pos hr, if_neg (by omega)]
    exact ih hdepth rest

/-- What is ahead ends a statement: a separator, or the end of the source. -/
def StatementEnds (rest : List Token) : Prop :=
  ∀ t, rest.head? = some t → t.kind.isSeparator = true

/-- What ends a statement may follow a type expression. -/
theorem StatementEnds.ends {rest : List Token} (h : StatementEnds rest) : Ends rest := by
  intro t ht
  unfold endsType
  rw [h t ht, Bool.true_or, Bool.true_or]

/-- A statement that is at its end is left as it is. -/
theorem skipStatement_end {rest : List Token} (h : StatementEnds rest) :
    skipStatement 0 rest = pure rest := by
  cases rest with
  | nil => rfl
  | cons t ts =>
    have ht := h t rfl
    have hopen : t.kind.opens = false := by
      cases hkind : t.kind <;> rw [hkind] at ht <;> first | rfl | cases ht
    have hclose : t.kind.closes = false := by
      cases hkind : t.kind <;> rw [hkind] at ht <;> first | rfl | cases ht
    rw [skipStatement, if_neg (by simp [hopen]), if_neg (by simp [hclose]), if_pos ⟨rfl, ht⟩]

/-! ## Single declarations -/

/-- Type parameters begin with a bracket. -/
theorem atTypeParams_of_ne_lbracket {t : Token} (ht : t.kind ≠ .lbracket) (ts : List Token) :
    atTypeParams (t :: ts) = false := by
  unfold atTypeParams
  split
  · rename_i hkinds
    exact absurd (List.cons.inj hkinds).1 ht
  · rfl

/-- Type parameters begin with a name in the bracket. -/
theorem atTypeParams_of_ne_ident {l first : Token} (hfirst : first.kind ≠ .ident)
    (more : List Token) : atTypeParams (l :: first :: more) = false := by
  unfold atTypeParams
  split
  · rename_i hkinds
    simp only [List.take_succ_cons, List.map_cons, List.cons.injEq] at hkinds
    exact absurd hkinds.2.1 hfirst
  · rfl

/-- No type expression begins like type parameters. -/
theorem atTypeParams_form {spec : GoType → List Token → Prop} {type : GoType} {ts : List Token}
    (h : Form spec type ts) (rest : List Token) : atTypeParams (ts ++ rest) = false := by
  cases h with
  | slice hl hr _ => simp [atTypeParams, hl, hr]
  | array hl hlen _ hr _ => rcases hlen with hlen | hlen <;> simp [atTypeParams, hl, hlen, hr]
  | ident hk => simp [atTypeParams, hk]
  | selector hk _ _ => simp [atTypeParams, hk]
  | pointer hk _ => simp [atTypeParams, hk]
  | map hk _ _ _ _ => simp [atTypeParams, hk]
  | struct hk _ _ _ => simp [atTypeParams, hk]
  | interface hk _ _ _ => simp [atTypeParams, hk]
  | func hk _ _ _ _ => simp [atTypeParams, hk]
  | chan hk _ => simp [atTypeParams, hk]
  | sending hk _ _ => simp [atTypeParams, hk]
  | receiving hk _ _ => simp [atTypeParams, hk]
  | paren hk _ _ => simp [atTypeParams, hk]

/-- The equality sign of an alias is passed over. -/
theorem skipKind_assigns {eqs ts : List Token} (heqs : Assigns eqs) {depth : Nat} {type : GoType}
    (htype : Spells depth type ts) (rest : List Token) :
    skipKind .assign (eqs ++ (ts ++ rest)) = ts ++ rest := by
  rcases heqs with rfl | ⟨t, ht, rfl⟩
  -- without a sign, the type itself does not begin with one
  · obtain ⟨t, us, rfl, hbegins⟩ := (headed_spells depth).begins htype
    have hassign : t.kind ≠ .assign := by
      intro hassign
      rw [hassign] at hbegins
      cases hbegins
    exact if_neg hassign
  · exact if_pos ht

/-- A declaration is read as what it spells. -/
theorem typeSpec_spells {d : TypeDecl} {ts rest : List Token} (h : SpecSpells d ts)
    (hrest : Ends rest) : (typeSpec (ts ++ rest)).result = .ok (some d, rest) := by
  cases h with
  | intro hname heqs htype =>
    rename_i name type eqs ts
    have hparams : atTypeParams (eqs ++ (ts ++ rest)) = false := by
      rcases heqs with rfl | ⟨t, ht, rfl⟩
      · exact atTypeParams_form htype rest
      · simp [atTypeParams, ht]
    unfold typeSpec
    rw [List.cons_append, List.append_assoc, identifier_cons hname, result_bind_of_ok rfl]
    dsimp only
    rw [if_neg (by simp [hparams]), skipKind_assigns heqs htype,
      result_bind_of_ok (typeExpr_reads maxTypeDepth htype hrest)]
    rfl

/-- A generic declaration is dropped. -/
theorem typeSpec_generic {name l param next r : Token} {type : GoType}
    {ps eqs ts rest : List Token} (hname : name.kind = .ident) (hl : l.kind = .lbracket)
    (hparam : param.kind = .ident)
    (hnext : next.kind = .ident ∨ next.kind = .comma ∨ next.kind = .keyword .interface)
    (hps : Balanced false ps) (hr : r.kind = .rbracket) (heqs : Assigns eqs)
    (htype : Spells maxTypeDepth type ts) (hrest : Ends rest) :
    (typeSpec (name :: l :: param :: next :: (ps ++ r :: (eqs ++ (ts ++ rest))))).result =
      .ok (none, rest) := by
  have hparams : atTypeParams
      (l :: param :: next :: (ps ++ r :: (eqs ++ (ts ++ rest)))) = true := by
    rcases hnext with hnext | hnext | hnext <;> simp [atTypeParams, hl, hparam, hnext]
  -- the two tokens that were looked at belong to the group that is passed over
  have hinside : Balanced false (param :: next :: ps) := by
    refine .cons (by rw [hparam]; rfl) (by rw [hparam]; rfl) (fun h => by cases h) ?_
    rcases hnext with hnext | hnext | hnext <;>
      exact .cons (by rw [hnext]; rfl) (by rw [hnext]; rfl) (fun h => by cases h) hps
  have hskip := skipGroup_group (by rw [hl]; rfl) hinside (by rw [hr]; rfl)
    (eqs ++ (ts ++ rest))
  rw [List.cons_append, List.cons_append] at hskip
  unfold typeSpec
  rw [identifier_cons hname, result_bind_of_ok rfl]
  dsimp only
  rw [if_pos hparams, hskip, result_bind_of_ok rfl, skipKind_assigns heqs htype,
    result_bind_of_ok (typeExpr_reads maxTypeDepth htype hrest)]
  rfl

/-! ## Groups of declarations -/

/-- A declaration begins with a name. -/
theorem SpecSpells.begins {d : TypeDecl} {ts : List Token} (h : SpecSpells d ts) :
    ∃ t us, ts = t :: us ∧ t.kind = .ident := by
  cases h with
  | intro hname _ _ => exact ⟨_, _, rfl, hname⟩

/-- A separator before the declarations of a group is passed over. -/
theorem typeGroup_cons {sep : Token} (hsep : sep.kind.isSeparator = true) (turns : Nat)
    (ts : List Token) : typeGroup turns (sep :: ts) = typeGroup turns ts := by
  cases turns with
  | zero => rfl
  | succ turns => rw [typeGroup, typeGroup, skipSeparators_cons hsep]

/-- One turn of the loop over a group reads one declaration. -/
theorem typeGroup_step {d : TypeDecl} {ds : List TypeDecl} {seps ts after rest : List Token}
    {turns : Nat} (hseps : Separators seps) (hd : SpecSpells d ts)
    (hafter : ItemEnds .rparen after)
    (hmore : (typeGroup turns after).result = .ok (ds, rest)) :
    (typeGroup (turns + 1) (seps ++ (ts ++ after))).result = .ok (d :: ds, rest) := by
  have hspec := typeSpec_spells hd (hafter.ends rfl)
  obtain ⟨t, us, rfl, ht⟩ := hd.begins
  obtain ⟨u, vs, rfl, hu⟩ := hafter
  rw [typeGroup, List.cons_append, skipSeparators_append hseps (by rw [ht]; rfl)]
  dsimp only
  rw [if_neg (by rw [ht]; decide), ← List.cons_append, result_bind_of_ok hspec]
  show (if u.kind.isSeparator = true ∨ u.kind = .rparen then _ else _ : Reading _).result = _
  rw [if_pos hu, result_bind_of_ok hmore]
  rfl

/-- The declarations of a group are read as what they spell. -/
theorem typeGroup_spells {ds : List TypeDecl} {ts : List Token} (h : Separated SpecSpells ds ts)
    {r : Token} (hr : r.kind = .rparen) (rest : List Token) {turns : Nat}
    (hturns : ts.length < turns) : (typeGroup turns (ts ++ r :: rest)).result = .ok (ds, rest) := by
  refine h.makes (P := fun k us ds => (typeGroup k us).result = .ok (ds, rest)) ?_ ?_ ?_ ?_ hturns
  · intro d us hd
    obtain ⟨t, vs, rfl, _⟩ := hd.begins
    exact List.cons_ne_nil t vs
  · intro k sep us ds hsep hmore
    rw [typeGroup_cons hsep, hmore]
  · intro seps k hseps
    rw [typeGroup, skipSeparators_append hseps (by rw [hr]; rfl)]
    dsimp only
    rw [if_pos hr]
    rfl
  · intro k d ds seps us after hseps hd hafter hmore
    refine typeGroup_step hseps hd ?_ hmore
    rcases hafter with rfl | ⟨sep, vs, rfl, hsep⟩
    · exact ⟨r, rest, rfl, .inr hr⟩
    · exact ⟨sep, vs, rfl, .inl hsep⟩

/-! ## Sources -/

/-- A separator ends a statement. -/
theorem statementEnds_cons {sep : Token} (hsep : sep.kind.isSeparator = true)
    (ts : List Token) : StatementEnds (sep :: ts) := by
  intro t ht
  cases ht
  exact hsep

/-- An item begins with the keyword of declarations or is another statement, and with no separator
in either case. -/
theorem ItemSpells.begins {ds : List TypeDecl} {ts : List Token} (h : ItemSpells ds ts) :
    ∃ t us, ts = t :: us ∧ t.kind.isSeparator = false := by
  cases h with
  | single hword _ => exact ⟨_, _, rfl, by rw [hword]; rfl⟩
  | group hword _ _ _ => exact ⟨_, _, rfl, by rw [hword]; rfl⟩
  | generic hword _ _ _ _ _ _ _ _ => exact ⟨_, _, rfl, by rw [hword]; rfl⟩
  | other _ hts =>
    refine ⟨_, _, rfl, ?_⟩
    cases hts with
    | cons _ _ hflat _ => exact hflat rfl
    | group hl _ _ _ => exact isSeparator_of_opens hl

/-- A name after the keyword begins a single declaration. -/
theorem typeDecls_single {name : Token} (hname : name.kind = .ident) {d : Option TypeDecl}
    {ts rest : List Token} (h : (typeSpec (name :: ts)).result = .ok (d, rest)) :
    (typeDecls (name :: ts)).result = .ok (d.toList, rest) := by
  unfold typeDecls
  dsimp only
  rw [if_neg (by rw [hname]; decide), result_bind_of_ok h]
  rfl

/-- The declarations after the keyword are read, and none of a generic one. -/
theorem typeDecls_spells {ds : List TypeDecl} {word : Token} {ts rest : List Token}
    (h : ItemSpells ds (word :: ts)) (hword : word.kind = .keyword .typeDecl)
    (hrest : StatementEnds rest) : (typeDecls (ts ++ rest)).result = .ok (ds, rest) := by
  cases h with
  | single _ hts =>
    obtain ⟨t, us, rfl, ht⟩ := hts.begins
    exact typeDecls_single ht (typeSpec_spells hts hrest.ends)
  | group _ hl hts hr =>
    rename_i l r us _
    have hturns : us.length < (us ++ r :: rest).length + 1 := by
      simp only [List.length_append]
      omega
    rw [List.cons_append, List.append_assoc, List.singleton_append]
    unfold typeDecls
    dsimp only
    rw [if_pos hl]
    exact typeGroup_spells hts hr rest hturns
  | generic _ hname hl hparam hnext hps hr heqs htype =>
    have hspec := typeSpec_generic hname hl hparam hnext hps hr heqs htype hrest.ends
    simp only [List.cons_append, List.append_assoc]
    exact typeDecls_single hname hspec
  | other hfirst _ => exact absurd hword hfirst

/-- One turn of the loop over the statements reads what follows the keyword of declarations. -/
theorem statements_decls {word : Token} {ds more : List TypeDecl} {seps ts after : List Token}
    {turns : Nat} (hseps : Separators seps) (hword : word.kind = .keyword .typeDecl)
    (hds : (typeDecls ts).result = .ok (ds, after))
    (hmore : (statements turns after).result = .ok more) :
    (statements (turns + 1) (seps ++ word :: ts)).result = .ok (ds ++ more) := by
  rw [statements, skipSeparators_append hseps (by rw [hword]; rfl)]
  dsimp only
  rw [if_pos hword, result_bind_of_ok hds]
  dsimp only
  rw [result_bind_of_ok hmore]
  rfl

/-- One turn of the loop over the statements reads one item. -/
theorem statements_step {ds more : List TypeDecl} {seps ts after : List Token} {turns : Nat}
    (hseps : Separators seps) (hitem : ItemSpells ds ts) (hafter : StatementEnds after)
    (hmore : (statements turns after).result = .ok more) :
    (statements (turns + 1) (seps ++ (ts ++ after))).result = .ok (ds ++ more) := by
  obtain ⟨t, us, rfl, hsep⟩ := hitem.begins
  rw [List.cons_append]
  by_cases hword : t.kind = .keyword .typeDecl
  · exact statements_decls hseps hword (typeDecls_spells hitem hword hafter) hmore
  -- the item begins with another keyword, so it is none of the declarations
  · rw [statements, skipSeparators_append hseps hsep]
    dsimp only
    cases hitem with
    | single h _ => exact absurd h hword
    | group h _ _ _ => exact absurd h hword
    | generic h _ _ _ _ _ _ _ _ => exact absurd h hword
    | other _ hts =>
      have hskip : skipStatement 0 (t :: us ++ after) = skipStatement 0 after :=
        skipStatement_balanced hts (.inl rfl) after
      rw [List.cons_append] at hskip
      rw [if_neg hword, hskip, skipStatement_end hafter, result_bind_of_ok rfl, hmore]
      rfl

/-- A separator before a statement is passed over. -/
theorem statements_cons {sep : Token} (hsep : sep.kind.isSeparator = true) (turns : Nat)
    (ts : List Token) : statements turns (sep :: ts) = statements turns ts := by
  cases turns with
  | zero => rfl
  | succ turns => rw [statements, statements, skipSeparators_cons hsep]

/-- The items of a source are read in a row, whatever they are, if each of them takes one turn. -/
theorem statements_makes {item : List TypeDecl → List Token → Prop}
    (hne : ∀ {ds : List TypeDecl} {ts : List Token}, item ds ts → ts ≠ [])
    (hstep : ∀ {turns : Nat} {ds more : List TypeDecl} {seps ts after : List Token},
      Separators seps → item ds ts → StatementEnds after →
      (statements turns after).result = .ok more →
      (statements (turns + 1) (seps ++ (ts ++ after))).result = .ok (ds ++ more))
    {items : List (List TypeDecl)} {ts : List Token} (h : Separated item items ts) {turns : Nat}
    (hturns : ts.length < turns) : (statements turns ts).result = .ok items.flatten := by
  have hall : (statements turns (ts ++ [])).result = .ok items.flatten := by
    refine h.makes (P := fun k us items => (statements k us).result = .ok items.flatten)
      hne ?_ ?_ ?_ hturns
    · intro k sep us items hsep hmore
      rw [statements_cons hsep, hmore]
    · intro seps k hseps
      have hskip : skipSeparators (seps ++ []) = [] := List.dropWhile_append_of_pos hseps
      rw [statements, hskip]
      rfl
    · intro k ds items seps us after hseps hitem hafter hmore
      refine hstep hseps hitem ?_ hmore
      rcases hafter with rfl | ⟨sep, vs, rfl, hsep⟩
      · exact fun _ ht => by cases ht
      · exact statementEnds_cons hsep vs
  rw [List.append_nil] at hall
  exact hall

/-- A statement has at least one token. -/
theorem ItemSpells.ne_nil {ds : List TypeDecl} {ts : List Token} (h : ItemSpells ds ts) :
    ts ≠ [] := by
  obtain ⟨t, us, rfl, _⟩ := h.begins
  exact List.cons_ne_nil t us

/-- The items of a source are read as what they spell. -/
theorem statements_spells {items : List (List TypeDecl)} {ts : List Token}
    (h : Separated ItemSpells items ts) {turns : Nat} (hturns : ts.length < turns) :
    (statements turns ts).result = .ok items.flatten :=
  statements_makes ItemSpells.ne_nil statements_step h hturns

/-- The statements after the package clause are read as the declarations of the package. -/
theorem ofTokens_statements {word name : Token} {seps ts : List Token} {ds : List TypeDecl}
    (hseps : Separators seps) (hword : word.kind = .keyword .package) (hname : name.kind = .ident)
    (hds : (statements (ts.length + 1) ts).result = .ok ds) :
    (ofTokens (seps ++ word :: name :: ts)).result = .ok ⟨name.lexeme, ds⟩ := by
  unfold ofTokens
  rw [skipSeparators_append hseps (by rw [hword]; rfl), expectKind_cons hword,
    result_bind_of_ok rfl, identifier_cons hname, result_bind_of_ok rfl]
  dsimp only
  rw [result_bind_of_ok hds]
  rfl

/-- A source is read as the package that it spells. -/
theorem ofTokens_spells {p : Package} {ts : List Token} (h : SourceSpells p ts) :
    (ofTokens ts).result = .ok p := by
  cases h with
  | intro hseps hword hname hitems =>
    exact ofTokens_statements hseps hword hname (statements_spells hitems (by omega))

/-- A text that tokens are laid out in is read as the tokens are. -/
theorem parse_laid {p : Package} {ts : List Token} {tail : List Char}
    (h : (ofTokens ts).result = .ok p) (hlaid : Token.Laid 1 tail ts) :
    (parse (String.ofList (Token.source ts ++ tail))).result = .ok p := by
  unfold parse
  rw [String.toList_ofList, Token.scan_source hlaid, result_bind_of_ok rfl,
    Logged.result_mapError, h]
  rfl

/-- Parsing undoes printing: where tokens spell a package and are laid out as text, the text is read
as this package. -/
theorem parse_source {p : Package} {ts : List Token} {tail : List Char} (h : SourceSpells p ts)
    (hlaid : Token.Laid 1 tail ts) :
    (parse (String.ofList (Token.source ts ++ tail))).result = .ok p := by
  unfold parse
  rw [String.toList_ofList, Token.scan_source hlaid, result_bind_of_ok rfl,
    Logged.result_mapError, ofTokens_spells h]
  rfl

/-- The tokens of a source with a declaration, a generic declaration and another statement. -/
def sampleTokens : List Token :=
  [⟨.keyword .package, [], "package".toList, 1⟩, ⟨.ident, [' '], ['p'], 1⟩,
    ⟨.newline, [], ['\n'], 1⟩,
    ⟨.keyword .typeDecl, [], "type".toList, 2⟩, ⟨.ident, [' '], ['T'], 2⟩,
    ⟨.keyword .struct, [' '], "struct".toList, 2⟩, ⟨.lbrace, [' '], ['\x7b'], 2⟩,
    ⟨.ident, [' '], ['X'], 2⟩, ⟨.comma, [], [','], 2⟩, ⟨.ident, [' '], ['Y'], 2⟩,
    ⟨.ident, [' '], "int".toList, 2⟩, ⟨.semicolon, [], [';'], 2⟩, ⟨.star, [' '], ['*'], 2⟩,
    ⟨.ident, [], ['B'], 2⟩, ⟨.rbrace, [' '], ['\x7d'], 2⟩, ⟨.newline, [], ['\n'], 2⟩,
    ⟨.keyword .typeDecl, [], "type".toList, 3⟩, ⟨.ident, [' '], ['G'], 3⟩,
    ⟨.lbracket, [], ['['], 3⟩, ⟨.ident, [], ['P'], 3⟩, ⟨.ident, [' '], "any".toList, 3⟩,
    ⟨.rbracket, [], [']'], 3⟩, ⟨.star, [' '], ['*'], 3⟩, ⟨.ident, [], ['P'], 3⟩,
    ⟨.newline, [], ['\n'], 3⟩,
    ⟨.keyword .varDecl, [], "var".toList, 4⟩, ⟨.ident, [' '], ['v'], 4⟩,
    ⟨.assign, [' '], ['='], 4⟩, ⟨.number, [' '], ['1'], 4⟩]

/-- The package that these tokens spell. -/
def samplePackage : Package :=
  ⟨"p", [⟨"T", .struct [⟨["X", "Y"], .ident "int", none⟩, ⟨[], .pointer (.ident "B"), none⟩]⟩]⟩

/-- The sample is spelled by its tokens, and is what its text is read as: a case of the general
theorem with all kinds of statement in it. -/
theorem parse_source_sampleTokens :
    SourceSpells samplePackage sampleTokens ∧ Token.Laid 1 [] sampleTokens ∧
      (parse ("package p\ntype T struct \x7b X, Y int; *B \x7d\n" ++
        "type G[P any] *P\nvar v = 1")).result = .ok samplePackage := by
  have hlaid : Token.Laid 1 [] sampleTokens := by decide +kernel
  have htext : String.ofList (Token.source sampleTokens ++ []) =
      "package p\ntype T struct \x7b X, Y int; *B \x7d\n" ++ "type G[P any] *P\nvar v = 1" := by
    decide +kernel
  have hnone : Separators [] := fun t ht => by cases ht
  have hline : Separators [⟨.newline, [], ['\n'], 1⟩] := List.forall_mem_singleton.mpr rfl
  -- the struct, from its fields outwards
  have hmore : MoreNames _ ((sampleTokens.drop 8).take 2) :=
    @MoreNames.cons _ _ [] [] [] rfl (fun t ht => by cases ht) rfl .nil
  have hnamed : FieldSpells (Spells 63) _ ((sampleTokens.drop 7).take 4) :=
    @FieldSpells.named _ _ _ _ _ [_, _] [_] [] rfl hmore (Form.ident rfl) .none
  have hembedded : FieldSpells (Spells 63) _ ((sampleTokens.drop 12).take 2) :=
    @FieldSpells.embedded _ _ _ _ [_] [] (.inr rfl) (Form.pointer rfl (Form.ident rfl)) .none
  have hfields : Separated (FieldSpells (Spells 63)) _ ((sampleTokens.drop 7).take 7) :=
    @Separated.cons _ _ [] _ _ _ _ _ hnone hnamed rfl (@Separated.last _ _ [] _ _ hnone hembedded)
  have hstruct : Spells 64 _ ((sampleTokens.drop 5).take 10) := Form.struct rfl rfl hfields rfl
  -- the three items
  have hdecl : ItemSpells _ ((sampleTokens.drop 3).take 12) :=
    .single rfl (@SpecSpells.intro _ _ [] _ rfl (.inl rfl) hstruct)
  have hgeneric : ItemSpells [] ((sampleTokens.drop 16).take 8) :=
    @ItemSpells.generic _ _ _ _ _ _ _ [] [] _ rfl rfl rfl rfl (.inl rfl) .nil rfl (.inl rfl)
      (Form.pointer rfl (Form.ident rfl))
  have hother : ItemSpells [] (sampleTokens.drop 25) :=
    .other (by decide) (.cons rfl rfl (fun _ => rfl) (.cons rfl rfl (fun _ => rfl)
      (.cons rfl rfl (fun _ => rfl) (.cons rfl rfl (fun _ => rfl) .nil))))
  have hitems : Separated ItemSpells _ (sampleTokens.drop 2) :=
    @Separated.cons _ _ [_] _ _ _ _ _ hline hdecl rfl
      (@Separated.cons _ _ [] _ _ _ _ _ hnone hgeneric rfl
        (@Separated.last _ _ [] _ _ hnone hother))
  have hsource : SourceSpells _ sampleTokens := @SourceSpells.intro _ _ _ [] _ hnone rfl rfl hitems
  have hparse := parse_source hsource hlaid
  rw [htext] at hparse
  exact ⟨hsource, hlaid, hparse⟩

end CodecGen.Package
