import CodecGen.Proofs.Package.Lengths
import CodecGen.Proofs.Package.Names

/-!
# Generic declarations

The parameters of a generic declaration are groups of names with a constraint after them. Whether
the brackets after a name hold parameters is told from the two tokens after the opening one: a name,
and what a name in a length cannot be followed by. A line end before the first name is not looked
past, and a struct type and the direction mark of a channel are not expected after it. A declaration
whose parameters begin so is recorded as an array, with the parameters for its length; every other
generic declaration is dropped, and nothing else with it (`parse_generics`).
-/

namespace CodecGen.Package

open Logged (result_bind_of_ok)

/-! ## Parameters -/

/-- A class of tokens that a constraint begins with: one that a type begins with, or an operator. An
asterisk and a parenthesis are left out, since they could go on an array length. -/
def beginsConstraint (kind : TokenKind) : Bool :=
  (beginsType kind || kind == .operator) && kind != .star && kind != .lparen

/-- A constraint: a type or an interface without its braces, of which only the first token and the
brackets are looked at. -/
inductive Constraint : List Token → Prop where
  | intro {first : Token} {ts : List Token} (hfirst : beginsConstraint first.kind = true)
      (hts : Matched (first :: ts)) : Constraint (first :: ts)

/-- Groups of parameters with commas between them, and possibly a comma after the last. Line ends
may follow the commas. -/
inductive Parameters : List Token → Prop where
  | last {name : Token} {names : List String} {ns cs : List Token} (hname : name.kind = .ident)
      (hnames : MoreNames names ns) (hcs : Constraint cs) : Parameters (name :: (ns ++ cs))
  | trailing {name comma : Token} {names : List String} {ns cs lines : List Token}
      (hname : name.kind = .ident) (hnames : MoreNames names ns) (hcs : Constraint cs)
      (hcomma : comma.kind = .comma) (hlines : ∀ t ∈ lines, t.kind.isNewline = true) :
      Parameters (name :: (ns ++ (cs ++ comma :: lines)))
  | cons {name comma : Token} {names : List String} {ns cs lines ps : List Token}
      (hname : name.kind = .ident) (hnames : MoreNames names ns) (hcs : Constraint cs)
      (hcomma : comma.kind = .comma) (hlines : ∀ t ∈ lines, t.kind.isNewline = true)
      (hps : Parameters ps) : Parameters (name :: (ns ++ (cs ++ comma :: (lines ++ ps))))

/-- Parameters that are not taken for what they are: line ends stand before them, or the constraint
of the first name begins with a struct type or the direction mark of a channel. -/
def Mistaken (lines ps : List Token) : Prop :=
  lines ≠ [] ∨ ∃ first second more, ps = first :: second :: more ∧
    (second.kind = .keyword .struct ∨ second.kind = .arrow)

/-- A generic declaration from its name on, with the declaration that is made of it. -/
inductive GenericSpells : Option TypeDecl → List Token → Prop where
  | dropped {name l r : Token} {type : GoType} {ps eqs ts : List Token}
      (hname : name.kind = .ident) (hl : l.kind = .lbracket) (hps : Parameters ps)
      (hplain : ¬Mistaken [] ps) (hr : r.kind = .rbracket) (heqs : Assigns eqs)
      (htype : ReadsAs maxTypeDepth type ts) :
      GenericSpells none (name :: l :: (ps ++ r :: (eqs ++ ts)))
  | recorded {name l r : Token} {type : GoType} {lines ps ts : List Token}
      (hname : name.kind = .ident) (hl : l.kind = .lbracket)
      (hlines : ∀ t ∈ lines, t.kind.isNewline = true) (hps : Parameters ps)
      (hmistaken : Mistaken lines ps) (hr : r.kind = .rbracket)
      (htype : ReadsAs (maxTypeDepth - 1) type ts) :
      GenericSpells (some ⟨name.lexeme, .array (some (lengthText (lines ++ ps))) type⟩)
        (name :: l :: (lines ++ (ps ++ r :: ts)))

/-! ## Brackets of parameters -/

/-- Brackets that pair up in two rows pair up in both together. -/
theorem Matched.append {ts us : List Token} (hts : Matched ts) (hus : Matched us) :
    Matched (ts ++ us) := by
  induction hts with
  | nil => exact hus
  | cons hopen hclose _ ih => exact .cons hopen hclose ih
  | @group l r inside ts hpair hinside _ _ ih =>
    rw [List.cons_append, List.append_assoc]
    exact .group hpair hinside ih

/-- Where there are no brackets, they pair up. -/
theorem matched_of_forall {ts : List Token}
    (h : ∀ t ∈ ts, t.kind.opens = false ∧ t.kind.closes = false) : Matched ts := by
  induction ts with
  | nil => exact .nil
  | cons t ts ih =>
    obtain ⟨hopen, hclose⟩ := h t List.mem_cons_self
    exact .cons hopen hclose (ih fun u hu => h u (List.mem_cons_of_mem t hu))

/-- Line ends have no brackets among them. -/
theorem matched_lines {lines : List Token} (h : ∀ t ∈ lines, t.kind.isNewline = true) :
    Matched lines := by
  refine matched_of_forall fun t ht => ?_
  have hline := h t ht
  cases hkind : t.kind <;> rw [hkind] at hline <;> first | exact ⟨rfl, rfl⟩ | cases hline

/-- Commas and names have no brackets among them. -/
theorem MoreNames.matched {names : List String} {ns : List Token} (h : MoreNames names ns) :
    Matched ns := by
  induction h with
  | nil => exact .nil
  | cons hcomma hlines hname _ ih =>
    refine .cons (by rw [hcomma]; rfl) (by rw [hcomma]; rfl) ((matched_lines hlines).append ?_)
    exact .cons (by rw [hname]; rfl) (by rw [hname]; rfl) ih

/-- The brackets among parameters pair up. -/
theorem Parameters.matched {ps : List Token} (h : Parameters ps) : Matched ps := by
  have hgroup : ∀ {name : Token} {names : List String} {ns cs rest : List Token},
      name.kind = .ident → MoreNames names ns → Constraint cs → Matched rest →
        Matched (name :: (ns ++ (cs ++ rest))) := by
    rintro name names ns _ rest hname hnames ⟨-, hcs⟩ hrest
    exact .cons (by rw [hname]; rfl) (by rw [hname]; rfl)
      (hnames.matched.append (hcs.append hrest))
  have hcomma : ∀ {comma : Token} {rest : List Token}, comma.kind = .comma → Matched rest →
      Matched (comma :: rest) := by
    intro comma rest hcomma hrest
    exact .cons (by rw [hcomma]; rfl) (by rw [hcomma]; rfl) hrest
  induction h with
  | last hname hnames hcs =>
    have hall := hgroup hname hnames hcs .nil
    rwa [List.append_nil] at hall
  | trailing hname hnames hcs hkind hlines =>
    exact hgroup hname hnames hcs (hcomma hkind (matched_lines hlines))
  | cons hname hnames hcs hkind hlines _ ih =>
    exact hgroup hname hnames hcs (hcomma hkind ((matched_lines hlines).append ih))

/-- Parameters begin with a name, and a comma or a constraint goes on. -/
theorem Parameters.second {ps : List Token} (h : Parameters ps) :
    ∃ first second more, ps = first :: second :: more ∧ first.kind = .ident ∧
      (second.kind = .comma ∨ beginsConstraint second.kind = true) := by
  have hgroup : ∀ {name : Token} {names : List String} {ns cs rest : List Token},
      name.kind = .ident → MoreNames names ns → Constraint cs →
        ∃ first second more, name :: (ns ++ (cs ++ rest)) = first :: second :: more ∧
          first.kind = .ident ∧ (second.kind = .comma ∨ beginsConstraint second.kind = true) := by
    rintro name names ns _ rest hname hnames ⟨hfirst, -⟩
    cases hnames with
    | nil => exact ⟨_, _, _, rfl, hname, .inr hfirst⟩
    | cons hcomma _ _ _ => exact ⟨_, _, _, rfl, hname, .inl hcomma⟩
  cases h with
  | @last name names ns cs hname hnames hcs =>
    obtain ⟨first, second, more, heq, hfirst, hsecond⟩ := hgroup hname hnames hcs
    rw [← List.append_nil cs]
    exact ⟨first, second, more, heq, hfirst, hsecond⟩
  | trailing hname hnames hcs _ _ => exact hgroup hname hnames hcs
  | cons hname hnames hcs _ _ _ => exact hgroup hname hnames hcs

/-! ## Recognising parameters -/

/-- A class of tokens after a name that tells it from a length. -/
def tellsParameter : TokenKind → Bool
  | .ident | .comma | .operator | .lbracket => true
  | .keyword .interface | .keyword .func | .keyword .map | .keyword .chan => true
  | _ => false

/-- After a bracket and a name, the next token tells whether type parameters are ahead. -/
theorem atTypeParams_name {l first : Token} (hl : l.kind = .lbracket) (hfirst : first.kind = .ident)
    (second : Token) (more : List Token) :
    atTypeParams (l :: first :: second :: more) = tellsParameter second.kind := by
  simp only [atTypeParams, List.take_succ_cons, List.map_cons, hl, hfirst]
  rfl

/-- A token that a constraint begins with tells a parameter, apart from the word `struct` and the
direction mark of a channel. -/
theorem tellsParameter_of_beginsConstraint {kind : TokenKind} (h : beginsConstraint kind = true)
    (hstruct : kind ≠ .keyword .struct) (harrow : kind ≠ .arrow) : tellsParameter kind = true := by
  cases kind with
  | keyword word => cases word <;> first | rfl | exact absurd rfl hstruct | cases h
  | _ => first | rfl | exact absurd rfl harrow | cases h

/-- Parameters that are not mistaken are taken for parameters. -/
theorem atTypeParams_parameters {l : Token} {ps : List Token} (hl : l.kind = .lbracket)
    (hps : Parameters ps) (hplain : ¬Mistaken [] ps) (rest : List Token) :
    atTypeParams (l :: (ps ++ rest)) = true := by
  obtain ⟨first, second, more, rfl, hfirst, hsecond⟩ := hps.second
  rw [List.cons_append, List.cons_append, atTypeParams_name hl hfirst]
  rcases hsecond with hcomma | hbegins
  · rw [hcomma]
    rfl
  · refine tellsParameter_of_beginsConstraint hbegins ?_ ?_
    · exact fun h => hplain (.inr ⟨first, second, more, rfl, .inl h⟩)
    · exact fun h => hplain (.inr ⟨first, second, more, rfl, .inr h⟩)

/-- Parameters that are mistaken are taken for an array length. -/
theorem atTypeParams_mistaken {l : Token} {lines ps : List Token} (hl : l.kind = .lbracket)
    (hlines : ∀ t ∈ lines, t.kind.isNewline = true) (hps : Parameters ps) (h : Mistaken lines ps)
    (rest : List Token) : atTypeParams (l :: (lines ++ (ps ++ rest))) = false := by
  cases lines with
  | cons t lines =>
    have hname : t.kind ≠ .ident := by
      intro hname
      have hline := hlines t List.mem_cons_self
      rw [hname] at hline
      cases hline
    exact atTypeParams_of_ne_ident hname _
  | nil =>
    obtain hne | ⟨first, second, more, rfl, hsecond⟩ := h
    · exact absurd rfl hne
    · obtain ⟨_, _, _, heq, hfirst, -⟩ := hps.second
      cases heq
      show atTypeParams (l :: first :: second :: (more ++ rest)) = false
      rw [atTypeParams_name hl hfirst]
      rcases hsecond with hsecond | hsecond <;> rw [hsecond] <;> rfl

/-! ## Reading declarations -/

/-- The tokens are read as one declaration, or as one that is dropped, before anything that may
follow a type. -/
def SpecReadsAs (d : Option TypeDecl) (ts : List Token) : Prop :=
  (∃ name us, ts = name :: us ∧ name.kind = .ident) ∧
    ∀ rest, Ends rest → (typeSpec (ts ++ rest)).result = .ok (d, rest)

/-- A plain declaration is read as what it spells. -/
theorem SpecSpells.readsAs {d : TypeDecl} {ts : List Token} (h : SpecSpells d ts) :
    SpecReadsAs (some d) ts := by
  obtain ⟨name, us, rfl, hname⟩ := h.begins
  exact ⟨⟨name, us, rfl, hname⟩, fun rest hrest => typeSpec_spells h hrest⟩

/-- A declaration in which parameters are recognised is dropped. -/
theorem typeSpec_parameters {name l r : Token} {type : GoType} {ps eqs ts rest : List Token}
    (hname : name.kind = .ident) (hl : l.kind = .lbracket) (hps : Parameters ps)
    (hplain : ¬Mistaken [] ps) (hr : r.kind = .rbracket) (heqs : Assigns eqs)
    (htype : ReadsAs maxTypeDepth type ts) (hrest : Ends rest) :
    (typeSpec (name :: l :: (ps ++ r :: (eqs ++ (ts ++ rest))))).result = .ok (none, rest) := by
  have hparams := atTypeParams_parameters hl hps hplain (r :: (eqs ++ (ts ++ rest)))
  have hskip := skipGroup_group (by rw [hl]; rfl) hps.matched.balanced (by rw [hr]; rfl)
    (eqs ++ (ts ++ rest))
  have hassign : skipKind .assign (eqs ++ (ts ++ rest)) = ts ++ rest := by
    rcases heqs with rfl | ⟨t, ht, rfl⟩
    · exact htype.skipKind_assign rest
    · exact if_pos ht
  unfold typeSpec
  rw [identifier_cons hname, result_bind_of_ok rfl]
  dsimp only
  rw [if_pos hparams, hskip, result_bind_of_ok rfl, hassign, result_bind_of_ok (htype rest hrest)]
  rfl

/-- A declaration whose parameters are mistaken is recorded as an array of its type. -/
theorem typeSpec_mistaken {name l r : Token} {type : GoType} {lines ps ts rest : List Token}
    (hname : name.kind = .ident) (hl : l.kind = .lbracket)
    (hlines : ∀ t ∈ lines, t.kind.isNewline = true) (hps : Parameters ps)
    (hmistaken : Mistaken lines ps) (hr : r.kind = .rbracket)
    (htype : ReadsAs (maxTypeDepth - 1) type ts) (hrest : Ends rest) :
    (typeSpec (name :: l :: (lines ++ (ps ++ r :: (ts ++ rest))))).result =
      .ok (some ⟨name.lexeme, .array (some (lengthText (lines ++ ps))) type⟩, rest) := by
  have hparams := atTypeParams_mistaken hl hlines hps hmistaken (r :: (ts ++ rest))
  have hlen : Matched (lines ++ ps) := (matched_lines hlines).append hps.matched
  have hne : lines ++ ps ≠ [] := by
    obtain ⟨first, second, more, rfl, -⟩ := hps.second
    exact List.append_ne_nil_of_right_ne_nil _ (List.cons_ne_nil _ _)
  rw [← List.append_assoc] at hparams ⊢
  have harray : (typeExpr maxTypeDepth (l :: (lines ++ ps ++ r :: (ts ++ rest)))).result =
      .ok (.array (some (lengthText (lines ++ ps))) type, rest) := by
    show (typeForm (typeExpr (maxTypeDepth - 1)) _).result = _
    simp only [typeForm, hl]
    exact arrayType_length hlen hne hr (htype rest hrest)
  have hassign : skipKind .assign (l :: (lines ++ ps ++ r :: (ts ++ rest))) =
      l :: (lines ++ ps ++ r :: (ts ++ rest)) :=
    if_neg (by rw [hl]; decide)
  unfold typeSpec
  rw [identifier_cons hname, result_bind_of_ok rfl]
  dsimp only
  rw [if_neg (by rw [hparams]; decide), hassign, result_bind_of_ok harray]
  rfl

/-- A generic declaration is read as what it makes. -/
theorem GenericSpells.readsAs {d : Option TypeDecl} {ts : List Token} (h : GenericSpells d ts) :
    SpecReadsAs d ts := by
  cases h with
  | dropped hname hl hps hplain hr heqs htype =>
    refine ⟨⟨_, _, rfl, hname⟩, fun rest hrest => ?_⟩
    have hspec := typeSpec_parameters hname hl hps hplain hr heqs htype hrest
    simpa using hspec
  | recorded hname hl hlines hps hmistaken hr htype =>
    refine ⟨⟨_, _, rfl, hname⟩, fun rest hrest => ?_⟩
    have hspec := typeSpec_mistaken hname hl hlines hps hmistaken hr htype hrest
    simpa using hspec

/-! ## Sources -/

/-- A declaration of a source: a generic one, or any other that is read. -/
inductive DeclSpells : Option TypeDecl → List Token → Prop where
  | generic {d : Option TypeDecl} {ts : List Token} (h : GenericSpells d ts) : DeclSpells d ts
  | other {d : Option TypeDecl} {ts : List Token} (h : SpecReadsAs d ts) : DeclSpells d ts

/-- What stands at the top of a source, with the declarations that it makes: one declaration, a
group of them, or any other statement. -/
inductive StatementSpells : List TypeDecl → List Token → Prop where
  | single {word : Token} {d : Option TypeDecl} {ts : List Token}
      (hword : word.kind = .keyword .typeDecl) (hd : DeclSpells d ts) :
      StatementSpells d.toList (word :: ts)
  | group {word l r : Token} {ds : List (Option TypeDecl)} {ts : List Token}
      (hword : word.kind = .keyword .typeDecl) (hl : l.kind = .lparen)
      (hds : Separated DeclSpells ds ts) (hr : r.kind = .rparen) :
      StatementSpells (ds.flatMap Option.toList) (word :: l :: (ts ++ [r]))
  | other {first : Token} {ts : List Token} (hfirst : first.kind ≠ .keyword .typeDecl)
      (hts : Balanced true (first :: ts)) : StatementSpells [] (first :: ts)

/-- A declaration of a source, generic or not, is read as what it makes. -/
theorem DeclSpells.readsAs {d : Option TypeDecl} {ts : List Token} (h : DeclSpells d ts) :
    SpecReadsAs d ts := by
  cases h with
  | generic h => exact h.readsAs
  | other h => exact h

/-- One turn of the loop over a group reads one declaration. -/
theorem typeGroup_readsAs {d : Option TypeDecl} {ds : List TypeDecl}
    {seps ts after rest : List Token} {turns : Nat} (hseps : Separators seps)
    (hd : SpecReadsAs d ts) (hafter : ItemEnds .rparen after)
    (hmore : (typeGroup turns after).result = .ok (ds, rest)) :
    (typeGroup (turns + 1) (seps ++ (ts ++ after))).result = .ok (d.toList ++ ds, rest) := by
  obtain ⟨⟨t, us, rfl, ht⟩, hread⟩ := hd
  have hspec := hread after (hafter.ends rfl)
  obtain ⟨u, vs, rfl, hu⟩ := hafter
  rw [typeGroup, List.cons_append, skipSeparators_append hseps (by rw [ht]; rfl)]
  dsimp only
  rw [if_neg (by rw [ht]; decide), ← List.cons_append, result_bind_of_ok hspec]
  show (if u.kind.isSeparator = true ∨ u.kind = .rparen then _ else _ : Reading _).result = _
  rw [if_pos hu, result_bind_of_ok hmore]
  rfl

/-- The declarations of a group are read one by one. -/
theorem typeGroup_declSpells {ds : List (Option TypeDecl)} {ts : List Token}
    (h : Separated DeclSpells ds ts) {r : Token} (hr : r.kind = .rparen) (rest : List Token)
    {turns : Nat} (hturns : ts.length < turns) :
    (typeGroup turns (ts ++ r :: rest)).result = .ok (ds.flatMap Option.toList, rest) := by
  refine h.makes
    (P := fun k us ds => (typeGroup k us).result = .ok (ds.flatMap Option.toList, rest))
    ?_ ?_ ?_ ?_ hturns
  · intro d us hd
    obtain ⟨⟨t, vs, rfl, _⟩, _⟩ := hd.readsAs
    exact List.cons_ne_nil t vs
  · intro k sep us ds hsep hmore
    rw [typeGroup_cons hsep, hmore]
  · intro seps k hseps
    rw [typeGroup, skipSeparators_append hseps (by rw [hr]; rfl)]
    dsimp only
    rw [if_pos hr]
    rfl
  · intro k d ds seps us after hseps hd hafter hmore
    refine typeGroup_readsAs hseps hd.readsAs ?_ hmore
    rcases hafter with rfl | ⟨sep, vs, rfl, hsep⟩
    · exact ⟨r, rest, rfl, .inr hr⟩
    · exact ⟨sep, vs, rfl, .inl hsep⟩

/-- A statement takes one turn of the loop over the statements. -/
theorem statements_statement {turns : Nat} {ds more : List TypeDecl} {seps ts after : List Token}
    (hseps : Separators seps) (h : StatementSpells ds ts) (hafter : StatementEnds after)
    (hmore : (statements turns after).result = .ok more) :
    (statements (turns + 1) (seps ++ (ts ++ after))).result = .ok (ds ++ more) := by
  cases h with
  | @single word d ts hword hd =>
    obtain ⟨⟨t, us, rfl, ht⟩, hread⟩ := hd.readsAs
    exact statements_decls hseps hword (typeDecls_single ht (hread after hafter.ends)) hmore
  | @group word l r ds us hword hl hds hr =>
    have hturns : us.length < (us ++ r :: after).length + 1 := by
      simp only [List.length_append]
      omega
    have hdecls : (typeDecls (l :: (us ++ r :: after))).result =
        .ok (ds.flatMap Option.toList, after) := by
      unfold typeDecls
      dsimp only
      rw [if_pos hl]
      exact typeGroup_declSpells hds hr after hturns
    have hturn := statements_decls hseps hword hdecls hmore
    simpa using hturn
  | other hfirst hts => exact statements_step hseps (.other hfirst hts) hafter hmore

/-- Every generic declaration whose parameters are not mistaken is dropped, alone or in a group, and
all that is declared around it is read as it is without it. One with parameters that are mistaken
is an array. -/
theorem parse_generics {source : String} {word name : Token} {items : List (List TypeDecl)}
    {seps ts : List Token} (hseps : Separators seps) (hword : word.kind = .keyword .package)
    (hname : name.kind = .ident) (hitems : Separated StatementSpells items ts)
    (hscan : Token.scan source.toList = .ok (seps ++ word :: name :: ts)) :
    (parse source).result = .ok ⟨name.lexeme, items.flatten⟩ := by
  have hstatements : (statements (ts.length + 1) ts).result = .ok items.flatten := by
    refine statements_makes ?_ statements_statement hitems (Nat.lt_succ_self _)
    rintro ds us hitem
    cases hitem <;> exact List.cons_ne_nil _ _
  rw [parse_of_scan hscan, ofTokens_statements hseps hword hname hstatements]
  rfl

/-- The tokens of a source with a group, a generic declaration and a declaration in it, and with
another generic declaration whose parameters begin on a line of their own. -/
def genericSampleTokens : List Token :=
  [⟨.keyword .package, [], "package".toList, 1⟩, ⟨.ident, [' '], ['p'], 1⟩,
    ⟨.newline, [], ['\n'], 1⟩,
    ⟨.keyword .typeDecl, [], "type".toList, 2⟩, ⟨.lparen, [' '], ['('], 2⟩,
    ⟨.ident, [], ['G'], 2⟩, ⟨.lbracket, [], ['['], 2⟩, ⟨.ident, [], ['K'], 2⟩,
    ⟨.comma, [], [','], 2⟩, ⟨.ident, [' '], ['V'], 2⟩, ⟨.operator, [' '], ['~'], 2⟩,
    ⟨.ident, [], "int".toList, 2⟩, ⟨.comma, [], [','], 2⟩, ⟨.newline, [], ['\n'], 2⟩,
    ⟨.rbracket, [], [']'], 3⟩, ⟨.ident, [' '], ['V'], 3⟩, ⟨.semicolon, [], [';'], 3⟩,
    ⟨.ident, [' '], ['A'], 3⟩, ⟨.ident, [' '], "int".toList, 3⟩, ⟨.rparen, [], [')'], 3⟩,
    ⟨.newline, [], ['\n'], 3⟩,
    ⟨.keyword .typeDecl, [], "type".toList, 4⟩, ⟨.ident, [' '], ['H'], 4⟩,
    ⟨.lbracket, [], ['['], 4⟩, ⟨.newline, [], ['\n'], 4⟩, ⟨.ident, [], ['T'], 5⟩,
    ⟨.ident, [' '], "any".toList, 5⟩, ⟨.rbracket, [], [']'], 5⟩, ⟨.ident, [' '], ['T'], 5⟩]

/-- The tokens of the sample are those of its text. -/
theorem scan_genericSample : Token.scan
    "package p\ntype (G[K, V ~int,\n] V; A int)\ntype H[\nT any] T".toList =
      .ok genericSampleTokens := by
  have hlaid : Token.Laid 1 [] genericSampleTokens := by decide +kernel
  have htext : Token.source genericSampleTokens ++ [] =
      "package p\ntype (G[K, V ~int,\n] V; A int)\ntype H[\nT any] T".toList := by
    decide +kernel
  rw [← htext]
  exact Token.scan_source hlaid

/-- One generic declaration is dropped, and one is mistaken for an array: a case of the general
theorem. -/
theorem parse_generics_genericSample :
    Token.scan "package p\ntype (G[K, V ~int,\n] V; A int)\ntype H[\nT any] T".toList =
        .ok genericSampleTokens ∧
      (parse "package p\ntype (G[K, V ~int,\n] V; A int)\ntype H[\nT any] T").result =
        .ok ⟨"p", [⟨"A", .ident "int"⟩, ⟨"H", .array (some "T any") (.ident "T")⟩]⟩ := by
  have hnone : Separators [] := fun t ht => by cases ht
  have hline : Separators [⟨.newline, [], ['\n'], 1⟩] := List.forall_mem_singleton.mpr rfl
  -- the names `K` and `V` with their constraint, and the trailing comma
  have hnames : MoreNames _ ((genericSampleTokens.drop 8).take 2) :=
    @MoreNames.cons _ _ [] [] [] rfl (fun t ht => by cases ht) rfl .nil
  have hconstraint : Constraint ((genericSampleTokens.drop 10).take 2) :=
    .intro rfl (.cons rfl rfl (.cons rfl rfl .nil))
  have hparameters : Parameters ((genericSampleTokens.drop 7).take 7) :=
    @Parameters.trailing _ _ _ [_, _] [_, _] [_] rfl hnames hconstraint rfl
      (List.forall_mem_singleton.mpr rfl)
  have hplain : ¬Mistaken [] ((genericSampleTokens.drop 7).take 7) := by
    rintro (hne | ⟨first, second, more, heq, hsecond⟩)
    · exact hne rfl
    · cases heq
      rcases hsecond with hsecond | hsecond <;> cases hsecond
  have hname : ∀ {depth : Nat} {t : Token}, t.kind = .ident →
      ReadsAs (depth + 1) (.ident t.lexeme) [t] := by
    intro depth t ht
    have hspells : Spells (depth + 1) (.ident t.lexeme) [t] := Form.ident ht
    exact .of_spells hspells
  have hdropped : DeclSpells none ((genericSampleTokens.drop 5).take 11) :=
    .generic (@GenericSpells.dropped _ _ _ _ ((genericSampleTokens.drop 7).take 7) [] [_] rfl rfl
      hparameters hplain rfl (.inl rfl) (hname rfl))
  have hdecl : SpecSpells _ ((genericSampleTokens.drop 17).take 2) :=
    @SpecSpells.intro _ _ [] _ rfl (.inl rfl) (Form.ident rfl)
  have hgroup : StatementSpells _ ((genericSampleTokens.drop 3).take 17) :=
    .group rfl rfl (@Separated.cons _ _ [] _ _ _ _ _ hnone hdropped rfl
      (@Separated.last _ _ [] _ _ hnone (.other hdecl.readsAs))) rfl
  -- the name `T` after the line end
  have hmistaken : DeclSpells _ (genericSampleTokens.drop 22) :=
    .generic (@GenericSpells.recorded _ _ _ _ [_] [_, _] [_] rfl rfl
      (List.forall_mem_singleton.mpr rfl)
      (@Parameters.last _ _ [] _ rfl .nil (.intro rfl (.cons rfl rfl .nil)))
      (.inl (List.cons_ne_nil _ _)) rfl (hname rfl))
  have hitems : Separated StatementSpells _ (genericSampleTokens.drop 2) :=
    @Separated.cons _ _ [_] _ _ _ _ _ hline hgroup rfl
      (@Separated.last _ _ [] _ _ hnone (.single rfl hmistaken))
  exact ⟨scan_genericSample,
    @parse_generics _ _ _ _ [] _ hnone rfl rfl hitems scan_genericSample⟩

/-- The tokens of a source with three generic declarations: their parameters begin with a line end,
with a constraint that is a struct type, and with one that is a channel. -/
def mistakenSampleTokens : List Token :=
  [⟨.keyword .package, [], "package".toList, 1⟩, ⟨.ident, [' '], ['p'], 1⟩,
    ⟨.newline, [], ['\n'], 1⟩,
    ⟨.keyword .typeDecl, [], "type".toList, 2⟩, ⟨.ident, [' '], ['G'], 2⟩,
    ⟨.lbracket, [], ['['], 2⟩, ⟨.newline, [], ['\n'], 2⟩, ⟨.ident, ['\t'], ['T'], 3⟩,
    ⟨.ident, [' '], "any".toList, 3⟩, ⟨.comma, [], [','], 3⟩, ⟨.newline, [], ['\n'], 3⟩,
    ⟨.rbracket, [], [']'], 4⟩, ⟨.ident, [' '], ['T'], 4⟩, ⟨.newline, [], ['\n'], 4⟩,
    ⟨.keyword .typeDecl, [], "type".toList, 5⟩, ⟨.ident, [' '], ['S'], 5⟩,
    ⟨.lbracket, [], ['['], 5⟩, ⟨.ident, [], ['T'], 5⟩,
    ⟨.keyword .struct, [' '], "struct".toList, 5⟩, ⟨.lbrace, [], ['\x7b'], 5⟩,
    ⟨.rbrace, [], ['\x7d'], 5⟩, ⟨.rbracket, [], [']'], 5⟩, ⟨.ident, [' '], ['T'], 5⟩,
    ⟨.newline, [], ['\n'], 5⟩,
    ⟨.keyword .typeDecl, [], "type".toList, 6⟩, ⟨.ident, [' '], ['C'], 6⟩,
    ⟨.lbracket, [], ['['], 6⟩, ⟨.ident, [], ['T'], 6⟩, ⟨.arrow, [' '], "<-".toList, 6⟩,
    ⟨.keyword .chan, [], "chan".toList, 6⟩, ⟨.ident, [' '], "int".toList, 6⟩,
    ⟨.rbracket, [], [']'], 6⟩, ⟨.ident, [' '], ['T'], 6⟩]

/-- All three are recorded, as arrays. -/
theorem parse_not_dropping :
    ∃ p : Package, (parse ("package p\ntype G[\n\tT any,\n] T\n" ++
      "type S[T struct\x7b\x7d] T\ntype C[T <-chan int] T")).result = .ok p ∧
      p.decls.map TypeDecl.name = ["G", "S", "C"] := by
  have hlaid : Token.Laid 1 [] mistakenSampleTokens := by decide +kernel
  have htext : String.ofList (Token.source mistakenSampleTokens ++ []) =
      "package p\ntype G[\n\tT any,\n] T\n" ++
        "type S[T struct\x7b\x7d] T\ntype C[T <-chan int] T" := by
    decide +kernel
  have hparse := parse_laid (p := ⟨"p", [⟨"G", .array (some "T any,") (.ident "T")⟩,
    ⟨"S", .array (some "T struct\x7b\x7d") (.ident "T")⟩,
    ⟨"C", .array (some "T <-chan int") (.ident "T")⟩]⟩) rfl hlaid
  rw [htext] at hparse
  exact ⟨_, hparse, rfl⟩

end CodecGen.Package
