import CodecGen.Proofs.Package.Depth
import CodecGen.Proofs.Package.Statements

/-!
# Array lengths

The declaration of an array type and a generic declaration begin alike, with a name and a bracket,
and the two tokens after the bracket have to tell them apart. A name and an operator are taken for
the beginning of type parameters, so that an array whose length begins with them is dropped. Every
other length is kept as it is written (`parse_lengths`).
-/

namespace CodecGen.Package

open Logged (result_bind_of_ok)

/-! ## Lengths -/

/-- The tokens are an opening bracket and a closing one of the same shape. -/
def Pairs (l r : Token) : Prop :=
  (l.kind = .lparen ∧ r.kind = .rparen) ∨ (l.kind = .lbracket ∧ r.kind = .rbracket) ∨
    (l.kind = .lbrace ∧ r.kind = .rbrace)

/-- The brackets of some tokens pair up, each with one of its own shape. -/
inductive Matched : List Token → Prop where
  | nil : Matched []
  | cons {t : Token} {ts : List Token} (hopen : t.kind.opens = false)
      (hclose : t.kind.closes = false) (hts : Matched ts) : Matched (t :: ts)
  | group {l r : Token} {inside ts : List Token} (hpair : Pairs l r) (hinside : Matched inside)
      (hts : Matched ts) : Matched (l :: (inside ++ r :: ts))

/-- The first of a pair of brackets opens. -/
theorem Pairs.opens {l r : Token} (h : Pairs l r) : l.kind.opens = true := by
  obtain ⟨h, -⟩ | ⟨h, -⟩ | ⟨h, -⟩ := h <;> rw [h] <;> rfl

/-- The second of a pair of brackets closes. -/
theorem Pairs.closes {l r : Token} (h : Pairs l r) : r.kind.closes = true := by
  obtain ⟨-, h⟩ | ⟨-, h⟩ | ⟨-, h⟩ := h <;> rw [h] <;> rfl

/-- Brackets that pair up by their shapes pair up without them. -/
theorem Matched.balanced {ts : List Token} (h : Matched ts) : Balanced false ts := by
  induction h with
  | nil => exact .nil
  | cons hopen hclose _ ih => exact .cons hopen hclose (fun h => by cases h) ih
  | group hpair _ _ ihinside ih => exact .group hpair.opens hpair.closes ihinside ih

/-- Matched tokens do not begin with a closing bracket. -/
theorem Matched.closes_head {t : Token} {ts : List Token} (h : Matched (t :: ts)) :
    t.kind.closes = false := by
  cases h with
  | cons _ hclose _ => exact hclose
  | group hpair _ _ =>
    obtain ⟨h, -⟩ | ⟨h, -⟩ | ⟨h, -⟩ := hpair <;> rw [h] <;> rfl

/-- The text of a length: the source from its first token to its last, without blanks at its ends.
-/
def lengthText (len : List Token) : String :=
  String.ofList (Text.trim (Token.spanText len))

/-! ## Reading lengths -/

/-- The number of brackets and parentheses that are open after a token of some class. -/
def depthAfter (kind : TokenKind) (depth : Nat) : Nat :=
  if kind = .lbracket ∨ kind = .lparen then depth + 1
  else if kind = .rbracket ∨ kind = .rparen then depth - 1
  else depth

/-- The first token of a length that is not its end is read into it, at the depth that follows. -/
theorem lengthTokens_cons {t : Token} {depth : Nat} (ht : ¬(t.kind = .rbracket ∧ depth = 0))
    {ts len rest : List Token}
    (h : (lengthTokens (depthAfter t.kind depth) ts).result = .ok (len, rest)) :
    (lengthTokens depth (t :: ts)).result = .ok (t :: len, rest) := by
  rw [lengthTokens, if_neg ht]
  exact result_bind_of_ok h _

/-- Matched tokens belong to the length, whatever number of brackets is open around them. -/
theorem lengthTokens_matched {ts : List Token} (h : Matched ts) {depth : Nat}
    {us len rest : List Token} (hus : (lengthTokens depth us).result = .ok (len, rest)) :
    (lengthTokens depth (ts ++ us)).result = .ok (ts ++ len, rest) := by
  induction h generalizing depth us len with
  | nil => exact hus
  | @cons t ts hopen hclose _ ih =>
    have hdepth : depthAfter t.kind depth = depth := by
      unfold depthAfter
      rw [if_neg, if_neg]
      · rintro (h | h) <;> rw [h] at hclose <;> cases hclose
      · rintro (h | h) <;> rw [h] at hopen <;> cases hopen
    refine lengthTokens_cons ?_ (by rw [hdepth]; exact ih hus)
    rintro ⟨hkind, -⟩
    rw [hkind] at hclose
    cases hclose
  | @group l r inside ts hpair hinside hts ihinside ih =>
    have hl : ¬(l.kind = .rbracket ∧ depth = 0) := by
      obtain ⟨h, -⟩ | ⟨h, -⟩ | ⟨h, -⟩ := hpair <;> rw [h] <;> rintro ⟨h, -⟩ <;> cases h
    have hr : ¬(r.kind = .rbracket ∧ depthAfter l.kind depth = 0) := by
      obtain ⟨h, h'⟩ | ⟨h, h'⟩ | ⟨h, h'⟩ := hpair <;> rw [h, h'] <;> simp [depthAfter]
    -- the closing bracket takes back what the opening one adds
    have hdepth : depthAfter r.kind (depthAfter l.kind depth) = depth := by
      obtain ⟨h, h'⟩ | ⟨h, h'⟩ | ⟨h, h'⟩ := hpair <;> rw [h, h'] <;> simp [depthAfter]
    have hclose := lengthTokens_cons hr (by rw [hdepth]; exact ih hus)
    have hgroup := lengthTokens_cons hl (ihinside hclose)
    rw [List.cons_append, List.cons_append, List.append_assoc, List.append_assoc]
    exact hgroup

/-- A length is read through the bracket that closes it. -/
theorem lengthTokens_closed {len : List Token} (hlen : Matched len) {r : Token}
    (hr : r.kind = .rbracket) (rest : List Token) :
    (lengthTokens 0 (len ++ r :: rest)).result = .ok (len, r :: rest) := by
  have hend : (lengthTokens 0 (r :: rest)).result = .ok ([], r :: rest) := by
    rw [lengthTokens, if_pos ⟨hr, rfl⟩]
    rfl
  have hall := lengthTokens_matched hlen hend
  rwa [List.append_nil] at hall

/-- An array whose length has matched brackets is read with the text of the length. -/
theorem arrayType_length {inner : TypeReader} {len : List Token} (hlen : Matched len)
    (hne : len ≠ []) {r : Token} (hr : r.kind = .rbracket) {elem : GoType} {us rest : List Token}
    (helem : (inner us).result = .ok (elem, rest)) :
    (arrayType inner (len ++ r :: us)).result =
      .ok (.array (some (lengthText len)) elem, rest) := by
  have hnext : next? (len ++ r :: us) ≠ some .rbracket := by
    obtain ⟨t, ts, rfl⟩ := List.exists_cons_of_ne_nil hne
    intro hnext
    have hclose := hlen.closes_head
    rw [Option.some.inj hnext] at hclose
    cases hclose
  unfold arrayType
  rw [if_neg hnext, result_bind_of_ok (lengthTokens_closed hlen hr us)]
  dsimp only [List.tail_cons]
  rw [result_bind_of_ok helem]
  rfl

/-! ## Declarations -/

/-- A length that nothing takes for type parameters: if it begins with a name, the name is the whole
length, or an asterisk, a parenthesis or a dot follows. -/
def PlainLength (len : List Token) : Prop :=
  len ≠ [] ∧ ∀ first next more, len = first :: next :: more → first.kind = .ident →
    next.kind = .star ∨ next.kind = .lparen ∨ next.kind = .dot

/-- Single declarations of array types, with what they make. -/
inductive LengthSpells : List TypeDecl → List Token → Prop where
  | recorded {word name l r : Token} {elem : GoType} {len ts : List Token}
      (hword : word.kind = .keyword .typeDecl) (hname : name.kind = .ident)
      (hl : l.kind = .lbracket) (hlen : Matched len) (hplain : PlainLength len)
      (hr : r.kind = .rbracket) (helem : ReadsAs (maxTypeDepth - 1) elem ts) :
      LengthSpells [⟨name.lexeme, .array (some (lengthText len)) elem⟩]
        (word :: name :: l :: (len ++ r :: ts))
  /-- A length that begins with a name and an operator drops the declaration. -/
  | dropped {word name l first op r : Token} {elem : GoType} {more ts : List Token}
      (hword : word.kind = .keyword .typeDecl) (hname : name.kind = .ident)
      (hl : l.kind = .lbracket) (hfirst : first.kind = .ident) (hop : op.kind = .operator)
      (hmore : Matched more) (hr : r.kind = .rbracket)
      (helem : ReadsAs (maxTypeDepth - 1) elem ts) :
      LengthSpells [] (word :: name :: l :: first :: op :: (more ++ r :: ts))

/-- What stands at the top of a source, arrays of any length among it. -/
def ItemOrLengthSpells (ds : List TypeDecl) (ts : List Token) : Prop :=
  ItemSpells ds ts ∨ LengthSpells ds ts

/-- A plain length is not taken for type parameters. -/
theorem atTypeParams_plain {l r : Token} {len : List Token} (hplain : PlainLength len)
    (hr : r.kind = .rbracket) (us : List Token) :
    atTypeParams (l :: (len ++ r :: us)) = false := by
  obtain ⟨hne, hfirst⟩ := hplain
  obtain ⟨first, more, rfl⟩ := List.exists_cons_of_ne_nil hne
  by_cases hname : first.kind = .ident
  · cases more with
    | nil => by_cases hl : l.kind = .lbracket <;> simp [atTypeParams, hl, hname, hr]
    | cons next more =>
      rcases hfirst first next more rfl hname with hnext | hnext | hnext <;>
        by_cases hl : l.kind = .lbracket <;> simp [atTypeParams, hl, hname, hnext]
  · exact atTypeParams_of_ne_ident hname _

/-- An array whose length nothing takes for type parameters is read with the length as it is
written. -/
theorem typeSpec_recorded {name l r : Token} {elem : GoType} {len ts rest : List Token}
    (hname : name.kind = .ident) (hl : l.kind = .lbracket) (hlen : Matched len)
    (hplain : PlainLength len) (hr : r.kind = .rbracket)
    (helem : ReadsAs (maxTypeDepth - 1) elem ts) (hrest : Ends rest) :
    (typeSpec (name :: l :: (len ++ r :: (ts ++ rest)))).result =
      .ok (some ⟨name.lexeme, .array (some (lengthText len)) elem⟩, rest) := by
  have hparams : atTypeParams (l :: (len ++ r :: (ts ++ rest))) = false :=
    atTypeParams_plain hplain hr _
  have hassign : skipKind .assign (l :: (len ++ r :: (ts ++ rest))) =
      l :: (len ++ r :: (ts ++ rest)) :=
    if_neg (by rw [hl]; decide)
  have htype : (typeExpr maxTypeDepth (l :: (len ++ r :: (ts ++ rest)))).result =
      .ok (.array (some (lengthText len)) elem, rest) := by
    show (typeForm (typeExpr (maxTypeDepth - 1)) _).result = _
    simp only [typeForm, hl]
    exact arrayType_length hlen hplain.1 hr (helem rest hrest)
  unfold typeSpec
  rw [identifier_cons hname, result_bind_of_ok rfl]
  dsimp only
  rw [if_neg (by simp [hparams]), hassign, result_bind_of_ok htype]
  rfl

/-- An array whose length begins with a name and an operator is passed over. -/
theorem typeSpec_dropped {name l first op r : Token} {elem : GoType} {more ts rest : List Token}
    (hname : name.kind = .ident) (hl : l.kind = .lbracket) (hfirst : first.kind = .ident)
    (hop : op.kind = .operator) (hmore : Matched more) (hr : r.kind = .rbracket)
    (helem : ReadsAs (maxTypeDepth - 1) elem ts) (hrest : Ends rest) :
    (typeSpec (name :: l :: first :: op :: (more ++ r :: (ts ++ rest)))).result =
      .ok (none, rest) := by
  have hparams : atTypeParams (l :: first :: op :: (more ++ r :: (ts ++ rest))) = true := by
    simp [atTypeParams, hl, hfirst, hop]
  have hinside : Balanced false (first :: op :: more) :=
    (Matched.cons (by rw [hfirst]; rfl) (by rw [hfirst]; rfl)
      (Matched.cons (by rw [hop]; rfl) (by rw [hop]; rfl) hmore)).balanced
  have hskip := skipGroup_group (by rw [hl]; rfl) hinside (by rw [hr]; rfl) (ts ++ rest)
  rw [List.cons_append, List.cons_append] at hskip
  have htype : (typeExpr maxTypeDepth (ts ++ rest)).result = .ok (elem, rest) :=
    helem.succ rest hrest
  unfold typeSpec
  rw [identifier_cons hname, result_bind_of_ok rfl]
  dsimp only
  rw [if_pos hparams, hskip, result_bind_of_ok rfl, helem.skipKind_assign,
    result_bind_of_ok htype]
  rfl

/-- The declaration of an array takes one turn of the loop over the statements. -/
theorem statements_length {turns : Nat} {ds more : List TypeDecl} {seps ts after : List Token}
    (hseps : Separators seps) (h : LengthSpells ds ts) (hafter : StatementEnds after)
    (hmore : (statements turns after).result = .ok more) :
    (statements (turns + 1) (seps ++ (ts ++ after))).result = .ok (ds ++ more) := by
  cases h with
  | recorded hword hname hl hlen hplain hr helem =>
    have hspec := typeSpec_recorded hname hl hlen hplain hr helem hafter.ends
    have hturn := statements_decls hseps hword (typeDecls_single hname hspec) hmore
    simp only [List.cons_append, List.append_assoc]
    exact hturn
  | dropped hword hname hl hfirst hop hlen hr helem =>
    have hspec := typeSpec_dropped hname hl hfirst hop hlen hr helem hafter.ends
    have hturn := statements_decls hseps hword (typeDecls_single hname hspec) hmore
    simp only [List.cons_append, List.append_assoc]
    exact hturn

/-- Among any other items, the declaration of an array is read with its length as it is written and
the type of its elements, unless the length begins with a name and an operator, which drops it. -/
theorem parse_lengths {word name : Token} {items : List (List TypeDecl)} {seps ts : List Token}
    {tail : List Char} (hseps : Separators seps) (hword : word.kind = .keyword .package)
    (hname : name.kind = .ident)
    (hitems : Separated ItemOrLengthSpells items ts)
    (hlaid : Token.Laid 1 tail (seps ++ word :: name :: ts)) :
    (parse (String.ofList (Token.source (seps ++ word :: name :: ts) ++ tail))).result =
      .ok ⟨name.lexeme, items.flatten⟩ := by
  have hstatements : (statements (ts.length + 1) ts).result = .ok items.flatten := by
    refine statements_makes ?_ ?_ hitems (Nat.lt_succ_self _)
    · rintro ds us (hitem | hitem)
      · exact hitem.ne_nil
      · cases hitem <;> exact List.cons_ne_nil _ _
    · rintro turns ds more seps us after hseps (hitem | hitem) hafter hmore
      · exact statements_step hseps hitem hafter hmore
      · exact statements_length hseps hitem hafter hmore
  exact parse_laid (ofTokens_statements hseps hword hname hstatements) hlaid

/-- The tokens of a source with two arrays, whose lengths are a name and an operation on it. -/
def lengthSampleTokens : List Token :=
  [⟨.keyword .package, [], "package".toList, 1⟩, ⟨.ident, [' '], ['p'], 1⟩,
    ⟨.newline, [], ['\n'], 1⟩,
    ⟨.keyword .typeDecl, [], "type".toList, 2⟩, ⟨.ident, [' '], ['A'], 2⟩,
    ⟨.lbracket, [' '], ['['], 2⟩, ⟨.ident, [], ['N'], 2⟩, ⟨.operator, [' '], ['+'], 2⟩,
    ⟨.number, [], ['1'], 2⟩, ⟨.rbracket, [], [']'], 2⟩, ⟨.ident, [], "int".toList, 2⟩,
    ⟨.newline, [], ['\n'], 2⟩,
    ⟨.keyword .typeDecl, [], "type".toList, 3⟩, ⟨.ident, [' '], ['B'], 3⟩,
    ⟨.lbracket, [' '], ['['], 3⟩, ⟨.ident, [], ['N'], 3⟩, ⟨.star, [' '], ['*'], 3⟩,
    ⟨.number, [], ['2'], 3⟩, ⟨.rbracket, [], [']'], 3⟩, ⟨.ident, [], "int".toList, 3⟩]

/-- The package that they are read as. -/
def lengthSamplePackage : Package :=
  ⟨"p", [⟨"B", .array (some "N *2") (.ident "int")⟩]⟩

/-- The tokens of the sample stand where the scan puts them. -/
theorem laid_lengthSampleTokens : Token.Laid 1 [] lengthSampleTokens := by
  decide +kernel

/-- The text of the sample is its source. -/
theorem source_lengthSampleTokens : String.ofList (Token.source lengthSampleTokens ++ []) =
    "package p\ntype A [N +1]int\ntype B [N *2]int" := by
  decide +kernel

/-- A sum is dropped and a product is recorded: a case of the general theorem. -/
theorem parse_lengths_sampleTokens :
    Token.Laid 1 [] lengthSampleTokens ∧
      (parse "package p\ntype A [N +1]int\ntype B [N *2]int").result =
        .ok lengthSamplePackage := by
  have hnone : Separators [] := fun t ht => by cases ht
  have hline : Separators [⟨.newline, [], ['\n'], 1⟩] := List.forall_mem_singleton.mpr rfl
  have hint : ∀ line, ReadsAs 63 (.ident "int") [⟨.ident, [], "int".toList, line⟩] := by
    intro line
    have hform : Spells 63 (.ident (Token.lexeme ⟨.ident, [], "int".toList, line⟩)) [_] :=
      Form.ident rfl
    exact .of_spells hform
  have hdropped : ItemOrLengthSpells [] ((lengthSampleTokens.drop 3).take 8) :=
    Or.inr (@LengthSpells.dropped _ _ _ _ _ _ _ [_] [_] rfl rfl rfl rfl rfl (.cons rfl rfl .nil)
      rfl (hint 2))
  have hplain : PlainLength ((lengthSampleTokens.drop 15).take 3) := by
    refine ⟨List.cons_ne_nil _ _, ?_⟩
    rintro first next more heq -
    obtain ⟨-, htail⟩ := List.cons.inj heq
    obtain ⟨rfl, -⟩ := List.cons.inj htail
    exact .inl rfl
  have hrecorded : ItemOrLengthSpells _ (lengthSampleTokens.drop 12) :=
    Or.inr (@LengthSpells.recorded _ _ _ _ _ [_, _, _] [_] rfl rfl rfl
      (.cons rfl rfl (.cons rfl rfl (.cons rfl rfl .nil))) hplain rfl (hint 3))
  have hitems : Separated ItemOrLengthSpells _ (lengthSampleTokens.drop 2) :=
    @Separated.cons _ _ [_] _ _ _ _ _ hline hdropped rfl
      (@Separated.last _ _ [] _ _ hnone hrecorded)
  have hparse : (parse (String.ofList (Token.source lengthSampleTokens ++ []))).result =
      .ok lengthSamplePackage :=
    @parse_lengths _ _ _ [] _ [] hnone rfl rfl hitems laid_lengthSampleTokens
  rw [source_lengthSampleTokens] at hparse
  exact ⟨laid_lengthSampleTokens, hparse⟩

/-- The array `A` is dropped, whose length is the constant expression `N +1`. -/
theorem parse_not_recording :
    ∃ p : Package, (parse "package p\ntype A [N +1]int\ntype B [N *2]int").result = .ok p ∧
      p.decls.map TypeDecl.name = ["B"] := by
  have hparse := parse_laid (p := lengthSamplePackage) rfl laid_lengthSampleTokens
  rw [source_lengthSampleTokens] at hparse
  exact ⟨lengthSamplePackage, hparse, rfl⟩

end CodecGen.Package
