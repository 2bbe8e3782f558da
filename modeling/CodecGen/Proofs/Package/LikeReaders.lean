import CodecGen.Proofs.Package.Likeness

/-!
# Readers on alike rows

Each reader of declarations, on two rows of tokens that are alike, either fails on both, with alike
faults, or gives alike values and leaves alike rows. Differences are never counted twice: what is
read and what is left differ in no more places than what was ahead.
-/

namespace CodecGen.Package

open Reading

variable {α β : Type} (L : Likeness)

/-! ## Readings that agree -/

/-- Both readings end with values in a relation, or both fail, with alike faults. -/
def Agree (r r' : Reading α) (post : α → α → Prop) : Prop :=
  (∃ a a', r.result = .ok a ∧ r'.result = .ok a' ∧ post a a') ∨
    ∃ e e', r.result = .error e ∧ r'.result = .error e' ∧ L.error e e'

/-- The rows left are alike, with at most some differences. -/
def Left (count : Nat) (ts ts' : List Token) : Prop :=
  ∃ n ≤ count, Rows L.token n ts ts'

/-- The values read are alike and so are the rows left, with at most some differences in all. -/
def Took (value : Nat → α → α → Prop) (count : Nat) (p p' : α × List Token) : Prop :=
  ∃ n m, n + m ≤ count ∧ value n p.1 p'.1 ∧ Rows L.token m p.2 p'.2

variable {L}

/-- Values in the relation are readings that agree. -/
theorem agree_pure {a a' : α} {post : α → α → Prop} (h : post a a') :
    Agree L (pure a) (pure a') post :=
  .inl ⟨a, a', rfl, rfl, h⟩

/-- Steps in a row agree if the first steps do, and the others do on values that are related. -/
theorem Agree.bind {r r' : Reading α} {f f' : α → Reading β} {P : α → α → Prop}
    {post : β → β → Prop} (h : Agree L r r' P)
    (hf : ∀ a a', P a a' → Agree L (f a) (f' a') post) :
    Agree L (r >>= f) (r' >>= f') post := by
  unfold Agree
  rw [Logged.result_bind, Logged.result_bind]
  obtain ⟨a, a', ha, ha', hP⟩ | ⟨e, e', he, he', herror⟩ := h
  · rw [ha, ha']
    exact hf a a' hP
  · rw [he, he']
    exact .inr ⟨e, e', rfl, rfl, herror⟩

/-- Readings that agree with a relation agree with a weaker one. -/
theorem Agree.mono {r r' : Reading α} {P post : α → α → Prop} (h : Agree L r r' P)
    (hpost : ∀ a a', P a a' → post a a') : Agree L r r' post := by
  obtain ⟨a, a', ha, ha', hP⟩ | hfail := h
  · exact .inl ⟨a, a', ha, ha', hpost a a' hP⟩
  · exact .inr hfail

/-- Readings that agree with at most some differences agree with at most more. -/
theorem Agree.took_mono {value : Nat → α → α → Prop} {r r' : Reading (α × List Token)}
    {count count' : Nat} (hle : count ≤ count') (h : Agree L r r' (Took L value count)) :
    Agree L r r' (Took L value count') := by
  refine h.mono ?_
  rintro p p' ⟨n, m, hcount, htook⟩
  exact ⟨n, m, Nat.le_trans hcount hle, htook⟩

/-- Where one reading gives a value, so does the other. -/
theorem Agree.exists_right {r r' : Reading α} {post : α → α → Prop} (h : Agree L r r' post) {a : α}
    (ha : r.result = .ok a) : ∃ a', r'.result = .ok a' ∧ post a a' := by
  obtain ⟨b, b', hb, hb', hpost⟩ | ⟨e, _, he, _⟩ := h
  · obtain rfl : b = a := Except.ok.inj (hb.symm.trans ha)
    exact ⟨b', hb', hpost⟩
  · cases he.symm.trans ha

/-- What the second reading returns has a related value of the first. -/
theorem Agree.exists_left {r r' : Reading α} {post : α → α → Prop} (h : Agree L r r' post) {a' : α}
    (ha : r'.result = .ok a') : ∃ a, r.result = .ok a ∧ post a a' := by
  obtain ⟨b, b', hb, hb', hpost⟩ | ⟨_, e', _, he', _⟩ := h
  · obtain rfl : b' = a' := Except.ok.inj (hb'.symm.trans ha)
    exact ⟨b, hb, hpost⟩
  · cases he'.symm.trans ha

/-- Notes do not count. -/
theorem Agree.after_note {level level' : Level} {text text' : String} {r r' : Reading α}
    {post : α → α → Prop} (h : Agree L r r' post) :
    Agree L (Logged.note level text >>= fun _ => r) (Logged.note level' text' >>= fun _ => r')
      post := by
  refine Agree.bind (P := fun _ _ => True) (.inl ⟨(), (), rfl, rfl, trivial⟩) ?_
  intro _ _ _
  exact h

section

variable {n k : Nat} {t t' : Token} {ts ts' : List Token}

/-- Faults raised at alike rows are alike. -/
theorem failAt_agree (h : Rows L.token n ts ts') (fault : SourceFault) {post : α → α → Prop} :
    Agree L (failAt ts fault) (failAt ts' fault) post := by
  refine .inr ⟨_, _, rfl, rfl, ?_⟩
  cases h with
  | nil => exact L.error_end fault
  | cons ht _ => exact L.error_at ht fault

/-- Alike tokens are called the same in messages. -/
theorem describe_eq (ht : L.token n t t') : t.describe = t'.describe := by
  unfold Token.describe
  by_cases hident : t.kind = .ident
  · rw [if_pos hident, if_pos (((L.kind ht).eq_iff rfl).mp hident), (L.lexeme ht hident).1]
  · rw [if_neg hident, if_neg fun h => hident (((L.kind ht).eq_iff rfl).mpr h),
      (L.kind ht).label]

/-- Reports of an unexpected token at alike rows are alike. -/
theorem expected_agree (h : Rows L.token n ts ts') (what : String) {post : α → α → Prop} :
    Agree L (expected what ts) (expected what ts') post := by
  have hfound : ts.head?.map Token.describe = ts'.head?.map Token.describe := by
    cases h with
    | nil => rfl
    | cons ht _ => exact congrArg some (describe_eq ht)
  unfold expected
  rw [hfound]
  exact failAt_agree h _

/-- The next tokens are of alike classes, if there are any. -/
theorem next?_eq_iff (h : Rows L.token n ts ts') {kind : TokenKind} (halone : kind.isAlone = true) :
    next? ts = some kind ↔ next? ts' = some kind := by
  cases h with
  | nil => exact Iff.rfl
  | cons ht _ =>
    show some _ = some kind ↔ some _ = some kind
    rw [Option.some.injEq, Option.some.injEq]
    exact (L.kind ht).eq_iff halone

/-- Alike rows have the same length. -/
theorem length_eq_of_rows (h : Rows L.token n ts ts') : ts.length = ts'.length := by
  induction h with
  | nil => rfl
  | cons _ _ ih => simp only [List.length_cons, ih]

/-- Alike rows are alike past their first tokens. -/
theorem tail_rows (h : Rows L.token n ts ts') : Left L n ts.tail ts'.tail := by
  cases h with
  | nil => exact ⟨0, Nat.le_refl _, .nil⟩
  | @cons m k _ _ _ _ ht hts => exact ⟨k, Nat.le_add_left k m, hts⟩

/-! ## Single tokens -/

/-- An awaited token is taken, or missed, alike from alike rows. -/
theorem expectKind_agree {kind : TokenKind} (halone : kind.isAlone = true) (what : String)
    (h : Rows L.token n ts ts') :
    Agree L (expectKind kind what ts) (expectKind kind what ts') (Left L n) := by
  cases h with
  | nil => exact expected_agree .nil what
  | @cons m k t t' ts ts' ht hts =>
    simp only [expectKind]
    by_cases hkind : t.kind = kind
    · rw [if_pos hkind, if_pos (((L.kind ht).eq_iff halone).mp hkind)]
      exact agree_pure ⟨k, Nat.le_add_left k m, hts⟩
    · rw [if_neg hkind, if_neg fun h => hkind (((L.kind ht).eq_iff halone).mpr h)]
      exact expected_agree (.cons ht hts) what

/-- A token of a class that is like no other is passed over in both of two alike rows or in none. -/
theorem skipKind_left (kind : TokenKind) (halone : kind.isAlone = true)
    (h : Rows L.token n ts ts') : Left L n (skipKind kind ts) (skipKind kind ts') := by
  cases h with
  | nil => exact ⟨0, Nat.le_refl _, .nil⟩
  | @cons m k t t' ts ts' ht hts =>
    simp only [skipKind]
    by_cases hkind : t.kind = kind
    · rw [if_pos hkind, if_pos (((L.kind ht).eq_iff halone).mp hkind)]
      exact ⟨k, Nat.le_add_left k m, hts⟩
    · rw [if_neg hkind, if_neg fun h => hkind (((L.kind ht).eq_iff halone).mpr h)]
      exact ⟨m + k, Nat.le_refl _, .cons ht hts⟩

/-- The same name that may occur. -/
def SameName (L : Likeness) (_ : Nat) (s s' : String) : Prop :=
  s = s' ∧ L.name s

/-- A name is taken, or missed, alike from alike rows. -/
theorem identifier_agree (h : Rows L.token n ts ts') :
    Agree L (identifier ts) (identifier ts') (Took L (SameName L) n) := by
  cases h with
  | nil => exact expected_agree .nil _
  | @cons m k t t' ts ts' ht hts =>
    simp only [identifier]
    by_cases hkind : t.kind = .ident
    · rw [if_pos hkind, if_pos (((L.kind ht).eq_iff rfl).mp hkind)]
      exact agree_pure ⟨0, k, by omega, L.lexeme ht hkind, hts⟩
    · rw [if_neg hkind, if_neg fun h => hkind (((L.kind ht).eq_iff rfl).mpr h)]
      exact expected_agree (.cons ht hts) _

/-- What is left after the separators of alike rows is alike. -/
theorem skipSeparators_left (h : Rows L.token n ts ts') :
    Left L n (skipSeparators ts) (skipSeparators ts') := by
  unfold skipSeparators
  induction h with
  | nil => exact ⟨0, Nat.le_refl _, .nil⟩
  | @cons m k t t' ts ts' ht hts ih =>
    cases hsep : t.kind.isSeparator with
    | true =>
      have hsep' : t'.kind.isSeparator = true := (L.kind ht).isSeparator ▸ hsep
      simp only [List.dropWhile_cons, hsep, hsep', if_true]
      obtain ⟨j, hj, hrows⟩ := ih
      exact ⟨j, by omega, hrows⟩
    | false =>
      have hsep' : t'.kind.isSeparator = false := (L.kind ht).isSeparator ▸ hsep
      simp only [List.dropWhile_cons, hsep, hsep', Bool.false_eq_true, if_false]
      exact ⟨m + k, Nat.le_refl _, .cons ht hts⟩

/-! ## Groups and statements -/

/-- Rows left with some differences are left with more. -/
theorem Left.mono {count count' : Nat} (hle : count ≤ count') (h : Left L count ts ts') :
    Left L count' ts ts' := by
  obtain ⟨m, hm, hrows⟩ := h
  exact ⟨m, by omega, hrows⟩

/-- A statement is passed over alike in alike rows. -/
theorem skipStatement_agree (depth : Nat) (h : Rows L.token n ts ts') :
    Agree L (skipStatement depth ts) (skipStatement depth ts') (Left L n) := by
  induction h generalizing depth with
  | nil =>
    unfold skipStatement
    split
    · exact agree_pure ⟨0, Nat.le_refl _, .nil⟩
    · exact failAt_agree .nil _
  | @cons m k t t' ts ts' ht hts ih =>
    have hlater : ∀ depth, Agree L (skipStatement depth ts) (skipStatement depth ts')
        (Left L (m + k)) :=
      fun depth => (ih depth).mono fun _ _ => Left.mono (Nat.le_add_left k m)
    have hkind := L.kind ht
    unfold skipStatement
    rw [hkind.opens, hkind.closes, hkind.isSeparator]
    split
    · exact hlater _
    split
    · split
      · exact expected_agree (.cons ht hts) _
      · exact hlater _
    split
    · exact agree_pure ⟨m + k, Nat.le_refl _, .cons ht hts⟩
    · exact hlater _

/-- A group is passed over alike in alike rows. -/
theorem skipGroup_agree (depth : Nat) (h : Rows L.token n ts ts') :
    Agree L (skipGroup depth ts) (skipGroup depth ts') (Left L n) := by
  induction h generalizing depth with
  | nil => exact failAt_agree .nil _
  | @cons m k t t' ts ts' ht hts ih =>
    have hlater : ∀ depth, Agree L (skipGroup depth ts) (skipGroup depth ts') (Left L (m + k)) :=
      fun depth => (ih depth).mono fun _ _ => Left.mono (Nat.le_add_left k m)
    have hkind := L.kind ht
    unfold skipGroup
    rw [hkind.opens, hkind.closes]
    split
    · exact hlater _
    split
    · split
      · exact agree_pure ⟨k, Nat.le_add_left k m, hts⟩
      · exact hlater _
    · exact hlater _

/-- An awaited group is passed over, or missed, alike in alike rows. -/
theorem expectGroup_agree {kind : TokenKind} (halone : kind.isAlone = true) (what : String)
    (h : Rows L.token n ts ts') :
    Agree L (expectGroup kind what ts) (expectGroup kind what ts') (Left L n) := by
  unfold expectGroup
  by_cases hnext : next? ts = some kind
  · rw [if_pos hnext, if_pos ((next?_eq_iff h halone).mp hnext)]
    exact skipGroup_agree 0 h
  · rw [if_neg hnext, if_neg fun h' => hnext ((next?_eq_iff h halone).mpr h')]
    exact expected_agree h what

/-! ## Named types -/

/-- A class of tokens that may follow the name of a type parameter. -/
def followsParam : TokenKind → Bool
  | .ident | .comma | .operator | .lbracket => true
  | .keyword .interface | .keyword .func | .keyword .map | .keyword .chan => true
  | _ => false

/-- Type parameters are recognised by three tokens. -/
theorem atTypeParams_cons (a b c : Token) (ts : List Token) :
    atTypeParams (a :: b :: c :: ts) =
      (decide (a.kind = .lbracket) && decide (b.kind = .ident) && followsParam c.kind) := by
  show atTypeParams [a, b, c] = _
  unfold atTypeParams
  by_cases ha : a.kind = .lbracket
  · by_cases hb : b.kind = .ident
    · obtain ⟨kind, _, _, _⟩ := c
      cases kind with
      | keyword word => cases word <;> simp [ha, hb, followsParam]
      | _ => simp [ha, hb, followsParam]
    · simp [ha, hb]
  · simp [ha]

/-- Fewer than three tokens are no type parameters. -/
theorem atTypeParams_of_short (h : ts.length < 3) : atTypeParams ts = false := by
  unfold atTypeParams
  split
  · rename_i heq
    have hlength := congrArg List.length heq
    simp only [List.length_map, List.length_take, List.length_cons] at hlength
    omega
  · rfl

/-- Brackets hold type parameters in alike rows at once. -/
theorem atTypeParams_eq (h : Rows L.token n ts ts') : atTypeParams ts = atTypeParams ts' := by
  have hshort : ts.length < 3 → atTypeParams ts = atTypeParams ts' := by
    intro hlt
    rw [atTypeParams_of_short hlt, atTypeParams_of_short (length_eq_of_rows h ▸ hlt)]
  rcases h with _ | ⟨ha, _ | ⟨hb, _ | ⟨hc, hts⟩⟩⟩
  · exact hshort (by decide)
  · exact hshort (by simp)
  · exact hshort (by simp)
  · rw [atTypeParams_cons, atTypeParams_cons, decide_eq_decide.mpr ((L.kind ha).eq_iff rfl),
      decide_eq_decide.mpr ((L.kind hb).eq_iff rfl), (L.kind hc).congr followsParam rfl rfl]

/-- A named type is read alike from alike rows. -/
theorem namedType_agree {name name' : Token} (hname : L.token k name name')
    (hkind : name.kind = .ident) (h : Rows L.token n ts ts') :
    Agree L (namedType name ts) (namedType name' ts') (Took L (GoType.Like L) n) := by
  obtain ⟨hsame, hvalid⟩ := L.lexeme hname hkind
  -- the arguments after either form of name are passed over, or there are none in both rows
  have harguments : ∀ p p' : GoType × List Token, Took L (GoType.Like L) n p p' →
      Agree L
        (if next? p.2 = some .lbracket then (do
          let ts ← skipGroup 0 p.2
          Logged.note .debug ("line " ++ toString name.line ++ ": ignoring type arguments")
          pure (p.1, ts))
        else pure (p.1, p.2))
        (if next? p'.2 = some .lbracket then (do
          let ts ← skipGroup 0 p'.2
          Logged.note .debug ("line " ++ toString name'.line ++ ": ignoring type arguments")
          pure (p'.1, ts))
        else pure (p'.1, p'.2)) (Took L (GoType.Like L) n) := by
    rintro ⟨type, ts⟩ ⟨type', ts'⟩ ⟨m, j, hcount, htype, hrows⟩
    by_cases hbracket : next? ts = some .lbracket
    · rw [if_pos hbracket, if_pos ((next?_eq_iff hrows rfl).mp hbracket)]
      refine (skipGroup_agree 0 hrows).bind ?_
      rintro us us' ⟨i, hi, hrest⟩
      exact Agree.after_note (agree_pure ⟨m, i, by omega, htype, hrest⟩)
    · rw [if_neg hbracket, if_neg fun h => hbracket ((next?_eq_iff hrows rfl).mpr h)]
      exact agree_pure ⟨m, j, hcount, htype, hrows⟩
  unfold namedType
  by_cases hdot : next? ts = some .dot
  · rw [if_pos hdot, if_pos ((next?_eq_iff h rfl).mp hdot)]
    obtain ⟨j, hj, htail⟩ := tail_rows h
    refine (identifier_agree htail).bind ?_
    rintro ⟨sel, us⟩ ⟨sel', us'⟩ ⟨m, i, hcount, ⟨hsel, hselvalid⟩, hrest⟩
    refine Agree.bind (P := Took L (GoType.Like L) n) (agree_pure ?_) harguments
    obtain rfl : sel = sel' := hsel
    rw [← hsame]
    exact ⟨0, i, by omega, .qualified hvalid hselvalid, hrest⟩
  · rw [if_neg hdot, if_neg fun h' => hdot ((next?_eq_iff h rfl).mpr h')]
    refine Agree.bind (P := Took L (GoType.Like L) n) (agree_pure ?_) harguments
    rw [← hsame]
    exact ⟨0, n, by omega, .ident hvalid, h⟩

/-! ## Composite types -/

variable (L) in
/-- A reader of type expressions gives alike expressions on alike rows. -/
def ReadsAlike (inner : TypeReader) : Prop :=
  ∀ n ts ts', Rows L.token n ts ts' → Agree L (inner ts) (inner ts') (Took L (GoType.Like L) n)

/-- An array length is read alike from alike rows: its tokens are alike. -/
theorem lengthTokens_agree (depth : Nat) (h : Rows L.token n ts ts') :
    Agree L (lengthTokens depth ts) (lengthTokens depth ts') (Took L (Rows L.token) n) := by
  induction h generalizing depth with
  | nil => exact failAt_agree .nil _
  | @cons m k t t' ts ts' ht hts ih =>
    unfold lengthTokens
    have hkind := L.kind ht
    simp only [hkind.eq_eq .rbracket rfl, hkind.eq_eq .lbracket rfl, hkind.eq_eq .lparen rfl,
      hkind.eq_eq .rparen rfl]
    split
    · exact agree_pure ⟨0, m + k, by omega, .nil, .cons ht hts⟩
    · refine (ih _).bind ?_
      rintro ⟨len, us⟩ ⟨len', us'⟩ ⟨i, j, hcount, hlen, hrest⟩
      exact agree_pure ⟨m + i, j, by omega, .cons ht hlen, hrest⟩

section

variable {inner : TypeReader} (hinner : ReadsAlike L inner)

include hinner

/-- Slices and arrays are read alike from alike rows. -/
theorem arrayType_agree (h : Rows L.token n ts ts') :
    Agree L (arrayType inner ts) (arrayType inner ts') (Took L (GoType.Like L) n) := by
  unfold arrayType
  by_cases hslice : next? ts = some .rbracket
  · rw [if_pos hslice, if_pos ((next?_eq_iff h rfl).mp hslice)]
    obtain ⟨k, hk, htail⟩ := tail_rows h
    refine (hinner _ _ _ htail).bind ?_
    rintro ⟨type, us⟩ ⟨type', us'⟩ ⟨i, j, hcount, htype, hrest⟩
    exact agree_pure ⟨0 + i, j, by omega, .array .none htype, hrest⟩
  · rw [if_neg hslice, if_neg fun h' => hslice ((next?_eq_iff h rfl).mpr h')]
    refine (lengthTokens_agree 0 h).bind ?_
    rintro ⟨len, us⟩ ⟨len', us'⟩ ⟨i, j, hcount, hlen, hrest⟩
    obtain ⟨k, hk, htail⟩ := tail_rows hrest
    refine (hinner _ _ _ htail).bind ?_
    rintro ⟨type, vs⟩ ⟨type', vs'⟩ ⟨i', j', hcount', htype, hrest'⟩
    exact agree_pure ⟨i + i', j', by omega, .array (.some (L.span hlen)) htype, hrest'⟩

/-- Map types are read alike from alike rows. -/
theorem mapType_agree (h : Rows L.token n ts ts') :
    Agree L (mapType inner ts) (mapType inner ts') (Took L (GoType.Like L) n) := by
  unfold mapType
  refine (expectKind_agree rfl _ h).bind ?_
  rintro us us' ⟨k, hk, hrows⟩
  refine (hinner _ _ _ hrows).bind ?_
  rintro ⟨key, us⟩ ⟨key', us'⟩ ⟨i, j, hcount, hkey, hrest⟩
  refine (expectKind_agree rfl _ hrest).bind ?_
  rintro us us' ⟨k', hk', hrows'⟩
  refine (hinner _ _ _ hrows').bind ?_
  rintro ⟨value, us⟩ ⟨value', us'⟩ ⟨i', j', hcount', hvalue, hrest'⟩
  exact agree_pure ⟨i + i', j', by omega, .map hkey hvalue, hrest'⟩

/-- Channel types are read alike from alike rows. -/
theorem chanType_agree (h : Rows L.token n ts ts') :
    Agree L (chanType inner ts) (chanType inner ts') (Took L (GoType.Like L) n) := by
  unfold chanType
  refine (hinner _ _ _ h).bind ?_
  rintro ⟨type, us⟩ ⟨type', us'⟩ ⟨i, j, hcount, htype, hrest⟩
  exact agree_pure ⟨i, j, hcount, .chan htype, hrest⟩

omit hinner in
/-- The steps in which a signature is passed over, with the test for a result in one condition. -/
theorem skipSignature_eq (inner : TypeReader) (ts : List Token) :
    skipSignature inner ts = (do
      let ts ← expectGroup .lparen "\x60(\x60" ts
      if next? ts = some .lparen then skipGroup 0 ts
      else if (next? ts).any beginsResult then do
        let (_, ts) ← inner ts
        pure ts
      else pure ts) := by
  unfold skipSignature
  congr 1
  funext us
  cases next? us with
  | none => rfl
  | some kind =>
    by_cases hparen : kind = .lparen
    · subst hparen
      rfl
    · rw [if_neg (by simpa using hparen)]
      split
      · rename_i heq
        exact absurd (Option.some.inj heq) hparen
      · rename_i heq
        cases heq
        rfl
      · rename_i heq
        cases heq

/-- What is next begins a result type in alike rows at once. -/
theorem skipSignature_agree (h : Rows L.token n ts ts') :
    Agree L (skipSignature inner ts) (skipSignature inner ts') (Left L n) := by
  rw [skipSignature_eq, skipSignature_eq]
  refine (expectGroup_agree rfl _ h).bind ?_
  rintro us us' ⟨k, hk, hrows⟩
  by_cases hparen : next? us = some .lparen
  · rw [if_pos hparen, if_pos ((next?_eq_iff hrows rfl).mp hparen)]
    exact (skipGroup_agree 0 hrows).mono fun _ _ => Left.mono hk
  · rw [if_neg hparen, if_neg fun h' => hparen ((next?_eq_iff hrows rfl).mpr h')]
    have hbegins : (next? us).any beginsResult = (next? us').any beginsResult := by
      cases hrows with
      | nil => rfl
      | cons ht _ => exact (L.kind ht).congr beginsResult rfl rfl
    rw [hbegins]
    split
    · refine (hinner _ _ _ hrows).bind ?_
      rintro ⟨type, vs⟩ ⟨type', vs'⟩ ⟨i, j, hcount, _, hrest⟩
      exact agree_pure ⟨j, by omega, hrest⟩
    · exact agree_pure ⟨k, hk, hrows⟩

end

/-! ## Fields -/

/-- The same names, which may all occur. -/
def SameNames (L : Likeness) (_ : Nat) (names names' : List String) : Prop :=
  names = names' ∧ ∀ name ∈ names, L.name name

/-- A field and another are alike. -/
def FieldLike (L : Likeness) (n : Nat) (f f' : Field) : Prop :=
  f.names = f'.names ∧ (∀ name ∈ f.names, L.name name) ∧
    ∃ m k, m + k ≤ n ∧ f.type.Like L m f'.type ∧ OptionLike L.tag k f.tag f'.tag

/-- The names after one of them, and the names after a comma. -/
theorem names_agree (h : Rows L.token n ts ts') :
    Agree L (namesAfter ts) (namesAfter ts') (Took L (SameNames L) n) ∧
      Agree L (nameAwaited ts) (nameAwaited ts') (Took L (SameNames L) n) := by
  have hnone : SameNames L 0 [] [] := ⟨rfl, fun _ h => nomatch h⟩
  induction h with
  | nil => exact ⟨agree_pure ⟨0, 0, by omega, hnone, .nil⟩, expected_agree .nil _⟩
  | @cons m k t t' ts ts' ht hts ih =>
    obtain ⟨hafter, hawaited⟩ := ih
    rw [namesAfter, namesAfter, nameAwaited, nameAwaited, (L.kind ht).isNewline]
    constructor
    · by_cases hcomma : t.kind = .comma
      · rw [if_pos hcomma, if_pos (((L.kind ht).eq_iff rfl).mp hcomma)]
        exact hawaited.took_mono (Nat.le_add_left k m)
      · rw [if_neg hcomma, if_neg fun h' => hcomma (((L.kind ht).eq_iff rfl).mpr h')]
        exact agree_pure ⟨0, m + k, by omega, hnone, .cons ht hts⟩
    · split
      · exact hawaited.took_mono (Nat.le_add_left k m)
      · by_cases hident : t.kind = .ident
        · rw [if_pos hident, if_pos (((L.kind ht).eq_iff rfl).mp hident)]
          obtain ⟨hsame, hvalid⟩ := L.lexeme ht hident
          refine hafter.bind ?_
          rintro ⟨names, us⟩ ⟨names', us'⟩ ⟨i, j, hcount, ⟨hnames, hall⟩, hrest⟩
          obtain rfl : names = names' := hnames
          rw [← hsame]
          exact agree_pure ⟨0, j, by omega, ⟨rfl, List.forall_mem_cons.mpr ⟨hvalid, hall⟩⟩, hrest⟩
        · rw [if_neg hident, if_neg fun h' => hident (((L.kind ht).eq_iff rfl).mpr h')]
          exact expected_agree (.cons ht hts) _

/-- A class of tokens that may follow the name of an embedded field. -/
def followsEmbedded : TokenKind → Bool
  | .newline | .comment | .semicolon | .rbrace | .rawString | .string | .dot => true
  | _ => false

/-- An embedded field is recognised by two tokens. -/
theorem atEmbedded_cons (a b : Token) (ts : List Token) :
    atEmbedded (a :: b :: ts) =
      (decide (a.kind = .star) || decide (a.kind = .ident) && followsEmbedded b.kind) := by
  show atEmbedded [a, b] = _
  unfold atEmbedded
  by_cases hstar : a.kind = .star
  · simp [hstar]
  · by_cases hident : a.kind = .ident
    · obtain ⟨kind, _, _, _⟩ := b
      cases kind <;> simp [hident, followsEmbedded]
    · simp [hstar, hident]

/-- The last token of a source is an embedded field if it is a star or a name. -/
theorem atEmbedded_single (a : Token) :
    atEmbedded [a] = (decide (a.kind = .star) || decide (a.kind = .ident)) := by
  unfold atEmbedded
  by_cases hstar : a.kind = .star
  · simp [hstar]
  · by_cases hident : a.kind = .ident
    · simp [hident]
    · simp [hstar, hident]

/-- The fields ahead in alike rows are embedded at once. -/
theorem atEmbedded_eq (h : Rows L.token n ts ts') : atEmbedded ts = atEmbedded ts' := by
  rcases h with _ | ⟨ha, _ | ⟨hb, hts⟩⟩
  · rfl
  · rw [atEmbedded_single, atEmbedded_single, decide_eq_decide.mpr ((L.kind ha).eq_iff rfl),
      decide_eq_decide.mpr ((L.kind ha).eq_iff rfl)]
  · rw [atEmbedded_cons, atEmbedded_cons, decide_eq_decide.mpr ((L.kind ha).eq_iff rfl),
      decide_eq_decide.mpr ((L.kind ha).eq_iff rfl), (L.kind hb).congr followsEmbedded rfl rfl]

/-- The tag of a field is read alike from alike rows. -/
theorem fieldTag_agree {names : List String} (hnames : ∀ name ∈ names, L.name name)
    {type type' : GoType} {j : Nat} (htype : type.Like L j type') (h : Rows L.token n ts ts') :
    Agree L (fieldTag names type ts) (fieldTag names type' ts') (Took L (FieldLike L) (j + n)) := by
  have huntagged : FieldLike L j ⟨names, type, none⟩ ⟨names, type', none⟩ :=
    ⟨rfl, hnames, j, 0, Nat.le_refl _, htype, .none⟩
  cases h with
  | nil => exact agree_pure ⟨j, 0, by omega, huntagged, .nil⟩
  | @cons m k t t' ts ts' ht hts =>
    rw [fieldTag, fieldTag, ← (L.kind ht).isStringLiteral]
    by_cases hliteral : t.kind.isStringLiteral = true
    · rw [if_pos hliteral, if_pos hliteral]
      exact agree_pure ⟨j + m, k, by omega,
        ⟨rfl, hnames, j, m, Nat.le_refl _, htype, .some (L.literal ht hliteral)⟩, hts⟩
    · rw [if_neg hliteral, if_neg hliteral]
      exact agree_pure ⟨j, m + k, by omega, huntagged, .cons ht hts⟩

/-- The end of a field is passed over, or missed, alike in alike rows. -/
theorem fieldEnd_agree (h : Rows L.token n ts ts') :
    Agree L (fieldEnd ts) (fieldEnd ts') (Left L n) := by
  cases h with
  | nil => exact expected_agree .nil _
  | @cons m k t t' ts ts' ht hts =>
    rw [fieldEnd, fieldEnd, (L.kind ht).isSeparator]
    split
    · exact agree_pure ⟨k, Nat.le_add_left k m, hts⟩
    · by_cases hbrace : t.kind = .rbrace
      · rw [if_pos hbrace, if_pos (((L.kind ht).eq_iff rfl).mp hbrace)]
        exact agree_pure ⟨m + k, Nat.le_refl _, .cons ht hts⟩
      · rw [if_neg hbrace, if_neg fun h' => hbrace (((L.kind ht).eq_iff rfl).mpr h')]
        exact expected_agree (.cons ht hts) _

section

variable {inner : TypeReader} (hinner : ReadsAlike L inner)

include hinner

/-- A field line is read alike from alike rows. -/
theorem fieldLine_agree (h : Rows L.token n ts ts') :
    Agree L (fieldLine inner ts) (fieldLine inner ts') (Took L (FieldLike L) n) := by
  have htagged : ∀ {count j m : Nat} {names : List String} {type type' : GoType}
      {us us' : List Token}, (∀ name ∈ names, L.name name) → type.Like L j type' →
      Rows L.token m us us' → j + m ≤ count →
      Agree L (fieldTag names type us) (fieldTag names type' us')
        (Took L (FieldLike L) count) := by
    intro count j m names type type' us us' hnames htype hrows hcount
    exact (fieldTag_agree hnames htype hrows).took_mono hcount
  unfold fieldLine
  rw [atEmbedded_eq h]
  split
  · refine (hinner _ _ _ h).bind ?_
    rintro ⟨type, us⟩ ⟨type', us'⟩ ⟨i, j, hcount, htype, hrest⟩
    exact htagged (fun _ h => nomatch h) htype hrest hcount
  · refine (identifier_agree h).bind ?_
    rintro ⟨name, us⟩ ⟨name', us'⟩ ⟨i, j, hcount, ⟨hsame, hname⟩, hrest⟩
    obtain rfl : name = name' := hsame
    refine (names_agree hrest).1.bind ?_
    rintro ⟨names, vs⟩ ⟨names', vs'⟩ ⟨i', j', hcount', ⟨hnames, hall⟩, hrest'⟩
    obtain rfl : names = names' := hnames
    refine (hinner _ _ _ hrest').bind ?_
    rintro ⟨type, ws⟩ ⟨type', ws'⟩ ⟨k, k', hcount'', htype, hrest''⟩
    exact htagged (List.forall_mem_cons.mpr ⟨hname, hall⟩) htype hrest'' (by omega)

/-- The fields of a struct are read alike from alike rows: induction on the turns. -/
theorem structFields_agree (turns : Nat) (h : Rows L.token n ts ts') :
    Agree L (structFields inner turns ts) (structFields inner turns ts')
      (Took L (GoType.FieldsLike L) n) := by
  induction turns generalizing n ts ts' with
  | zero => exact failAt_agree .nil _
  | succ turns ih =>
    rw [structFields, structFields]
    obtain ⟨k, hk, hrows⟩ := skipSeparators_left h
    generalize skipSeparators ts = us, skipSeparators ts' = us' at hrows
    cases hrows with
    | nil => exact failAt_agree .nil _
    | @cons m j t t' us us' ht hus =>
      simp only [(L.kind ht).eq_eq .rbrace rfl]
      split
      · exact agree_pure ⟨0, j, by omega, .nil, hus⟩
      · refine (fieldLine_agree hinner (.cons ht hus)).bind ?_
        rintro ⟨⟨names, type, tag⟩, vs⟩ ⟨⟨names', type', tag'⟩, vs'⟩
          ⟨i, i', hcount, ⟨hsame, hnames, a, b, hle, htype, htag⟩, hrest⟩
        obtain rfl : names = names' := hsame
        refine (fieldEnd_agree hrest).bind ?_
        rintro ws ws' ⟨e, he, hend⟩
        refine (ih hend).bind ?_
        rintro ⟨fields, xs⟩ ⟨fields', xs'⟩ ⟨c, d, hcount', hfields, hlater⟩
        exact agree_pure ⟨a + b + c, d, by omega, .cons hnames htype htag hfields, hlater⟩

/-- Struct types are read alike from alike rows. -/
theorem structType_agree (h : Rows L.token n ts ts') :
    Agree L (structType inner ts) (structType inner ts') (Took L (GoType.Like L) n) := by
  unfold structType
  refine (expectKind_agree rfl _ h).bind ?_
  rintro us us' ⟨k, hk, hrows⟩
  rw [← length_eq_of_rows hrows]
  refine (structFields_agree hinner _ hrows).bind ?_
  rintro ⟨fields, vs⟩ ⟨fields', vs'⟩ ⟨i, j, hcount, hfields, hrest⟩
  exact agree_pure ⟨i, j, by omega, .struct hfields, hrest⟩

/-! ## Type expressions -/

omit hinner in
/-- A class of tokens that no type expression begins with. -/
theorem typeForm_of_other {t : Token}
    (h : t.kind.isNewline = true ∨ t.kind.isStringLiteral = true) (ts : List Token) :
    typeForm inner (t :: ts) = expected "type" (t :: ts) := by
  rw [typeForm]
  rcases h with h | h
  · rcases TokenKind.isNewline_iff.mp h with h | h <;> rw [h]
  · rcases TokenKind.isStringLiteral_iff.mp h with h | h <;> rw [h]

/-- Every form of type expression is read alike from alike rows, if the types inside are. -/
theorem typeForm_agree (h : Rows L.token n ts ts') :
    Agree L (typeForm inner ts) (typeForm inner ts') (Took L (GoType.Like L) n) := by
  cases h with
  | nil => exact expected_agree .nil _
  | @cons m k t t' ts ts' ht hts =>
    have hle : k ≤ m + k := Nat.le_add_left k m
    have hother : Agree L (expected "type" (t :: ts)) (expected "type" (t' :: ts'))
        (Took L (GoType.Like L) (m + k)) :=
      expected_agree (.cons ht hts) _
    -- classes that are told apart nowhere are the same, or both are line ends or both literals
    rcases L.kind ht with hsame | ⟨hline, hline'⟩ | ⟨hliteral, hliteral'⟩
    case inr.inl =>
      rw [typeForm_of_other (.inl hline), typeForm_of_other (.inl hline')]
      exact hother
    case inr.inr =>
      rw [typeForm_of_other (.inr hliteral), typeForm_of_other (.inr hliteral')]
      exact hother
    case inl =>
      rw [typeForm, typeForm, ← hsame]
      split
      case h_1 hkind => exact (namedType_agree ht hkind hts).took_mono hle
      case h_2 =>
        refine (hinner _ _ _ hts).bind ?_
        rintro ⟨type, us⟩ ⟨type', us'⟩ ⟨i, j, hcount, htype, hrest⟩
        exact agree_pure ⟨i, j, by omega, .pointer htype, hrest⟩
      case h_3 => exact (arrayType_agree hinner hts).took_mono hle
      case h_4 => exact (mapType_agree hinner hts).took_mono hle
      case h_5 => exact (structType_agree hinner hts).took_mono hle
      case h_6 =>
        refine (expectGroup_agree rfl _ hts).bind ?_
        rintro us us' ⟨j, hj, hrest⟩
        exact agree_pure ⟨0, j, by omega, .interface, hrest⟩
      case h_7 =>
        refine (skipSignature_agree hinner hts).bind ?_
        rintro us us' ⟨j, hj, hrest⟩
        exact agree_pure ⟨0, j, by omega, .func, hrest⟩
      case h_8 =>
        obtain ⟨j, hj, hrows⟩ := skipKind_left .arrow rfl hts
        exact (chanType_agree hinner hrows).took_mono (Nat.le_trans hj hle)
      case h_9 =>
        refine (expectKind_agree rfl _ hts).bind ?_
        rintro us us' ⟨j, hj, hrows⟩
        exact (chanType_agree hinner hrows).took_mono (Nat.le_trans hj hle)
      case h_10 =>
        refine (hinner _ _ _ hts).bind ?_
        rintro ⟨type, us⟩ ⟨type', us'⟩ ⟨i, j, hcount, htype, hrest⟩
        refine (expectKind_agree rfl _ hrest).bind ?_
        rintro vs vs' ⟨e, he, hend⟩
        exact agree_pure ⟨i, e, by omega, htype, hend⟩
      case h_11 => exact hother

end

/-- Type expressions are read alike from alike rows, at any depth. -/
theorem typeExpr_agree (depth : Nat) : ReadsAlike L (typeExpr depth) := by
  induction depth with
  | zero => exact fun n ts ts' h => failAt_agree h _
  | succ depth ih => exact fun n ts ts' h => typeForm_agree ih h

/-! ## Declarations -/

/-- A declaration and another are alike, or neither is there. -/
def SpecLike (L : Likeness) (n : Nat) (d d' : Option TypeDecl) : Prop :=
  TypeDecl.AllLike L n d.toList d'.toList

/-- A declaration is read, or dropped, alike from alike rows. -/
theorem typeSpec_agree (h : Rows L.token n ts ts') :
    Agree L (typeSpec ts) (typeSpec ts') (Took L (SpecLike L) n) := by
  unfold typeSpec
  refine (identifier_agree h).bind ?_
  rintro ⟨name, us⟩ ⟨name', us'⟩ ⟨i, j, hcount, ⟨hsame, hname⟩, hrest⟩
  obtain rfl : name = name' := hsame
  dsimp only
  rw [atTypeParams_eq hrest]
  split
  · refine (skipGroup_agree 0 hrest).bind ?_
    rintro vs vs' ⟨k, hk, hgroup⟩
    obtain ⟨k', hk', hassign⟩ := skipKind_left .assign rfl hgroup
    refine (typeExpr_agree maxTypeDepth _ _ _ hassign).bind ?_
    rintro ⟨type, ws⟩ ⟨type', ws'⟩ ⟨a, b, hle, _, hlater⟩
    exact Agree.after_note (agree_pure ⟨0, b, by omega, .nil, hlater⟩)
  · obtain ⟨k', hk', hassign⟩ := skipKind_left .assign rfl hrest
    refine (typeExpr_agree maxTypeDepth _ _ _ hassign).bind ?_
    rintro ⟨type, ws⟩ ⟨type', ws'⟩ ⟨a, b, hle, htype, hlater⟩
    exact agree_pure ⟨a + 0, b, by omega, .cons hname htype .nil, hlater⟩

/-- Declarations after each other are alike if both parts are. -/
theorem allLike_append {m : Nat} {ds ds' es es' : List TypeDecl}
    (hds : TypeDecl.AllLike L n ds ds') (hes : TypeDecl.AllLike L m es es') :
    TypeDecl.AllLike L (n + m) (ds ++ es) (ds' ++ es') := by
  induction hds with
  | nil => rwa [Nat.zero_add]
  | cons hname ht _ ih =>
    rw [Nat.add_assoc]
    exact .cons hname ht ih

/-- The declarations of a group are read alike from alike rows: induction on the turns. -/
theorem typeGroup_agree (turns : Nat) (h : Rows L.token n ts ts') :
    Agree L (typeGroup turns ts) (typeGroup turns ts') (Took L (TypeDecl.AllLike L) n) := by
  induction turns generalizing n ts ts' with
  | zero => exact failAt_agree .nil _
  | succ turns ih =>
    rw [typeGroup, typeGroup]
    obtain ⟨k, hk, hrows⟩ := skipSeparators_left h
    generalize skipSeparators ts = us, skipSeparators ts' = us' at hrows
    -- nothing is left on both sides, or alike tokens are next
    cases hrows with
    | nil => exact failAt_agree .nil _
    | @cons m j t t' us us' ht hus =>
      simp only [(L.kind ht).eq_eq .rparen rfl]
      split
      · exact agree_pure ⟨0, j, by omega, .nil, hus⟩
      · refine (typeSpec_agree (.cons ht hus)).bind ?_
        rintro ⟨decl, vs⟩ ⟨decl', vs'⟩ ⟨a, b, hle, hdecl, hrest⟩
        dsimp only
        cases hrest with
        | nil => exact expected_agree .nil _
        | @cons c d v v' vs vs' hv hvs =>
          show Agree L (if v.kind.isSeparator = true ∨ v.kind = .rparen then _ else _)
            (if v'.kind.isSeparator = true ∨ v'.kind = .rparen then _ else _) _
          simp only [(L.kind hv).isSeparator, (L.kind hv).eq_eq .rparen rfl]
          split
          · refine (ih (.cons hv hvs)).bind ?_
            rintro ⟨decls, ws⟩ ⟨decls', ws'⟩ ⟨e, f, hle', hdecls, hlater⟩
            exact agree_pure ⟨a + e, f, by omega, allLike_append hdecl hdecls, hlater⟩
          · exact expected_agree (.cons hv hvs) _

/-- What follows the word `type` is read alike from alike rows. -/
theorem typeDecls_agree (h : Rows L.token n ts ts') :
    Agree L (typeDecls ts) (typeDecls ts') (Took L (TypeDecl.AllLike L) n) := by
  have hsingle : Agree L (typeSpec ts >>= fun p => pure (p.1.toList, p.2))
      (typeSpec ts' >>= fun p => pure (p.1.toList, p.2)) (Took L (TypeDecl.AllLike L) n) := by
    refine (typeSpec_agree h).bind ?_
    rintro ⟨decl, us⟩ ⟨decl', us'⟩ ⟨a, b, hle, hdecl, hrest⟩
    exact agree_pure ⟨a, b, hle, hdecl, hrest⟩
  cases h with
  | nil => exact hsingle
  | @cons m k t t' ts ts' ht hts =>
    rw [typeDecls, typeDecls]
    by_cases hgroup : t.kind = .lparen
    · rw [if_pos hgroup, if_pos (((L.kind ht).eq_iff rfl).mp hgroup), ← length_eq_of_rows hts]
      exact (typeGroup_agree _ hts).took_mono (Nat.le_add_left k m)
    · rw [if_neg hgroup, if_neg fun h' => hgroup (((L.kind ht).eq_iff rfl).mpr h')]
      exact hsingle

/-! ## Packages -/

/-- Declarations are alike, with at most some differences. -/
def DeclsLike (L : Likeness) (count : Nat) (ds ds' : List TypeDecl) : Prop :=
  ∃ n ≤ count, TypeDecl.AllLike L n ds ds'

/-- The statements of a source are read alike from alike rows: induction on the turns. -/
theorem statements_agree (turns : Nat) (h : Rows L.token n ts ts') :
    Agree L (statements turns ts) (statements turns ts') (DeclsLike L n) := by
  induction turns generalizing n ts ts' with
  | zero => exact agree_pure ⟨0, by omega, .nil⟩
  | succ turns ih =>
    rw [statements, statements]
    obtain ⟨k, hk, hrows⟩ := skipSeparators_left h
    generalize skipSeparators ts = us, skipSeparators ts' = us' at hrows
    cases hrows with
    | nil => exact agree_pure ⟨0, by omega, .nil⟩
    | @cons m j t t' us us' ht hus =>
      simp only [(L.kind ht).eq_eq (.keyword .typeDecl) rfl]
      split
      · refine (typeDecls_agree hus).bind ?_
        rintro ⟨decls, vs⟩ ⟨decls', vs'⟩ ⟨a, b, hle, hdecls, hrest⟩
        refine (ih hrest).bind ?_
        rintro more more' ⟨c, hc, hmore⟩
        exact agree_pure ⟨a + c, by omega, allLike_append hdecls hmore⟩
      · refine (skipStatement_agree 0 (.cons ht hus)).bind ?_
        rintro vs vs' ⟨b, hb, hrest⟩
        refine (ih hrest).mono ?_
        rintro ds ds' ⟨c, hc, hdecls⟩
        exact ⟨c, by omega, hdecls⟩

/-- Alike rows are read as alike packages, or neither is read. -/
theorem ofTokens_agree (h : Rows L.token n ts ts') :
    Agree L (ofTokens ts) (ofTokens ts') fun p p' => ∃ m ≤ n, p.Like L m p' := by
  unfold ofTokens
  obtain ⟨k, hk, hrows⟩ := skipSeparators_left h
  refine (expectKind_agree rfl _ hrows).bind ?_
  rintro us us' ⟨j, hj, hclause⟩
  refine (identifier_agree hclause).bind ?_
  rintro ⟨name, vs⟩ ⟨name', vs'⟩ ⟨a, b, hle, ⟨hsame, hname⟩, hrest⟩
  obtain rfl : name = name' := hsame
  have hlength : vs.length = vs'.length := length_eq_of_rows hrest
  dsimp only
  rw [← hlength]
  refine (statements_agree _ hrest).bind ?_
  rintro ds ds' ⟨c, hc, hdecls⟩
  exact Agree.after_note (agree_pure ⟨c, by omega, hname, rfl, hdecls⟩)

end

end CodecGen.Package
