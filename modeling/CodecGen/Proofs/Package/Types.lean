import CodecGen.Proofs.Package.Grammar

/-!
# Reading type expressions

What the grammar says tokens spell, the readers read. Each reader is followed through one form, over
a reader `inner` that does so for the expressions inside; `typeExpr_reads` puts the forms together
by induction on the nesting.
-/

namespace CodecGen.Package

open Logged (result_bind_of_ok)

/-! ## Brackets -/

/-- No class of tokens both closes and opens a bracket. -/
theorem opens_of_closes {kind : TokenKind} (h : kind.closes = true) : kind.opens = false := by
  cases kind <;> first | rfl | cases h

/-- Balanced tokens leave the number of open brackets as it is. -/
theorem skipGroup_balanced {flat : Bool} {ts : List Token} (h : Balanced flat ts) (depth : Nat)
    (rest : List Token) : skipGroup (depth + 1) (ts ++ rest) = skipGroup (depth + 1) rest := by
  induction h generalizing depth rest with
  | nil => rfl
  | cons hopen hclose _ _ ih =>
    rw [List.cons_append, skipGroup, if_neg (by simp [hopen]), if_neg (by simp [hclose]), ih]
  | group hl hr _ _ ihinside ih =>
    rename_i l r inside ts _ _
    have hopen := opens_of_closes hr
    rw [List.cons_append, List.append_assoc, skipGroup, if_pos hl, ihinside, List.cons_append,
      skipGroup, if_neg (by simp [hopen]), if_pos hr, if_neg (by omega)]
    exact ih depth rest

/-- A group is passed over through its closing bracket. -/
theorem skipGroup_group {l r : Token} {inside : List Token} (hl : l.kind.opens = true)
    (hinside : Balanced false inside) (hr : r.kind.closes = true) (rest : List Token) :
    skipGroup 0 (l :: (inside ++ r :: rest)) = pure rest := by
  have hopen := opens_of_closes hr
  rw [skipGroup, if_pos hl, skipGroup_balanced hinside, skipGroup, if_neg (by simp [hopen]),
    if_pos hr, if_pos (by omega)]

/-- A group that begins with the awaited bracket is passed over up to the bracket that closes it. -/
theorem expectGroup_group {kind : TokenKind} {what : String} {l r : Token} {inside : List Token}
    (hkind : l.kind = kind) (hl : kind.opens = true) (hinside : Balanced false inside)
    (hr : r.kind.closes = true) (rest : List Token) :
    expectGroup kind what (l :: (inside ++ r :: rest)) = pure rest := by
  subst hkind
  have hnext : next? (l :: (inside ++ r :: rest)) = some l.kind := rfl
  unfold expectGroup
  rw [if_pos hnext]
  exact skipGroup_group hl hinside hr rest

/-- An awaited token is passed over. -/
theorem expectKind_cons {kind : TokenKind} {what : String} {t : Token} (h : t.kind = kind)
    (ts : List Token) : expectKind kind what (t :: ts) = pure ts :=
  if_pos h

/-- An awaited name is read, with the tokens after it. -/
theorem identifier_cons {t : Token} (h : t.kind = .ident) (ts : List Token) :
    identifier (t :: ts) = pure (t.lexeme, ts) :=
  if_pos h

/-! ## What begins and what follows a type expression -/

/-- A class of tokens that a type expression begins with. -/
def beginsType (kind : TokenKind) : Bool :=
  beginsResult kind || kind == .lparen

/-- A class of tokens that may follow a type expression. -/
def endsType (kind : TokenKind) : Bool :=
  kind.isSeparator || kind.closes || kind.isStringLiteral

/-- What is ahead may follow a type expression. -/
def Ends (rest : List Token) : Prop :=
  ∀ t, rest.head? = some t → endsType t.kind = true

/-- The reader reads whatever the tokens spell, up to what may follow it. -/
def Reads (inner : TypeReader) (spec : GoType → List Token → Prop) : Prop :=
  ∀ {type : GoType} {ts rest : List Token}, spec type ts → Ends rest →
    (inner (ts ++ rest)).result = .ok (type, rest)

/-- A form of type expression begins with a token that types begin with. -/
theorem Form.begins {spec : GoType → List Token → Prop} {type : GoType} {ts : List Token}
    (h : Form spec type ts) : ∃ t us, ts = t :: us ∧ beginsType t.kind = true := by
  cases h with
  | ident ht => exact ⟨_, _, rfl, by rw [ht]; rfl⟩
  | selector hq _ _ => exact ⟨_, _, rfl, by rw [hq]; rfl⟩
  | pointer hstar _ => exact ⟨_, _, rfl, by rw [hstar]; rfl⟩
  | slice hl _ _ => exact ⟨_, _, rfl, by rw [hl]; rfl⟩
  | array hl _ _ _ _ => exact ⟨_, _, rfl, by rw [hl]; rfl⟩
  | map hword _ _ _ _ => exact ⟨_, _, rfl, by rw [hword]; rfl⟩
  | struct hword _ _ _ => exact ⟨_, _, rfl, by rw [hword]; rfl⟩
  | interface hword _ _ _ => exact ⟨_, _, rfl, by rw [hword]; rfl⟩
  | func hword _ _ _ _ => exact ⟨_, _, rfl, by rw [hword]; rfl⟩
  | chan hword _ => exact ⟨_, _, rfl, by rw [hword]; rfl⟩
  | sending hword _ _ => exact ⟨_, _, rfl, by rw [hword]; rfl⟩
  | receiving harrow _ _ => exact ⟨_, _, rfl, by rw [harrow]; rfl⟩
  | paren hl _ _ => exact ⟨_, _, rfl, by rw [hl]; rfl⟩

/-- What the first tokens of an expression tell: which they can be, that the direction mark of a
channel makes no difference, and that only a dot can follow a name. -/
structure Headed (spec : GoType → List Token → Prop) : Prop where
  begins : ∀ {type : GoType} {ts : List Token}, spec type ts →
    ∃ t us, ts = t :: us ∧ beginsType t.kind = true
  of_arrow : ∀ {type : GoType} {t : Token} {ts : List Token}, t.kind = .arrow →
    spec type (t :: ts) → spec type ts
  after_name : ∀ {type : GoType} {t : Token} {ts : List Token}, t.kind = .ident →
    spec type (t :: ts) → ∀ u, ts.head? = some u → u.kind = .dot

/-- The forms of type expression tell by their first tokens what they are, whatever types inside
are. -/
theorem headed_form (spec : GoType → List Token → Prop) : Headed (Form spec) := by
  constructor
  case begins => exact Form.begins
  case of_arrow =>
    intro type t ts ht h
    -- only a channel begins with an arrow
    cases h with
    | receiving _ hword helem => exact Form.chan hword helem
    | _ => simp_all
  case after_name =>
    intro type t ts ht h u hu
    cases h with
    | ident _ => cases hu
    | selector _ hdot _ =>
      cases hu
      exact hdot
    | _ => simp_all

/-- Type expressions tell by their first tokens what they are, at any depth. -/
theorem headed_spells (depth : Nat) : Headed (Spells depth) := by
  cases depth with
  | zero =>
    constructor
    · intro _ _ h
      cases h
    · intro _ _ _ _ h
      cases h
    · intro _ _ _ _ h
      cases h
  | succ depth => exact headed_form (Spells depth)

/-- What is ahead is not of a class that cannot follow a type expression. -/
theorem Ends.next?_ne {rest : List Token} (h : Ends rest) {kind : TokenKind}
    (hkind : endsType kind = false) : next? rest ≠ some kind := by
  intro hnext
  cases rest with
  | nil => cases hnext
  | cons t ts =>
    have ht := h t rfl
    cases hnext
    rw [hkind] at ht
    cases ht

/-- A token that may follow a type expression ends one before it. -/
theorem ends_cons {t : Token} (h : endsType t.kind = true) (ts : List Token) : Ends (t :: ts) := by
  intro u hu
  cases hu
  exact h

/-! ## The forms -/

section

variable {rest : List Token}

/-- A name that nothing of a type follows is read as that name. -/
theorem namedType_ident (t : Token) (hrest : Ends rest) :
    (namedType t rest).result = .ok (.ident t.lexeme, rest) := by
  have hdot : next? rest ≠ some .dot := hrest.next?_ne rfl
  have hbracket : next? rest ≠ some .lbracket := hrest.next?_ne rfl
  unfold namedType
  rw [if_neg hdot]
  show (if next? rest = some .lbracket then _ else _ : Reading _).result = _
  rw [if_neg hbracket]
  rfl

/-- A name, a dot and a name are read as a name of a package. -/
theorem namedType_selector {dot t : Token} (q : Token) (hdot : dot.kind = .dot)
    (ht : t.kind = .ident) (hrest : Ends rest) :
    (namedType q (dot :: t :: rest)).result = .ok (.qualified q.lexeme t.lexeme, rest) := by
  have hnext : next? (dot :: t :: rest) = some .dot := congrArg some hdot
  have hbracket : next? rest ≠ some .lbracket := hrest.next?_ne rfl
  unfold namedType
  rw [if_pos hnext, List.tail_cons, identifier_cons ht]
  show (if next? rest = some .lbracket then _ else _ : Reading _).result = _
  rw [if_neg hbracket]
  rfl

/-- A single token is a length by itself. -/
theorem lengthTokens_single {len r : Token} (hlen : len.kind = .number ∨ len.kind = .ident)
    (hr : r.kind = .rbracket) (ts : List Token) :
    (lengthTokens 0 (len :: r :: ts)).result = .ok ([len], r :: ts) := by
  have hrest : lengthTokens 0 (r :: ts) = pure ([], r :: ts) := by
    rw [lengthTokens, if_pos ⟨hr, rfl⟩]
  rw [lengthTokens]
  rcases hlen with hlen | hlen
  · simp only [hlen, reduceCtorEq, false_and, or_self, if_false, hrest]
    rfl
  · simp only [hlen, reduceCtorEq, false_and, or_self, if_false, hrest]
    rfl

variable {inner : TypeReader} {spec : GoType → List Token → Prop} (hinner : Reads inner spec)

include hinner

/-- Brackets with nothing in them and the element type are read as a slice. -/
theorem arrayType_slice {r : Token} {elem : GoType} {ts : List Token} (hr : r.kind = .rbracket)
    (helem : spec elem ts) (hrest : Ends rest) :
    (arrayType inner (r :: (ts ++ rest))).result = .ok (.array none elem, rest) := by
  have hnext : next? (r :: (ts ++ rest)) = some .rbracket := congrArg some hr
  unfold arrayType
  rw [if_pos hnext, List.tail_cons, result_bind_of_ok (hinner helem hrest)]
  rfl

/-- Brackets around a number or a name and the element type are read as an array of that length. -/
theorem arrayType_array {len r : Token} {elem : GoType} {ts : List Token}
    (hlen : len.kind = .number ∨ len.kind = .ident) (htext : Token.Lexes len.kind len.text)
    (hr : r.kind = .rbracket) (helem : spec elem ts) (hrest : Ends rest) :
    (arrayType inner (len :: r :: (ts ++ rest))).result =
      .ok (.array (some len.lexeme) elem, rest) := by
  have hnext : next? (len :: r :: (ts ++ rest)) ≠ some .rbracket := by
    show some len.kind ≠ some .rbracket
    rcases hlen with hlen | hlen <;> rw [hlen] <;> decide
  -- the length is trimmed, but a number or a name has no blanks to lose
  have hspan : String.ofList (Text.trim (Token.spanText [len])) = len.lexeme := by
    show String.ofList (Text.trim (len.text ++ [])) = _
    rw [List.append_nil, Token.trim_of_lexes htext hlen]
    rfl
  unfold arrayType
  rw [if_neg hnext, result_bind_of_ok (lengthTokens_single hlen hr _)]
  dsimp only [List.tail_cons]
  rw [result_bind_of_ok (hinner helem hrest), hspan]
  rfl

/-- The key type in brackets and the value type are read as a map. -/
theorem mapType_spells {l r : Token} {key value : GoType} {ks vs : List Token}
    (hl : l.kind = .lbracket) (hkey : spec key ks) (hr : r.kind = .rbracket)
    (hvalue : spec value vs) (hrest : Ends rest) :
    (mapType inner (l :: (ks ++ r :: (vs ++ rest)))).result = .ok (.map key value, rest) := by
  have hmid : Ends (r :: (vs ++ rest)) := ends_cons (by rw [hr]; rfl) _
  unfold mapType
  rw [expectKind_cons hl, result_bind_of_ok rfl, result_bind_of_ok (hinner hkey hmid)]
  dsimp only
  rw [expectKind_cons hr, result_bind_of_ok rfl, result_bind_of_ok (hinner hvalue hrest)]
  rfl

/-- The element type after `chan` is read as that of a channel. -/
theorem chanType_spells {elem : GoType} {ts : List Token} (helem : spec elem ts)
    (hrest : Ends rest) : (chanType inner (ts ++ rest)).result = .ok (.chan elem, rest) := by
  unfold chanType
  rw [result_bind_of_ok (hinner helem hrest)]
  rfl

end

/-! ## Function types -/

/-- A token that a result begins with does not end a type expression. -/
theorem endsType_of_beginsResult {kind : TokenKind} (h : beginsResult kind = true) :
    endsType kind = false := by
  cases kind <;> first | rfl | cases h

section

variable {inner : TypeReader} {spec : GoType → List Token → Prop} (hinner : Reads inner spec)
  (hhead : Headed spec)

include hinner hhead

/-- Parameters and results are passed over. -/
theorem skipSignature_spells {l r : Token} {ps rs rest : List Token} (hl : l.kind = .lparen)
    (hps : Balanced false ps) (hr : r.kind = .rparen) (hrs : Results spec rs) (hrest : Ends rest) :
    (skipSignature inner (l :: (ps ++ r :: (rs ++ rest)))).result = .ok rest := by
  unfold skipSignature
  rw [expectGroup_group hl rfl hps (by rw [hr]; rfl), result_bind_of_ok rfl]
  cases hrs with
  | none =>
    rw [List.nil_append]
    -- what follows the function type is not taken for its results
    split
    · rename_i hnext
      exact absurd hnext (hrest.next?_ne rfl)
    · rename_i kind _ hnext
      have hresult : ¬beginsResult kind = true := fun hresult =>
        hrest.next?_ne (endsType_of_beginsResult hresult) hnext
      rw [if_neg hresult]
      rfl
    · rfl
  | list hl' hr' hts =>
    rename_i l' r' ts
    have hnext : next? ((l' :: (ts ++ [r'])) ++ rest) = some .lparen := congrArg some hl'
    rw [hnext, List.cons_append, List.append_assoc]
    show (skipGroup 0 (l' :: (ts ++ r' :: rest))).result = _
    rw [skipGroup_group (by rw [hl']; rfl) hts (by rw [hr']; rfl)]
    rfl
  | single hfirst htype =>
    rename_i first type ts
    have hresult : beginsResult first.kind = true := by
      obtain ⟨t, us, heq, hbegins⟩ := hhead.begins htype
      cases heq
      unfold beginsType at hbegins
      simpa [hfirst] using hbegins
    split
    · rename_i hnext
      exact absurd (Option.some.inj hnext) hfirst
    · rename_i hnext
      cases hnext
      rw [if_pos hresult, result_bind_of_ok (hinner htype hrest)]
      rfl
    · rename_i hnext
      cases hnext

end

/-! ## Items in a row -/

/-- All separators before another token are passed over. -/
theorem skipSeparators_append {seps : List Token} (hseps : Separators seps) {t : Token}
    (ht : t.kind.isSeparator = false) (ts : List Token) :
    skipSeparators (seps ++ t :: ts) = t :: ts := by
  unfold skipSeparators
  rw [List.dropWhile_append_of_pos hseps, List.dropWhile_cons_of_neg (by simp [ht])]

/-- A separator is passed over. -/
theorem skipSeparators_cons {sep : Token} (hsep : sep.kind.isSeparator = true)
    (ts : List Token) : skipSeparators (sep :: ts) = skipSeparators ts :=
  List.dropWhile_cons_of_pos hsep

/-- What is ahead may follow an item: a separator, or the end of all items. -/
def ItemEnds (close : TokenKind) (rest : List Token) : Prop :=
  ∃ t ts, rest = t :: ts ∧ (t.kind.isSeparator = true ∨ t.kind = close)

/-- What follows an item may follow a type expression. -/
theorem ItemEnds.ends {close : TokenKind} (hclose : close.closes = true) {rest : List Token}
    (h : ItemEnds close rest) : Ends rest := by
  obtain ⟨t, ts, rfl, hsep | hkind⟩ := h
  · refine ends_cons ?_ ts
    unfold endsType
    rw [hsep, Bool.true_or, Bool.true_or]
  · refine ends_cons ?_ ts
    unfold endsType
    rw [hkind, hclose, Bool.or_true, Bool.true_or]

/-- What a loop makes of items in a row. `P turns ts xs` says that it makes `xs` of the tokens ahead
in so many turns. If separators make no difference and a turn takes one item, then as many
turns as there are tokens suffice. -/
theorem Separated.makes {α : Type} {item : α → List Token → Prop} {close : List Token}
    {P : Nat → List Token → List α → Prop}
    (hne : ∀ {x : α} {ts : List Token}, item x ts → ts ≠ [])
    (hskip : ∀ {k : Nat} {sep : Token} {ts : List Token} {xs : List α},
      sep.kind.isSeparator = true → P k ts xs → P k (sep :: ts) xs)
    (hclose : ∀ {seps : List Token} (k : Nat), Separators seps → P (k + 1) (seps ++ close) [])
    (hstep : ∀ {k : Nat} {x : α} {xs : List α} {seps ts after : List Token}, Separators seps →
      item x ts → (after = close ∨ ∃ sep us, after = sep :: us ∧ sep.kind.isSeparator = true) →
      P k after xs → P (k + 1) (seps ++ (ts ++ after)) (x :: xs))
    {xs : List α} {ts : List Token} (h : Separated item xs ts) {turns : Nat}
    (hturns : ts.length < turns) : P turns (ts ++ close) xs := by
  induction h generalizing turns with
  | nil hseps =>
    obtain ⟨k, rfl⟩ : ∃ k, turns = k + 1 := ⟨turns - 1, by omega⟩
    exact hclose k hseps
  | last hseps hx =>
    -- the item takes one turn, and what closes the items another one
    have hlength := List.length_pos_iff.mpr (hne hx)
    rw [List.length_append] at hturns
    obtain ⟨k, rfl⟩ : ∃ k, turns = k + 1 + 1 := ⟨turns - 2, by omega⟩
    have hnone : Separators ([] : List Token) := fun _ ht => by cases ht
    rw [List.append_assoc]
    exact hstep hseps hx (.inl rfl) (hclose k hnone)
  | cons hseps hx hsep _ ih =>
    have hlength := List.length_pos_iff.mpr (hne hx)
    simp only [List.length_append, List.length_cons] at hturns
    obtain ⟨k, rfl⟩ : ∃ k, turns = k + 1 := ⟨turns - 1, by omega⟩
    have hmore : P k _ _ := ih (by omega)
    rw [List.append_assoc, List.append_assoc]
    exact hstep hseps hx (.inr ⟨_, _, rfl, hsep⟩) (hskip hsep hmore)

/-! ## Struct types -/

/-- Line breaks before a name do not matter to whether one is awaited. -/
theorem nameAwaited_lines {lines : List Token} (h : ∀ t ∈ lines, t.kind.isNewline = true)
    (ts : List Token) : nameAwaited (lines ++ ts) = nameAwaited ts := by
  induction lines with
  | nil => rfl
  | cons t lines ih =>
    rw [List.cons_append, nameAwaited, if_pos (h t List.mem_cons_self)]
    exact ih fun u hu => h u (List.mem_cons_of_mem _ hu)

/-- Names go on as long as there are commas. -/
theorem namesAfter_spells {names : List String} {ns rest : List Token} (h : MoreNames names ns)
    (hrest : next? rest ≠ some .comma) : (namesAfter (ns ++ rest)).result = .ok (names, rest) := by
  induction h with
  | nil =>
    cases rest with
    | nil => rfl
    | cons t ts =>
      have ht : t.kind ≠ .comma := fun ht => hrest (congrArg some ht)
      rw [List.nil_append, namesAfter, if_neg ht]
      rfl
  | cons hcomma hlines hname _ ih =>
    rename_i comma name lines ts names _
    rw [List.cons_append, List.append_assoc, namesAfter, if_pos hcomma, List.cons_append,
      nameAwaited_lines hlines, nameAwaited, if_neg (by rw [hname]; decide), if_pos hname,
      result_bind_of_ok ih]
    rfl

/-- The tag of a field is read if there is one. -/
theorem fieldTag_spells {names : List String} {type : GoType} {tag : Option String}
    {gs rest : List Token} (h : TagSpells tag gs) (hrest : ItemEnds .rbrace rest) :
    (fieldTag names type (gs ++ rest)).result = .ok (⟨names, type, tag⟩, rest) := by
  cases h with
  | some ht =>
    rw [List.cons_append, fieldTag, if_pos ht]
    rfl
  | none =>
    obtain ⟨t, ts, rfl, hend⟩ := hrest
    have hliteral : t.kind.isStringLiteral = false := by
      cases hkind : t.kind <;> simp [hkind, TokenKind.isSeparator] at hend <;> rfl
    rw [List.nil_append, fieldTag, if_neg (by simp [hliteral])]
    rfl

/-- A tag, or no tag, and the end of a field may follow a type expression. -/
theorem TagSpells.ends {tag : Option String} {gs rest : List Token} (h : TagSpells tag gs)
    (hrest : ItemEnds .rbrace rest) : Ends (gs ++ rest) := by
  cases h with
  | none => exact hrest.ends rfl
  | some ht =>
    refine ends_cons ?_ rest
    unfold endsType
    rw [ht, Bool.or_true]

/-- A field line begins with a name or a star. -/
theorem FieldSpells.begins {spec : GoType → List Token → Prop} {f : Field} {ts : List Token}
    (h : FieldSpells spec f ts) : ∃ t us, ts = t :: us ∧ (t.kind = .ident ∨ t.kind = .star) := by
  cases h with
  | named hname _ _ _ => exact ⟨_, _, rfl, .inl hname⟩
  | embedded hfirst _ _ => exact ⟨_, _, rfl, hfirst⟩

/-- A name that a comma or a type follows is not an embedded field. -/
theorem atEmbedded_named {name t : Token} (hname : name.kind = .ident)
    (ht : t.kind = .comma ∨ beginsType t.kind = true) (ts : List Token) :
    atEmbedded (name :: t :: ts) = false := by
  rcases ht with ht | ht
  · simp [atEmbedded, hname, ht]
  · cases hkind : t.kind <;> rw [hkind] at ht <;>
      first | exact absurd ht (by decide) | simp [atEmbedded, hname, hkind]

/-- A name is an embedded type if nothing follows that could be its type. -/
theorem atEmbedded_name {first : Token} {ts : List Token} (hfirst : first.kind = .ident)
    (hts : ∀ u, ts.head? = some u → u.kind = .dot ∨ u.kind.isStringLiteral = true ∨
      u.kind.isSeparator = true ∨ u.kind = .rbrace) : atEmbedded (first :: ts) = true := by
  cases ts with
  | nil => simp [atEmbedded, hfirst]
  | cons u us =>
    have hu := hts u rfl
    cases hkind : u.kind <;>
      simp [hkind, TokenKind.isSeparator, TokenKind.isStringLiteral] at hu <;>
      simp [atEmbedded, hfirst, hkind]

/-- A field line that begins with a star is an embedded field. -/
theorem atEmbedded_star {first : Token} (hfirst : first.kind = .star) (ts : List Token) :
    atEmbedded (first :: ts) = true := by
  simp [atEmbedded, hfirst]

section

variable {inner : TypeReader} {spec : GoType → List Token → Prop} (hinner : Reads inner spec)
  (hhead : Headed spec)

include hinner hhead

/-- A field line is read as the field that it spells. -/
theorem fieldLine_spells {f : Field} {ts rest : List Token} (h : FieldSpells spec f ts)
    (hrest : ItemEnds .rbrace rest) : (fieldLine inner (ts ++ rest)).result = .ok (f, rest) := by
  cases h with
  | named hname hnames htype htag =>
    rename_i name names type tag ns ts gs
    obtain ⟨t, us, heq, hbegins⟩ := hhead.begins htype
    subst heq
    have hends := htag.ends hrest
    -- a comma or the type follows the first name, neither of which can follow an embedded one
    have hplain : atEmbedded (name :: (ns ++ ((t :: us) ++ (gs ++ rest)))) = false := by
      cases hnames with
      | nil => exact atEmbedded_named hname (.inr hbegins) _
      | cons hcomma _ _ _ => exact atEmbedded_named hname (.inl hcomma) _
    have hcomma : next? ((t :: us) ++ (gs ++ rest)) ≠ some .comma := by
      intro hcomma
      rw [show t.kind = .comma from Option.some.inj hcomma] at hbegins
      cases hbegins
    simp only [List.cons_append, List.append_assoc] at hplain hcomma ⊢
    unfold fieldLine
    rw [if_neg (by simp [hplain]), identifier_cons hname, result_bind_of_ok rfl]
    dsimp only
    rw [result_bind_of_ok (namesAfter_spells hnames hcomma)]
    dsimp only
    rw [← List.cons_append, result_bind_of_ok (hinner htype hends)]
    exact fieldTag_spells htag hrest
  | embedded hfirst htype htag =>
    rename_i first type tag ts gs
    have hends := htag.ends hrest
    -- an embedded name is followed by a dot, the tag or the end of the field
    have hembedded : atEmbedded (first :: (ts ++ (gs ++ rest))) = true := by
      rcases hfirst with hfirst | hfirst
      · refine atEmbedded_name hfirst ?_
        intro u hu
        cases ts with
        | cons v vs => exact .inl (hhead.after_name hfirst htype u hu)
        | nil =>
          cases htag with
          | some ht =>
            cases hu
            exact .inr (.inl ht)
          | none =>
            obtain ⟨v, vs, rfl, hend⟩ := hrest
            cases hu
            exact .inr (.inr hend)
      · exact atEmbedded_star hfirst _
    unfold fieldLine
    rw [List.cons_append, List.append_assoc, if_pos hembedded, ← List.cons_append,
      result_bind_of_ok (hinner htype hends)]
    exact fieldTag_spells htag hrest

omit hinner hhead in
/-- A separator before the fields of a struct is passed over. -/
theorem structFields_cons {sep : Token} (hsep : sep.kind.isSeparator = true) (turns : Nat)
    (ts : List Token) : structFields inner turns (sep :: ts) = structFields inner turns ts := by
  cases turns with
  | zero => rfl
  | succ turns => rw [structFields, structFields, skipSeparators_cons hsep]

/-- One turn of the loop over the fields reads one field. -/
theorem structFields_step {f : Field} {fs : List Field} {seps ts after rest : List Token}
    {turns : Nat} (hseps : Separators seps) (hf : FieldSpells spec f ts)
    (hafter : ItemEnds .rbrace after)
    (hmore : (structFields inner turns after).result = .ok (fs, rest)) :
    (structFields inner (turns + 1) (seps ++ (ts ++ after))).result = .ok (f :: fs, rest) := by
  have hline := fieldLine_spells hinner hhead hf hafter
  obtain ⟨t, us, rfl, ht⟩ := hf.begins
  have hsep : t.kind.isSeparator = false := by
    rcases ht with ht | ht <;> rw [ht] <;> rfl
  have hbrace : t.kind ≠ .rbrace := by
    rcases ht with ht | ht <;> rw [ht] <;> decide
  -- the separator after the field may be passed over or not
  have hend : ∃ next, fieldEnd after = pure next ∧
      structFields inner turns next = structFields inner turns after := by
    obtain ⟨u, vs, rfl, hu⟩ := hafter
    by_cases hseparator : u.kind.isSeparator = true
    · exact ⟨vs, if_pos hseparator, (structFields_cons hseparator turns vs).symm⟩
    · have hclose := hu.resolve_left hseparator
      refine ⟨u :: vs, ?_, rfl⟩
      rw [fieldEnd, if_neg hseparator, if_pos hclose]
  obtain ⟨next, hend, hnext⟩ := hend
  rw [structFields, List.cons_append, skipSeparators_append hseps hsep]
  dsimp only
  rw [if_neg hbrace, ← List.cons_append, result_bind_of_ok hline]
  dsimp only
  rw [hend, result_bind_of_ok rfl, hnext, result_bind_of_ok hmore]
  rfl

/-- The fields of a struct are read as what they spell. -/
theorem structFields_spells {fields : List Field} {ts : List Token}
    (h : Separated (FieldSpells spec) fields ts) {r : Token} (hr : r.kind = .rbrace)
    (rest : List Token) {turns : Nat} (hturns : ts.length < turns) :
    (structFields inner turns (ts ++ r :: rest)).result = .ok (fields, rest) := by
  refine h.makes (P := fun k us fs => (structFields inner k us).result = .ok (fs, rest))
    ?_ ?_ ?_ ?_ hturns
  · intro f us hf
    obtain ⟨t, vs, rfl, _⟩ := hf.begins
    exact List.cons_ne_nil t vs
  · intro k sep us fs hsep hmore
    rw [structFields_cons hsep, hmore]
  · intro seps k hseps
    rw [structFields, skipSeparators_append hseps (by rw [hr]; rfl)]
    dsimp only
    rw [if_pos hr]
    rfl
  · intro k f fs seps us after hseps hf hafter hmore
    refine structFields_step hinner hhead hseps hf ?_ hmore
    rcases hafter with rfl | ⟨sep, vs, rfl, hsep⟩
    · exact ⟨r, rest, rfl, .inr hr⟩
    · exact ⟨sep, vs, rfl, .inl hsep⟩

/-- The fields in braces are read as the struct type that they spell. -/
theorem structType_spells {l r : Token} {fields : List Field} {ts : List Token}
    (hl : l.kind = .lbrace) (hfields : Separated (FieldSpells spec) fields ts)
    (hr : r.kind = .rbrace) (rest : List Token) :
    (structType inner (l :: (ts ++ r :: rest))).result = .ok (.struct fields, rest) := by
  have hturns : ts.length < (ts ++ r :: rest).length + 1 := by
    simp only [List.length_append]
    omega
  unfold structType
  rw [expectKind_cons hl, result_bind_of_ok rfl,
    result_bind_of_ok (structFields_spells hinner hhead hfields hr rest hturns)]
  rfl

/-! ## All forms -/

/-- Whatever form an expression has, it is read as what it spells. -/
theorem typeForm_reads : Reads (typeForm inner) (Form spec) := by
  intro type ts rest h hrest
  cases h with
  | ident ht =>
    rename_i t
    show (typeForm inner (t :: rest)).result = _
    simp only [typeForm, ht]
    exact namedType_ident t hrest
  | selector hq hdot ht =>
    rename_i q dot t
    show (typeForm inner (q :: dot :: t :: rest)).result = _
    simp only [typeForm, hq]
    exact namedType_selector q hdot ht hrest
  | pointer hstar helem =>
    rw [List.cons_append]
    simp only [typeForm, hstar]
    rw [result_bind_of_ok (hinner helem hrest)]
    rfl
  | slice hl hr helem =>
    rw [List.cons_append, List.cons_append]
    simp only [typeForm, hl]
    exact arrayType_slice hinner hr helem hrest
  | array hl hlen htext hr helem =>
    rw [List.cons_append, List.cons_append, List.cons_append]
    simp only [typeForm, hl]
    exact arrayType_array hinner hlen htext hr helem hrest
  | map hword hl hkey hr hvalue =>
    rw [List.cons_append, List.cons_append, List.append_assoc, List.cons_append]
    simp only [typeForm, hword]
    exact mapType_spells hinner hl hkey hr hvalue hrest
  | struct hword hl hfields hr =>
    rename_i word l r fields ts
    rw [List.cons_append, List.cons_append, List.append_assoc]
    simp only [typeForm, hword]
    exact structType_spells hinner hhead hl hfields hr rest
  | interface hword hl hts hr =>
    rw [List.cons_append, List.cons_append, List.append_assoc]
    simp only [typeForm, hword]
    rw [List.singleton_append, expectGroup_group hl rfl hts (by rw [hr]; rfl)]
    rfl
  | func hword hl hps hr hrs =>
    rw [List.cons_append, List.cons_append, List.append_assoc, List.cons_append]
    simp only [typeForm, hword]
    rw [result_bind_of_ok (skipSignature_spells hinner hhead hl hps hr hrs hrest)]
    rfl
  | chan hword helem =>
    rename_i word elem ts
    rw [List.cons_append]
    simp only [typeForm, hword]
    obtain ⟨t, us, rfl, _⟩ := hhead.begins helem
    -- an arrow at the front of the element is taken for the direction of the channel
    by_cases harrow : t.kind = .arrow
    · rw [List.cons_append, skipKind, if_pos harrow]
      exact chanType_spells hinner (hhead.of_arrow harrow helem) hrest
    · rw [List.cons_append, skipKind, if_neg harrow, ← List.cons_append]
      exact chanType_spells hinner helem hrest
  | sending hword harrow helem =>
    rw [List.cons_append, List.cons_append]
    simp only [typeForm, hword]
    rw [skipKind, if_pos harrow]
    exact chanType_spells hinner helem hrest
  | receiving harrow hword helem =>
    rw [List.cons_append, List.cons_append]
    simp only [typeForm, harrow]
    rw [expectKind_cons hword, result_bind_of_ok rfl]
    exact chanType_spells hinner helem hrest
  | paren hl htype hr =>
    rename_i l r ts
    have hclose : Ends (r :: rest) := ends_cons (by rw [hr]; rfl) rest
    rw [List.cons_append, List.append_assoc]
    simp only [typeForm, hl]
    rw [List.singleton_append, result_bind_of_ok (hinner htype hclose)]
    dsimp only
    rw [expectKind_cons hr]
    rfl

end

/-- Type expressions are read as what they spell. -/
theorem typeExpr_reads (depth : Nat) : Reads (typeExpr depth) (Spells depth) := by
  induction depth with
  | zero =>
    intro type ts rest h
    cases h
  | succ depth ih => exact typeForm_reads ih (headed_spells depth)

end CodecGen.Package
