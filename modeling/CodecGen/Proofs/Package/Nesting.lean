import CodecGen.Package.Parser

/-!
# How deep type expressions nest

A reader of type expressions that are read by one of at most some nesting gives expressions that
nest by one level more (`typeForm_nesting`). So none that is read nests deeper than readers are
(`typeExpr_nesting`), and none that is declared deeper than what is allowed (`parse_nesting`).
-/

namespace CodecGen

mutual

/-- How many type expressions stand in each other, the outermost counted too. A qualified name is
one: what qualifies it is no type. -/
def GoType.nesting : GoType → Nat
  | .ident _ => 1
  | .selector qualifier _ => qualifier.nesting
  | .pointer elem => elem.nesting + 1
  | .array _ elem => elem.nesting + 1
  | .map key value => max key.nesting value.nesting + 1
  | .struct fields => GoType.fieldsNesting fields + 1
  | .interface => 1
  | .func => 1
  | .chan elem => elem.nesting + 1

/-- How deep the types of some fields nest. -/
def GoType.fieldsNesting : List (FieldOf GoType) → Nat
  | [] => 0
  | ⟨_, type, _⟩ :: fields => max type.nesting (GoType.fieldsNesting fields)

end

namespace Package

open GoType Logged

/-- A reader gives only type expressions of at most some nesting. -/
def NestsWithin (depth : Nat) (inner : TypeReader) : Prop :=
  ∀ ts type rest, (inner ts).result = .ok (type, rest) → type.nesting ≤ depth

/-! ## Forms of type expression -/

section

variable {inner : TypeReader} {depth : Nat} {ts rest : List Token} {type : GoType}

/-- Type arguments do not count, since they are dropped. -/
theorem namedType_nesting {name : Token} (h : (namedType name ts).result = .ok (type, rest)) :
    type.nesting = 1 := by
  have harguments : ∀ {p : GoType × List Token}, p.1.nesting = 1 →
      (if next? p.2 = some .lbracket then (do
        let ts ← skipGroup 0 p.2
        Logged.note .debug ("line " ++ toString name.line ++ ": ignoring type arguments")
        pure (p.1, ts))
      else pure (p.1, p.2) : Reading (GoType × List Token)).result = .ok (type, rest) →
      type.nesting = 1 := by
    intro p hp h
    by_cases hbracket : next? p.2 = some .lbracket
    · rw [if_pos hbracket] at h
      obtain ⟨us, -, h⟩ := exists_of_result_bind h
      cases h
      exact hp
    · rw [if_neg hbracket] at h
      cases h
      exact hp
  unfold namedType at h
  by_cases hdot : next? ts = some .dot
  · rw [if_pos hdot] at h
    obtain ⟨⟨sel, us⟩, -, h⟩ := exists_of_result_bind h
    exact harguments (p := (GoType.qualified name.lexeme sel, us)) rfl h
  · rw [if_neg hdot] at h
    exact harguments (p := (GoType.ident name.lexeme, ts)) rfl h

/-- A slice or an array nests one deeper than its elements may. -/
theorem arrayType_nesting (hinner : NestsWithin depth inner)
    (h : (arrayType inner ts).result = .ok (type, rest)) : type.nesting ≤ depth + 1 := by
  unfold arrayType at h
  by_cases hslice : next? ts = some .rbracket
  · rw [if_pos hslice] at h
    obtain ⟨⟨elem, us⟩, helem, htype⟩ := exists_of_result_bind h
    cases htype
    exact Nat.succ_le_succ (hinner _ _ _ helem)
  · rw [if_neg hslice] at h
    obtain ⟨⟨len, us⟩, -, h⟩ := exists_of_result_bind h
    obtain ⟨⟨elem, us⟩, helem, htype⟩ := exists_of_result_bind h
    cases htype
    exact Nat.succ_le_succ (hinner _ _ _ helem)

/-- A map nests one deeper than its keys and values may. -/
theorem mapType_nesting (hinner : NestsWithin depth inner)
    (h : (mapType inner ts).result = .ok (type, rest)) : type.nesting ≤ depth + 1 := by
  obtain ⟨us, -, h⟩ := exists_of_result_bind h
  obtain ⟨⟨key, us⟩, hkey, h⟩ := exists_of_result_bind h
  obtain ⟨us, -, h⟩ := exists_of_result_bind h
  obtain ⟨⟨value, us⟩, hvalue, h⟩ := exists_of_result_bind h
  cases h
  exact Nat.succ_le_succ (Nat.max_le.mpr ⟨hinner _ _ _ hkey, hinner _ _ _ hvalue⟩)

/-- A channel nests one deeper than its elements may. -/
theorem chanType_nesting (hinner : NestsWithin depth inner)
    (h : (chanType inner ts).result = .ok (type, rest)) : type.nesting ≤ depth + 1 := by
  obtain ⟨⟨elem, us⟩, helem, h⟩ := exists_of_result_bind h
  cases h
  exact Nat.succ_le_succ (hinner _ _ _ helem)

/-- A tag leaves the type of the field what it is. -/
theorem fieldTag_type {names : List String} {f : Field}
    (h : (fieldTag names type ts).result = .ok (f, rest)) : f.type = type := by
  cases ts with
  | nil =>
    cases h
    rfl
  | cons t ts =>
    rw [fieldTag] at h
    by_cases hliteral : t.kind.isStringLiteral = true
    · rw [if_pos hliteral] at h
      cases h
      rfl
    · rw [if_neg hliteral] at h
      cases h
      rfl

/-- The type of a field nests as deep as the reader allows. -/
theorem fieldLine_nesting (hinner : NestsWithin depth inner) {f : Field}
    (h : (fieldLine inner ts).result = .ok (f, rest)) : f.type.nesting ≤ depth := by
  unfold fieldLine at h
  by_cases hembedded : atEmbedded ts = true
  · rw [if_pos hembedded] at h
    obtain ⟨⟨type, us⟩, htype, h⟩ := exists_of_result_bind h
    rw [fieldTag_type h]
    exact hinner _ _ _ htype
  · rw [if_neg hembedded] at h
    obtain ⟨⟨name, us⟩, -, h⟩ := exists_of_result_bind h
    obtain ⟨⟨names, us⟩, -, h⟩ := exists_of_result_bind h
    obtain ⟨⟨type, us⟩, htype, h⟩ := exists_of_result_bind h
    rw [fieldTag_type h]
    exact hinner _ _ _ htype

/-- The types of the fields of a struct nest as deep as the reader allows: induction on the turns.
-/
theorem structFields_nesting (hinner : NestsWithin depth inner) {turns : Nat}
    {fields : List Field} (h : (structFields inner turns ts).result = .ok (fields, rest)) :
    fieldsNesting fields ≤ depth := by
  induction turns generalizing ts fields with
  | zero => cases h
  | succ turns ih =>
    rw [structFields] at h
    cases hts : skipSeparators ts with
    | nil =>
      rw [hts] at h
      cases h
    | cons t us =>
      rw [hts] at h
      dsimp only at h
      by_cases hend : t.kind = .rbrace
      · rw [if_pos hend] at h
        cases h
        exact Nat.zero_le depth
      · rw [if_neg hend] at h
        obtain ⟨⟨f, vs⟩, hfield, h⟩ := exists_of_result_bind h
        obtain ⟨ws, -, h⟩ := exists_of_result_bind h
        obtain ⟨⟨more, xs⟩, hmore, h⟩ := exists_of_result_bind h
        cases h
        exact Nat.max_le.mpr ⟨fieldLine_nesting hinner hfield, ih hmore⟩

/-- A struct nests one deeper than the types of its fields may. -/
theorem structType_nesting (hinner : NestsWithin depth inner)
    (h : (structType inner ts).result = .ok (type, rest)) : type.nesting ≤ depth + 1 := by
  obtain ⟨us, -, h⟩ := exists_of_result_bind h
  obtain ⟨⟨fields, us⟩, hfields, h⟩ := exists_of_result_bind h
  cases h
  exact Nat.succ_le_succ (structFields_nesting hinner hfields)

/-- A form nests one level deeper than what is read inside it may. -/
theorem typeForm_nesting (hinner : NestsWithin depth inner) :
    NestsWithin (depth + 1) (typeForm inner) := by
  intro ts type rest h
  cases ts with
  | nil => cases h
  | cons t ts =>
    rw [typeForm] at h
    have hone : 1 ≤ depth + 1 := Nat.le_add_left 1 depth
    split at h
    case h_1 =>
      rw [namedType_nesting h]
      exact hone
    case h_2 =>
      obtain ⟨⟨elem, us⟩, helem, h⟩ := exists_of_result_bind h
      cases h
      exact Nat.succ_le_succ (hinner _ _ _ helem)
    case h_3 => exact arrayType_nesting hinner h
    case h_4 => exact mapType_nesting hinner h
    case h_5 => exact structType_nesting hinner h
    case h_6 =>
      obtain ⟨us, -, h⟩ := exists_of_result_bind h
      cases h
      exact hone
    case h_7 =>
      obtain ⟨us, -, h⟩ := exists_of_result_bind h
      cases h
      exact hone
    case h_8 => exact chanType_nesting hinner h
    case h_9 =>
      obtain ⟨us, -, h⟩ := exists_of_result_bind h
      exact chanType_nesting hinner h
    case h_10 =>
      obtain ⟨⟨inside, us⟩, hinside, h⟩ := exists_of_result_bind h
      obtain ⟨vs, -, h⟩ := exists_of_result_bind h
      cases h
      exact Nat.le_succ_of_le (hinner _ _ _ hinside)
    case h_11 => cases h

/-- No type expression nests deeper than what is allowed where it is read. -/
theorem typeExpr_nesting (depth : Nat) : NestsWithin depth (typeExpr depth) := by
  induction depth with
  | zero =>
    intro ts type rest h
    cases h
  | succ depth ih => exact typeForm_nesting ih

end

/-! ## Declarations -/

section

variable {ts rest : List Token} {d : TypeDecl} {decls : List TypeDecl}

/-- A declaration nests no deeper than the limit. -/
theorem typeSpec_nesting {decl : Option TypeDecl}
    (h : (typeSpec ts).result = .ok (decl, rest)) (hd : d ∈ decl.toList) :
    d.type.nesting ≤ maxTypeDepth := by
  unfold typeSpec at h
  obtain ⟨⟨name, us⟩, -, h⟩ := exists_of_result_bind h
  dsimp only at h
  by_cases hparams : atTypeParams us = true
  · rw [if_pos hparams] at h
    obtain ⟨vs, -, h⟩ := exists_of_result_bind h
    obtain ⟨⟨type, ws⟩, -, h⟩ := exists_of_result_bind h
    obtain ⟨_, -, h⟩ := exists_of_result_bind h
    cases h
    cases hd
  · rw [if_neg hparams] at h
    obtain ⟨⟨type, vs⟩, htype, h⟩ := exists_of_result_bind h
    cases h
    cases List.mem_singleton.mp hd
    exact typeExpr_nesting maxTypeDepth _ _ _ htype

/-- No declaration of a group nests deeper than the limit. -/
theorem typeGroup_nesting {turns : Nat}
    (h : (typeGroup turns ts).result = .ok (decls, rest)) (hd : d ∈ decls) :
    d.type.nesting ≤ maxTypeDepth := by
  induction turns generalizing ts decls with
  | zero => cases h
  | succ turns ih =>
    rw [typeGroup] at h
    cases hts : skipSeparators ts with
    | nil =>
      rw [hts] at h
      cases h
    | cons t us =>
      rw [hts] at h
      dsimp only at h
      by_cases hend : t.kind = .rparen
      · rw [if_pos hend] at h
        cases h
        cases hd
      · rw [if_neg hend] at h
        obtain ⟨⟨decl, vs⟩, hdecl, h⟩ := exists_of_result_bind h
        dsimp only at h
        split at h
        · rename_i kind _
          by_cases hmore : kind.isSeparator = true ∨ kind = .rparen
          · rw [if_pos hmore] at h
            obtain ⟨⟨more, ws⟩, hgroup, h⟩ := exists_of_result_bind h
            cases h
            rcases List.mem_append.mp hd with hfirst | hlater
            · exact typeSpec_nesting hdecl hfirst
            · exact ih hgroup hlater
          · rw [if_neg hmore] at h
            cases h
        · cases h

/-- No declaration after the word `type` nests deeper than the limit. -/
theorem typeDecls_nesting (h : (typeDecls ts).result = .ok (decls, rest)) (hd : d ∈ decls) :
    d.type.nesting ≤ maxTypeDepth := by
  have hsingle : ∀ {us}, (typeSpec us >>= fun p => pure (p.1.toList, p.2)).result =
      .ok (decls, rest) → d.type.nesting ≤ maxTypeDepth := by
    intro us h
    obtain ⟨⟨decl, vs⟩, hdecl, h⟩ := exists_of_result_bind h
    cases h
    exact typeSpec_nesting hdecl hd
  cases ts with
  | nil => exact hsingle h
  | cons t us =>
    rw [typeDecls] at h
    by_cases hgroup : t.kind = .lparen
    · rw [if_pos hgroup] at h
      exact typeGroup_nesting h hd
    · rw [if_neg hgroup] at h
      exact hsingle h

/-- No declaration among the statements of a source nests deeper than the limit. -/
theorem statements_nesting {turns : Nat} (h : (statements turns ts).result = .ok decls)
    (hd : d ∈ decls) : d.type.nesting ≤ maxTypeDepth := by
  induction turns generalizing ts decls with
  | zero =>
    cases h
    cases hd
  | succ turns ih =>
    rw [statements] at h
    cases hts : skipSeparators ts with
    | nil =>
      rw [hts] at h
      cases h
      cases hd
    | cons t us =>
      rw [hts] at h
      dsimp only at h
      by_cases htype : t.kind = .keyword .typeDecl
      · rw [if_pos htype] at h
        obtain ⟨⟨first, vs⟩, hfirst, h⟩ := exists_of_result_bind h
        obtain ⟨more, hmore, h⟩ := exists_of_result_bind h
        cases h
        rcases List.mem_append.mp hd with hin | hin
        · exact typeDecls_nesting hfirst hin
        · exact ih hmore hin
      · rw [if_neg htype] at h
        obtain ⟨vs, -, h⟩ := exists_of_result_bind h
        exact ih h hd

/-- No type that a source declares nests deeper than what is allowed. -/
theorem parse_nesting {source : String} {p : Package} (h : (parse source).result = .ok p)
    (hd : d ∈ p.decls) : d.type.nesting ≤ maxTypeDepth := by
  obtain ⟨ts, -, h⟩ := exists_of_result_bind h
  rw [result_mapError] at h
  cases hp : (ofTokens ts).result with
  | error e =>
    rw [hp] at h
    cases h
  | ok q =>
    rw [hp] at h
    cases h
    obtain ⟨us, -, hp⟩ := exists_of_result_bind hp
    obtain ⟨⟨name, vs⟩, -, hp⟩ := exists_of_result_bind hp
    obtain ⟨decls, hdecls, hp⟩ := exists_of_result_bind hp
    obtain ⟨_, -, hp⟩ := exists_of_result_bind hp
    cases hp
    exact statements_nesting hdecls hd

end

end Package

end CodecGen
