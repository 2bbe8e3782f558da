import CodecGen.Proofs.Package.Types

/-!
# Where named types stand

The readers as relations between the tokens ahead, what is read of them and the tokens that are
left, together with the places of the named types that stand in type position: the body of a
declaration and the components of types at any depth. A place is given by the number of tokens after
the name. A name that is embedded by itself, without a package or a pointer, is left out, and so are
names that have type arguments and whatever is passed over. Every source that is read has such
places (`ofTokens_places`).
-/

namespace CodecGen.Package

open Logged (exists_of_result_bind result_bind_of_ok)

/-! ## Reading as a relation -/

/-- What is read as a type of the tokens ahead, the tokens that are left, and the places of the
named types in it. -/
abbrev TypeRelation := List Token → GoType → List Token → List Nat → Prop

section

variable (inner : TypeRelation)

/-- The names and the type of a field, over what is read as a type. -/
inductive FieldReads : List Token → List String → GoType → List Token → List Nat → Prop where
  | named {name : Token} {ts us rest : List Token} {names : List String} {type : GoType}
      {places : List Nat} (hplain : atEmbedded (name :: ts) = false) (hname : name.kind = .ident)
      (hnames : (namesAfter ts).result = .ok (names, us)) (htype : inner us type rest places) :
      FieldReads (name :: ts) (name.lexeme :: names) type rest places
  /-- A pointer or a qualified name is embedded. -/
  | embedded {first : Token} {ts rest : List Token} {type : GoType} {places : List Nat}
      (hembedded : atEmbedded (first :: ts) = true)
      (hfirst : first.kind = .star ∨ first.kind = .ident ∧ next? ts = some .dot)
      (htype : inner (first :: ts) type rest places) :
      FieldReads (first :: ts) [] type rest places
  /-- The place of a name that is embedded by itself does not count. -/
  | bare {first : Token} {ts rest : List Token} {type : GoType} {places : List Nat}
      (hembedded : atEmbedded (first :: ts) = true) (hfirst : first.kind = .ident)
      (hnext : next? ts ≠ some .dot) (htype : inner (first :: ts) type rest places) :
      FieldReads (first :: ts) [] type rest []

/-- The fields of a struct through its closing brace. -/
inductive FieldsReads : List Token → List Field → List Token → List Nat → Prop where
  | close {ts rest : List Token} {r : Token} (hts : skipSeparators ts = r :: rest)
      (hr : r.kind = .rbrace) : FieldsReads ts [] rest []
  | cons {ts us vs ws xs rest : List Token} {first : Token} {names : List String} {type : GoType}
      {f : Field} {fs : List Field} {places more : List Nat}
      (hts : skipSeparators ts = first :: us) (hfirst : first.kind ≠ .rbrace)
      (hfield : FieldReads inner (first :: us) names type vs places)
      (htag : (fieldTag names type vs).result = .ok (f, ws))
      (hend : (fieldEnd ws).result = .ok xs) (hmore : FieldsReads xs fs rest more) :
      FieldsReads ts (f :: fs) rest (places ++ more)

/-- The forms of type expressions. -/
inductive FormReads : TypeRelation where
  | ident {t : Token} {rest : List Token} (ht : t.kind = .ident) (hdot : next? rest ≠ some .dot)
      (hbracket : next? rest ≠ some .lbracket) :
      FormReads (t :: rest) (.ident t.lexeme) rest [rest.length]
  | selector {q dot t : Token} {rest : List Token} (hq : q.kind = .ident) (hdot : dot.kind = .dot)
      (ht : t.kind = .ident) (hbracket : next? rest ≠ some .lbracket) :
      FormReads (q :: dot :: t :: rest) (.qualified q.lexeme t.lexeme) rest [rest.length]
  /-- A name that has type arguments. -/
  | identArguments {t : Token} {ts rest : List Token} (ht : t.kind = .ident)
      (hbracket : next? ts = some .lbracket) (hskip : (skipGroup 0 ts).result = .ok rest) :
      FormReads (t :: ts) (.ident t.lexeme) rest []
  | selectorArguments {q dot t : Token} {ts rest : List Token} (hq : q.kind = .ident)
      (hdot : dot.kind = .dot) (ht : t.kind = .ident) (hbracket : next? ts = some .lbracket)
      (hskip : (skipGroup 0 ts).result = .ok rest) :
      FormReads (q :: dot :: t :: ts) (.qualified q.lexeme t.lexeme) rest []
  | pointer {star : Token} {ts rest : List Token} {elem : GoType} {places : List Nat}
      (hstar : star.kind = .star) (helem : inner ts elem rest places) :
      FormReads (star :: ts) (.pointer elem) rest places
  | slice {l r : Token} {ts rest : List Token} {elem : GoType} {places : List Nat}
      (hl : l.kind = .lbracket) (hr : r.kind = .rbracket) (helem : inner ts elem rest places) :
      FormReads (l :: r :: ts) (.array none elem) rest places
  | array {l : Token} {ts us len rest : List Token} {elem : GoType} {places : List Nat}
      (hl : l.kind = .lbracket) (hnext : next? ts ≠ some .rbracket)
      (hlen : (lengthTokens 0 ts).result = .ok (len, us)) (helem : inner us.tail elem rest places) :
      FormReads (l :: ts) (.array (some (String.ofList (Text.trim (Token.spanText len)))) elem)
        rest places
  | map {word l r : Token} {ts us rest : List Token} {key value : GoType}
      {places more : List Nat} (hword : word.kind = .keyword .map) (hl : l.kind = .lbracket)
      (hkey : inner ts key (r :: us) places) (hr : r.kind = .rbracket)
      (hvalue : inner us value rest more) :
      FormReads (word :: l :: ts) (.map key value) rest (places ++ more)
  | struct {word l : Token} {ts rest : List Token} {fields : List Field} {places : List Nat}
      (hword : word.kind = .keyword .struct) (hl : l.kind = .lbrace)
      (hfields : FieldsReads inner ts fields rest places) :
      FormReads (word :: l :: ts) (.struct fields) rest places
  | interface {word : Token} {ts rest : List Token} (hword : word.kind = .keyword .interface)
      (hskip : (expectGroup .lbrace "`\x7b`" ts).result = .ok rest) :
      FormReads (word :: ts) .interface rest []
  /-- A function type without results. -/
  | func {word : Token} {ts rest : List Token} (hword : word.kind = .keyword .func)
      (hskip : (expectGroup .lparen "`(`" ts).result = .ok rest)
      (hnext : ∀ kind, next? rest = some kind → kind ≠ .lparen ∧ beginsResult kind = false) :
      FormReads (word :: ts) .func rest []
  /-- A function type with its results in parentheses. -/
  | funcList {word : Token} {ts us rest : List Token} (hword : word.kind = .keyword .func)
      (hskip : (expectGroup .lparen "`(`" ts).result = .ok us) (hnext : next? us = some .lparen)
      (hresults : (skipGroup 0 us).result = .ok rest) : FormReads (word :: ts) .func rest []
  /-- A function type with one result. -/
  | funcResult {word : Token} {ts us rest : List Token} {kind : TokenKind} {type : GoType}
      {places : List Nat} (hword : word.kind = .keyword .func)
      (hskip : (expectGroup .lparen "`(`" ts).result = .ok us) (hnext : next? us = some kind)
      (hkind : beginsResult kind = true) (htype : inner us type rest places) :
      FormReads (word :: ts) .func rest places
  | chan {word : Token} {ts rest : List Token} {elem : GoType} {places : List Nat}
      (hword : word.kind = .keyword .chan) (helem : inner (skipKind .arrow ts) elem rest places) :
      FormReads (word :: ts) (.chan elem) rest places
  | receiving {arrow word : Token} {ts rest : List Token} {elem : GoType} {places : List Nat}
      (harrow : arrow.kind = .arrow) (hword : word.kind = .keyword .chan)
      (helem : inner ts elem rest places) : FormReads (arrow :: word :: ts) (.chan elem) rest places
  | paren {l r : Token} {ts rest : List Token} {type : GoType} {places : List Nat}
      (hl : l.kind = .lparen) (htype : inner ts type (r :: rest) places) (hr : r.kind = .rparen) :
      FormReads (l :: ts) type rest places

end

/-- Type expressions of at most the given nesting. -/
def TypeReads : Nat → TypeRelation
  | 0 => fun _ _ _ _ => False
  | depth + 1 => FormReads (TypeReads depth)

/-- One declaration from its name on. A generic one is dropped, and no place in it counts. -/
inductive SpecReads : List Token → Option TypeDecl → List Token → List Nat → Prop where
  | plain {name : Token} {ts rest : List Token} {type : GoType} {places : List Nat}
      (hname : name.kind = .ident) (hparams : atTypeParams ts = false)
      (htype : TypeReads maxTypeDepth (skipKind .assign ts) type rest places) :
      SpecReads (name :: ts) (some ⟨name.lexeme, type⟩) rest places
  | generic {name : Token} {ts us rest : List Token} {type : GoType} {places : List Nat}
      (hname : name.kind = .ident) (hparams : atTypeParams ts = true)
      (hskip : (skipGroup 0 ts).result = .ok us)
      (htype : TypeReads maxTypeDepth (skipKind .assign us) type rest places) :
      SpecReads (name :: ts) none rest []

/-- The declarations of a group through its closing parenthesis. -/
inductive GroupReads : List Token → List TypeDecl → List Token → List Nat → Prop where
  | close {ts rest : List Token} {r : Token} (hts : skipSeparators ts = r :: rest)
      (hr : r.kind = .rparen) : GroupReads ts [] rest []
  | cons {ts us vs rest : List Token} {first : Token} {kind : TokenKind} {d : Option TypeDecl}
      {ds : List TypeDecl} {places more : List Nat} (hts : skipSeparators ts = first :: us)
      (hfirst : first.kind ≠ .rparen) (hd : SpecReads (first :: us) d vs places)
      (hnext : next? vs = some kind) (hkind : kind.isSeparator = true ∨ kind = .rparen)
      (hmore : GroupReads vs ds rest more) :
      GroupReads ts (d.toList ++ ds) rest (places ++ more)

/-- What follows the keyword of a type declaration. -/
inductive DeclsReads : List Token → List TypeDecl → List Token → List Nat → Prop where
  | group {l : Token} {ts rest : List Token} {ds : List TypeDecl} {places : List Nat}
      (hl : l.kind = .lparen) (hds : GroupReads ts ds rest places) :
      DeclsReads (l :: ts) ds rest places
  | single {ts rest : List Token} {d : Option TypeDecl} {places : List Nat}
      (hd : SpecReads ts d rest places) : DeclsReads ts d.toList rest places

/-- The statements of a source. -/
inductive StatementsReads : List Token → List TypeDecl → List Nat → Prop where
  | done {ts : List Token} (hts : skipSeparators ts = []) : StatementsReads ts [] []
  | decls {ts us vs : List Token} {word : Token} {ds more : List TypeDecl}
      {places places' : List Nat} (hts : skipSeparators ts = word :: us)
      (hword : word.kind = .keyword .typeDecl) (hds : DeclsReads us ds vs places)
      (hmore : StatementsReads vs more places') :
      StatementsReads ts (ds ++ more) (places ++ places')
  | other {ts us vs : List Token} {first : Token} {ds : List TypeDecl} {places : List Nat}
      (hts : skipSeparators ts = first :: us) (hfirst : first.kind ≠ .keyword .typeDecl)
      (hskip : (skipStatement 0 (first :: us)).result = .ok vs)
      (hmore : StatementsReads vs ds places) : StatementsReads ts ds places

/-- A source: the package clause and the statements after it. -/
inductive SourceReads : List Token → Package → List Nat → Prop where
  | intro {ts us : List Token} {word name : Token} {ds : List TypeDecl} {places : List Nat}
      (hts : skipSeparators ts = word :: name :: us) (hword : word.kind = .keyword .package)
      (hname : name.kind = .ident) (hds : StatementsReads us ds places) :
      SourceReads ts ⟨name.lexeme, ds⟩ places

/-! ## What is read has places -/

/-- A token that is taken was there, with its class. -/
theorem exists_of_expectKind {kind : TokenKind} {what : String} {ts rest : List Token}
    (h : (expectKind kind what ts).result = .ok rest) : ∃ t, ts = t :: rest ∧ t.kind = kind := by
  cases ts with
  | nil => cases h
  | cons t ts =>
    by_cases hkind : t.kind = kind
    · rw [expectKind_cons hkind] at h
      cases h
      exact ⟨t, rfl, hkind⟩
    · rw [expectKind, if_neg hkind] at h
      cases h

/-- A name that is taken was there, as its token. -/
theorem exists_of_identifier {ts rest : List Token} {name : String}
    (h : (identifier ts).result = .ok (name, rest)) :
    ∃ t, ts = t :: rest ∧ t.kind = .ident ∧ name = t.lexeme := by
  cases ts with
  | nil => cases h
  | cons t ts =>
    by_cases hkind : t.kind = .ident
    · rw [identifier_cons hkind] at h
      cases h
      exact ⟨t, rfl, hkind, rfl⟩
    · rw [identifier, if_neg hkind] at h
      cases h

/-- Whatever the reader reads is read by the relation, with some places. -/
def HasPlaces (inner : TypeReader) (R : TypeRelation) : Prop :=
  ∀ {ts : List Token} {type : GoType} {rest : List Token}, (inner ts).result = .ok (type, rest) →
    ∃ places, R ts type rest places

section

variable {inner : TypeReader} {R : TypeRelation} {ts rest : List Token} {type : GoType}

/-- Type arguments may come after a name. -/
theorem arguments_cases {named : GoType} {text : String}
    (h : (if next? ts = some .lbracket then do
        let ts ← skipGroup 0 ts
        Logged.note .debug text
        pure (named, ts)
      else pure (named, ts) : Reading (GoType × List Token)).result = .ok (type, rest)) :
    named = type ∧ (next? ts ≠ some .lbracket ∧ ts = rest ∨
      next? ts = some .lbracket ∧ (skipGroup 0 ts).result = .ok rest) := by
  by_cases hbracket : next? ts = some .lbracket
  · rw [if_pos hbracket] at h
    obtain ⟨us, hskip, h⟩ := exists_of_result_bind h
    cases h
    exact ⟨rfl, .inr ⟨hbracket, hskip⟩⟩
  · rw [if_neg hbracket] at h
    cases h
    exact ⟨rfl, .inl ⟨hbracket, rfl⟩⟩

/-- A named type is read with the place after its name, or with none if arguments follow it. -/
theorem namedType_places {t : Token} (ht : t.kind = .ident)
    (h : (namedType t ts).result = .ok (type, rest)) :
    ∃ places, FormReads R (t :: ts) type rest places := by
  unfold namedType at h
  by_cases hdot : next? ts = some .dot
  · rw [if_pos hdot] at h
    obtain ⟨⟨sel, us⟩, hsel, h⟩ := exists_of_result_bind h
    cases ts with
    | nil => cases hdot
    | cons dot ts =>
      obtain ⟨s, rfl, hs, rfl⟩ := exists_of_identifier hsel
      have hkind : dot.kind = .dot := Option.some.inj hdot
      obtain ⟨rfl, ⟨hbracket, rfl⟩ | ⟨hbracket, hskip⟩⟩ := arguments_cases h
      · exact ⟨_, .selector ht hkind hs hbracket⟩
      · exact ⟨_, .selectorArguments ht hkind hs hbracket hskip⟩
  · rw [if_neg hdot] at h
    obtain ⟨rfl, ⟨hbracket, rfl⟩ | ⟨hbracket, hskip⟩⟩ := arguments_cases h
    · exact ⟨_, .ident ht hdot hbracket⟩
    · exact ⟨_, .identArguments ht hbracket hskip⟩

variable (hinner : HasPlaces inner R)

include hinner

/-- Slices and arrays are read with the places of their elements. -/
theorem arrayType_places {l : Token} (hl : l.kind = .lbracket)
    (h : (arrayType inner ts).result = .ok (type, rest)) :
    ∃ places, FormReads R (l :: ts) type rest places := by
  unfold arrayType at h
  by_cases hnext : next? ts = some .rbracket
  · rw [if_pos hnext] at h
    obtain ⟨⟨elem, us⟩, helem, h⟩ := exists_of_result_bind h
    cases h
    cases ts with
    | nil => cases hnext
    | cons r ts =>
      obtain ⟨places, hplaces⟩ := hinner helem
      exact ⟨places, .slice hl (Option.some.inj hnext) hplaces⟩
  · rw [if_neg hnext] at h
    obtain ⟨⟨len, us⟩, hlen, h⟩ := exists_of_result_bind h
    obtain ⟨⟨elem, vs⟩, helem, h⟩ := exists_of_result_bind h
    cases h
    obtain ⟨places, hplaces⟩ := hinner helem
    exact ⟨places, .array hl hnext hlen hplaces⟩

/-- Map types are read with the places of their keys and values. -/
theorem mapType_places {word : Token} (hword : word.kind = .keyword .map)
    (h : (mapType inner ts).result = .ok (type, rest)) :
    ∃ places, FormReads R (word :: ts) type rest places := by
  unfold mapType at h
  obtain ⟨us, hopen, h⟩ := exists_of_result_bind h
  obtain ⟨⟨key, vs⟩, hkey, h⟩ := exists_of_result_bind h
  obtain ⟨ws, hclose, h⟩ := exists_of_result_bind h
  obtain ⟨⟨value, xs⟩, hvalue, h⟩ := exists_of_result_bind h
  cases h
  obtain ⟨l, rfl, hl⟩ := exists_of_expectKind hopen
  obtain ⟨r, rfl, hr⟩ := exists_of_expectKind hclose
  obtain ⟨places, hkeyPlaces⟩ := hinner hkey
  obtain ⟨more, hvaluePlaces⟩ := hinner hvalue
  exact ⟨places ++ more, .map hword hl hkeyPlaces hr hvaluePlaces⟩

/-- Channel types are read with the places of their elements. -/
theorem chanType_places (h : (chanType inner ts).result = .ok (type, rest)) :
    ∃ elem places, type = .chan elem ∧ R ts elem rest places := by
  unfold chanType at h
  obtain ⟨⟨elem, us⟩, helem, h⟩ := exists_of_result_bind h
  cases h
  obtain ⟨places, hplaces⟩ := hinner helem
  exact ⟨elem, places, rfl, hplaces⟩

/-- Function types are read with the places of a single result. -/
theorem skipSignature_places {word : Token} (hword : word.kind = .keyword .func)
    (h : (skipSignature inner ts).result = .ok rest) :
    ∃ places, FormReads R (word :: ts) .func rest places := by
  unfold skipSignature at h
  obtain ⟨us, hparams, h⟩ := exists_of_result_bind h
  split at h
  · rename_i hnext
    exact ⟨[], .funcList hword hparams hnext h⟩
  · rename_i kind hparen hnext
    by_cases hkind : beginsResult kind = true
    · rw [if_pos hkind] at h
      obtain ⟨⟨result, vs⟩, hresult, h⟩ := exists_of_result_bind h
      cases h
      obtain ⟨places, hplaces⟩ := hinner hresult
      exact ⟨places, .funcResult hword hparams hnext hkind hplaces⟩
    · rw [if_neg hkind] at h
      cases h
      refine ⟨[], .func hword hparams fun other hother => ?_⟩
      cases hnext.symm.trans hother
      exact ⟨hparen, by simpa using hkind⟩
  · rename_i hnext
    cases h
    refine ⟨[], .func hword hparams fun other hother => ?_⟩
    cases hnext.symm.trans hother

/-- A field line is read with the places of its type, up to its tag. -/
theorem fieldLine_places {first : Token} {f : Field}
    (h : (fieldLine inner (first :: ts)).result = .ok (f, rest)) :
    ∃ names type us places, FieldReads R (first :: ts) names type us places ∧
      (fieldTag names type us).result = .ok (f, rest) := by
  unfold fieldLine at h
  by_cases hembedded : atEmbedded (first :: ts) = true
  · rw [if_pos hembedded] at h
    obtain ⟨⟨type, us⟩, htype, htag⟩ := exists_of_result_bind h
    obtain ⟨places, hplaces⟩ := hinner htype
    have hfirst : first.kind = .star ∨ first.kind = .ident := by
      unfold atEmbedded at hembedded
      split at hembedded
      · rename_i hkinds
        exact .inl (List.cons.inj hkinds).1
      · rename_i hkinds
        exact .inr (List.cons.inj hkinds).1
      · rename_i hkinds
        exact .inr (List.cons.inj hkinds).1
      · cases hembedded
    -- an embedded name has no place after itself, but a qualified one has
    rcases hfirst with hstar | hident
    · exact ⟨[], type, us, places, .embedded hembedded (.inl hstar) hplaces, htag⟩
    by_cases hdot : next? ts = some .dot
    · exact ⟨[], type, us, places, .embedded hembedded (.inr ⟨hident, hdot⟩) hplaces, htag⟩
    · exact ⟨[], type, us, [], .bare hembedded hident hdot hplaces, htag⟩
  · rw [if_neg hembedded] at h
    obtain ⟨⟨name, us⟩, hname, h⟩ := exists_of_result_bind h
    obtain ⟨⟨names, vs⟩, hnames, h⟩ := exists_of_result_bind h
    obtain ⟨⟨type, ws⟩, htype, htag⟩ := exists_of_result_bind h
    obtain ⟨t, heq, hkind, rfl⟩ := exists_of_identifier hname
    cases heq
    obtain ⟨places, hplaces⟩ := hinner htype
    exact ⟨_, type, ws, places, .named (by simpa using hembedded) hkind hnames hplaces, htag⟩

/-- The fields of a struct are read with the places of their types: induction on the turns. -/
theorem structFields_places {turns : Nat} {fs : List Field}
    (h : (structFields inner turns ts).result = .ok (fs, rest)) :
    ∃ places, FieldsReads R ts fs rest places := by
  induction turns generalizing ts fs with
  | zero => cases h
  | succ turns ih =>
    rw [structFields] at h
    split at h
    · cases h
    · rename_i first us hts
      by_cases hclose : first.kind = .rbrace
      · rw [if_pos hclose] at h
        cases h
        exact ⟨[], .close hts hclose⟩
      · rw [if_neg hclose] at h
        obtain ⟨⟨f, vs⟩, hline, h⟩ := exists_of_result_bind h
        obtain ⟨ws, hend, h⟩ := exists_of_result_bind h
        obtain ⟨⟨more, xs⟩, hmore, h⟩ := exists_of_result_bind h
        cases h
        obtain ⟨names, type, ys, places, hfield, htag⟩ := fieldLine_places hinner hline
        obtain ⟨placesMore, hplacesMore⟩ := ih hmore
        exact ⟨places ++ placesMore, .cons hts hclose hfield htag hend hplacesMore⟩

/-- Struct types are read with the places of their fields. -/
theorem structType_places {word : Token} (hword : word.kind = .keyword .struct)
    (h : (structType inner ts).result = .ok (type, rest)) :
    ∃ places, FormReads R (word :: ts) type rest places := by
  unfold structType at h
  obtain ⟨us, hopen, h⟩ := exists_of_result_bind h
  obtain ⟨⟨fields, vs⟩, hfields, h⟩ := exists_of_result_bind h
  cases h
  obtain ⟨l, rfl, hl⟩ := exists_of_expectKind hopen
  obtain ⟨places, hplaces⟩ := structFields_places hinner hfields
  exact ⟨places, .struct hword hl hplaces⟩

/-- Every form of type expression is read with some places, if the types inside are. -/
theorem typeForm_places : HasPlaces (typeForm inner) (FormReads R) := by
  intro ts type rest h
  cases ts with
  | nil => cases h
  | cons t ts =>
    -- one case for each class of token that begins a form
    rw [typeForm] at h
    split at h
    · rename_i ht
      exact namedType_places ht h
    · rename_i ht
      obtain ⟨⟨elem, us⟩, helem, h⟩ := exists_of_result_bind h
      cases h
      obtain ⟨places, hplaces⟩ := hinner helem
      exact ⟨places, .pointer ht hplaces⟩
    · rename_i ht
      exact arrayType_places hinner ht h
    · rename_i ht
      exact mapType_places hinner ht h
    · rename_i ht
      exact structType_places hinner ht h
    · rename_i ht
      obtain ⟨us, hskip, h⟩ := exists_of_result_bind h
      cases h
      exact ⟨[], .interface ht hskip⟩
    · rename_i ht
      obtain ⟨us, hskip, h⟩ := exists_of_result_bind h
      cases h
      exact skipSignature_places hinner ht hskip
    · rename_i ht
      obtain ⟨elem, places, rfl, hplaces⟩ := chanType_places hinner h
      exact ⟨places, .chan ht hplaces⟩
    · rename_i ht
      obtain ⟨us, hword, hchan⟩ := exists_of_result_bind h
      obtain ⟨word, rfl, hkind⟩ := exists_of_expectKind hword
      obtain ⟨elem, places, rfl, hplaces⟩ := chanType_places hinner hchan
      exact ⟨places, .receiving ht hkind hplaces⟩
    · rename_i ht
      obtain ⟨⟨elem, us⟩, helem, h⟩ := exists_of_result_bind h
      obtain ⟨vs, hclose, h⟩ := exists_of_result_bind h
      cases h
      obtain ⟨r, rfl, hr⟩ := exists_of_expectKind hclose
      obtain ⟨places, hplaces⟩ := hinner helem
      exact ⟨places, .paren ht hplaces hr⟩
    · cases h

end

/-- Type expressions are read with some places, at any depth. -/
theorem typeExpr_places (depth : Nat) : HasPlaces (typeExpr depth) (TypeReads depth) := by
  induction depth with
  | zero =>
    intro ts type rest h
    cases h
  | succ depth ih => exact typeForm_places ih

/-! ## Declarations -/

section

variable {ts rest : List Token}

/-- A declaration is read with some places. -/
theorem typeSpec_places {d : Option TypeDecl} (h : (typeSpec ts).result = .ok (d, rest)) :
    ∃ places, SpecReads ts d rest places := by
  unfold typeSpec at h
  obtain ⟨⟨name, us⟩, hname, h⟩ := exists_of_result_bind h
  obtain ⟨t, rfl, ht, rfl⟩ := exists_of_identifier hname
  by_cases hparams : atTypeParams us = true
  · simp only [if_pos hparams] at h
    obtain ⟨vs, hskip, h⟩ := exists_of_result_bind h
    obtain ⟨⟨type, ws⟩, htype, h⟩ := exists_of_result_bind h
    cases h
    obtain ⟨places, hplaces⟩ := typeExpr_places _ htype
    exact ⟨[], .generic ht hparams hskip hplaces⟩
  · simp only [if_neg hparams] at h
    obtain ⟨⟨type, ws⟩, htype, h⟩ := exists_of_result_bind h
    cases h
    obtain ⟨places, hplaces⟩ := typeExpr_places _ htype
    exact ⟨places, .plain ht (by simpa using hparams) hplaces⟩

/-- A group of declarations is read with some places: induction on the turns. -/
theorem typeGroup_places {turns : Nat} {ds : List TypeDecl}
    (h : (typeGroup turns ts).result = .ok (ds, rest)) :
    ∃ places, GroupReads ts ds rest places := by
  induction turns generalizing ts ds with
  | zero => cases h
  | succ turns ih =>
    rw [typeGroup] at h
    split at h
    · cases h
    · rename_i first us hts
      by_cases hclose : first.kind = .rparen
      · rw [if_pos hclose] at h
        cases h
        exact ⟨[], .close hts hclose⟩
      · rw [if_neg hclose] at h
        obtain ⟨⟨d, vs⟩, hd, h⟩ := exists_of_result_bind h
        dsimp only at h
        split at h
        · rename_i kind hnext
          by_cases hkind : kind.isSeparator = true ∨ kind = .rparen
          · rw [if_pos hkind] at h
            obtain ⟨⟨more, ws⟩, hmore, h⟩ := exists_of_result_bind h
            cases h
            obtain ⟨places, hplaces⟩ := typeSpec_places hd
            obtain ⟨placesMore, hplacesMore⟩ := ih hmore
            exact ⟨places ++ placesMore, .cons hts hclose hplaces hnext hkind hplacesMore⟩
          · rw [if_neg hkind] at h
            cases h
        · cases h

/-- What follows the word `type` is read with some places. -/
theorem typeDecls_places {ds : List TypeDecl} (h : (typeDecls ts).result = .ok (ds, rest)) :
    ∃ places, DeclsReads ts ds rest places := by
  have hsingle : ∀ {us : List Token},
      (typeSpec us >>= fun p => pure (p.1.toList, p.2)).result = .ok (ds, rest) →
      ∃ places, DeclsReads us ds rest places := by
    intro us h
    obtain ⟨⟨d, vs⟩, hd, h⟩ := exists_of_result_bind h
    cases h
    obtain ⟨places, hplaces⟩ := typeSpec_places hd
    exact ⟨places, .single hplaces⟩
  unfold typeDecls at h
  split at h
  · rename_i t us
    by_cases ht : t.kind = .lparen
    · rw [if_pos ht] at h
      obtain ⟨places, hplaces⟩ := typeGroup_places h
      exact ⟨places, .group ht hplaces⟩
    · rw [if_neg ht] at h
      exact hsingle h
  · exact hsingle h

end

end CodecGen.Package
