import CodecGen.Proofs.Package.ExactLikeness

/-!
# Comments that stand for line ends

A block comment over several lines takes part in a row of tokens as a line end does. Where line ends
become such comments, or such comments line ends, every reader does the same from every place in the
row, and so does the reading of the whole source (`ofTokens_lineBreaks`). Only the texts of array
lengths tell the two apart, which are cut from the source.
-/

namespace CodecGen

/-! ## Line ends and comments -/

/-- Two tokens are on one line and have the same class and text, or both end a line: one may be a
line end where the other is a comment. -/
def Token.SameBreak (t t' : Token) : Prop :=
  t.line = t'.line ∧
    (t.kind = t'.kind ∧ t.text = t'.text ∨ t.kind.isNewline = true ∧ t'.kind.isNewline = true)

instance : DecidableRel Token.SameBreak :=
  fun t t' => inferInstanceAs (Decidable (t.line = t'.line ∧
    (t.kind = t'.kind ∧ t.text = t'.text ∨ t.kind.isNewline = true ∧ t'.kind.isNewline = true)))

namespace Package

/-- Tokens are alike if they are the same but for what ends lines. Nothing is said about array
lengths. -/
def lineBreaks : ExactLikeness where
  token := Token.SameBreak
  length _ _ := True
  line h := h.1
  kind h := h.2.imp And.left .inl
  text := by
    rintro t t' ⟨-, ⟨-, htext⟩ | ⟨hbreak, -⟩⟩ hkept
    · exact htext
    · rcases TokenKind.isNewline_iff.mp hbreak with h | h <;> rw [h] at hkept <;>
        rcases hkept with hkept | hkept <;> cases hkept
  span _ := trivial

/-- Array lengths aside, texts are as they are. -/
theorem keepsLengths_lineBreaks (lens : List String) :
    lineBreaks.KeepsLengths (fun _ => "") lens :=
  fun _ _ _ _ => rfl

/-! ## Readers from every place -/

/-- Two readings end in the same way: with values that `view` does not tell apart and rows left that
are the same but for what ends lines, or with the same fault on the same line. -/
def SameReading {α β : Type} (view : α → β) (r r' : Reading (α × List Token)) : Prop :=
  Agree lineBreaks.toLikeness r r' fun p p' =>
    view p.1 = view p'.1 ∧ List.Forall₂ Token.SameBreak p.2 p'.2

/-- Tokens are passed over in the same way: the rows left are the same but for what ends lines, or
the fault is the same and on the same line. -/
def SameSkip (r r' : Reading (List Token)) : Prop :=
  Agree lineBreaks.toLikeness r r' (List.Forall₂ Token.SameBreak)

/-- A type expression without the texts of its array lengths. -/
def typeView : GoType → GoType :=
  GoType.mapLengths fun _ => ""

/-- Fields without the texts of their array lengths. -/
def fieldsView : List Field → List Field :=
  GoType.fieldsMapLengths fun _ => ""

/-- Declarations without the texts of their array lengths. -/
def declsView : List TypeDecl → List TypeDecl :=
  List.map (TypeDecl.mapLengths fun _ => "")

/-- Every reader does the same on two rows, in each state that it can be in: with any number of
brackets open, of nested expressions still allowed and of turns to take. -/
structure ReadTheSame (ts ts' : List Token) : Prop where
  /-- Separators are passed over. -/
  separators : List.Forall₂ Token.SameBreak (skipSeparators ts) (skipSeparators ts')
  /-- A statement is passed over, from any place inside it. -/
  statement : ∀ depth, SameSkip (skipStatement depth ts) (skipStatement depth ts')
  /-- A bracketed group is passed over, from any place inside it. -/
  group : ∀ depth, SameSkip (skipGroup depth ts) (skipGroup depth ts')
  /-- Type parameters are ahead on both sides or on none. -/
  params : atTypeParams ts = atTypeParams ts'
  /-- An embedded field is ahead on both sides or on none. -/
  embedded : atEmbedded ts = atEmbedded ts'
  /-- Further names of a field are read. -/
  names : SameReading id (namesAfter ts) (namesAfter ts')
  /-- A name is read after a comma. -/
  name : SameReading id (nameAwaited ts) (nameAwaited ts')
  /-- As many tokens belong to an array length. -/
  length : ∀ depth, SameReading List.length (lengthTokens depth ts) (lengthTokens depth ts')
  /-- A type expression is read. -/
  type : ∀ depth, SameReading typeView (typeExpr depth ts) (typeExpr depth ts')
  /-- A named type is read from the token of its name on. -/
  named : ∀ name name', name.SameBreak name' → name.kind = .ident →
    SameReading typeView (namedType name ts) (namedType name' ts')
  /-- A slice or array type is read after its opening bracket. -/
  array : ∀ depth, SameReading typeView (arrayType (typeExpr depth) ts)
    (arrayType (typeExpr depth) ts')
  /-- A map type is read after its keyword. -/
  map : ∀ depth, SameReading typeView (mapType (typeExpr depth) ts) (mapType (typeExpr depth) ts')
  /-- A struct type is read after its keyword. -/
  struct : ∀ depth, SameReading typeView (structType (typeExpr depth) ts)
    (structType (typeExpr depth) ts')
  /-- A channel type is read from its element type on. -/
  chan : ∀ depth, SameReading typeView (chanType (typeExpr depth) ts)
    (chanType (typeExpr depth) ts')
  /-- The parameters and results of a function are passed over. -/
  signature : ∀ depth,
    SameSkip (skipSignature (typeExpr depth) ts) (skipSignature (typeExpr depth) ts')
  /-- One line of a struct body is read. -/
  field : ∀ depth, SameReading (fun f => fieldsView [f]) (fieldLine (typeExpr depth) ts)
    (fieldLine (typeExpr depth) ts')
  /-- The tag that may follow a field is read. -/
  tag : ∀ names type, SameReading id (fieldTag names type ts) (fieldTag names type ts')
  /-- What ends a field is passed over. -/
  afterField : SameSkip (fieldEnd ts) (fieldEnd ts')
  /-- The fields of a struct are read, from any of them on. -/
  fields : ∀ depth turns, SameReading fieldsView (structFields (typeExpr depth) turns ts)
    (structFields (typeExpr depth) turns ts')
  /-- One declaration is read. -/
  spec : SameReading (fun d => declsView d.toList) (typeSpec ts) (typeSpec ts')
  /-- The declarations of a group are read, from any of them on. -/
  specs : ∀ turns, SameReading declsView (typeGroup turns ts) (typeGroup turns ts')
  /-- The declarations after their keyword are read. -/
  decls : SameReading declsView (typeDecls ts) (typeDecls ts')
  /-- The statements are read, from any of them to the end of the file. -/
  statements : ∀ turns, Agree lineBreaks.toLikeness (statements turns ts) (statements turns ts')
    fun ds ds' => declsView ds = declsView ds'

section

variable {ts ts' : List Token} {n : Nat}

/-- Rows left are the same but for what ends lines. -/
theorem sameBreak_of_left (h : Left lineBreaks.toLikeness n ts ts') :
    List.Forall₂ Token.SameBreak ts ts' := by
  obtain ⟨m, -, hrows⟩ := h
  exact lineBreaks.forall₂_of_rows hrows

/-- Readers that only pass over tokens do so in the same way if they agree. -/
theorem sameSkip_of_agree {r r' : Reading (List Token)}
    (h : Agree lineBreaks.toLikeness r r' (Left lineBreaks.toLikeness n)) : SameSkip r r' :=
  h.mono fun _ _ hleft => sameBreak_of_left hleft

/-- Readers with values read in the same way if they agree, and the view does not tell alike values
apart. -/
theorem sameReading_of_agree {α β : Type} {value : Nat → α → α → Prop} {view : α → β}
    {r r' : Reading (α × List Token)}
    (h : Agree lineBreaks.toLikeness r r' (Took lineBreaks.toLikeness value n))
    (hview : ∀ m a a', value m a a' → view a = view a') : SameReading view r r' :=
  h.mono fun _ _ ⟨_, _, _, hvalue, hrows⟩ =>
    ⟨hview _ _ _ hvalue, lineBreaks.forall₂_of_rows hrows⟩

/-- Type expressions that are alike have the same view. -/
theorem typeView_eq {t t' : GoType} (h : t.Like lineBreaks.toLikeness n t') :
    typeView t = typeView t' :=
  ExactLikeness.typeMapLengths_eq h (keepsLengths_lineBreaks _)

/-- Readers of type expressions read in the same way if they agree. -/
theorem sameReading_type {r r' : Reading (GoType × List Token)}
    (h : Agree lineBreaks.toLikeness r r'
      (Took lineBreaks.toLikeness (GoType.Like lineBreaks.toLikeness) n)) :
    SameReading typeView r r' :=
  sameReading_of_agree h fun _ _ _ ht => typeView_eq ht

/-- Fields that are alike have the same view. -/
theorem fieldsView_eq {fields fields' : List Field}
    (h : GoType.FieldsLike lineBreaks.toLikeness n fields fields') :
    fieldsView fields = fieldsView fields' :=
  ExactLikeness.fieldsMapLengths_eq h (keepsLengths_lineBreaks _)

/-- Declarations that are alike have the same view. -/
theorem declsView_eq {ds ds' : List TypeDecl}
    (h : TypeDecl.AllLike lineBreaks.toLikeness n ds ds') : declsView ds = declsView ds' :=
  ExactLikeness.declsMapLengths_eq h (keepsLengths_lineBreaks _)

/-- One field and another that are alike have the same view. -/
theorem fieldsView_singleton_eq {f f' : Field} (h : FieldLike lineBreaks.toLikeness n f f') :
    fieldsView [f] = fieldsView [f'] := by
  obtain ⟨names, type, tag⟩ := f
  obtain ⟨names', type', tag'⟩ := f'
  obtain ⟨hnames, hall, m, k, -, htype, htag⟩ := h
  obtain rfl : names = names' := hnames
  exact fieldsView_eq (.cons hall htype htag .nil)

/-- Tags are read in the same way. -/
theorem fieldTag_sameReading (names : List String) (type : GoType)
    (h : List.Forall₂ Token.SameBreak ts ts') :
    SameReading id (fieldTag names type ts) (fieldTag names type ts') := by
  cases h with
  | nil => exact agree_pure ⟨rfl, .nil⟩
  | @cons t t' us us' ht hus =>
    rw [fieldTag, fieldTag, ← (lineBreaks.kind ht).isStringLiteral]
    by_cases hliteral : t.kind.isStringLiteral = true
    · have hlexeme : t.lexeme = t'.lexeme :=
        congrArg String.ofList (lineBreaks.text ht (.inr hliteral))
      rw [if_pos hliteral, if_pos hliteral, hlexeme]
      exact agree_pure ⟨rfl, hus⟩
    · rw [if_neg hliteral, if_neg hliteral]
      exact agree_pure ⟨rfl, .cons ht hus⟩

/-- On rows that are the same but for what ends lines, every reader does the same. -/
theorem readTheSame (h : List.Forall₂ Token.SameBreak ts ts') : ReadTheSame ts ts' := by
  have hrows := ExactLikeness.rows_of_forall₂ (E := lineBreaks) h
  constructor
  case separators => exact sameBreak_of_left (skipSeparators_left hrows)
  case statement => exact fun depth => sameSkip_of_agree (skipStatement_agree depth hrows)
  case group => exact fun depth => sameSkip_of_agree (skipGroup_agree depth hrows)
  case params => exact atTypeParams_eq hrows
  case embedded => exact atEmbedded_eq hrows
  case names => exact sameReading_of_agree (names_agree hrows).1 fun _ _ _ hsame => hsame.1
  case name => exact sameReading_of_agree (names_agree hrows).2 fun _ _ _ hsame => hsame.1
  case length =>
    exact fun depth => sameReading_of_agree (lengthTokens_agree depth hrows) fun _ _ _ hlen =>
      length_eq_of_rows hlen
  case type => exact fun depth => sameReading_type (typeExpr_agree depth _ _ _ hrows)
  case named =>
    intro name name' hname hkind
    have hnames : lineBreaks.toLikeness.token 0 name name' := ⟨rfl, hname⟩
    exact sameReading_type (namedType_agree hnames hkind hrows)
  case array => exact fun depth => sameReading_type (arrayType_agree (typeExpr_agree depth) hrows)
  case map => exact fun depth => sameReading_type (mapType_agree (typeExpr_agree depth) hrows)
  case struct => exact fun depth => sameReading_type (structType_agree (typeExpr_agree depth) hrows)
  case chan => exact fun depth => sameReading_type (chanType_agree (typeExpr_agree depth) hrows)
  case tag => exact fun names type => fieldTag_sameReading names type h
  case signature =>
    exact fun depth => sameSkip_of_agree (skipSignature_agree (typeExpr_agree depth) hrows)
  case field =>
    exact fun depth => sameReading_of_agree (fieldLine_agree (typeExpr_agree depth) hrows)
      fun _ _ _ hfield => fieldsView_singleton_eq hfield
  case afterField => exact sameSkip_of_agree (fieldEnd_agree hrows)
  case fields =>
    exact fun depth turns => sameReading_of_agree
      (structFields_agree (typeExpr_agree depth) turns hrows) fun _ _ _ hfields =>
        fieldsView_eq hfields
  case spec => exact sameReading_of_agree (typeSpec_agree hrows) fun _ _ _ hd => declsView_eq hd
  case specs =>
    exact fun turns => sameReading_of_agree (typeGroup_agree turns hrows) fun _ _ _ hds =>
      declsView_eq hds
  case decls => exact sameReading_of_agree (typeDecls_agree hrows) fun _ _ _ hds => declsView_eq hds
  case statements =>
    exact fun turns => (statements_agree turns hrows).mono fun _ _ ⟨_, _, hds⟩ => declsView_eq hds

/-- A row of tokens, some of whose line ends are comments or the other way round, is read as the
same package, array lengths aside, or is refused with the same message for the same line. So it goes
from every place: the row from there on is read, or passed over, in the same way. -/
theorem ofTokens_lineBreaks (h : List.Forall₂ Token.SameBreak ts ts') :
    (((ofTokens ts).mapError (locate ts)).result.map (mapLengths fun _ => "") =
      ((ofTokens ts').mapError (locate ts')).result.map (mapLengths fun _ => "")) ∧
    locate ts = locate ts' ∧ ∀ n, ReadTheSame (ts.drop n) (ts'.drop n) :=
  ⟨ExactLikeness.outcome_eq (E := lineBreaks) h fun _ _ => keepsLengths_lineBreaks _,
    ExactLikeness.locate_eq (E := lineBreaks) h, fun n => readTheSame (List.forall₂_drop n h)⟩

end

/-- The tokens of a source that declares a struct with two names on two lines, where tokens of the
given class and text end the lines. -/
def breakSample (kind : TokenKind) (text : List Char) : List Token :=
  [⟨.keyword .package, [], "package".toList, 1⟩, ⟨.ident, [' '], ['p'], 1⟩, ⟨kind, [], text, 1⟩,
    ⟨.keyword .typeDecl, [], "type".toList, 2⟩, ⟨.ident, [' '], ['T'], 2⟩,
    ⟨.keyword .struct, [' '], "struct".toList, 2⟩, ⟨.lbrace, [' '], ['\x7b'], 2⟩,
    ⟨kind, [], text, 2⟩, ⟨.ident, [], ['A'], 3⟩, ⟨.comma, [], [','], 3⟩, ⟨kind, [], text, 3⟩,
    ⟨.ident, [], ['B'], 4⟩, ⟨.ident, [' '], "int".toList, 4⟩, ⟨kind, [], text, 4⟩,
    ⟨.rbrace, [], ['\x7d'], 5⟩, ⟨kind, [], text, 5⟩]

/-- Line ends and block comments end the same lines: a case of the general theorem. -/
theorem ofTokens_lineBreaks_sample :
    List.Forall₂ Token.SameBreak (breakSample .newline ['\n'])
        (breakSample .comment "/*\n*/".toList) ∧
      (((ofTokens (breakSample .comment "/*\n*/".toList)).mapError
          (locate (breakSample .comment "/*\n*/".toList))).result.map (mapLengths fun _ => "")) =
        .ok ⟨"p", [⟨"T", .struct [⟨["A", "B"], .ident "int", none⟩]⟩]⟩ ∧
      ReadTheSame ((breakSample .newline ['\n']).drop 10)
        ((breakSample .comment "/*\n*/".toList).drop 10) := by
  have hbreaks : List.Forall₂ Token.SameBreak (breakSample .newline ['\n'])
      (breakSample .comment "/*\n*/".toList) := by
    decide
  obtain ⟨houtcome, -, hplaces⟩ := ofTokens_lineBreaks hbreaks
  exact ⟨hbreaks, houtcome.symm.trans rfl, hplaces 10⟩

end Package

end CodecGen
