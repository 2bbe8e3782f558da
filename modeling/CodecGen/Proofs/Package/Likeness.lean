import CodecGen.Package.Parser

/-!
# Rows of tokens that are read alike

A `Likeness` relates tokens that readers of declarations do not tell apart, texts of tags and array
lengths aside, and counts the tokens that differ. Type expressions, declarations and packages are
alike where they differ in such texts only, each counted as often as it is read. Two readings
`Agree` where both give alike values or both fail. The readers themselves are looked at in
`LikeReaders`.
-/

namespace CodecGen

/-! ## Classes of tokens -/

namespace TokenKind

/-- No reader of declarations tells the classes apart: a line end is like a comment that stands for
one, and a raw string literal like an interpreted one. -/
def Alike (kind kind' : TokenKind) : Prop :=
  kind = kind' ∨ (kind.isNewline = true ∧ kind'.isNewline = true) ∨
    (kind.isStringLiteral = true ∧ kind'.isStringLiteral = true)

/-- The classes that end lines. -/
theorem isNewline_iff {kind : TokenKind} :
    kind.isNewline = true ↔ kind = .newline ∨ kind = .comment := by
  cases kind <;> simp [isNewline]

/-- The classes of string literals. -/
theorem isStringLiteral_iff {kind : TokenKind} :
    kind.isStringLiteral = true ↔ kind = .rawString ∨ kind = .string := by
  cases kind <;> simp [isStringLiteral]

variable {kind kind' : TokenKind}

/-- What is the same for a class and the one it is like is the same for alike classes. -/
theorem Alike.congr {α : Type} (f : TokenKind → α) (hline : f .newline = f .comment)
    (hliteral : f .rawString = f .string) (h : kind.Alike kind') : f kind = f kind' := by
  rcases h with rfl | ⟨h, h'⟩ | ⟨h, h'⟩
  · rfl
  · rcases isNewline_iff.mp h with rfl | rfl <;> rcases isNewline_iff.mp h' with rfl | rfl <;>
      simp [hline]
  · rcases isStringLiteral_iff.mp h with rfl | rfl <;>
      rcases isStringLiteral_iff.mp h' with rfl | rfl <;> simp [hliteral]

theorem Alike.opens (h : kind.Alike kind') : kind.opens = kind'.opens :=
  h.congr TokenKind.opens rfl rfl

theorem Alike.closes (h : kind.Alike kind') : kind.closes = kind'.closes :=
  h.congr TokenKind.closes rfl rfl

theorem Alike.isSeparator (h : kind.Alike kind') : kind.isSeparator = kind'.isSeparator :=
  h.congr TokenKind.isSeparator rfl rfl

theorem Alike.isNewline (h : kind.Alike kind') : kind.isNewline = kind'.isNewline :=
  h.congr TokenKind.isNewline rfl rfl

theorem Alike.isStringLiteral (h : kind.Alike kind') :
    kind.isStringLiteral = kind'.isStringLiteral :=
  h.congr TokenKind.isStringLiteral rfl rfl

theorem Alike.label (h : kind.Alike kind') : kind.label = kind'.label :=
  h.congr TokenKind.label rfl rfl

/-- A class that is like no other. -/
def isAlone (kind : TokenKind) : Bool :=
  !kind.isNewline && !kind.isStringLiteral

/-- A class that is like no other is told apart from all by alike classes alike. -/
theorem Alike.eq_iff (h : kind.Alike kind') {other : TokenKind} (halone : other.isAlone = true) :
    kind = other ↔ kind' = other := by
  rw [← decide_eq_decide]
  refine h.congr (fun k => decide (k = other)) ?_ ?_
  · cases other <;> simp [isAlone, TokenKind.isNewline] at halone ⊢
  · cases other <;> simp [isAlone, TokenKind.isStringLiteral] at halone ⊢

/-- The same as an equation of propositions, for rewriting conditions. -/
theorem Alike.eq_eq (h : kind.Alike kind') (other : TokenKind) (halone : other.isAlone = true) :
    (kind = other) = (kind' = other) :=
  propext (h.eq_iff halone)

end TokenKind

/-! ## Tokens and values -/

/-- The tokens of two rows are related one by one, and the counts of all pairs add up. -/
inductive Rows (token : Nat → Token → Token → Prop) : Nat → List Token → List Token → Prop
  | nil : Rows token 0 [] []
  | cons {n m : Nat} {t t' : Token} {ts ts' : List Token} (ht : token n t t')
      (hts : Rows token m ts ts') : Rows token (n + m) (t :: ts) (t' :: ts')

/-- What it means for tokens, texts and faults to be alike. The number counts differences. -/
structure Likeness where
  /-- Tokens are alike. -/
  token : Nat → Token → Token → Prop
  /-- A name that may occur. -/
  name : String → Prop
  /-- Texts of tag literals are alike. -/
  tag : Nat → String → String → Prop
  /-- Texts of array lengths are alike. -/
  length : Nat → String → String → Prop
  /-- Faults are alike. -/
  error : ReadFault → ReadFault → Prop
  /-- Alike tokens have classes that are not told apart. -/
  kind {n : Nat} {t t' : Token} : token n t t' → t.kind.Alike t'.kind
  /-- Alike tokens are the same names. -/
  lexeme {n : Nat} {t t' : Token} : token n t t' → t.kind = .ident →
    t.lexeme = t'.lexeme ∧ name t.lexeme
  /-- Alike tokens are alike as tags. -/
  literal {n : Nat} {t t' : Token} : token n t t' → t.kind.isStringLiteral = true →
    tag n t.lexeme t'.lexeme
  /-- Alike rows are alike as array lengths. -/
  span {n : Nat} {ts ts' : List Token} : Rows token n ts ts' →
    length n (String.ofList (Text.trim (Token.spanText ts)))
      (String.ofList (Text.trim (Token.spanText ts')))
  /-- The same fault at alike tokens is alike. -/
  error_at {n : Nat} {t t' : Token} : token n t t' → ∀ fault : SourceFault,
    error ⟨some t.line, fault⟩ ⟨some t'.line, fault⟩
  /-- The same fault at the end of the file is alike. -/
  error_end : ∀ fault : SourceFault, error ⟨none, fault⟩ ⟨none, fault⟩

/-- Texts are alike, or there is none on either side. -/
inductive OptionLike (text : Nat → String → String → Prop) :
    Nat → Option String → Option String → Prop
  | none : OptionLike text 0 none none
  | some {n : Nat} {s s' : String} (h : text n s s') : OptionLike text n (some s) (some s')

variable (L : Likeness)

mutual

/-- Type expressions are alike: they have the same shape and names. -/
inductive GoType.Like : Nat → GoType → GoType → Prop
  | ident {name : String} (hname : L.name name) : GoType.Like 0 (.ident name) (.ident name)
  | qualified {qualifier name : String} (hqualifier : L.name qualifier) (hname : L.name name) :
      GoType.Like 0 (.qualified qualifier name) (.qualified qualifier name)
  | pointer {n : Nat} {t t' : GoType} (ht : GoType.Like n t t') :
      GoType.Like n (.pointer t) (.pointer t')
  | array {n m : Nat} {len len' : Option String} {t t' : GoType}
      (hlen : OptionLike L.length n len len') (ht : GoType.Like m t t') :
      GoType.Like (n + m) (.array len t) (.array len' t')
  | map {n m : Nat} {key key' value value' : GoType} (hkey : GoType.Like n key key')
      (hvalue : GoType.Like m value value') :
      GoType.Like (n + m) (.map key value) (.map key' value')
  | struct {n : Nat} {fields fields' : List (FieldOf GoType)}
      (hfields : GoType.FieldsLike n fields fields') :
      GoType.Like n (.struct fields) (.struct fields')
  | interface : GoType.Like 0 .interface .interface
  | func : GoType.Like 0 .func .func
  | chan {n : Nat} {t t' : GoType} (ht : GoType.Like n t t') : GoType.Like n (.chan t) (.chan t')

/-- Field lines are alike one by one. -/
inductive GoType.FieldsLike : Nat → List (FieldOf GoType) → List (FieldOf GoType) → Prop
  | nil : GoType.FieldsLike 0 [] []
  | cons {n k m : Nat} {names : List String} {t t' : GoType} {tag tag' : Option String}
      {fields fields' : List (FieldOf GoType)} (hnames : ∀ name ∈ names, L.name name)
      (ht : GoType.Like n t t') (htag : OptionLike L.tag k tag tag')
      (hfields : GoType.FieldsLike m fields fields') :
      GoType.FieldsLike (n + k + m) (⟨names, t, tag⟩ :: fields) (⟨names, t', tag'⟩ :: fields')

end

/-- Declarations are alike one by one. -/
inductive TypeDecl.AllLike : Nat → List TypeDecl → List TypeDecl → Prop
  | nil : TypeDecl.AllLike 0 [] []
  | cons {n m : Nat} {name : String} {t t' : GoType} {decls decls' : List TypeDecl}
      (hname : L.name name) (ht : t.Like L n t') (hdecls : TypeDecl.AllLike m decls decls') :
      TypeDecl.AllLike (n + m) (⟨name, t⟩ :: decls) (⟨name, t'⟩ :: decls')

/-- Packages are alike: they have the same name and alike declarations. -/
structure Package.Like (n : Nat) (p p' : Package) : Prop where
  /-- The name may occur. -/
  name : L.name p.name
  /-- The names are the same. -/
  same : p.name = p'.name
  /-- The declarations are alike. -/
  decls : TypeDecl.AllLike L n p.decls p'.decls

end CodecGen
