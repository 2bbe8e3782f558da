import CodecGen.Proofs.Package.LikeReaders
import Mathlib.Data.List.Forall2

/-!
# Likeness but for array lengths

An `ExactLikeness` relates tokens that stand on the same lines and are the same wherever a reader
keeps their text, but for the texts of array lengths, which are cut from the source. Rows of tokens
that it relates are read as the same package, lengths aside, or are refused with the same message
for the same line (`ExactLikeness.outcome_eq`).
-/

namespace CodecGen

/-! ## Array lengths of a package -/

mutual

/-- The array lengths in a type expression, from left to right. -/
def GoType.lengths : GoType → List String
  | .ident _ => []
  | .selector qualifier _ => qualifier.lengths
  | .pointer elem => elem.lengths
  | .array len elem => len.toList ++ elem.lengths
  | .map key value => key.lengths ++ value.lengths
  | .struct fields => GoType.fieldsLengths fields
  | .interface => []
  | .func => []
  | .chan elem => elem.lengths

/-- The array lengths in the types of some fields. -/
def GoType.fieldsLengths : List (FieldOf GoType) → List String
  | [] => []
  | ⟨_, type, _⟩ :: fields => type.lengths ++ GoType.fieldsLengths fields

end

mutual

/-- A type expression with other array lengths. -/
def GoType.mapLengths (f : String → String) : GoType → GoType
  | .ident name => .ident name
  | .selector qualifier name => .selector (qualifier.mapLengths f) name
  | .pointer elem => .pointer (elem.mapLengths f)
  | .array len elem => .array (len.map f) (elem.mapLengths f)
  | .map key value => .map (key.mapLengths f) (value.mapLengths f)
  | .struct fields => .struct (GoType.fieldsMapLengths f fields)
  | .interface => .interface
  | .func => .func
  | .chan elem => .chan (elem.mapLengths f)

/-- Fields with other array lengths. -/
def GoType.fieldsMapLengths (f : String → String) : List (FieldOf GoType) → List (FieldOf GoType)
  | [] => []
  | ⟨names, type, tag⟩ :: fields =>
    ⟨names, type.mapLengths f, tag⟩ :: GoType.fieldsMapLengths f fields

end

/-- A declaration with other array lengths. -/
def TypeDecl.mapLengths (f : String → String) (d : TypeDecl) : TypeDecl :=
  { d with type := d.type.mapLengths f }

namespace Package

/-- The array lengths in the declarations of a package. -/
def lengths (p : Package) : List String :=
  p.decls.flatMap fun d => d.type.lengths

/-- A package with other array lengths. -/
def mapLengths (f : String → String) (p : Package) : Package :=
  { p with decls := p.decls.map (TypeDecl.mapLengths f) }

end Package

mutual

/-- Lengths that stay what they are leave a type expression what it is. -/
theorem GoType.mapLengths_id (t : GoType) : t.mapLengths id = t := by
  cases t with
  | ident | interface | func => rfl
  | selector qualifier name =>
    exact congrArg (GoType.selector · name) qualifier.mapLengths_id
  | pointer elem => exact congrArg GoType.pointer elem.mapLengths_id
  | array len elem => exact congrArg₂ GoType.array (Option.map_id_apply) elem.mapLengths_id
  | map key value => exact congrArg₂ GoType.map key.mapLengths_id value.mapLengths_id
  | struct fields => exact congrArg GoType.struct (GoType.fieldsMapLengths_id fields)
  | chan elem => exact congrArg GoType.chan elem.mapLengths_id

/-- Lengths that stay what they are leave fields what they are. -/
theorem GoType.fieldsMapLengths_id (fields : List Field) :
    GoType.fieldsMapLengths id fields = fields := by
  match fields with
  | [] => rfl
  | ⟨names, type, tag⟩ :: fields =>
    rw [GoType.fieldsMapLengths, type.mapLengths_id, GoType.fieldsMapLengths_id fields]

end

/-- Lengths that stay what they are leave a package what it is. -/
theorem Package.mapLengths_id (p : Package) : p.mapLengths id = p := by
  have hdecl : TypeDecl.mapLengths id = id := by
    funext d
    exact congrArg (TypeDecl.mk d.name) d.type.mapLengths_id
  rw [mapLengths, hdecl, List.map_id]

/-! ## The likeness -/

/-- What it means for tokens to be the same but for the texts of array lengths. -/
structure ExactLikeness where
  /-- Tokens are alike. -/
  token : Token → Token → Prop
  /-- Texts of array lengths are alike. -/
  length : String → String → Prop
  /-- Alike tokens are on the same line. -/
  line {t t' : Token} : token t t' → t.line = t'.line
  /-- Alike tokens have classes that are not told apart. -/
  kind {t t' : Token} : token t t' → t.kind.Alike t'.kind
  /-- Alike tokens are the same names and the same tags. -/
  text {t t' : Token} : token t t' → t.kind = .ident ∨ t.kind.isStringLiteral = true →
    t.text = t'.text
  /-- Rows of alike tokens are alike as array lengths. -/
  span {ts ts' : List Token} : List.Forall₂ token ts ts' →
    length (String.ofList (Text.trim (Token.spanText ts)))
      (String.ofList (Text.trim (Token.spanText ts')))

namespace ExactLikeness

variable (E : ExactLikeness)

/-- Rows in which no difference is counted are alike token by token. -/
theorem forall₂_of_rows {n : Nat} {ts ts' : List Token}
    (h : Rows (fun n t t' => n = 0 ∧ E.token t t') n ts ts') : List.Forall₂ E.token ts ts' := by
  induction h with
  | nil => exact .nil
  | cons ht _ ih => exact .cons ht.2 ih

/-- No difference is counted, any name may occur, and tags and faults are alike if they are the
same. -/
def toLikeness : Likeness where
  token n t t' := n = 0 ∧ E.token t t'
  name _ := True
  tag _ s s' := s = s'
  length _ := E.length
  error e e' := e = e'
  kind h := E.kind h.2
  lexeme h hident := ⟨congrArg String.ofList (E.text h.2 (.inl hident)), trivial⟩
  literal h hliteral := congrArg String.ofList (E.text h.2 (.inr hliteral))
  span h := E.span (E.forall₂_of_rows h)
  error_at h fault := congrArg (fun line => ReadFault.mk (some line) fault) (E.line h.2)
  error_end _ := rfl

/-- A function takes some texts to the same as those that they are alike to as array lengths. -/
def KeepsLengths (f : String → String) (lens : List String) : Prop :=
  ∀ s ∈ lens, ∀ s', E.length s s' → f s = f s'

section

variable {E} {f : String → String}

/-- Rows that are alike token by token are rows with no difference counted. -/
theorem rows_of_forall₂ {ts ts' : List Token} (h : List.Forall₂ E.token ts ts') :
    Rows E.toLikeness.token 0 ts ts' := by
  induction h with
  | nil => exact .nil
  | cons ht _ ih => exact .cons ⟨rfl, ht⟩ ih

/-- Lengths are kept in two lists together if they are kept in each. -/
theorem keepsLengths_append {lens lens' : List String} :
    E.KeepsLengths f (lens ++ lens') ↔ E.KeepsLengths f lens ∧ E.KeepsLengths f lens' :=
  List.forall_mem_append

/-- Lengths that are alike become the same under a function that keeps them. -/
theorem map_eq_of_optionLike {n : Nat} {len len' : Option String}
    (h : OptionLike E.toLikeness.length n len len') (hf : E.KeepsLengths f len.toList) :
    len.map f = len'.map f := by
  cases h with
  | none => rfl
  | some h => exact congrArg Option.some (hf _ (List.mem_singleton.mpr rfl) _ h)

/-- Tags that are alike are the same. -/
theorem eq_of_optionLike {n : Nat} {tag tag' : Option String}
    (h : OptionLike E.toLikeness.tag n tag tag') : tag = tag' := by
  cases h with
  | none => rfl
  | some h => exact congrArg Option.some h

mutual

/-- Alike type expressions become the same under a function that keeps their lengths. -/
theorem typeMapLengths_eq {n : Nat} {t t' : GoType} (h : t.Like E.toLikeness n t')
    (hf : E.KeepsLengths f t.lengths) : t.mapLengths f = t'.mapLengths f := by
  cases h with
  | ident => rfl
  | qualified => rfl
  | pointer ht => exact congrArg GoType.pointer (typeMapLengths_eq ht hf)
  | array hlen ht =>
    obtain ⟨hlens, helem⟩ := keepsLengths_append.mp hf
    exact congrArg₂ GoType.array (map_eq_of_optionLike hlen hlens) (typeMapLengths_eq ht helem)
  | map hkey hvalue =>
    obtain ⟨hkeys, hvalues⟩ := keepsLengths_append.mp hf
    exact congrArg₂ GoType.map (typeMapLengths_eq hkey hkeys) (typeMapLengths_eq hvalue hvalues)
  | struct hfields => exact congrArg GoType.struct (fieldsMapLengths_eq hfields hf)
  | interface => rfl
  | func => rfl
  | chan ht => exact congrArg GoType.chan (typeMapLengths_eq ht hf)

/-- Alike fields become the same under a function that keeps their lengths. -/
theorem fieldsMapLengths_eq {n : Nat} {fields fields' : List Field}
    (h : GoType.FieldsLike E.toLikeness n fields fields')
    (hf : E.KeepsLengths f (GoType.fieldsLengths fields)) :
    GoType.fieldsMapLengths f fields = GoType.fieldsMapLengths f fields' := by
  cases h with
  | nil => rfl
  | cons _ ht htag hfields =>
    obtain ⟨htype, hrest⟩ := keepsLengths_append.mp hf
    rw [GoType.fieldsMapLengths, GoType.fieldsMapLengths, typeMapLengths_eq ht htype,
      eq_of_optionLike htag, fieldsMapLengths_eq hfields hrest]

end

/-- Alike declarations become the same under a function that keeps their lengths. -/
theorem declsMapLengths_eq {n : Nat} {ds ds' : List TypeDecl}
    (h : TypeDecl.AllLike E.toLikeness n ds ds')
    (hf : E.KeepsLengths f (ds.flatMap fun d => d.type.lengths)) :
    ds.map (TypeDecl.mapLengths f) = ds'.map (TypeDecl.mapLengths f) := by
  induction h with
  | nil => rfl
  | @cons _ _ name _ _ _ _ _ ht _ ih =>
    rw [List.flatMap_cons] at hf
    obtain ⟨htype, hrest⟩ := keepsLengths_append.mp hf
    exact congrArg₂ List.cons (congrArg (TypeDecl.mk name) (typeMapLengths_eq ht htype)) (ih hrest)

/-! ## What is read -/

/-- Faults are reported on the same lines. -/
theorem locate_eq {ts ts' : List Token} (h : List.Forall₂ E.token ts ts') :
    Package.locate ts = Package.locate ts' := by
  have hlines : ts.map Token.line = ts'.map Token.line := by
    induction h with
    | nil => rfl
    | cons ht _ ih => exact congrArg₂ List.cons (E.line ht) ih
  funext e
  rw [Package.locate, Package.locate, ← List.getLast?_map, ← List.getLast?_map, hlines]

/-- Rows of alike tokens are read as the same package, but for the texts of array lengths that a
function tells apart, or are refused for the same reason on the same line. -/
theorem outcome_eq {ts ts' : List Token} (h : List.Forall₂ E.token ts ts')
    (hf : ∀ p, (Package.ofTokens ts).result = .ok p → E.KeepsLengths f p.lengths) :
    ((Package.ofTokens ts).result.mapError (Package.locate ts)).map (Package.mapLengths f) =
      ((Package.ofTokens ts').result.mapError (Package.locate ts')).map (Package.mapLengths f) := by
  rw [locate_eq h]
  obtain ⟨p, p', hp, hp', m, -, hlike⟩ | ⟨e, e', he, he', herror⟩ :=
    Package.ofTokens_agree (rows_of_forall₂ h)
  · have hdecls := declsMapLengths_eq hlike.decls (hf p hp)
    rw [hp, hp']
    exact congrArg Except.ok (congrArg₂ Package.mk hlike.same hdecls)
  · obtain rfl : e = e' := herror
    rw [he, he']

end

end ExactLikeness

end CodecGen
