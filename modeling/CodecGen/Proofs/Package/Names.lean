import CodecGen.Proofs.Package.LikeReaders
import CodecGen.Proofs.Token.Layout

/-!
# Names read from a source

Every name in a package that is read from a source is the text of an identifier: that of the
package, of its declarations, and of the fields of its structs (`parse_names`). So are the names
that types are written with, and those that qualify them (`parse_idents`).
-/

namespace CodecGen

mutual

/-- The names that a type expression is written with, those of fields and those before a dot among
them, from left to right. -/
def GoType.idents : GoType → List String
  | .ident name => [name]
  | .selector qualifier name => qualifier.idents ++ [name]
  | .pointer elem => elem.idents
  | .array _ elem => elem.idents
  | .map key value => key.idents ++ value.idents
  | .struct fields => GoType.fieldsIdents fields
  | .interface => []
  | .func => []
  | .chan elem => elem.idents

/-- The names of some fields and in their types. -/
def GoType.fieldsIdents : List (FieldOf GoType) → List String
  | [] => []
  | ⟨names, type, _⟩ :: fields => names ++ type.idents ++ GoType.fieldsIdents fields

end

mutual

/-- Names that may occur are all that alike types are written with. -/
theorem GoType.Like.idents {L : Likeness} {n : Nat} {t t' : GoType} (h : t.Like L n t') :
    ∀ name ∈ t.idents, L.name name := by
  cases h with
  | ident hname => exact List.forall_mem_singleton.mpr hname
  | qualified hqualifier hname =>
    exact List.forall_mem_cons.mpr ⟨hqualifier, List.forall_mem_singleton.mpr hname⟩
  | pointer ht => exact ht.idents
  | array _ ht => exact ht.idents
  | map hkey hvalue =>
    intro name hmem
    exact (List.mem_append.mp hmem).elim (hkey.idents name) (hvalue.idents name)
  | struct hfields => exact hfields.idents
  | interface => exact fun _ hmem => absurd hmem List.not_mem_nil
  | func => exact fun _ hmem => absurd hmem List.not_mem_nil
  | chan ht => exact ht.idents

/-- The names in the fields of alike structs are names of the likeness. -/
theorem GoType.FieldsLike.idents {L : Likeness} {n : Nat} {fields fields' : List Field}
    (h : GoType.FieldsLike L n fields fields') :
    ∀ name ∈ GoType.fieldsIdents fields, L.name name := by
  cases h with
  | nil => exact fun _ hmem => absurd hmem List.not_mem_nil
  | cons hnames ht _ hfields =>
    intro name hmem
    rcases List.mem_append.mp hmem with hmem | hmem
    · exact (List.mem_append.mp hmem).elim (hnames name) (ht.idents name)
    · exact hfields.idents name hmem

end

end CodecGen

namespace CodecGen.Package

/-! ## Names -/

/-- Tokens are alike if they are the same and names are identifiers. -/
def sameNames : Likeness where
  token n t t' := n = 0 ∧ t = t' ∧ (t.kind = .ident → Token.Lexes .ident t.text)
  name s := Token.Lexes .ident s.toList
  tag _ _ _ := True
  length _ _ _ := True
  error _ _ := True
  kind h := .inl (congrArg Token.kind h.2.1)
  lexeme h hkind := ⟨congrArg Token.lexeme h.2.1, by
    unfold Token.lexeme
    rw [String.toList_ofList]
    exact h.2.2 hkind⟩
  literal _ _ := trivial
  span _ := trivial
  error_at _ _ := trivial
  error_end _ := trivial

/-- A row whose names are identifiers is alike to itself. -/
theorem rows_sameNames {ts : List Token}
    (h : ∀ t ∈ ts, t.kind = .ident → Token.Lexes .ident t.text) :
    Rows sameNames.token 0 ts ts := by
  induction ts with
  | nil => exact .nil
  | cons t ts ih =>
    exact .cons ⟨rfl, rfl, h t List.mem_cons_self⟩
      (ih fun u hu => h u (List.mem_cons_of_mem _ hu))

/-- The names of a package are identifiers: its own, those of its declarations, and those of the
fields of declared structs. -/
structure HasNames (p : Package) : Prop where
  /-- The package. -/
  package : Token.Lexes .ident p.name.toList
  /-- The declarations. -/
  decls : ∀ d ∈ p.decls, Token.Lexes .ident d.name.toList
  /-- The fields. -/
  fields : ∀ d ∈ p.decls, ∀ fields, d.type = .struct fields → ∀ f ∈ fields, ∀ name ∈ f.names,
    Token.Lexes .ident name.toList

/-- The names of fields in a struct that is alike to another are identifiers. -/
theorem names_of_fieldsLike {n : Nat} {fields fields' : List Field}
    (h : GoType.FieldsLike sameNames n fields fields') :
    ∀ f ∈ fields, ∀ name ∈ f.names, Token.Lexes .ident name.toList := by
  induction fields generalizing n fields' with
  | nil =>
    intro f hf
    cases hf
  | cons f fields ih =>
    cases h with
    | cons hnames _ _ hfields =>
      intro g hg
      rcases List.mem_cons.mp hg with rfl | hg
      · exact hnames
      · exact ih hfields g hg

/-- The names of declarations that are alike to others are identifiers, and so are those of the
fields of a declared struct. -/
theorem names_of_allLike {n : Nat} {ds ds' : List TypeDecl}
    (h : TypeDecl.AllLike sameNames n ds ds') :
    ∀ d ∈ ds, Token.Lexes .ident d.name.toList ∧ ∀ fields, d.type = .struct fields →
      ∀ f ∈ fields, ∀ name ∈ f.names, Token.Lexes .ident name.toList := by
  induction h with
  | nil =>
    intro d hd
    cases hd
  | cons hname ht _ ih =>
    intro d hd
    rcases List.mem_cons.mp hd with rfl | hd
    · refine ⟨hname, ?_⟩
      rintro fields rfl
      cases ht with
      | struct hfields => exact names_of_fieldsLike hfields
    · exact ih d hd

/-! ## Sources -/

/-- A source is read from its tokens. -/
theorem parse_of_scan {source : String} {ts : List Token}
    (h : Token.scan source.toList = .ok ts) :
    (parse source).result = (ofTokens ts).result.mapError (locate ts) := by
  unfold parse
  rw [Logged.result_bind, Logged.result_ofExcept, h]
  rfl

/-- A package is read from the tokens of its source. -/
theorem exists_scan_of_parse {source : String} {p : Package} (h : (parse source).result = .ok p) :
    ∃ ts, Token.scan source.toList = .ok ts ∧ (ofTokens ts).result = .ok p := by
  cases hscan : Token.scan source.toList with
  | error e =>
    unfold parse at h
    rw [Logged.result_bind, Logged.result_ofExcept, hscan] at h
    cases h
  | ok ts =>
    rw [parse_of_scan hscan] at h
    refine ⟨ts, rfl, ?_⟩
    cases hresult : (ofTokens ts).result with
    | error e =>
      rw [hresult] at h
      cases h
    | ok q =>
      rw [hresult] at h
      exact congrArg Except.ok (Except.ok.inj h)

/-- A package that is read from a source is like some package whose names are identifiers. -/
theorem exists_like_of_parse {source : String} {p : Package} (h : (parse source).result = .ok p) :
    ∃ q m, p.Like sameNames m q := by
  obtain ⟨ts, hscan, hresult⟩ := exists_scan_of_parse h
  have hlexes : ∀ t ∈ ts, t.kind = .ident → Token.Lexes .ident t.text := fun t ht hkind =>
    hkind ▸ Token.lexes_of_mem_scanFrom hscan ht (by rw [hkind]; decide)
  obtain ⟨q, -, m, -, hlike⟩ := (ofTokens_agree (rows_sameNames hlexes)).exists_right hresult
  exact ⟨q, m, hlike⟩

/-- The names in a package that is read from a source are identifiers. -/
theorem parse_names {source : String} {p : Package} (h : (parse source).result = .ok p) :
    p.HasNames := by
  obtain ⟨q, m, hlike⟩ := exists_like_of_parse h
  exact ⟨hlike.name, fun d hd => (names_of_allLike hlike.decls d hd).1,
    fun d hd => (names_of_allLike hlike.decls d hd).2⟩

/-- All names in the types of declarations that are alike to others are identifiers. -/
theorem idents_of_allLike {n : Nat} {ds ds' : List TypeDecl}
    (h : TypeDecl.AllLike sameNames n ds ds') :
    ∀ d ∈ ds, ∀ name ∈ d.type.idents, Token.Lexes .ident name.toList := by
  induction h with
  | nil => exact fun _ hd => absurd hd List.not_mem_nil
  | cons _ ht _ ih =>
    intro d hd
    rcases List.mem_cons.mp hd with rfl | hd
    · exact ht.idents
    · exact ih d hd

/-- The names that the types of a package are written with are identifiers. -/
theorem parse_idents {source : String} {p : Package} (h : (parse source).result = .ok p) :
    ∀ d ∈ p.decls, ∀ name ∈ d.type.idents, Token.Lexes .ident name.toList := by
  obtain ⟨q, m, hlike⟩ := exists_like_of_parse h
  exact idents_of_allLike hlike.decls

end CodecGen.Package
