import CodecGen.Proofs.Package.Statements

/-!
# Writing packages

A printer for packages of declarations. What it prints spells the package, so that a package whose
names, lengths and tags are tokens is read back from its text (`parse_print`).
-/

namespace CodecGen.Package

open Token (Word Lexes row row_append lineAfter)

/-! ## Words of types -/

/-- The word of an array length. -/
def lengthWord (len : String) : Word :=
  (if Lexes .number len.toList then .number else .ident, len)

/-- The word of a tag. -/
def tagWord (tag : String) : Word :=
  (if Lexes .rawString tag.toList then .rawString else .string, tag)

/-- The names of a field, with commas between them. -/
def nameWords : List String → List Word
  | [] => []
  | name :: names => (.ident, name) :: names.flatMap fun n => [(.comma, ","), (.ident, n)]

mutual

/-- The words of a type expression. -/
def typeWords : GoType → List Word
  | .ident name => [(.ident, name)]
  | .selector qualifier name => typeWords qualifier ++ [(.dot, "."), (.ident, name)]
  | .pointer elem => (.star, "*") :: typeWords elem
  | .array none elem => (.lbracket, "[") :: (.rbracket, "]") :: typeWords elem
  | .array (some len) elem =>
    (.lbracket, "[") :: lengthWord len :: (.rbracket, "]") :: typeWords elem
  | .map key value =>
    (.keyword .map, "map") :: (.lbracket, "[") ::
      (typeWords key ++ (.rbracket, "]") :: typeWords value)
  | .struct fields =>
    (.keyword .struct, "struct") :: (.lbrace, "\x7b") :: (fieldsWords fields ++ [(.rbrace, "\x7d")])
  | .interface => [(.keyword .interface, "interface"), (.lbrace, "\x7b"), (.rbrace, "\x7d")]
  | .func => [(.keyword .func, "func"), (.lparen, "("), (.rparen, ")")]
  | .chan elem => (.keyword .chan, "chan") :: typeWords elem

/-- The words of field lines, each with a line end. -/
def fieldsWords : List (FieldOf GoType) → List Word
  | [] => []
  | f :: fs => fieldWords f ++ (.newline, "\n") :: fieldsWords fs

/-- The words of a field line. -/
def fieldWords : FieldOf GoType → List Word
  | ⟨names, type, tag⟩ => nameWords names ++ (typeWords type ++ (tag.map tagWord).toList)

end

/-! ## Types that can be written -/

/-- The type of an embedded field is a name, qualified or not, or a pointer to one. -/
def IsEmbeddable : GoType → Prop
  | .ident _ | .selector (.ident _) _ => True
  | .pointer (.ident _) | .pointer (.selector (.ident _) _) => True
  | _ => False

/-- The names and the tag of a field are tokens, and its type can be written. -/
structure IsWritableField (inner : GoType → Prop) (f : Field) : Prop where
  names : ∀ name ∈ f.names, Lexes .ident name.toList
  type : inner f.type
  embedded : f.names = [] → IsEmbeddable f.type
  tag : ∀ tag ∈ f.tag, Lexes .rawString tag.toList ∨ Lexes .string tag.toList

/-- The names, lengths and tags of a type expression are tokens, and it is nested no deeper than
given. -/
def IsWritable : Nat → GoType → Prop
  | 0, _ => False
  | _ + 1, .ident name => Lexes .ident name.toList
  | _ + 1, .selector (.ident q) name => Lexes .ident q.toList ∧ Lexes .ident name.toList
  | _ + 1, .selector _ _ => False
  | depth + 1, .pointer elem => IsWritable depth elem
  | depth + 1, .array len elem =>
    (∀ n ∈ len, Lexes .number n.toList ∨ Lexes .ident n.toList) ∧ IsWritable depth elem
  | depth + 1, .map key value => IsWritable depth key ∧ IsWritable depth value
  | depth + 1, .struct fields => ∀ f ∈ fields, IsWritableField (IsWritable depth) f
  | _ + 1, .interface => True
  | _ + 1, .func => True
  | depth + 1, .chan elem => IsWritable depth elem

/-! ## Words are tokens -/

/-- All words have the texts of their classes. -/
def AllLex (ws : List Word) : Prop :=
  ∀ w ∈ ws, Lexes w.1 w.2.toList

theorem allLex_nil : AllLex [] :=
  fun w hw => by cases hw

/-- A word that lexes may be put before words that do. -/
theorem AllLex.cons {w : Word} {ws : List Word} (hw : Lexes w.1 w.2.toList) (hws : AllLex ws) :
    AllLex (w :: ws) :=
  List.forall_mem_cons.mpr ⟨hw, hws⟩

/-- Rows of words that lex may be put after each other. -/
theorem AllLex.append {ws vs : List Word} (hws : AllLex ws) (hvs : AllLex vs) :
    AllLex (ws ++ vs) :=
  List.forall_mem_append.mpr ⟨hws, hvs⟩

/-- The length of an array has the text of the class that it is printed as. -/
theorem lexes_lengthWord {len : String}
    (h : Lexes .number len.toList ∨ Lexes .ident len.toList) :
    Lexes (lengthWord len).1 len.toList := by
  unfold lengthWord
  by_cases hnumber : Lexes .number len.toList
  · rw [if_pos hnumber]
    exact hnumber
  · rw [if_neg hnumber]
    exact h.resolve_left hnumber

/-- A tag has the text of the class that it is printed as. -/
theorem lexes_tagWord {tag : String}
    (h : Lexes .rawString tag.toList ∨ Lexes .string tag.toList) :
    Lexes (tagWord tag).1 tag.toList := by
  unfold tagWord
  by_cases hraw : Lexes .rawString tag.toList
  · rw [if_pos hraw]
    exact hraw
  · rw [if_neg hraw]
    exact h.resolve_left hraw

/-- The words of names lex if the names are identifiers. -/
theorem nameWords_lex {names : List String} (h : ∀ name ∈ names, Lexes .ident name.toList) :
    AllLex (nameWords names) := by
  cases names with
  | nil => exact allLex_nil
  | cons name names =>
    refine .cons (h name List.mem_cons_self) ?_
    intro w hw
    obtain ⟨n, hn, hword⟩ := List.mem_flatMap.mp hw
    have hname := h n (List.mem_cons_of_mem _ hn)
    exact AllLex.cons (.mark rfl) (.cons hname allLex_nil) w hword

/-- The words of a field that can be written lex if those of its type do. -/
theorem fieldWords_lex {spec : GoType → Prop} {f : Field} (h : IsWritableField spec f)
    (htype : AllLex (typeWords f.type)) : AllLex (fieldWords f) := by
  obtain ⟨names, type, tag⟩ := f
  refine (nameWords_lex h.names).append (htype.append ?_)
  cases tag with
  | none => exact allLex_nil
  | some tag => exact .cons (lexes_tagWord (h.tag tag rfl)) allLex_nil

/-- The words of fields lex if those of each field do. -/
theorem fieldsWords_lex {fields : List Field} (h : ∀ f ∈ fields, AllLex (fieldWords f)) :
    AllLex (fieldsWords fields) := by
  induction fields with
  | nil => exact allLex_nil
  | cons f fs ih =>
    have hfs := ih fun g hg => h g (List.mem_cons_of_mem _ hg)
    exact (h f List.mem_cons_self).append (.cons (.mark rfl) hfs)

/-- The words of a type that can be written lex. -/
theorem typeWords_lex {depth : Nat} {type : GoType} (h : IsWritable depth type) :
    AllLex (typeWords type) := by
  induction depth generalizing type with
  | zero => exact absurd h id
  | succ depth ih =>
    cases type with
    | ident name => exact .cons h allLex_nil
    | selector qualifier name =>
      cases qualifier with
      | ident q => exact .cons h.1 (.cons (.mark rfl) (.cons h.2 allLex_nil))
      | _ => exact absurd h id
    | pointer elem => exact .cons (.mark rfl) (ih h)
    | array len elem =>
      obtain ⟨hlen, helem⟩ := h
      cases len with
      | none => exact .cons (.mark rfl) (.cons (.mark rfl) (ih helem))
      | some len =>
        exact .cons (.mark rfl) (.cons (lexes_lengthWord (hlen len rfl))
          (.cons (.mark rfl) (ih helem)))
    | map key value =>
      exact .cons (by decide) (.cons (.mark rfl)
        ((ih h.1).append (.cons (.mark rfl) (ih h.2))))
    | struct fields =>
      have hfields := fieldsWords_lex fun f hf => fieldWords_lex (h f hf) (ih (h f hf).type)
      exact .cons (by decide) (.cons (.mark rfl)
        (hfields.append (.cons (.mark rfl) allLex_nil)))
    | interface =>
      exact .cons (by decide) (.cons (.mark rfl) (.cons (.mark rfl) allLex_nil))
    | func => exact .cons (by decide) (.cons (.mark rfl) (.cons (.mark rfl) allLex_nil))
    | chan elem => exact .cons (by decide) (ih h)

/-! ## Words spell what they are printed for -/

/-- The token of a word has the text of the word. -/
theorem lexeme_word (kind : TokenKind) (gap : List Char) (text : String) (line : Nat) :
    Token.lexeme ⟨kind, gap, text.toList, line⟩ = text :=
  String.ofList_toList

/-- Commas and names after the first spell the names. -/
theorem moreNames_row (names : List String) (line : Nat) :
    MoreNames names (row line (names.flatMap fun n => [(.comma, ","), (.ident, n)])) := by
  induction names generalizing line with
  | nil => exact .nil
  | cons name names ih =>
    have hlines : ∀ t ∈ ([] : List Token), t.kind.isNewline = true := fun t ht => by cases ht
    have hmore : MoreNames _
        (row line ([(.comma, ","), (.ident, name)] ++ names.flatMap _)) :=
      @MoreNames.cons _ _ [] _ names rfl hlines rfl (ih _)
    rwa [lexeme_word] at hmore

/-- The word of a tag spells the tag, and no word spells none. -/
theorem tagSpells_row (tag : Option String) (line : Nat) :
    TagSpells tag (row line (tag.map tagWord).toList) := by
  cases tag with
  | none => exact .none
  | some tag =>
    have hkind : (tagWord tag).1.isStringLiteral = true := by
      unfold tagWord
      split <;> rfl
    have htag := @TagSpells.some ⟨(tagWord tag).1, [' '], tag.toList, line⟩ hkind
    rwa [lexeme_word] at htag

/-- The type of an embedded field begins with a name or a star. -/
theorem typeWords_head {type : GoType} (h : IsEmbeddable type) :
    ∃ kind text ws, typeWords type = (kind, text) :: ws ∧ (kind = .ident ∨ kind = .star) := by
  unfold IsEmbeddable at h
  split at h
  · exact ⟨_, _, _, rfl, .inl rfl⟩
  · exact ⟨_, _, _, rfl, .inl rfl⟩
  · exact ⟨_, _, _, rfl, .inr rfl⟩
  · exact ⟨_, _, _, rfl, .inr rfl⟩
  · exact absurd h id

/-- The words of a field spell it if those of its type do. -/
theorem fieldWords_spells {spec : GoType → List Token → Prop} {writable : GoType → Prop}
    {f : Field} (h : IsWritableField writable f)
    (htype : ∀ line, spec f.type (row line (typeWords f.type))) (line : Nat) :
    FieldSpells spec f (row line (fieldWords f)) := by
  obtain ⟨names, type, tag⟩ := f
  cases names with
  | nil =>
    -- an embedded field is told by the first word of its type
    obtain ⟨kind, text, ws, hwords, hkind⟩ := typeWords_head (h.embedded rfl)
    show FieldSpells spec _ (row line (typeWords type ++ (tag.map tagWord).toList))
    have hfirst := htype line
    dsimp only at hfirst
    rw [row_append]
    rw [hwords] at hfirst ⊢
    exact .embedded hkind hfirst (tagSpells_row tag _)
  | cons name names =>
    suffices hfield : FieldSpells spec
        ⟨Token.lexeme ⟨.ident, [' '], name.toList, line⟩ :: names, type, tag⟩
        (row line (nameWords (name :: names) ++ (typeWords type ++ (tag.map tagWord).toList))) by
      rwa [lexeme_word] at hfield
    rw [row_append, row_append]
    exact .named rfl (moreNames_row names _) (htype _) (tagSpells_row tag _)

/-- Items that end their lines are separated. -/
theorem separated_row {α β : Type} {item : β → List Token → Prop} {f : α → β}
    {words : α → List Word} {xs : List α} (h : ∀ x ∈ xs, ∀ line, item (f x) (row line (words x)))
    (line : Nat) :
    Separated item (xs.map f) (row line (xs.flatMap fun x => words x ++ [(.newline, "\n")])) := by
  have hnone : Separators [] := fun t ht => by cases ht
  induction xs generalizing line with
  | nil => exact .nil hnone
  | cons x xs ih =>
    have hxs := ih fun y hy => h y (List.mem_cons_of_mem _ hy)
    rw [List.flatMap_cons, List.append_assoc, row_append]
    exact .cons hnone (h x List.mem_cons_self line) rfl (hxs _)

/-- More separators may stand before separated items. -/
theorem Separated.append_left {α : Type} {item : α → List Token → Prop} {xs : List α}
    {seps ts : List Token} (hseps : Separators seps) (h : Separated item xs ts) :
    Separated item xs (seps ++ ts) := by
  have hall : ∀ {more : List Token}, Separators more → Separators (seps ++ more) :=
    fun hmore => List.forall_mem_append.mpr ⟨hseps, hmore⟩
  cases h with
  | nil hmore => exact .nil (hall hmore)
  | last hmore hx =>
    rw [← List.append_assoc]
    exact .last (hall hmore) hx
  | cons hmore hx hsep hxs =>
    rw [← List.append_assoc]
    exact .cons (hall hmore) hx hsep hxs

/-- The words of fields are those of each, with a line end after it. -/
theorem fieldsWords_eq (fields : List Field) :
    fieldsWords fields = fields.flatMap fun f => fieldWords f ++ [(.newline, "\n")] := by
  induction fields with
  | nil => rfl
  | cons f fs ih =>
    rw [List.flatMap_cons, ← ih, List.append_assoc]
    rfl

/-- The words of a type that can be written spell it, at the depth it is written at. -/
theorem typeWords_spells {depth : Nat} {type : GoType} (h : IsWritable depth type) (line : Nat) :
    Spells depth type (row line (typeWords type)) := by
  induction depth generalizing type line with
  | zero => exact absurd h id
  | succ depth ih =>
    cases type with
    | ident name =>
      have hform := @Form.ident (Spells depth) ⟨.ident, [' '], name.toList, line⟩ rfl
      rwa [lexeme_word] at hform
    | selector qualifier name =>
      cases qualifier with
      | ident q =>
        have hform : Form (Spells depth) _ (row line (typeWords (.selector (.ident q) name))) :=
          .selector rfl rfl rfl
        rwa [lexeme_word, lexeme_word] at hform
      | _ => exact absurd h id
    | pointer elem => exact .pointer rfl (ih h _)
    | array len elem =>
      obtain ⟨hlen, helem⟩ := h
      cases len with
      | none => exact .slice rfl rfl (ih helem _)
      | some len =>
        have hkind : (lengthWord len).1 = .number ∨ (lengthWord len).1 = .ident := by
          unfold lengthWord
          split
          · exact .inl rfl
          · exact .inr rfl
        have hform : Form (Spells depth) _ (row line (typeWords (.array (some len) elem))) :=
          .array rfl hkind (lexes_lengthWord (hlen len rfl)) rfl (ih helem _)
        rwa [lexeme_word] at hform
    | map key value =>
      show Form _ _ (_ :: _ :: row _ (typeWords key ++ (.rbracket, "]") :: typeWords value))
      rw [row_append]
      exact .map rfl rfl (ih h.1 _) rfl (ih h.2 _)
    | struct fields =>
      show Form _ _ (_ :: _ :: row _ (fieldsWords fields ++ [(.rbrace, "\x7d")]))
      rw [row_append, fieldsWords_eq]
      have hfields : ∀ f ∈ fields, ∀ line, FieldSpells (Spells depth) f (row line (fieldWords f)) :=
        fun f hf => fieldWords_spells (h f hf) (ih (h f hf).type)
      -- every field line has a line end after it, so no other separator is needed
      have hseparated := separated_row hfields
      rw [List.map_id'] at hseparated
      exact .struct rfl rfl (hseparated _) rfl
    | interface => exact .interface rfl rfl .nil rfl
    | func => exact .func rfl rfl .nil rfl .none
    | chan elem => exact .chan rfl (ih h _)

/-! ## Packages -/

/-- The words of a declaration. -/
def declWords (d : TypeDecl) : List Word :=
  (.keyword .typeDecl, "type") :: (.ident, d.name) :: typeWords d.type

/-- The words of a package: the package clause and the declarations, each on a line of its own. -/
def packageWords (p : Package) : List Word :=
  (.keyword .package, "package") :: (.ident, p.name) :: (.newline, "\n") ::
    p.decls.flatMap fun d => declWords d ++ [(.newline, "\n")]

/-- The source text of a package. -/
def print (p : Package) : String :=
  String.ofList (Token.source (row 1 (packageWords p)))

/-- The names in a package are tokens, and its types can be written. -/
structure IsWritablePackage (p : Package) : Prop where
  name : Lexes .ident p.name.toList
  declName : ∀ d ∈ p.decls, Lexes .ident d.name.toList
  declType : ∀ d ∈ p.decls, IsWritable maxTypeDepth d.type

/-- The words of a package that can be written lex. -/
theorem packageWords_lex {p : Package} (h : IsWritablePackage p) : AllLex (packageWords p) := by
  refine .cons (by decide) (.cons h.name (.cons (.mark rfl) ?_))
  intro w hw
  obtain ⟨d, hd, hword⟩ := List.mem_flatMap.mp hw
  have hdecl : AllLex (declWords d) :=
    .cons (by decide) (.cons (h.declName d hd) (typeWords_lex (h.declType d hd)))
  exact hdecl.append (.cons (.mark rfl) allLex_nil) w hword

/-- The words of a declaration whose type can be written spell a statement that declares it. -/
theorem declWords_spells {d : TypeDecl} (h : IsWritable maxTypeDepth d.type) (line : Nat) :
    ItemSpells [d] (row line (declWords d)) := by
  have hspec : SpecSpells _ (row (lineAfter line [(.keyword .typeDecl, "type")])
      ((.ident, d.name) :: typeWords d.type)) :=
    @SpecSpells.intro _ d.type [] _ rfl (.inl rfl) (typeWords_spells h _)
  rw [lexeme_word] at hspec
  exact .single rfl hspec

/-- The words of a package that can be written spell it. -/
theorem packageWords_spells {p : Package} (h : IsWritablePackage p) :
    SourceSpells p (row 1 (packageWords p)) := by
  have hitems := separated_row fun d hd => declWords_spells (h.declType d hd)
  have hseps : ∀ line, Separators (row line [(.newline, "\n")]) :=
    fun line => List.forall_mem_singleton.mpr rfl
  have hnone : Separators [] := fun t ht => by cases ht
  have hsource : SourceSpells _ (row 1 (packageWords p)) :=
    @SourceSpells.intro _ _ _ [] _ hnone rfl rfl ((hitems _).append_left (hseps _))
  rw [lexeme_word, ← List.flatMap_def, List.flatMap_singleton'] at hsource
  exact hsource

/-- A package that can be written is read back from its text. -/
theorem parse_print {p : Package} (h : IsWritablePackage p) :
    (parse (print p)).result = .ok p := by
  have hlaid := Token.laid_row (packageWords_lex h) 1
  have hscan := Token.scan_source hlaid
  rw [List.append_nil] at hscan
  unfold parse print
  rw [String.toList_ofList, hscan, Logged.result_bind_of_ok rfl, Logged.result_mapError,
    ofTokens_spells (packageWords_spells h)]
  rfl

example :
    print ⟨"p", [⟨"T", .struct [⟨["X"], .array (some "3") (.ident "U"), none⟩]⟩]⟩ =
      " package p \n type T struct \x7b X [ 3 ] U \n \x7d \n" := by
  decide +kernel

end CodecGen.Package
