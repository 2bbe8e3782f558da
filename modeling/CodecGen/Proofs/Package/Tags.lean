import CodecGen.Proofs.Package.Names
import CodecGen.Proofs.Tag.Spelling
import CodecGen.Proofs.Token.Respelling
import Mathlib.Data.Fintype.EquivFin

/-!
# The place of a tag in a package

A literal in a source is the tag of one field or of none. To tell which, its text is marked: the
package that is read with a text that occurs nowhere else is the original one with the mark in the
place of the tag (`Package.Like.eq_fillTag`). So the packages that are read with two spellings of
the literal differ in that place only (`parse_interpretedTag`).
-/

namespace CodecGen

/-! ## Tags of a package -/

mutual

/-- The tags in a type expression, from left to right. -/
def GoType.tags : GoType → List String
  | .ident _ => []
  | .selector qualifier _ => qualifier.tags
  | .pointer elem => elem.tags
  | .array _ elem => elem.tags
  | .map key value => key.tags ++ value.tags
  | .struct fields => GoType.fieldsTags fields
  | .interface => []
  | .func => []
  | .chan elem => elem.tags

/-- The tags of some fields and in their types. -/
def GoType.fieldsTags : List (FieldOf GoType) → List String
  | [] => []
  | ⟨_, type, tag⟩ :: fields => type.tags ++ tag.toList ++ GoType.fieldsTags fields

end

mutual

/-- A type expression with other tags. -/
def GoType.mapTags (f : String → String) : GoType → GoType
  | .ident name => .ident name
  | .selector qualifier name => .selector (qualifier.mapTags f) name
  | .pointer elem => .pointer (elem.mapTags f)
  | .array len elem => .array len (elem.mapTags f)
  | .map key value => .map (key.mapTags f) (value.mapTags f)
  | .struct fields => .struct (GoType.fieldsMapTags f fields)
  | .interface => .interface
  | .func => .func
  | .chan elem => .chan (elem.mapTags f)

/-- Fields with other tags. -/
def GoType.fieldsMapTags (f : String → String) : List (FieldOf GoType) → List (FieldOf GoType)
  | [] => []
  | ⟨names, type, tag⟩ :: fields =>
    ⟨names, type.mapTags f, tag.map f⟩ :: GoType.fieldsMapTags f fields

end

mutual

/-- The tags of a type expression with other tags are the other tags. -/
theorem GoType.tags_mapTags (f : String → String) (t : GoType) :
    (t.mapTags f).tags = t.tags.map f := by
  cases t with
  | ident | interface | func => rfl
  | selector qualifier _ => exact qualifier.tags_mapTags f
  | pointer elem => exact elem.tags_mapTags f
  | array _ elem => exact elem.tags_mapTags f
  | map key value =>
    show (key.mapTags f).tags ++ (value.mapTags f).tags = (key.tags ++ value.tags).map f
    rw [List.map_append, key.tags_mapTags f, value.tags_mapTags f]
  | struct fields => exact GoType.fieldsTags_fieldsMapTags f fields
  | chan elem => exact elem.tags_mapTags f

/-- The tags of fields with other tags are the other tags. -/
theorem GoType.fieldsTags_fieldsMapTags (f : String → String) (fields : List Field) :
    GoType.fieldsTags (GoType.fieldsMapTags f fields) = (GoType.fieldsTags fields).map f := by
  match fields with
  | [] => rfl
  | ⟨_, type, tag⟩ :: fields =>
    have htag : (tag.map f).toList = tag.toList.map f := by cases tag <;> rfl
    show (type.mapTags f).tags ++ (tag.map f).toList ++
      GoType.fieldsTags (GoType.fieldsMapTags f fields) = _
    rw [type.tags_mapTags f, htag, GoType.fieldsTags_fieldsMapTags f fields, ← List.map_append,
      ← List.map_append]
    rfl

end

/-- A text in the place of a mark. -/
def fillIn (mark text s : String) : String :=
  if s = mark then text else s

namespace Package

/-- The tags of the fields of a package, those of fields inside fields included. -/
def tags (p : Package) : List String :=
  p.decls.flatMap fun d => d.type.tags

/-- A package with other tags. -/
def mapTags (p : Package) (f : String → String) : Package :=
  { p with decls := p.decls.map fun d => { d with type := d.type.mapTags f } }

/-- The tags of a package with other tags are the other tags. -/
theorem tags_mapTags (p : Package) (f : String → String) :
    (p.mapTags f).tags = p.tags.map f := by
  unfold tags mapTags
  rw [List.flatMap_map, List.map_flatMap]
  simp only [GoType.tags_mapTags]

/-- A package with a text as tag wherever a mark stands. -/
def fillTag (p : Package) (mark text : String) : Package :=
  p.mapTags (fillIn mark text)

end Package

/-! ## Marked packages -/

/-- One text has the mark where the other has the text to fill in. -/
inductive FilledIn (mark text : String) : Nat → String → String → Prop
  | other {s : String} (h : s ≠ mark) : FilledIn mark text 0 s s
  | marked : FilledIn mark text 1 mark text

/-- One token is a literal with the mark where the other is a literal to fill in. -/
inductive Token.FilledIn (mark text : String) : Nat → Token → Token → Prop
  | other {t t' : Token} (hsame : t.SameText t') (hmark : t.lexeme ≠ mark) :
      Token.FilledIn mark text 0 t t'
  | marked {t t' : Token} (hkind : t.kind.isStringLiteral = true)
      (hkind' : t'.kind.isStringLiteral = true) (hmark : t.lexeme = mark)
      (htext : t'.lexeme = text) : Token.FilledIn mark text 1 t t'

/-- Rows in which no mark is counted have the same texts. -/
theorem Token.sameText_of_rows {mark text : String} {n : Nat} {ts ts' : List Token}
    (h : Rows (Token.FilledIn mark text) n ts ts') (hn : n = 0) :
    List.Forall₂ Token.SameText ts ts' := by
  induction h with
  | nil => exact .nil
  | cons ht _ ih =>
    cases ht with
    | other hsame _ => exact .cons hsame (ih (by omega))
    | marked => omega

/-- Tokens are alike if they have the same text, but for a literal with the mark. -/
def Package.filling (mark text : String) : Likeness where
  token := Token.FilledIn mark text
  name _ := True
  tag := FilledIn mark text
  length n s s' := n = 0 → s = s'
  error _ _ := True
  kind
    | .other hsame _ => .inl hsame.kind
    | .marked hkind hkind' _ _ => .inr (.inr ⟨hkind, hkind'⟩)
  lexeme
    | .other hsame _, _ => ⟨hsame.lexeme_eq, trivial⟩
    | .marked hkind _ _ _, hident => by rw [hident] at hkind; cases hkind
  literal
    | .other hsame hmark, _ => by rw [← hsame.lexeme_eq]; exact .other hmark
    | .marked _ _ hmark htext, _ => by rw [hmark, htext]; exact .marked
  span hrows hn := by rw [Token.spanText_eq_of_sameText (Token.sameText_of_rows hrows hn)]
  error_at _ _ := trivial
  error_end _ := trivial

/-- What becomes of some tags when the text is filled in, and of all they stand in if nothing but
marks is counted as a difference. -/
structure Fills (mark text : String) (n : Nat) (ts ts' : List String) (whole : Prop) : Prop where
  /-- The text stands where the mark stood. -/
  tags : ts' = ts.map (fillIn mark text)
  /-- Every mark is counted. -/
  count : ts.count mark ≤ n
  /-- Where only marks are counted, the rest is the same. -/
  whole : ts.count mark = n → whole

section

variable {mark text : String} {n m : Nat} {ts ts' us us' : List String} {P Q : Prop}

/-- What becomes of two lists of tags becomes of both together. -/
theorem Fills.append (h : Fills mark text n ts ts' P) (h' : Fills mark text m us us' Q) :
    Fills mark text (n + m) (ts ++ us) (ts' ++ us') (P ∧ Q) := by
  have hcount := h.count
  have hcount' := h'.count
  constructor
  · rw [h.tags, h'.tags, List.map_append]
  · rw [List.count_append]
    omega
  · intro hall
    rw [List.count_append] at hall
    exact ⟨h.whole (by omega), h'.whole (by omega)⟩

/-- What becomes of tags may be said of less that they stand in. -/
theorem Fills.mono (h : Fills mark text n ts ts' P) (hPQ : P → Q) :
    Fills mark text n ts ts' Q :=
  ⟨h.tags, h.count, fun hall => hPQ (h.whole hall)⟩

/-- Where there are no tags nothing is filled in. -/
theorem fills_nil (h : n = 0 → P) : Fills mark text n [] [] P :=
  ⟨rfl, Nat.zero_le n, fun hall => h hall.symm⟩

/-- No tag stands in an array length. -/
theorem fills_length {len len' : Option String}
    (h : OptionLike (Package.filling mark text).length n len len') :
    Fills mark text n [] [] (len' = len) := by
  cases h with
  | none => exact fills_nil fun _ => rfl
  | some h => exact fills_nil fun hn => congrArg some (h hn).symm

/-- A tag is filled in, or is none. -/
theorem fills_tag {tag tag' : Option String}
    (h : OptionLike (Package.filling mark text).tag n tag tag') :
    Fills mark text n tag.toList tag'.toList (tag' = tag.map (fillIn mark text)) := by
  cases h with
  | none => exact fills_nil fun _ => rfl
  | some h =>
    cases h with
    | other hmark =>
      rename_i s
      have hsame : s = fillIn mark text s := (if_neg hmark).symm
      exact ⟨congrArg (fun s => [s]) hsame, Nat.le_of_eq (List.count_cons_of_ne hmark),
        fun _ => congrArg some hsame⟩
    | marked =>
      have hfilled : text = fillIn mark text mark := (if_pos rfl).symm
      exact ⟨congrArg (fun s => [s]) hfilled, Nat.le_of_eq List.count_cons_self,
        fun _ => congrArg some hfilled⟩

end

mutual

/-- What is filled in a type expression is filled in its tags. -/
theorem GoType.Like.fills {mark text : String} {n : Nat} {t t' : GoType}
    (h : t.Like (Package.filling mark text) n t') :
    Fills mark text n t.tags t'.tags (t' = t.mapTags (fillIn mark text)) := by
  cases h with
  | ident => exact fills_nil fun _ => rfl
  | qualified => exact fills_nil fun _ => rfl
  | pointer ht => exact ht.fills.mono fun heq => congrArg GoType.pointer heq
  | array hlen ht =>
    exact ((fills_length hlen).append ht.fills).mono fun heq => by
      rw [heq.1, heq.2]
      rfl
  | map hkey hvalue =>
    exact (hkey.fills.append hvalue.fills).mono fun heq => by
      rw [heq.1, heq.2]
      rfl
  | struct hfields => exact hfields.fills.mono fun heq => congrArg GoType.struct heq
  | interface => exact fills_nil fun _ => rfl
  | func => exact fills_nil fun _ => rfl
  | chan ht => exact ht.fills.mono fun heq => congrArg GoType.chan heq

/-- What is filled in some fields is filled in their tags. -/
theorem GoType.FieldsLike.fills {mark text : String} {n : Nat} {fields fields' : List Field}
    (h : GoType.FieldsLike (Package.filling mark text) n fields fields') :
    Fills mark text n (GoType.fieldsTags fields) (GoType.fieldsTags fields')
      (fields' = GoType.fieldsMapTags (fillIn mark text) fields) := by
  cases h with
  | nil => exact fills_nil fun _ => rfl
  | cons _ ht htag hfields =>
    exact ((ht.fills.append (fills_tag htag)).append hfields.fills).mono fun heq => by
      rw [heq.1.1, heq.1.2, heq.2]
      rfl

end

/-- What is filled in some declarations is filled in their tags. -/
theorem TypeDecl.AllLike.fills {mark text : String} {n : Nat} {ds ds' : List TypeDecl}
    (h : TypeDecl.AllLike (Package.filling mark text) n ds ds') :
    Fills mark text n (ds.flatMap fun d => d.type.tags) (ds'.flatMap fun d => d.type.tags)
      (ds' = ds.map fun d => { d with type := d.type.mapTags (fillIn mark text) }) := by
  induction h with
  | nil => exact fills_nil fun _ => rfl
  | cons _ ht _ ih =>
    rw [List.flatMap_cons, List.flatMap_cons, List.map_cons]
    exact (ht.fills.append ih).mono fun heq => by rw [heq.1, heq.2]

/-- What is like a package with marks is this package with the text filled in, if nothing else is
counted as a difference. -/
theorem Package.Like.fills {mark text : String} {n : Nat} {p p' : Package}
    (h : p.Like (Package.filling mark text) n p') :
    Fills mark text n p.tags p'.tags (p' = p.fillTag mark text) := by
  obtain ⟨-, hname, hdecls⟩ := h
  obtain ⟨name, decls⟩ := p
  obtain ⟨name', decls'⟩ := p'
  obtain rfl : name = name' := hname
  exact hdecls.fills.mono fun heq => congrArg (Package.mk name) heq

/-! ## Literals that are tags -/

/-- A token with another text. -/
def Token.withText (t : Token) (text : String) : Token :=
  { t with text := text.toList }

namespace Package

/-- The literal between some tokens is a tag of the package that is read from them: with some text
in its place that no field has as tag otherwise, a field has this text as tag. -/
def HasTagAt (p : Package) (front : List Token) (lit : Token) (back : List Token) : Prop :=
  ∃ text q, (ofTokens (front ++ lit.withText text :: back)).result = .ok q ∧
    text ∉ p.tags ∧ text ∈ q.tags

/-- Two packages differ only in the tag that the literal between some tokens is. With a mark in the
place of the literal, which no token has as its text, a package is read that has the mark as a tag
in one place; the two packages are this one with one text or the other filled in there. -/
def DifferInTag (front : List Token) (lit : Token) (back : List Token) (text text' : String)
    (p p' : Package) : Prop :=
  ∃ mark q, (∀ t ∈ front ++ lit :: back, t.lexeme ≠ mark) ∧
    (ofTokens (front ++ lit.withText mark :: back)).result = .ok q ∧ q.tags.count mark = 1 ∧
    p = q.fillTag mark text ∧ p' = q.fillTag mark text'

section

variable {mark text : String} {ts ts' us us' : List Token} {p q : Package}

/-- Alike rows may be put after each other, and the counts add up. -/
theorem rows_append {token : Nat → Token → Token → Prop} {n m : Nat} (h : Rows token n ts ts')
    (h' : Rows token m us us') : Rows token (n + m) (ts ++ us) (ts' ++ us') := by
  induction h with
  | nil => rwa [Nat.zero_add]
  | cons ht _ ih =>
    rw [Nat.add_assoc]
    exact .cons ht ih

/-- Rows with the same texts are alike where no token has the mark. -/
theorem rows_of_sameText (h : List.Forall₂ Token.SameText ts ts')
    (hmark : ∀ t ∈ ts, t.lexeme ≠ mark) : Rows (filling mark text).token 0 ts ts' := by
  induction h with
  | nil => exact .nil
  | cons ht _ ih =>
    exact .cons (.other ht (hmark _ List.mem_cons_self))
      (ih fun u hu => hmark u (List.mem_cons_of_mem _ hu))

/-- A row with a marked literal is like the row with another literal in its place. -/
theorem rows_filling {front back back' : List Token} {lit lit' : Token}
    (hlit : lit.kind.isStringLiteral = true) (hlit' : lit'.kind.isStringLiteral = true)
    (htext : lit'.lexeme = text) (hmark : ∀ t ∈ front ++ back, t.lexeme ≠ mark)
    (hback : List.Forall₂ Token.SameText back back') :
    Rows (filling mark text).token 1 (front ++ lit.withText mark :: back)
      (front ++ lit' :: back') := by
  have hfront : Rows (filling mark text).token 0 front front :=
    rows_of_sameText (List.forall₂_same.mpr fun t _ => .refl t)
      fun t ht => hmark t (List.mem_append_left _ ht)
  have hliteral : Token.FilledIn mark text 1 (lit.withText mark) lit' :=
    .marked hlit hlit' String.ofList_toList htext
  exact rows_append hfront (.cons hliteral
    (rows_of_sameText hback fun t ht => hmark t (List.mem_append_right _ ht)))

/-- There is a text that no token has. -/
theorem exists_mark (ts : List Token) : ∃ mark : String, ∀ t ∈ ts, t.lexeme ≠ mark := by
  obtain ⟨mark, hmark⟩ := Infinite.exists_notMem_finset (ts.map Token.lexeme).toFinset
  rw [List.mem_toFinset] at hmark
  exact ⟨mark, fun t ht heq => hmark (List.mem_map.mpr ⟨t, ht, heq⟩)⟩

/-- Where one mark is a tag, filling in the text is all the difference. -/
theorem eq_fillTag {m : Nat} (hm : m ≤ 1) (h : q.Like (filling mark text) m p)
    (hcount : q.tags.count mark = 1) : p = q.fillTag mark text := by
  have hfills := h.fills
  have hle := hfills.count
  exact hfills.whole (by omega)

end

section

variable {front back back' : List Token} {lit lit' : Token} {mark : String} {p q : Package}

/-- If the literal is a tag of the package, the mark in its place is one. -/
theorem mem_tags_of_hasTagAt {m : Nat} (hlit : lit.kind.isStringLiteral = true)
    (hmark : ∀ t ∈ front ++ back, t.lexeme ≠ mark) (htag : p.HasTagAt front lit back)
    (hq : (ofTokens (front ++ lit.withText mark :: back)).result = .ok q)
    (hp : q.Like (filling mark lit.lexeme) m p) : mark ∈ q.tags := by
  obtain ⟨text, p', hp', hnot, hin⟩ := htag
  have hback : List.Forall₂ Token.SameText back back :=
    List.forall₂_same.mpr fun t _ => .refl t
  have hlit' : (lit.withText text).kind.isStringLiteral = true := hlit
  have hrows := rows_filling hlit hlit' rfl hmark hback
  obtain ⟨r, hr, k, -, hlike⟩ := (ofTokens_agree hrows).exists_right hq
  obtain rfl : r = p' := Except.ok.inj (hr.symm.trans hp')
  -- without the mark among the tags, both packages have the tags of the marked one
  by_contra hmem
  have hkeep : ∀ text, q.tags.map (fillIn mark text) = q.tags := by
    intro text
    refine (List.map_congr_left fun s hs => ?_).trans (List.map_id _)
    have hne : s ≠ mark := fun heq => hmem (heq ▸ hs)
    exact if_neg hne
  have htags := hp.fills.tags
  have htags' := hlike.fills.tags
  rw [hkeep] at htags htags'
  rw [htags'] at hin
  rw [htags] at hnot
  exact hnot hin

/-- Where a literal is a tag of a package, another literal in its place gives a package that differs
in this tag only. -/
theorem exists_differInTag (hlit : lit.kind.isStringLiteral = true)
    (hlit' : lit'.kind.isStringLiteral = true) (hback : List.Forall₂ Token.SameText back back')
    (hp : (ofTokens (front ++ lit :: back)).result = .ok p) (htag : p.HasTagAt front lit back) :
    ∃ p', (ofTokens (front ++ lit' :: back')).result = .ok p' ∧
      DifferInTag front lit back lit.lexeme lit'.lexeme p p' := by
  obtain ⟨mark, hfresh⟩ := exists_mark (front ++ lit :: back)
  have hmark : ∀ t ∈ front ++ back, t.lexeme ≠ mark := by
    intro t ht
    rcases List.mem_append.mp ht with ht | ht
    · exact hfresh t (List.mem_append_left _ ht)
    · exact hfresh t (List.mem_append_right _ (List.mem_cons_of_mem _ ht))
  have hsame : List.Forall₂ Token.SameText back back :=
    List.forall₂_same.mpr fun t _ => .refl t
  obtain ⟨q, hq, m, hm, hlike⟩ :=
    (ofTokens_agree (rows_filling hlit hlit rfl hmark hsame)).exists_left hp
  obtain ⟨p', hp', m', hm', hlike'⟩ :=
    (ofTokens_agree (rows_filling hlit hlit' rfl hmark hback)).exists_right hq
  have hcount : q.tags.count mark = 1 := by
    have hle := hlike.fills.count
    have hpos := List.count_pos_iff.mpr (mem_tags_of_hasTagAt hlit hmark htag hq hlike)
    omega
  exact ⟨p', hp', mark, q, hfresh, hq, hcount, eq_fillTag hm hlike hcount,
    eq_fillTag hm' hlike' hcount⟩

/-- A literal is a tag if any text in its place becomes a tag. -/
theorem hasTagAt_iff (hlit : lit.kind.isStringLiteral = true)
    (hp : (ofTokens (front ++ lit :: back)).result = .ok p) :
    p.HasTagAt front lit back ↔ ∀ text, ∃ q,
      (ofTokens (front ++ lit.withText text :: back)).result = .ok q ∧ text ∈ q.tags := by
  constructor
  · intro htag text
    have hback : List.Forall₂ Token.SameText back back :=
      List.forall₂_same.mpr fun t _ => .refl t
    have hlit' : (lit.withText text).kind.isStringLiteral = true := hlit
    obtain ⟨p', hp', mark, q, -, -, hcount, -, rfl⟩ := exists_differInTag hlit hlit' hback hp htag
    have hmark : mark ∈ q.tags := List.count_pos_iff.mp (by omega)
    refine ⟨_, hp', ?_⟩
    rw [fillTag, tags_mapTags]
    exact List.mem_map.mpr ⟨mark, hmark, (if_pos rfl).trans String.ofList_toList⟩
  · intro hall
    obtain ⟨text, htext⟩ := Infinite.exists_notMem_finset p.tags.toFinset
    obtain ⟨q, hq, hmem⟩ := hall text
    exact ⟨text, q, hq, fun h => htext (List.mem_toFinset.mpr h), hmem⟩

end

/-- Where a raw literal is a tag of a package, the interpreted literal of the same text can stand in
its place. The package that is read then differs in this tag only. -/
theorem parse_interpretedTag {pre post text : String} {front back : List Token} {lit : Token}
    {p : Package} (htext : '\x60' ∉ text.toList)
    (hscan : Token.scan (pre ++ Tag.rawLiteral text ++ post).toList = .ok (front ++ lit :: back))
    (hplace : Token.source front ++ lit.gap = pre.toList)
    (hparse : (parse (pre ++ Tag.rawLiteral text ++ post)).result = .ok p)
    (htag : p.HasTagAt front lit back) :
    ∃ p', (parse (pre ++ Tag.interpretedLiteral text ++ post)).result = .ok p' ∧
      DifferInTag front lit back (Tag.rawLiteral text) (Tag.interpretedLiteral text) p p' := by
  have hsource : (pre ++ Tag.rawLiteral text ++ post).toList =
      pre.toList ++ '\x60' :: (text.toList ++ '\x60' :: post.toList) := by
    simp [Tag.toList_rawLiteral]
  have hsource' : (pre ++ Tag.interpretedLiteral text ++ post).toList =
      pre.toList ++ '"' :: (Tag.escapedBody text.toList ++ post.toList) := by
    simp [Tag.toList_interpretedLiteral]
  -- the tokens are the same up to the literal, and have the same texts after it
  obtain ⟨ts, hts, hp⟩ := exists_scan_of_parse hparse
  obtain rfl : ts = front ++ lit :: back := Except.ok.inj (hts.symm.trans hscan)
  rw [hsource] at hscan
  obtain ⟨hkind, hliteral, lit', back', hkind', hliteral', hscan', hback⟩ :=
    Token.scan_respelled htext (Tag.quotedBody_escapedBody text.toList) hscan hplace
  rw [← hsource'] at hscan'
  have hlexeme : lit.lexeme = Tag.rawLiteral text := by
    unfold Token.lexeme
    rw [hliteral, ← Tag.toList_rawLiteral, String.ofList_toList]
  have hlexeme' : lit'.lexeme = Tag.interpretedLiteral text := congrArg String.ofList hliteral'
  have hlit : lit.kind.isStringLiteral = true := by
    rw [hkind]
    rfl
  have hlit' : lit'.kind.isStringLiteral = true := by
    rw [hkind']
    rfl
  obtain ⟨p', hp', hdiffer⟩ := exists_differInTag hlit hlit' hback hp htag
  rw [hlexeme, hlexeme'] at hdiffer
  refine ⟨p', ?_, hdiffer⟩
  rw [parse_of_scan hscan', hp']
  rfl

end Package

end CodecGen
