import CodecGen.Proofs.Emit.Silent
import CodecGen.Proofs.Package.Tags

/-!
# Tags count by their contents

The code for a struct depends on a tag through what it decides, and the tags of fields inside fields
do not count at all. So packages whose tags have the same contents get the same report, however the
tags are spelled (`generate_mapTags`), and raw and interpreted literals mean the same
(`generate_interpretedTag`).
-/

namespace CodecGen

open Drive

/-! ## Types with other tags -/

section

variable (f : String → String)

/-- The shape of a type does not depend on tags. -/
@[simp] theorem GoType.shape_mapTags (t : GoType) : (t.mapTags f).shape = t.shape := by
  cases t <;> rfl

/-- The kind of a declaration does not depend on tags. -/
@[simp] theorem DeclKind.of_mapTags (t : GoType) : DeclKind.of (t.mapTags f) = DeclKind.of t := by
  cases t <;> rfl

namespace Signature

/-- The signature of a name does not depend on tags. -/
@[simp] theorem ofName_mapTags (pointer : Bool) (t : GoType) :
    ofName pointer (t.mapTags f) = ofName pointer t := by
  cases t with
  | selector qualifier name => cases qualifier <;> rfl
  | _ => rfl

/-- The signature of the type of a field does not depend on the tags in it. -/
@[simp] theorem ofField_mapTags (t : GoType) : ofField (t.mapTags f) = ofField t := by
  cases t with
  | pointer elem => exact ofName_mapTags f true elem
  | selector qualifier name => exact ofName_mapTags f false (.selector qualifier name)
  | _ => rfl

/-- The signature of the type of elements does not depend on the tags in it. -/
@[simp] theorem ofArrayElement_mapTags (t : GoType) :
    ofArrayElement (t.mapTags f) = ofArrayElement t := by
  cases t with
  | pointer elem => cases elem <;> rfl
  | _ => rfl

end Signature

/-- What is noted about the type of keys does not depend on tags. -/
theorem noteKeyType_mapTags (owner : String) (key : GoType) :
    noteKeyType owner (key.mapTags f) = noteKeyType owner key := by
  cases key <;> rfl

end

/-! ## Fields with other tags -/

/-- Two visits to a field lead to the same code: the signatures are the same, and so is what the
tags decide. -/
inductive FieldVisit.SameCode (r : TagRules) : FieldVisit → FieldVisit → Prop
  | embedded (type type' : GoType) : SameCode r (.embedded type) (.embedded type')
  | named {name : String} {field field' : Field}
      (hsignature : Signature.ofField field.type = Signature.ofField field'.type)
      (hpolicy : r.policy field.tag = r.policy field'.tag) :
      SameCode r (.named name field) (.named name field')

section

variable {s : Setting} (owner : String) {visits visits' : List FieldVisit}

/-- A field is written by the signature of its type. -/
theorem writeField_eq_of_ofField {field field' : Field}
    (h : Signature.ofField field.type = Signature.ofField field'.type) (name : String)
    (policy : Policy) (d : Direction) :
    writeField s owner name field policy d = writeField s owner name field' policy d := by
  unfold writeField
  rw [h]

/-- The encoding pass writes the same for visits that lead to the same code, notes aside. -/
theorem encodeFields_sameCode (h : List.Forall₂ (FieldVisit.SameCode s.rules) visits visits') :
    Same (encodeFields s owner visits) (encodeFields s owner visits') := by
  induction h with
  | nil => exact Same.refl _
  | @cons visit visit' visits visits' hvisit _ ih =>
    cases hvisit with
    | embedded type type' =>
      exact (same_note_note _ _ _ _).bind fun _ => ih
    | @named name field field' hsignature hpolicy =>
      rw [encodeFields, encodeFields, hpolicy]
      refine (same_leave_leave _ _).bind fun _ => ?_
      split
      · exact Same.after _ fun _ => ih
      · rw [writeField_eq_of_ofField owner hsignature]
        refine Same.after _ fun written => ?_
        cases written with
        | false => exact ih
        | true => exact ih.bind fun _ => Same.refl _

/-- So does the decoding pass. -/
theorem decodeFields_sameCode (taken : List String)
    (h : List.Forall₂ (FieldVisit.SameCode s.rules) visits visits') :
    Same (decodeFields s owner taken visits) (decodeFields s owner taken visits') := by
  induction h generalizing taken with
  | nil => exact Same.refl _
  | @cons visit visit' visits visits' hvisit _ ih =>
    cases hvisit with
    | embedded type type' =>
      exact (same_note_note _ _ _ _).bind fun _ => ih taken
    | @named name field field' hsignature hpolicy =>
      rw [decodeFields, decodeFields, hpolicy]
      refine (same_leave_leave _ _).bind fun _ => ?_
      split
      · exact Same.after _ fun _ => ih taken
      split
      · exact Same.after _ fun _ => ih taken
      · rw [writeField_eq_of_ofField owner hsignature]
        refine Same.after _ fun written => ?_
        cases written with
        | false => exact ih taken
        | true => exact (ih _).bind fun _ => Same.refl _

end

/-! ## Declarations with other tags -/

section

variable {f g : String → String} (hcontent : ∀ tag, Tag.content? (f tag) = Tag.content? (g tag))

include hcontent

/-- The fields of a struct lead to the same code under tags of the same contents. -/
theorem sameCode_fieldVisits (r : TagRules) (fields : List Field) :
    List.Forall₂ (FieldVisit.SameCode r) (fieldVisits (GoType.fieldsMapTags f fields))
      (fieldVisits (GoType.fieldsMapTags g fields)) := by
  induction fields with
  | nil => exact .nil
  | cons field fields ih =>
    obtain ⟨names, type, tag⟩ := field
    have hpolicy : r.policy (tag.map f) = r.policy (tag.map g) := by
      cases tag with
      | none => rfl
      | some tag => exact TagRules.policy_eq_of_content? (hcontent tag) r
    refine List.rel_append ?_ ih
    cases names with
    | nil => exact .cons (.embedded _ _) .nil
    | cons name names =>
      refine List.forall₂_map_left_iff.mpr (List.forall₂_map_right_iff.mpr ?_)
      refine List.forall₂_same.mpr fun name' _ => ?_
      exact .named (by simp) hpolicy

/-- A declaration contributes the same with tags of the same content. -/
theorem contribution_mapTags (s : Setting) (filter : TypeFilter) (name : String) (type : GoType) :
    TypeDecl.contribution s filter ⟨name, type.mapTags f⟩ =
      TypeDecl.contribution s filter ⟨name, type.mapTags g⟩ := by
  cases type with
  | struct fields =>
    have hvisits := sameCode_fieldVisits hcontent s.rules fields
    have hempty : (GoType.fieldsMapTags f fields).isEmpty =
        (GoType.fieldsMapTags g fields).isEmpty := by
      cases fields <;> rfl
    have hsame := emitStruct_same_of_passes name hempty (decodeFields_sameCode name [] hvisits)
      (encodeFields_sameCode name hvisits)
    refine contribution_eq_of_same ?_ ?_ ?_ ?_ hsame filter <;> rfl
  | array len elem =>
    have hsame : Same (emitArray s name (elem.mapTags f)) (emitArray s name (elem.mapTags g)) := by
      simp only [emitArray, Signature.ofArrayElement_mapTags]
      exact Same.refl _
    refine contribution_eq_of_same ?_ ?_ ?_ ?_ hsame filter <;> rfl
  | map key value =>
    have hsame : Same (emitMap s name (key.mapTags f) (value.mapTags f))
        (emitMap s name (key.mapTags g) (value.mapTags g)) := by
      simp only [emitMap, noteKeyType_mapTags, Signature.ofMapValue, Signature.ofField_mapTags]
      exact Same.refl _
    refine contribution_eq_of_same ?_ ?_ ?_ ?_ hsame filter <;> rfl
  | _ => rfl

end

/-! ## Packages with other tags -/

/-- Other tags do not change the kinds of declared names. -/
theorem TypeTable.kind?_ofPackage_mapTags (f : String → String) (p : Package) (name : String) :
    (ofPackage (p.mapTags f)).kind? name = (ofPackage p).kind? name := by
  rw [kind?_ofPackage, kind?_ofPackage]
  unfold Package.lastDecl? Package.mapTags
  rw [← List.map_reverse, List.find?_map, Option.map_map]
  simp [Function.comp_def]

/-- Packages whose tags have the same contents get the same report. -/
theorem generate_mapTags {f g : String → String}
    (hcontent : ∀ tag, Tag.content? (f tag) = Tag.content? (g tag)) (c : GenConfig)
    (filter : TypeFilter) (p : Package) :
    (generate c filter (p.mapTags f)).result = (generate c filter (p.mapTags g)).result := by
  have hkinds : ∀ name, (TypeTable.ofPackage (p.mapTags f)).kind? name =
      (TypeTable.ofPackage (p.mapTags g)).kind? name := by
    intro name
    rw [TypeTable.kind?_ofPackage_mapTags, TypeTable.kind?_ofPackage_mapTags]
  unfold generate
  rw [generateWith_agree fun name _ => hkinds name, generateWith_result, generateWith_result]
  unfold Package.mapTags
  simp only [List.map_map, Function.comp_def, contribution_mapTags hcontent]
  rfl

/-- A text that is filled in has the same content in either spelling. -/
theorem content?_fillIn (mark text tag : String) :
    Tag.content? (fillIn mark (Tag.rawLiteral text) tag) =
      Tag.content? (fillIn mark (Tag.interpretedLiteral text) tag) := by
  unfold fillIn
  split
  · rw [Tag.content?_rawLiteral, Tag.content?_interpretedLiteral]
  · rfl

/-- A raw literal that is the tag of a field means the same as the interpreted literal of its text.
With the latter in its place the source is read as a package that differs only in this tag, and the
two packages get the same report under every configuration. -/
theorem generate_interpretedTag {pre post text : String} {front back : List Token} {lit : Token}
    {p : Package} (htext : '\x60' ∉ text.toList)
    (hscan : Token.scan (pre ++ Tag.rawLiteral text ++ post).toList = .ok (front ++ lit :: back))
    (hplace : Token.source front ++ lit.gap = pre.toList)
    (hparse : (Package.parse (pre ++ Tag.rawLiteral text ++ post)).result = .ok p)
    (htag : p.HasTagAt front lit back) :
    ∃ p', (Package.parse (pre ++ Tag.interpretedLiteral text ++ post)).result = .ok p' ∧
      Package.DifferInTag front lit back (Tag.rawLiteral text) (Tag.interpretedLiteral text) p p' ∧
      ∀ (c : GenConfig) (filter : TypeFilter), ∃ r,
        (generate c filter p).result = .ok r ∧ (generate c filter p').result = .ok r := by
  obtain ⟨p', hparse', hdiffer⟩ :=
    Package.parse_interpretedTag htext hscan hplace hparse htag
  refine ⟨p', hparse', hdiffer, fun c filter => ?_⟩
  have hresult := generateWith_result c filter (.ofPackage p) p
  refine ⟨_, hresult, ?_⟩
  obtain ⟨mark, q, -, -, -, rfl, rfl⟩ := hdiffer
  exact (generate_mapTags (content?_fillIn mark text) c filter q).symm.trans hresult

/-- The words before the tag of the second field of a struct. -/
def wordsBeforeTag : List Token.Word :=
  [(.keyword .package, "package"), (.ident, "p"), (.newline, "\n"),
    (.keyword .typeDecl, "type"), (.ident, "T"), (.keyword .struct, "struct"), (.lbrace, "\x7b"),
    (.newline, "\n"), (.ident, "A"), (.ident, "int"), (.rawString, "\x60gojay:\"a\"\x60"),
    (.newline, "\n"), (.ident, "B"), (.ident, "string")]

/-- The words after it. -/
def wordsAfterTag : List Token.Word :=
  [(.newline, "\n"), (.rbrace, "\x7d"), (.newline, "\n")]

/-- The tag, over two lines and with quotes and a backslash in it. -/
def twoLineTag : String :=
  "gojay:\"b\\tc,omitempty\"\n"

/-- The package of the source with this tag, by the literal for it. -/
def twoLinePackage (tag : String) : Package :=
  ⟨"p", [⟨"T", .struct [⟨["A"], .ident "int", some "\x60gojay:\"a\"\x60"⟩,
    ⟨["B"], .ident "string", some tag⟩]⟩]⟩

set_option maxRecDepth 4000 in
/-- A tag over two lines leads to the same file as its interpreted literal. -/
theorem generate_interpretedTag_twoLineTag :
    let pre := String.ofList (Token.source (Token.row 1 wordsBeforeTag) ++ [' '])
    let post := String.ofList (Token.source (Token.row 5 wordsAfterTag))
    let front := Token.row 1 wordsBeforeTag
    let lit : Token := ⟨.rawString, [' '], (Tag.rawLiteral twoLineTag).toList, 4⟩
    let back := Token.row 5 wordsAfterTag
    let p := twoLinePackage (Tag.rawLiteral twoLineTag)
    '\x60' ∉ twoLineTag.toList ∧
      Token.scan (pre ++ Tag.rawLiteral twoLineTag ++ post).toList = .ok (front ++ lit :: back) ∧
      Token.source front ++ lit.gap = pre.toList ∧
      (Package.parse (pre ++ Tag.rawLiteral twoLineTag ++ post)).result = .ok p ∧
      p.HasTagAt front lit back ∧
      ∃ p', (Package.parse (pre ++ Tag.interpretedLiteral twoLineTag ++ post)).result = .ok p' ∧
        Package.DifferInTag front lit back (Tag.rawLiteral twoLineTag)
          (Tag.interpretedLiteral twoLineTag) p p' ∧
        ∃ r, (generate {} .all p).result = .ok r ∧ (generate {} .all p').result = .ok r := by
  intro pre post front lit back p
  have htext : '\x60' ∉ twoLineTag.toList := by decide +kernel
  have hlex : ∀ w ∈ wordsBeforeTag ++ (.rawString, Tag.rawLiteral twoLineTag) :: wordsAfterTag,
      Token.Lexes w.1 w.2.toList := by decide +kernel
  have hscan : Token.scan (pre ++ Tag.rawLiteral twoLineTag ++ post).toList =
      .ok (front ++ lit :: back) := by
    have hrow : Token.row 1 (wordsBeforeTag ++
        (.rawString, Tag.rawLiteral twoLineTag) :: wordsAfterTag) = front ++ lit :: back := rfl
    have hsource : (pre ++ Tag.rawLiteral twoLineTag ++ post).toList =
        Token.source (front ++ lit :: back) := by
      simp only [pre, post, front, lit, back, Token.source, String.toList_append,
        String.toList_ofList, List.flatMap_append, List.flatMap_cons, List.append_assoc]
    have hlaid := Token.scan_source (Token.laid_row hlex 1)
    rwa [List.append_nil, hrow, ← hsource] at hlaid
  have hplace : Token.source front ++ lit.gap = pre.toList := String.toList_ofList.symm
  have hparse : (Package.parse (pre ++ Tag.rawLiteral twoLineTag ++ post)).result = .ok p := by
    rw [Package.parse_of_scan hscan]
    rfl
  have htag : p.HasTagAt front lit back :=
    ⟨"\x60x\x60", twoLinePackage "\x60x\x60", rfl, by decide +kernel, by decide +kernel⟩
  obtain ⟨p', hparse', hdiffer, hsame⟩ :=
    generate_interpretedTag htext hscan hplace hparse htag
  exact ⟨htext, hscan, hplace, hparse, htag, p', hparse', hdiffer, hsame {} .all⟩

end CodecGen
