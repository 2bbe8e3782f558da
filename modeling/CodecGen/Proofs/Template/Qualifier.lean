import CodecGen.Proofs.Template.Verbatim
import CodecGen.Proofs.Text.Mention

/-!
# Packages that templates name

A template names a standard package only by the type of its entry, and only where it writes the type
out (`EntryKey.spells_iff`); frames name none (`Frame.isQuiet_template`). Everything else in them is
quiet: it has no point after the last letter of a package's name.
-/

namespace CodecGen

open Text (isQuiet hasInfix)

/-! ## Templates that name no package -/

/-- The last letter of the name that code has for a package. -/
def StdPackage.lastLetter : StdPackage → Char
  | databaseSql => 'l'
  | time => 'e'

/-- The name of a package in code ends with a letter and a point. -/
theorem StdPackage.qualifier_eq (p : StdPackage) :
    ∃ word, p.qualifier.toList = word ++ [p.lastLetter, '.'] := by
  cases p with
  | databaseSql => exact ⟨['s', 'q'], String.toList_ofList⟩
  | time => exact ⟨['t', 'i', 'm'], String.toList_ofList⟩

/-- A text could not end the name of the package. -/
def StdPackage.isQuietIn (p : StdPackage) (s : String) : Bool :=
  isQuiet p.lastLetter s.toList

/-- The fixed text of a piece does not name the package. -/
def Piece.isQuiet (p : StdPackage) : Piece → Bool
  | text s => p.isQuietIn s
  | hole _ | importLines _ => true

/-- No fixed text of a template names the package. -/
def Template.isQuiet (p : StdPackage) (t : Template) : Bool :=
  t.all (Piece.isQuiet p)

section

variable {p : StdPackage}

/-- Texts that do not name a package do not name it one after the other. -/
theorem StdPackage.isQuietIn_append {s s' : String} (h : p.isQuietIn s = true)
    (h' : p.isQuietIn s' = true) : p.isQuietIn (s ++ s') = true := by
  unfold isQuietIn
  rw [String.toList_append]
  exact Text.isQuiet_append h h'

/-- In a text that could not end the name of a package the name does not stand. -/
theorem StdPackage.hasInfix_of_isQuietIn {s : String} (h : p.isQuietIn s = true) :
    hasInfix p.qualifier.toList s.toList = false := by
  obtain ⟨word, hword⟩ := p.qualifier_eq
  rw [Bool.eq_false_iff, ne_eq, Text.hasInfix_iff, hword]
  exact Text.not_infix_of_isQuietAfter h word

/-- Templates are quiet one after another if each is. -/
@[simp] theorem Template.isQuiet_append (t u : Template) :
    (t ++ u).isQuiet p = (t.isQuiet p && u.isQuiet p) :=
  List.all_append

@[simp] theorem Template.isQuiet_text (s : String) : (Template.text s).isQuiet p = p.isQuietIn s :=
  Bool.and_true _

@[simp] theorem Template.isQuiet_hole (var : Var) : (Template.hole var).isQuiet p = true :=
  rfl

/-- Texts that stand next to each other in a template do not name the package together. -/
theorem Template.isQuietIn_of_mem_fixed {t : Template} (h : t.isQuiet p = true) :
    ∀ s ∈ t.fixed, p.isQuietIn s = true := by
  induction t with
  | nil =>
    intro s hs
    rw [List.mem_singleton.mp hs]
    rfl
  | cons piece t ih =>
    obtain ⟨hpiece, ht⟩ := Bool.and_eq_true_iff.mp h
    have hrest := ih ht
    cases piece with
    | text s =>
      intro s' hs'
      obtain ⟨s₀, ss, hfixed⟩ := List.exists_cons_of_ne_nil (fixed_ne_nil t)
      rw [hfixed] at hrest
      rw [fixed, hfixed] at hs'
      rcases List.mem_cons.mp hs' with rfl | hs'
      · exact StdPackage.isQuietIn_append hpiece (hrest s₀ List.mem_cons_self)
      · exact hrest s' (List.mem_cons_of_mem s₀ hs')
    | hole var | importLines var =>
      intro s hs
      rcases List.mem_cons.mp hs with rfl | hs
      · rfl
      · exact hrest s hs

/-- A template is without the name of a package if no text in it could end the name. -/
theorem Template.spells_of_isQuiet {t : Template} (h : t.isQuiet p = true) :
    t.spells p.qualifier = false := by
  unfold spells
  rw [List.any_eq_false]
  intro s hs
  rw [StdPackage.hasInfix_of_isQuietIn (isQuietIn_of_mem_fixed h s hs)]
  exact Bool.false_ne_true

/-- A word in a piece of fixed text is in a fixed text of the template. -/
theorem Template.spells_of_mem {t : Template} {s word : String} (hs : .text s ∈ t)
    (hword : word.toList <:+: s.toList) : t.spells word = true := by
  have hspells : ∀ {t : Template}, t.spells word = true ↔
      ∃ s ∈ t.fixed, word.toList <:+: s.toList := by
    intro t
    simp only [spells, List.any_eq_true, Text.hasInfix_iff]
  rw [hspells]
  induction t with
  | nil => cases hs
  | cons piece t ih =>
    rcases List.mem_cons.mp hs with rfl | hs
    · refine ⟨s ++ (fixed t).headD "", List.mem_cons_self, ?_⟩
      rw [String.toList_append]
      exact hword.trans (List.prefix_append _ _).isInfix
    · obtain ⟨s', hs', hin⟩ := ih hs
      cases piece with
      | hole var | importLines var => exact ⟨s', List.mem_cons_of_mem _ hs', hin⟩
      | text s₁ =>
        obtain ⟨s₀, ss, hfixed⟩ := List.exists_cons_of_ne_nil (fixed_ne_nil t)
        rw [hfixed] at hs'
        rw [fixed, hfixed]
        rcases List.mem_cons.mp hs' with rfl | hs'
        · refine ⟨s₁ ++ s', List.mem_cons_self, ?_⟩
          rw [String.toList_append]
          exact hin.trans (List.suffix_append _ _).isInfix
        · exact ⟨s', List.mem_cons_of_mem _ hs', hin⟩

end

namespace Style

/-- The type is written out: where a value is decoded that is not there yet. -/
def writesType (s : Style) : Slot → Direction → Bool
  | .field, .unmarshal => s.pointer
  | .entry, .unmarshal | .element, .unmarshal => true
  | _, .marshal => false

/-- The texts that a style is made of name no package, the type apart. -/
structure IsQuiet (s : Style) (p : StdPackage) : Prop where
  stem : p.isQuietIn s.stem = true
  letter : p.isQuietIn s.letter = true
  extra : s.extra.isQuiet p = true

variable {s : Style} {p : StdPackage}

/-- No mark before an argument names a package. -/
theorem isQuietIn_mark (p : StdPackage) (m : Passing) : p.isQuietIn m.mark = true := by
  cases p <;> cases m <;> decide

namespace IsQuiet

/-- A call of a codec method names no package by what stands around the stem. -/
theorem call (h : s.IsQuiet p) {head opened mark value : String} (hhead : p.isQuietIn head = true)
    (hopened : p.isQuietIn opened = true) (hmark : p.isQuietIn mark = true)
    (hvalue : p.isQuietIn value = true) :
    p.isQuietIn (head ++ s.stem ++ opened ++ mark ++ value) = true := by
  have hmethod : p.isQuietIn (head ++ s.stem ++ opened) = true :=
    StdPackage.isQuietIn_append (StdPackage.isQuietIn_append hhead h.stem) hopened
  exact StdPackage.isQuietIn_append (StdPackage.isQuietIn_append hmethod hmark) hvalue

/-- The end of a call names no package. -/
theorem callEnd (h : s.IsQuiet p) : s.callEnd.isQuiet p = true := by
  unfold Style.callEnd
  rw [Template.isQuiet_append, h.extra]
  cases p <;> decide

/-- Encoding a field names no package. -/
theorem fieldMarshal (h : s.IsQuiet p) : s.fieldMarshal.isQuiet p = true := by
  have hmethod : p.isQuietIn ("\tenc." ++ s.stem ++ "Key") = true := by
    refine StdPackage.isQuietIn_append (StdPackage.isQuietIn_append ?_ h.stem) ?_ <;>
      cases p <;> decide
  have homit : Template.isQuiet p (if s.omits then Template.hole .omitEmpty else []) = true := by
    split <;> rfl
  have hvalue : p.isQuietIn ("\", " ++ s.passing.mark ++ "v.") = true := by
    refine StdPackage.isQuietIn_append
      (StdPackage.isQuietIn_append ?_ (isQuietIn_mark p s.passing)) ?_ <;> cases p <;> decide
  unfold Style.fieldMarshal
  simp only [Template.isQuiet_append, Template.isQuiet_text, Template.isQuiet_hole, hmethod, homit,
    hvalue, h.callEnd, Bool.and_true, Bool.true_and]
  cases p <;> decide

/-- The target of a decoded field names no package but that of its type. -/
theorem fieldTarget (htype : s.type.isQuiet p = true) : s.fieldTarget.isQuiet p = true := by
  unfold Style.fieldTarget
  cases s.target <;> simp only [Template.isQuiet_append, Template.isQuiet_text,
    Template.isQuiet_hole, htype, Bool.and_true] <;> cases p <;> decide

/-- Decoding a field names a package only where it creates the value. -/
theorem fieldUnmarshal (h : s.IsQuiet p) (htype : s.pointer = true → s.type.isQuiet p = true) :
    s.fieldUnmarshal.isQuiet p = true := by
  have hguard : Template.isQuiet p (if s.pointer then
      Template.text "\t\tif v." ++ Template.hole .field ++
        Template.text " == nil \x7b\n\t\t\t" ++ s.fieldTarget ++ Template.text "\n\t\t\x7d\n"
      else []) = true := by
    split
    · rename_i hpointer
      simp only [Template.isQuiet_append, Template.isQuiet_text, Template.isQuiet_hole,
        fieldTarget (htype hpointer), Bool.and_true]
      cases p <;> decide
    · rfl
  have hcall : p.isQuietIn ("\t\treturn dec." ++ s.stem ++ "(" ++
      (if s.pointer then "" else "&") ++ "v.") = true := by
    refine h.call ?_ ?_ ?_ ?_
    case refine_3 => split <;> cases p <;> decide
    all_goals cases p <;> decide
  unfold Style.fieldUnmarshal
  simp only [Template.isQuiet_append, Template.isQuiet_text, Template.isQuiet_hole] at hguard ⊢
  simp only [hguard, hcall, h.callEnd, Bool.and_true, Bool.true_and]
  cases p <;> decide

/-- Encoding an entry of a map names no package. -/
theorem entryMarshal (h : s.IsQuiet p) : s.entryMarshal.isQuiet p = true := by
  have hloop : p.isQuietIn (if s.copies
      then "\tfor k := range v \x7b\n\t\t" ++ s.letter ++ " := v[k]\n"
      else "\tfor k, " ++ s.letter ++ " := range v \x7b\n") = true := by
    split <;> refine StdPackage.isQuietIn_append (StdPackage.isQuietIn_append ?_ h.letter) ?_ <;>
      cases p <;> decide
  have hcall : p.isQuietIn ("\t\tenc." ++ s.stem ++ "Key(k, " ++ s.passing.mark ++ s.letter) =
      true := by
    refine h.call ?_ ?_ (isQuietIn_mark p _) h.letter <;> cases p <;> decide
  unfold Style.entryMarshal
  simp only [Template.isQuiet_append, Template.isQuiet_text, hloop, hcall, h.callEnd, Bool.true_and]
  cases p <;> decide

/-- Encoding an element of an array names no package. -/
theorem elementMarshal (h : s.IsQuiet p) : s.elementMarshal.isQuiet p = true := by
  have hloop : p.isQuietIn (if s.byIndex then "\tfor i := range *v \x7b\n"
      else "\tfor _, " ++ s.letter ++ " := range *v \x7b\n") = true := by
    split
    · cases p <;> decide
    · refine StdPackage.isQuietIn_append (StdPackage.isQuietIn_append ?_ h.letter) ?_ <;>
        cases p <;> decide
  have hcall : p.isQuietIn ("\t\tenc." ++ s.stem ++ "(" ++ s.passing.mark ++
      (if s.byIndex then "(*v)[i]" else s.letter)) = true := by
    refine h.call ?_ ?_ (isQuietIn_mark p _) ?_
    case refine_3 =>
      split
      · cases p <;> decide
      · exact h.letter
    all_goals cases p <;> decide
  unfold Style.elementMarshal
  simp only [Template.isQuiet_append, Template.isQuiet_text, hloop, hcall, h.callEnd, Bool.true_and]
  cases p <;> decide

/-- Creating a value names no package but that of its type. -/
theorem creationText (htype : s.type.isQuiet p = true) : s.creationText.isQuiet p = true := by
  unfold Style.creationText
  cases s.creation <;> simp only [Template.isQuiet_append, Template.isQuiet_text, htype,
    Bool.and_true] <;> cases p <;> decide

/-- Decoding one value names no package but that of its type. -/
theorem decodeOne (h : s.IsQuiet p) (htype : s.type.isQuiet p = true) :
    s.decodeOne.isQuiet p = true := by
  have hvar : p.isQuietIn ("\tvar " ++ s.letter) = true := by
    refine StdPackage.isQuietIn_append ?_ h.letter
    cases p <;> decide
  have hcall : p.isQuietIn ("\n\tif err := dec." ++ s.stem ++ "(" ++
      (if s.creation = .pointer then "" else "&") ++ s.letter) = true := by
    refine h.call ?_ ?_ ?_ h.letter
    case refine_3 => split <;> cases p <;> decide
    all_goals cases p <;> decide
  unfold Style.decodeOne
  simp only [Template.isQuiet_append, Template.isQuiet_text, hvar, creationText htype, hcall,
    h.callEnd, Bool.true_and]
  cases p <;> decide

/-- Storing a decoded value names no package. -/
theorem stored (h : s.IsQuiet p) {head tail : String} (hhead : p.isQuietIn head = true)
    (htail : p.isQuietIn tail = true) : p.isQuietIn (head ++ s.stored ++ tail) = true := by
  have hvalue : p.isQuietIn s.stored = true := by
    unfold Style.stored
    split
    · refine StdPackage.isQuietIn_append ?_ h.letter
      cases p <;> decide
    · exact h.letter
  exact StdPackage.isQuietIn_append (StdPackage.isQuietIn_append hhead hvalue) htail

/-- Decoding an entry of a map names no package but that of its values. -/
theorem entryUnmarshal (h : s.IsQuiet p) (htype : s.type.isQuiet p = true) :
    s.entryUnmarshal.isQuiet p = true := by
  unfold Style.entryUnmarshal
  rw [Template.isQuiet_append, h.decodeOne htype, Template.isQuiet_text, h.stored] <;>
    cases p <;> decide

/-- Decoding an element of an array names no package but that of its elements. -/
theorem elementUnmarshal (h : s.IsQuiet p) (htype : s.type.isQuiet p = true) :
    s.elementUnmarshal.isQuiet p = true := by
  unfold Style.elementUnmarshal
  rw [Template.isQuiet_append, h.decodeOne htype, Template.isQuiet_text, h.stored] <;>
    cases p <;> decide

/-- A template names the package only by the type that it writes out. -/
theorem template (h : s.IsQuiet p) {slot : Slot} {d : Direction}
    (htype : s.writesType slot d = true → s.type.isQuiet p = true) :
    (s.template slot d).isQuiet p = true := by
  cases d with
  | marshal =>
    cases slot with
    | field => exact h.fieldMarshal
    | entry => exact h.entryMarshal
    | element => exact h.elementMarshal
  | unmarshal =>
    cases slot with
    | field => exact h.fieldUnmarshal htype
    | entry => exact h.entryUnmarshal (htype rfl)
    | element => exact h.elementUnmarshal (htype rfl)

end IsQuiet

/-- A type that is written out is a piece of the template. -/
theorem mem_template {s : Style} {ty : String} (htype : s.type = .text ty) {slot : Slot}
    {d : Direction} (h : s.writesType slot d = true) : Piece.text ty ∈ s.template slot d := by
  have hcreation : Piece.text ty ∈ s.creationText := by
    unfold creationText
    cases s.creation <;> simp [htype]
  have htarget : Piece.text ty ∈ s.fieldTarget := by
    unfold fieldTarget
    cases s.target <;> simp [htype]
  cases d with
  | marshal => cases slot <;> cases h
  | unmarshal =>
    cases slot with
    | field =>
      have hpointer : s.pointer = true := h
      simp [template, fieldUnmarshal, hpointer, htarget]
    | entry => simp [template, entryUnmarshal, decodeOne, hcreation]
    | element => simp [template, elementUnmarshal, decodeOne, hcreation]

end Style

/-! ## The packages of entries -/

/-- The stems of methods name no package. -/
theorem Primitive.isQuietIn_method (q : Primitive) (p : StdPackage) :
    p.isQuietIn q.method = true := by
  cases p <;> cases q <;> decide +kernel

/-- A primitive type of a package is spelled with its qualifier. -/
theorem Primitive.qualifier_isPrefix_spelling {q : Primitive} {p : StdPackage}
    (h : q.package? = some p) : p.qualifier.toList <+: q.spelling.toList := by
  revert h
  cases p <;> cases q <;> decide +kernel

/-- Spelling a primitive type names no package but its own. -/
theorem Primitive.isQuietIn_spelling {q : Primitive} {p : StdPackage}
    (h : q.package? ≠ some p) : p.isQuietIn q.spelling = true := by
  revert h
  cases p <;> cases q <;> decide +kernel

namespace EntryKey

variable (k : EntryKey) (p : StdPackage)

/-- The style of an entry names no package. -/
theorem isQuiet_style : k.style.IsQuiet p := by
  have hletters : p.isQuietIn "e" = true ∧ p.isQuietIn "t" = true ∧ p.isQuietIn "s" = true ∧
      p.isQuietIn "a" = true := by
    cases p <;> decide
  have hstems : p.isQuietIn "Object" = true ∧ p.isQuietIn "Array" = true ∧
      p.isQuietIn "Any" = true := by
    cases p <;> decide
  have hlayout : Template.isQuiet p (.text ", " ++ .hole .format) = true := by
    cases p <;> decide
  obtain ⟨base, pointer⟩ := k
  obtain ⟨he, ht, hs, ha⟩ := hletters
  obtain ⟨hobject, harray, hany⟩ := hstems
  cases base with
  | primitive q =>
    have hmethod := q.isQuietIn_method p
    unfold style
    dsimp only
    split
    · rename_i htime
      subst htime
      exact ⟨hmethod, ht, hlayout⟩
    split
    · exact ⟨hmethod, he, rfl⟩
    · exact ⟨hmethod, he, rfl⟩
  | wildcard w =>
    cases w with
    | struct => exact ⟨hobject, hs, rfl⟩
    | array => exact ⟨harray, ha, rfl⟩
    | any => exact ⟨hany, ha, rfl⟩

/-- The type of an entry is spelled as the primitive type that the entry is for. -/
theorem style_type (q : Primitive) (pointer : Bool) :
    (EntryKey.style ⟨.primitive q, pointer⟩).type = .text q.spelling := by
  unfold style
  dsimp only
  split
  · rename_i htime
    subst htime
    rfl
  split <;> rfl

variable {k p}

/-- A type that is of no package, or of another one, does not name the package. -/
theorem isQuiet_type (h : k.package? ≠ some p) : k.style.type.isQuiet p = true := by
  obtain ⟨base, pointer⟩ := k
  cases base with
  | primitive q =>
    rw [style_type, Template.isQuiet_text]
    exact Primitive.isQuietIn_spelling h
  | wildcard w => cases w <;> rfl

/-- An entry with a package is for a primitive type of it. -/
theorem eq_of_package? (h : k.package? = some p) :
    ∃ q pointer, k = ⟨.primitive q, pointer⟩ ∧ q.package? = some p := by
  obtain ⟨base, pointer⟩ := k
  cases base with
  | primitive q => exact ⟨q, pointer, rfl, h⟩
  | wildcard w => cases h

/-- A template that does not write out a type of the package does not name the package. -/
theorem isQuiet_template {slot : Slot} {d : Direction}
    (h : ¬(k.package? = some p ∧ k.style.writesType slot d = true)) :
    (k.template slot d).body.isQuiet p = true := by
  refine (k.isQuiet_style p).template fun hwrites => isQuiet_type fun hpackage => ?_
  exact h ⟨hpackage, hwrites⟩

/-- A template spells the qualifier of a package if and only if it writes out a type of it. -/
theorem spells_iff {slot : Slot} {d : Direction} :
    (k.template slot d).body.spells p.qualifier = true ↔
      k.package? = some p ∧ k.style.writesType slot d = true := by
  constructor
  · intro hspells
    by_contra hnot
    rw [Template.spells_of_isQuiet (isQuiet_template hnot)] at hspells
    cases hspells
  · rintro ⟨hpackage, hwrites⟩
    obtain ⟨q, pointer, rfl, hq⟩ := eq_of_package? hpackage
    exact Template.spells_of_mem (Style.mem_template (style_type q pointer) hwrites)
      (Primitive.qualifier_isPrefix_spelling hq).isInfix

/-- The package of a template is the one whose qualifier the template spells. -/
theorem package?_template {slot : Slot} {d : Direction} :
    (k.template slot d).package? = some p ↔
      (k.template slot d).body.spells p.qualifier = true := by
  show k.package?.filter (fun p => (k.style.template slot d).spells p.qualifier) = some p ↔ _
  rw [Option.filter_eq_some_iff]
  exact ⟨And.right, fun hspells => ⟨(spells_iff.mp hspells).1, hspells⟩⟩

end EntryKey

/-! ## Frames -/

namespace Frame

variable {p : StdPackage}

/-- The head of a method names a package only where one of its texts does. -/
theorem isQuiet_methodHead {comment receiver signature : String}
    (hcomment : p.isQuietIn comment = true) (hreceiver : p.isQuietIn receiver = true)
    (hsignature : p.isQuietIn signature = true) :
    (methodHead comment receiver signature).isQuiet p = true := by
  have hhead : p.isQuietIn ("\n// " ++ comment ++ "\nfunc (v " ++ receiver) = true := by
    refine StdPackage.isQuietIn_append (StdPackage.isQuietIn_append
      (StdPackage.isQuietIn_append ?_ hcomment) ?_) hreceiver <;> cases p <;> decide
  have hname : p.isQuietIn (") " ++ signature) = true := by
    refine StdPackage.isQuietIn_append ?_ hsignature
    cases p <;> decide
  unfold methodHead
  simp only [Template.isQuiet_append, Template.isQuiet_text, Template.isQuiet_hole, hhead, hname,
    Bool.and_true]

/-- No frame around the code for members names a package. -/
theorem isQuiet_template {f : Frame} (h : f ≠ .header) : f.template.isQuiet p = true := by
  cases f with
  | header => exact absurd rfl h
  | case | switchOpen | switchClose | unmarshalClose | marshalClose => cases p <;> decide +kernel
  | structNKeys =>
    rw [template, Template.isQuiet_append, Template.isQuiet_append, isQuiet_methodHead] <;>
      cases p <;> decide +kernel
  | _ => refine isQuiet_methodHead ?_ ?_ ?_ <;> cases p <;> decide +kernel

end Frame

end CodecGen
