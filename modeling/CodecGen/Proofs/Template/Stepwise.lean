import CodecGen.Proofs.Template.Verbatim
import CodecGen.Proofs.Token.Stepwise

/-!
# Templates read character by character

Where a filled template leads the machine of `Token.run?`, given where the texts in its holes lead.
Every member template leads back to where it began (`EntryKey.leads?_template`), and every frame
from where it stands in a method to the next part of it (`Frame.leads?_template`).
-/

namespace CodecGen

open Package (Standing)
open Token (Place Point run? run?_concat)

/-! ## Holes -/

/-- Where the text for a hole leads to, by where in a token the hole is. -/
def Var.leads? : Var → Place → Option Place
  | .typeName, .between | .typeName, .operator | .owner, .between | .field, .dot => some .word
  | .key, .quoted => some .quoted
  | .omitEmpty, .word => some .word
  | .format, .between => some .word
  | .nKeys, .between => some .number
  | _, _ => none

/-- A text for a hole leads where it has to. -/
def Var.Suits (var : Var) (text : String) : Prop :=
  ∀ place place' s, var.leads? place = some place' → s.depth ≠ none →
    run? (place, s) text.toList = some (place', s)

/-- Where a piece of a template leads to. All holes are in statements. -/
def Piece.leads? : Piece → Point → Option Point
  | text s, point => run? point s.toList
  | hole var, (place, s) =>
    if s.depth = none then none else (var.leads? place).map (·, s)
  | importLines _, _ => none

namespace Template

/-- Where a template leads to. -/
def leads? (t : Template) (point : Point) : Option Point :=
  t.foldlM (fun at? piece => piece.leads? at?) point

/-- A template leads where its other pieces lead from where the first does. -/
theorem leads?_cons (piece : Piece) (t : Template) (point : Point) :
    leads? (piece :: t) point = (piece.leads? point).bind t.leads? :=
  List.foldlM_cons

/-- A template that is filled with suitable texts leads where the template does. -/
theorem run?_fill {t : Template} {point point' : Point} {value : Var → String}
    (h : t.leads? point = some point') (hvalue : ∀ var ∈ t.vars, var.Suits (value var)) :
    run? point (t.fill value).toList = some point' := by
  induction t generalizing point with
  | nil =>
    cases h
    rfl
  | cons piece t ih =>
    rw [leads?_cons] at h
    obtain ⟨middle, hpiece, hrest⟩ := Option.bind_eq_some_iff.mp h
    cases piece with
    | text s =>
      have hfirst : run? point s.toList = some middle := hpiece
      rw [fill_text, String.toList_append, Token.run?_append, hfirst]
      exact ih hrest hvalue
    | hole var =>
      obtain ⟨place, s⟩ := point
      simp only [Piece.leads?] at hpiece
      by_cases hdepth : s.depth = none
      · rw [if_pos hdepth] at hpiece
        cases hpiece
      rw [if_neg hdepth] at hpiece
      obtain ⟨place', hplace, rfl⟩ := Option.map_eq_some_iff.mp hpiece
      have hfirst := hvalue var List.mem_cons_self place place' s hplace hdepth
      rw [fill_hole, String.toList_append, Token.run?_append, hfirst]
      exact ih hrest fun v hv => hvalue v (List.mem_cons_of_mem _ hv)
    | importLines var => cases hpiece

end Template

/-! ## Suitable texts -/

section

variable {text : String}

/-- A word suits where the name of a type is asked for. -/
theorem Var.suits_typeName (h : Token.isWord text.toList = true) : Var.Suits .typeName text := by
  intro place place' s hplace hdepth
  cases place <;> cases hplace <;> exact Token.run?_word rfl hdepth h

/-- A word suits where the declared type is asked for. -/
theorem Var.suits_owner (h : Token.isWord text.toList = true) : Var.Suits .owner text := by
  intro place place' s hplace hdepth
  cases place <;> cases hplace
  exact Token.run?_word rfl hdepth h

/-- A word suits where a field is asked for. -/
theorem Var.suits_field (h : Token.isWord text.toList = true) : Var.Suits .field text := by
  intro place place' s hplace hdepth
  cases place <;> cases hplace
  exact Token.run?_word rfl hdepth h

/-- A plain text suits where a key is asked for. -/
theorem Var.suits_key (h : Tag.isPlainText text = true) : Var.Suits .key text := by
  intro place place' s hplace hdepth
  cases place <;> cases hplace
  exact Token.run?_quoted h

/-- What may go on with a word suits where the rest of the name of a method is asked for. -/
theorem Var.suits_omitEmpty (h : text.toList.all Token.isIdentPart = true) :
    Var.Suits .omitEmpty text := by
  intro place place' s hplace hdepth
  cases place <;> cases hplace
  exact Token.run?_wordParts h

/-- Words with dots between them suit where a layout is asked for. -/
theorem Var.suits_format (h : Token.isDotted text.toList = true) : Var.Suits .format text := by
  intro place place' s hplace hdepth
  cases place <;> cases hplace
  exact Token.run?_dotted rfl hdepth h

/-- A number suits where the number of keys is asked for. -/
theorem Var.suits_nKeys (n : Nat) : Var.Suits .nKeys (toString n) := by
  intro place place' s hplace hdepth
  cases place <;> cases hplace
  exact Token.run?_number hdepth n

end

/-! ## Member templates -/

/-- How many brackets are open around the code for a member in its method. The code that decodes a
field stands in a switch. -/
def Slot.depth (slot : Slot) (d : Direction) : Nat :=
  if slot = .field ∧ d = .unmarshal then 2 else 1

/-- A point in a method, with so many brackets open. -/
abbrev inside (place : Place) (depth : Nat) : Point :=
  (place, ⟨0, some depth⟩)

namespace Template

variable {t u : Template} {point middle point' : Point}

/-- Templates one after another lead where the second leads from where the first does. -/
theorem leads?_append (ht : t.leads? point = some middle) (hu : u.leads? middle = some point') :
    (t ++ u).leads? point = some point' := by
  unfold leads? at ht ⊢
  rw [List.foldlM_append, ht]
  exact hu

/-- A fixed text leads where the machine goes with it. -/
theorem leads?_text {s : String} (h : run? point s.toList = some point') :
    (text s).leads? point = some point' := by
  rw [leads?_cons, Piece.leads?, h]
  rfl

end Template

/-- A word may follow the operator before a value. -/
theorem Passing.mark_leads (p : Passing) : ∃ place : Place, place.beforeWord = true ∧
    run? (inside .between 3) p.mark.toList = some (inside place 3) := by
  cases p with
  | asIs => exact ⟨.between, rfl, rfl⟩
  | target => exact ⟨.between, rfl, rfl⟩
  | address => exact ⟨.operator, rfl, rfl⟩

namespace Style

open Template (leads?_append leads?_text)

/-- The texts of a style are read as what they stand for: words, the spelling of a type, and further
arguments. -/
structure IsLegible (s : Style) : Prop where
  /-- The stem of the methods is a word. -/
  stem : Token.isWord s.stem.toList = true
  /-- The name for one value is a word. -/
  letter : Token.isWord s.letter.toList = true
  /-- The type ends in a word. -/
  type : ∀ place depth, place = .between ∨ place = .operator →
    s.type.leads? (inside place depth) = some (inside .word depth)
  /-- A call goes through its end. -/
  callEnd : ∀ place depth, place = .between ∨ place = .word →
    s.callEnd.leads? (inside place (depth + 1)) = some (inside .between depth)

variable {s : Style}

/-- The stem of a legible style is a word after a dot. -/
theorem IsLegible.run?_stem (h : s.IsLegible) (depth : Nat) :
    run? (inside .dot depth) s.stem.toList = some (inside .word depth) :=
  Token.run?_word rfl (Option.some_ne_none _) h.stem

/-- The name for one value in a legible style is a word where one may begin. -/
theorem IsLegible.run?_letter (h : s.IsLegible) {place : Place} (hplace : place.beforeWord = true)
    (depth : Nat) : run? (inside place depth) s.letter.toList = some (inside .word depth) :=
  Token.run?_word hplace (Option.some_ne_none _) h.letter

/-- The statement that encodes a field is read as one. -/
theorem fieldMarshal_leads (h : s.IsLegible) :
    s.fieldMarshal.leads? (inside .between 1) = some (inside .between 1) := by
  have hcall : run? (inside .between 1) ("\tenc." ++ s.stem ++ "Key").toList =
      some (inside .word 1) :=
    run?_concat (run?_concat rfl (h.run?_stem 1)) rfl
  have homit : Template.leads? (if s.omits then Template.hole .omitEmpty else []) (inside .word 1) =
      some (inside .word 1) := by
    cases s.omits <;> rfl
  have hopen : run? (inside .word 1) "(\"".toList = some (inside .quoted 2) := rfl
  have hkey : (Template.hole .key).leads? (inside .quoted 2) = some (inside .quoted 2) := rfl
  have hvalue : run? (inside .quoted 2) ("\", " ++ s.passing.mark ++ "v.").toList =
      some (inside .dot 2) := by
    cases s.passing <;> rfl
  have hfield : (Template.hole .field).leads? (inside .dot 2) = some (inside .word 2) := rfl
  have hend : run? (inside .between 1) "\n".toList = some (inside .between 1) := rfl
  have hliteral := leads?_append (leads?_append (leads?_append (leads?_text hcall) homit)
    (leads?_text hopen)) hkey
  exact leads?_append (leads?_append (leads?_append (leads?_append hliteral (leads?_text hvalue))
    hfield) (h.callEnd .word 1 (.inr rfl))) (leads?_text hend)

/-- What sets up the target of a field ends in a word or after one. -/
theorem fieldTarget_leads (h : s.IsLegible) :
    ∃ place, (place = .between ∨ place = .word) ∧
      s.fieldTarget.leads? (inside .between 3) = some (inside place 3) := by
  have hname : run? (inside .between 3) "v.".toList = some (inside .dot 3) := rfl
  have hfield : (Template.hole .field).leads? (inside .dot 3) = some (inside .word 3) := rfl
  have hassigned := leads?_append (leads?_text hname) hfield
  unfold fieldTarget
  cases s.target with
  | zero =>
    have hnew : run? (inside .word 3) " = new(".toList = some (inside .between 4) := rfl
    have hclose : run? (inside .word 4) ")".toList = some (inside .between 3) := rfl
    exact ⟨.between, .inl rfl, leads?_append (leads?_append (leads?_append hassigned
      (leads?_text hnew)) (h.type .between 4 (.inl rfl))) (leads?_text hclose)⟩
  | literal | pointer =>
    have haddress : run? (inside .word 3) " = &".toList = some (inside .operator 3) := rfl
    have hbraces : run? (inside .word 3) "\x7b\x7d".toList = some (inside .between 3) := rfl
    exact ⟨.between, .inl rfl, leads?_append (leads?_append (leads?_append hassigned
      (leads?_text haddress)) (h.type .operator 3 (.inr rfl))) (leads?_text hbraces)⟩
  | make =>
    have hmake : run? (inside .between 3) "arr := make(".toList = some (inside .between 4) := rfl
    have hclose : run? (inside .word 4) ", 0)\n\t\t\tv.".toList = some (inside .dot 3) := rfl
    have haddress : run? (inside .word 3) " = &arr".toList = some (inside .word 3) := rfl
    exact ⟨.word, .inr rfl, leads?_append (leads?_append (leads?_append (leads?_append
      (leads?_text hmake) (h.type .between 4 (.inl rfl))) (leads?_text hclose)) hfield)
      (leads?_text haddress)⟩

/-- The statements that decode a field are read as such. -/
theorem fieldUnmarshal_leads (h : s.IsLegible) :
    s.fieldUnmarshal.leads? (inside .between 2) = some (inside .between 2) := by
  -- a pointer is made before it is decoded into, in a block of its own
  have hguard : Template.leads? (if s.pointer then
      Template.text "\t\tif v." ++ Template.hole .field ++
        Template.text " == nil \x7b\n\t\t\t" ++ s.fieldTarget ++ Template.text "\n\t\t\x7d\n"
      else []) (inside .between 2) = some (inside .between 2) := by
    cases s.pointer with
    | false => rfl
    | true =>
      have hif : run? (inside .between 2) "\t\tif v.".toList = some (inside .dot 2) := rfl
      have hfield : (Template.hole .field).leads? (inside .dot 2) = some (inside .word 2) := rfl
      have hnil : run? (inside .word 2) " == nil \x7b\n\t\t\t".toList =
          some (inside .between 3) := rfl
      obtain ⟨place, hplace, htarget⟩ := fieldTarget_leads h
      have hclose : run? (inside place 3) "\n\t\t\x7d\n".toList = some (inside .between 2) := by
        rcases hplace with rfl | rfl <;> rfl
      exact leads?_append (leads?_append (leads?_append (leads?_append (leads?_text hif) hfield)
        (leads?_text hnil)) htarget) (leads?_text hclose)
  have hreturn : run? (inside .between 2) "\t\treturn dec.".toList = some (inside .dot 2) := rfl
  have hopen : run? (inside .word 2) "(".toList = some (inside .between 3) := rfl
  have hcall : run? (inside .between 2)
      ("\t\treturn dec." ++ s.stem ++ "(" ++ (if s.pointer then "" else "&") ++ "v.").toList =
        some (inside .dot 3) := by
    have hargument := run?_concat (run?_concat hreturn (h.run?_stem 2)) hopen
    cases s.pointer with
    | false =>
      have hmark : run? (inside .between 3) "&".toList = some (inside .operator 3) := rfl
      exact run?_concat (run?_concat hargument hmark) rfl
    | true =>
      have hmark : run? (inside .between 3) "".toList = some (inside .between 3) := rfl
      exact run?_concat (run?_concat hargument hmark) rfl
  have hfield : (Template.hole .field).leads? (inside .dot 3) = some (inside .word 3) := rfl
  have hend : run? (inside .between 2) "\n".toList = some (inside .between 2) := rfl
  exact leads?_append (leads?_append (leads?_append (leads?_append hguard (leads?_text hcall))
    hfield) (h.callEnd .word 2 (.inr rfl))) (leads?_text hend)

/-- The loop that encodes the entries of a map is read as statements. -/
theorem entryMarshal_leads (h : s.IsLegible) :
    s.entryMarshal.leads? (inside .between 1) = some (inside .between 1) := by
  have hloop : run? (inside .between 1) (if s.copies then
      "\tfor k := range v \x7b\n\t\t" ++ s.letter ++ " := v[k]\n"
      else "\tfor k, " ++ s.letter ++ " := range v \x7b\n").toList = some (inside .between 2) := by
    cases s.copies with
    | true =>
      have hfor : run? (inside .between 1) "\tfor k := range v \x7b\n\t\t".toList =
          some (inside .between 2) := rfl
      exact run?_concat (run?_concat hfor (h.run?_letter rfl 2)) rfl
    | false =>
      have hfor : run? (inside .between 1) "\tfor k, ".toList = some (inside .between 1) := rfl
      exact run?_concat (run?_concat hfor (h.run?_letter rfl 1)) rfl
  have hstem : run? (inside .between 2) ("\t\tenc." ++ s.stem).toList = some (inside .word 2) :=
    run?_concat rfl (h.run?_stem 2)
  have hkey : run? (inside .word 2) "Key(k, ".toList = some (inside .between 3) := rfl
  have hcall : run? (inside .between 2)
      ("\t\tenc." ++ s.stem ++ "Key(k, " ++ s.passing.mark ++ s.letter).toList =
        some (inside .word 3) := by
    obtain ⟨place, hplace, hmark⟩ := s.passing.mark_leads
    exact run?_concat (run?_concat (run?_concat hstem hkey) hmark)
      (h.run?_letter hplace 3)
  have hend : run? (inside .between 2) "\n\t\x7d\n".toList = some (inside .between 1) := rfl
  exact leads?_append (leads?_append (leads?_append (leads?_text hloop) (leads?_text hcall))
    (h.callEnd .word 2 (.inr rfl))) (leads?_text hend)

/-- The loop that encodes the elements of an array is read as statements. -/
theorem elementMarshal_leads (h : s.IsLegible) :
    s.elementMarshal.leads? (inside .between 1) = some (inside .between 1) := by
  have hloop : run? (inside .between 1) (if s.byIndex then "\tfor i := range *v \x7b\n"
      else "\tfor _, " ++ s.letter ++ " := range *v \x7b\n").toList =
        some (inside .between 2) := by
    cases s.byIndex with
    | true =>
      show run? (inside .between 1) "\tfor i := range *v \x7b\n".toList = _
      rfl
    | false =>
      have hfor : run? (inside .between 1) "\tfor _, ".toList = some (inside .between 1) := rfl
      exact run?_concat (run?_concat hfor (h.run?_letter rfl 1)) rfl
  have hopen : run? (inside .word 2) "(".toList = some (inside .between 3) := rfl
  have hcall : ∃ place, (place = .between ∨ place = .word) ∧ run? (inside .between 2)
      ("\t\tenc." ++ s.stem ++ "(" ++ s.passing.mark ++
        (if s.byIndex then "(*v)[i]" else s.letter)).toList = some (inside place 3) := by
    have hstem : run? (inside .between 2) ("\t\tenc." ++ s.stem).toList = some (inside .word 2) :=
      run?_concat rfl (h.run?_stem 2)
    obtain ⟨mark, hmark, hmarked⟩ := s.passing.mark_leads
    have hargument := run?_concat (run?_concat hstem hopen) hmarked
    cases s.byIndex with
    | true =>
      have hitem : run? (inside mark 3) "(*v)[i]".toList = some (inside .between 3) := by
        cases mark <;> first | rfl | cases hmark
      exact ⟨.between, .inl rfl, run?_concat hargument hitem⟩
    | false => exact ⟨.word, .inr rfl, run?_concat hargument (h.run?_letter hmark 3)⟩
  have hend : run? (inside .between 2) "\n\t\x7d\n".toList = some (inside .between 1) := rfl
  obtain ⟨place, hplace, hcall⟩ := hcall
  exact leads?_append (leads?_append (leads?_append (leads?_text hloop) (leads?_text hcall))
    (h.callEnd place 2 hplace)) (leads?_text hend)

/-- What declares a value to decode into ends in a word or after one. -/
theorem creationText_leads (h : s.IsLegible) :
    ∃ place, (place = .between ∨ place = .word) ∧
      s.creationText.leads? (inside .word 1) = some (inside place 1) := by
  unfold creationText
  cases s.creation with
  | zero =>
    have hspace : run? (inside .word 1) " ".toList = some (inside .between 1) := rfl
    exact ⟨.word, .inr rfl, leads?_append (leads?_text hspace) (h.type .between 1 (.inl rfl))⟩
  | literal =>
    have hassign : run? (inside .word 1) " = ".toList = some (inside .between 1) := rfl
    have hbraces : run? (inside .word 1) "\x7b\x7d".toList = some (inside .between 1) := rfl
    exact ⟨.between, .inl rfl, leads?_append (leads?_append (leads?_text hassign)
      (h.type .between 1 (.inl rfl))) (leads?_text hbraces)⟩
  | pointer =>
    have haddress : run? (inside .word 1) " = &".toList = some (inside .operator 1) := rfl
    have hbraces : run? (inside .word 1) "\x7b\x7d".toList = some (inside .between 1) := rfl
    exact ⟨.between, .inl rfl, leads?_append (leads?_append (leads?_text haddress)
      (h.type .operator 1 (.inr rfl))) (leads?_text hbraces)⟩
  | make =>
    have hmake : run? (inside .word 1) " = make(".toList = some (inside .between 2) := rfl
    have hclose : run? (inside .word 2) ", 0)".toList = some (inside .between 1) := rfl
    exact ⟨.between, .inl rfl, leads?_append (leads?_append (leads?_text hmake)
      (h.type .between 2 (.inl rfl))) (leads?_text hclose)⟩

/-- The statements that decode one value are read as such. -/
theorem decodeOne_leads (h : s.IsLegible) :
    s.decodeOne.leads? (inside .between 1) = some (inside .between 1) := by
  have hvar : run? (inside .between 1) ("\tvar " ++ s.letter).toList = some (inside .word 1) :=
    run?_concat (rfl : run? (inside .between 1) "\tvar ".toList =
      some (inside .between 1)) (h.run?_letter rfl 1)
  obtain ⟨place, hplace, hcreation⟩ := creationText_leads h
  have hopen : run? (inside .word 1) "(".toList = some (inside .between 2) := rfl
  have hcall : run? (inside place 1) ("\n\tif err := dec." ++ s.stem ++ "(" ++
      (if s.creation = .pointer then "" else "&") ++ s.letter).toList = some (inside .word 2) := by
    have hif : run? (inside place 1) "\n\tif err := dec.".toList = some (inside .dot 1) := by
      rcases hplace with rfl | rfl <;> rfl
    have hargument := run?_concat (run?_concat hif (h.run?_stem 1)) hopen
    by_cases hpointer : s.creation = .pointer
    · have hmark : run? (inside .between 2) "".toList = some (inside .between 2) := rfl
      rw [if_pos hpointer]
      exact run?_concat (run?_concat hargument hmark) (h.run?_letter rfl 2)
    · have hmark : run? (inside .between 2) "&".toList = some (inside .operator 2) := rfl
      rw [if_neg hpointer]
      exact run?_concat (run?_concat hargument hmark) (h.run?_letter rfl 2)
  have hend : run? (inside .between 1) "; err != nil \x7b\n\t\treturn err\n\t\x7d\n".toList =
      some (inside .between 1) := rfl
  exact leads?_append (leads?_append (leads?_append (leads?_append (leads?_text hvar) hcreation)
    (leads?_text hcall)) (h.callEnd .word 1 (.inr rfl))) (leads?_text hend)

/-- What is stored of a decoded value is read through a word. -/
theorem stored_leads (h : s.IsLegible) {depth : Nat} (hdepth : depth = 1 ∨ depth = 2) :
    run? (inside .between depth) s.stored.toList = some (inside .word depth) := by
  unfold stored
  split
  · have hmark : run? (inside .between depth) "&".toList = some (inside .operator depth) := by
      rcases hdepth with rfl | rfl <;> rfl
    exact run?_concat hmark (h.run?_letter rfl depth)
  · exact h.run?_letter rfl depth

/-- The statements that decode an entry of a map are read as such. -/
theorem entryUnmarshal_leads (h : s.IsLegible) :
    s.entryUnmarshal.leads? (inside .between 1) = some (inside .between 1) := by
  have hput : run? (inside .between 1) "\tv[k] = ".toList = some (inside .between 1) := rfl
  have hend : run? (inside .word 1) "\n".toList = some (inside .between 1) := rfl
  exact leads?_append (decodeOne_leads h)
    (leads?_text (run?_concat (run?_concat hput (stored_leads h (.inl rfl))) hend))

/-- The statements that decode an element of an array are read as such. -/
theorem elementUnmarshal_leads (h : s.IsLegible) :
    s.elementUnmarshal.leads? (inside .between 1) = some (inside .between 1) := by
  have hput : run? (inside .between 1) "\t*v = append(*v, ".toList = some (inside .between 2) := rfl
  have hend : run? (inside .word 2) ")\n".toList = some (inside .between 1) := rfl
  exact leads?_append (decodeOne_leads h)
    (leads?_text (run?_concat (run?_concat hput (stored_leads h (.inr rfl))) hend))

/-- The template for members leads back to where it began. -/
theorem template_leads (h : s.IsLegible) (slot : Slot) (d : Direction) :
    (s.template slot d).leads? (inside .between (slot.depth d)) =
      some (inside .between (slot.depth d)) := by
  cases slot <;> cases d
  · exact fieldMarshal_leads h
  · exact fieldUnmarshal_leads h
  · exact entryMarshal_leads h
  · exact entryUnmarshal_leads h
  · exact elementMarshal_leads h
  · exact elementUnmarshal_leads h

end Style

/-! ## Entries -/

/-- Methods are given nothing after the value, or a layout. -/
theorem Style.callEnd_leads {s : Style} (h : s.extra = [] ∨ s.extra = .text ", " ++ .hole .format)
    (place : Place) (depth : Nat) (hplace : place = .between ∨ place = .word) :
    s.callEnd.leads? (inside place (depth + 1)) = some (inside .between depth) := by
  unfold callEnd
  rcases h with h | h <;> rw [h] <;> rcases hplace with rfl | rfl <;> rfl

/-- Every style of an entry has texts that are read as what they stand for. -/
theorem EntryKey.isLegible_style (k : EntryKey) : k.style.IsLegible := by
  obtain ⟨base, pointer⟩ := k
  have hname : ∀ place depth, place = .between ∨ place = .operator →
      (Template.hole .typeName).leads? (inside place depth) = some (inside .word depth) := by
    rintro place depth (rfl | rfl) <;> rfl
  have hspelling : ∀ p : Primitive, ∀ place depth, place = .between ∨ place = .operator →
      (Template.text p.spelling).leads? (inside place depth) = some (inside .word depth) := by
    intro p place depth hplace
    have hdotted : Token.isDotted p.spelling.toList = true := by cases p <;> rfl
    refine Template.leads?_text (Token.run?_dotted ?_ (Option.some_ne_none _) hdotted)
    rcases hplace with rfl | rfl <;> rfl
  have hmethod : ∀ p : Primitive, Token.isWord p.method.toList = true := by
    intro p
    cases p <;> rfl
  -- the texts of wildcards are fixed, those of primitives are made of their names
  cases base with
  | wildcard w =>
    cases w with
    | struct =>
      exact ⟨(by decide : Token.isWord "Object".toList = true),
        (by decide : Token.isWord "s".toList = true), hname, Style.callEnd_leads (.inl rfl)⟩
    | array =>
      exact ⟨(by decide : Token.isWord "Array".toList = true),
        (by decide : Token.isWord "a".toList = true), hname, Style.callEnd_leads (.inl rfl)⟩
    | any =>
      exact ⟨(by decide : Token.isWord "Any".toList = true),
        (by decide : Token.isWord "a".toList = true), hname, Style.callEnd_leads (.inl rfl)⟩
  | primitive p =>
    unfold EntryKey.style
    dsimp only
    split_ifs with htime hnull
    · exact ⟨hmethod .time, (by decide : Token.isWord "t".toList = true), hspelling .time,
        Style.callEnd_leads (.inr rfl)⟩
    · exact ⟨hmethod p, (by decide : Token.isWord "e".toList = true), hspelling p,
        Style.callEnd_leads (.inl rfl)⟩
    · exact ⟨hmethod p, (by decide : Token.isWord "e".toList = true), hspelling p,
        Style.callEnd_leads (.inl rfl)⟩

/-- The code for a member leads back to where it began. -/
theorem EntryKey.leads?_template (k : EntryKey) (slot : Slot) (d : Direction) :
    (k.template slot d).body.leads? (inside .between (slot.depth d)) =
      some (inside .between (slot.depth d)) :=
  Style.template_leads k.isLegible_style slot d

/-! ## Frames -/

/-- How many brackets are open before a frame in its method; none where it begins the method. -/
def Frame.before : Frame → Option Nat
  | .switchOpen | .unmarshalClose | .marshalClose => some 1
  | .case | .switchClose => some 2
  | _ => none

/-- How many brackets are open after a frame; none where it ends the method. -/
def Frame.after : Frame → Option Nat
  | .structUnmarshal | .structMarshal | .arrayUnmarshal | .arrayMarshal | .mapUnmarshal
  | .mapMarshal | .switchClose => some 1
  | .switchOpen | .case => some 2
  | _ => none

/-- How many methods begin with a frame. -/
def Frame.begun (f : Frame) : Nat :=
  if f.before = none then 1 else 0

/-- Every frame of a method leads from where it stands to the next part of the method. -/
theorem Frame.leads?_template {f : Frame} (hf : f ≠ .header) :
    f.template.leads? (.between, ⟨0, f.before⟩) = some (.between, ⟨f.begun, f.after⟩) := by
  cases f with
  | header => exact absurd rfl hf
  | _ => rfl

end CodecGen
