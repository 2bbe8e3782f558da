import CodecGen.Emit.Container
import CodecGen.Emit.Struct

/-!
# The text of emitted code

What the fragments of emitted code say, with every hole filled. The templates of members are
rendered from their style first (`Style.render?_fieldMarshal` and the like); an entry's style then
says what the type and the extra arguments are.
-/

namespace CodecGen

/-! ## Frames -/

/-- A frame whose template is rendered has this text. -/
theorem Fragment.render_frame {f : Frame} {values : List (Var × Value)} {text : String}
    (h : f.template.render? (fun var => values.lookup var) = some text) :
    (Fragment.frame f values).render = .ok text := by
  simp only [Fragment.render]
  rw [h]

/-- A case label has the key between double quotes. -/
theorem Frame.render?_case {env : Env} {key : String} (hkey : env .key = some (.text key)) :
    Frame.case.template.render? env = some ("\tcase \"" ++ key ++ "\":\n") := by
  simp [Frame.template, Piece.render?, hkey, Value.render, String.append_assoc]

/-- The method that counts keys returns the number that it is given. -/
theorem Frame.render?_structNKeys {env : Env} {typeName : String} {keys : Nat}
    (hname : env .typeName = some (.text typeName)) (hkeys : env .nKeys = some (.number keys)) :
    Frame.structNKeys.template.render? env =
      some ("\n// NKeys returns the number of keys to unmarshal\nfunc (v *" ++ typeName ++
        ") NKeys() int \x7b return " ++ toString keys ++ " \x7d\n") := by
  have hdigits : (Value.number keys).render = toString keys := by
    rw [Value.render]
    rfl
  have htext : (Value.text typeName).render = typeName := by
    rw [Value.render]
  simp [Frame.template, Frame.methodHead, Frame.nKeysComment, Piece.render?, hname, hkeys, hdigits,
    htext, String.append_assoc]

/-- The head of a method of the given type. -/
def headText (comment receiver signature typeName : String) : String :=
  "\n// " ++ comment ++ "\nfunc (v " ++ receiver ++ typeName ++ ") " ++ signature

/-- The head of a method names the type. -/
theorem Frame.render?_methodHead {env : Env} {typeName : String}
    (comment receiver signature : String) (hname : env .typeName = some (.text typeName)) :
    (Frame.methodHead comment receiver signature).render? env =
      some (headText comment receiver signature typeName) := by
  simp [Frame.methodHead, headText, Piece.render?, hname, Value.render, String.append_assoc]

/-- A frame that is the head of a method has the text of the head. -/
theorem Fragment.render_named_head {f : Frame} {comment receiver signature : String}
    (h : f.template = Frame.methodHead comment receiver signature) (typeName : String) :
    (Fragment.named f typeName).render = .ok (headText comment receiver signature typeName) := by
  refine render_frame ?_
  rw [h]
  exact Frame.render?_methodHead comment receiver signature rfl

/-- A frame without holes has its own text. -/
theorem Fragment.render_named_fixed {f : Frame} {text : String}
    (h : f.template = Template.text text) (typeName : String) :
    (Fragment.named f typeName).render = .ok text := by
  refine render_frame ?_
  rw [h]
  simp [Piece.render?]

/-- The case label of a member names its key. -/
theorem FieldMember.render_label (m : FieldMember) (owner : String) :
    (m.label owner).render = .ok ("\tcase \"" ++ m.key ++ "\":\n") :=
  Fragment.render_frame (Frame.render?_case rfl)

/-- The method that counts the keys of a struct returns their number. -/
theorem render_keyCount (owner : String) (keys : Nat) :
    (keyCount owner keys).render = .ok
      ("\n// NKeys returns the number of keys to unmarshal\nfunc (v *" ++ owner ++
        ") NKeys() int \x7b return " ++ toString keys ++ " \x7d\n") :=
  Fragment.render_frame (Frame.render?_structNKeys rfl rfl)

/-! ## Templates of a style -/

namespace Style

/-- The text that sets up the target of a pointer field of the given type. -/
def setupText (s : Style) (field type : String) : String :=
  match s.target with
  | .zero => "v." ++ field ++ " = new(" ++ type ++ ")"
  | .literal | .pointer => "v." ++ field ++ " = &" ++ type ++ "\x7b\x7d"
  | .make => "arr := make(" ++ type ++ ", 0)\n\t\t\tv." ++ field ++ " = &arr"

/-- The text that gives a pointer field a target if it has none. -/
def guardText (s : Style) (field type : String) : String :=
  if s.pointer then
    "\t\tif v." ++ field ++ " == nil \x7b\n\t\t\t" ++ s.setupText field type ++ "\n\t\t\x7d\n"
  else ""

/-- The operator before a field that is handed to a decoder. -/
def fieldMark (s : Style) : String :=
  if s.pointer then "" else "&"

/-- The head of the loop that encodes the values of a map. -/
def entryLoop (s : Style) : String :=
  if s.copies then "\tfor k := range v \x7b\n\t\t" ++ s.letter ++ " := v[k]\n"
  else "\tfor k, " ++ s.letter ++ " := range v \x7b\n"

/-- The head of the loop that encodes the elements of an array. -/
def elementLoop (s : Style) : String :=
  if s.byIndex then "\tfor i := range *v \x7b\n"
  else "\tfor _, " ++ s.letter ++ " := range *v \x7b\n"

/-- How the loop over an array refers to an element. -/
def elementText (s : Style) : String :=
  if s.byIndex then "(*v)[i]" else s.letter

/-- What follows the name in the declaration of a value of the given type to decode into. -/
def creationOf (s : Style) (type : String) : String :=
  match s.creation with
  | .zero => " " ++ type
  | .literal => " = " ++ type ++ "\x7b\x7d"
  | .pointer => " = &" ++ type ++ "\x7b\x7d"
  | .make => " = make(" ++ type ++ ", 0)"

/-- The operator before a fresh value that is handed to a decoder. -/
def freshMark (s : Style) : String :=
  if s.creation = .pointer then "" else "&"

variable {s : Style} {env : Env} {type extra : String}

/-- A call ends with what it is given after the value, and a bracket. -/
theorem render?_callEnd (hextra : s.extra.render? env = some extra) :
    s.callEnd.render? env = some (extra ++ ")") := by
  simp [callEnd, hextra, Piece.render?]

/-- A field is encoded by one call of the encoder. -/
theorem render?_fieldMarshal {field key omitEmpty : String}
    (hfield : env .field = some (.text field)) (hkey : env .key = some (.text key))
    (homit : env .omitEmpty = some (.text omitEmpty))
    (hextra : s.extra.render? env = some extra) :
    s.fieldMarshal.render? env = some ("\tenc." ++ s.stem ++ "Key" ++
      (if s.omits then omitEmpty else "") ++ "(\"" ++ key ++ "\", " ++ s.passing.mark ++ "v." ++
      field ++ extra ++ ")\n") := by
  have hsuffix : Template.render? (if s.omits then Template.hole .omitEmpty else []) env =
      some (if s.omits then omitEmpty else "") := by
    cases s.omits <;> simp [Piece.render?, homit, Value.render]
  unfold fieldMarshal
  simp [render?_callEnd hextra, hsuffix, Piece.render?, hfield, hkey, Value.render,
    String.append_assoc]

/-- The target of a pointer field is set up by the kind of its style. -/
theorem render?_fieldTarget {field : String} (hfield : env .field = some (.text field))
    (htype : s.type.render? env = some type) :
    s.fieldTarget.render? env = some (s.setupText field type) := by
  unfold fieldTarget setupText
  cases s.target <;>
    simp [htype, Piece.render?, hfield, Value.render, String.append_assoc]

/-- A field is decoded by one call of the decoder, after its target is set up. -/
theorem render?_fieldUnmarshal {field : String} (hfield : env .field = some (.text field))
    (htype : s.type.render? env = some type) (hextra : s.extra.render? env = some extra) :
    s.fieldUnmarshal.render? env = some (s.guardText field type ++
      ("\t\treturn dec." ++ s.stem ++ "(" ++ s.fieldMark ++ "v." ++ field ++ extra ++ ")\n")) := by
  unfold fieldUnmarshal guardText fieldMark
  cases s.pointer <;>
    simp [render?_fieldTarget hfield htype, render?_callEnd hextra, Piece.render?, hfield,
      Value.render, String.append_assoc]

/-- The values of a map are encoded by a loop around one call of the encoder. -/
theorem render?_entryMarshal (hextra : s.extra.render? env = some extra) :
    s.entryMarshal.render? env = some (s.entryLoop ++ ("\t\tenc." ++ s.stem ++ "Key(k, " ++
      s.passing.mark ++ s.letter ++ extra ++ ")\n\t\x7d\n")) := by
  unfold entryMarshal entryLoop
  simp [render?_callEnd hextra, Piece.render?, String.append_assoc]

/-- The elements of an array are encoded by a loop around one call of the encoder. -/
theorem render?_elementMarshal (hextra : s.extra.render? env = some extra) :
    s.elementMarshal.render? env = some (s.elementLoop ++ ("\t\tenc." ++ s.stem ++ "(" ++
      s.passing.mark ++ s.elementText ++ extra ++ ")\n\t\x7d\n")) := by
  unfold elementMarshal elementLoop elementText
  simp [render?_callEnd hextra, Piece.render?, String.append_assoc]

/-- A value is created by the kind of its style. -/
theorem render?_creationText (htype : s.type.render? env = some type) :
    s.creationText.render? env = some (s.creationOf type) := by
  unfold creationText creationOf
  cases s.creation <;> simp [htype, Piece.render?, String.append_assoc]

/-- A value of a map or an array is decoded into a fresh variable by one call of the decoder. -/
theorem render?_decodeOne (htype : s.type.render? env = some type)
    (hextra : s.extra.render? env = some extra) :
    s.decodeOne.render? env = some ("\tvar " ++ s.letter ++ s.creationOf type ++
      ("\n\tif err := dec." ++ s.stem ++ "(" ++ s.freshMark ++ s.letter ++ extra ++
        "); err != nil \x7b\n\t\treturn err\n\t\x7d\n")) := by
  unfold decodeOne freshMark
  simp [render?_creationText htype, render?_callEnd hextra, Piece.render?, String.append_assoc]

/-- A decoded value of a map is put under its key. -/
theorem render?_entryUnmarshal (htype : s.type.render? env = some type)
    (hextra : s.extra.render? env = some extra) :
    s.entryUnmarshal.render? env = some ("\tvar " ++ s.letter ++ s.creationOf type ++
      ("\n\tif err := dec." ++ s.stem ++ "(" ++ s.freshMark ++ s.letter ++ extra ++
        "); err != nil \x7b\n\t\treturn err\n\t\x7d\n") ++ ("\tv[k] = " ++ s.stored ++ "\n")) := by
  unfold entryUnmarshal
  simp [render?_decodeOne htype hextra, Piece.render?, String.append_assoc]

/-- A decoded element of an array is appended. -/
theorem render?_elementUnmarshal (htype : s.type.render? env = some type)
    (hextra : s.extra.render? env = some extra) :
    s.elementUnmarshal.render? env = some ("\tvar " ++ s.letter ++ s.creationOf type ++
      ("\n\tif err := dec." ++ s.stem ++ "(" ++ s.freshMark ++ s.letter ++ extra ++
        "); err != nil \x7b\n\t\treturn err\n\t\x7d\n") ++
      ("\t*v = append(*v, " ++ s.stored ++ ")\n")) := by
  unfold elementUnmarshal
  simp [render?_decodeOne htype hextra, Piece.render?, String.append_assoc]

end Style

/-! ## Members -/

namespace EntryKey

/-- The stem of the codec methods for an entry. -/
def stem (k : EntryKey) : String :=
  k.style.stem

/-- What codec methods are given after the value: the layout of times, and nothing otherwise. -/
def layoutArgument (k : EntryKey) (layout : String) : String :=
  if k.base = .primitive .time then ", " ++ layout else ""

/-- The spelling of the type that an entry is for, where declared types have the given name. -/
def typeText (k : EntryKey) (typeName : String) : String :=
  match k.base with
  | .primitive p => p.spelling
  | .wildcard _ => typeName

variable {k : EntryKey} {env : Env}

/-- Only times have a further argument, which is their layout. -/
theorem render?_extra {layout : String}
    (h : k.base = .primitive .time → env .format = some (.text layout)) :
    k.style.extra.render? env = some (k.layoutArgument layout) := by
  obtain ⟨base, pointer⟩ := k
  unfold layoutArgument
  cases base with
  | wildcard w => cases w <;> rfl
  | primitive p =>
    by_cases htime : p = .time
    · subst htime
      simp [style, Style.time, Piece.render?, h rfl, Value.render]
    · by_cases hnull : p.isNullable = true <;>
        simp [style, Style.scalar, Style.nullable, htime, hnull]

/-- Only shapes of declared types are spelled by the name of a type. -/
theorem render?_type {typeName : String}
    (h : ∀ w, k.base = .wildcard w → env .typeName = some (.text typeName)) :
    k.style.type.render? env = some (k.typeText typeName) := by
  obtain ⟨base, pointer⟩ := k
  cases base with
  | wildcard w =>
    have hname := h w rfl
    cases w <;>
      simp [style, Style.object, Style.array, Style.any, typeText, Piece.render?, hname,
        Value.render]
  | primitive p =>
    by_cases htime : p = .time
    · subst htime
      simp [style, Style.time, typeText, Piece.render?]
    · by_cases hnull : p.isNullable = true <;>
        simp [style, Style.scalar, Style.nullable, typeText, htime, hnull, Piece.render?]

/-- The record of a time carries its layout. -/
theorem env_format (i : MemberInput) (d : Direction) (htime : k.base = .primitive .time) :
    ((k.builder i.slot d).params i).env .format = some (.text i.layout) := by
  have hbuilder : k.builder i.slot d = .time := by
    unfold builder
    rw [htime]
    exact if_pos rfl
  rw [hbuilder]
  obtain ⟨slot, _, _, _, _, _, _⟩ := i
  cases slot <;> rfl

/-- The record of a declared type carries its name, unless it is for the encoding of a field. -/
theorem env_typeName {i : MemberInput} {d : Direction} {w : Wildcard}
    (hslot : ¬(i.slot = .field ∧ d = .marshal)) (hshape : k.base = .wildcard w) :
    ((k.builder i.slot d).params i).env .typeName =
      some (.text (i.concrete.getD i.owner)) := by
  have hbuilder : k.builder i.slot d = .named := by
    unfold builder
    rw [hshape]
    exact if_neg hslot
  rw [hbuilder]
  obtain ⟨slot, _, _, _, _, _, _⟩ := i
  cases slot <;> rfl

end EntryKey

/-- A member whose template is rendered with its record has this text. -/
theorem Fragment.render_member {k : EntryKey} {d : Direction} {i : MemberInput} {text : String}
    (h : (k.style.template i.slot d).render? ((k.builder i.slot d).params i).env = some text) :
    (Fragment.member k d i).render = .ok text := by
  have htemplate : (k.template i.slot d).render? i = some text := h
  simp only [Fragment.render]
  rw [htemplate]

namespace FieldMember

/-- The stem of the codec methods for a field. -/
def stem (m : FieldMember) : String :=
  m.resolved.key.stem

/-- What codec methods for a field are given after it. -/
def layoutArgument (m : FieldMember) : String :=
  m.resolved.key.layoutArgument m.policy.layout

/-- The statement that encodes a field. -/
def encodingText (m : FieldMember) : String :=
  "\tenc." ++ m.stem ++ "Key" ++
    (if m.resolved.key.style.omits then m.policy.omitEmptySuffix else "") ++ "(\"" ++ m.key ++
    "\", " ++ m.resolved.key.style.passing.mark ++ "v." ++ m.name ++ m.layoutArgument ++ ")\n"

/-- The call that decodes a field. -/
def decodingCall (m : FieldMember) : String :=
  "\t\treturn dec." ++ m.stem ++ "(" ++ m.resolved.key.style.fieldMark ++ "v." ++ m.name ++
    m.layoutArgument ++ ")\n"

/-- The text that sets up the target of a field before it is decoded. -/
def guardText (m : FieldMember) (owner : String) : String :=
  m.resolved.key.style.guardText m.name
    (m.resolved.key.typeText (m.resolved.concrete.getD owner))

/-- Every record for a field carries its name, its key and what the encoder method ends in. -/
theorem env_input (m : FieldMember) (owner : String) (b : Builder) :
    (b.params (m.input owner)).env .field = some (.text m.name) ∧
      (b.params (m.input owner)).env .key = some (.text m.key) ∧
      (b.params (m.input owner)).env .omitEmpty = some (.text m.policy.omitEmptySuffix) := by
  cases b <;> exact ⟨rfl, rfl, rfl⟩

/-- The encoding conversion of a field is its statement. -/
theorem render_encoding (m : FieldMember) (owner : String) :
    (m.conversion owner .marshal).render = .ok m.encodingText := by
  obtain ⟨hfield, hkey, homit⟩ := m.env_input owner (m.resolved.key.builder .field .marshal)
  have hextra := EntryKey.render?_extra (EntryKey.env_format (k := m.resolved.key)
    (m.input owner) .marshal)
  exact Fragment.render_member (Style.render?_fieldMarshal hfield hkey homit hextra)

/-- The decoding conversion of a field sets up its target, and then calls its method. -/
theorem render_decoding (m : FieldMember) (owner : String) :
    (m.conversion owner .unmarshal).render = .ok (m.guardText owner ++ m.decodingCall) := by
  obtain ⟨hfield, _, _⟩ := m.env_input owner (m.resolved.key.builder .field .unmarshal)
  have hextra := EntryKey.render?_extra (EntryKey.env_format (k := m.resolved.key)
    (m.input owner) .unmarshal)
  have htype := EntryKey.render?_type fun w => EntryKey.env_typeName (k := m.resolved.key)
    (i := m.input owner) (d := .unmarshal) (w := w) (by simp)
  exact Fragment.render_member (Style.render?_fieldUnmarshal hfield htype hextra)

end FieldMember

namespace EntryKey

variable (k : EntryKey) {i : MemberInput}

/-- The statements that decode a value of a map or an array into a fresh variable of the given
type. -/
def freshText (typeName layout : String) : String :=
  "\tvar " ++ k.style.letter ++ k.style.creationOf (k.typeText typeName) ++
    ("\n\tif err := dec." ++ k.stem ++ "(" ++ k.style.freshMark ++ k.style.letter ++
      k.layoutArgument layout ++ "); err != nil \x7b\n\t\treturn err\n\t\x7d\n")

/-- The loop that encodes the elements of an array. -/
def elementEncoding (layout : String) : String :=
  k.style.elementLoop ++
    ("\t\tenc." ++ k.stem ++ "(" ++ k.style.passing.mark ++ k.style.elementText ++
      k.layoutArgument layout ++ ")\n\t\x7d\n")

/-- The statements that decode an element of an array. -/
def elementDecoding (typeName layout : String) : String :=
  k.freshText typeName layout ++ ("\t*v = append(*v, " ++ k.style.stored ++ ")\n")

/-- The loop that encodes the values of a map. -/
def entryEncoding (layout : String) : String :=
  k.style.entryLoop ++
    ("\t\tenc." ++ k.stem ++ "Key(k, " ++ k.style.passing.mark ++ k.style.letter ++
      k.layoutArgument layout ++ ")\n\t\x7d\n")

/-- The statements that decode a value of a map. -/
def entryDecoding (typeName layout : String) : String :=
  k.freshText typeName layout ++ ("\tv[k] = " ++ k.style.stored ++ "\n")

/-- The encoding conversion of an array is the loop over its elements. -/
theorem render_elementEncoding (hslot : i.slot = .element) :
    (Fragment.member k .marshal i).render = .ok (k.elementEncoding i.layout) := by
  refine Fragment.render_member ?_
  have hextra := render?_extra (env_format (k := k) i .marshal)
  rw [hslot] at hextra ⊢
  exact Style.render?_elementMarshal hextra

/-- The encoding conversion of a map is the loop over its values. -/
theorem render_entryEncoding (hslot : i.slot = .entry) :
    (Fragment.member k .marshal i).render = .ok (k.entryEncoding i.layout) := by
  refine Fragment.render_member ?_
  have hextra := render?_extra (env_format (k := k) i .marshal)
  rw [hslot] at hextra ⊢
  exact Style.render?_entryMarshal hextra

/-- The decoding conversion of an array decodes an element and appends it. -/
theorem render_elementDecoding (hslot : i.slot = .element) :
    (Fragment.member k .unmarshal i).render =
      .ok (k.elementDecoding (i.concrete.getD i.owner) i.layout) := by
  refine Fragment.render_member ?_
  have hextra := render?_extra (env_format (k := k) i .unmarshal)
  have htype := render?_type fun w => env_typeName (k := k) (i := i) (d := .unmarshal) (w := w)
    (by simp)
  rw [hslot] at hextra htype ⊢
  exact Style.render?_elementUnmarshal htype hextra

/-- The decoding conversion of a map decodes a value and stores it. -/
theorem render_entryDecoding (hslot : i.slot = .entry) :
    (Fragment.member k .unmarshal i).render =
      .ok (k.entryDecoding (i.concrete.getD i.owner) i.layout) := by
  refine Fragment.render_member ?_
  have hextra := render?_extra (env_format (k := k) i .unmarshal)
  have htype := render?_type fun w => env_typeName (k := k) (i := i) (d := .unmarshal) (w := w)
    (by simp)
  rw [hslot] at hextra htype ⊢
  exact Style.render?_entryUnmarshal htype hextra

end EntryKey

end CodecGen
