import CodecGen.Proofs.Emit.Render
import CodecGen.Proofs.Emit.Struct

/-!
# The text for a struct

`structText` is the whole text that is emitted for a struct, given the fields that it decodes and
encodes; `textOf_structCode` says that it is the text of `structCode`.
-/

namespace CodecGen

open Fragment (textOf)

/-! ## The parts -/

/-- The case that decodes a field. -/
def FieldMember.caseText (owner : String) (m : FieldMember) : String :=
  "\tcase \"" ++ m.key ++ "\":\n" ++ (m.guardText owner ++ m.decodingCall)

/-- The switch over the keys of a struct, which only a struct with fields has. -/
def switchText (owner : String) (fields : List Field) (decoded : List FieldMember) : String :=
  if fields.isEmpty then ""
  else "\tswitch k \x7b\n" ++ String.join (decoded.map (FieldMember.caseText owner)) ++ "\t\x7d\n"

/-- The method that decodes a struct. -/
def decodeText (owner : String) (fields : List Field) (decoded : List FieldMember) : String :=
  headText Frame.unmarshalObjectComment "*" Frame.unmarshalObject owner ++
    switchText owner fields decoded ++ "\treturn nil\n\x7d\n"

/-- The method that counts the keys of a struct. -/
def keyCountText (owner : String) (keys : Nat) : String :=
  "\n// NKeys returns the number of keys to unmarshal\nfunc (v *" ++ owner ++
    ") NKeys() int \x7b return " ++ toString keys ++ " \x7d\n"

/-- The method that encodes a struct. -/
def encodeText (owner : String) (encoded : List FieldMember) : String :=
  headText Frame.marshalObjectComment "*" Frame.marshalObject owner ++
    String.join (encoded.map FieldMember.encodingText) ++ "\x7d\n"

/-- The methods of a struct. -/
def structText (owner : String) (fields : List Field) (decoded encoded : List FieldMember) :
    String :=
  decodeText owner fields decoded ++ keyCountText owner decoded.length ++
    encodeText owner encoded ++
    headText Frame.isNilComment "*" "IsNil() bool \x7b return v == nil \x7d\n" owner

/-! ## The text of the code -/

/-- The code that decodes a field is its case. -/
theorem FieldMember.textOf_decoding (owner : String) (m : FieldMember) :
    textOf (m.decoding owner) = m.caseText owner := by
  unfold decoding caseText
  rw [Fragment.textOf_cons, Fragment.textOf_cons, Fragment.textOf_nil, String.append_empty,
    Fragment.text_of_render (m.render_label owner),
    Fragment.text_of_render (m.render_decoding owner)]

/-- The code that encodes a field is its statement. -/
theorem FieldMember.textOf_encoding (owner : String) (m : FieldMember) :
    textOf (m.encoding owner) = m.encodingText := by
  unfold encoding
  rw [Fragment.textOf_cons, Fragment.textOf_nil, String.append_empty,
    Fragment.text_of_render (m.render_encoding owner)]

/-- The code of a switch is the switch over the cases of its fields. -/
theorem textOf_switchCode (owner : String) (fields : List Field) (decoded : List FieldMember) :
    textOf (switchCode owner fields decoded) = switchText owner fields decoded := by
  unfold switchCode switchText
  by_cases hempty : fields.isEmpty = true
  · rw [if_pos hempty, if_pos hempty]
    rfl
  · rw [if_neg hempty, if_neg hempty]
    have hopen := Fragment.text_of_render (Fragment.render_named_fixed (f := .switchOpen) rfl owner)
    have hclose :=
      Fragment.text_of_render (Fragment.render_named_fixed (f := .switchClose) rfl owner)
    simp only [Fragment.textOf_append, Fragment.textOf_cons, Fragment.textOf_nil,
      String.append_empty, hopen, hclose,
      Fragment.textOf_flatMap (FieldMember.textOf_decoding owner)]

/-- The code of a decoding method is the method with this switch. -/
theorem textOf_decodeCode (owner : String) (fields : List Field) (decoded : List FieldMember) :
    textOf (decodeCode owner fields decoded) = decodeText owner fields decoded := by
  unfold decodeCode decodeText
  have hhead :=
    Fragment.text_of_render (Fragment.render_named_head (f := .structUnmarshal) rfl owner)
  have hclose :=
    Fragment.text_of_render (Fragment.render_named_fixed (f := .unmarshalClose) rfl owner)
  simp only [Fragment.textOf_append, Fragment.textOf_cons, Fragment.textOf_nil,
    String.append_empty, hhead, hclose, textOf_switchCode]

/-- The code of an encoding method is the method with the statements of its fields. -/
theorem textOf_encodeCode (owner : String) (encoded : List FieldMember) :
    textOf (encodeCode owner encoded) = encodeText owner encoded := by
  unfold encodeCode encodeText
  have hhead := Fragment.text_of_render (Fragment.render_named_head (f := .structMarshal) rfl owner)
  have hclose :=
    Fragment.text_of_render (Fragment.render_named_fixed (f := .marshalClose) rfl owner)
  simp only [Fragment.textOf_append, Fragment.textOf_cons, Fragment.textOf_nil,
    String.append_empty, hhead, hclose, Fragment.textOf_flatMap (FieldMember.textOf_encoding owner)]

/-- The code for a struct has the text of its methods. -/
theorem textOf_structCode (owner : String) (fields : List Field)
    (decoded encoded : List FieldMember) :
    textOf (structCode owner fields decoded encoded) = structText owner fields decoded encoded := by
  unfold structCode structText keyCountText
  have hcount := Fragment.text_of_render (render_keyCount owner decoded.length)
  have hnil := Fragment.text_of_render (Fragment.render_named_head (f := .structIsNil) rfl owner)
  simp only [Fragment.textOf_append, Fragment.textOf_cons, Fragment.textOf_nil,
    String.append_empty, hcount, hnil, textOf_decodeCode, textOf_encodeCode]

/-- Where a struct is generated, its text is that of its methods. -/
theorem textOf_emitStruct {s : Setting} {owner : String} {fields : List Field} {n : Nat}
    (h : (emitStruct s owner fields).result = .ok n) :
    textOf (emitStruct s owner fields).code =
      structText owner fields (decodedMembers s fields) (encodedMembers s fields) := by
  obtain ⟨_, hcode⟩ := emitStruct_ensures s owner fields n h
  rw [hcode]
  exact textOf_structCode owner fields _ _

end CodecGen
