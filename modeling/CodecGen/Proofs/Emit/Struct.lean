import CodecGen.Proofs.Emit.Members

/-!
# What is written for a struct

`emitStruct_ensures` gives the code for a struct fragment by fragment, from the fields that are
decoded and encoded, and the lemmas before it do so for one field and for the passes over all
fields.
-/

namespace CodecGen

open Drive

/-! ## One field -/

/-- The fragments that decode a field: its case label and its conversion. -/
def FieldMember.decoding (owner : String) (m : FieldMember) : List Fragment :=
  [m.label owner, m.conversion owner .unmarshal]

/-- The fragment that encodes a field. -/
def FieldMember.encoding (owner : String) (m : FieldMember) : List Fragment :=
  [m.conversion owner .marshal]

/-- The fragments that convert a field in a direction. -/
def FieldMember.fragments (owner : String) : Direction → FieldMember → List Fragment
  | .unmarshal => decoding owner
  | .marshal => encoding owner

/-- A field is written exactly when its type has an entry, and with the fragments of its
direction. -/
theorem writeField_ensures (s : Setting) (owner name : String) (field : Field) (d : Direction) :
    Ensures (writeField s owner name field (s.rules.policy field.tag) d) fun b code =>
      b = (FieldMember.of? s name field).isSome ∧
        code = (FieldMember.of? s name field).toList.flatMap (FieldMember.fragments owner d) := by
  unfold writeField
  refine Ensures.after_ofExcept ?_
  intro signature hsig
  refine Ensures.after_leave ?_
  rw [FieldMember.of?_of_signature hsig]
  cases hres : signature.resolve? s.table with
  | none => exact Ensures.after_note (ensures_pure ⟨rfl, rfl⟩)
  | some r =>
    cases d with
    | marshal => exact Ensures.after_write (ensures_pure ⟨rfl, rfl⟩)
    | unmarshal => exact Ensures.after_write (Ensures.after_write (ensures_pure ⟨rfl, rfl⟩))

/-! ## The passes over all fields -/

/-- The encoding pass writes every member that can be encoded, and counts them. -/
theorem encodeFields_ensures (s : Setting) (owner : String) (visits : List FieldVisit) :
    Ensures (encodeFields s owner visits) fun n code =>
      n = (visitedMembers s .marshal visits).length ∧
        code = (visitedMembers s .marshal visits).flatMap (FieldMember.encoding owner) := by
  induction visits with
  | nil => exact ensures_pure ⟨rfl, rfl⟩
  | cons visit visits ih =>
    cases visit with
    | embedded type =>
      rw [encodeFields, visitedMembers_cons_none rfl]
      exact Ensures.after_note ih
    | named name field =>
      rw [encodeFields]
      refine Ensures.after_leave ?_
      by_cases hhide : (s.rules.policy field.tag).hideMarshal = true
      · rw [if_pos hhide, visitedMembers_cons_none
          (FieldVisit.member?_of_hides (d := .marshal) hhide name)]
        exact Ensures.after_note ih
      · have hmember := FieldVisit.member?_of_not_hides (d := .marshal) hhide name
        -- what the field wrote says whether it is a member
        rw [if_neg hhide]
        refine Ensures.bind (writeField_ensures s owner name field .marshal) ?_
        rintro b _ ⟨rfl, rfl⟩
        cases hm : FieldMember.of? s name field with
        | none =>
          rw [visitedMembers_cons_none (hmember.trans hm)]
          exact ih
        | some m =>
          rw [visitedMembers_cons_some (hmember.trans hm)]
          refine Ensures.bind ih ?_
          rintro n _ ⟨rfl, rfl⟩
          refine ensures_pure ⟨rfl, ?_⟩
          rw [List.append_nil]
          rfl

/-- The decoding pass writes the first member for each key that is not taken, and counts them. -/
theorem decodeFields_ensures (s : Setting) (owner : String) (taken : List String)
    (visits : List FieldVisit) :
    Ensures (decodeFields s owner taken visits) fun n code =>
      n = (firstPerKey taken (visitedMembers s .unmarshal visits)).length ∧
        code = (firstPerKey taken (visitedMembers s .unmarshal visits)).flatMap
          (FieldMember.decoding owner) := by
  induction visits generalizing taken with
  | nil => exact ensures_pure ⟨rfl, rfl⟩
  | cons visit visits ih =>
    cases visit with
    | embedded type =>
      rw [decodeFields, visitedMembers_cons_none rfl]
      exact Ensures.after_note (ih taken)
    | named name field =>
      rw [decodeFields]
      refine Ensures.after_leave ?_
      by_cases hhide : (s.rules.policy field.tag).hideUnmarshal = true
      · rw [if_pos hhide, visitedMembers_cons_none
          (FieldVisit.member?_of_hides (d := .unmarshal) hhide name)]
        exact Ensures.after_note (ih taken)
      · have hmember := FieldVisit.member?_of_not_hides (d := .unmarshal) hhide name
        rw [if_neg hhide]
        by_cases htaken : (s.rules.policy field.tag).keyFor name ∈ taken
        · rw [if_pos htaken]
          refine Ensures.after_note ?_
          -- a field whose key is taken is dropped by `firstPerKey`, if it is a member at all
          cases hm : FieldMember.of? s name field with
          | none =>
            rw [visitedMembers_cons_none (hmember.trans hm)]
            exact ih taken
          | some m =>
            rw [visitedMembers_cons_some (hmember.trans hm), firstPerKey,
              FieldMember.key_of?_eq hm, if_pos htaken]
            exact ih taken
        · rw [if_neg htaken]
          -- the key is taken from here on only if the field was written
          refine Ensures.bind (writeField_ensures s owner name field .unmarshal) ?_
          rintro b _ ⟨rfl, rfl⟩
          cases hm : FieldMember.of? s name field with
          | none =>
            rw [visitedMembers_cons_none (hmember.trans hm)]
            exact ih taken
          | some m =>
            rw [visitedMembers_cons_some (hmember.trans hm), firstPerKey,
              FieldMember.key_of?_eq hm, if_neg htaken]
            refine Ensures.bind (ih _) ?_
            rintro n _ ⟨rfl, rfl⟩
            refine ensures_pure ⟨rfl, ?_⟩
            rw [List.append_nil]
            rfl

/-! ## A whole struct -/

/-- The fields that a struct decodes. -/
def decodedMembers (s : Setting) (fields : List Field) : List FieldMember :=
  firstPerKey [] (convertible s .unmarshal fields)

/-- A struct without fields decodes nothing. -/
theorem decodedMembers_of_isEmpty (s : Setting) {fields : List Field}
    (h : fields.isEmpty = true) : decodedMembers s fields = [] := by
  rw [List.isEmpty_iff.mp h]
  rfl

/-- The fields that a struct encodes. -/
def encodedMembers (s : Setting) (fields : List Field) : List FieldMember :=
  convertible s .marshal fields

/-- A field that a struct decodes or encodes can be converted in some direction. -/
theorem exists_mem_convertible {s : Setting} {fields : List Field} {m : FieldMember}
    (h : m ∈ decodedMembers s fields ++ encodedMembers s fields) :
    ∃ d, m ∈ convertible s d fields := by
  rcases List.mem_append.mp h with hm | hm
  · exact ⟨_, (firstPerKey_sublist [] _).subset hm⟩
  · exact ⟨_, hm⟩

/-- The switch of a struct that decodes the given fields. -/
def switchCode (owner : String) (fields : List Field) (decoded : List FieldMember) :
    List Fragment :=
  if fields.isEmpty then []
  else [.named .switchOpen owner] ++ decoded.flatMap (FieldMember.decoding owner) ++
    [.named .switchClose owner]

/-- The decoding method of a struct that decodes the given fields. -/
def decodeCode (owner : String) (fields : List Field) (decoded : List FieldMember) :
    List Fragment :=
  [.named .structUnmarshal owner] ++ switchCode owner fields decoded ++
    [.named .unmarshalClose owner]

/-- The encoding method of a struct that encodes the given fields. -/
def encodeCode (owner : String) (encoded : List FieldMember) : List Fragment :=
  [.named .structMarshal owner] ++ encoded.flatMap (FieldMember.encoding owner) ++
    [.named .marshalClose owner]

/-- The code for a struct that decodes and encodes the given fields. -/
def structCode (owner : String) (fields : List Field) (decoded encoded : List FieldMember) :
    List Fragment :=
  decodeCode owner fields decoded ++ [keyCount owner decoded.length] ++
    encodeCode owner encoded ++ [.named .structIsNil owner]

/-- The switch decodes the first member for each key, and counts them. -/
theorem decodeSwitch_ensures (s : Setting) (owner : String) (fields : List Field) :
    Ensures (decodeSwitch s owner fields) fun n code =>
      n = (decodedMembers s fields).length ∧
        code = switchCode owner fields (decodedMembers s fields) := by
  unfold decodeSwitch switchCode
  by_cases hempty : fields.isEmpty = true
  · rw [if_pos hempty, if_pos hempty, decodedMembers_of_isEmpty s hempty]
    exact ensures_pure ⟨rfl, rfl⟩
  · rw [if_neg hempty, if_neg hempty]
    refine Ensures.after_frame (Ensures.bind (decodeFields_ensures s owner [] _) ?_)
    rintro n _ ⟨rfl, rfl⟩
    exact Ensures.after_frame (ensures_pure ⟨rfl, rfl⟩)

/-- The decoding method has this switch in it, and returns the count. -/
theorem decodeStruct_ensures (s : Setting) (owner : String) (fields : List Field) :
    Ensures (decodeStruct s owner fields) fun n code =>
      n = (decodedMembers s fields).length ∧
        code = decodeCode owner fields (decodedMembers s fields) := by
  unfold decodeStruct decodeCode
  refine Ensures.after_frame (Ensures.bind (decodeSwitch_ensures s owner fields) ?_)
  rintro n _ ⟨rfl, rfl⟩
  exact Ensures.after_frame (ensures_pure ⟨rfl, rfl⟩)

/-- The encoding method has every member in it that can be encoded. -/
theorem encodeStruct_ensures (s : Setting) (owner : String) (fields : List Field) :
    Ensures (encodeStruct s owner fields) fun _ code =>
      code = encodeCode owner (encodedMembers s fields) := by
  unfold encodeStruct encodeCode
  refine Ensures.after_frame (Ensures.bind (encodeFields_ensures s owner _) ?_)
  rintro n _ ⟨rfl, rfl⟩
  exact Ensures.after_frame (ensures_pure rfl)

/-- The code for a struct and the count reported for it, from the fields alone. -/
theorem emitStruct_ensures (s : Setting) (owner : String) (fields : List Field) :
    Ensures (emitStruct s owner fields) fun n code =>
      n = (decodedMembers s fields).length ∧
        code = structCode owner fields (decodedMembers s fields) (encodedMembers s fields) := by
  unfold emitStruct structCode
  refine Ensures.bind (decodeStruct_ensures s owner fields) ?_
  rintro n _ ⟨rfl, rfl⟩
  refine Ensures.after_write (Ensures.bind (encodeStruct_ensures s owner fields) ?_)
  rintro _ _ rfl
  refine Ensures.after_frame (Ensures.after_note (ensures_pure ⟨rfl, ?_⟩))
  simp only [List.append_assoc, List.cons_append, List.nil_append]

end CodecGen
