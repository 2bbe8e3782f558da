import CodecGen.Proofs.Emit.StructText

/-!
# The keys that a struct decodes

The generated decoder stops as soon as it has met as many keys as `NKeys` returns, so the number
must be that of the cases of its switch. Both are the number of different keys of the members, and
each case belongs to the first member with its key.
-/

namespace CodecGen

namespace Fragment

/-- The key of a case label. -/
def caseKey? : Fragment → Option String
  | .frame .case values =>
    match values.lookup .key with
    | some (.text key) => some key
    | _ => none
  | _ => none

/-- The number that a method for counting keys returns. -/
def countedKeys? : Fragment → Option Int
  | .frame .structNKeys values =>
    match values.lookup .nKeys with
    | some (.number keys) => some keys
    | _ => none
  | _ => none

/-- The keys of the case labels in some code, in order. -/
def caseKeys (code : List Fragment) : List String :=
  code.filterMap caseKey?

/-- The numbers that the methods for counting keys in some code return, in order. -/
def countedKeys (code : List Fragment) : List Int :=
  code.filterMap countedKeys?

/-- The labels of two pieces of code are those of both, in order. -/
theorem caseKeys_append (fs gs : List Fragment) :
    caseKeys (fs ++ gs) = caseKeys fs ++ caseKeys gs :=
  List.filterMap_append

/-- The counts of two pieces of code are those of both, in order. -/
theorem countedKeys_append (fs gs : List Fragment) :
    countedKeys (fs ++ gs) = countedKeys fs ++ countedKeys gs :=
  List.filterMap_append

end Fragment

open Fragment (caseKeys countedKeys)

/-! ## Labels and counts in the code for a struct -/

/-- Each field that is decoded has one label, and its key is on it. -/
theorem caseKeys_decoding (owner : String) (ms : List FieldMember) :
    caseKeys (ms.flatMap (FieldMember.decoding owner)) = ms.map FieldMember.key := by
  rw [caseKeys, List.filterMap_flatMap, List.map_eq_flatMap]
  rfl

/-- Encoding fields takes no labels. -/
theorem caseKeys_encoding (owner : String) (ms : List FieldMember) :
    caseKeys (ms.flatMap (FieldMember.encoding owner)) = [] := by
  rw [caseKeys, List.filterMap_flatMap]
  exact List.flatMap_eq_nil_iff.mpr fun _ _ => rfl

/-- Decoding fields does not count keys. -/
theorem countedKeys_decoding (owner : String) (ms : List FieldMember) :
    countedKeys (ms.flatMap (FieldMember.decoding owner)) = [] := by
  rw [countedKeys, List.filterMap_flatMap]
  exact List.flatMap_eq_nil_iff.mpr fun _ _ => rfl

/-- Encoding fields does not count keys either. -/
theorem countedKeys_encoding (owner : String) (ms : List FieldMember) :
    countedKeys (ms.flatMap (FieldMember.encoding owner)) = [] := by
  rw [countedKeys, List.filterMap_flatMap]
  exact List.flatMap_eq_nil_iff.mpr fun _ _ => rfl

/-- The labels in a switch are those of the fields that it decodes. A struct without fields has no
switch, and decodes none. -/
theorem caseKeys_switchCode {owner : String} {fields : List Field} {decoded : List FieldMember}
    (h : fields.isEmpty = true → decoded = []) :
    caseKeys (switchCode owner fields decoded) = decoded.map FieldMember.key := by
  unfold switchCode
  by_cases hempty : fields.isEmpty = true
  · rw [if_pos hempty, h hempty]
    rfl
  · rw [if_neg hempty, Fragment.caseKeys_append, Fragment.caseKeys_append, caseKeys_decoding]
    show [] ++ decoded.map FieldMember.key ++ [] = decoded.map FieldMember.key
    rw [List.nil_append, List.append_nil]

/-- A switch does not count keys. -/
theorem countedKeys_switchCode (owner : String) (fields : List Field)
    (decoded : List FieldMember) : countedKeys (switchCode owner fields decoded) = [] := by
  unfold switchCode
  by_cases hempty : fields.isEmpty = true
  · rw [if_pos hempty]
    rfl
  · rw [if_neg hempty, Fragment.countedKeys_append, Fragment.countedKeys_append,
      countedKeys_decoding]
    rfl

/-- The labels in the code for a struct are those of the fields that it decodes. -/
theorem caseKeys_structCode {owner : String} {fields : List Field} {decoded : List FieldMember}
    (h : fields.isEmpty = true → decoded = []) (encoded : List FieldMember) :
    caseKeys (structCode owner fields decoded encoded) = decoded.map FieldMember.key := by
  unfold structCode decodeCode encodeCode
  simp only [Fragment.caseKeys_append, caseKeys_switchCode h, caseKeys_encoding]
  show [] ++ decoded.map FieldMember.key ++ [] ++ [] ++ ([] ++ [] ++ []) ++ [] =
    decoded.map FieldMember.key
  simp only [List.nil_append, List.append_nil]

/-- The code for a struct has one method that counts its keys. -/
theorem countedKeys_structCode (owner : String) (fields : List Field)
    (decoded encoded : List FieldMember) :
    countedKeys (structCode owner fields decoded encoded) = [(decoded.length : Int)] := by
  unfold structCode decodeCode encodeCode
  simp only [Fragment.countedKeys_append, countedKeys_switchCode, countedKeys_encoding]
  rfl

/-! ## The number of keys -/

/-- Where a struct is generated, one number is the count that is reported for it, the result of its
`NKeys`, the number of its case labels, and the number of different keys of the fields that can be
decoded. Every such key has a label, which belongs to the first of the fields with that key. -/
theorem emitStruct_keys (s : Setting) (owner : String) (fields : List Field) (n : Nat)
    (h : (emitStruct s owner fields).result = .ok n) :
    let able := convertible s .unmarshal fields
    let code := (emitStruct s owner fields).code
    n = (able.map FieldMember.key).toFinset.card ∧
      countedKeys code = [(n : Int)] ∧
      (caseKeys code).length = n ∧
      (caseKeys code).Nodup ∧
      (∀ m ∈ able, m.key ∈ caseKeys code) ∧
      ∃ decoded encoded : List FieldMember,
        Fragment.textOf code = structText owner fields decoded encoded ∧
          decoded.length = n ∧
          caseKeys code = decoded.map FieldMember.key ∧
          decoded.Sublist able ∧
          ∀ m ∈ decoded, able.find? (fun m' => m'.key = m.key) = some m := by
  intro able code
  obtain ⟨hn, hcode⟩ := emitStruct_ensures s owner fields n h
  -- everything below is said of the members that are kept, first for each key
  have hlabels : caseKeys code = (decodedMembers s fields).map FieldMember.key := by
    show caseKeys (emitStruct s owner fields).code = _
    rw [hcode]
    exact caseKeys_structCode (decodedMembers_of_isEmpty s) _
  refine ⟨?_, ?_, ?_, ?_, ?_, decodedMembers s fields, encodedMembers s fields, ?_, hn.symm,
    hlabels, ?_, ?_⟩
  · rw [hn]
    exact length_firstPerKey able
  · show countedKeys (emitStruct s owner fields).code = _
    rw [hcode, hn]
    exact countedKeys_structCode owner fields _ _
  · rw [hlabels, List.length_map, hn]
  · rw [hlabels]
    exact nodup_firstPerKey [] able
  · intro m hm
    rw [hlabels]
    exact key_mem_firstPerKey hm List.not_mem_nil
  · show Fragment.textOf (emitStruct s owner fields).code = _
    rw [hcode]
    exact textOf_structCode owner fields _ _
  · exact firstPerKey_sublist [] able
  · intro m hm
    exact find?_of_mem_firstPerKey hm

/-- A struct with a field of every sort: embedded, hidden from decoding, without an entry, with a
key that is taken, and with a key that only a field without an entry had before. -/
def mixedFields : List Field :=
  [⟨[], .ident "Base", none⟩,
    ⟨["Id", "Name"], .ident "int", none⟩,
    ⟨["Secret"], .ident "string", some "\x60gojay:\"-u\"\x60"⟩,
    ⟨["Other"], .ident "Missing", some "\x60gojay:\"late\"\x60"⟩,
    ⟨["Again"], .ident "int", some "\x60gojay:\"id\"\x60"⟩,
    ⟨["Late"], .ident "bool", none⟩]

/-- Of the fields of a mixed struct three are decoded, and three is the count. -/
theorem emitStruct_keys_mixedFields :
    let x := emitStruct ⟨⟨"gojay", "fmt", "time.RFC3339"⟩, .empty⟩ "Person" mixedFields
    x.result = .ok 3 ∧ countedKeys x.code = [3] ∧ (caseKeys x.code).length = 3 ∧
      (caseKeys x.code).Nodup ∧ caseKeys x.code = ["id", "name", "late"] := by
  intro x
  have hok : x.result = .ok 3 := by decide +kernel
  obtain ⟨_, hcount, hlength, hnodup, _, _⟩ := emitStruct_keys _ _ _ 3 hok
  exact ⟨hok, hcount, hlength, hnodup, by decide +kernel⟩

end CodecGen
