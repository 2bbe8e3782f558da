import CodecGen.Proofs.Emit.KeyCount
import CodecGen.Proofs.Tag.Literal

/-!
# The literals of keys

A key is written between double quotes as it stands, in the case label of a field and in the call
that encodes it. That is a literal for the key as long as the key is plain; a tag can give a field
any key at all, because the literals of tags are decoded when they are read.
-/

namespace CodecGen

open Fragment (textOf caseKeys)

/-! ## Where keys come from and where they go -/

/-- A member that is converted is what one of the names of a field gives. -/
theorem exists_of?_of_mem_convertible {s : Setting} {d : Direction} {fields : List Field}
    {m : FieldMember} (h : m ∈ convertible s d fields) :
    ∃ field ∈ fields, ∃ name ∈ field.names, FieldMember.of? s name field = some m := by
  obtain ⟨field, hfield, name, hname, -, hm⟩ := mem_convertible.mp h
  exact ⟨field, hfield, name, hname, hm⟩

/-- A member that is converted is one of the names of a field, with the key that the field's tag
gives it. -/
theorem of_mem_convertible {s : Setting} {d : Direction} {fields : List Field} {m : FieldMember}
    (h : m ∈ convertible s d fields) :
    ∃ field ∈ fields, m.name ∈ field.names ∧ m.key = (s.rules.policy field.tag).keyFor m.name := by
  obtain ⟨field, hfield, name, hname, hm⟩ := exists_of?_of_mem_convertible h
  obtain ⟨r, rfl⟩ := FieldMember.of?_eq_some hm
  exact ⟨field, hfield, hname, rfl⟩

/-- What stands for the key of a field in the code for it. -/
def FieldMember.keyLiteral (m : FieldMember) : String :=
  Tag.quoted m.key

/-- The case that decodes a field begins with the literal of its key. -/
theorem FieldMember.caseText_eq (owner : String) (m : FieldMember) :
    m.caseText owner =
      "\tcase " ++ m.keyLiteral ++ ":\n" ++ (m.guardText owner ++ m.decodingCall) := by
  have hlabel : "\tcase \"" ++ m.key ++ "\":\n" = "\tcase " ++ m.keyLiteral ++ ":\n" := by
    unfold keyLiteral Tag.quoted
    simp only [← String.toList_inj, String.toList_append, List.append_assoc]
    rfl
  unfold caseText
  rw [hlabel]

/-- The call that encodes a field is given the literal of its key first. -/
theorem FieldMember.encodingText_eq (m : FieldMember) :
    m.encodingText = "\tenc." ++ m.stem ++ "Key" ++
      (if m.resolved.key.style.omits then m.policy.omitEmptySuffix else "") ++
      ("(" ++ m.keyLiteral ++ ", " ++
        (m.resolved.key.style.passing.mark ++ "v." ++ m.name ++ m.layoutArgument) ++ ")\n") := by
  unfold encodingText keyLiteral Tag.quoted
  simp only [← String.toList_inj, String.toList_append, List.append_assoc]
  rfl

/-! ## Literals of the keys of a struct -/

/-- The keys of the fields that a struct converts are those that tags and names give them, and are
written between double quotes in labels and calls. Such a literal denotes the key if and only if the
key is plain; then different labels are different constants. -/
theorem emitStruct_keyLiterals (s : Setting) (owner : String) (fields : List Field) (n : Nat)
    (h : (emitStruct s owner fields).result = .ok n) :
    textOf (emitStruct s owner fields).code =
        structText owner fields (decodedMembers s fields) (encodedMembers s fields) ∧
      (∀ m ∈ decodedMembers s fields ++ encodedMembers s fields,
        (∃ field ∈ fields,
          m.name ∈ field.names ∧ m.key = (s.rules.policy field.tag).keyFor m.name) ∧
        (∃ body, m.caseText owner = "\tcase " ++ m.keyLiteral ++ ":\n" ++ body) ∧
        (∃ suffix value, m.encodingText = "\tenc." ++ m.stem ++ "Key" ++ suffix ++
          ("(" ++ m.keyLiteral ++ ", " ++ value ++ ")\n")) ∧
        (Tag.Denotes m.keyLiteral m.key ↔ Tag.isPlainText m.key = true)) ∧
      ∀ m ∈ decodedMembers s fields, ∀ m' ∈ decodedMembers s fields,
        Tag.isPlainText m.key = true → Tag.isPlainText m'.key = true →
          ∀ value, Tag.Denotes m.keyLiteral value → Tag.Denotes m'.keyLiteral value → m = m' := by
  obtain ⟨_, hcode⟩ := emitStruct_ensures s owner fields n h
  refine ⟨?_, ?_, ?_⟩
  · rw [hcode]
    exact textOf_structCode owner fields _ _
  · intro m hm
    have hable : ∃ d, m ∈ convertible s d fields := by
      rcases List.mem_append.mp hm with hm | hm
      · exact ⟨_, (firstPerKey_sublist [] _).subset hm⟩
      · exact ⟨_, hm⟩
    obtain ⟨d, hable⟩ := hable
    exact ⟨of_mem_convertible hable, ⟨_, m.caseText_eq owner⟩, ⟨_, _, m.encodingText_eq⟩,
      Tag.denotes_quoted_self_iff m.key⟩
  · intro m hm m' hm' hplain hplain' value hvalue hvalue'
    -- no two fields are decoded under one key
    have hkey := Tag.eq_of_denotes_quoted hplain hplain' hvalue hvalue'
    exact List.inj_on_of_nodup_map (nodup_firstPerKey [] _) hm hm' hkey

/-- Fields with keys that are not plain: one with a quote, and one with the escape of a character
that another field's key has. -/
def quoteFields : List Field :=
  [⟨["Quote"], .ident "string", some "\x60gojay:\"a\\\"b\"\x60"⟩,
    ⟨["Letters"], .ident "string", some "\x60gojay:\"ab\"\x60"⟩,
    ⟨["Escape"], .ident "string", some "\x60gojay:\"a\\\\x62\"\x60"⟩]

/-- The keys of these fields differ, and so do their labels. But the first label is no literal, and
the last is one for the key of the second. -/
theorem keyLiterals_not_denoting :
    let s : Setting := ⟨⟨"gojay", "fmt", "time.RFC3339"⟩, .empty⟩
    (emitStruct s "T" quoteFields).result = .ok 3 ∧
      caseKeys (emitStruct s "T" quoteFields).code = ["a\"b", "ab", "a\\x62"] ∧
      Tag.unquote? (Tag.quoted "a\"b").toList = none ∧
      ¬Tag.Denotes (Tag.quoted "a\\x62") "a\\x62" ∧
      Tag.Denotes (Tag.quoted "ab") "ab" ∧
      Tag.Denotes (Tag.quoted "a\\x62") "ab" := by
  decide +kernel

/-- Of the three keys, only the one without quote and backslash is denoted by its literal. -/
theorem emitStruct_keyLiterals_quoteFields :
    let s : Setting := ⟨⟨"gojay", "fmt", "time.RFC3339"⟩, .empty⟩
    (emitStruct s "T" quoteFields).result = .ok 3 ∧
      ∀ m ∈ decodedMembers s quoteFields, Tag.Denotes m.keyLiteral m.key ↔ m.name = "Letters" := by
  intro s
  have hok : (emitStruct s "T" quoteFields).result = .ok 3 := by decide +kernel
  refine ⟨hok, ?_⟩
  intro m hm
  obtain ⟨_, hmembers, _⟩ := emitStruct_keyLiterals s "T" quoteFields 3 hok
  obtain ⟨_, _, _, hdenotes⟩ := hmembers m (List.mem_append_left _ hm)
  have hplain : ∀ m ∈ decodedMembers s quoteFields,
      (Tag.isPlainText m.key = true ↔ m.name = "Letters") := by decide +kernel
  exact hdenotes.trans (hplain m hm)

end CodecGen
