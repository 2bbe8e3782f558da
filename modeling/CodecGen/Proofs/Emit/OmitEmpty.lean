import CodecGen.Proofs.Emit.KeyLiteral
import CodecGen.Proofs.Template.Stepwise

/-!
# Methods that leave out empty values

A field is encoded by one call of the encoder. The names of the methods that leave out empty values
end in `KeyOmitEmpty`, those of the others in `Key`. The tag of a field decides which of the two is
called, unless its type is declared and neither a struct nor an array: such a field is encoded by
`AnyKey` whatever its tag says.
-/

namespace CodecGen

open Fragment (textOf)

/-! ## The method in a line of code -/

/-- The method that a line of code calls: what stands between its first dot and the bracket. -/
def calledMethod (line : String) : List Char :=
  (line.toList.dropWhile (· ≠ '.')).tail.takeWhile (· ≠ '(')

/-- The name after the dot is that of the method if no dot comes before it and no bracket is in it.
-/
theorem calledMethod_eq {head method : String} (hhead : '.' ∉ head.toList)
    (hmethod : '(' ∉ method.toList) (arguments : String) :
    calledMethod (head ++ "." ++ method ++ ("(" ++ arguments)) = method.toList := by
  have hline : (head ++ "." ++ method ++ ("(" ++ arguments)).toList =
      head.toList ++ '.' :: (method.toList ++ '(' :: arguments.toList) := by
    simp only [String.toList_append, List.append_assoc]
    rfl
  have hbefore : ∀ c ∈ head.toList, decide (c ≠ '.') = true :=
    fun c hc => decide_eq_true fun heq => hhead (heq ▸ hc)
  have hinside : ∀ c ∈ method.toList, decide (c ≠ '(') = true :=
    fun c hc => decide_eq_true fun heq => hmethod (heq ▸ hc)
  unfold calledMethod
  rw [hline, List.dropWhile_append_of_pos hbefore, List.dropWhile_cons_of_neg (by decide),
    List.tail_cons, List.takeWhile_append_of_pos hinside, List.takeWhile_cons_of_neg (by decide),
    List.append_nil]

/-- There is no bracket in a word. -/
theorem Token.bracket_notMem_of_isWord {cs : List Char} (h : isWord cs = true) : '(' ∉ cs := by
  cases cs with
  | nil => exact List.not_mem_nil
  | cons c cs =>
    rw [isWord_cons, Bool.and_eq_true, List.all_eq_true] at h
    intro hmem
    rcases List.mem_cons.mp hmem with rfl | hmem
    · exact absurd h.1 (by decide)
    · exact absurd (h.2 _ hmem) (by decide)

/-! ## The method for a field -/

/-- The encoder can leave out empty values of every entry but that of the declared types which are
neither structs nor arrays. -/
theorem EntryKey.omits_style (k : EntryKey) :
    k.style.omits = true ↔ k.base ≠ .wildcard .any := by
  obtain ⟨base, pointer⟩ := k
  cases base with
  | wildcard w => cases w <;> simp [style, Style.object, Style.array, Style.any]
  | primitive p =>
    unfold style
    dsimp only
    split_ifs <;> simp [Style.time, Style.nullable, Style.scalar]

namespace FieldMember

variable (m : FieldMember)

/-- The tag asks to leave the field out where it is empty, and the encoder can do so. -/
def LeavesOut : Prop :=
  m.policy.omitEmpty = true ∧ m.resolved.key.base ≠ .wildcard .any

/-- The end of the name of the method that encodes a field. -/
def methodEnd : String :=
  if m.resolved.key.style.omits then m.policy.omitEmptySuffix else ""

/-- The name of the method that encodes a field. -/
def methodName : String :=
  m.stem ++ "Key" ++ m.methodEnd

/-- Where a field is left out if it is empty, the name of its method ends so. -/
theorem methodEnd_of_leavesOut (h : m.LeavesOut) : m.methodEnd = "OmitEmpty" := by
  unfold methodEnd Policy.omitEmptySuffix
  rw [if_pos ((EntryKey.omits_style _).mpr h.2), if_pos h.1]

/-- Where it is not, nothing is added to the name. -/
theorem methodEnd_of_not_leavesOut (h : ¬m.LeavesOut) : m.methodEnd = "" := by
  unfold methodEnd Policy.omitEmptySuffix
  split_ifs with homits hpolicy
  · exact absurd ⟨hpolicy, (EntryKey.omits_style _).mp homits⟩ h
  · rfl
  · rfl

/-- The name of a method is over before the bracket of its call. -/
theorem bracket_notMem_methodName : '(' ∉ m.methodName.toList := by
  have hstem := Token.bracket_notMem_of_isWord m.resolved.key.isLegible_style.stem
  have hend : '(' ∉ m.methodEnd.toList := by
    by_cases h : m.LeavesOut
    · rw [m.methodEnd_of_leavesOut h]
      decide
    · rw [m.methodEnd_of_not_leavesOut h]
      decide
  unfold methodName
  rw [String.toList_append, String.toList_append, List.mem_append, List.mem_append]
  rintro ((hmem | hmem) | hmem)
  · exact hstem hmem
  · exact absurd hmem (by decide)
  · exact hend hmem

/-- The statement that encodes a field calls the method by its name. -/
theorem calledMethod_encodingText : calledMethod m.encodingText = m.methodName.toList := by
  have htext : m.encodingText = "\tenc" ++ "." ++ m.methodName ++ ("(" ++ (m.keyLiteral ++ ", " ++
      (m.resolved.key.style.passing.mark ++ "v." ++ m.name ++ m.layoutArgument) ++ ")\n")) := by
    rw [m.encodingText_eq]
    unfold methodName methodEnd
    simp only [← String.toList_inj, String.toList_append, List.append_assoc]
    rfl
  rw [htext]
  exact calledMethod_eq (by decide) m.bracket_notMem_methodName _

/-- The name of the method ends in `KeyOmitEmpty` where the field is left out if empty. -/
theorem keyOmitEmpty_isSuffix_iff :
    "KeyOmitEmpty".toList <:+ calledMethod m.encodingText ↔ m.LeavesOut := by
  rw [calledMethod_encodingText, methodName, String.append_assoc, String.toList_append]
  constructor
  · intro hsuffix
    by_contra h
    rw [m.methodEnd_of_not_leavesOut h] at hsuffix
    -- the name ends in `Key`, which `KeyOmitEmpty` does not
    have hkey : "Key".toList <:+ "KeyOmitEmpty".toList :=
      List.suffix_of_suffix_length_le (List.suffix_append _ _) hsuffix (by decide)
    exact absurd hkey (by decide)
  · intro h
    rw [m.methodEnd_of_leavesOut h]
    exact List.suffix_append m.stem.toList _

/-- It ends in `Key` everywhere else. -/
theorem key_isSuffix_of_not_leavesOut (h : ¬m.LeavesOut) :
    "Key".toList <:+ calledMethod m.encodingText := by
  rw [calledMethod_encodingText, methodName, String.append_assoc, String.toList_append,
    m.methodEnd_of_not_leavesOut h]
  exact List.suffix_append m.stem.toList _

end FieldMember

/-! ## The methods for a struct -/

/-- Where a struct is generated, its text encodes every field that is not hidden from encoding and
has an entry by one call. The method that is called ends in `KeyOmitEmpty` if and only if the tag of
the field asks for that and the type of the field is not a declared one that is neither a struct nor
an array. It ends in `Key` otherwise. -/
theorem emitStruct_methods (s : Setting) (owner : String) (fields : List Field) (n : Nat)
    (h : (emitStruct s owner fields).result = .ok n) :
    textOf (emitStruct s owner fields).code =
        structText owner fields (decodedMembers s fields) (encodedMembers s fields) ∧
      (∀ field ∈ fields, ∀ name ∈ field.names, (s.rules.policy field.tag).hideMarshal = false →
        ∀ m, FieldMember.of? s name field = some m → m ∈ encodedMembers s fields) ∧
      ∀ m ∈ encodedMembers s fields,
        (∃ field ∈ fields, m.name ∈ field.names ∧ m.policy = s.rules.policy field.tag) ∧
        ("KeyOmitEmpty".toList <:+ calledMethod m.encodingText ↔
          m.policy.omitEmpty = true ∧ m.resolved.key.base ≠ .wildcard .any) ∧
        (¬(m.policy.omitEmpty = true ∧ m.resolved.key.base ≠ .wildcard .any) →
          "Key".toList <:+ calledMethod m.encodingText) := by
  refine ⟨textOf_emitStruct h, ?_, ?_⟩
  · intro field hfield name hname hshown m hm
    exact mem_convertible.mpr ⟨field, hfield, name, hname, ne_true_of_eq_false hshown, hm⟩
  · intro m hm
    obtain ⟨field, hfield, name, hname, hof⟩ := exists_of?_of_mem_convertible hm
    obtain ⟨r, rfl⟩ := FieldMember.of?_eq_some hof
    exact ⟨⟨field, hfield, hname, rfl⟩, FieldMember.keyOmitEmpty_isSuffix_iff _,
      FieldMember.key_isSuffix_of_not_leavesOut _⟩

/-- Fields that are to be left out where they are empty, of a primitive type and of a declared map,
and one that is not. -/
def omittedFields : List Field :=
  [⟨["Id"], .ident "int", some "\x60gojay:\"id,omitempty\"\x60"⟩,
    ⟨["Meta"], .ident "Meta", some "\x60gojay:\"meta,omitempty\"\x60"⟩,
    ⟨["Size"], .ident "int", none⟩]

/-- Of the three fields only the one of a primitive type is left out where it is empty. -/
theorem emitStruct_methods_omittedFields :
    let s : Setting := ⟨⟨"gojay", "fmt", "time.RFC3339"⟩,
      TypeTable.empty.insert "Meta" (.map (.ident "string") (.ident "string"))⟩
    (emitStruct s "T" omittedFields).result = .ok 3 ∧
      ∀ m ∈ encodedMembers s omittedFields,
        "KeyOmitEmpty".toList <:+ calledMethod m.encodingText ↔ m.name = "Id" := by
  intro s
  have hok : (emitStruct s "T" omittedFields).result = .ok 3 := by decide +kernel
  refine ⟨hok, fun m hm => ?_⟩
  obtain ⟨-, -, hmembers⟩ := emitStruct_methods s "T" omittedFields 3 hok
  obtain ⟨-, hends, -⟩ := hmembers m hm
  have hnames : ∀ m ∈ encodedMembers s omittedFields,
      (m.policy.omitEmpty = true ∧ m.resolved.key.base ≠ .wildcard .any ↔ m.name = "Id") := by
    decide +kernel
  exact hends.trans (hnames m hm)

/-- The tag of a field whose type is a declared map asks to leave the field out where it is empty,
but the method that is called does not. -/
theorem methods_not_omitting :
    let s : Setting := ⟨⟨"gojay", "fmt", "time.RFC3339"⟩,
      TypeTable.empty.insert "Meta" (.map (.ident "string") (.ident "string"))⟩
    (emitStruct s "T" omittedFields).result = .ok 3 ∧
      ∃ m ∈ encodedMembers s omittedFields, m.name = "Meta" ∧ m.policy.omitEmpty = true ∧
        calledMethod m.encodingText = "AnyKey".toList ∧
        ¬"KeyOmitEmpty".toList <:+ calledMethod m.encodingText := by
  decide +kernel

end CodecGen
