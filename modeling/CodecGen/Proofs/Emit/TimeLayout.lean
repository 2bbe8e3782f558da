import CodecGen.Proofs.Emit.KeyLiteral
import CodecGen.Proofs.Tag.Grammar
import CodecGen.Proofs.Tag.Spelling
import Mathlib.Data.List.TakeWhile

/-!
# The layouts of times

The codec methods for times are given a layout, which is an expression that the field's tag has as
a value of its own. `TagRules.Lays` says which layout a tag gives, by the grammar of tags: that
value as far as its first comma, because the values of all pairs are cut at commas. A layout without
a comma is the whole value.
-/

namespace CodecGen

open Fragment (textOf)

/-! ## Pairs with a key -/

namespace Tag

/-- The name of a pair is what stands before the first comma of its value. -/
theorem name_ofValue (key value : List Char) :
    (Pair.ofValue key value).name = String.ofList (value.takeWhile (· ≠ ',')) := by
  obtain ⟨pieces, hpieces⟩ := Text.exists_split_eq_cons ',' value
  unfold Pair.ofValue
  rw [hpieces]
  rfl

/-- The first pair with a key has the first value that the text has for the key. -/
theorem get?_ofValue (ps : List (List Char × List Char)) (key : String) :
    get? (ps.map fun p => .ofValue p.1 p.2) key =
      (ps.lookup key.toList).map (Pair.ofValue key.toList) := by
  induction ps with
  | nil => rfl
  | cons p ps ih =>
    obtain ⟨k, value⟩ := p
    unfold get? at ih ⊢
    rw [List.map_cons]
    by_cases hk : key.toList = k
    · subst hk
      rw [List.find?_cons_of_pos (by simp [Pair.ofValue]), List.lookup_cons_self]
      rfl
    · have hkey : String.ofList k ≠ key := by
        rintro rfl
        exact hk String.toList_ofList
      rw [List.find?_cons_of_neg (by simpa [Pair.ofValue] using hkey), ih, List.lookup_cons,
        beq_false_of_ne hk]

end Tag

/-! ## The layout that a tag gives -/

namespace TagRules

/-- A tag gives a layout. It is the default layout where there is no tag, where its literal or its
text is malformed, and where no pair has the key of layouts. -/
inductive Lays (r : TagRules) : Option String → String → Prop
  | untagged : Lays r none r.defaultLayout
  | noLiteral {literal : String} (hliteral : Tag.content? literal = none) :
      Lays r (some literal) r.defaultLayout
  | malformed {literal text : String} (hliteral : Tag.content? literal = some text)
      (htext : ∀ ps, ¬Tag.Spells text.toList ps) : Lays r (some literal) r.defaultLayout
  | absent {literal text : String} {ps : List (List Char × List Char)}
      (hliteral : Tag.content? literal = some text) (htext : Tag.Spells text.toList ps)
      (hvalue : ps.lookup r.layoutKey.toList = none) : Lays r (some literal) r.defaultLayout
  /-- What the first pair with this key has for a value, as far as the first comma. -/
  | given {literal text : String} {ps : List (List Char × List Char)} {value : List Char}
      (hliteral : Tag.content? literal = some text) (htext : Tag.Spells text.toList ps)
      (hvalue : ps.lookup r.layoutKey.toList = some value) :
      Lays r (some literal) (String.ofList (value.takeWhile (· ≠ ',')))

variable {r : TagRules} {tag : Option String} {literal text layout : String}

/-- A tag that is no literal decides nothing. -/
theorem layout_policy_of_noLiteral (h : Tag.content? literal = none) :
    (r.policy (some literal)).layout = r.defaultLayout := by
  have hread : Tag.read literal = .error .literal := by
    unfold Tag.read
    rw [h]
  unfold policy
  rw [Option.map_some, hread]
  rfl

/-- A tag with a malformed text decides nothing. -/
theorem layout_policy_of_malformed (h : Tag.content? literal = some text)
    (htext : ∀ ps, ¬Tag.Spells text.toList ps) :
    (r.policy (some literal)).layout = r.defaultLayout := by
  have hread : Tag.read literal = (Tag.parse text).mapError .text := by
    unfold Tag.read
    rw [h]
  cases hparse : Tag.parse text with
  | ok pairs =>
    obtain ⟨ps, hps, -⟩ := Tag.parse_eq_ok_iff.mp hparse
    exact absurd hps (htext ps)
  | error e =>
    unfold policy
    rw [Option.map_some, hread, hparse]
    rfl

/-- The layout of a tag that can be read is that of the first pair with the key. -/
theorem layout_policy_of_spells (h : Tag.content? literal = some text)
    {ps : List (List Char × List Char)} (htext : Tag.Spells text.toList ps) :
    (r.policy (some literal)).layout = ((ps.lookup r.layoutKey.toList).map fun value =>
      String.ofList (value.takeWhile (· ≠ ','))).getD r.defaultLayout := by
  have hread : Tag.read literal = .ok (ps.map fun p => .ofValue p.1 p.2) := by
    unfold Tag.read
    rw [h]
    show (Tag.parse text).mapError _ = _
    rw [Tag.parse_eq_ok_iff.mpr ⟨ps, htext, rfl⟩]
    rfl
  -- the naming rules leave the layout alone
  have hlayout : ∀ pairs, (r.policyOf pairs).layout =
      ((Tag.get? pairs r.layoutKey).map Tag.Pair.name).getD r.defaultLayout := by
    intro pairs
    unfold policyOf
    dsimp only
    split <;> rfl
  unfold policy
  rw [Option.map_some, hread]
  show (r.policyOf _).layout = _
  rw [hlayout, Tag.get?_ofValue, Option.map_map]
  simp only [Function.comp_def, Tag.name_ofValue]

/-- A tag decides for the layout that it gives. -/
theorem lays_iff : r.Lays tag layout ↔ (r.policy tag).layout = layout := by
  constructor
  · intro h
    cases h with
    | untagged => rfl
    | noLiteral hliteral => exact layout_policy_of_noLiteral hliteral
    | malformed hliteral htext => exact layout_policy_of_malformed hliteral htext
    | absent hliteral htext hvalue =>
      rw [layout_policy_of_spells hliteral htext, hvalue]
      rfl
    | given hliteral htext hvalue =>
      rw [layout_policy_of_spells hliteral htext, hvalue]
      rfl
  · rintro rfl
    -- the tag is missing, no literal, malformed, without the key, or has it
    cases tag with
    | none => exact .untagged
    | some literal =>
      cases hliteral : Tag.content? literal with
      | none =>
        rw [layout_policy_of_noLiteral hliteral]
        exact .noLiteral hliteral
      | some text =>
        by_cases htext : ∃ ps, Tag.Spells text.toList ps
        · obtain ⟨ps, htext⟩ := htext
          rw [layout_policy_of_spells hliteral htext]
          cases hvalue : ps.lookup r.layoutKey.toList with
          | none => exact .absent hliteral htext hvalue
          | some value => exact .given hliteral htext hvalue
        · rw [not_exists] at htext
          rw [layout_policy_of_malformed hliteral htext]
          exact .malformed hliteral htext

end TagRules

/-! ## Where layouts are written -/

namespace FieldMember

/-- What codec methods for times are given: the field itself, or its address. -/
def timeTarget (m : FieldMember) : String :=
  (if m.resolved.key.pointer then "" else "&") ++ "v." ++ m.name

/-- The statement that encodes a time. -/
def timeEncoding (m : FieldMember) (layout : String) : String :=
  "\tenc.TimeKey" ++ m.policy.omitEmptySuffix ++ "(\"" ++ m.key ++ "\", " ++ m.timeTarget ++
    ", " ++ layout ++ ")\n"

/-- The call that decodes a time. -/
def timeDecoding (m : FieldMember) (layout : String) : String :=
  "\t\treturn dec.Time(" ++ m.timeTarget ++ ", " ++ layout ++ ")\n"

variable {m : FieldMember}

/-- A time is converted in the style of times, pointers apart. -/
theorem style_of_time (h : m.resolved.key.base = .primitive .time) :
    m.resolved.key.style = .time m.resolved.key.pointer := by
  unfold EntryKey.style
  rw [h]
  exact if_pos rfl

/-- Codec methods for times are given the layout that the tag decides. -/
theorem layoutArgument_of_time (h : m.resolved.key.base = .primitive .time) :
    m.layoutArgument = ", " ++ m.policy.layout :=
  if_pos h

/-- A time is encoded with the layout that is decided for it. -/
theorem encodingText_of_time (h : m.resolved.key.base = .primitive .time) :
    m.encodingText = m.timeEncoding m.policy.layout := by
  have htarget : m.resolved.key.style.passing.mark ++ "v." ++ m.name = m.timeTarget := by
    unfold timeTarget
    rw [style_of_time h]
    cases m.resolved.key.pointer <;> rfl
  have hmethod : "\tenc." ++ m.stem ++ "Key" = "\tenc.TimeKey" := by
    unfold stem EntryKey.stem
    rw [style_of_time h]
    rfl
  have homits : m.resolved.key.style.omits = true := by
    rw [style_of_time h]
    rfl
  unfold encodingText timeEncoding
  rw [hmethod, if_pos homits, layoutArgument_of_time h, ← htarget]
  simp only [String.append_assoc]

/-- It is decoded with the same layout. -/
theorem decodingCall_of_time (h : m.resolved.key.base = .primitive .time) :
    m.decodingCall = m.timeDecoding m.policy.layout := by
  have htarget : m.resolved.key.style.fieldMark ++ "v." ++ m.name = m.timeTarget := by
    unfold timeTarget
    rw [style_of_time h]
    cases m.resolved.key.pointer <;> rfl
  have hmethod : "\t\treturn dec." ++ m.stem ++ "(" = "\t\treturn dec.Time(" := by
    unfold stem EntryKey.stem
    rw [style_of_time h]
    rfl
  unfold decodingCall timeDecoding
  rw [hmethod, layoutArgument_of_time h, ← htarget]
  simp only [String.append_assoc]

/-- The case for a time ends with the call that is given the layout. -/
theorem exists_caseText_of_time (h : m.resolved.key.base = .primitive .time) (owner : String) :
    ∃ head, m.caseText owner = head ++ m.timeDecoding m.policy.layout := by
  refine ⟨"\tcase \"" ++ m.key ++ "\":\n" ++ m.guardText owner, ?_⟩
  unfold caseText
  rw [decodingCall_of_time h]
  simp only [String.append_assoc]

end FieldMember

/-- The layout of a field is what its tag gives: the value of the first pair with the key of
layouts, as far as the first comma, or else the default layout. So it is the whole value if and only
if that has no comma. Where a struct is generated, every field that is a time is encoded and decoded
with this layout as it stands. -/
theorem emitStruct_layouts (s : Setting) :
    (∀ tag layout, s.rules.Lays tag layout ↔ (s.rules.policy tag).layout = layout) ∧
    (∀ literal text ps value, Tag.content? literal = some text → Tag.Spells text.toList ps →
      ps.lookup s.rules.layoutKey.toList = some value →
        ((s.rules.policy (some literal)).layout = String.ofList value ↔ ',' ∉ value)) ∧
    ∀ owner fields n, (emitStruct s owner fields).result = .ok n →
      textOf (emitStruct s owner fields).code =
          structText owner fields (decodedMembers s fields) (encodedMembers s fields) ∧
        ∀ m ∈ decodedMembers s fields ++ encodedMembers s fields,
          m.resolved.key.base = .primitive .time →
            ∃ field ∈ fields, m.name ∈ field.names ∧ ∀ layout, s.rules.Lays field.tag layout →
              m.encodingText = m.timeEncoding layout ∧
                ∃ head, m.caseText owner = head ++ m.timeDecoding layout := by
  refine ⟨fun tag layout => TagRules.lays_iff, ?_, ?_⟩
  · intro literal text ps value hliteral htext hvalue
    rw [TagRules.layout_policy_of_spells hliteral htext, hvalue]
    show String.ofList (value.takeWhile (· ≠ ',')) = String.ofList value ↔ _
    rw [String.ofList_inj, List.takeWhile_eq_self_iff]
    constructor
    · intro hall hcomma
      exact absurd (hall ',' hcomma) (by decide)
    · intro hcomma c hc
      exact decide_eq_true fun heq => hcomma (heq ▸ hc)
  · intro owner fields n h
    refine ⟨textOf_emitStruct h, fun m hm htime => ?_⟩
    obtain ⟨d, hable⟩ := exists_mem_convertible hm
    obtain ⟨field, hfield, name, hname, hof⟩ := exists_of?_of_mem_convertible hable
    obtain ⟨r, rfl⟩ := FieldMember.of?_eq_some hof
    -- the member comes from a field, and has the layout that the tag of that field lays
    refine ⟨field, hfield, hname, fun layout hlays => ?_⟩
    rw [TagRules.lays_iff] at hlays
    rw [← hlays]
    exact ⟨FieldMember.encodingText_of_time htime,
      FieldMember.exists_caseText_of_time htime owner⟩

/-- The text of a tag whose layout is a name. -/
def nameLayoutText : String :=
  "fmt:\"time.DateOnly\""

/-- The text of a tag whose layout is a literal with a comma. -/
def commaLayoutText : String :=
  "fmt:\"\\\"Jan 2, 2006\\\"\""

/-- The first text has one pair, with the name as its value. -/
theorem spells_nameLayoutText :
    Tag.Spells nameLayoutText.toList [("fmt".toList, "time.DateOnly".toList)] := by
  have htext : nameLayoutText.toList = "fmt".toList ++ ':' :: '"' :: "time.DateOnly\"".toList := by
    decide
  rw [htext]
  exact Tag.spells_pair (by decide) (by decide) (by decide +kernel) (by decide +kernel)

/-- The second text has one pair, with the literal and its comma as its value. -/
theorem spells_commaLayoutText :
    Tag.Spells commaLayoutText.toList [("fmt".toList, "\"Jan 2, 2006\"".toList)] := by
  have htext : commaLayoutText.toList =
      "fmt".toList ++ ':' :: '"' :: "\\\"Jan 2, 2006\\\"\"".toList := by
    decide
  rw [htext]
  exact Tag.spells_pair (by decide) (by decide) (by decide +kernel) (by decide +kernel)

/-- A time, and a pointer to one, with these two tags. -/
def timeFields : List Field :=
  [⟨["Day"], .qualified "time" "Time", some (Tag.rawLiteral nameLayoutText)⟩,
    ⟨["Until"], .pointer (.qualified "time" "Time"), some (Tag.rawLiteral commaLayoutText)⟩]

/-- The layout without a comma is written whole, and the one with a comma is cut off there. -/
theorem emitStruct_layouts_timeFields :
    let s : Setting := ⟨⟨"gojay", "fmt", "time.RFC3339"⟩, .empty⟩
    (s.rules.policy (some (Tag.rawLiteral nameLayoutText))).layout = "time.DateOnly" ∧
      (emitStruct s "T" timeFields).result = .ok 2 ∧
      ∀ m ∈ decodedMembers s timeFields ++ encodedMembers s timeFields, m.name = "Day" →
        m.encodingText = m.timeEncoding "time.DateOnly" := by
  intro s
  obtain ⟨hlays, hwhole, hstruct⟩ := emitStruct_layouts s
  have hok : (emitStruct s "T" timeFields).result = .ok 2 := by decide +kernel
  have hlayout : (s.rules.policy (some (Tag.rawLiteral nameLayoutText))).layout =
      "time.DateOnly" :=
    (hwhole _ _ _ _ (Tag.content?_rawLiteral _) spells_nameLayoutText (by decide)).mpr (by decide)
  refine ⟨hlayout, hok, fun m hm hname => ?_⟩
  have htimes : ∀ m ∈ decodedMembers s timeFields ++ encodedMembers s timeFields,
      m.resolved.key.base = .primitive .time := by
    decide +kernel
  obtain ⟨-, hmembers⟩ := hstruct "T" timeFields 2 hok
  obtain ⟨field, hfield, hfieldName, htext⟩ := hmembers m hm (htimes m hm)
  have htag : field.tag = some (Tag.rawLiteral nameLayoutText) := by
    simp only [timeFields, List.mem_cons, List.not_mem_nil, or_false] at hfield
    rcases hfield with rfl | rfl
    · rfl
    · rw [hname] at hfieldName
      exact absurd hfieldName (by decide)
  rw [htag] at htext
  exact (htext _ ((hlays _ _).mpr hlayout)).1

/-- The value that the text has for the key of layouts is a literal, but the layout is cut at its
comma, and so is the code for the field. -/
theorem layouts_not_whole :
    let s : Setting := ⟨⟨"gojay", "fmt", "time.RFC3339"⟩, .empty⟩
    Tag.content? (Tag.rawLiteral commaLayoutText) = some commaLayoutText ∧
      Tag.Spells commaLayoutText.toList [("fmt".toList, "\"Jan 2, 2006\"".toList)] ∧
      (s.rules.policy (some (Tag.rawLiteral commaLayoutText))).layout = "\"Jan 2" ∧
      (encodedMembers s timeFields).map FieldMember.encodingText =
        ["\tenc.TimeKey(\"day\", &v.Day, time.DateOnly)\n",
          "\tenc.TimeKey(\"until\", v.Until, \"Jan 2)\n"] := by
  refine ⟨Tag.content?_rawLiteral _, spells_commaLayoutText, ?_, ?_⟩
  · decide +kernel
  · decide +kernel

end CodecGen
