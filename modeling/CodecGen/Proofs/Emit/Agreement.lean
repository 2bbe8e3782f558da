import CodecGen.Proofs.Emit.Container
import CodecGen.Proofs.Emit.StructText

/-!
# The encoder and the decoder agree

Both directions resolve the policy, the key and the entry of a member for themselves and write it
from templates of their own. What they write fits together nonetheless: the same method stem, the
same key, the same field and the same layout.
-/

namespace CodecGen

open Fragment (textOf)

/-! ## What agreement means -/

/-- The statement for an encoded field and the case of a decoded one use the stem, the key, the name
and the layout of the former. -/
def FieldsAgree (owner : String) (encoded decoded : FieldMember) : Prop :=
  (∃ suffix mark : String,
    encoded.encodingText = "\tenc." ++ encoded.stem ++ "Key" ++ suffix ++ "(\"" ++ encoded.key ++
      "\", " ++ mark ++ "v." ++ encoded.name ++ encoded.layoutArgument ++ ")\n" ∧
    suffix ∈ ["", "OmitEmpty"] ∧ mark ∈ ["", "*", "&"]) ∧
  ∃ mark : String,
    decoded.caseText owner = "\tcase \"" ++ encoded.key ++ "\":\n" ++ (decoded.guardText owner ++
      ("\t\treturn dec." ++ encoded.stem ++ "(" ++ mark ++ "v." ++ encoded.name ++
        encoded.layoutArgument ++ ")\n")) ∧
    mark ∈ ["", "&"]

/-- The bodies of the methods of an array are both empty where its elements have no entry. Else both
call the codec methods of this entry, with the default layout where they ask for one. -/
def ArrayBodiesAgree (s : Setting) (owner decoding encoding : String) : Option Resolved → Prop
  | none => decoding = "" ∧ encoding = ""
  | some r =>
      encoding = r.key.style.elementLoop ++
        ("\t\tenc." ++ r.key.stem ++ "(" ++ r.key.style.passing.mark ++ r.key.style.elementText ++
          r.key.layoutArgument s.rules.defaultLayout ++ ")\n\t\x7d\n") ∧
      decoding = "\tvar " ++ r.key.style.letter ++
          r.key.style.creationOf (r.key.typeText (r.concrete.getD owner)) ++
        ("\n\tif err := dec." ++ r.key.stem ++ "(" ++ r.key.style.freshMark ++
          r.key.style.letter ++ r.key.layoutArgument s.rules.defaultLayout ++
          "); err != nil \x7b\n\t\treturn err\n\t\x7d\n") ++
        ("\t*v = append(*v, " ++ r.key.style.stored ++ ")\n")

/-- The same for a map and the entry of its values. Its encoder method is given the key as well. -/
def MapBodiesAgree (s : Setting) (owner decoding encoding : String) : Option Resolved → Prop
  | none => decoding = "" ∧ encoding = ""
  | some r =>
      encoding = r.key.style.entryLoop ++
        ("\t\tenc." ++ r.key.stem ++ "Key(k, " ++ r.key.style.passing.mark ++
          r.key.style.letter ++ r.key.layoutArgument s.rules.defaultLayout ++ ")\n\t\x7d\n") ∧
      decoding = "\tvar " ++ r.key.style.letter ++
          r.key.style.creationOf (r.key.typeText (r.concrete.getD owner)) ++
        ("\n\tif err := dec." ++ r.key.stem ++ "(" ++ r.key.style.freshMark ++
          r.key.style.letter ++ r.key.layoutArgument s.rules.defaultLayout ++
          "); err != nil \x7b\n\t\treturn err\n\t\x7d\n") ++
        ("\tv[k] = " ++ r.key.style.stored ++ "\n")

/-! ## Agreement of members -/

/-- A field that is converted in both directions is converted as the same member. -/
theorem member?_eq_of_both {s : Setting} {visit : FieldVisit} {m m' : FieldMember}
    (hm : visit.member? s .marshal = some m) (hm' : visit.member? s .unmarshal = some m') :
    m' = m := by
  cases visit with
  | embedded type => cases hm
  | named name field =>
    -- a direction decides whether there is a member, and has no say in which
    have hof : ∀ {d : Direction} {m : FieldMember},
        (FieldVisit.named name field).member? s d = some m →
          FieldMember.of? s name field = some m := by
      intro d m hmem
      by_cases hhide : (s.rules.policy field.tag).hides d = true
      · rw [FieldVisit.member?_of_hides hhide name] at hmem
        cases hmem
      · exact FieldVisit.member?_of_not_hides hhide name ▸ hmem
    exact Option.some.inj ((hof hm').symm.trans (hof hm))

/-- The statement and the case of one member agree with each other. -/
theorem fieldsAgree_self (owner : String) (m : FieldMember) : FieldsAgree owner m m := by
  refine ⟨⟨_, _, rfl, ?_, ?_⟩, _, rfl, ?_⟩
  · cases m.resolved.key.style.omits with
    | false => exact List.mem_cons_self
    | true =>
      show m.policy.omitEmptySuffix ∈ _
      unfold Policy.omitEmptySuffix
      cases m.policy.omitEmpty <;> decide
  · cases m.resolved.key.style.passing <;> decide
  · show m.resolved.key.style.fieldMark ∈ _
    unfold Style.fieldMark
    cases m.resolved.key.style.pointer <;> decide

/-- The bodies written for an array agree, whether its elements have an entry or not. -/
theorem arrayBodiesAgree_of_resolved (s : Setting) (owner : String) (resolved : Option Resolved) :
    ArrayBodiesAgree s owner
      (bodyText resolved fun r =>
        r.key.elementDecoding (r.concrete.getD owner) s.rules.defaultLayout)
      (bodyText resolved fun r => r.key.elementEncoding s.rules.defaultLayout) resolved := by
  cases resolved with
  | none => exact ⟨rfl, rfl⟩
  | some r => exact ⟨rfl, rfl⟩

/-- The bodies written for a map agree, whether its values have an entry or not. -/
theorem mapBodiesAgree_of_resolved (s : Setting) (owner : String) (resolved : Option Resolved) :
    MapBodiesAgree s owner
      (bodyText resolved fun r =>
        r.key.entryDecoding (r.concrete.getD owner) s.rules.defaultLayout)
      (bodyText resolved fun r => r.key.entryEncoding s.rules.defaultLayout) resolved := by
  cases resolved with
  | none => exact ⟨rfl, rfl⟩
  | some r => exact ⟨rfl, rfl⟩

/-! ## Agreement of declarations -/

/-- The methods written for a declaration agree. A struct encodes all fields that can be encoded and
decodes the first for each key of those that can be decoded, and the two agree on every field that
is among both. The bodies written for an array or a map are those of the entry that its elements or
values resolve to, and agree; nothing is written where it fails. -/
theorem codecs_agree (s : Setting) (owner : String) :
    (∀ (fields : List Field) (n : Nat), (emitStruct s owner fields).result = .ok n →
      textOf (emitStruct s owner fields).code =
          structText owner fields (firstPerKey [] (convertible s .unmarshal fields))
            (convertible s .marshal fields) ∧
        ∀ visit ∈ fieldVisits fields, ∀ m m',
          visit.member? s .marshal = some m → visit.member? s .unmarshal = some m' →
            FieldsAgree owner m m') ∧
    (∀ elem : GoType,
      match (emitArray s owner elem).result with
      | .error _ => (emitArray s owner elem).code = []
      | .ok _ => ∃ signature decoding encoding, Signature.ofArrayElement elem = .ok signature ∧
        textOf (emitArray s owner elem).code = arrayText owner decoding encoding ∧
          ArrayBodiesAgree s owner decoding encoding (signature.resolve? s.table)) ∧
    ∀ key value : GoType,
      match (emitMap s owner key value).result with
      | .error _ => (emitMap s owner key value).code = []
      | .ok _ => ∃ signature decoding encoding, Signature.ofMapValue value = .ok signature ∧
        textOf (emitMap s owner key value).code = mapText owner decoding encoding ∧
          MapBodiesAgree s owner decoding encoding (signature.resolve? s.table) := by
  refine ⟨?_, ?_, ?_⟩
  · intro fields n h
    obtain ⟨_, hcode⟩ := emitStruct_ensures s owner fields n h
    refine ⟨?_, ?_⟩
    · rw [hcode]
      exact textOf_structCode owner fields _ _
    · intro visit _ m m' hm hm'
      -- there is only one member, and its two texts are filled in from the same parts
      rw [member?_eq_of_both hm hm']
      exact fieldsAgree_self owner m
  · intro elem
    cases hsig : Signature.ofArrayElement elem with
    | error e =>
      obtain ⟨hresult, hcode⟩ := emitArray_fails hsig s owner
      rw [hresult]
      exact hcode
    | ok signature =>
      obtain ⟨hresult, hcode⟩ := emitArray_returns (s := s) hsig owner
      rw [hresult, hcode]
      exact ⟨signature, _, _, rfl, textOf_arrayCode s owner _,
        arrayBodiesAgree_of_resolved s owner _⟩
  · intro key value
    cases hsig : Signature.ofMapValue value with
    | error e =>
      obtain ⟨hresult, hcode⟩ := emitMap_fails hsig s owner key
      rw [hresult]
      exact hcode
    | ok signature =>
      obtain ⟨hresult, hcode⟩ := emitMap_returns (s := s) hsig owner key
      rw [hresult, hcode]
      exact ⟨signature, _, _, rfl, textOf_mapCode s owner _, mapBodiesAgree_of_resolved s owner _⟩

/-- A struct with a field that is converted in both directions and needs everything that a method
can be given, and a field that is not encoded. -/
def eventFields : List Field :=
  [⟨["At"], .pointer (.qualified "time" "Time"),
      some "\x60gojay:\"start,omitempty\" fmt:\"time.RFC822\"\x60"⟩,
    ⟨["Note"], .ident "string", some "\x60gojay:\"-m\"\x60"⟩]

/-- A time that is left out where it is empty is written with its own key and layout in both
methods. -/
theorem codecs_agree_eventFields :
    let s : Setting := ⟨⟨"gojay", "fmt", "time.RFC3339"⟩, .empty⟩
    let visit := FieldVisit.named "At" ⟨["At"], .pointer (.qualified "time" "Time"),
      some "\x60gojay:\"start,omitempty\" fmt:\"time.RFC822\"\x60"⟩
    (emitStruct s "Event" eventFields).result = .ok 2 ∧
      ∃ m, visit.member? s .marshal = some m ∧ visit.member? s .unmarshal = some m ∧
        FieldsAgree "Event" m m ∧
        m.encodingText = "\tenc.TimeKeyOmitEmpty(\"start\", v.At, time.RFC822)\n" := by
  intro s visit
  have hok : (emitStruct s "Event" eventFields).result = .ok 2 := by decide +kernel
  obtain ⟨m, hm⟩ : ∃ m, visit.member? s .marshal = some m :=
    Option.isSome_iff_exists.mp (by decide +kernel)
  have hm' : visit.member? s .unmarshal = some m := by
    rw [← hm]
    decide +kernel
  have hmem : visit ∈ fieldVisits eventFields := List.mem_cons_self
  have hagree := ((codecs_agree s "Event").1 eventFields 2 hok).2 visit hmem m m hm hm'
  have htext : (visit.member? s .marshal).map FieldMember.encodingText =
      some "\tenc.TimeKeyOmitEmpty(\"start\", v.At, time.RFC822)\n" := by
    decide +kernel
  rw [hm] at htext
  exact ⟨hok, m, hm, hm', hagree, Option.some.inj htext⟩

end CodecGen
