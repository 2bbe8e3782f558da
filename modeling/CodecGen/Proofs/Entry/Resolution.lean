import CodecGen.Proofs.Entry.Signature
import CodecGen.Proofs.Package.Names
import Mathlib.Data.List.Basic

/-!
# What a signature stands for

A signature keeps all of the type that it is read off: types without dots inside their names are
the same if their signatures are (`Signature.ofField_injective`), and such are all types that are
read from a source (`Package.parse_isDotless`). `Signature.Finds` says what a signature stands for
when some types are declared, and the look-up finds just that (`Signature.finds_iff`).
-/

namespace CodecGen

/-! ## Types with a signature -/

/-- No name that the type is written with has a dot inside. -/
def GoType.IsDotless (t : GoType) : Prop :=
  ∀ name ∈ t.idents, '.' ∉ name.toList

/-- The types of a package that is read from a source are written with identifiers. -/
theorem Package.parse_isDotless {source : String} {p : Package}
    (h : (Package.parse source).result = .ok p) : ∀ d ∈ p.decls, d.type.IsDotless :=
  fun d hd name hname => Token.dot_notMem_of_lexes_ident (Package.parse_idents h d hd name hname)

namespace Signature

variable {t t' : GoType} {s : Signature}

/-- The types with a signature as fields are the members. -/
theorem exists_ofField_iff : (∃ s, ofField t = .ok s) ↔ t.IsMember := by
  constructor
  · rintro ⟨s, hs⟩
    by_contra hno
    rw [ofField_of_not_isMember hno] at hs
    cases hs
  · exact exists_of_isMember

/-- The types with a signature as elements of arrays are the elements. -/
theorem exists_ofArrayElement_iff : (∃ s, ofArrayElement t = .ok s) ↔ t.IsElement := by
  constructor
  · rintro ⟨s, hs⟩
    by_contra hno
    rw [ofArrayElement_of_not_isElement hno] at hs
    cases hs
  · exact exists_of_isElement

/-- What an element may be, a field may be, with the same signature. -/
theorem ofField_of_ofArrayElement (h : ofArrayElement t = .ok s) : ofField t = .ok s := by
  cases exists_ofArrayElement_iff.mp ⟨s, h⟩ with
  | value name => exact h
  | pointer name => exact h

/-- What has a signature by its name is a name. -/
theorem isName_of_ofName {pointer : Bool} (h : ofName pointer t = .ok s) : t.IsName := by
  by_contra hno
  rw [ofName_of_not_isName hno] at h
  cases h

/-- A qualified name has a dot in it. -/
theorem dot_mem_qualified (qualifier name : String) :
    '.' ∈ (qualifier ++ "." ++ name).toList := by
  simp

/-- A name is cut at its dot in one way. -/
theorem qualified_inj {qualifier name qualifier' name' : String}
    (hqualifier : '.' ∉ qualifier.toList) (hname : '.' ∉ name.toList)
    (h : qualifier ++ "." ++ name = qualifier' ++ "." ++ name') :
    qualifier = qualifier' ∧ name = name' := by
  have htext : qualifier.toList ++ '.' :: name.toList =
      qualifier'.toList ++ '.' :: name'.toList := by
    simpa using congrArg String.toList h
  obtain ⟨hleft, -, hright⟩ := (List.append_cons_inj_of_notMem hqualifier hname).mp htext
  exact ⟨String.toList_inj.mp hleft, String.toList_inj.mp hright⟩

/-- A name keeps what it is read off. -/
theorem ofName_injective {pointer : Bool} (ht : t.IsDotless) (ht' : t'.IsDotless)
    (h : ofName pointer t = .ok s) (h' : ofName pointer t' = .ok s) : t = t' := by
  cases isName_of_ofName h with
  | ident name =>
    obtain rfl := Except.ok.inj h
    cases isName_of_ofName h' with
    | ident name' => exact congrArg (GoType.ident ·.name) (Except.ok.inj h').symm
    | qualified qualifier' name' =>
      -- the dot would stand in a name that has none
      have hname : qualifier' ++ "." ++ name' = name :=
        congrArg Signature.name (Except.ok.inj h')
      exact absurd (hname ▸ dot_mem_qualified qualifier' name')
        (ht name (List.mem_singleton_self _))
  | qualified qualifier name =>
    obtain rfl := Except.ok.inj h
    cases isName_of_ofName h' with
    | ident name' =>
      have hname : qualifier ++ "." ++ name = name' :=
        congrArg Signature.name (Except.ok.inj h').symm
      exact absurd (hname ▸ dot_mem_qualified qualifier name)
        (ht' name' (List.mem_singleton_self _))
    | qualified qualifier' name' =>
      have hname : qualifier ++ "." ++ name = qualifier' ++ "." ++ name' :=
        congrArg Signature.name (Except.ok.inj h').symm
      obtain ⟨rfl, rfl⟩ := qualified_inj (ht qualifier List.mem_cons_self)
        (ht name (List.mem_cons_of_mem _ List.mem_cons_self)) hname
      rfl

/-- The pointer mark of the expression is that of the signature; the rest is a name. -/
theorem exists_ofName_of_ofField (h : ofField t = .ok s) :
    ∃ elem, ofName s.pointer elem = .ok s ∧ t = if s.pointer then .pointer elem else elem := by
  have hpointer : ∀ {pointer : Bool} {elem : GoType}, ofName pointer elem = .ok s →
      s.pointer = pointer := by
    intro pointer elem hname
    cases isName_of_ofName hname with
    | ident => exact congrArg Signature.pointer (Except.ok.inj hname).symm
    | qualified => exact congrArg Signature.pointer (Except.ok.inj hname).symm
  cases exists_ofField_iff.mp ⟨s, h⟩ with
  | value hname =>
    have hvalue : ofName false t = .ok s := by
      cases hname with
      | ident => exact h
      | qualified => exact h
    rw [hpointer hvalue]
    exact ⟨t, hvalue, rfl⟩
  | pointer hname =>
    have helem : ofName true _ = .ok s := h
    rw [hpointer helem]
    exact ⟨_, helem, rfl⟩

/-- Different types have different signatures, if any. -/
theorem ofField_injective (ht : t.IsDotless) (ht' : t'.IsDotless) (h : ofField t = .ok s)
    (h' : ofField t' = .ok s) : t = t' := by
  obtain ⟨elem, hname, helem⟩ := exists_ofName_of_ofField h
  obtain ⟨elem', hname', helem'⟩ := exists_ofName_of_ofField h'
  have hidents : ∀ {u v : GoType}, u = (if s.pointer then .pointer v else v) →
      u.idents = v.idents := by
    intro u v huv
    rw [huv]
    split <;> rfl
  have hdotless : elem.IsDotless := fun name hmem => ht name (hidents helem ▸ hmem)
  have hdotless' : elem'.IsDotless := fun name hmem => ht' name (hidents helem' ▸ hmem)
  rw [helem, helem', ofName_injective hdotless hdotless' hname hname']

end Signature

/-! ## The names of primitive types -/

/-- The names of a primitive type: its spelling, and for two of them a second one. -/
inductive Primitive.HasName : Primitive → String → Prop
  | spelling (p : Primitive) : HasName p p.spelling
  | byte : HasName .uint8 "byte"
  | rune : HasName .int32 "rune"

/-- Primitive types are found by their names, second names included. -/
theorem Primitive.ofName?_eq_some_iff {name : String} {p : Primitive} :
    ofName? name = some p ↔ p.HasName name := by
  constructor
  · intro h
    unfold ofName? at h
    split at h
    · cases h
      exact .byte
    · cases h
      exact .rune
    · have hspelling := List.find?_some h
      rw [decide_eq_true_iff] at hspelling
      exact hspelling ▸ .spelling p
  · intro h
    cases h with
    | spelling => cases p <;> rfl
    | byte => rfl
    | rune => rfl

/-- No primitive type is found by any other name. -/
theorem Primitive.ofName?_eq_none_iff {name : String} :
    ofName? name = none ↔ ∀ p : Primitive, ¬p.HasName name := by
  simp only [Option.eq_none_iff_forall_ne_some, ne_eq, ofName?_eq_some_iff]

/-! ## Look-ups -/

namespace Signature

/-- What a signature stands for when some types are declared. The name of a primitive type stands
for it whatever is declared; any other for its declaration, by the kind of that and under its own
name. -/
inductive Finds (table : TypeTable) (s : Signature) : Option Resolved → Prop
  | primitive {p : Primitive} (h : p.HasName s.name) :
      Finds table s (some ⟨⟨.primitive p, s.pointer⟩, none⟩)
  | struct {fields : List Field} (hother : ∀ p : Primitive, ¬p.HasName s.name)
      (h : table.get? s.name = some (.struct fields)) :
      Finds table s (some ⟨⟨.wildcard .struct, s.pointer⟩, some s.name⟩)
  | array {len : Option String} {elem : GoType} (hother : ∀ p : Primitive, ¬p.HasName s.name)
      (h : table.get? s.name = some (.array len elem)) :
      Finds table s (some ⟨⟨.wildcard .array, s.pointer⟩, some s.name⟩)
  /-- A type of any other kind, a map or another name among them. -/
  | any {type : GoType} (hother : ∀ p : Primitive, ¬p.HasName s.name)
      (h : table.get? s.name = some type) (hstruct : ∀ fields, type ≠ .struct fields)
      (harray : ∀ len elem, type ≠ .array len elem) :
      Finds table s (some ⟨⟨.wildcard .any, s.pointer⟩, some s.name⟩)
  | nothing (hother : ∀ p : Primitive, ¬p.HasName s.name) (h : table.get? s.name = none) :
      Finds table s none

variable {table : TypeTable} {s : Signature} {found : Option Resolved}

/-- The name of a primitive type stands for it, whatever is declared. -/
theorem resolve?_of_hasName {p : Primitive} (h : p.HasName s.name) :
    s.resolve? table = some ⟨⟨.primitive p, s.pointer⟩, none⟩ := by
  unfold resolve? primitiveKey?
  rw [Primitive.ofName?_eq_some_iff.mpr h]
  rfl

/-- Any other name stands for its declaration, by the kind of that. -/
theorem resolve?_of_not_hasName (hother : ∀ p : Primitive, ¬p.HasName s.name) :
    s.resolve? table = (table.get? s.name).map fun type =>
      ⟨⟨.wildcard (DeclKind.of type).wildcard, s.pointer⟩, some s.name⟩ := by
  unfold resolve? primitiveKey? TypeTable.kind?
  rw [Primitive.ofName?_eq_none_iff.mpr hother, Option.map_map]
  rfl

/-- What a signature stands for is what it resolves to. -/
theorem Finds.resolve?_eq (h : s.Finds table found) : s.resolve? table = found := by
  cases h with
  | primitive h => exact resolve?_of_hasName h
  | struct hother h | array hother h | nothing hother h =>
    rw [resolve?_of_not_hasName hother, h]
    rfl
  | @any type hother h hstruct harray =>
    rw [resolve?_of_not_hasName hother, h]
    cases type with
    | struct fields => exact absurd rfl (hstruct fields)
    | array len elem => exact absurd rfl (harray len elem)
    | _ => rfl

/-- Every signature stands for something, or for nothing. -/
theorem exists_finds (table : TypeTable) (s : Signature) : ∃ found, s.Finds table found := by
  by_cases hprimitive : ∃ p : Primitive, p.HasName s.name
  · obtain ⟨p, hp⟩ := hprimitive
    exact ⟨_, .primitive hp⟩
  · have hother := not_exists.mp hprimitive
    cases hget : table.get? s.name with
    | none => exact ⟨_, .nothing hother hget⟩
    | some type =>
      cases type with
      | struct fields => exact ⟨_, .struct hother hget⟩
      | array len elem => exact ⟨_, .array hother hget⟩
      | _ => exact ⟨_, .any hother hget (by simp) (by simp)⟩

/-- The look-up finds what the signature stands for. -/
theorem finds_iff : s.Finds table found ↔ s.resolve? table = found := by
  refine ⟨Finds.resolve?_eq, ?_⟩
  rintro rfl
  obtain ⟨found, hfound⟩ := exists_finds table s
  rwa [hfound.resolve?_eq]

/-- What is found is for pointers if the signature is. -/
theorem Finds.pointer_eq {r : Resolved} (h : s.Finds table (some r)) :
    r.key.pointer = s.pointer := by
  cases h <;> rfl

/-- What is found carries a name if it stands for a declaration, and that of the signature. -/
theorem Finds.concrete_cases {r : Resolved} (h : s.Finds table (some r)) :
    (∃ p, r.key.base = .primitive p ∧ r.concrete = none) ∨
      ∃ w, r.key.base = .wildcard w ∧ r.concrete = some s.name := by
  cases h with
  | primitive => exact .inl ⟨_, rfl, rfl⟩
  | struct | array | any => exact .inr ⟨_, rfl, rfl⟩

/-- A signature stands for nothing if its name is neither that of a primitive type nor declared. -/
theorem finds_none_iff : s.Finds table none ↔
    (∀ p : Primitive, ¬p.HasName s.name) ∧ table.get? s.name = none := by
  constructor
  · rintro (_ | _ | _ | _ | ⟨hother, h⟩)
    exact ⟨hother, h⟩
  · exact fun ⟨hother, h⟩ => .nothing hother h

/-- Types are told by their signatures, and signatures mean in a table what they say. -/
structure IsFaithful (table : TypeTable) : Prop where
  /-- The types of fields that have a signature. -/
  field : ∀ t, (∃ s, ofField t = .ok s) ↔ t.IsMember
  /-- Those of the values of maps. -/
  value : ∀ t, (∃ s, ofMapValue t = .ok s) ↔ t.IsMember
  /-- Those of the elements of arrays. -/
  element : ∀ t, (∃ s, ofArrayElement t = .ok s) ↔ t.IsElement
  /-- A type has one signature, wherever it stands. -/
  agree : ∀ t s s', ofField t = .ok s → ofArrayElement t = .ok s' → s = s'
  /-- Different types have different signatures. -/
  injective : ∀ (t t' : GoType) s, t.IsDotless → t'.IsDotless →
    (ofField t = .ok s ∨ ofArrayElement t = .ok s) →
    (ofField t' = .ok s ∨ ofArrayElement t' = .ok s) → t = t'
  /-- Nothing is found where a name is that of no primitive type and not declared, and only
  there. -/
  missing : ∀ s : Signature, s.resolve? table = none ↔
    (∀ p : Primitive, ¬p.HasName s.name) ∧ table.get? s.name = none
  /-- The name of a primitive type means that type even if it is declared. -/
  primitive : ∀ (s : Signature) (p : Primitive), p.HasName s.name →
    s.resolve? table = some ⟨⟨.primitive p, s.pointer⟩, none⟩
  /-- What is found is what the signature stands for. -/
  found : ∀ (s : Signature) found, s.resolve? table = found ↔ s.Finds table found
  /-- The pointer mark is kept. -/
  pointer : ∀ (s : Signature) r, s.resolve? table = some r → r.key.pointer = s.pointer
  /-- The name is kept exactly where a shape is found. -/
  concrete : ∀ (s : Signature) r name, s.resolve? table = some r →
    (r.concrete = some name ↔ (∃ w, r.key.base = .wildcard w) ∧ name = s.name)

/-- In every table, signatures tell types apart and mean what they say. -/
theorem isFaithful (table : TypeTable) : IsFaithful table := by
  constructor
  case field => exact fun _ => exists_ofField_iff
  case value => exact fun _ => exists_ofField_iff
  case element => exact fun _ => exists_ofArrayElement_iff
  case agree =>
    intro t s s' hs hs'
    exact Except.ok.inj (hs.symm.trans (ofField_of_ofArrayElement hs'))
  case injective =>
    intro t t' s ht ht' hs hs'
    exact ofField_injective ht ht' (hs.elim id ofField_of_ofArrayElement)
      (hs'.elim id ofField_of_ofArrayElement)
  case missing => exact fun s => finds_iff.symm.trans finds_none_iff
  case primitive => exact fun s p => resolve?_of_hasName
  case found => exact fun s found => finds_iff.symm
  case pointer => exact fun s r hr => (finds_iff.mpr hr).pointer_eq
  case concrete =>
    intro s r name hr
    rcases (finds_iff.mpr hr).concrete_cases with ⟨p, hbase, hnone⟩ | ⟨w, hbase, hname⟩
    · simp [hbase, hnone]
    · simp [hbase, hname, eq_comm]

end Signature

end CodecGen
