import CodecGen.Proofs.Emit.Struct
import CodecGen.Proofs.Emit.Verbatim
import CodecGen.Proofs.Entry.Resolution
import CodecGen.Proofs.Package.Statements

/-!
# The type that a member is converted as

All code that a pass writes for a member is that of the entry which the type of the member stands
for. Where it names a declared type it names that of the member, and the name of the type around it
does not occur in it at all (`generateWith_memberTypes`).
-/

namespace CodecGen

open Drive
open Fragment (textOf importsOf)

/-! ## Templates and the names they are given -/

/-- No template for members has a hole for the type around the member. -/
theorem EntryKey.owner_notMem_vars (k : EntryKey) (slot : Slot) (d : Direction) :
    Var.owner ∉ (k.template slot d).body.vars := by
  have hall : ∀ k ∈ EntryKey.all, ∀ slot ∈ Slot.all, ∀ d ∈ [Direction.marshal, .unmarshal],
      Var.owner ∉ (k.template slot d).body.vars := by
    decide +kernel
  exact hall k k.mem_all slot slot.mem_all d (by cases d <;> decide)

/-- A template that names a type is that of declared types. -/
theorem EntryKey.typeName_mem_vars {k : EntryKey} {slot : Slot} {d : Direction}
    (h : Var.typeName ∈ (k.template slot d).body.vars) : ∃ w, k.base = .wildcard w := by
  have hsupplied := Template.mem_of_asksOnly (k.asksOnly_template slot d) h
  obtain ⟨base, pointer⟩ := k
  cases base with
  | wildcard w => exact ⟨w, rfl⟩
  | primitive p =>
    have hnone : Var.typeName ∉
        (EntryKey.builder ⟨.primitive p, pointer⟩ slot d).supplied slot := by
      unfold EntryKey.builder
      dsimp only
      split <;> cases slot <;> decide
    exact absurd hsupplied hnone

/-- A record for a member of a primitive type does not carry the name of a type. -/
theorem EntryKey.typeName_of_primitive (p : Primitive) (pointer : Bool) (d : Direction)
    (i : MemberInput) :
    ((EntryKey.template ⟨.primitive p, pointer⟩ i.slot d).builder.params i).env .typeName =
      none := by
  obtain ⟨slot, _, _, _, _, _, _⟩ := i
  show ((EntryKey.builder ⟨.primitive p, pointer⟩ slot d).params _).env .typeName = none
  unfold EntryKey.builder
  dsimp only
  split <;> cases slot <;> rfl

/-- A record that carries the name of a type carries that of the member's own type, if it has a
declared one. -/
theorem Builder.typeName_of_concrete {b : Builder} {i : MemberInput} {name : String} {v : Value}
    (hconcrete : i.concrete = some name) (h : (b.params i).env .typeName = some v) :
    v = .text name := by
  obtain ⟨slot, _, _, _, _, _, concrete⟩ := i
  obtain rfl : concrete = some name := hconcrete
  cases b with
  | named => cases slot <;> exact (Option.some.inj h).symm
  | basic | time => cases slot <;> cases h

/-- The text for a member with a declared type of its own, or of a primitive type, does not depend
on the type around it. -/
theorem EntryKey.render_owner {key : EntryKey} {i : MemberInput} (d : Direction)
    (h : ∀ w, key.base = .wildcard w → i.concrete ≠ none) (owner : String) :
    (Fragment.member key d { i with owner := owner }).render =
      (Fragment.member key d i).render := by
  have hvalue : ∀ var ∈ (key.template i.slot d).body.vars,
      MemberInput.value { i with owner := owner } var = i.value var := by
    intro var hvar
    cases var with
    | owner => exact absurd hvar (key.owner_notMem_vars i.slot d)
    | typeName =>
      obtain ⟨w, hw⟩ := EntryKey.typeName_mem_vars hvar
      obtain ⟨name, hname⟩ := Option.ne_none_iff_exists'.mp (h w hw)
      simp only [MemberInput.value, hname, Option.getD_some]
    | _ => rfl
  rw [Fragment.render_of_isSupplied (Fragment.isSupplied_member key d i),
    Fragment.render_of_isSupplied (Fragment.isSupplied_member key d _)]
  exact congrArg Except.ok (Template.fill_congr hvalue)

/-! ## Members -/

/-- The types of the members of a declared type, and where they stand in it. -/
inductive TypeDecl.HasMember : TypeDecl → Slot → GoType → Prop
  | field {owner : String} {fields : List Field} {f : Field} (hf : f ∈ fields) :
      HasMember ⟨owner, .struct fields⟩ .field f.type
  | entry {owner : String} {key value : GoType} : HasMember ⟨owner, .map key value⟩ .entry value
  | element {owner : String} {len : Option String} {elem : GoType} :
      HasMember ⟨owner, .array len elem⟩ .element elem

/-- The signature of the type of a member, by where it stands. -/
def Signature.ofMember : Slot → GoType → Except GenError Signature
  | .field => ofField
  | .entry => ofMapValue
  | .element => ofArrayElement

/-- The code for a member of a declaration is that of the entry which a signature stands for, which
is the signature of the type of the member, and no other type is named in it. -/
structure TypeDecl.Converts (table : TypeTable) (d : TypeDecl) (key : EntryKey) (dir : Direction)
    (input : MemberInput) (type : GoType) (s : Signature) : Prop where
  owner : input.owner = d.name
  member : d.HasMember input.slot type
  signed : Signature.ofMember input.slot type = .ok s
  finds : s.Finds table (some ⟨key, input.concrete⟩)
  /-- Where the template is given the name of a type, it is that of the signature. -/
  named : ∀ v, ((key.template input.slot dir).builder.params input).env .typeName = some v →
    v = .text s.name
  /-- The name of the type around the member does not occur. -/
  text : ∀ owner, (Fragment.member key dir { input with owner := owner }).render =
    (Fragment.member key dir input).render

/-! ## Fragments for members -/

/-- What converts members in some code converts one of the given members. -/
def Fragment.OnlyConverts (owner : String) (ms : List FieldMember) (f : Fragment) : Prop :=
  ∀ key dir input, f = .member key dir input → ∃ m ∈ ms, m.conversion owner dir = f

/-- A frame converts nothing. -/
theorem Fragment.onlyConverts_frame (owner : String) (ms : List FieldMember) (f : Frame)
    (values : List (Var × Value)) : (frame f values).OnlyConverts owner ms := by
  rintro _ _ _ ⟨⟩

/-- The conversion of a member converts just this member. -/
theorem Fragment.onlyConverts_conversion (owner : String) {ms : List FieldMember}
    {m : FieldMember} (hm : m ∈ ms) (d : Direction) :
    (m.conversion owner d).OnlyConverts owner ms := by
  rintro _ _ _ ⟨⟩
  exact ⟨m, hm, rfl⟩

/-- Code for a struct converts its fields, and nothing else. -/
theorem onlyConverts_structCode (owner : String) (fields : List Field)
    (decoded encoded : List FieldMember) :
    ∀ f ∈ structCode owner fields decoded encoded, f.OnlyConverts owner (decoded ++ encoded) := by
  have hframe := Fragment.onlyConverts_frame owner (decoded ++ encoded)
  have hdecoded : ∀ f ∈ decoded.flatMap (FieldMember.decoding owner),
      f.OnlyConverts owner (decoded ++ encoded) := by
    intro f hf
    obtain ⟨m, hm, hf⟩ := List.mem_flatMap.mp hf
    refine List.forall_mem_cons.mpr ⟨hframe _ _, List.forall_mem_singleton.mpr ?_⟩ f hf
    exact Fragment.onlyConverts_conversion owner (List.mem_append_left _ hm) _
  have hencoded : ∀ f ∈ encoded.flatMap (FieldMember.encoding owner),
      f.OnlyConverts owner (decoded ++ encoded) := by
    intro f hf
    obtain ⟨m, hm, hf⟩ := List.mem_flatMap.mp hf
    refine List.forall_mem_singleton.mpr ?_ f hf
    exact Fragment.onlyConverts_conversion owner (List.mem_append_right _ hm) _
  have hswitch : ∀ f ∈ switchCode owner fields decoded,
      f.OnlyConverts owner (decoded ++ encoded) := by
    unfold switchCode
    split
    · exact fun _ hf => absurd hf List.not_mem_nil
    · simp only [List.forall_mem_append, List.forall_mem_singleton]
      exact ⟨⟨hframe _ _, hdecoded⟩, hframe _ _⟩
  unfold structCode decodeCode encodeCode
  simp only [List.forall_mem_append, List.forall_mem_singleton]
  exact ⟨⟨⟨⟨⟨hframe _ _, hswitch⟩, hframe _ _⟩, hframe _ _⟩, ⟨hframe _ _, hencoded⟩, hframe _ _⟩,
    hframe _ _⟩

section

variable {s : Setting} {owner : String} {resolved : Option Resolved} {key : EntryKey}
  {dir : Direction} {input : MemberInput}

/-- What converts elements or values is the conversion of the entry found for them. -/
theorem exists_of_mem_containerBody {slot : Slot} {d : Direction}
    (h : .member key dir input ∈ containerBody s slot owner resolved d) :
    ∃ r, resolved = some r ∧ key = r.key ∧ input = containerInput s slot owner r := by
  obtain ⟨r, hr, heq⟩ := Option.map_eq_some_iff.mp (Option.mem_toList.mp h)
  cases heq
  exact ⟨r, hr, rfl, rfl⟩

/-- What converts anything in the code for an array is the conversion of the entry of its elements.
-/
theorem exists_of_mem_arrayCode (h : .member key dir input ∈ arrayCode s owner resolved) :
    ∃ r, resolved = some r ∧ key = r.key ∧ input = containerInput s .element owner r := by
  simp only [arrayCode, Fragment.named, List.mem_cons, List.mem_append, reduceCtorEq, false_or,
    List.not_mem_nil, or_false] at h
  exact h.elim exists_of_mem_containerBody exists_of_mem_containerBody

/-- What converts anything in the code for a map is the conversion of the entry of its values. -/
theorem exists_of_mem_mapCode (h : .member key dir input ∈ mapCode s owner resolved) :
    ∃ r, resolved = some r ∧ key = r.key ∧ input = containerInput s .entry owner r := by
  simp only [mapCode, Fragment.named, List.mem_cons, List.mem_append, reduceCtorEq, false_or,
    List.not_mem_nil, or_false] at h
  exact h.elim exists_of_mem_containerBody exists_of_mem_containerBody

end

/-! ## Declarations -/

/-- A member for which an entry is found is converted as its type. -/
theorem TypeDecl.converts_of_resolve? {table : TypeTable} {d : TypeDecl} {type : GoType}
    {signature : Signature} {r : Resolved} {input : MemberInput} (howner : input.owner = d.name)
    (hmember : d.HasMember input.slot type)
    (hsigned : Signature.ofMember input.slot type = .ok signature)
    (hresolve : signature.resolve? table = some r) (hconcrete : input.concrete = r.concrete)
    (dir : Direction) : d.Converts table r.key dir input type signature := by
  have hfinds : signature.Finds table (some r) := Signature.finds_iff.mpr hresolve
  constructor
  case owner => exact howner
  case member => exact hmember
  case signed => exact hsigned
  case finds =>
    rw [hconcrete]
    exact hfinds
  -- a primitive names no type, and any other entry names the one that was found
  case named =>
    intro v hv
    rcases hfinds.concrete_cases with ⟨p, hbase, -⟩ | ⟨w, -, hname⟩
    · obtain ⟨⟨base, pointer⟩, _⟩ := r
      obtain rfl : base = .primitive p := hbase
      rw [EntryKey.typeName_of_primitive] at hv
      cases hv
    · exact Builder.typeName_of_concrete (hconcrete.trans hname) hv
  case text =>
    refine EntryKey.render_owner dir fun w hw => ?_
    rcases hfinds.concrete_cases with ⟨p, hbase, -⟩ | ⟨-, -, hname⟩
    · rw [hw] at hbase
      cases hbase
    · rw [hconcrete, hname]
      exact Option.some_ne_none _

/-- What is written for a declaration converts its members as their types. -/
theorem TypeDecl.IsEmitted.exists_converts {s : Setting} {d : TypeDecl} {code : List Fragment}
    {keys : Nat} (h : d.IsEmitted s code keys) {key : EntryKey} {dir : Direction}
    {input : MemberInput} (hf : .member key dir input ∈ code) :
    ∃ type signature, d.Converts s.table key dir input type signature := by
  cases h with
  | struct owner fields =>
    obtain ⟨m, hm, heq⟩ := onlyConverts_structCode owner fields _ _ _ hf key dir input rfl
    obtain ⟨_, hable⟩ := exists_mem_convertible hm
    obtain ⟨field, hfield, name, -, -, hof⟩ := mem_convertible.mp hable
    cases heq
    cases hsigned : Signature.ofField field.type with
    | error e =>
      unfold FieldMember.of? at hof
      rw [hsigned] at hof
      cases hof
    | ok signature =>
      rw [FieldMember.of?_of_signature hsigned] at hof
      obtain ⟨r, hresolve, rfl⟩ := Option.map_eq_some_iff.mp hof
      refine ⟨field.type, signature, converts_of_resolve? rfl (.field hfield) ?_ hresolve rfl dir⟩
      exact hsigned
  | @array elem signature hsigned owner len =>
    obtain ⟨r, hresolve, rfl, rfl⟩ := exists_of_mem_arrayCode hf
    refine ⟨elem, signature, converts_of_resolve? rfl .element ?_ hresolve rfl dir⟩
    exact hsigned
  | @map value signature hsigned owner keyType =>
    obtain ⟨r, hresolve, rfl, rfl⟩ := exists_of_mem_mapCode hf
    refine ⟨value, signature, converts_of_resolve? rfl .entry ?_ hresolve rfl dir⟩
    exact hsigned

/-- What a pass writes for a member belongs to a declaration that is chosen, and converts the member
as its type. -/
theorem Package.exists_converts {s : Setting} {filter : TypeFilter} {p : Package} {key : EntryKey}
    {dir : Direction} {input : MemberInput} (h : .member key dir input ∈ p.written s filter) :
    ∃ d ∈ p.decls, filter.accepts d.name = true ∧
      ∃ type signature, d.Converts s.table key dir input type signature := by
  obtain ⟨d, hd, hf⟩ := List.mem_flatMap.mp h
  obtain ⟨-, hwritten⟩ | ⟨haccepts, keys, -, hemitted⟩ := d.silent_or_emitted s filter
  · rw [hwritten] at hf
    cases hf
  · exact ⟨d, hd, haccepts, hemitted.exists_converts hf⟩

/-! ## A pass -/

/-- Types are resolved faithfully, those that are read from a source are written with names without
dots, and every member in the code of a pass is converted as its own type. -/
theorem generateWith_memberTypes (c : GenConfig) (filter : TypeFilter) (table : TypeTable)
    (p : Package) :
    Signature.IsFaithful table ∧
      (∀ source q, (Package.parse source).result = .ok q → ∀ d ∈ q.decls, d.type.IsDotless) ∧
      ∃ r, (generateWith c filter table p).result = .ok r ∧
        r.output = fileText c (c.packageFor p) r.generated
          (importsOf (p.written ⟨c.tagRules, table⟩ filter))
          (textOf (p.written ⟨c.tagRules, table⟩ filter)) ∧
        ∀ key dir input, .member key dir input ∈ p.written ⟨c.tagRules, table⟩ filter →
          ∃ d ∈ p.decls, filter.accepts d.name = true ∧
            ∃ type signature, d.Converts table key dir input type signature := by
  refine ⟨Signature.isFaithful table, fun _ _ => Package.parse_isDotless, _,
    generateWith_result c filter table p, reportOf_written c _ _ filter p, ?_⟩
  intro key dir input hf
  exact Package.exists_converts hf

/-- The words of a source with a map, and with a type that is called like a primitive one. -/
def teamWords : List Token.Word :=
  [(.keyword .package, "package"), (.ident, "p"), (.newline, "\n"),
    (.keyword .typeDecl, "type"), (.ident, "Team"), (.keyword .map, "map"), (.lbracket, "["),
    (.ident, "string"), (.rbracket, "]"), (.star, "*"), (.ident, "User"), (.newline, "\n"),
    (.keyword .typeDecl, "type"), (.ident, "User"), (.keyword .struct, "struct"), (.lbrace, "\x7b"),
    (.rbrace, "\x7d"), (.newline, "\n"),
    (.keyword .typeDecl, "type"), (.ident, "byte"), (.lbracket, "["), (.rbracket, "]"),
    (.ident, "int"), (.newline, "\n")]

/-- The package of this source. -/
def teamPackage : Package :=
  ⟨"p", [⟨"Team", .map (.ident "string") (.pointer (.ident "User"))⟩, ⟨"User", .struct []⟩,
    ⟨"byte", .array none (.ident "int")⟩]⟩

/-- What the code for the values of the map is filled from. -/
def teamInput : MemberInput :=
  ⟨.entry, "Team", "", "", "", "time.RFC3339", some "User"⟩

/-- The values of the map are converted as the declared struct, but the type called `byte` is not
found under its name. -/
theorem generateWith_memberTypes_team :
    let c : GenConfig := {}
    let table := TypeTable.ofPackage teamPackage
    let code := teamPackage.written ⟨c.tagRules, table⟩ .all
    let source := String.ofList (Token.source (Token.row 1 teamWords) ++ [])
    (Package.parse source).result = .ok teamPackage ∧
      (∀ d ∈ teamPackage.decls, d.type.IsDotless) ∧
      Primitive.HasName .uint8 "byte" ∧
      Signature.resolve? ⟨"byte", false⟩ table = some ⟨⟨.primitive .uint8, false⟩, none⟩ ∧
      .member ⟨.wildcard .struct, true⟩ .unmarshal teamInput ∈ code ∧
      ∃ d ∈ teamPackage.decls, ∃ type signature,
        d.Converts table ⟨.wildcard .struct, true⟩ .unmarshal teamInput type signature := by
  intro c table code source
  have hlex : ∀ w ∈ teamWords, Token.Lexes w.1 w.2.toList := by decide +kernel
  have hparse : (Package.parse source).result = .ok teamPackage :=
    Package.parse_laid rfl (Token.laid_row hlex 1)
  have hsigned : Signature.ofMapValue (.pointer (.ident "User")) = .ok ⟨"User", true⟩ := rfl
  obtain ⟨hresult, hmap⟩ :=
    emitMap_returns (s := ⟨c.tagRules, table⟩) hsigned "Team" (.ident "string")
  have hcode : .member ⟨.wildcard .struct, true⟩ .unmarshal teamInput ∈ code := by
    refine List.mem_flatMap.mpr ⟨_, List.mem_cons_self, ?_⟩
    have haccepts : TypeFilter.all.accepts "Team" = true := rfl
    unfold TypeDecl.written
    rw [if_pos haccepts]
    simp only [emitDecl?, Option.map_some, Option.getD_some, Drive.kept, hresult, hmap]
    exact List.mem_cons_of_mem _ (List.mem_append_left _ (List.mem_singleton_self _))
  obtain ⟨hfaithful, hdotless, _, -, -, hconverts⟩ :=
    generateWith_memberTypes c .all table teamPackage
  obtain ⟨d, hd, -, htype⟩ := hconverts _ _ _ hcode
  exact ⟨hparse, hdotless source _ hparse, .byte, hfaithful.primitive ⟨"byte", false⟩ _ .byte,
    hcode, d, hd, htype⟩

end CodecGen
