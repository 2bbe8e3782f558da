import CodecGen.Proofs.Emit.Pass
import Mathlib.Data.List.Induction
import Mathlib.Data.List.Nodup

/-!
# What generation sees of declared types

The code for a declaration looks types up by the names that its members, elements or values have,
and takes no more than a kind from what it finds. So tables that give these names the same kinds
give the same report, and neither the order of the declarations nor what is declared more than once
counts beyond the last declaration of each name (`generate_kinds`).
-/

namespace CodecGen

/-! ## Names that are looked up -/

/-- The name of a signature, if there is one. -/
def Signature.names (s : Except GenError Signature) : List String :=
  match s with
  | .ok signature => [signature.name]
  | .error _ => []

/-- The names by which a visit to a field looks types up. -/
def FieldVisit.references : FieldVisit → List String
  | .embedded _ => []
  | .named _ field => Signature.names (Signature.ofField field.type)

/-- The names by which the code for a declaration looks types up: those of the types of its named
fields, of its elements or of its values. -/
def TypeDecl.references (d : TypeDecl) : List String :=
  match d.type with
  | .struct fields => (fieldVisits fields).flatMap FieldVisit.references
  | .array _ elem => Signature.names (Signature.ofArrayElement elem)
  | .map _ value => Signature.names (Signature.ofMapValue value)
  | _ => []

/-- The names by which the code for a package looks types up. -/
def Package.references (p : Package) : List String :=
  p.decls.flatMap TypeDecl.references

/-- Two tables have declarations of the same kinds, or none, for some names. -/
def TypeTable.Agree (t t' : TypeTable) (names : List String) : Prop :=
  ∀ name ∈ names, t.kind? name = t'.kind? name

/-! ## Code by kinds -/

section

variable {r : TagRules} {t t' : TypeTable}

/-- What a signature resolves to depends on the kind of declaration behind its name. -/
theorem Signature.resolve?_eq_of_kind {s : Signature} (h : t.kind? s.name = t'.kind? s.name) :
    s.resolve? t = s.resolve? t' := by
  unfold resolve?
  rw [h]

/-- What looks a type up is the same for both tables, notes included. -/
theorem lookUp_agree {s : Except GenError Signature} {signature : Signature}
    (h : t.Agree t' (Signature.names s)) (hs : s = .ok signature) :
    signature.resolve? t = signature.resolve? t' ∧
      signature.resolveNotes t = signature.resolveNotes t' := by
  subst hs
  have hresolve := Signature.resolve?_eq_of_kind (h signature.name List.mem_cons_self)
  refine ⟨hresolve, ?_⟩
  unfold Signature.resolveNotes
  rw [hresolve]

/-- Only results that are there matter to what follows them. -/
theorem Drive.ofExcept_bind_congr {α β : Type} {x : Except GenError α} {f g : α → Drive β}
    (h : ∀ a, x = .ok a → f a = g a) : Drive.ofExcept x >>= f = Drive.ofExcept x >>= g := by
  show Drive.bind _ f = Drive.bind _ g
  unfold Drive.bind
  cases x with
  | error e => rfl
  | ok a =>
    show (⟨_, _, _⟩ : Drive β) = ⟨_, _, _⟩
    rw [h a rfl]

/-- A field is written alike in two tables that agree on its type. -/
theorem writeField_agree {name : String} {field : Field}
    (h : t.Agree t' (FieldVisit.references (.named name field))) (owner : String)
    (policy : Policy) (d : Direction) :
    writeField ⟨r, t⟩ owner name field policy d = writeField ⟨r, t'⟩ owner name field policy d := by
  refine Drive.ofExcept_bind_congr fun signature hsignature => ?_
  obtain ⟨hresolve, hnotes⟩ := lookUp_agree h hsignature
  rw [hresolve, hnotes]

/-- The fields of a struct are decoded alike in two tables that agree on their types. -/
theorem decodeFields_agree {visits : List FieldVisit}
    (h : t.Agree t' (visits.flatMap FieldVisit.references)) (owner : String)
    (taken : List String) :
    decodeFields ⟨r, t⟩ owner taken visits = decodeFields ⟨r, t'⟩ owner taken visits := by
  induction visits generalizing taken with
  | nil => rfl
  | cons visit visits ih =>
    have hrest := ih fun name hname => h name (List.mem_append_right _ hname)
    have hvisit : t.Agree t' visit.references := fun name hname =>
      h name (List.mem_append_left _ hname)
    cases visit with
    | embedded type => simp only [decodeFields, hrest]
    | named name field => simp only [decodeFields, hrest, writeField_agree hvisit]

/-- The fields of a struct are encoded alike in two tables that agree on their types. -/
theorem encodeFields_agree {visits : List FieldVisit}
    (h : t.Agree t' (visits.flatMap FieldVisit.references)) (owner : String) :
    encodeFields ⟨r, t⟩ owner visits = encodeFields ⟨r, t'⟩ owner visits := by
  induction visits with
  | nil => rfl
  | cons visit visits ih =>
    have hrest := ih fun name hname => h name (List.mem_append_right _ hname)
    have hvisit : t.Agree t' visit.references := fun name hname =>
      h name (List.mem_append_left _ hname)
    cases visit with
    | embedded type => simp only [encodeFields, hrest]
    | named name field => simp only [encodeFields, hrest, writeField_agree hvisit]

/-- A struct is written alike in two tables that agree on the types of its fields. -/
theorem emitStruct_agree {fields : List Field}
    (h : t.Agree t' ((fieldVisits fields).flatMap FieldVisit.references)) (owner : String) :
    emitStruct ⟨r, t⟩ owner fields = emitStruct ⟨r, t'⟩ owner fields := by
  have hdecode : decodeStruct ⟨r, t⟩ owner fields = decodeStruct ⟨r, t'⟩ owner fields := by
    simp only [decodeStruct, decodeSwitch, decodeFields_agree h]
  have hencode : encodeStruct ⟨r, t⟩ owner fields = encodeStruct ⟨r, t'⟩ owner fields := by
    simp only [encodeStruct, encodeFields_agree h]
  simp only [emitStruct, hdecode, hencode]

/-- A signature is looked up alike in two tables that agree on its name. -/
theorem lookUp_eq_of_agree {s : Except GenError Signature} {signature : Signature}
    (h : t.Agree t' (Signature.names s)) (hs : s = .ok signature) (what : String) :
    lookUp ⟨r, t⟩ signature what = lookUp ⟨r, t'⟩ signature what := by
  obtain ⟨hresolve, hnotes⟩ := lookUp_agree h hs
  simp only [lookUp, hresolve, hnotes]

/-- An array is written alike in two tables that agree on the type of its elements. -/
theorem emitArray_agree {elem : GoType}
    (h : t.Agree t' (Signature.names (Signature.ofArrayElement elem))) (owner : String) :
    emitArray ⟨r, t⟩ owner elem = emitArray ⟨r, t'⟩ owner elem := by
  refine Drive.ofExcept_bind_congr fun signature hsignature => ?_
  rw [lookUp_eq_of_agree h hsignature]
  rfl

/-- A map is written alike in two tables that agree on the type of its values. -/
theorem emitMap_agree {value : GoType}
    (h : t.Agree t' (Signature.names (Signature.ofMapValue value))) (owner : String)
    (key : GoType) : emitMap ⟨r, t⟩ owner key value = emitMap ⟨r, t'⟩ owner key value := by
  unfold emitMap
  refine congrArg _ (funext fun _ => ?_)
  refine Drive.ofExcept_bind_congr fun signature hsignature => ?_
  rw [lookUp_eq_of_agree h hsignature]
  rfl

/-- The code for a declaration depends only on the kinds that the table gives to the names it looks
up. -/
theorem emitDecl?_agree {d : TypeDecl} (h : t.Agree t' d.references) :
    emitDecl? ⟨r, t⟩ d = emitDecl? ⟨r, t'⟩ d := by
  obtain ⟨name, type⟩ := d
  cases type with
  | struct fields => exact congrArg some (emitStruct_agree h name)
  | array len elem => exact congrArg some (emitArray_agree h name)
  | map key value => exact congrArg some (emitMap_agree h name key)
  | _ => rfl

/-- A declaration contributes the same in two tables that agree on the types it refers to. -/
theorem contribution_agree {d : TypeDecl} (h : t.Agree t' d.references) (filter : TypeFilter) :
    d.contribution ⟨r, t⟩ filter = d.contribution ⟨r, t'⟩ filter := by
  unfold TypeDecl.contribution
  rw [emitDecl?_agree h]

/-- A step of a pass is the same in two tables that agree on the types the declaration refers to. -/
theorem PassState.step_agree {d : TypeDecl} (h : t.Agree t' d.references) (filter : TypeFilter)
    (st : PassState) : st.step ⟨r, t⟩ filter d = st.step ⟨r, t'⟩ filter d := by
  unfold step
  rw [emitDecl?_agree h]

end

/-- Passes are the same whose steps are the same for every declaration. -/
theorem foldlM_step_congr {f g : PassState → TypeDecl → Logged GenError PassState}
    {decls : List TypeDecl} (h : ∀ d ∈ decls, ∀ st, f st d = g st d) (st : PassState) :
    decls.foldlM f st = decls.foldlM g st := by
  induction decls generalizing st with
  | nil => rfl
  | cons d decls ih =>
    rw [List.foldlM_cons, List.foldlM_cons, h d List.mem_cons_self]
    exact congrArg _ (funext fun st' => ih (fun e he => h e (List.mem_cons_of_mem _ he)) st')

/-- A pass over a package depends only on the kinds that the table gives to the names it looks up,
its notes included. -/
theorem generateWith_agree {p : Package} {t t' : TypeTable} (h : t.Agree t' p.references)
    (c : GenConfig) (filter : TypeFilter) :
    generateWith c filter t p = generateWith c filter t' p := by
  have hdecl : ∀ d ∈ p.decls, t.Agree t' d.references := fun d hd name hname =>
    h name (List.mem_flatMap.mpr ⟨d, hd, hname⟩)
  unfold generateWith
  rw [foldlM_step_congr fun d hd st => PassState.step_agree (hdecl d hd) filter st]

/-! ## Tables of packages -/

namespace TypeTable

/-- The name that is declared last stands for its type, and the others for what they stood for. -/
theorem get?_insert (t : TypeTable) (name : String) (type : GoType) (name' : String) :
    (t.insert name type).get? name' = if name' = name then some type else t.get? name' := by
  obtain ⟨entries⟩ := t
  show List.lookup name' ((name, type) :: entries.filter fun e => e.1 ≠ name) = _
  rw [List.lookup_cons]
  by_cases heq : name' = name
  · rw [if_pos heq, beq_iff_eq.mpr heq]
  · rw [if_neg heq, beq_false_of_ne heq]
    show List.lookup name' (entries.filter fun e => e.1 ≠ name) = entries.lookup name'
    induction entries with
    | nil => rfl
    | cons e entries ih =>
      by_cases he : e.1 = name
      · rw [List.filter_cons_of_neg (by simpa using he), ih, List.lookup_cons]
        rw [beq_false_of_ne fun h => heq (h.trans he)]
      · rw [List.filter_cons_of_pos (by simpa using he), List.lookup_cons, List.lookup_cons, ih]

end TypeTable

/-- The last declaration of a name. -/
def Package.lastDecl? (p : Package) (name : String) : Option TypeDecl :=
  p.decls.reverse.find? fun d => d.name = name

/-- The table of a package has for each name what its last declaration says. -/
theorem TypeTable.get?_ofPackage (p : Package) (name : String) :
    (ofPackage p).get? name = (p.lastDecl? name).map TypeDecl.type := by
  obtain ⟨package, decls⟩ := p
  unfold ofPackage Package.lastDecl?
  -- the induction goes by the last declaration, which is inserted last
  induction decls using List.reverseRecOn with
  | nil => rfl
  | append_singleton decls d ih =>
    dsimp only at ih ⊢
    rw [List.foldl_append, List.foldl_cons, List.foldl_nil, get?_insert, List.reverse_append,
      List.reverse_singleton, List.singleton_append, ih]
    by_cases heq : name = d.name
    · rw [if_pos heq, List.find?_cons_of_pos (by simpa using heq.symm)]
      rfl
    · rw [if_neg heq, List.find?_cons_of_neg (by simpa using fun h => heq h.symm)]

/-- The kind behind a name is that of its last declaration. -/
theorem TypeTable.kind?_ofPackage (p : Package) (name : String) :
    (ofPackage p).kind? name = (p.lastDecl? name).map fun d => DeclKind.of d.type := by
  unfold kind?
  rw [get?_ofPackage, Option.map_map]
  rfl

/-- The last declaration of a name is among the declarations, and has the name. -/
theorem Package.mem_of_lastDecl? {p : Package} {name : String} {d : TypeDecl}
    (h : p.lastDecl? name = some d) : d ∈ p.decls ∧ d.name = name := by
  have hname := List.find?_some h
  exact ⟨List.mem_reverse.mp (List.mem_of_find?_eq_some h), by simpa using hname⟩

/-- Where no name is declared twice, every declaration is the last one of its name. -/
theorem Package.lastDecl?_eq_some_iff {p : Package} (h : (p.decls.map TypeDecl.name).Nodup)
    {name : String} {d : TypeDecl} : p.lastDecl? name = some d ↔ d ∈ p.decls ∧ d.name = name := by
  constructor
  · exact mem_of_lastDecl?
  · rintro ⟨hd, rfl⟩
    cases hlast : p.lastDecl? d.name with
    | none =>
      have hnone := List.find?_eq_none.mp hlast d (List.mem_reverse.mpr hd)
      simp at hnone
    | some e =>
      obtain ⟨he, hname⟩ := mem_of_lastDecl? hlast
      rw [List.inj_on_of_nodup_map h he hd hname]

/-- The order of declarations does not matter for the last ones where no name is declared twice. -/
theorem Package.lastDecl?_perm {p p' : Package} (hperm : p.decls.Perm p'.decls)
    (h : (p.decls.map TypeDecl.name).Nodup) (name : String) :
    p.lastDecl? name = p'.lastDecl? name := by
  have h' : (p'.decls.map TypeDecl.name).Nodup := (hperm.map TypeDecl.name).nodup h
  refine Option.ext fun d => ?_
  rw [lastDecl?_eq_some_iff h, lastDecl?_eq_some_iff h', hperm.mem_iff]

/-! ## Reports on the same declarations in another order -/

/-- The reports on a package and on the same declarations in another order, where no name is
declared twice. `of` is what a declaration contributes. -/
structure Report.Reordered (c : GenConfig) (package : String) (of : TypeDecl → Contribution)
    (decls decls' : List TypeDecl) (r r' : Report) : Prop where
  /-- One report has what the declarations contribute in their order. -/
  report : r = reportOf c package (decls.map of)
  /-- The other report has the same contributions in the other order. -/
  report' : r' = reportOf c package (decls'.map of)
  /-- Each declaration that is generated in one report is generated in the other, with the same
  number of keys. -/
  generated : r.generated.Perm r'.generated
  /-- Each declaration that fails in one report fails in the other, for the same reason. -/
  failures : r.failures.Perm r'.failures
  /-- The files have the same header, and with it the same imports. -/
  header :
    let head := headerText package c.importPath
      (StdPackage.sorted (decls.flatMap fun d => (of d).imports))
    r.output = (if r.generated.isEmpty then "" else
        head ++ String.join (decls.map fun d => (of d).body)) ∧
      r'.output = if r.generated.isEmpty then "" else
        head ++ String.join (decls'.map fun d => (of d).body)

/-- The packages of a list do not depend on its order. -/
theorem StdPackage.sorted_perm {ps ps' : List StdPackage} (h : ps.Perm ps') :
    StdPackage.sorted ps = StdPackage.sorted ps' := by
  unfold sorted
  refine List.filter_congr fun p _ => ?_
  rw [Bool.eq_iff_iff, List.contains_iff_mem, List.contains_iff_mem, h.mem_iff]

/-- The same declarations in another order contribute the same in this order. -/
theorem reordered_reportOf (c : GenConfig) (package : String) (of : TypeDecl → Contribution)
    {decls decls' : List TypeDecl} (hperm : decls.Perm decls') :
    Report.Reordered c package of decls decls' (reportOf c package (decls.map of))
      (reportOf c package (decls'.map of)) := by
  have hcontributions := hperm.map of
  have hgenerated := hcontributions.flatMap_right Contribution.generated
  have hempty : ((decls'.map of).flatMap Contribution.generated).isEmpty =
      ((decls.map of).flatMap Contribution.generated).isEmpty := by
    rw [Bool.eq_iff_iff, List.isEmpty_iff, List.isEmpty_iff, ← List.length_eq_zero_iff,
      ← List.length_eq_zero_iff, hgenerated.length_eq]
  constructor
  case report => rfl
  case report' => rfl
  case generated => exact hgenerated
  case failures => exact hcontributions.flatMap_right Contribution.failures
  case header =>
    have himports := StdPackage.sorted_perm (hcontributions.flatMap_right Contribution.imports)
    have hflat : ∀ ds : List TypeDecl,
        (ds.flatMap fun d => (of d).imports) = (ds.map of).flatMap Contribution.imports :=
      fun _ => (List.flatMap_map ..).symm
    rw [hflat]
    constructor
    · simp only [reportOf, fileText, List.map_map, Function.comp_def]
    · simp only [reportOf, fileText]
      rw [hempty, himports, List.map_map]
      rfl

/-- Generation sees the table of types only through the kinds of the names that a package looks up.
Without names that are declared twice the order of declarations decides only the order of the
report, and the last declaration of a name decides what the name stands for. -/
theorem generate_kinds (c : GenConfig) (filter : TypeFilter) (p : Package) :
    (∀ t t' : TypeTable, t.Agree t' p.references →
      generateWith c filter t p = generateWith c filter t' p ∧
        ∃ r, (generateWith c filter t p).result = .ok r) ∧
    (∀ decls, p.decls.Perm decls → (p.decls.map TypeDecl.name).Nodup →
      ∃ r r', (generate c filter p).result = .ok r ∧
        (generate c filter ⟨p.name, decls⟩).result = .ok r' ∧
        Report.Reordered c (c.packageFor p)
          (TypeDecl.contribution ⟨c.tagRules, .ofPackage p⟩ filter) p.decls decls r r') ∧
    ∀ s : Signature, s.resolve? (.ofPackage p) =
      match s.primitiveKey? with
      | some key => some ⟨key, none⟩
      | none => (p.lastDecl? s.name).map fun d =>
          ⟨⟨.wildcard (DeclKind.of d.type).wildcard, s.pointer⟩, some s.name⟩ := by
  refine ⟨?_, ?_, ?_⟩
  · intro t t' h
    exact ⟨generateWith_agree h c filter, _, generateWith_result c filter t p⟩
  · intro decls hperm hnodup
    have hkinds : ∀ name, (TypeTable.ofPackage p).kind? name =
        (TypeTable.ofPackage ⟨p.name, decls⟩).kind? name := by
      intro name
      have hlast : p.lastDecl? name = Package.lastDecl? ⟨p.name, decls⟩ name :=
        Package.lastDecl?_perm hperm hnodup name
      rw [TypeTable.kind?_ofPackage, TypeTable.kind?_ofPackage, hlast]
    -- the other table has the same kinds, so that its declarations contribute the same
    have hother :
        decls.map (TypeDecl.contribution ⟨c.tagRules, .ofPackage ⟨p.name, decls⟩⟩ filter) =
          decls.map (TypeDecl.contribution ⟨c.tagRules, .ofPackage p⟩ filter) :=
      List.map_congr_left fun d _ => contribution_agree (fun name _ => (hkinds name).symm) filter
    refine ⟨_, _, generateWith_result c filter _ p, generateWith_result c filter _ _, ?_⟩
    rw [hother]
    exact reordered_reportOf c (c.packageFor p) _ hperm
  · intro s
    unfold Signature.resolve?
    rw [TypeTable.kind?_ofPackage, Option.map_map]
    rfl

/-- Types that refer to each other and to themselves. -/
def mutualTypes : Package :=
  ⟨"p", [⟨"Tree", .struct [⟨["Left", "Right"], .pointer (.ident "Tree"), none⟩,
      ⟨["Kids"], .ident "Forest", none⟩]⟩,
    ⟨"Forest", .array none (.pointer (.ident "Tree"))⟩]⟩

/-- The types can be declared in the other order, and looked up in a table where one of them is
another struct. -/
theorem generate_kinds_mutualTypes :
    let table : TypeTable :=
      ⟨[("Tree", .struct []), ("Forest", .array none .func), ("Other", .chan .func)]⟩
    (TypeTable.ofPackage mutualTypes).Agree table mutualTypes.references ∧
      generate {} .all mutualTypes = generateWith {} .all table mutualTypes ∧
      (mutualTypes.decls.map TypeDecl.name).Nodup ∧
      ∃ r r', (generate {} .all mutualTypes).result = .ok r ∧
        (generate {} .all ⟨"p", mutualTypes.decls.reverse⟩).result = .ok r' ∧
        r.generated.Perm r'.generated := by
  intro table
  have hagree : (TypeTable.ofPackage mutualTypes).Agree table mutualTypes.references := by
    unfold TypeTable.Agree
    decide +kernel
  have hnodup : (mutualTypes.decls.map TypeDecl.name).Nodup := by decide +kernel
  obtain ⟨htables, horder, _⟩ := generate_kinds {} .all mutualTypes
  obtain ⟨r, r', hr, hr', hreordered⟩ := horder _ (List.reverse_perm _).symm hnodup
  exact ⟨hagree, (htables _ _ hagree).1, hnodup, r, r', hr, hr', hreordered.generated⟩

end CodecGen
