import CodecGen.Proofs.Emit.KeyCount
import CodecGen.Proofs.Emit.Verbatim

/-!
# The numbers of keys in a report

For a struct the number that a report gives is the one that its `NKeys` returns, and for a map it is
none, as its own `NKeys` says. An array has no such method, and is reported with one key where its
elements can be converted (`generateWith_keys`).
-/

namespace CodecGen

open Fragment (textOf countedKeys importsOf)

/-! ## One declaration -/

/-- The number of keys that is reported for a declaration with the given code. -/
inductive TypeDecl.ReportsKeys (s : Setting) : TypeDecl → List Fragment → Nat → Prop
  /-- The code has one method that counts the keys, and this method returns the number. -/
  | struct {owner : String} {fields : List Field} {code : List Fragment} {keys : Nat}
      (hcount : countedKeys code = [(keys : Int)])
      (htext : ∃ before after, textOf code = before ++ keyCountText owner keys ++ after) :
      ReportsKeys s ⟨owner, .struct fields⟩ code keys
  /-- The number says whether the elements are converted. -/
  | array {owner : String} {len : Option String} {elem : GoType} {signature : Signature}
      (hsigned : Signature.ofArrayElement elem = .ok signature) :
      ReportsKeys s ⟨owner, .array len elem⟩ (arrayCode s owner (signature.resolve? s.table))
        (if (signature.resolve? s.table).isSome then 1 else 0)
  /-- The number is what the method that counts the keys returns. -/
  | map {owner : String} {key value : GoType} {code : List Fragment}
      (htext : ∃ before after, textOf code = before ++
        headText Frame.nKeysComment "" "NKeys() int \x7b return 0 \x7d\n" owner ++ after) :
      ReportsKeys s ⟨owner, .map key value⟩ code 0

section

variable {s : Setting} {filter : TypeFilter} {d : TypeDecl}

/-- What a driver returns is the number that is to be reported. -/
theorem TypeDecl.IsEmitted.reportsKeys {code : List Fragment} {keys : Nat}
    (h : d.IsEmitted s code keys) : d.ReportsKeys s code keys := by
  cases h with
  | struct owner fields =>
    have htext := textOf_structCode owner fields (decodedMembers s fields) (encodedMembers s fields)
    rw [structText, String.append_assoc] at htext
    exact .struct (countedKeys_structCode owner fields _ _) ⟨_, _, htext⟩
  | array hsigned owner len => exact .array hsigned
  | @map value signature hsigned owner key =>
    have htext := textOf_mapCode s owner (signature.resolve? s.table)
    rw [mapText, String.append_assoc, String.append_assoc, String.append_assoc] at htext
    exact .map ⟨_, _, htext⟩

/-- The summary is that of the declaration, with the number of keys that its code has. -/
structure TypeDecl.Summarized (s : Setting) (filter : TypeFilter) (d : TypeDecl) (x : Summary) :
    Prop where
  chosen : filter.accepts d.name = true
  name : x.name = d.name
  kind : x.kind = .of d.type
  keys : d.ReportsKeys s (d.written s filter) x.keys

/-- A declaration is not written at all, or it is reported with its number of keys. -/
theorem TypeDecl.written_or_summarized (s : Setting) (filter : TypeFilter) (d : TypeDecl) :
    ((d.contribution s filter).generated = [] ∧ d.written s filter = []) ∨
      ∃ x, (d.contribution s filter).generated = [x] ∧ d.Summarized s filter x := by
  obtain hsilent | ⟨haccept, keys, hgenerated, hemitted⟩ := d.silent_or_emitted s filter
  · exact .inl hsilent
  · exact .inr ⟨_, hgenerated, haccept, rfl, rfl, hemitted.reportsKeys⟩

end

/-! ## A pass -/

/-- What is reported belongs to some of the declarations, one by one and in order, and the others
are not written. -/
theorem exists_summarized (s : Setting) (filter : TypeFilter) (decls : List TypeDecl) :
    ∃ done : List TypeDecl, done.Sublist decls ∧
      decls.flatMap (TypeDecl.written s filter) = done.flatMap (TypeDecl.written s filter) ∧
      List.Forall₂ (TypeDecl.Summarized s filter) done
        (decls.flatMap fun d => (d.contribution s filter).generated) := by
  induction decls with
  | nil => exact ⟨[], List.Sublist.refl [], rfl, .nil⟩
  | cons d decls ih =>
    obtain ⟨done, hsub, hwritten, hdone⟩ := ih
    rw [List.flatMap_cons, List.flatMap_cons, hwritten]
    obtain ⟨hgenerated, hcode⟩ | ⟨x, hgenerated, hx⟩ := d.written_or_summarized s filter
    · rw [hgenerated, hcode]
      exact ⟨done, hsub.cons d, rfl, hdone⟩
    · rw [hgenerated]
      exact ⟨d :: done, hsub.cons_cons d, rfl, .cons hx hdone⟩

/-- The types that a pass reports belong to declarations whose code is the generated file, one by
one and in order. For a struct the reported number of keys is what the only `NKeys` in its code
returns, and for a map it is none. For an array it is one where its elements have an entry, and none
where they have not. -/
theorem generateWith_keys (c : GenConfig) (filter : TypeFilter) (table : TypeTable) (p : Package) :
    let s : Setting := ⟨c.tagRules, table⟩
    ∃ r done, (generateWith c filter table p).result = .ok r ∧ done.Sublist p.decls ∧
      r.output = fileText c (c.packageFor p) r.generated
        (importsOf (done.flatMap (TypeDecl.written s filter)))
        (textOf (done.flatMap (TypeDecl.written s filter))) ∧
      List.Forall₂ (TypeDecl.Summarized s filter) done r.generated := by
  intro s
  obtain ⟨done, hsub, hwritten, hdone⟩ := exists_summarized s filter p.decls
  have houtput := reportOf_written c (c.packageFor p) s filter p
  rw [Package.written, hwritten] at houtput
  refine ⟨_, done, generateWith_result c filter table p, hsub, houtput, ?_⟩
  rw [← List.flatMap_map] at hdone
  exact hdone

/-- An array of numbers is reported with a key, although no method counts one. -/
theorem array_keys_not_zero :
    ∃ r, (generate {} .all ⟨"p", [⟨"Sizes", .array none (.ident "int")⟩]⟩).result = .ok r ∧
      r.generated = [⟨"Sizes", .array, 1⟩] := by
  refine ⟨_, generateWith_result _ _ _ _, ?_⟩
  decide +kernel

end CodecGen
