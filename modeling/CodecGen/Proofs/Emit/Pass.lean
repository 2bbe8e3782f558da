import CodecGen.Emit.Report
import CodecGen.Proofs.Emit.Render

/-!
# A pass is a fold over declarations

The drivers note the packages they need in a set that all declarations share, and write text before
they fail. Between two declarations nothing of that is left over (`PassState.step_result`), so a
pass gathers what each declaration contributes by itself.
-/

namespace CodecGen

open Fragment (textOf importsOf)

/-! ## The header -/

/-- The text of the header of a generated file. -/
def headerText (package importPath : String) (imports : List StdPackage) : String :=
  Frame.markerLine ++ "\npackage " ++ package ++ "\n\nimport (\n" ++
    String.join (imports.map fun p => "\t\"" ++ p.path ++ "\"\n") ++
    (if imports.isEmpty then "" else "\n") ++ "\t\"" ++ importPath ++ "\"\n)\n"

/-- The header names the package, the path of the codec library and the imported packages. -/
theorem Frame.render?_header {env : Env} {package importPath : String} {imports : List StdPackage}
    (hpackage : env .package = some (.text package))
    (hpath : env .importPath = some (.text importPath))
    (himports : env .imports = some (.list (imports.map fun p => .text p.path))) :
    Frame.header.template.render? env = some (headerText package importPath imports) := by
  have hline : ∀ p : StdPackage, importLine (.text p.path) = "\t\"" ++ p.path ++ "\"\n" := by
    intro p
    simp [importLine, Value.render]
  have hlines : Piece.render? env (.importLines .imports) =
      some (String.join (imports.map fun p => "\t\"" ++ p.path ++ "\"\n") ++
        (if imports.isEmpty then "" else "\n")) := by
    simp [Piece.render?, himports, Value.items?, Function.comp_def, hline]
  have htext : ∀ t : String, Piece.render? env (.text t) = some t := fun _ => rfl
  have hname : Piece.render? env (.hole .package) = some package := by
    simp [Piece.render?, hpackage, Value.render]
  have hquoted : Piece.render? env (.hole .importPath) = some importPath := by
    simp [Piece.render?, hpath, Value.render]
  unfold headerText
  simp only [Frame.template, Template.render?_append, Template.render?_cons, Template.render?_nil,
    Option.bind_some, Option.map_some, htext, hname, hquoted, hlines, String.append_empty,
    String.append_assoc]

/-- The header of a generated file has a text whatever it is filled with. -/
theorem render_header (package importPath : String) (imports : List StdPackage) :
    (header package importPath imports).render = .ok (headerText package importPath imports) :=
  Fragment.render_frame (Frame.render?_header rfl rfl rfl)

/-- A header is never empty. -/
theorem headerText_ne_empty (package importPath : String) (imports : List StdPackage) :
    headerText package importPath imports ≠ "" := by
  intro h
  unfold headerText at h
  simp only [String.append_eq_empty_iff] at h
  have hmarker : Frame.markerLine ≠ "" := by decide
  exact hmarker h.1.1.1.1.1.1.1.1

/-! ## What one declaration contributes -/

/-- What a declaration adds to a pass. -/
structure Contribution where
  /-- The text of its methods. -/
  body : String
  /-- The packages that the text needs. -/
  imports : List StdPackage
  /-- The summary of the declaration, if it was generated. -/
  generated : List Summary
  /-- Why it could not be generated, if it failed. -/
  failures : List Failure

/-- What is contributed by a declaration that is not generated and does not fail. -/
def Contribution.none : Contribution :=
  ⟨"", [], [], []⟩

/-- What a declaration contributes that is written by the given computation. -/
def Contribution.ofDrive (d : TypeDecl) (drive : Drive Nat) : Contribution :=
  match drive.result with
  | .ok keys =>
    ⟨textOf drive.code, importsOf drive.code, [⟨d.name, .of d.type, keys⟩], []⟩
  | .error e => ⟨"", [], [], [⟨d.name, e⟩]⟩

/-- What a declaration contributes to any pass that it takes part in. -/
def TypeDecl.contribution (s : Setting) (filter : TypeFilter) (d : TypeDecl) : Contribution :=
  if filter.accepts d.name then
    match emitDecl? s d with
    | none => .none
    | some drive => .ofDrive d drive
  else .none

/-- A state with contributions added to it. -/
def PassState.gather (st : PassState) (xs : List Contribution) : PassState where
  pending := []
  body := st.body ++ String.join (xs.map Contribution.body)
  imports := st.imports ++ xs.flatMap Contribution.imports
  generated := st.generated ++ xs.flatMap Contribution.generated
  failures := st.failures ++ xs.flatMap Contribution.failures

/-- No contributions change nothing in a state without noted packages. -/
theorem PassState.gather_nil {st : PassState} (h : st.pending = []) : st.gather [] = st := by
  obtain ⟨pending, body, imports, generated, failures⟩ := st
  subst h
  simp [gather]

/-- Contributions can be added one by one. -/
theorem PassState.gather_cons (st : PassState) (x : Contribution) (xs : List Contribution) :
    st.gather (x :: xs) = (st.gather [x]).gather xs := by
  simp [gather, String.append_assoc]

/-- A step that finds nothing noted adds what its declaration contributes, and nothing is noted
after it. -/
theorem PassState.step_result (s : Setting) (filter : TypeFilter) {st : PassState}
    (h : st.pending = []) (d : TypeDecl) :
    (PassState.step s filter st d).result = .ok (st.gather [d.contribution s filter]) := by
  obtain ⟨pending, body, imports, generated, failures⟩ := st
  subst h
  unfold PassState.step TypeDecl.contribution
  by_cases haccept : filter.accepts d.name = true
  · cases hemit : emitDecl? s d with
    | none =>
      simp [haccept, Logged.result_bind, dropPending, gather, Contribution.none, Except.bind]
    | some drive =>
      cases hresult : drive.result with
      | ok keys =>
        simp [haccept, hresult, Logged.result_bind, noteImports, accept, gather,
          Contribution.ofDrive, Except.bind]
      | error e =>
        -- the packages noted before the failure are dropped with it
        simp [haccept, hresult, Logged.result_bind, noteImports, reject, dropPending, gather,
          Contribution.ofDrive, Except.bind]
  · simp [haccept, Logged.result_bind, gather, Contribution.none, Except.bind]

/-- A pass adds what its declarations contribute, in order. -/
theorem PassState.run_result (s : Setting) (filter : TypeFilter) (decls : List TypeDecl)
    {st : PassState} (h : st.pending = []) :
    (decls.foldlM (PassState.step s filter) st).result =
      .ok (st.gather (decls.map (TypeDecl.contribution s filter))) := by
  induction decls generalizing st with
  | nil => rw [List.map_nil, gather_nil h]; rfl
  | cons d decls ih =>
    have hsplit := gather_cons st (d.contribution s filter)
      (decls.map (TypeDecl.contribution s filter))
    rw [List.foldlM_cons, Logged.result_bind, step_result s filter h d, List.map_cons, hsplit]
    refine ih ?_
    rfl

/-! ## Whole passes -/

/-- The text of a generated file with the given body; empty where nothing was generated. -/
def fileText (c : GenConfig) (package : String) (generated : List Summary)
    (imports : List StdPackage) (body : String) : String :=
  if generated.isEmpty then ""
  else headerText package c.importPath (StdPackage.sorted imports) ++ body

/-- The report on declarations that contribute the given things. -/
def reportOf (c : GenConfig) (package : String) (xs : List Contribution) : Report where
  output := fileText c package (xs.flatMap Contribution.generated)
    (xs.flatMap Contribution.imports) (String.join (xs.map Contribution.body))
  generated := xs.flatMap Contribution.generated
  failures := xs.flatMap Contribution.failures

/-- The generated file of a pass always has a text. -/
theorem PassState.output_gather (c : GenConfig) (package : String) (xs : List Contribution) :
    (PassState.start.gather xs).output c package = .ok (reportOf c package xs).output := by
  have hgenerated : (PassState.start.gather xs).generated = xs.flatMap Contribution.generated :=
    List.nil_append _
  have himports : (PassState.start.gather xs).imports = xs.flatMap Contribution.imports :=
    List.nil_append _
  have hbody : (PassState.start.gather xs).body = String.join (xs.map Contribution.body) :=
    String.empty_append
  unfold output reportOf fileText
  rw [hgenerated, himports, hbody, render_header]
  by_cases hempty : (xs.flatMap Contribution.generated).isEmpty = true
  · rw [if_pos hempty, if_pos hempty]
  · rw [if_neg hempty, if_neg hempty]
    rfl

/-- A pass never fails, and reports what its declarations contribute. -/
theorem generateWith_result (c : GenConfig) (filter : TypeFilter) (table : TypeTable)
    (p : Package) :
    (generateWith c filter table p).result = .ok (reportOf c (c.packageFor p)
      (p.decls.map (TypeDecl.contribution ⟨c.tagRules, table⟩ filter))) := by
  -- the pass starts with nothing noted
  have hrun := PassState.run_result ⟨c.tagRules, table⟩ filter p.decls
    (rfl : PassState.start.pending = [])
  have houtput := PassState.output_gather c (c.packageFor p)
    (p.decls.map (TypeDecl.contribution ⟨c.tagRules, table⟩ filter))
  unfold generateWith
  simp only [Logged.result_bind, hrun, Except.bind, Logged.result_ofExcept, houtput,
    Logged.result_note, Logged.result_pure]
  simp only [reportOf, PassState.gather, PassState.start, List.nil_append]

/-! ## Declarations by themselves -/

/-- Methods are written for structs, arrays and maps alone. -/
theorem emitDecl?_isSome (s : Setting) (d : TypeDecl) :
    (emitDecl? s d).isSome = true ↔ DeclKind.of d.type ≠ .other := by
  obtain ⟨name, type⟩ := d
  cases type <;> simp [emitDecl?, DeclKind.of]

section

variable {s : Setting} {filter : TypeFilter} {d : TypeDecl}

/-- A declaration that is chosen contributes what its driver writes. -/
theorem contribution_of_emitDecl? {drive : Drive Nat} (haccept : filter.accepts d.name = true)
    (hemit : emitDecl? s d = some drive) :
    d.contribution s filter = .ofDrive d drive := by
  unfold TypeDecl.contribution
  rw [if_pos haccept, hemit]

/-- A declaration that is chosen and of the right kind is either generated or fails. -/
theorem contribution_of_chosen (haccept : filter.accepts d.name = true)
    (hkind : DeclKind.of d.type ≠ .other) :
    (∃ keys, (d.contribution s filter).generated = [⟨d.name, .of d.type, keys⟩] ∧
        (d.contribution s filter).failures = []) ∨
      (d.contribution s filter).generated = [] ∧
        ∃ e, (d.contribution s filter).failures = [⟨d.name, e⟩] := by
  obtain ⟨drive, hemit⟩ := Option.isSome_iff_exists.mp ((emitDecl?_isSome s d).mpr hkind)
  rw [contribution_of_emitDecl? haccept hemit]
  unfold Contribution.ofDrive
  cases drive.result with
  | ok keys => exact .inl ⟨keys, rfl, rfl⟩
  | error e => exact .inr ⟨rfl, e, rfl⟩

/-- Any other declaration contributes nothing. -/
theorem contribution_of_not_chosen
    (h : ¬(filter.accepts d.name = true ∧ DeclKind.of d.type ≠ .other)) :
    d.contribution s filter = .none := by
  unfold TypeDecl.contribution
  by_cases haccept : filter.accepts d.name = true
  · have hkind : ¬(emitDecl? s d).isSome = true := fun hsome =>
      h ⟨haccept, (emitDecl?_isSome s d).mp hsome⟩
    rw [if_pos haccept, Option.not_isSome_iff_eq_none.mp hkind]
  · rw [if_neg haccept]

/-- A declaration that is not generated contributes no text and no packages. -/
theorem contribution_quiet (h : (d.contribution s filter).generated = []) :
    (d.contribution s filter).body = "" ∧ (d.contribution s filter).imports = [] := by
  by_cases hchosen : filter.accepts d.name = true ∧ DeclKind.of d.type ≠ .other
  · obtain ⟨haccept, hkind⟩ := hchosen
    obtain ⟨drive, hemit⟩ := Option.isSome_iff_exists.mp ((emitDecl?_isSome s d).mpr hkind)
    rw [contribution_of_emitDecl? haccept hemit] at h ⊢
    unfold Contribution.ofDrive at h ⊢
    cases hresult : drive.result with
    | ok keys =>
      rw [hresult] at h
      cases h
    | error e => exact ⟨rfl, rfl⟩
  · rw [contribution_of_not_chosen hchosen]
    exact ⟨rfl, rfl⟩

/-- The choice of types decides only whether a declaration contributes, not what. -/
theorem contribution_eq_of_accepts {filter' : TypeFilter}
    (h : filter'.accepts d.name = filter.accepts d.name) :
    d.contribution s filter' = d.contribution s filter := by
  unfold TypeDecl.contribution
  rw [h]

end

/-! ## Declarations that can be left out -/

/-- The contribution is that of a generated declaration. -/
def Contribution.isGenerated (x : Contribution) : Bool :=
  !x.generated.isEmpty

/-- A declaration is not generated where nothing is reported as generated for it. -/
theorem Contribution.isGenerated_eq_false_iff (x : Contribution) :
    x.isGenerated = false ↔ x.generated = [] := by
  unfold isGenerated
  simp

/-- Leaving out contributions that have nothing for a list leaves the list as it is. -/
theorem flatMap_filter_isGenerated {β : Type} {g : Contribution → List β} {xs : List Contribution}
    (hquiet : ∀ x ∈ xs, x.isGenerated = false → g x = []) :
    (xs.filter Contribution.isGenerated).flatMap g = xs.flatMap g := by
  induction xs with
  | nil => rfl
  | cons x xs ih =>
    have hrest := ih fun y hy => hquiet y (List.mem_cons_of_mem _ hy)
    cases hx : x.isGenerated with
    | true => rw [List.filter_cons_of_pos hx, List.flatMap_cons, List.flatMap_cons, hrest]
    | false =>
      rw [List.filter_cons_of_neg (by simp [hx]), List.flatMap_cons,
        hquiet x List.mem_cons_self hx, List.nil_append, hrest]

/-- Leaving out contributions without a text leaves the text as it is. -/
theorem join_filter_isGenerated {xs : List Contribution}
    (hquiet : ∀ x ∈ xs, x.isGenerated = false → x.body = "") :
    String.join ((xs.filter Contribution.isGenerated).map Contribution.body) =
      String.join (xs.map Contribution.body) := by
  induction xs with
  | nil => rfl
  | cons x xs ih =>
    have hrest := ih fun y hy => hquiet y (List.mem_cons_of_mem _ hy)
    cases hx : x.isGenerated with
    | true =>
      rw [List.filter_cons_of_pos hx, List.map_cons, List.map_cons, String.join_cons,
        String.join_cons, hrest]
    | false =>
      rw [List.filter_cons_of_neg (by simp [hx]), List.map_cons, String.join_cons,
        hquiet x List.mem_cons_self hx, String.empty_append, hrest]

/-- The generated file depends on the generated declarations alone. -/
theorem output_reportOf_filter (c : GenConfig) (package : String) (s : Setting)
    (filter : TypeFilter) (decls : List TypeDecl) :
    (reportOf c package ((decls.map (TypeDecl.contribution s filter)).filter
        Contribution.isGenerated)).output =
      (reportOf c package (decls.map (TypeDecl.contribution s filter))).output := by
  have hquiet : ∀ x ∈ decls.map (TypeDecl.contribution s filter), x.isGenerated = false →
      x.generated = [] ∧ x.body = "" ∧ x.imports = [] := by
    intro x hx hgen
    obtain ⟨d, _, rfl⟩ := List.mem_map.mp hx
    have hnone := (Contribution.isGenerated_eq_false_iff _).mp hgen
    exact ⟨hnone, contribution_quiet hnone⟩
  unfold reportOf
  rw [flatMap_filter_isGenerated fun x hx hgen => (hquiet x hx hgen).1,
    flatMap_filter_isGenerated fun x hx hgen => (hquiet x hx hgen).2.2,
    join_filter_isGenerated fun x hx hgen => (hquiet x hx hgen).2.1]

/-- Sorting packages neither adds nor drops any. -/
theorem StdPackage.mem_sorted {ps : List StdPackage} {k : StdPackage} :
    k ∈ StdPackage.sorted ps ↔ k ∈ ps := by
  have hall : k ∈ StdPackage.all := by cases k <;> decide
  unfold StdPackage.sorted
  simp [hall]

/-! ## The report -/

/-- The report on a declaration that is generated alone. -/
def soloReport (c : GenConfig) (filter : TypeFilter) (table : TypeTable) (package : String)
    (d : TypeDecl) : Report :=
  match (generateWith c filter table ⟨package, [d]⟩).result with
  | .ok r => r
  | .error _ => ⟨"", [], []⟩

/-- A report is put together from the reports on the single declarations of a package. -/
structure Report.IsFold (c : GenConfig) (filter : TypeFilter) (table : TypeTable) (p : Package)
    (r : Report) : Prop where
  /-- The generated types are those of the single reports, in order. -/
  generated : r.generated = p.decls.flatMap fun d =>
    (soloReport c filter table p.name d).generated
  /-- The failures are those of the single reports, in order. -/
  failures : r.failures = p.decls.flatMap fun d =>
    (soloReport c filter table p.name d).failures
  /-- A struct, array or map that is chosen is in one of both lists, and once. -/
  chosen : ∀ d, filter.accepts d.name = true → DeclKind.of d.type ≠ .other →
    (∃ keys, (soloReport c filter table p.name d).generated = [⟨d.name, .of d.type, keys⟩] ∧
        (soloReport c filter table p.name d).failures = []) ∨
      (soloReport c filter table p.name d).generated = [] ∧
        ∃ e, (soloReport c filter table p.name d).failures = [⟨d.name, e⟩]
  /-- Any other declaration is in neither. -/
  others : ∀ d, ¬(filter.accepts d.name = true ∧ DeclKind.of d.type ≠ .other) →
    (soloReport c filter table p.name d).generated = [] ∧
      (soloReport c filter table p.name d).failures = []
  /-- What a declaration contributes to the file is what its own file has after the header, and the
  packages that its own file imports. -/
  solo : ∀ d, (soloReport c filter table p.name d).output =
    fileText c (c.packageFor p) (soloReport c filter table p.name d).generated
      (d.contribution ⟨c.tagRules, table⟩ filter).imports
      (d.contribution ⟨c.tagRules, table⟩ filter).body
  /-- A declaration that is not generated contributes nothing to the file. -/
  quiet : ∀ d, (soloReport c filter table p.name d).generated = [] →
    (d.contribution ⟨c.tagRules, table⟩ filter).imports = [] ∧
      (d.contribution ⟨c.tagRules, table⟩ filter).body = ""
  /-- The file has the contributed texts in order, and imports the contributed packages. -/
  output : r.output = fileText c (c.packageFor p) r.generated
    (p.decls.flatMap fun d => (d.contribution ⟨c.tagRules, table⟩ filter).imports)
    (String.join (p.decls.map fun d => (d.contribution ⟨c.tagRules, table⟩ filter).body))
  /-- A package is imported if and only if the file of some declaration alone imports it. -/
  imports : ∀ k : StdPackage,
    k ∈ StdPackage.sorted
        (p.decls.flatMap fun d => (d.contribution ⟨c.tagRules, table⟩ filter).imports) ↔
      ∃ d ∈ p.decls,
        k ∈ StdPackage.sorted (d.contribution ⟨c.tagRules, table⟩ filter).imports
  /-- The file is empty if and only if nothing was generated. -/
  empty_iff : r.output = "" ↔ r.generated = []
  /-- The file stays the same when declarations that are not generated are left out or put in. -/
  deletion : ∀ decls : List TypeDecl,
    (decls.filter fun d => !(soloReport c filter table p.name d).generated.isEmpty) =
        (p.decls.filter fun d => !(soloReport c filter table p.name d).generated.isEmpty) →
      ∃ r', (generateWith c filter table ⟨p.name, decls⟩).result = .ok r' ∧ r'.output = r.output
  /-- The whole report stays the same under another choice of types that keeps the same
  declarations. -/
  selection : ∀ filter' : TypeFilter,
    (∀ d ∈ p.decls, filter'.accepts d.name = filter.accepts d.name) →
      (generateWith c filter' table p).result = .ok r

/-- A declaration that is generated alone is reported by what it contributes. -/
theorem soloReport_eq (c : GenConfig) (filter : TypeFilter) (table : TypeTable) (p : Package)
    (d : TypeDecl) :
    soloReport c filter table p.name d =
      reportOf c (c.packageFor p) [d.contribution ⟨c.tagRules, table⟩ filter] := by
  have hresult := generateWith_result c filter table ⟨p.name, [d]⟩
  unfold soloReport
  rw [hresult]
  rfl

/-- A declaration that is generated alone is reported as in any pass. -/
theorem soloReport_generated (c : GenConfig) (filter : TypeFilter) (table : TypeTable)
    (p : Package) (d : TypeDecl) :
    (soloReport c filter table p.name d).generated =
      (d.contribution ⟨c.tagRules, table⟩ filter).generated := by
  rw [soloReport_eq]
  exact List.append_nil _

/-- A declaration that fails alone is reported as in any pass. -/
theorem soloReport_failures (c : GenConfig) (filter : TypeFilter) (table : TypeTable)
    (p : Package) (d : TypeDecl) :
    (soloReport c filter table p.name d).failures =
      (d.contribution ⟨c.tagRules, table⟩ filter).failures := by
  rw [soloReport_eq]
  exact List.append_nil _

/-- The file of a report is empty if and only if nothing was generated. -/
theorem output_reportOf_eq_empty_iff (c : GenConfig) (package : String) (xs : List Contribution) :
    (reportOf c package xs).output = "" ↔ (reportOf c package xs).generated = [] := by
  show fileText c package (xs.flatMap Contribution.generated) _ _ = "" ↔
    xs.flatMap Contribution.generated = []
  unfold fileText
  by_cases hempty : (xs.flatMap Contribution.generated).isEmpty = true
  · rw [if_pos hempty]
    exact ⟨fun _ => List.isEmpty_iff.mp hempty, fun _ => rfl⟩
  · rw [if_neg hempty]
    constructor
    -- a file with anything in it begins with the header
    · intro h
      rw [String.append_eq_empty_iff] at h
      exact absurd h.1 (headerText_ne_empty _ _ _)
    · intro h
      rw [h] at hempty
      exact absurd rfl hempty

/-- A pass ends with a report that is put together from those on the single declarations. -/
theorem generateWith_isFold (c : GenConfig) (filter : TypeFilter) (table : TypeTable)
    (p : Package) :
    ∃ r, (generateWith c filter table p).result = .ok r ∧ r.IsFold c filter table p := by
  have hsolo := soloReport_generated c filter table p
  have hfail := soloReport_failures c filter table p
  refine ⟨_, generateWith_result c filter table p, ?_⟩
  constructor
  case generated =>
    simp only [hsolo]
    exact List.flatMap_map _ _ _
  case failures =>
    simp only [hfail]
    exact List.flatMap_map _ _ _
  case chosen =>
    intro d haccept hkind
    rw [hsolo, hfail]
    exact contribution_of_chosen haccept hkind
  case others =>
    intro d h
    rw [hsolo, hfail, contribution_of_not_chosen h]
    exact ⟨rfl, rfl⟩
  case solo =>
    intro d
    rw [soloReport_eq]
    simp [reportOf]
  case quiet =>
    intro d h
    rw [hsolo] at h
    exact (contribution_quiet h).symm
  case output =>
    simp only [reportOf, List.flatMap_map, List.map_map, Function.comp_def]
  case imports =>
    intro k
    simp only [StdPackage.mem_sorted]
    exact List.mem_flatMap
  case empty_iff => exact output_reportOf_eq_empty_iff c _ _
  case deletion =>
    intro decls hdecls
    simp only [hsolo] at hdecls
    refine ⟨_, generateWith_result c filter table ⟨p.name, decls⟩, ?_⟩
    -- both files are those of the generated declarations, and these are the same
    rw [← output_reportOf_filter, ← output_reportOf_filter, List.filter_map, List.filter_map]
    exact congrArg (fun ds => (reportOf c _ (List.map _ ds)).output) hdecls
  case selection =>
    intro filter' h
    have hmap : p.decls.map (TypeDecl.contribution ⟨c.tagRules, table⟩ filter') =
        p.decls.map (TypeDecl.contribution ⟨c.tagRules, table⟩ filter) :=
      List.map_congr_left fun d hd => contribution_eq_of_accepts (h d hd)
    rw [generateWith_result, hmap]

end CodecGen
