import CodecGen.Proofs.Load.Visit

/-!
# Loading as a fold

What loading makes of the files it visits (`load?_isFold`): the declarations of those that hold any,
merged in order, and the list of those that neither hold any nor are written by a tool. Files that
are left out do not count, and inputs can be loaded in parts.
-/

namespace CodecGen

open FileTree (join extension?)

/-! ## What files hold -/

/-- The file that a path leads to holds the declarations of a package, by the extension of its
name. -/
inductive Holds (t : FileTree) (path : String) (p : Package) : Prop where
  | source {text : String} (hread : t.read? path = some text) (hname : extension? path = some "go")
      (hwritten : isGenerated text = false) (hp : (Package.parse text).result = .ok p)
  | json {text : String} (hread : t.read? path = some text)
      (hname : extension? path = some "json") (hp : Package.ofJson? text = some p)
  | yaml {text : String} (hread : t.read? path = some text)
      (hname : extension? path = some "yaml" ∨ extension? path = some "yml")
      (hp : Package.ofYaml? text = some p)

/-- The file that a path leads to is a source that a tool wrote. -/
def IsToolWritten (t : FileTree) (path : String) : Prop :=
  ∃ text, t.read? path = some text ∧ extension? path = some "go" ∧ isGenerated text = true

/-- What files on the way give: the packages that they hold in order, and the paths of those that
neither hold one nor are written by a tool. -/
inductive Gathers (t : FileTree) : List String → List Package → List String → Prop where
  | nil : Gathers t [] [] []
  | hold {path : String} {paths failed : List String} {p : Package} {ps : List Package}
      (h : Holds t path p) (hrest : Gathers t paths ps failed) :
      Gathers t (path :: paths) (p :: ps) failed
  | skip {path : String} {paths failed : List String} {ps : List Package}
      (h : IsToolWritten t path) (hrest : Gathers t paths ps failed) :
      Gathers t (path :: paths) ps failed
  | fail {path : String} {paths failed : List String} {ps : List Package}
      (hnone : ∀ p, ¬Holds t path p) (hskip : ¬IsToolWritten t path)
      (hrest : Gathers t paths ps failed) : Gathers t (path :: paths) ps (path :: failed)

/-- What comes of the text of a document that holds some declarations, or is none. -/
def ofDocument : Option Package → Except LoadFault (Option Package)
  | some p => .ok (some p)
  | none => .error .document

/-- What comes of source text. -/
def ofSource (text : String) : Except LoadFault (Option Package) :=
  ((Package.parse text).result.mapError .source).map some

/-- A document gives a package if and only if it is read as this package. -/
theorem ofDocument_eq_some {x : Option Package} {p : Package} :
    ofDocument x = .ok (some p) ↔ x = some p := by
  cases x <;> simp [ofDocument]

/-- A document is read or refused, but never passed over. -/
theorem ofDocument_ne_none (x : Option Package) : ofDocument x ≠ .ok none := by
  cases x <;> simp [ofDocument]

/-- A source gives a package if and only if it is parsed as this package. -/
theorem ofSource_eq_some {text : String} {p : Package} :
    ofSource text = .ok (some p) ↔ (Package.parse text).result = .ok p := by
  unfold ofSource
  cases (Package.parse text).result <;> simp [Except.mapError, Except.map]

/-- A source that is parsed at all is never passed over. -/
theorem ofSource_ne_none (text : String) : ofSource text ≠ .ok none := by
  unfold ofSource
  cases (Package.parse text).result <;> simp [Except.mapError, Except.map]

/-- What comes of a file that can be read, by the extension of its name. -/
theorem readDeclarations_result (extension : Option String) (text : String) :
    (readDeclarations extension text).result =
      if extension = some "go" then if isGenerated text then .ok none else ofSource text
      else if extension = some "json" then ofDocument (Package.ofJson? text)
      else if extension = some "yaml" ∨ extension = some "yml" then
        ofDocument (Package.ofYaml? text)
      else .error .unsupported := by
  have hdocument : ∀ x : Option Package,
      (if x.isSome then pure x else .fail .document : Logged LoadFault (Option Package)).result =
        ofDocument x := by
    rintro (_ | p) <;> rfl
  unfold readDeclarations
  split
  · rw [if_pos rfl]
    split
    · rfl
    · rw [Logged.result_bind, Logged.result_mapError, ofSource]
      cases (Package.parse text).result <;> rfl
  · rw [if_neg (by decide), if_pos rfl]
    exact hdocument _
  · rw [if_neg (by decide), if_neg (by decide), if_pos (.inl rfl)]
    exact hdocument _
  · rw [if_neg (by decide), if_neg (by decide), if_pos (.inr rfl)]
    exact hdocument _
  · rename_i hgo hjson hyaml hyml
    rw [if_neg hgo, if_neg hjson, if_neg (not_or.mpr ⟨hyaml, hyml⟩)]
    rfl

section

variable {t : FileTree} {path : String}

/-- What comes of a file with a text is what comes of the text, by the extension of its name. -/
theorem loadFile_of_read {text : String} (h : t.read? path = some text) :
    loadFile t path = readDeclarations (extension? path) text := by
  unfold loadFile
  rw [h]

/-- A file without a text cannot be read. -/
theorem loadFile_of_unread (h : t.read? path = none) : loadFile t path = .fail .unreadable := by
  unfold loadFile
  rw [h]

/-- The declarations that loading finds are those that the file holds. -/
theorem loadFile_eq_some_iff {p : Package} :
    (loadFile t path).result = .ok (some p) ↔ Holds t path p := by
  constructor
  · intro h
    cases hread : t.read? path with
    | none =>
      rw [loadFile_of_unread hread] at h
      cases h
    | some text =>
      rw [loadFile_of_read hread, readDeclarations_result] at h
      -- the extension alone decides how the text is read
      by_cases hgo : extension? path = some "go"
      · rw [if_pos hgo] at h
        by_cases hwritten : isGenerated text = true
        · rw [if_pos hwritten] at h
          cases h
        · rw [if_neg hwritten] at h
          exact .source hread hgo (by simpa using hwritten) (ofSource_eq_some.mp h)
      rw [if_neg hgo] at h
      by_cases hjson : extension? path = some "json"
      · rw [if_pos hjson] at h
        exact .json hread hjson (ofDocument_eq_some.mp h)
      rw [if_neg hjson] at h
      by_cases hyaml : extension? path = some "yaml" ∨ extension? path = some "yml"
      · rw [if_pos hyaml] at h
        exact .yaml hread hyaml (ofDocument_eq_some.mp h)
      · rw [if_neg hyaml] at h
        cases h
  · rintro (⟨hread, hname, hwritten, hp⟩ | ⟨hread, hname, hp⟩ | ⟨hread, hname | hname, hp⟩)
    all_goals rw [loadFile_of_read hread, readDeclarations_result, hname]
    · rw [if_pos rfl, hwritten]
      exact ofSource_eq_some.mpr hp
    all_goals exact ofDocument_eq_some.mpr hp

/-- Loading finds nothing but no fault in just the files that a tool wrote. -/
theorem loadFile_eq_none_iff : (loadFile t path).result = .ok none ↔ IsToolWritten t path := by
  constructor
  · intro h
    cases hread : t.read? path with
    | none =>
      rw [loadFile_of_unread hread] at h
      cases h
    | some text =>
      rw [loadFile_of_read hread, readDeclarations_result] at h
      by_cases hgo : extension? path = some "go"
      · rw [if_pos hgo] at h
        by_cases hwritten : isGenerated text = true
        · exact ⟨text, hread, hgo, hwritten⟩
        · rw [if_neg hwritten] at h
          exact absurd h (ofSource_ne_none text)
      rw [if_neg hgo] at h
      split at h
      · exact absurd h (ofDocument_ne_none _)
      · split at h
        · exact absurd h (ofDocument_ne_none _)
        · cases h
  · rintro ⟨text, hread, hname, hwritten⟩
    rw [loadFile_of_read hread, readDeclarations_result, if_pos hname, if_pos hwritten]

/-- Paths that lead to the same place, where no directory is, give the same. -/
theorem loadFile_congr {other : String} {l : Location} (hl : t.isDir l = false)
    (hpath : t.locate? path = some l) (hother : t.locate? other = some l) :
    (loadFile t path).result = (loadFile t other).result := by
  have hread : t.read? path = t.read? other := by
    unfold FileTree.read?
    rw [hpath, hother]
  have hname : extension? path = extension? other := by
    refine FileTree.extension?_congr ?_
    rcases FileTree.locate?_cases hpath with hdir | ⟨dir, name, heq, _, _, hcalled⟩
    · rw [hl] at hdir
      cases hdir
    rcases FileTree.locate?_cases hother with hdir | ⟨dir', name', heq', _, _, hcalled'⟩
    · rw [hl] at hdir
      cases hdir
    have hlast : name = name' := by simpa using (List.append_inj' (heq.symm.trans heq') rfl).2
    rw [hcalled, hcalled', hlast]
  unfold loadFile
  rw [hread, hname]

end

/-! ## The fold -/

/-- The declarations in the file that a path leads to, if it holds any. -/
def unit? (t : FileTree) (path : String) : Option Package :=
  (loadFile t path).result.toOption.join

/-- The path, if it leads to a file that is left out. -/
def leftOut? (t : FileTree) (path : String) : Option String :=
  if (loadFile t path).result.isOk then none else some path

/-- The declarations of packages together. -/
def mergeAll (ps : List Package) : Package :=
  ps.foldl Package.merge .empty

/-- What is gathered so far can be merged in at last. -/
theorem foldl_merge_eq (p : Package) (ps : List Package) :
    ps.foldl Package.merge p = p.merge (mergeAll ps) := by
  unfold mergeAll
  induction ps generalizing p with
  | nil => exact p.merge_empty.symm
  | cons q ps ih => rw [List.foldl_cons, List.foldl_cons, ih, ih (.merge _ q), Package.empty_merge,
      Package.merge_assoc]

/-- The first of some packages is merged with what the others are together. -/
theorem mergeAll_cons (p : Package) (ps : List Package) :
    mergeAll (p :: ps) = p.merge (mergeAll ps) :=
  foldl_merge_eq p ps

/-- Packages in two parts can be merged by parts. -/
theorem mergeAll_append (ps qs : List Package) :
    mergeAll (ps ++ qs) = (mergeAll ps).merge (mergeAll qs) := by
  rw [mergeAll, List.foldl_append, foldl_merge_eq]
  rfl

/-- The declarations are those of all packages, in order. -/
theorem decls_mergeAll (ps : List Package) : (mergeAll ps).decls = ps.flatMap Package.decls := by
  induction ps with
  | nil => rfl
  | cons p ps ih =>
    rw [mergeAll_cons, List.flatMap_cons, ← ih]
    rfl

/-- The name is the first that is not empty. -/
theorem name_mergeAll (ps : List Package) :
    (mergeAll ps).name = ((ps.map Package.name).find? (!·.isEmpty)).getD "" := by
  induction ps with
  | nil => rfl
  | cons p ps ih =>
    rw [mergeAll_cons, Package.merge, List.map_cons, List.find?_cons, ih]
    cases p.name.isEmpty <;> rfl

/-- Loading files one after another adds what they hold, and the paths of those that hold nothing.
-/
theorem foldl_add_eq (t : FileTree) (paths : List String) (l : Loaded) :
    paths.foldl (fun l path => l.add path (loadFile t path).result) l =
      ⟨l.package.merge (mergeAll (paths.filterMap (unit? t))),
        l.failed ++ paths.filterMap (leftOut? t)⟩ := by
  induction paths generalizing l with
  | nil =>
    show l = ⟨l.package.merge .empty, l.failed ++ []⟩
    rw [Package.merge_empty, List.append_nil]
  | cons path paths ih =>
    rw [List.foldl_cons, ih, List.filterMap_cons, List.filterMap_cons]
    unfold unit? leftOut? Loaded.add
    cases (loadFile t path).result with
    | error e => simp [Except.toOption, Except.isOk, Except.toBool]
    | ok p? =>
      cases p? with
      | none => simp [Except.toOption, Except.isOk, Except.toBool]
      | some p =>
        simp [Except.toOption, Except.isOk, Except.toBool, mergeAll_cons, Package.merge_assoc]

/-- Loading merges what the visited files hold, and lists what is left out. -/
theorem load_eq (t : FileTree) (inputs : List String) :
    load t inputs = ⟨mergeAll ((inputs.flatMap (inputFiles t)).filterMap (unit? t)),
      (inputs.flatMap (inputFiles t)).filterMap (leftOut? t)⟩ :=
  foldl_add_eq t (inputs.flatMap (inputFiles t)) .empty

/-- What is gathered from files is what each of them holds, and those that are left out are listed.
-/
theorem gathers_filterMap (t : FileTree) (paths : List String) :
    Gathers t paths (paths.filterMap (unit? t)) (paths.filterMap (leftOut? t)) := by
  induction paths with
  | nil => exact .nil
  | cons path paths ih =>
    cases hresult : (loadFile t path).result with
    | error e =>
      have hunit : unit? t path = none := by simp [unit?, hresult, Except.toOption]
      have hout : leftOut? t path = some path := by
        simp [leftOut?, hresult, Except.isOk, Except.toBool]
      rw [List.filterMap_cons_none hunit, List.filterMap_cons_some hout]
      refine .fail (fun p hp => ?_) (fun hskip => ?_) ih
      · rw [loadFile_eq_some_iff.mpr hp] at hresult
        cases hresult
      · rw [loadFile_eq_none_iff.mpr hskip] at hresult
        cases hresult
    | ok p? =>
      have hout : leftOut? t path = none := by simp [leftOut?, hresult, Except.isOk, Except.toBool]
      rw [List.filterMap_cons_none hout]
      cases p? with
      | none =>
        have hunit : unit? t path = none := by simp [unit?, hresult, Except.toOption]
        rw [List.filterMap_cons_none hunit]
        exact .skip (loadFile_eq_none_iff.mp hresult) ih
      | some p =>
        have hunit : unit? t path = some p := by simp [unit?, hresult, Except.toOption]
        rw [List.filterMap_cons_some hunit]
        exact .hold (loadFile_eq_some_iff.mp hresult) ih

/-- What loading gives is gathered from the files that are visited. -/
theorem load_gathers (t : FileTree) (inputs : List String) :
    ∃ paths ps, Visits t inputs paths ∧ Gathers t paths ps (load t inputs).failed ∧
      (load t inputs).package = mergeAll ps := by
  rw [load_eq]
  exact ⟨_, _, visits_inputFiles t inputs, gathers_filterMap t _, rfl⟩

end CodecGen
