import CodecGen.Proofs.Load.Fold

/-!
# Loading in parts

What loading makes of inputs whose directories can be listed (`load?_isFold`): a fold over the files
that are visited for them. Files that are left out do not touch it, so it gives the same
declarations without them, and the declarations of some inputs after others are merged with those of
the others.
-/

namespace CodecGen

open FileTree (join extension?)

/-! ## Fewer files -/

section

variable {t : FileTree} {gone : List Location}

/-- A directory without some files lists the others. -/
theorem sourceNames_without (dir : Location) : sourceNames (t.without gone) dir =
    (sourceNames t dir).filter fun name => !gone.contains (dir ++ [name]) := by
  refine sourceNames_eq_filter fun name _ => ?_
  rw [FileTree.isFile_without]
  simp

/-- What is found in files is found in a tree without some files too, when nothing is found in these
where they are listed. -/
theorem filterMap_visited_without {β : Type} {found found' : String → Option β}
    {inputs : List String}
    (hinput : ∀ input ∈ inputs, t.dirAt? input = none → found' input = found input)
    (hkept : ∀ path l, t.locate? path = some l → l ∉ gone → found' path = found path)
    (hgone : ∀ input ∈ inputs, ∀ dir, t.dirAt? input = some dir → ∀ name ∈ sourceNames t dir,
      dir ++ [name] ∈ gone → found (join input name) = none) :
    (inputs.flatMap (inputFiles (t.without gone))).filterMap found' =
      (inputs.flatMap (inputFiles t)).filterMap found := by
  rw [List.filterMap_flatMap, List.filterMap_flatMap]
  refine List.flatMap_congr fun input hmem => ?_
  have hsame : (t.without gone).dirAt? input = t.dirAt? input :=
    FileTree.dirAt?_congr (FileTree.dirs_without t gone) input
  cases hdir : t.dirAt? input with
  | none =>
    rw [inputFiles_of_file hdir, inputFiles_of_file (hsame.trans hdir)]
    refine List.filterMap_congr fun path hpath => ?_
    rw [List.mem_singleton.mp hpath]
    exact hinput input hmem hdir
  | some dir =>
    rw [inputFiles_of_dir hdir, inputFiles_of_dir (hsame.trans hdir), sourceNames_without,
      List.filterMap_map, List.filterMap_map, List.filterMap_filter]
    refine List.filterMap_congr fun name hname => ?_
    by_cases hin : dir ++ [name] ∈ gone
    · rw [if_neg (by simpa using hin)]
      exact (hgone input hmem dir hdir name hname hin).symm
    · rw [if_pos (by simpa using hin)]
      exact hkept _ _ (locate?_listed hdir hname).1 hin

/-- A file that stays can be read as before. -/
theorem loadFile_without {path : String} (h : ∀ l, t.locate? path = some l → l ∉ gone) :
    loadFile (t.without gone) path = loadFile t path := by
  have hread : (t.without gone).read? path = t.read? path := by
    unfold FileTree.read?
    rw [FileTree.locate?_congr (FileTree.dirs_without t gone)]
    cases hl : t.locate? path with
    | none => rfl
    | some l =>
      rw [Option.bind_some, Option.bind_some, FileTree.textAt?_without, if_neg (h l hl)]
  unfold loadFile
  rw [hread]

/-- A file that is gone cannot be read. -/
theorem loadFile_gone {path : String} {l : Location} (hl : t.locate? path = some l)
    (hgone : l ∈ gone) : loadFile (t.without gone) path = .fail .unreadable := by
  refine loadFile_of_unread ?_
  unfold FileTree.read?
  rw [FileTree.locate?_congr (FileTree.dirs_without t gone), hl, Option.bind_some,
    FileTree.textAt?_without, if_pos hgone]

end

/-! ## Files that are left out -/

section

variable {t : FileTree} {inputs : List String}

/-- The files that are left out are those visited that cannot be loaded. -/
theorem mem_failed_iff {path : String} : path ∈ (load t inputs).failed ↔
    path ∈ inputs.flatMap (inputFiles t) ∧ (loadFile t path).result.isOk = false := by
  rw [load_eq, List.mem_filterMap]
  unfold leftOut?
  constructor
  · rintro ⟨other, hmem, h⟩
    split at h
    · cases h
    · rename_i hfault
      cases h
      exact ⟨hmem, Bool.not_eq_true _ ▸ hfault⟩
  · rintro ⟨hmem, hfault⟩
    exact ⟨path, hmem, by rw [hfault]; rfl⟩

/-- A file that cannot be loaded holds no declarations. -/
theorem unit?_eq_none {path : String} (h : (loadFile t path).result.isOk = false) :
    unit? t path = none := by
  unfold unit?
  cases hresult : (loadFile t path).result with
  | error e => rfl
  | ok p =>
    rw [hresult] at h
    cases h

/-- Where a file is that is left out, no declarations are found by any path. -/
theorem unit?_of_failed {gone : List String} (hgone : gone ⊆ (load t inputs).failed)
    {path : String} {l : Location} (hl : t.locate? path = some l)
    (hmem : l ∈ gone.filterMap t.locate?) : unit? t path = none := by
  obtain ⟨other, hother, hlocate⟩ := List.mem_filterMap.mp hmem
  obtain ⟨hvisited, hfault⟩ := mem_failed_iff.mp (hgone hother)
  refine unit?_eq_none ?_
  rw [loadFile_congr (isDir_of_visited hvisited hlocate) hl hlocate]
  exact hfault

/-- What can be listed depends only on the directories and on those that are hidden. -/
theorem canList_congr {u : FileTree} (hdirs : u.dirs = t.dirs) (hhidden : u.hidden = t.hidden) :
    canList u = canList t := by
  funext input
  unfold canList
  rw [FileTree.dirAt?_congr hdirs, hhidden]

/-- Where all directories can be listed, loading does not fail. -/
theorem load?_of_canList (h : ∀ input ∈ inputs, canList t input = true) :
    load? t inputs = .ok (load t inputs) := by
  unfold load?
  rw [List.find?_eq_none.mpr fun input hmem => by simp [h input hmem]]

/-- The declarations are found in a tree without files that are left out. -/
theorem package_load_without {gone : List String} (hgone : gone ⊆ (load t inputs).failed) :
    (load (t.without (gone.filterMap t.locate?)) inputs).package = (load t inputs).package := by
  have hsame : ∀ path, unit? (t.without (gone.filterMap t.locate?)) path = unit? t path := by
    intro path
    by_cases h : ∃ l, t.locate? path = some l ∧ l ∈ gone.filterMap t.locate?
    · obtain ⟨l, hl, hmem⟩ := h
      rw [unit?_of_failed hgone hl hmem]
      refine unit?_eq_none ?_
      rw [loadFile_gone hl hmem]
      rfl
    · unfold unit?
      rw [loadFile_without fun l hl hmem => h ⟨l, hl, hmem⟩]
  rw [load_eq, load_eq]
  refine congrArg mergeAll (filterMap_visited_without ?_ ?_ ?_)
  · exact fun input _ _ => hsame input
  · exact fun path _ _ _ => hsame path
  · intro input _ dir hdir name hname hmem
    exact unit?_of_failed hgone (locate?_listed hdir hname).1 hmem

/-- What gives nothing need not be asked. -/
theorem flatMap_filter_of_nil {α β : Type} {f : α → List β} {keep : α → Bool} {xs : List α}
    (h : ∀ x ∈ xs, keep x = false → f x = []) : (xs.filter keep).flatMap f = xs.flatMap f := by
  induction xs with
  | nil => rfl
  | cons x xs ih =>
    have hrest := ih fun y hy => h y (List.mem_cons_of_mem x hy)
    cases hx : keep x with
    | true => rw [List.filter_cons_of_pos hx, List.flatMap_cons, List.flatMap_cons, hrest]
    | false =>
      rw [List.filter_cons_of_neg (by simp [hx]), List.flatMap_cons, h x List.mem_cons_self hx,
        List.nil_append, hrest]

/-- The declarations are found without the inputs that are left out. -/
theorem package_load_filter {gone : List String} (hgone : gone ⊆ (load t inputs).failed) :
    (load t (inputs.filter (· ∉ gone))).package = (load t inputs).package := by
  rw [load_eq, load_eq]
  refine congrArg mergeAll ?_
  rw [List.filterMap_flatMap, List.filterMap_flatMap]
  refine flatMap_filter_of_nil fun input _ hdropped => ?_
  obtain ⟨hvisited, hfault⟩ := mem_failed_iff.mp (hgone (by simpa using hdropped))
  have hdir : t.dirAt? input = none := by
    rw [Option.eq_none_iff_forall_ne_some]
    intro dir hdir
    obtain ⟨hlocate, hisDir⟩ := FileTree.dirAt?_eq_some.mp hdir
    rw [isDir_of_visited hvisited hlocate] at hisDir
    cases hisDir
  rw [inputFiles_of_file hdir, List.filterMap_cons_none (unit?_eq_none hfault)]
  rfl

end

/-- The declarations of inputs after others are merged with those of the others. -/
theorem load_append (t : FileTree) (xs ys : List String) :
    load t (xs ++ ys) = ⟨(load t xs).package.merge (load t ys).package,
      (load t xs).failed ++ (load t ys).failed⟩ := by
  rw [load_eq, load_eq t xs, load_eq t ys, List.flatMap_append, List.filterMap_append,
    List.filterMap_append, mergeAll_append]

/-- A name without anything before its dot has no extension. -/
theorem extension?_join_nameless (input : String) : extension? (join input ".go") = none := by
  unfold extension?
  rw [FileTree.fileName?_join input (by decide)]
  decide

/-- A source without anything before the dot of its name is left out of its directory, whoever wrote
it: the name ends as those of sources do, but has no extension. -/
theorem failed_of_nameless {t : FileTree} {inputs : List String} {input : String} {dir : Location}
    (hmem : input ∈ inputs) (hdir : t.dirAt? input = some dir)
    (hfile : t.isFile (dir ++ [".go"]) = true) :
    join input ".go" ∈ (load t inputs).failed := by
  have hlisted : ".go" ∈ sourceNames t dir := mem_sourceNames.mpr ⟨hfile, by decide⟩
  refine mem_failed_iff.mpr ⟨List.mem_flatMap.mpr ⟨input, hmem, ?_⟩, ?_⟩
  · rw [inputFiles_of_dir hdir]
    exact List.mem_map_of_mem hlisted
  cases hread : t.read? (join input ".go") with
  | none =>
    rw [loadFile_of_unread hread]
    rfl
  | some text =>
    rw [loadFile_of_read hread, extension?_join_nameless]
    rfl

/-! ## The law -/

/-- Loading inputs is a fold over files, and files that are left out do not touch it. -/
structure IsFold (t : FileTree) (inputs : List String) (l : Loaded) : Prop where
  /-- Files are visited in order. The declarations are those of every file that holds any, under the
  first name among theirs that is not empty, and just the files are left out that neither hold any
  nor are written by a tool. -/
  gathers : ∃ paths ps, Visits t inputs paths ∧ Gathers t paths ps l.failed ∧
    l.package.decls = ps.flatMap Package.decls ∧
    l.package.name = ((ps.map Package.name).find? (!·.isEmpty)).getD ""
  /-- The declarations are the same in a tree without files that are left out. -/
  withoutFiles : ∀ gone, gone ⊆ l.failed →
    ∃ l', load? (t.without (gone.filterMap t.locate?)) inputs = .ok l' ∧ l'.package = l.package
  /-- The declarations are the same without inputs that are left out. -/
  withoutInputs : ∀ gone, gone ⊆ l.failed →
    ∃ l', load? t (inputs.filter (· ∉ gone)) = .ok l' ∧ l'.package = l.package
  /-- Sources of directories are left out when nothing stands before the dot of their names, even
  where a tool wrote them. -/
  nameless : ∀ input ∈ inputs, ∀ dir, t.dirAt? input = some dir →
    t.isFile (dir ++ [".go"]) = true → join input ".go" ∈ l.failed
  /-- Inputs can be loaded in parts. -/
  append : ∀ xs ys, inputs = xs ++ ys → ∃ lx ly, load? t xs = .ok lx ∧ load? t ys = .ok ly ∧
    l = ⟨lx.package.merge ly.package, lx.failed ++ ly.failed⟩

/-- Inputs whose directories can be listed are loaded by a fold over the files visited for them, and
merging is associative with the empty package neutral. -/
theorem load?_isFold (t : FileTree) (inputs : List String)
    (h : ∀ input ∈ inputs, canList t input = true) :
    (∃ l, load? t inputs = .ok l ∧ IsFold t inputs l) ∧
      Std.Associative Package.merge ∧ Std.LawfulIdentity Package.merge .empty := by
  refine ⟨⟨load t inputs, load?_of_canList h, ?_⟩, ⟨Package.merge_assoc⟩, ?_⟩
  case refine_2 =>
    exact { left_id := Package.empty_merge, right_id := Package.merge_empty }
  constructor
  case gathers =>
    obtain ⟨paths, ps, hvisits, hgathers, hpackage⟩ := load_gathers t inputs
    rw [hpackage]
    exact ⟨paths, ps, hvisits, hgathers, decls_mergeAll ps, name_mergeAll ps⟩
  case withoutFiles =>
    intro gone hgone
    refine ⟨_, load?_of_canList ?_, package_load_without hgone⟩
    rw [canList_congr (FileTree.dirs_without t _) (FileTree.hidden_without t _)]
    exact h
  case withoutInputs =>
    intro gone hgone
    refine ⟨_, load?_of_canList fun input hmem => ?_, package_load_filter hgone⟩
    exact h input (List.mem_filter.mp hmem).1
  case nameless => exact fun input hmem dir hdir hfile => failed_of_nameless hmem hdir hfile
  case append =>
    rintro xs ys rfl
    refine ⟨_, _, load?_of_canList fun input hmem => ?_, load?_of_canList fun input hmem => ?_,
      load_append t xs ys⟩
    · exact h input (List.mem_append_left ys hmem)
    · exact h input (List.mem_append_right xs hmem)

/-- A tree with a source of each kind: one with declarations beside its test, one that ends too
early, and one that a tool wrote. -/
def mixedSources : FileTree :=
  [(["models", "b.go"], "package p\n\ntype B []int\n"), (["models", "b_test.go"], "package p\n"),
    (["a.go"], "package p\n\ntype A struct \x7b\n"),
    (["c.go"], "// Code generated by hand. DO NOT EDIT.\n\npackage q\n")].foldl
      (fun t f => t.addFile f.1 (some f.2)) .empty

/-- Of a mixed tree the file that ends too early is left out, and the rest is merged. -/
theorem load?_isFold_mixedSources :
    (∀ input ∈ ["a.go", "models", "c.go"], canList mixedSources input = true) ∧
      ∃ l, load? mixedSources ["a.go", "models", "c.go"] = .ok l ∧ l.failed = ["a.go"] ∧
        l.package.name = "p" ∧ l.package.decls.map TypeDecl.name = ["B"] ∧
        IsFold mixedSources ["a.go", "models", "c.go"] l := by
  have hlist : ∀ input ∈ ["a.go", "models", "c.go"], canList mixedSources input = true := by
    decide +kernel
  obtain ⟨⟨l, hl, hfold⟩, _⟩ := load?_isFold mixedSources ["a.go", "models", "c.go"] hlist
  have heq : load mixedSources ["a.go", "models", "c.go"] = l :=
    Except.ok.inj ((load?_of_canList hlist).symm.trans hl)
  have hfailed : (load mixedSources ["a.go", "models", "c.go"]).failed = ["a.go"] := by
    decide +kernel
  have hname : (load mixedSources ["a.go", "models", "c.go"]).package.name = "p" := by
    decide +kernel
  have hdecls : (load mixedSources ["a.go", "models", "c.go"]).package.decls.map TypeDecl.name =
      ["B"] := by
    decide +kernel
  rw [heq] at hfailed hname hdecls
  exact ⟨hlist, l, hl, hfailed, hname, hdecls, hfold⟩

/-- A directory with a source that a tool wrote, without anything before the dot of its name. -/
def namelessSource : FileTree :=
  FileTree.empty.addFile [".go"] (some "// Code generated by hand. DO NOT EDIT.\n")

/-- Among the files that are left out there can be sources, by their names, that a tool wrote. -/
theorem load?_not_skipping : ¬∀ (t : FileTree) (inputs : List String) (l : Loaded),
    load? t inputs = .ok l → ∀ path ∈ l.failed, ∀ name text, FileTree.fileName? path = some name →
      ".go".toList <:+ name.toList → t.read? path = some text → isGenerated text = false := by
  intro h
  have hlist : ∀ input ∈ ["."], canList namelessSource input = true := by decide +kernel
  have hfailed : "./.go" ∈ (load namelessSource ["."]).failed := by decide +kernel
  have hfalse := h namelessSource ["."] _ (load?_of_canList hlist) "./.go" hfailed ".go"
    "// Code generated by hand. DO NOT EDIT.\n" (by decide +kernel) List.suffix_rfl
    (by decide +kernel)
  revert hfalse
  decide +kernel

end CodecGen
