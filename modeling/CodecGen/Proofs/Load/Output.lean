import CodecGen.Proofs.Load.Parts

/-!
# Loading beside a file that was written

Text with a marker line that is written to a file does not change what is loaded from a tree
(`load_putFile`), unless the file held declarations before, or is one that a directory lists without
taking its name for that of a source.
-/

namespace CodecGen

open FileTree (join extension? hasPlace isProper)

/-! ## Extensions of sources -/

/-- The name of a source has the extension of sources, if anything stands before that. -/
theorem extension?_join_source {name : String} (hproper : isProper name = true)
    (hname : isSourceName name = true) (hnamed : name ≠ ".go") (input : String) :
    extension? (join input name) = some "go" := by
  obtain ⟨pre, hpre⟩ := (isSourceName_iff.mp hname).1
  have hsplit : Text.split '.' name.toList = Text.split '.' pre ++ [['g', 'o']] := by
    rw [← hpre]
    exact Text.split_append_cons '.' pre ['g', 'o']
  have hne : Text.split '.' pre ≠ [[]] := by
    intro h
    have hnil : pre = [] := by
      have hjoin := Text.join_split '.' pre
      rw [h] at hjoin
      exact hjoin.symm
    rw [hnil] at hpre
    exact hnamed (String.toList_inj.mp hpre.symm)
  have hlength : ¬(Text.split '.' pre ++ [['g', 'o']]).length < 2 := by
    have hpos := List.length_pos_iff.mpr (Text.split_ne_nil '.' pre)
    rw [List.length_append, List.length_singleton]
    omega
  unfold extension?
  rw [FileTree.fileName?_join input hproper]
  simp only [Option.bind_eq_bind, Option.bind_some, hsplit, List.dropLast_concat,
    List.getLast?_concat, hlength, hne, or_self, if_false, Option.map_some]

/-! ## Files that a tool wrote -/

section

variable {t : FileTree} {inputs : List String}

/-- What is loaded depends only on the files visited and on what comes of each. -/
theorem load_congr {u : FileTree}
    (hvisited : inputs.flatMap (inputFiles u) = inputs.flatMap (inputFiles t))
    (hload : ∀ path ∈ inputs.flatMap (inputFiles t),
      (loadFile u path).result = (loadFile t path).result) :
    load u inputs = load t inputs := by
  have hunits : (inputs.flatMap (inputFiles t)).filterMap (unit? u) =
      (inputs.flatMap (inputFiles t)).filterMap (unit? t) := by
    refine List.filterMap_congr fun path hmem => ?_
    unfold unit?
    rw [hload path hmem]
  have hout : (inputs.flatMap (inputFiles t)).filterMap (leftOut? u) =
      (inputs.flatMap (inputFiles t)).filterMap (leftOut? t) := by
    refine List.filterMap_congr fun path hmem => ?_
    unfold leftOut?
    rw [hload path hmem]
  rw [load_eq, load_eq, hvisited, hunits, hout]

/-- Files that a tool wrote can be taken out of the directories that list them. -/
theorem load_without {gone : List Location}
    (hinput : ∀ input ∈ inputs, ∀ l ∈ gone, t.locate? input ≠ some l)
    (hgone : ∀ input ∈ inputs, ∀ dir, t.dirAt? input = some dir → ∀ name ∈ sourceNames t dir,
      dir ++ [name] ∈ gone → IsToolWritten t (join input name)) :
    load (t.without gone) inputs = load t inputs := by
  have hkept : ∀ path l, t.locate? path = some l → l ∉ gone →
      loadFile (t.without gone) path = loadFile t path := by
    intro path l hl hstay
    refine loadFile_without fun k hk => ?_
    rw [hl] at hk
    exact Option.some.inj hk ▸ hstay
  have hfile : ∀ input ∈ inputs, loadFile (t.without gone) input = loadFile t input :=
    fun input hmem => loadFile_without fun l hl hin => hinput input hmem l hin hl
  -- units and reports are both gathered path by path, and a path that is gone gives neither
  rw [load_eq, load_eq]
  congr 1
  · refine congrArg mergeAll (filterMap_visited_without ?_ ?_ ?_)
    · intro input hmem _
      unfold unit?
      rw [hfile input hmem]
    · intro path l hl hstay
      unfold unit?
      rw [hkept path l hl hstay]
    · intro input hmem dir hdir name hname hin
      unfold unit?
      rw [loadFile_eq_none_iff.mpr (hgone input hmem dir hdir name hname hin)]
      rfl
  · refine filterMap_visited_without ?_ ?_ ?_
    · intro input hmem _
      unfold leftOut?
      rw [hfile input hmem]
    · intro path l hl hstay
      unfold leftOut?
      rw [hkept path l hl hstay]
    · intro input hmem dir hdir name hname hin
      unfold leftOut?
      rw [loadFile_eq_none_iff.mpr (hgone input hmem dir hdir name hname hin)]
      rfl

end

/-! ## Files that are written -/

/-- Nothing is loaded from the file at a location, neither now nor once a tool has written it. -/
structure IsSpare (t : FileTree) (inputs : List String) (l : Location) : Prop where
  /-- No input leads there. -/
  input : ∀ input ∈ inputs, t.locate? input ≠ some l
  /-- No file is there, or one that a tool wrote, or one that directories do not list. A new file of
  a directory has something before the dot of its name. -/
  before : (t.isFile l = false ∧
      ∀ input ∈ inputs, ∀ dir, t.dirAt? input = some dir → l ≠ dir ++ [".go"]) ∨
    (∃ text, t.textAt? l = some text ∧ isGenerated text = true) ∨
    ¬∃ input ∈ inputs, ∃ dir name, t.dirAt? input = some dir ∧ l = dir ++ [name] ∧
      isSourceName name = true

section

variable {t : FileTree} {inputs : List String} {l : Location} {text : String}

/-- There is a file wherever a text is. -/
theorem isFile_of_textAt? (h : t.textAt? l = some text) : t.isFile l = true := by
  by_contra hnone
  have hlookup : t.files.lookup l = none := by
    refine List.lookup_eq_none_iff.mpr fun f hf => ?_
    have hne : l ≠ f.1 := fun heq => hnone (FileTree.isFile_iff.mpr (heq ▸ List.mem_map_of_mem hf))
    simp [hne]
  unfold FileTree.textAt? at h
  rw [hlookup] at h
  cases h

/-- A file that is read by another path than the one written stays as it is. -/
theorem loadFile_putFile (hplace : hasPlace t.dirs l = true) {path : String}
    (h : t.locate? path ≠ some l) :
    loadFile (t.putFile l (some text)) path = loadFile t path := by
  unfold loadFile
  rw [FileTree.read?_putFile hplace, if_neg h]

/-- A new file with a marker line is listed by directories, but nothing is loaded from it. -/
theorem load_putFile_new (hplace : hasPlace t.dirs l = true) (htext : isGenerated text = true)
    (hinput : ∀ input ∈ inputs, t.locate? input ≠ some l) (hnew : t.isFile l = false)
    (hnamed : ∀ input ∈ inputs, ∀ dir, t.dirAt? input = some dir → l ≠ dir ++ [".go"]) :
    load (t.putFile l (some text)) inputs = load t inputs := by
  have hdirs : (t.putFile l (some text)).dirs = t.dirs := FileTree.dirs_putFile t l _
  have hback := FileTree.without_putFile hplace hnew (some text)
  have hwithout : load ((t.putFile l (some text)).without [l]) inputs =
      load (t.putFile l (some text)) inputs := by
    refine load_without ?_ ?_
    · intro input hmem k hk
      rw [List.mem_singleton.mp hk, FileTree.locate?_congr hdirs]
      exact hinput input hmem
    · intro input hmem dir hdir name hname hin
      have hl : dir ++ [name] = l := List.mem_singleton.mp hin
      obtain ⟨hlocate, _⟩ := locate?_listed hdir hname
      obtain ⟨hfile, hsource⟩ := mem_sourceNames.mp hname
      have hproper := (FileTree.of_mem_namesIn (FileTree.mem_namesIn.mpr hfile)).1
      rw [FileTree.dirAt?_congr hdirs] at hdir
      rw [FileTree.locate?_congr hdirs, hl] at hlocate
      refine ⟨text, by rw [FileTree.read?_putFile hplace, if_pos hlocate], ?_, htext⟩
      refine extension?_join_source hproper hsource ?_ input
      rintro rfl
      exact hnamed input hmem dir hdir hl.symm
  rw [← hwithout, hback]

/-- A file that is there already is listed as before when it is written. -/
theorem load_putFile_old (hplace : hasPlace t.dirs l = true)
    (hinput : ∀ input ∈ inputs, t.locate? input ≠ some l) (hold : t.isFile l = true)
    (hlisted : ∀ input ∈ inputs, ∀ dir name, t.dirAt? input = some dir →
      name ∈ sourceNames t dir → dir ++ [name] = l →
        (loadFile (t.putFile l (some text)) (join input name)).result =
          (loadFile t (join input name)).result) :
    load (t.putFile l (some text)) inputs = load t inputs := by
  have hdirs : (t.putFile l (some text)).dirs = t.dirs := FileTree.dirs_putFile t l _
  -- the file is one of those listed before
  have hnames : ∀ dir, sourceNames (t.putFile l (some text)) dir = sourceNames t dir := by
    intro dir
    have hall : sourceNames (t.putFile l (some text)) dir =
        (sourceNames t dir).filter fun _ => true := by
      refine sourceNames_eq_filter fun name _ => ?_
      rw [FileTree.isFile_putFile hplace, and_iff_left rfl]
      exact ⟨fun h => h.elim id fun heq => heq ▸ hold, Or.inl⟩
    rw [hall, List.filter_true]
  have hfiles : inputFiles (t.putFile l (some text)) = inputFiles t := by
    funext input
    unfold inputFiles
    rw [FileTree.dirAt?_congr hdirs]
    cases t.dirAt? input with
    | none => rfl
    | some dir =>
      dsimp only
      rw [hnames dir]
  -- the same paths are read, and each gives what it gave
  refine load_congr (by rw [hfiles]) fun path hmem => ?_
  obtain ⟨input, hin, hpath⟩ := List.mem_flatMap.mp hmem
  cases hdir : t.dirAt? input with
  | none =>
    rw [inputFiles_of_file hdir, List.mem_singleton] at hpath
    rw [hpath, loadFile_putFile hplace (hinput input hin)]
  | some dir =>
    rw [inputFiles_of_dir hdir] at hpath
    obtain ⟨name, hname, rfl⟩ := List.mem_map.mp hpath
    by_cases hl : dir ++ [name] = l
    · exact hlisted input hin dir name hdir hname hl
    · rw [loadFile_putFile hplace]
      rw [(locate?_listed hdir hname).1]
      exact fun heq => hl (Option.some.inj heq)

/-- Both texts of a file that a tool wrote twice give the same. -/
theorem loadFile_rewritten (hplace : hasPlace t.dirs l = true) (htext : isGenerated text = true)
    {old : String} (hold : t.textAt? l = some old) (hgenerated : isGenerated old = true)
    {path : String} (hpath : t.locate? path = some l)
    (hname : extension? path = some "go" ∨ extension? path = none) :
    (loadFile (t.putFile l (some text)) path).result = (loadFile t path).result := by
  have hread : t.read? path = some old := by
    unfold FileTree.read?
    rw [hpath]
    exact hold
  have hreread : (t.putFile l (some text)).read? path = some text := by
    rw [FileTree.read?_putFile hplace, if_pos hpath]
  rw [loadFile_of_read hreread, loadFile_of_read hread, readDeclarations_result,
    readDeclarations_result]
  rcases hname with hgo | hnone
  · rw [if_pos hgo, if_pos hgo, if_pos htext, if_pos hgenerated]
  · rw [hnone]
    rfl

/-- Writing text with a marker line to a spare file does not change what is loaded. -/
theorem load_putFile (hplace : hasPlace t.dirs l = true) (hspare : IsSpare t inputs l)
    (htext : isGenerated text = true) :
    load (t.putFile l (some text)) inputs = load t inputs := by
  by_cases hfile : t.isFile l = true
  · refine load_putFile_old hplace hspare.input hfile fun input hmem dir name hdir hname hl => ?_
    obtain ⟨hthere, hsource⟩ := mem_sourceNames.mp hname
    rcases hspare.before with ⟨hnew, _⟩ | ⟨old, hold, hgenerated⟩ | hunlisted
    · rw [hfile] at hnew
      cases hnew
    · have hlocate := (locate?_listed hdir hname).1
      rw [hl] at hlocate
      refine loadFile_rewritten hplace htext hold hgenerated hlocate ?_
      have hproper := (FileTree.of_mem_namesIn (FileTree.mem_namesIn.mpr hthere)).1
      by_cases hnamed : name = ".go"
      · right
        rw [hnamed]
        exact extension?_join_nameless input
      · exact .inl (extension?_join_source hproper hsource hnamed input)
    · exact absurd ⟨input, hmem, dir, name, hdir, hl.symm, hsource⟩ hunlisted
  · have hnew : t.isFile l = false := by simpa using hfile
    refine load_putFile_new hplace htext hspare.input hnew fun input hmem dir hdir hl => ?_
    rcases hspare.before with ⟨_, hnamed⟩ | ⟨old, hold, _⟩ | hunlisted
    · exact hnamed input hmem dir hdir hl
    · exact hfile (isFile_of_textAt? hold)
    · exact hunlisted ⟨input, hmem, dir, ".go", hdir, hl, by decide⟩

end

end CodecGen
