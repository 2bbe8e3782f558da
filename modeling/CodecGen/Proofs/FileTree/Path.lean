import CodecGen.FileTree

/-!
# Where paths lead

A path leads to a directory, or to a name in one (`locate?_cases`), and the path from a directory to
a name in it leads there (`locate?_join`). What a path that leads to no directory is called is the
last name of its location, which is all that the extension of a file depends on.
-/

namespace CodecGen.FileTree

variable {t : FileTree}

/-! ## Names -/

/-- The names on both sides of a slash are the names of the whole path. -/
theorem names_append_slash (cs ds : List Char) :
    names (cs ++ '/' :: ds) = names cs ++ names ds := by
  rw [names, Text.split_append_cons, List.map_append]
  rfl

/-- A name without a slash is one name. -/
theorem names_of_notMem {cs : List Char} (h : '/' ∉ cs) : names cs = [String.ofList cs] := by
  rw [names, Text.split_of_notMem h]
  rfl

/-- A name on a path has no slash in it. -/
theorem slash_notMem_of_mem_names {cs : List Char} {name : String} (h : name ∈ names cs) :
    '/' ∉ name.toList := by
  obtain ⟨piece, hpiece, rfl⟩ := List.mem_map.mp h
  rw [String.toList_ofList]
  exact Text.notMem_of_mem_split hpiece

/-- What a proper name is: not empty, no dots, no slash. -/
theorem isProper_iff {name : String} :
    isProper name = true ↔ isIdle name = false ∧ name ≠ ".." ∧ '/' ∉ name.toList := by
  simp [isProper, and_assoc]

/-- A proper name is the only one on the path that it is. -/
theorem names_proper {name : String} (h : isProper name = true) : names name.toList = [name] := by
  rw [names_of_notMem (isProper_iff.mp h).2.2, String.ofList_toList]

/-! ## Directories on the way -/

/-- The directory that paths start from is always there. -/
theorem isDir_nil : t.isDir [] = true :=
  rfl

/-- So is the one that paths with a slash at their start start from. -/
theorem isDir_root : t.isDir root = true :=
  rfl

/-- Directories lie in directories. -/
theorem isDir_dropLast {l : Location} (h : t.isDir l = true) : t.isDir l.dropLast = true := by
  simp only [isDir, hasDir, Bool.or_eq_true, beq_iff_eq, List.contains_eq_mem,
    decide_eq_true_eq] at h
  rcases h with (haround | hroot) | hmem
  · have hall : isAround l.dropLast = true :=
      List.all_eq_true.mpr fun name hname =>
        List.all_eq_true.mp haround name (List.dropLast_subset l hname)
    simp [isDir, hasDir, hall]
  · rw [hroot]
    rfl
  · exact t.nested l hmem

/-- Only directories are left by a name on a path. -/
theorem isDir_of_step? {l k : Location} {name : String} (h : t.step? l name = some k) :
    t.isDir l = true := by
  unfold step? at h
  split at h
  · cases h
  · simp_all

/-- A proper name leads to what it names in a directory. -/
theorem step?_proper {l : Location} {name : String} (hl : t.isDir l = true)
    (hname : isProper name = true) : t.step? l name = some (l ++ [name]) := by
  obtain ⟨hidle, hdots, _⟩ := isProper_iff.mp hname
  simp [step?, hl, hidle, hdots]

/-- An idle name leads nowhere else. -/
theorem step?_idle {l : Location} (hl : t.isDir l = true) : t.step? l "" = some l := by
  simp [step?, hl, isIdle]

/-- A name leads to a directory, or it is proper but for slashes and leads to what it names. -/
theorem step?_cases {l k : Location} {name : String} (h : t.step? l name = some k) :
    t.isDir k = true ∨ isIdle name = false ∧ name ≠ ".." ∧ k = l ++ [name] := by
  have hl := isDir_of_step? h
  unfold step? at h
  rw [hl, if_neg (by decide)] at h
  split at h
  · exact .inl (Option.some.inj h ▸ hl)
  rename_i hidle
  split at h
  · left
    rename_i hdots
    split at h
    · rename_i haround
      rw [← Option.some.inj h, hdots]
      have hall : isAround (l ++ [".."]) = true := by
        unfold isAround at haround ⊢
        rw [List.all_append, haround]
        rfl
      simp [isDir, hasDir, hall]
    · split at h
      · exact Option.some.inj h ▸ hl
      · exact Option.some.inj h ▸ isDir_dropLast hl
  · exact .inr ⟨by simpa using hidle, ‹_›, (Option.some.inj h).symm⟩

/-! ## Whole paths -/

/-- Follow one name after others. -/
theorem foldlM_snoc (names : List String) (name : String) (l : Location) :
    (names ++ [name]).foldlM t.step? l = (names.foldlM t.step? l).bind fun k => t.step? k name := by
  rw [List.foldlM_append]
  congr 1
  funext k
  show (t.step? k name).bind some = _
  cases t.step? k name <;> rfl

/-- Names from a directory lead to a directory, or the last of them leads to what it names. -/
theorem foldlM_cases {names : List String} {l k : Location} (hl : t.isDir l = true)
    (h : names.foldlM t.step? l = some k) :
    t.isDir k = true ∨ ∃ init name dir, names = init ++ [name] ∧ isIdle name = false ∧
      name ≠ ".." ∧ t.isDir dir = true ∧ k = dir ++ [name] := by
  rcases List.eq_nil_or_concat names with rfl | ⟨init, name, rfl⟩
  · exact .inl (Option.some.inj h ▸ hl)
  rw [List.concat_eq_append, foldlM_snoc] at h
  obtain ⟨dir, _, hstep⟩ := Option.bind_eq_some_iff.mp h
  rcases step?_cases hstep with hdir | ⟨hidle, hdots, rfl⟩
  · exact .inl hdir
  · exact .inr ⟨init, name, dir, List.concat_eq_append, hidle, hdots, isDir_of_step? hstep, rfl⟩

/-- The names of a path and the directory that they are followed from. The slash that a path may
begin with has an empty name before it. -/
theorem locate?_eq {path : String} (h : path ≠ "") :
    ∃ start cs, t.isDir start = true ∧ t.locate? path = (names cs).foldlM t.step? start ∧
      (path.toList = cs ∨ path.toList = '/' :: cs) ∧
      ∀ more, t.locate? (path ++ more) = (names (cs ++ more.toList)).foldlM t.step? start := by
  unfold locate?
  simp only [String.toList_append]
  cases hpath : path.toList with
  | nil => exact absurd (String.toList_eq_nil_iff.mp hpath) h
  | cons c cs =>
    by_cases hc : c = '/'
    · subst hc
      exact ⟨root, cs, isDir_root, rfl, .inr rfl, fun more => rfl⟩
    · refine ⟨[], c :: cs, isDir_nil, ?_, .inl rfl, fun more => ?_⟩
      all_goals
        split
        · simp_all
        · simp_all
        · simp_all

/-- The names of a path are those after a slash at its start, or those of the path if it has none.
-/
theorem pathNames_eq {path : String} {cs : List Char}
    (h : path.toList = cs ∨ path.toList = '/' :: cs) :
    pathNames path = names cs ∨ pathNames path = "" :: names cs := by
  unfold pathNames
  rcases h with h | h
  · exact .inl (congrArg names h)
  · refine .inr ?_
    rw [h]
    exact names_append_slash [] cs

/-- What a path is called, by its last name. -/
theorem fileName?_of_last {path name : String} {init : List String}
    (h : pathNames path = init ++ [name]) (hidle : isIdle name = false) (hdots : name ≠ "..") :
    fileName? path = some name := by
  unfold fileName?
  rw [h, List.filter_append]
  simp [hidle, hdots]

/-- A path leads to a directory, or its last name is what it names in one. -/
theorem locate?_cases {path : String} {l : Location} (h : t.locate? path = some l) :
    t.isDir l = true ∨ ∃ dir name, l = dir ++ [name] ∧ t.isDir dir = true ∧
      isProper name = true ∧ fileName? path = some name := by
  have hpath : path ≠ "" := by
    rintro rfl
    cases h
  obtain ⟨start, cs, hstart, hlocate, hcs, _⟩ := locate?_eq (t := t) hpath
  rw [hlocate] at h
  rcases foldlM_cases hstart h with hdir | ⟨init, name, dir, hnames, hidle, hdots, hdir, rfl⟩
  · exact .inl hdir
  have hslash : '/' ∉ name.toList :=
    have hmem : name ∈ names cs := hnames ▸ List.mem_append_right init List.mem_cons_self
    slash_notMem_of_mem_names hmem
  refine .inr ⟨dir, name, rfl, hdir, isProper_iff.mpr ⟨hidle, hdots, hslash⟩, ?_⟩
  rcases pathNames_eq hcs with heq | heq
  · exact fileName?_of_last (heq.trans hnames) hidle hdots
  · rw [hnames] at heq
    have hlast : pathNames path = ("" :: init) ++ [name] := heq
    exact fileName?_of_last hlast hidle hdots

/-! ## Paths from a directory -/

/-- A path leads to a directory if it leads to a location with one. -/
theorem dirAt?_eq_some {path : String} {dir : Location} :
    t.dirAt? path = some dir ↔ t.locate? path = some dir ∧ t.isDir dir = true := by
  unfold dirAt?
  rw [Option.filter_eq_some_iff]

/-- A proper name after nothing or after a slash takes the place of the empty name there. -/
theorem names_append_proper {cs : List Char} {name : String} (hname : isProper name = true)
    (hcs : cs = [] ∨ cs.getLast? = some '/') :
    ∃ init, names cs = init ++ [""] ∧ names (cs ++ name.toList) = init ++ [name] := by
  rcases hcs with rfl | hlast
  · exact ⟨[], rfl, names_proper hname⟩
  · obtain ⟨ds, rfl⟩ := List.getLast?_eq_some_iff.mp hlast
    refine ⟨names ds, names_append_slash ds [], ?_⟩
    rw [List.append_assoc, List.singleton_append, names_append_slash, names_proper hname]

/-- A proper name does not begin with a slash. -/
theorem toList_ne_of_isProper {name : String} (h : isProper name = true) :
    name.toList.head? ≠ some '/' := by
  intro hhead
  obtain ⟨cs, hcs⟩ := List.head?_eq_some_iff.mp hhead
  exact (isProper_iff.mp h).2.2 (hcs ▸ List.mem_cons_self)

/-- The path from a directory to a name in it leads there. -/
theorem locate?_join {path name : String} {dir : Location} (hdir : t.dirAt? path = some dir)
    (hname : isProper name = true) : t.locate? (join path name) = some (dir ++ [name]) := by
  obtain ⟨hlocate, hisDir⟩ := dirAt?_eq_some.mp hdir
  have hpath : path ≠ "" := by
    rintro rfl
    cases hlocate
  obtain ⟨start, cs, _, heq, hcs, hmore⟩ := locate?_eq (t := t) hpath
  rw [heq] at hlocate
  unfold join
  rw [if_neg (toList_ne_of_isProper hname)]
  split
  · rename_i hlast
    have hempty : cs = [] ∨ cs.getLast? = some '/' := by
      rcases hcs with hcs | hcs
      · exact .inr (hcs ▸ hlast)
      · cases cs with
        | nil => exact .inl rfl
        | cons c cs =>
          rw [hcs, List.getLast?_cons_cons] at hlast
          exact .inr hlast
    -- the last step of the path was idle, so the name is a step from the directory itself
    obtain ⟨init, hinit, hnames⟩ := names_append_proper hname hempty
    rw [hinit, foldlM_snoc] at hlocate
    obtain ⟨k, hk, hstep⟩ := Option.bind_eq_some_iff.mp hlocate
    have hkd : k = dir := Option.some.inj ((step?_idle (isDir_of_step? hstep)).symm.trans hstep)
    rw [hmore, hnames, foldlM_snoc, hk, hkd]
    exact step?_proper hisDir hname
  · have hnames : names (cs ++ ("/" ++ name).toList) = names cs ++ [name] := by
      rw [String.toList_append, ← names_proper hname]
      exact names_append_slash cs name.toList
    rw [String.append_assoc, hmore, hnames, foldlM_snoc, hlocate]
    exact step?_proper hisDir hname

/-- The path from a directory to a name is called so. -/
theorem fileName?_join (path : String) {name : String} (hname : isProper name = true) :
    fileName? (join path name) = some name := by
  obtain ⟨hidle, hdots, _⟩ := isProper_iff.mp hname
  have hlast : ∃ init, pathNames (join path name) = init ++ [name] := by
    unfold join pathNames
    rw [if_neg (toList_ne_of_isProper hname)]
    split
    · rename_i hlast
      obtain ⟨init, _, hnames⟩ := names_append_proper hname (.inr hlast)
      exact ⟨init, by rw [String.toList_append, hnames]⟩
    · refine ⟨names path.toList, ?_⟩
      rw [String.append_assoc, String.toList_append, String.toList_append]
      exact (names_append_slash path.toList name.toList).trans (by rw [names_proper hname])
  obtain ⟨init, hinit⟩ := hlast
  exact fileName?_of_last hinit hidle hdots

/-- Paths that are called alike have the same extension. -/
theorem extension?_congr {path other : String} (h : fileName? path = fileName? other) :
    extension? path = extension? other := by
  unfold extension?
  rw [h]

end CodecGen.FileTree
