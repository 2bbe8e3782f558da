import CodecGen.Text.Basic

/-!
# File trees

The files and directories that a run can see, each by the names on the way to it. A path in text is
followed name by name through existing directories: a single dot stays, two dots go back, and
anything after a slash, even nothing, asks for a directory before it.
-/

namespace CodecGen

/-- The names on the way to a file or directory; none for the directory that paths start from. -/
abbrev Location := List String

namespace FileTree

/-- The directory that paths with a slash at their start start from. -/
def root : Location :=
  ["/"]

/-- The location is the directory that paths start from, or one around it: two dots, some number of
times, lead there. -/
def isAround (l : Location) : Bool :=
  l.all (· == "..")

/-- A directory is at a location, by the list of directories. -/
def hasDir (dirs : List Location) (l : Location) : Bool :=
  isAround l || l == root || dirs.contains l

/-- The name leads nowhere else. -/
def isIdle (name : String) : Bool :=
  name.isEmpty || name == "."

/-- The name can be that of something in a directory. -/
def isProper (name : String) : Bool :=
  !isIdle name && name != ".." && !name.toList.contains '/'

/-- A file can be at a location, by the list of directories: it has a name and lies in a directory,
and no directory is there. -/
def hasPlace (dirs : List Location) (l : Location) : Bool :=
  !hasDir dirs l && hasDir dirs l.dropLast && l.getLast?.any isProper

end FileTree

/-- Files and directories by location. -/
structure FileTree where
  /-- The files with their text, or none where a file is not text. -/
  files : List (Location × Option String)
  /-- The directories, apart from the one that paths start from and those around it. -/
  dirs : List Location
  /-- The directories whose entries cannot be listed. -/
  hidden : List Location
  /-- No location has two files. -/
  distinct : (files.map Prod.fst).Nodup
  /-- Files lie in directories. -/
  placed : ∀ f ∈ files, FileTree.hasPlace dirs f.1 = true
  /-- Directories lie in directories. -/
  nested : ∀ d ∈ dirs, FileTree.hasDir dirs d.dropLast = true
  deriving DecidableEq, Repr

namespace FileTree

/-- The tree without files. -/
def empty : FileTree where
  files := []
  dirs := []
  hidden := []
  distinct := List.nodup_nil
  placed _ hf := absurd hf List.not_mem_nil
  nested _ hd := absurd hd List.not_mem_nil

instance : Inhabited FileTree :=
  ⟨empty⟩

/-- A directory is at a location. -/
def isDir (t : FileTree) (l : Location) : Bool :=
  hasDir t.dirs l

/-- A file is at a location. -/
def isFile (t : FileTree) (l : Location) : Bool :=
  t.files.any fun f => f.1 == l

/-- The text of the file at a location. -/
def textAt? (t : FileTree) (l : Location) : Option String :=
  (t.files.lookup l).join

/-- The names of the files in a directory. -/
def namesIn (t : FileTree) (dir : Location) : List String :=
  t.files.filterMap fun f => if f.1.dropLast = dir then f.1.getLast? else none

/-- A file is at a location if and only if it is listed there. -/
theorem isFile_iff {t : FileTree} {l : Location} :
    t.isFile l = true ↔ l ∈ t.files.map Prod.fst := by
  simp [isFile]

/-! ## More directories -/

/-- More directories leave those that are there. -/
theorem hasDir_append {dirs : List Location} {l : Location} (h : hasDir dirs l = true)
    (more : List Location) : hasDir (dirs ++ more) l = true := by
  simp only [hasDir, Bool.or_eq_true, List.contains_eq_mem, List.mem_append,
    decide_eq_true_eq] at h ⊢
  exact h.imp id Or.inl

/-- A file can stay where it is when directories are made elsewhere. -/
theorem hasPlace_append {dirs more : List Location} {l : Location}
    (h : hasPlace dirs l = true) (hfree : l ∉ more) : hasPlace (dirs ++ more) l = true := by
  simp only [hasPlace, Bool.and_eq_true, Bool.not_eq_true'] at h ⊢
  obtain ⟨⟨hnone, hdir⟩, hname⟩ := h
  refine ⟨⟨?_, hasDir_append hdir more⟩, hname⟩
  simp only [hasDir, Bool.or_eq_false_iff, List.contains_eq_mem, List.mem_append,
    decide_eq_false_iff_not] at hnone ⊢
  exact ⟨hnone.1, fun hmem => hmem.elim hnone.2 hfree⟩

/-- The directories on the way to a location, and the one there. -/
def wayTo (l : Location) : List Location :=
  (List.range l.length).map fun n => l.take (n + 1)

/-- The directories on the way lie in each other, the first in the one that paths start from. -/
theorem dropLast_wayTo {l d : Location} (h : d ∈ wayTo l) :
    d.dropLast = [] ∨ d.dropLast ∈ wayTo l := by
  obtain ⟨n, hn, rfl⟩ := List.mem_map.mp h
  have hlen : n < l.length := List.mem_range.mp hn
  have htake : (l.take (n + 1)).dropLast = l.take n := by
    rw [List.dropLast_eq_take, List.length_take, List.take_take]
    congr 1
    omega
  rw [htake]
  cases n with
  | zero => exact .inl rfl
  | succ n => exact .inr (List.mem_map.mpr ⟨n, List.mem_range.mpr (by omega), rfl⟩)

/-- The directories of a tree with those on the way to a location. -/
def dirsTo (dirs : List Location) (l : Location) : List Location :=
  dirs ++ (wayTo l).filter fun d => !hasDir dirs d

/-- Directories still lie in directories once those on the way to a location are added. -/
theorem nested_dirsTo {dirs : List Location} (h : ∀ d ∈ dirs, hasDir dirs d.dropLast = true)
    (l : Location) : ∀ d ∈ dirsTo dirs l, hasDir (dirsTo dirs l) d.dropLast = true := by
  intro d hd
  rcases List.mem_append.mp hd with hold | hnew
  · exact hasDir_append (h d hold) _
  rcases dropLast_wayTo (List.mem_filter.mp hnew).1 with hnil | hway
  · rw [hnil]
    rfl
  by_cases hdir : hasDir dirs d.dropLast = true
  · exact hasDir_append hdir _
  · have hmem : d.dropLast ∈ dirsTo dirs l :=
      List.mem_append_right _ (List.mem_filter.mpr ⟨hway, by simp [hdir]⟩)
    simp [hasDir, hmem]

/-- A tree with a directory and those around it; the same tree where a file is in the way. -/
def addDir (t : FileTree) (l : Location) : FileTree :=
  if h : ∃ d ∈ wayTo l, t.isFile d = true then t
  else
    { t with
      dirs := dirsTo t.dirs l
      placed := by
        intro f hf
        have hfile : t.isFile f.1 = true := isFile_iff.mpr (List.mem_map_of_mem hf)
        refine hasPlace_append (t.placed f hf) fun hway => ?_
        exact h ⟨f.1, (List.mem_filter.mp hway).1, hfile⟩
      nested := nested_dirsTo t.nested l }

/-- A tree where the entries of a directory cannot be listed. -/
def hide (t : FileTree) (l : Location) : FileTree :=
  { t with hidden := l :: t.hidden }

/-! ## More files -/

/-- Files with a file in place of what file was at its location. -/
def replaced (files : List (Location × Option String)) (l : Location) (text : Option String) :
    List (Location × Option String) :=
  if files.any fun f => f.1 == l then files.map fun f => if f.1 = l then (l, text) else f
  else files ++ [(l, text)]

/-- The locations are as before, and that of the new file. -/
theorem map_fst_replaced (files : List (Location × Option String)) (l : Location)
    (text : Option String) :
    (replaced files l text).map Prod.fst =
      if l ∈ files.map Prod.fst then files.map Prod.fst else files.map Prod.fst ++ [l] := by
  have hany : (files.any fun f => f.1 == l) = true ↔ l ∈ files.map Prod.fst := by simp
  unfold replaced
  by_cases h : l ∈ files.map Prod.fst
  · rw [if_pos (hany.mpr h), if_pos h, List.map_map]
    refine List.map_congr_left fun f _ => ?_
    show (if f.1 = l then (l, text) else f).1 = f.1
    split
    · exact (‹f.1 = l›).symm
    · rfl
  · rw [if_neg (mt hany.mp h), if_neg h, List.map_append]
    rfl

/-- A replaced file is at its location, and all others are where they were. -/
theorem mem_map_fst_replaced {files : List (Location × Option String)} {l k : Location}
    {text : Option String} :
    k ∈ (replaced files l text).map Prod.fst ↔ k ∈ files.map Prod.fst ∨ k = l := by
  rw [map_fst_replaced]
  split
  · exact ⟨Or.inl, fun h => h.elim id fun hk => hk ▸ ‹_›⟩
  · rw [List.mem_append, List.mem_singleton]

/-- A tree with a file in place of what file was at its location; the same tree where no file can
be there. -/
def putFile (t : FileTree) (l : Location) (text : Option String) : FileTree :=
  if h : hasPlace t.dirs l = true then
    { t with
      files := replaced t.files l text
      distinct := by
        rw [map_fst_replaced]
        split
        · exact t.distinct
        · rename_i hnew
          refine List.nodup_append.mpr ⟨t.distinct, List.pairwise_singleton _ l, ?_⟩
          intro k hk j hj heq
          exact hnew (List.mem_singleton.mp hj ▸ heq ▸ hk)
      placed := by
        intro f hf
        rcases mem_map_fst_replaced.mp (List.mem_map_of_mem hf) with hold | hnew
        · obtain ⟨g, hg, heq⟩ := List.mem_map.mp hold
          exact heq ▸ t.placed g hg
        · exact hnew ▸ h }
  else t

/-- A tree with a file and the directories around it. -/
def addFile (t : FileTree) (l : Location) (text : Option String) : FileTree :=
  (t.addDir l.dropLast).putFile l text

/-! ## Paths -/

/-- The names that stand between slashes. -/
def names (cs : List Char) : List String :=
  (Text.split '/' cs).map String.ofList

/-- The names of a path. -/
def pathNames (path : String) : List String :=
  names path.toList

/-- Follow one name of a path. -/
def step? (t : FileTree) (l : Location) (name : String) : Option Location :=
  if !t.isDir l then none
  else if isIdle name then some l
  else if name = ".." then
    if isAround l then some (l ++ [name]) else if l = root then some l else some l.dropLast
  else some (l ++ [name])

/-- Where a path leads; the last name on it need not exist. -/
def locate? (t : FileTree) (path : String) : Option Location :=
  match path.toList with
  | [] => none
  | '/' :: cs => (names cs).foldlM t.step? root
  | cs => (names cs).foldlM t.step? []

/-- The directory that a path leads to. -/
def dirAt? (t : FileTree) (path : String) : Option Location :=
  (t.locate? path).filter t.isDir

/-- The text of the file that a path leads to. -/
def read? (t : FileTree) (path : String) : Option String :=
  (t.locate? path).bind t.textAt?

/-- Write the file that a path leads to, where a file can be. -/
def write? (t : FileTree) (path : String) (text : String) : Option FileTree := do
  let l ← t.locate? path
  if hasPlace t.dirs l then some (t.putFile l (some text)) else none

/-- The last name of a path that names something, dots apart. -/
def fileName? (path : String) : Option String :=
  ((pathNames path).filter (!isIdle ·)).getLast?.filter (· ≠ "..")

/-- What follows the last dot of a file's name. A name has to have something before that dot. -/
def extension? (path : String) : Option String := do
  let parts := Text.split '.' (← fileName? path).toList
  if parts.length < 2 ∨ parts.dropLast = [[]] then none
  else parts.getLast?.map String.ofList

/-- A path from the directory that a path leads to. -/
def join (path name : String) : String :=
  if name.toList.head? = some '/' then name
  else if path.toList.getLast? = some '/' then path ++ name
  else path ++ "/" ++ name

/-- A path without the idle names at its ends. The slash that a path begins with is kept. -/
def tidy (path : String) : String :=
  let names := ((pathNames path).dropWhile isIdle).reverse.dropWhile isIdle
  let start := if path.toList.head? = some '/' then "/" else ""
  start ++ "/".intercalate names.reverse

end FileTree

end CodecGen
