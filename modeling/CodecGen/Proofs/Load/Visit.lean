import CodecGen.Load
import CodecGen.Proofs.FileTree.Edit
import CodecGen.Proofs.Text.ByteOrder
import Mathlib.Data.List.Sort
import Mathlib.Data.String.Basic

/-!
# The files that inputs stand for

Which files are visited for some inputs, and in which order (`visits_inputFiles`): an input that
leads to no directory is visited itself, and a directory stands for its source files in the order of
the bytes of their names.
-/

namespace CodecGen

open FileTree (join isProper)

/-! ## Listings -/

/-- The names are those of the source files of a directory, tests apart, each once. -/
structure IsListing (t : FileTree) (dir : Location) (names : List String) : Prop where
  /-- They name the files that lie in the directory itself and are called as sources are. -/
  mem : ∀ name, name ∈ names ↔ t.isFile (dir ++ [name]) = true ∧
    ".go".toList <:+ name.toList ∧ ¬"_test.go".toList <:+ name.toList
  /-- They are in the order of their bytes. -/
  sorted : names.Pairwise fun a b => Text.bytes a < Text.bytes b

/-- A source is told by the end of its name, and so is a test. -/
theorem isSourceName_iff {name : String} : isSourceName name = true ↔
    ".go".toList <:+ name.toList ∧ ¬"_test.go".toList <:+ name.toList := by
  unfold isSourceName
  rw [Bool.and_eq_true, List.isSuffixOf_iff_suffix, Bool.not_eq_true', ← Bool.not_eq_true,
    List.isSuffixOf_iff_suffix]

section

variable {t : FileTree} {dir : Location}

/-- The names of sources are those of files that are called so and lie in the directory. -/
theorem mem_sourceNames {name : String} :
    name ∈ sourceNames t dir ↔ t.isFile (dir ++ [name]) = true ∧ isSourceName name = true := by
  rw [sourceNames, List.mem_mergeSort, List.mem_filter, FileTree.mem_namesIn]

/-- Source names are listed in order, each once. -/
theorem pairwise_sourceNames (t : FileTree) (dir : Location) :
    (sourceNames t dir).Pairwise (· < ·) := by
  have hsorted : (sourceNames t dir).Pairwise (· ≤ ·) := List.pairwise_mergeSort' (· ≤ ·) _
  have hnodup : (sourceNames t dir).Nodup :=
    List.nodup_mergeSort.mpr ((t.nodup_namesIn dir).filter _)
  exact hsorted.imp₂ (fun _ _ hle hne => lt_of_le_of_ne hle hne) hnodup

/-- What is listed of a directory are its sources, in order. -/
theorem isListing_sourceNames (t : FileTree) (dir : Location) :
    IsListing t dir (sourceNames t dir) := by
  constructor
  case mem =>
    intro name
    rw [mem_sourceNames, isSourceName_iff]
  case sorted => exact (pairwise_sourceNames t dir).imp Text.bytes_lt_bytes

/-- Listings with the same names are the same. -/
theorem sourceNames_eq_filter {u : FileTree} {keep : String → Bool}
    (h : ∀ name, isSourceName name = true →
      (u.isFile (dir ++ [name]) = true ↔ t.isFile (dir ++ [name]) = true ∧ keep name = true)) :
    sourceNames u dir = (sourceNames t dir).filter keep := by
  refine List.Pairwise.eq_of_mem_iff (pairwise_sourceNames u dir)
    ((pairwise_sourceNames t dir).filter keep) fun name => ?_
  rw [List.mem_filter, mem_sourceNames, mem_sourceNames]
  constructor
  · rintro ⟨hfile, hname⟩
    exact ⟨⟨((h name hname).mp hfile).1, hname⟩, ((h name hname).mp hfile).2⟩
  · rintro ⟨⟨hfile, hname⟩, hkeep⟩
    exact ⟨(h name hname).mpr ⟨hfile, hkeep⟩, hname⟩

/-- What is listed is a file, by the path to it. -/
theorem locate?_listed {input name : String} (hdir : t.dirAt? input = some dir)
    (hname : name ∈ sourceNames t dir) :
    t.locate? (join input name) = some (dir ++ [name]) ∧ t.isDir (dir ++ [name]) = false := by
  have hmem := FileTree.mem_namesIn.mpr (mem_sourceNames.mp hname).1
  obtain ⟨hproper, hfile⟩ := FileTree.of_mem_namesIn hmem
  exact ⟨FileTree.locate?_join hdir hproper, hfile⟩

end

/-! ## Inputs -/

/-- The files that are visited for inputs, in order. -/
inductive Visits (t : FileTree) : List String → List String → Prop where
  | nil : Visits t [] []
  /-- What leads to no directory is visited itself. -/
  | file {input : String} {inputs paths : List String} (hfile : t.dirAt? input = none)
      (h : Visits t inputs paths) : Visits t (input :: inputs) (input :: paths)
  /-- A directory stands for what it lists. -/
  | dir {input : String} {inputs paths : List String} {dir : Location} {names : List String}
      (hdir : t.dirAt? input = some dir) (hnames : IsListing t dir names)
      (h : Visits t inputs paths) : Visits t (input :: inputs) (names.map (join input) ++ paths)

section

variable {t : FileTree} {input : String}

/-- A path that leads to no directory is visited itself. -/
theorem inputFiles_of_file (h : t.dirAt? input = none) : inputFiles t input = [input] := by
  unfold inputFiles
  rw [h]

/-- A path that leads to a directory stands for the sources in it. -/
theorem inputFiles_of_dir {dir : Location} (h : t.dirAt? input = some dir) :
    inputFiles t input = (sourceNames t dir).map (join input) := by
  unfold inputFiles
  rw [h]

/-- The files of inputs one after another are those that are visited for them. -/
theorem visits_inputFiles (t : FileTree) (inputs : List String) :
    Visits t inputs (inputs.flatMap (inputFiles t)) := by
  induction inputs with
  | nil => exact .nil
  | cons input inputs ih =>
    rw [List.flatMap_cons]
    cases hdir : t.dirAt? input with
    | none =>
      rw [inputFiles_of_file hdir]
      exact .file hdir ih
    | some dir =>
      rw [inputFiles_of_dir hdir]
      exact .dir hdir (isListing_sourceNames t dir) ih

/-- Nothing visited leads to a directory. -/
theorem isDir_of_visited {inputs : List String} {path : String} {l : Location}
    (h : path ∈ inputs.flatMap (inputFiles t)) (hl : t.locate? path = some l) :
    t.isDir l = false := by
  obtain ⟨input, _, hpath⟩ := List.mem_flatMap.mp h
  cases hdir : t.dirAt? input with
  | none =>
    rw [inputFiles_of_file hdir, List.mem_singleton] at hpath
    subst hpath
    unfold FileTree.dirAt? at hdir
    rw [hl] at hdir
    simpa using hdir
  | some dir =>
    rw [inputFiles_of_dir hdir] at hpath
    obtain ⟨name, hname, rfl⟩ := List.mem_map.mp hpath
    obtain ⟨hlocate, hfile⟩ := locate?_listed hdir hname
    rw [hl] at hlocate
    cases hlocate
    exact hfile

end

end CodecGen
