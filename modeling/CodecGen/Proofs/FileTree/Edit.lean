import CodecGen.Proofs.FileTree.Path
import Mathlib.Data.List.Nodup

/-!
# Trees with other files

What changes in a tree when a file is put into it or files are taken out of it: the texts and names
of these files, and nothing else. Where paths lead depends on directories alone.
-/

namespace CodecGen.FileTree

/-- A tree without the files at some locations. -/
def without (t : FileTree) (gone : List Location) : FileTree :=
  { t with
    files := t.files.filter fun f => !gone.contains f.1
    distinct := t.distinct.sublist (List.filter_sublist.map Prod.fst)
    placed := fun f hf => t.placed f (List.mem_filter.mp hf).1 }

/-! ## Directories -/

section

variable {t u : FileTree} (h : t.dirs = u.dirs)

include h

/-- What locations are directories depends on the directories alone. -/
theorem isDir_congr (l : Location) : t.isDir l = u.isDir l := by
  unfold isDir
  rw [h]

/-- So does where a name leads from a directory. -/
theorem step?_congr : t.step? = u.step? := by
  funext l name
  unfold step?
  rw [isDir_congr h]

/-- So does where a path leads. -/
theorem locate?_congr (path : String) : t.locate? path = u.locate? path := by
  unfold locate?
  rw [step?_congr h]

/-- So does which directory a path leads to. -/
theorem dirAt?_congr (path : String) : t.dirAt? path = u.dirAt? path := by
  have hdir : t.isDir = u.isDir := funext (isDir_congr h)
  unfold dirAt?
  rw [locate?_congr h, hdir]

end

/-- Taking files away leaves the directories. -/
@[simp] theorem dirs_without (t : FileTree) (gone : List Location) :
    (t.without gone).dirs = t.dirs :=
  rfl

/-- Taking files away hides nothing and shows nothing. -/
@[simp] theorem hidden_without (t : FileTree) (gone : List Location) :
    (t.without gone).hidden = t.hidden :=
  rfl

/-- Putting a file somewhere leaves the directories. -/
@[simp] theorem dirs_putFile (t : FileTree) (l : Location) (text : Option String) :
    (t.putFile l text).dirs = t.dirs := by
  unfold putFile
  split <;> rfl

/-- Putting a file somewhere hides nothing and shows nothing. -/
@[simp] theorem hidden_putFile (t : FileTree) (l : Location) (text : Option String) :
    (t.putFile l text).hidden = t.hidden := by
  unfold putFile
  split <;> rfl

/-- A file is put where one can be, in place of what file was there. -/
theorem files_putFile {t : FileTree} {l : Location} (h : hasPlace t.dirs l = true)
    (text : Option String) : (t.putFile l text).files = replaced t.files l text := by
  unfold putFile
  rw [dif_pos h]

/-! ## Texts -/

section

variable {α β : Type} [BEq α] [LawfulBEq α] [DecidableEq α]

/-- The first entry is looked up before the others. -/
theorem lookup_cons_eq (a k : α) (b : β) (entries : List (α × β)) :
    ((a, b) :: entries).lookup k = if k = a then some b else entries.lookup k := by
  by_cases h : k = a
  · subst h
    simp
  · have hbeq : (k == a) = false := beq_false_of_ne h
    simp [List.lookup_cons, hbeq, h]

/-- Taking entries out by their keys leaves the others as they are. -/
theorem lookup_filter_key (keep : α → Bool) (k : α) (entries : List (α × β)) :
    (entries.filter fun e => keep e.1).lookup k = if keep k then entries.lookup k else none := by
  induction entries with
  | nil => simp
  | cons e es ih =>
    obtain ⟨a, b⟩ := e
    rw [List.filter_cons, lookup_cons_eq]
    by_cases hk : k = a
    · subst hk
      cases hkeep : keep k <;> simp [hkeep, ih]
    · cases hkeep : keep a <;> simp [hk, ih, lookup_cons_eq]

/-- Setting the value of a key sets it where the key is, and leaves other keys as they are. -/
theorem lookup_map_key (a k : α) (b : β) (entries : List (α × β)) :
    (entries.map fun e => if e.1 = a then (a, b) else e).lookup k =
      if k = a ∧ a ∈ entries.map Prod.fst then some b else entries.lookup k := by
  induction entries with
  | nil => simp
  | cons e es ih =>
    obtain ⟨c, d⟩ := e
    rw [List.map_cons, lookup_cons_eq]
    by_cases hc : c = a
    · subst hc
      by_cases hk : k = c <;> simp [hk, ih, lookup_cons_eq]
    · have hmem : a ∈ ((c, d) :: es).map Prod.fst ↔ a ∈ es.map Prod.fst := by
        rw [List.map_cons, List.mem_cons]
        exact or_iff_right (Ne.symm hc)
      have hhead : (if (c, d).1 = a then (a, b) else (c, d)) = (c, d) := if_neg hc
      simp only [hhead, ih, lookup_cons_eq, hmem]
      by_cases hk : k = a
      · subst hk
        have hkc : ¬k = c := Ne.symm hc
        simp only [hkc, if_false]
      · simp [hk]

end

/-- The files that are taken out have no text, and the others have theirs. -/
theorem textAt?_without (t : FileTree) (gone : List Location) (l : Location) :
    (t.without gone).textAt? l = if l ∈ gone then none else t.textAt? l := by
  unfold textAt? without
  dsimp only
  rw [lookup_filter_key (fun l => !gone.contains l)]
  by_cases h : l ∈ gone <;> simp [h]

/-- A replaced file has the new text, and any other file the text that it had. -/
theorem lookup_replaced (files : List (Location × Option String)) (l : Location)
    (text : Option String) (k : Location) :
    (replaced files l text).lookup k = if k = l then some text else files.lookup k := by
  unfold replaced
  split
  · rename_i hany
    have hmem : l ∈ files.map Prod.fst := by simpa using hany
    rw [lookup_map_key]
    simp [hmem]
  · rename_i hany
    have hnone : l ∉ files.map Prod.fst := by simpa using hany
    rw [List.lookup_append, lookup_cons_eq]
    by_cases hk : k = l
    · subst hk
      have hlookup : files.lookup k = none := by
        refine List.lookup_eq_none_iff.mpr fun f hf => ?_
        have hne : k ≠ f.1 := fun heq => hnone (heq ▸ List.mem_map_of_mem hf)
        simp [hne]
      rw [hlookup]
      simp
    · simp [hk]

/-- The file that is put has its text, and the others have theirs. -/
theorem textAt?_putFile {t : FileTree} {l : Location} (h : hasPlace t.dirs l = true)
    (text : Option String) (k : Location) :
    (t.putFile l text).textAt? k = if k = l then text else t.textAt? k := by
  unfold textAt?
  rw [files_putFile h, lookup_replaced]
  split <;> rfl

/-- A file is written by putting it where its path leads, if a file can be there. -/
theorem write?_eq_some {t u : FileTree} {path text : String} :
    t.write? path text = some u ↔ ∃ l, t.locate? path = some l ∧ hasPlace t.dirs l = true ∧
      u = t.putFile l (some text) := by
  unfold write?
  constructor
  · intro h
    obtain ⟨l, hl, hput⟩ := Option.bind_eq_some_iff.mp h
    split at hput
    · exact ⟨l, hl, ‹_›, (Option.some.inj hput).symm⟩
    · cases hput
  · rintro ⟨l, hl, hplace, rfl⟩
    rw [hl]
    exact if_pos hplace

/-- The file that is put is read by the paths that lead to it; others read what they did before. -/
theorem read?_putFile {t : FileTree} {l : Location} (h : hasPlace t.dirs l = true)
    (text : Option String) (path : String) :
    (t.putFile l text).read? path = if t.locate? path = some l then text else t.read? path := by
  unfold read?
  rw [locate?_congr (dirs_putFile t l text)]
  cases hk : t.locate? path with
  | none => rfl
  | some k =>
    rw [Option.bind_some, Option.bind_some, textAt?_putFile h]
    simp only [Option.some.injEq]

/-- What was written is read. -/
theorem read?_of_write? {t u : FileTree} {path text : String} (h : t.write? path text = some u) :
    u.read? path = some text := by
  obtain ⟨l, hl, hplace, rfl⟩ := write?_eq_some.mp h
  rw [read?_putFile hplace, if_pos hl]

/-! ## Names -/

/-- The files that are left are those that are not taken away. -/
theorem isFile_without {t : FileTree} {gone : List Location} {l : Location} :
    (t.without gone).isFile l = true ↔ t.isFile l = true ∧ l ∉ gone := by
  rw [isFile_iff, isFile_iff, List.mem_map, List.mem_map]
  constructor
  · rintro ⟨f, hf, rfl⟩
    obtain ⟨hmem, hkeep⟩ := List.mem_filter.mp hf
    exact ⟨⟨f, hmem, rfl⟩, by simpa using hkeep⟩
  · rintro ⟨⟨f, hf, rfl⟩, hkeep⟩
    exact ⟨f, List.mem_filter.mpr ⟨hf, by simpa using hkeep⟩, rfl⟩

/-- There is one more file at most, where one was put. -/
theorem isFile_putFile {t : FileTree} {l : Location} (h : hasPlace t.dirs l = true)
    (text : Option String) (k : Location) :
    (t.putFile l text).isFile k = true ↔ t.isFile k = true ∨ k = l := by
  rw [isFile_iff, isFile_iff, files_putFile h]
  exact mem_map_fst_replaced

/-- A new file taken out again leaves the tree as it was. -/
theorem without_putFile {t : FileTree} {l : Location} (hplace : hasPlace t.dirs l = true)
    (hnew : t.isFile l = false) (text : Option String) : (t.putFile l text).without [l] = t := by
  have hany : (t.files.any fun f => f.1 == l) = false := hnew
  have hne : ∀ f ∈ t.files, f.1 ≠ l := by
    intro f hf heq
    have := isFile_iff.mpr (heq ▸ List.mem_map_of_mem (f := Prod.fst) hf)
    rw [hnew] at this
    cases this
  have hfiles : ((t.putFile l text).without [l]).files = t.files := by
    show (t.putFile l text).files.filter _ = _
    rw [files_putFile hplace, replaced, hany, if_neg (by decide), List.filter_append]
    have hself : t.files.filter (fun f => !([l] : List Location).contains f.1) = t.files :=
      List.filter_eq_self.mpr fun f hf => by simp [hne f hf]
    rw [hself]
    simp
  have hdirs : ((t.putFile l text).without [l]).dirs = t.dirs := dirs_putFile t l text
  have hhidden : ((t.putFile l text).without [l]).hidden = t.hidden := hidden_putFile t l text
  generalize (t.putFile l text).without [l] = u at hfiles hdirs hhidden
  cases t
  cases u
  subst hfiles hdirs hhidden
  rfl

/-- A name in a directory is that of a file in it. -/
theorem mem_namesIn {t : FileTree} {dir : Location} {name : String} :
    name ∈ t.namesIn dir ↔ t.isFile (dir ++ [name]) = true := by
  rw [isFile_iff, namesIn, List.mem_filterMap, List.mem_map]
  constructor
  · rintro ⟨f, hf, hname⟩
    refine ⟨f, hf, ?_⟩
    split at hname
    · rename_i hdir
      rw [← hdir]
      exact (List.dropLast_append_getLast? name hname).symm
    · cases hname
  · rintro ⟨f, hf, hloc⟩
    exact ⟨f, hf, by simp [hloc]⟩

/-- No name is listed twice. -/
theorem nodup_namesIn (t : FileTree) (dir : Location) : (t.namesIn dir).Nodup := by
  have hmap : t.namesIn dir = (t.files.map Prod.fst).filterMap fun l =>
      if l.dropLast = dir then l.getLast? else none := by
    rw [List.filterMap_map]
    rfl
  rw [hmap]
  refine t.distinct.filterMap fun k l name hk hl => ?_
  have heq : ∀ {j : Location}, name ∈ (if j.dropLast = dir then j.getLast? else none) →
      dir ++ [name] = j := by
    intro j hj
    split at hj
    · rename_i hdir
      rw [← hdir]
      exact List.dropLast_append_getLast? name hj
    · cases hj
  exact (heq hk).symm.trans (heq hl)

/-- What is listed can stand in a path, and is no directory. -/
theorem of_mem_namesIn {t : FileTree} {dir : Location} {name : String}
    (h : name ∈ t.namesIn dir) : isProper name = true ∧ t.isDir (dir ++ [name]) = false := by
  obtain ⟨f, hf, hloc⟩ := List.mem_map.mp (isFile_iff.mp (mem_namesIn.mp h))
  have hplace := t.placed f hf
  rw [hloc] at hplace
  simp only [hasPlace, Bool.and_eq_true, Bool.not_eq_true', List.getLast?_concat,
    Option.any_some] at hplace
  exact ⟨hplace.2, hplace.1.1⟩

end CodecGen.FileTree
