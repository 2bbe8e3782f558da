import CodecGen.Proofs.Cli.Outcome
import CodecGen.Proofs.Load.Output

/-!
# Runs after runs

What a run writes begins with a marker line (`isGenerated_output`), so a run that comes after it
with the same arguments loads the same declarations, ends with the same code and writes nothing
(`run_again`). This asks for an output file from which nothing else is read. A file that is called
as sources are, but has no extension, is listed with the sources of a directory and then left out
(`exit_of_nameless`).
-/

namespace CodecGen

/-! ## Marker lines -/

/-- Text that begins with the marker line was written by a tool. -/
theorem isGenerated_markerLine (rest : String) : isGenerated (Frame.markerLine ++ rest) = true := by
  have hline : Frame.markerLine.toList =
      "// Code generated by gojay-gen. DO NOT EDIT.".toList ++ ['\n'] := by
    decide
  unfold isGenerated
  rw [String.toList_append, hline, List.append_assoc, List.singleton_append,
    Text.split_append_cons, Text.split_of_notMem (by decide)]
  rfl

/-- A generated file that is not empty begins with the marker line. -/
theorem isGenerated_output {c : GenConfig} {filter : TypeFilter} {table : TypeTable} {p : Package}
    {r : Report} (hr : (generateWith c filter table p).result = .ok r) (hne : r.output ≠ "") :
    Frame.markerLine.toList <+: r.output.toList ∧ isGenerated r.output = true := by
  have hreport : r = _ := Except.ok.inj (hr.symm.trans (generateWith_result c filter table p))
  have houtput : ∃ rest, r.output = Frame.markerLine ++ rest := by
    rw [hreport] at hne ⊢
    unfold reportOf fileText at hne ⊢
    dsimp only at hne ⊢
    split at hne
    · exact absurd rfl hne
    · rw [if_neg ‹_›]
      unfold headerText
      simp only [String.append_assoc]
      exact ⟨_, rfl⟩
  obtain ⟨rest, hrest⟩ := houtput
  rw [hrest]
  refine ⟨?_, isGenerated_markerLine rest⟩
  rw [String.toList_append]
  exact List.prefix_append _ _

namespace Cli

/-! ## The tree after a run -/

/-- Nothing that a run reads comes from a location, apart from what the run writes there. -/
structure IsApart (t : FileTree) (o : Options) (l : Location) : Prop where
  /-- The settings file is elsewhere. -/
  config : ∀ path, o.config = some path → t.locate? path ≠ some l
  /-- Nothing is loaded from there. -/
  spare : IsSpare t o.inputs l

section

variable {t : FileTree} {o : Options} {l : Location} {text : String}

/-- A file that is written apart from what a run reads does not change its settings. -/
theorem hasSettings_putFile (hplace : FileTree.hasPlace t.dirs l = true) (h : IsApart t o l)
    {c : GenConfig} : HasSettings (t.putFile l (some text)) o c ↔ HasSettings t o c := by
  have hbase : baseSettings (t.putFile l (some text)) o = baseSettings t o := by
    unfold baseSettings
    cases hconfig : o.config with
    | none => rfl
    | some path =>
      dsimp only
      rw [FileTree.read?_putFile hplace, if_neg (h.config path hconfig)]
  rw [hasSettings_iff, hasSettings_iff]
  unfold settings
  rw [hbase]

/-- A file that is written does not change what can be listed. -/
theorem canList_putFile (l : Location) (text : Option String) :
    canList (t.putFile l text) = canList t :=
  canList_congr (FileTree.dirs_putFile t l text) (FileTree.hidden_putFile t l text)

/-- A run with an output file writes nothing, or it writes the generated code and ends with the code
that tells what was left out. -/
theorem runWith_cases {path : String} (hpath : o.output = some path) :
    (runWith t o).written = none ∧ (runWith t o).files = t ∨
      ∃ c filter r u, HasSettings t o c ∧ (∀ input ∈ o.inputs, canList t input = true) ∧
        c.typeFilter = .ok filter ∧ (generate c filter (load t o.inputs).package).result = .ok r ∧
        r.output ≠ "" ∧ t.write? path r.output = some u ∧ (runWith t o).files = u ∧
        (runWith t o).exit =
          if r.isSuccess && (load t o.inputs).isComplete then success else failure := by
  by_cases hready : ∃ c, HasSettings t o c ∧ ∀ input ∈ o.inputs, canList t input = true
  · obtain ⟨c, hc, hlist⟩ := hready
    obtain ⟨filter, r, ns, ns', hfilter, hr, hrun⟩ := runWith_delivers hc hlist
    have hdelivers := delivers_deliver t o r.output
      (if r.isSuccess && (load t o.inputs).isComplete then success else failure) ns ns'
    rw [← hrun] at hdelivers
    by_cases hempty : r.output = ""
    · exact .inl (hdelivers.nothing hempty).2
    by_cases hread : t.read? path = some r.output
    · exact .inl (hdelivers.kept hempty path hpath hread).2
    cases hwrite : t.write? path r.output with
    | none => exact .inl (hdelivers.unwritable ⟨hempty, path, hpath, hread, hwrite⟩).2.2
    | some u =>
      refine .inr ⟨c, filter, r, u, hc, hlist, hfilter, hr, hempty, hwrite,
        (hdelivers.filed hempty path hpath hread u hwrite).2.2.1, ?_⟩
      rw [hrun]
      show (deliver t o r.output _ ns).exit = _
      rw [deliver_of_write hempty hpath hread hwrite]
  · obtain ⟨notes, hrun⟩ := runWith_of_fault hready
    rw [hrun]
    exact .inl ⟨rfl, rfl⟩

/-- A run after one that wrote its output finds that output up to date. -/
theorem runWith_written {path : String} {c : GenConfig} {filter : TypeFilter} {r : Report}
    (hpath : o.output = some path) (hc : HasSettings t o c)
    (hlist : ∀ input ∈ o.inputs, canList t input = true) (hfilter : c.typeFilter = .ok filter)
    (hr : (generate c filter (load t o.inputs).package).result = .ok r) (hne : r.output ≠ "")
    (hread : t.read? path = some r.output) :
    (runWith t o).written = none ∧ (runWith t o).files = t ∧ (runWith t o).exit =
      if r.isSuccess && (load t o.inputs).isComplete then success else failure := by
  obtain ⟨filter', r', ns, ns', hfilter', hr', hrun⟩ := runWith_delivers hc hlist
  have hsame : filter' = filter := Except.ok.inj (hfilter'.symm.trans hfilter)
  rw [hsame, hr] at hr'
  cases hr'
  rw [hrun]
  show (deliver t o r.output _ ns).written = none ∧ (deliver t o r.output _ ns).files = t ∧
    (deliver t o r.output _ ns).exit = _
  rw [deliver_of_same hne hpath hread]
  exact ⟨rfl, rfl, rfl⟩

end

/-! ## The next run -/

/-- A run on the tree that a run with the same arguments left, whose output file is apart from what
it reads, loads the same, ends with the same code and writes nothing. -/
theorem run_again (t : FileTree) (args : List String) (o : Options) (path : String)
    (hargs : Options.ofArgs args = .ok o) (hpath : o.output = some path)
    (hapart : ∀ l, t.locate? path = some l → IsApart t o l) :
    (load? (run t args).files o.inputs = load? t o.inputs ∧
        (run (run t args).files args).exit = (run t args).exit ∧
        (run (run t args).files args).written = none ∧
        (run (run t args).files args).files = (run t args).files) ∧
      ∀ c filter table p r, (generateWith c filter table p).result = .ok r → r.output ≠ "" →
        Frame.markerLine.toList <+: r.output.toList ∧ isGenerated r.output = true := by
  refine ⟨?_, fun c filter table p r hr hne => isGenerated_output hr hne⟩
  rw [run_of_options hargs, run_of_options hargs]
  rcases runWith_cases (t := t) hpath with ⟨hwritten, hfiles⟩ |
    ⟨c, filter, r, u, hc, hlist, hfilter, hr, hne, hwrite, hfiles, hexit⟩
  · rw [hfiles]
    exact ⟨rfl, rfl, hwritten, hfiles⟩
  have hread := FileTree.read?_of_write? hwrite
  obtain ⟨l, hl, hplace, hu⟩ := FileTree.write?_eq_some.mp hwrite
  -- what was written is marked as generated, so it adds nothing to what is loaded
  have hload : load u o.inputs = load t o.inputs := by
    rw [hu]
    exact load_putFile hplace (hapart l hl).spare (isGenerated_output hr hne).2
  have hcan : canList u = canList t := by
    rw [hu]
    exact canList_putFile l _
  have hlist' : ∀ input ∈ o.inputs, canList u input = true := by
    rw [hcan]
    exact hlist
  have hc' : HasSettings u o c := by
    rw [hu]
    exact (hasSettings_putFile hplace (hapart l hl)).mpr hc
  obtain ⟨hwritten, hsame, hexit'⟩ :=
    runWith_written hpath hc' hlist' hfilter (hload ▸ hr) hne hread
  rw [hfiles, hexit, hexit', hload, load?_of_canList hlist, load?_of_canList hlist', hload]
  exact ⟨rfl, rfl, hwritten, hsame⟩

/-- The second run over a mixed directory writes nothing, as the first has left its file there. -/
theorem run_again_mixedSources :
    let args := ["-o", "models/out.go", "models"]
    let o : Options := { inputs := ["models"], output := some "models/out.go" }
    Options.ofArgs args = .ok o ∧
      (∀ l, mixedSources.locate? "models/out.go" = some l → IsApart mixedSources o l) ∧
      (run mixedSources args).written.isSome = true ∧ (run mixedSources args).exit = 0 ∧
      (run (run mixedSources args).files args).exit = 0 ∧
      (run (run mixedSources args).files args).written = none := by
  intro args o
  have hargs : Options.ofArgs args = .ok o := by rfl
  have hapart : ∀ l, mixedSources.locate? "models/out.go" = some l →
      IsApart mixedSources o l := by
    intro l hl
    have hat : mixedSources.locate? "models/out.go" = some ["models", "out.go"] := by
      decide +kernel
    rw [hat] at hl
    cases hl
    have hinput : ∀ input ∈ o.inputs,
        mixedSources.locate? input ≠ some ["models", "out.go"] := by
      decide +kernel
    have hnew : mixedSources.isFile ["models", "out.go"] = false := by decide +kernel
    have hconfig : ∀ path, o.config = some path →
        mixedSources.locate? path ≠ some ["models", "out.go"] := by
      intro path hpath
      cases hpath
    refine ⟨hconfig, hinput, .inl ⟨hnew, fun input _ dir _ heq => ?_⟩⟩
    have hlast := congrArg List.getLast? heq
    rw [List.getLast?_concat] at hlast
    revert hlast
    decide
  have hwritten : (run mixedSources args).written.isSome = true := by decide +kernel
  have hexit : (run mixedSources args).exit = 0 := by decide +kernel
  obtain ⟨⟨_, hexit', hwritten', _⟩, _⟩ :=
    run_again mixedSources args o "models/out.go" hargs rfl hapart
  exact ⟨hargs, hapart, hwritten, hexit, hexit'.trans hexit, hwritten'⟩

/-! ## Sources without a name -/

/-- A run fails where a directory among its inputs has a source without anything before the dot of
its name. -/
theorem exit_of_nameless {t : FileTree} {args : List String} {o : Options} {input : String}
    {dir : Location} (hargs : Options.ofArgs args = .ok o) (hmem : input ∈ o.inputs)
    (hdir : t.dirAt? input = some dir) (hfile : t.isFile (dir ++ [".go"]) = true) :
    (run t args).exit = 1 := by
  have hfailed := failed_of_nameless hmem hdir hfile
  rw [run_of_options hargs]
  by_cases hready : ∃ c, HasSettings t o c ∧ ∀ input ∈ o.inputs, canList t input = true
  · obtain ⟨c, hc, hlist⟩ := hready
    obtain ⟨filter, r, ns, ns', _, _, hrun⟩ := runWith_delivers hc hlist
    rw [hrun]
    by_cases hwritable : IsUnwritable t o r.output
    · exact ((delivers_deliver t o r.output _ ns ns').unwritable hwritable).1
    · show (deliver t o r.output _ ns).exit = 1
      rw [exit_deliver hwritable]
      obtain ⟨hclean, hcode⟩ := code_cases r (load t o.inputs)
      refine hcode.resolve_left fun hzero => ?_
      rw [(hclean.mp hzero).1] at hfailed
      cases hfailed
  · obtain ⟨notes, hrun⟩ := runWith_of_fault hready
    rw [hrun]
    rfl

/-- A directory with one source. -/
def singleSource : FileTree :=
  FileTree.empty.addFile ["a.go"] (some "package p\n\ntype A []int\n")

/-- A run after one that wrote a new file need not end with the same code: the file may be listed
with the sources of a directory, and left out for its name. -/
theorem run_again_not_same : ¬∀ (t : FileTree) (args : List String) (o : Options) (path : String),
    Options.ofArgs args = .ok o → o.output = some path →
      (∀ l, t.locate? path = some l → (∀ path, o.config = some path → t.locate? path ≠ some l) ∧
        (∀ input ∈ o.inputs, t.locate? input ≠ some l) ∧ t.isFile l = false) →
      (run (run t args).files args).exit = (run t args).exit := by
  intro h
  have hargs : Options.ofArgs ["-o", ".go", "."] =
      .ok { inputs := ["."], output := some ".go" } := by rfl
  have hat : singleSource.locate? ".go" = some [".go"] := by decide +kernel
  have hfirst : (run singleSource ["-o", ".go", "."]).exit = 0 := by decide +kernel
  have hwritten : (run singleSource ["-o", ".go", "."]).files.isFile [".go"] = true := by
    decide +kernel
  have hdir : (run singleSource ["-o", ".go", "."]).files.dirAt? "." = some [] := by
    decide +kernel
  have hsecond := exit_of_nameless hargs List.mem_cons_self hdir hwritten
  have hsame := h singleSource ["-o", ".go", "."] _ ".go" hargs rfl fun l hl => by
    rw [hat] at hl
    cases hl
    refine ⟨fun path hpath => ?_, by decide +kernel, by decide +kernel⟩
    cases hpath
  rw [hfirst, hsecond] at hsame
  cases hsame

end Cli

end CodecGen
