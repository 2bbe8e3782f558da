import CodecGen.Cli.Options
import CodecGen.Cli.Run
import CodecGen.Proofs.Emit.Pass
import CodecGen.Proofs.Load.Parts

/-!
# What a run comes to

A run whose settings are valid and whose directories can be listed generates code for the
declarations that it finds, whatever else is wrong, and delivers that (`run_outcome`); its code
tells whether anything was left out. Any other run delivers nothing and ends with the code for
failure.
-/

namespace CodecGen.Cli

/-! ## Settings -/

/-- The settings that a run starts from: those of the settings file, or the default ones where none
is named. -/
inductive StartsFrom (t : FileTree) (o : Options) (base : GenConfig) : Prop where
  | default (hnone : o.config = none) (hbase : base = {})
  | file {path text : String} (hpath : o.config = some path) (hread : t.read? path = some text)
      (hbase : GenConfig.ofToml text = .ok base)

section

variable {t : FileTree} {o : Options}

/-- The settings that a run starts from are those that it reads. -/
theorem startsFrom_iff {base : GenConfig} :
    StartsFrom t o base ↔ baseSettings t o = some base := by
  unfold baseSettings
  constructor
  · rintro (⟨hnone, rfl⟩ | ⟨hpath, hread, hbase⟩)
    · rw [hnone]
    · rw [hpath]
      simp [hread, hbase, Except.toOption]
  · intro h
    split at h
    · exact .default ‹_› (Option.some.inj h).symm
    · rename_i path hpath
      obtain ⟨text, hread, htext⟩ := Option.bind_eq_some_iff.mp h
      cases hbase : GenConfig.ofToml text with
      | error e =>
        rw [hbase] at htext
        cases htext
      | ok c =>
        rw [hbase] at htext
        cases htext
        exact .file hpath hread hbase

/-- The settings of a run are valid, with those that the options put in place of others. -/
structure HasSettings (t : FileTree) (o : Options) (c : GenConfig) : Prop where
  /-- They are the settings that the run starts from, but for the options. -/
  base : ∃ base, StartsFrom t o base ∧ c = o.override base
  /-- Nothing is wrong with them. -/
  valid : c.validate = .ok ()

/-- A run has settings if and only if it reads some and they are valid. -/
theorem hasSettings_iff {c : GenConfig} : HasSettings t o c ↔ settings t o = some c := by
  have hok : ∀ {x : Except ConfigError Unit}, x.isOk = true ↔ x = .ok () := by
    intro x
    cases x <;> simp [Except.isOk, Except.toBool]
  unfold settings
  constructor
  · rintro ⟨⟨base, hbase, rfl⟩, hvalid⟩
    rw [startsFrom_iff.mp hbase]
    exact if_pos (hok.mpr hvalid)
  · intro h
    obtain ⟨base, hbase, hc⟩ := Option.bind_eq_some_iff.mp h
    dsimp only at hc
    split at hc
    · cases hc
      exact ⟨⟨base, startsFrom_iff.mpr hbase, rfl⟩, hok.mp ‹_›⟩
    · cases hc

end

/-- Valid settings have a choice of types. -/
theorem typeFilter_of_validate {c : GenConfig} (h : c.validate = .ok ()) :
    ∃ filter, c.typeFilter = .ok filter := by
  cases hfilter : c.typeFilter with
  | ok filter => exact ⟨filter, rfl⟩
  | error e =>
    exfalso
    unfold GenConfig.validate at h
    rw [hfilter] at h
    simp only [bind, Except.bind] at h
    -- whichever check fails first, the choice of types fails at last
    repeat' split at h
    all_goals cases h

/-! ## Deliveries -/

/-- The text is to be written to a file where no file can be. -/
def IsUnwritable (t : FileTree) (o : Options) (text : String) : Prop :=
  text ≠ "" ∧ ∃ path, o.output = some path ∧ t.read? path ≠ some text ∧ t.write? path text = none

/-- How some text is delivered by a run. -/
structure Delivers (t : FileTree) (o : Options) (text : String) (x : Outcome) : Prop where
  /-- Nothing is delivered where there is no text. -/
  nothing : text = "" → x.stdout = "" ∧ x.written = none ∧ x.files = t
  /-- The text is printed where no output file is named. -/
  printed : text ≠ "" → o.output = none → x.stdout = text ∧ x.written = none ∧ x.files = t
  /-- An output file that holds just the text is not touched. -/
  kept : text ≠ "" → ∀ path, o.output = some path → t.read? path = some text →
    x.stdout = "" ∧ x.written = none ∧ x.files = t
  /-- Any other output file is written, and holds the text then. -/
  filed : text ≠ "" → ∀ path, o.output = some path → t.read? path ≠ some text →
    ∀ u, t.write? path text = some u →
      x.stdout = "" ∧ x.written = some (path, text) ∧ x.files = u ∧ u.read? path = some text
  /-- A run that cannot write delivers nothing and fails. -/
  unwritable : IsUnwritable t o text →
    x.exit = 1 ∧ x.stdout = "" ∧ x.written = none ∧ x.files = t

section

variable {t : FileTree} {o : Options} {text path : String}

/-- A run without a text says that there is nothing to generate. -/
theorem deliver_of_empty (h : text = "") (exit : Nat) (notes : List Note) :
    deliver t o text exit notes =
      .silent t exit (notes ++ [⟨.warn, "nothing to generate"⟩]) := by
  unfold deliver
  rw [if_pos (String.isEmpty_iff.mpr h)]

/-- Without an output file the text is printed. -/
theorem deliver_of_no_output (htext : text ≠ "") (hnone : o.output = none) (exit : Nat)
    (notes : List Note) : deliver t o text exit notes = ⟨exit, text, none, t, notes⟩ := by
  unfold deliver
  rw [if_neg (by simpa using htext), hnone]

/-- A file that has the text already is left as it is. -/
theorem deliver_of_same (htext : text ≠ "") (hpath : o.output = some path)
    (hread : t.read? path = some text) (exit : Nat) (notes : List Note) :
    deliver t o text exit notes =
      .silent t exit (notes ++ [⟨.info, path ++ " is up to date"⟩]) := by
  unfold deliver
  rw [if_neg (by simpa using htext), hpath]
  exact if_pos hread

/-- A text is written to the output file where one can be. -/
theorem deliver_of_write {u : FileTree} (htext : text ≠ "") (hpath : o.output = some path)
    (hread : t.read? path ≠ some text) (hwrite : t.write? path text = some u) (exit : Nat)
    (notes : List Note) : deliver t o text exit notes =
      ⟨exit, "", some (path, text), u, notes ++ [⟨.info, "wrote " ++ path⟩]⟩ := by
  unfold deliver
  rw [if_neg (by simpa using htext), hpath]
  dsimp only
  rw [if_neg hread, hwrite]

/-- Where no file can be, the run fails with an error. -/
theorem deliver_of_no_write (htext : text ≠ "") (hpath : o.output = some path)
    (hread : t.read? path ≠ some text) (hwrite : t.write? path text = none) (exit : Nat)
    (notes : List Note) : deliver t o text exit notes =
      .silent t failure (notes ++ [⟨.error, "Failed to write " ++ path⟩]) := by
  unfold deliver
  rw [if_neg (by simpa using htext), hpath]
  dsimp only
  rw [if_neg hread, hwrite]

/-- A delivery ends with the code that it is given, unless it cannot write. -/
theorem exit_deliver (h : ¬IsUnwritable t o text) (exit : Nat) (notes : List Note) :
    (deliver t o text exit notes).exit = exit := by
  by_cases htext : text = ""
  · rw [deliver_of_empty htext]
    rfl
  cases hpath : o.output with
  | none => rw [deliver_of_no_output htext hpath]
  | some path =>
    by_cases hread : t.read? path = some text
    · rw [deliver_of_same htext hpath hread]
      rfl
    cases hwrite : t.write? path text with
    | none => exact absurd ⟨htext, path, hpath, hread, hwrite⟩ h
    | some u => rw [deliver_of_write htext hpath hread hwrite]

end

/-- What is noted does not matter to a delivery. -/
theorem delivers_deliver (t : FileTree) (o : Options) (text : String) (exit : Nat)
    (notes notes' : List Note) :
    Delivers t o text { deliver t o text exit notes with notes := notes' } := by
  constructor
  case nothing =>
    intro h
    rw [deliver_of_empty h]
    exact ⟨rfl, rfl, rfl⟩
  case printed =>
    intro htext hnone
    rw [deliver_of_no_output htext hnone]
    exact ⟨rfl, rfl, rfl⟩
  case kept =>
    intro htext path hpath hread
    rw [deliver_of_same htext hpath hread]
    exact ⟨rfl, rfl, rfl⟩
  case filed =>
    intro htext path hpath hread u hwrite
    rw [deliver_of_write htext hpath hread hwrite]
    exact ⟨rfl, rfl, rfl, FileTree.read?_of_write? hwrite⟩
  case unwritable =>
    rintro ⟨htext, path, hpath, hread, hwrite⟩
    rw [deliver_of_no_write htext hpath hread hwrite]
    exact ⟨rfl, rfl, rfl, rfl⟩

/-! ## Runs -/

/-- Arguments that are options are run with them. -/
theorem run_of_options {args : List String} {o : Options} (h : Options.ofArgs args = .ok o)
    (t : FileTree) : run t args = runWith t o := by
  unfold run
  rw [h]

section

variable {t : FileTree} {o : Options} {c : GenConfig}

/-- A run with valid settings generates code for what it loads, if it can list its directories. -/
theorem runWith_of_settings (hc : HasSettings t o c)
    (hlist : ∀ input ∈ o.inputs, canList t input = true) : runWith t o =
      generateLoaded t o c (load t o.inputs) (inputNotes t o.inputs (load t o.inputs)) := by
  unfold runWith
  rw [hasSettings_iff.mp hc, load?_of_canList hlist]

/-- Any other run is silent. -/
theorem runWith_of_fault
    (h : ¬∃ c, HasSettings t o c ∧ ∀ input ∈ o.inputs, canList t input = true) :
    ∃ notes, runWith t o = .silent t failure notes := by
  unfold runWith
  cases hc : settings t o with
  | none => exact ⟨_, rfl⟩
  | some c =>
    cases hload : load? t o.inputs with
    | error input => exact ⟨_, rfl⟩
    | ok l =>
      refine absurd ⟨c, hasSettings_iff.mpr hc, fun input hmem => ?_⟩ h
      unfold load? at hload
      split at hload
      · cases hload
      · rename_i hnone
        simpa using List.find?_eq_none.mp hnone input hmem

/-- Generated code is delivered even when something was left out; the code of the run tells. -/
theorem generateLoaded_eq {filter : TypeFilter} {l : Loaded} {r : Report}
    (hfilter : c.typeFilter = .ok filter) (hr : (generate c filter l.package).result = .ok r)
    (notes : List Note) : ∃ ns ns', generateLoaded t o c l notes =
      { deliver t o r.output (if r.isSuccess && l.isComplete then success else failure) ns with
        notes := ns' } := by
  unfold generateLoaded
  rw [hfilter]
  dsimp only
  rw [hr]
  dsimp only
  split
  · exact ⟨_, _, rfl⟩
  · exact ⟨_, _, rfl⟩

/-- What a run with valid settings that can list its directories delivers: neither its choice of
types nor its pass can fail. -/
theorem runWith_delivers (hc : HasSettings t o c)
    (hlist : ∀ input ∈ o.inputs, canList t input = true) :
    ∃ filter r ns ns', c.typeFilter = .ok filter ∧
      (generate c filter (load t o.inputs).package).result = .ok r ∧ runWith t o =
        { deliver t o r.output
            (if r.isSuccess && (load t o.inputs).isComplete then success else failure) ns with
          notes := ns' } := by
  obtain ⟨filter, hfilter⟩ := typeFilter_of_validate hc.valid
  have hr := generateWith_result c filter (.ofPackage (load t o.inputs).package)
    (load t o.inputs).package
  obtain ⟨ns, ns', hrun⟩ := generateLoaded_eq (t := t) (o := o) hfilter hr
    (inputNotes t o.inputs (load t o.inputs))
  exact ⟨filter, _, ns, ns', hfilter, hr, (runWith_of_settings hc hlist).trans hrun⟩

end

/-- The code of a run is that of success just if nothing was left out and no type failed. -/
theorem code_cases (r : Report) (l : Loaded) :
    ((if r.isSuccess && l.isComplete then success else failure) = 0 ↔
        l.failed = [] ∧ r.failures = []) ∧
      ((if r.isSuccess && l.isComplete then success else failure) = 0 ∨
        (if r.isSuccess && l.isComplete then success else failure) = 1) := by
  have hclean : (r.isSuccess && l.isComplete) = true ↔ l.failed = [] ∧ r.failures = [] := by
    unfold Report.isSuccess Loaded.isComplete
    rw [Bool.and_eq_true, List.isEmpty_iff, List.isEmpty_iff, and_comm]
  by_cases h : (r.isSuccess && l.isComplete) = true
  · rw [if_pos h]
    exact ⟨iff_of_true rfl (hclean.mp h), .inl rfl⟩
  · rw [if_neg h]
    exact ⟨iff_of_false (by decide) (mt hclean.mpr h), .inr rfl⟩

/-- A run with valid settings and directories that can be listed delivers the code that is generated
for the declarations of its inputs, and its code is that of success if nothing was left out and no
type failed; any other run fails and delivers nothing. -/
theorem run_outcome (t : FileTree) (args : List String) (o : Options)
    (h : Options.ofArgs args = .ok o) :
    (∀ c, HasSettings t o c → (∀ input ∈ o.inputs, canList t input = true) →
      ∃ filter paths ps failed r, c.typeFilter = .ok filter ∧ Visits t o.inputs paths ∧
        Gathers t paths ps failed ∧ (generate c filter (mergeAll ps)).result = .ok r ∧
        Delivers t o r.output (run t args) ∧
        (¬IsUnwritable t o r.output →
          ((run t args).exit = 0 ↔ failed = [] ∧ r.failures = []) ∧
            ((run t args).exit = 0 ∨ (run t args).exit = 1))) ∧
    ((¬∃ c, HasSettings t o c ∧ ∀ input ∈ o.inputs, canList t input = true) →
      (run t args).exit = 1 ∧ (run t args).stdout = "" ∧ (run t args).written = none ∧
        (run t args).files = t) := by
  rw [run_of_options h]
  constructor
  · intro c hc hlist
    obtain ⟨filter, r, ns, ns', hfilter, hr, hrun⟩ := runWith_delivers hc hlist
    -- what is loaded is the merge of what the visited files hold
    obtain ⟨paths, ps, hvisits, hgathers, hpackage⟩ := load_gathers t o.inputs
    rw [hpackage] at hr
    refine ⟨filter, paths, ps, _, r, hfilter, hvisits, hgathers, hr, ?_, fun hwritable => ?_⟩
    · rw [hrun]
      exact delivers_deliver t o r.output _ ns ns'
    · have hexit : (runWith t o).exit =
          if r.isSuccess && (load t o.inputs).isComplete then success else failure := by
        rw [hrun]
        exact exit_deliver hwritable _ ns
      rw [hexit]
      exact code_cases r (load t o.inputs)
  · intro hfault
    obtain ⟨notes, hrun⟩ := runWith_of_fault hfault
    rw [hrun]
    exact ⟨rfl, rfl, rfl, rfl⟩

/-- A run over a mixed tree writes its file, and fails for the source that it cannot load. -/
theorem run_outcome_mixedSources :
    let o : Options := { inputs := ["a.go", "models"], output := some "out.go" }
    Options.ofArgs ["-o", "out.go", "a.go", "models"] = .ok o ∧ HasSettings mixedSources o {} ∧
      (∀ input ∈ o.inputs, canList mixedSources input = true) ∧
      (∃ r : Report, r.output ≠ "" ∧
        Delivers mixedSources o r.output (run mixedSources ["-o", "out.go", "a.go", "models"])) ∧
      (run mixedSources ["-o", "out.go", "a.go", "models"]).exit = 1 ∧
      (run mixedSources ["-o", "out.go", "a.go", "models"]).written.isSome = true := by
  intro o
  have hargs : Options.ofArgs ["-o", "out.go", "a.go", "models"] = .ok o := by rfl
  have hsettings : HasSettings mixedSources o {} :=
    ⟨⟨{}, .default rfl rfl, rfl⟩, by decide +kernel⟩
  have hlist : ∀ input ∈ o.inputs, canList mixedSources input = true := by decide +kernel
  have hexit : (run mixedSources ["-o", "out.go", "a.go", "models"]).exit = 1 := by decide +kernel
  have hwritten :
      (run mixedSources ["-o", "out.go", "a.go", "models"]).written.isSome = true := by
    decide +kernel
  obtain ⟨filter, paths, ps, failed, r, _, _, _, _, hdelivers, _⟩ :=
    (run_outcome mixedSources _ o hargs).1 {} hsettings hlist
  refine ⟨hargs, hsettings, hlist, ⟨r, fun hempty => ?_, hdelivers⟩, hexit, hwritten⟩
  rw [(hdelivers.nothing hempty).2.1] at hwritten
  cases hwritten

end CodecGen.Cli
