import CodecGen.Proofs.Emit.Verbatim
import CodecGen.Proofs.Template.Mention

/-!
# The packages that a file imports

A file imports what its fragments need (`importsExactly_sorted`): the packages that their templates
spell and those that their layouts begin with. These are the packages that the code mentions by
anything but the names it is written for (`Fragment.isMentionedIn_of_mem_imports`,
`Fragment.mem_imports_of_isMentionedIn`).
-/

namespace CodecGen

open Fragment (textOf importsOf)

/-! ## Fragments -/

/-- What is known about a member, with blanks for all names. -/
def MemberInput.blank (i : MemberInput) : MemberInput :=
  { i with owner := "_", field := "_", key := "_", omitEmpty := "_", concrete := none }

/-- A record that is built for such a member has blanks for everything but the layout. -/
theorem Builder.value_blank {b : Builder} {i : MemberInput} {var : Var}
    (h : var ∈ b.supplied i.slot) : i.blank.value var = blanks i.layout var := by
  obtain ⟨slot, _, _, _, _, _, _⟩ := i
  cases slot <;> cases b <;> fin_cases h <;> rfl

/-- A value that is the same for all holes is found for each of them. -/
theorem lookup_map_const {values : List (Var × Value)} {var : Var} {v : Value}
    (h : var ∈ values.map Prod.fst) : (values.map fun e => (e.1, v)).lookup var = some v := by
  induction values with
  | nil => cases h
  | cons e values ih =>
    rw [List.map_cons, List.lookup_cons]
    cases heq : var == e.1 with
    | true => rfl
    | false =>
      refine ih ((List.mem_cons.mp h).resolve_left fun h => ?_)
      rw [h, beq_self_eq_true] at heq
      cases heq

namespace Fragment

/-- A fragment with blanks for all names in it. -/
def blank : Fragment → Fragment
  | frame f values => .frame f (values.map fun v => (v.1, .text "_"))
  | member k d i => .member k d i.blank

/-- The template that a member is written from spells a word itself. -/
def spells (word : String) : Fragment → Bool
  | frame _ _ => false
  | member k d i => (k.template i.slot d).body.spells word

/-- The layout that a fragment writes. -/
def layout? : Fragment → Option String
  | frame _ _ => none
  | member k d i => if (k.template i.slot d).body.asks .format then some i.layout else none

/-- The names in a fragment have no say in what it imports. -/
theorem imports_blank (f : Fragment) : f.blank.imports = f.imports := by
  cases f <;> rfl

/-- A member imports what its template needs with its layout. -/
theorem mem_imports_member {k : EntryKey} {d : Direction} {i : MemberInput} {p : StdPackage} :
    p ∈ imports (member k d i) ↔ (k.template i.slot d).needs i.layout p = true := by
  have hall : p ∈ StdPackage.all := by cases p <;> decide
  exact List.mem_filter.trans (and_iff_right hall)

/-- A fragment needs a package that its template spells, or by whose qualifier its layout begins. -/
theorem mem_imports_iff {f : Fragment} {p : StdPackage} : p ∈ f.imports ↔
    f.spells p.qualifier = true ∨ p = .time ∧ ∃ l ∈ f.layout?, p.qualifies l = true := by
  cases f with
  | frame f values => simp [imports, spells, layout?]
  | member k d i =>
    rw [mem_imports_member, MemberTemplate.needs, Bool.or_eq_true, decide_eq_true_iff,
      EntryKey.package?_template, Bool.and_eq_true,
      Bool.and_eq_true, decide_eq_true_iff, and_assoc]
    refine or_congr_right (and_congr_right fun _ => ?_)
    simp only [layout?]
    split
    · rename_i hasks
      simp [hasks]
    · rename_i hasks
      simp [hasks]

/-- With blanks for its names, a member has the text of its template with blanks in it. -/
theorem text_blank_member (k : EntryKey) (d : Direction) (i : MemberInput) :
    (member k d i).blank.text = (k.template i.slot d).body.fill (blanks i.layout) := by
  show (member k d i.blank).text = _
  rw [text_of_render (render_of_isSupplied (isSupplied_member k d i.blank))]
  refine Template.fill_congr fun var hvar => ?_
  exact Builder.value_blank (Template.mem_of_asksOnly (isSupplied_member k d i.blank) hvar)

/-- With blanks for its values, a frame has the text of its template with blanks in it. -/
theorem text_blank_frame {f : Frame} {values : List (Var × Value)}
    (h : (frame f values).IsSupplied) :
    (frame f values).blank.text = f.template.fill fun _ => "_" := by
  have hnames : (values.map fun v => (v.1, Value.text "_")).map Prod.fst = values.map Prod.fst := by
    rw [List.map_map]
    rfl
  have hblank : (frame f values).blank.IsSupplied := by
    show f.template.asksOnly ((values.map fun v => (v.1, Value.text "_")).map Prod.fst) = true
    rw [hnames]
    exact h
  rw [text_of_render (render_of_isSupplied hblank)]
  refine Template.fill_congr fun var hvar => ?_
  have hmem : var ∈ values.map Prod.fst := Template.mem_of_asksOnly h hvar
  show (((values.map fun v => (v.1, Value.text "_")).lookup var).map Value.render).getD "" = "_"
  rw [lookup_map_const hmem]
  rfl

/-- The header has lines for its imports, which the code around members is not given. -/
theorem ne_header_of_isSupplied {f : Frame} {values : List (Var × Value)}
    (h : (frame f values).IsSupplied) : f ≠ .header := by
  rintro rfl
  have himports : Piece.importLines .imports ∈ Frame.header.template := by decide
  exact Bool.false_ne_true (List.all_eq_true.mp h _ himports)

/-- With its names left out, a fragment mentions the packages that it needs. -/
theorem isMentionedIn_of_mem_imports {f : Fragment} {p : StdPackage} (h : p ∈ f.imports) :
    p.isMentionedIn f.blank.text = true := by
  cases f with
  | frame f values => cases h
  | member k d i =>
    rw [text_blank_member]
    exact EntryKey.isMentionedIn_of_needs (mem_imports_member.mp h)

/-- With its names left out, a fragment mentions no packages but those that it needs, if the layout
that it writes is one. -/
theorem mem_imports_of_isMentionedIn {f : Fragment} (hsupplied : f.IsSupplied)
    (hlayout : ∀ l ∈ f.layout?, IsLayout l) {p : StdPackage}
    (h : p.isMentionedIn f.blank.text = true) : p ∈ f.imports := by
  cases f with
  | frame f values =>
    have hquiet : p.isQuietIn (f.template.fill fun _ => "_") = true :=
      Template.isQuietIn_fill (Frame.isQuiet_template (ne_header_of_isSupplied hsupplied))
    rw [text_blank_frame hsupplied, StdPackage.isMentionedIn,
      StdPackage.mentions_of_isQuietIn hquiet] at h
    cases h
  | member k d i =>
    rw [text_blank_member] at h
    refine mem_imports_member.mpr (EntryKey.needs_of_isMentionedIn (fun hasks => ?_) h)
    exact hlayout i.layout (if_pos hasks)

end Fragment

/-! ## Whole passes -/

/-- A list of packages is the import list of code. -/
structure ImportsExactly (code : List Fragment) (listed : List StdPackage) : Prop where
  /-- The list is in the order of the paths, without repeats. -/
  sorted : (listed.map StdPackage.path).Pairwise (· < ·)
  /-- It has the package of databases if a template spells the qualifier itself. -/
  databaseSql : .databaseSql ∈ listed ↔ ∃ f ∈ code, f.spells "sql." = true
  /-- It has the package of times if a template spells the qualifier itself, or a layout that is
  written begins with it. -/
  time : .time ∈ listed ↔
    ∃ f ∈ code, f.spells "time." = true ∨ ∃ l ∈ f.layout?, "time.".toList <+: l.toList
  /-- The names that the code is written for do not matter. -/
  names : ∀ code' : List Fragment, code'.map Fragment.blank = code.map Fragment.blank →
    StdPackage.sorted (importsOf code') = listed
  /-- The code mentions all packages of the list by something else than these names. -/
  used : ∀ p ∈ listed, ∃ f ∈ code, p.isMentionedIn f.blank.text = true
  /-- Where layouts are names of the package of times or string literals, no package is missing that
  the code mentions so. -/
  complete : (∀ f ∈ code, ∀ l ∈ f.layout?, IsLayout l) → ∀ p : StdPackage,
    (∃ f ∈ code, p.isMentionedIn f.blank.text = true) → p ∈ listed

/-- The listed packages are in the order of their paths, without repeats. -/
theorem StdPackage.pairwise_sorted (ps : List StdPackage) :
    ((StdPackage.sorted ps).map StdPackage.path).Pairwise (· < ·) := by
  have hall : (StdPackage.all.map StdPackage.path).Pairwise (· < ·) := by decide
  exact hall.sublist (List.filter_sublist.map StdPackage.path)

/-- Code that differs in names only imports the same packages. -/
theorem importsOf_eq_of_blank {code code' : List Fragment}
    (h : code'.map Fragment.blank = code.map Fragment.blank) :
    importsOf code' = importsOf code := by
  have hblank : ∀ fs : List Fragment, importsOf (fs.map Fragment.blank) = importsOf fs := by
    intro fs
    unfold importsOf
    rw [List.flatMap_map]
    exact List.flatMap_congr fun f _ => f.imports_blank
  rw [← hblank code', h, hblank code]

/-- The packages that code needs, sorted, are its import list. -/
theorem importsExactly_sorted {code : List Fragment} (h : ∀ f ∈ code, f.IsSupplied) :
    ImportsExactly code (StdPackage.sorted (importsOf code)) := by
  have hmem : ∀ p : StdPackage, p ∈ StdPackage.sorted (importsOf code) ↔
      ∃ f ∈ code, p ∈ f.imports := by
    intro p
    rw [StdPackage.mem_sorted]
    exact List.mem_flatMap
  -- each part of the claim speaks of membership in the sorted list
  constructor
  case sorted => exact StdPackage.pairwise_sorted _
  case databaseSql =>
    rw [hmem]
    refine exists_congr fun f => and_congr_right fun _ => ?_
    rw [Fragment.mem_imports_iff]
    exact or_iff_left nofun
  case time =>
    rw [hmem]
    refine exists_congr fun f => and_congr_right fun _ => ?_
    rw [Fragment.mem_imports_iff]
    refine or_congr_right ((and_iff_right rfl).trans ?_)
    refine exists_congr fun l => and_congr_right fun _ => ?_
    exact List.isPrefixOf_iff_prefix
  case names => exact fun code' hcode' => congrArg StdPackage.sorted (importsOf_eq_of_blank hcode')
  case used =>
    intro p hp
    obtain ⟨f, hf, himport⟩ := (hmem p).mp hp
    exact ⟨f, hf, Fragment.isMentionedIn_of_mem_imports himport⟩
  case complete =>
    rintro hlayout p ⟨f, hf, hmention⟩
    exact (hmem p).mpr
      ⟨f, hf, Fragment.mem_imports_of_isMentionedIn (h f hf) (hlayout f hf) hmention⟩

/-- A file imports exactly the standard packages that its code needs. -/
theorem generateWith_imports (c : GenConfig) (filter : TypeFilter) (table : TypeTable)
    (p : Package) :
    ∃ r, (generateWith c filter table p).result = .ok r ∧
      (r.generated ≠ [] → ∃ listed,
        r.output = headerText (c.packageFor p) c.importPath listed ++
            textOf (p.written ⟨c.tagRules, table⟩ filter) ∧
          ImportsExactly (p.written ⟨c.tagRules, table⟩ filter) listed) := by
  refine ⟨_, generateWith_result c filter table p, fun hgenerated => ?_⟩
  refine ⟨_, ?_, importsExactly_sorted Package.isSupplied_of_mem_written⟩
  rw [reportOf_written, fileText, if_neg]
  rwa [List.isEmpty_iff]

/-- A struct with a time, and with a text that may be missing. -/
def stampPackage : Package where
  name := "stamps"
  decls := [⟨"Stamp", .struct [
    ⟨["At"], .qualified "time" "Time", some "\x60fmt:\"time.Kitchen\" gojay:\"sql.at\"\x60"⟩,
    ⟨["Note"], .qualified "sql" "NullString", none⟩]⟩]

/-- The file imports the package of times alone, although a key and a type name the other one. -/
theorem generateWith_imports_stampPackage :
    ∃ r, (generateWith {} .all .empty stampPackage).result = .ok r ∧ r.generated ≠ [] ∧
      (∀ f ∈ stampPackage.written ⟨GenConfig.tagRules {}, .empty⟩ .all, ∀ l ∈ f.layout?,
        IsLayout l) ∧
      r.output = headerText "stamps" "github.com/francoispqt/gojay" [.time] ++
        textOf (stampPackage.written ⟨GenConfig.tagRules {}, .empty⟩ .all) := by
  obtain ⟨r, hr, himports⟩ := generateWith_imports {} .all .empty stampPackage
  have hreport := hr.symm.trans (generateWith_result {} .all .empty stampPackage)
  have hgenerated : r.generated ≠ [] := by
    rw [Except.ok.inj hreport]
    decide +kernel
  obtain ⟨listed, houtput, hlisted⟩ := himports hgenerated
  -- the type of the second field is of another package, but nowhere written out
  have hlist : StdPackage.sorted (importsOf
      (stampPackage.written ⟨GenConfig.tagRules {}, .empty⟩ .all)) = [.time] := by
    decide +kernel
  have hlayouts : (stampPackage.written ⟨GenConfig.tagRules {}, .empty⟩ .all).flatMap
      (fun f => f.layout?.toList) = ["time." ++ "Kitchen", "time." ++ "Kitchen"] := by
    decide +kernel
  refine ⟨r, hr, hgenerated, fun f hf l hl => ?_, ?_⟩
  · have hmem : l ∈ ["time." ++ "Kitchen", "time." ++ "Kitchen"] := by
      rw [← hlayouts]
      exact List.mem_flatMap.mpr ⟨f, hf, Option.mem_toList.mpr hl⟩
    have hl' : l = "time." ++ "Kitchen" := by simpa using hmem
    rw [hl']
    exact .inl (isTimeExpression_of_name (by decide))
  · rw [houtput, ← hlisted.names _ rfl, hlist]
    rfl

end CodecGen
