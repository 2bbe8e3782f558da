import CodecGen.Proofs.Template.Qualifier

/-!
# What filled templates mention

The text of a template whose names are left out mentions the packages that the template needs
(`EntryKey.isMentionedIn_of_needs`), and no others (`EntryKey.needs_of_isMentionedIn`): a type that
is written out and a layout both come next in code, and the rest is quiet.
-/

namespace CodecGen

open Text (Place Parted mentions isStringLiteral)

/-! ## Mentions of packages -/

namespace StdPackage

/-- A text of code mentions the package. -/
def isMentionedIn (p : StdPackage) (text : String) : Bool :=
  mentions p.qualifier.toList .code text.toList

variable {p : StdPackage}

/-- A text that could not end the name of a package does not mention it. -/
theorem mentions_of_isQuietIn {s : String} (h : p.isQuietIn s = true) (place : Place) :
    mentions p.qualifier.toList place s.toList = false := by
  obtain ⟨word, hword⟩ := p.qualifier_eq
  rw [hword]
  exact Text.mentions_of_isQuiet h word place

/-- Every package has a name in code. -/
theorem qualifier_ne_nil (p : StdPackage) : p.qualifier.toList ≠ [] := by
  cases p <;> decide

end StdPackage

/-- The expression begins with a name of the package of times, and mentions no other package. -/
def IsTimeExpression (layout : String) : Prop :=
  StdPackage.time.qualifies layout = true ∧
    ∀ p : StdPackage, p ≠ .time → p.isMentionedIn layout = false

/-- A name of the package of times, after its qualifier. -/
theorem isTimeExpression_of_name {name : String} (h : '.' ∉ name.toList) :
    IsTimeExpression ("time." ++ name) := by
  constructor
  · refine List.isPrefixOf_iff_prefix.mpr ?_
    rw [String.toList_append]
    exact List.prefix_append _ _
  · intro p hp
    have hqualifier : p.isQuietIn "time." = true := by
      cases p with
      | time => exact absurd rfl hp
      | databaseSql => decide
    have hname : p.isQuietIn name = true := Text.isQuiet_of_notMem h
    exact StdPackage.mentions_of_isQuietIn (StdPackage.isQuietIn_append hqualifier hname) .code

/-- The expression is a name of the package of times or a string literal. -/
def IsLayout (layout : String) : Prop :=
  IsTimeExpression layout ∨ isStringLiteral layout.toList = true

/-- A layout mentions no package but that of times, and then begins with its qualifier. -/
theorem qualifies_of_isMentionedIn {layout : String} (h : IsLayout layout) {p : StdPackage}
    (hmention : p.isMentionedIn layout = true) : p = .time ∧ p.qualifies layout = true := by
  rcases h with ⟨htime, hothers⟩ | hliteral
  · by_cases hp : p = .time
    · subst hp
      exact ⟨rfl, htime⟩
    · rw [hothers p hp] at hmention
      cases hmention
  · have hnot : p.isMentionedIn layout = false := by
      refine Text.mentions_of_isStringLiteral hliteral p.qualifier_ne_nil ?_ ?_ <;>
        cases p <;> decide
    rw [hnot] at hmention
    cases hmention

/-! ## Templates with their names left out -/

/-- Blanks for all names, and a layout. -/
def blanks (layout : String) (var : Var) : String :=
  if var = .format then layout else "_"

namespace Template

/-- The template up to a piece. -/
def before (t : Template) (piece : Piece) : Template :=
  t.takeWhile (· ≠ piece)

/-- The template after the first place where it has a piece. -/
def behind (t : Template) (piece : Piece) : Template :=
  (t.dropWhile (· ≠ piece)).tail

/-- A template is what it has up to a piece, the piece, and what it has after it. -/
theorem before_append_behind {t : Template} {piece : Piece} (h : piece ∈ t) :
    t.before piece ++ piece :: t.behind piece = t := by
  induction t with
  | nil => cases h
  | cons piece' t ih =>
    by_cases heq : piece' = piece
    · subst heq
      simp [before, behind]
    · have hmem : piece ∈ t := (List.mem_cons.mp h).resolve_left fun h => heq h.symm
      have hrest := ih hmem
      unfold before behind at hrest ⊢
      rw [List.takeWhile_cons_of_pos (by simpa using heq),
        List.dropWhile_cons_of_pos (by simpa using heq), List.cons_append, hrest]

/-- Where the reading of code stands after a template whose holes are filled with blanks. -/
def placeAfter : Place → Template → Place
  | place, [] => place
  | place, .text s :: t => placeAfter (place.after s.toList) t
  | place, .hole _ :: t | place, .importLines _ :: t => placeAfter (place.next '_') t

/-- Where reading stands after a template with blanks is told without filling it. -/
theorem after_fill (t : Template) (place : Place) :
    place.after (t.fill fun _ => "_").toList = t.placeAfter place := by
  induction t generalizing place with
  | nil => rfl
  | cons piece t ih =>
    cases piece with
    | text s =>
      rw [fill_text, String.toList_append, Place.after_append, ih, placeAfter]
    | hole var =>
      rw [fill_hole, String.toList_append, Place.after_append, ih, placeAfter]
      rfl
    | importLines var =>
      rw [fill_importLines, String.toList_append, Place.after_append, ih, placeAfter]
      rfl

/-- A template without a hole for a layout does not depend on it. -/
theorem fill_blanks {t : Template} (h : .format ∉ t.vars) (layout : String) :
    t.fill (blanks layout) = t.fill fun _ => "_" := by
  refine fill_congr fun var hvar => if_neg ?_
  rintro rfl
  exact h hvar

/-- A template whose fixed texts do not name a package does not with blanks in its holes either. -/
theorem isQuietIn_fill {p : StdPackage} {t : Template} (h : t.isQuiet p = true) :
    p.isQuietIn (t.fill fun _ => "_") = true := by
  have hblank : p.isQuietIn "_" = true := by cases p <;> decide
  induction t with
  | nil => rfl
  | cons piece t ih =>
    obtain ⟨hpiece, ht⟩ := Bool.and_eq_true_iff.mp h
    cases piece with
    | text s =>
      rw [fill_text]
      exact StdPackage.isQuietIn_append hpiece (ih ht)
    | hole var =>
      rw [fill_hole]
      exact StdPackage.isQuietIn_append hblank (ih ht)
    | importLines var =>
      rw [fill_importLines]
      exact StdPackage.isQuietIn_append hblank (ih ht)

/-- Templates one after another ask for the values of both. -/
theorem vars_append (t u : Template) : vars (t ++ u) = t.vars ++ u.vars := by
  induction t with
  | nil => rfl
  | cons piece t ih => cases piece <;> simp [vars, ih]

/-- What a template with holes only asks for is what it has holes for. -/
theorem mem_vars_iff {t : Template} {supplied : List Var} (h : t.asksOnly supplied = true)
    {var : Var} : var ∈ t.vars ↔ .hole var ∈ t := by
  induction t with
  | nil => exact ⟨nofun, nofun⟩
  | cons piece t ih =>
    obtain ⟨hpiece, ht⟩ := Bool.and_eq_true_iff.mp h
    cases piece with
    | text s => simp [vars, ih ht]
    | hole var' => simp [vars, ih ht]
    | importLines var' => cases hpiece

variable {p : StdPackage}

/-- A template mentions a package where the rest of it comes next in code and begins with the
qualifier. -/
theorem isMentionedIn_of_rest {front rest : Template} (hfront : .format ∉ front.vars)
    (hplace : front.placeAfter .code = .code) {layout : String}
    (hbegins : p.qualifier.toList <+: (rest.fill (blanks layout)).toList) :
    p.isMentionedIn ((front ++ rest).fill (blanks layout)) = true := by
  unfold StdPackage.isMentionedIn
  rw [fill_append, fill_blanks hfront, String.toList_append]
  refine Text.mentions_append_right _ ?_
  rw [after_fill, hplace]
  exact Text.mentions_of_isPrefix p.qualifier_ne_nil hbegins

/-- A layout stands first where the hole for it does. -/
theorem fill_layout (rest : Template) (layout : String) :
    (hole .format ++ rest).fill (blanks layout) = layout ++ rest.fill (blanks layout) := by
  show fill (.hole .format :: rest) (blanks layout) = _
  rw [fill_hole]
  rfl

/-- A template that names no package itself mentions what its layout mentions, where the layout
stands in code between a comma and a bracket. -/
theorem isMentionedIn_layout {front back : Template} (hfront : .format ∉ front.vars)
    (hback : .format ∉ back.vars) (hplace : (front ++ text ", ").placeAfter .code = .code)
    (hquietFront : front.isQuiet p = true) (hquietBack : back.isQuiet p = true) (layout : String) :
    p.isMentionedIn ((front ++ text ", " ++ (hole .format ++ (text ")" ++ back))).fill
      (blanks layout)) = p.isMentionedIn layout := by
  have hopen : p.isQuietIn ((front ++ text ", ").fill fun _ => "_") = true := by
    refine isQuietIn_fill ?_
    rw [isQuiet_append, hquietFront, isQuiet_text]
    cases p <;> decide
  have hclose : p.isQuietIn ((text ")" ++ back).fill fun _ => "_") = true := by
    refine isQuietIn_fill ?_
    rw [isQuiet_append, hquietBack, isQuiet_text]
    cases p <;> decide
  have hopenVars : .format ∉ (front ++ text ", ").vars := by
    rw [vars_append]
    simpa [vars] using hfront
  have hcloseVars : .format ∉ (text ")" ++ back).vars := hback
  have hfill : (front ++ text ", " ++ (hole .format ++ (text ")" ++ back))).fill (blanks layout) =
      ((front ++ text ", ").fill fun _ => "_") ++
        (layout ++ (text ")" ++ back).fill fun _ => "_") := by
    rw [fill_append, fill_layout, fill_blanks hopenVars, fill_blanks hcloseVars]
  -- no name can reach over the comma before the layout or over the bracket after it
  have hlast : Parted p.qualifier.toList ((front ++ text ", ").fill fun _ => "_").toList
      (layout ++ (text ")" ++ back).fill fun _ => "_").toList := by
    left
    rw [fill_append, String.toList_append, fill_text, fill_nil, String.append_empty]
    intro c hc
    rw [show ", ".toList = [',', ' '] from String.toList_ofList, List.getLast?_append] at hc
    cases hc
    cases p <;> decide
  have hfirst : Parted p.qualifier.toList layout.toList
      ((text ")" ++ back).fill fun _ => "_").toList := by
    right
    rw [fill_append, String.toList_append, fill_text, fill_nil, String.append_empty]
    intro c hc
    rw [show ")".toList = [')'] from String.toList_ofList] at hc
    cases hc
    cases p <;> decide
  unfold StdPackage.isMentionedIn
  rw [hfill, String.toList_append, Text.mentions_append _ hlast, after_fill, hplace,
    StdPackage.mentions_of_isQuietIn hopen, String.toList_append, Text.mentions_append _ hfirst,
    StdPackage.mentions_of_isQuietIn hclose, Bool.false_or, Bool.or_false]

end Template

/-! ## Members -/

namespace EntryKey

variable {k : EntryKey} {slot : Slot} {d : Direction} {p : StdPackage}

/-- Only templates for times ask for a layout. -/
theorem eq_time_of_asks (h : (k.template slot d).body.asks .format = true) :
    ∃ pointer, k = ⟨.primitive .time, pointer⟩ := by
  have hmem : Var.format ∈ (k.template slot d).body.vars :=
    (Template.mem_vars_iff (k.asksOnly_template slot d)).mpr (List.contains_iff_mem.mp h)
  have hsupplied : Var.format ∈ (k.builder slot d).supplied slot :=
    Template.mem_of_asksOnly (k.asksOnly_template slot d) hmem
  have hbuilder : k.builder slot d = .time := by
    generalize k.builder slot d = b at hsupplied
    cases b with
    | time => rfl
    | basic | named => cases slot <;> simp [Builder.supplied] at hsupplied
  obtain ⟨base, pointer⟩ := k
  unfold builder at hbuilder
  cases base with
  | primitive q =>
    by_cases htime : q = .time
    · exact ⟨pointer, by rw [htime]⟩
    · dsimp only at hbuilder
      rw [if_neg htime] at hbuilder
      cases hbuilder
  | wildcard w =>
    dsimp only at hbuilder
    split at hbuilder <;> cases hbuilder

/-- A type of a package comes next in code where a template writes it out. -/
theorem placeAfter_type {q : Primitive} (hq : q.package? = some p) (pointer : Bool)
    (h : (EntryKey.style ⟨.primitive q, pointer⟩).writesType slot d = true) :
    let t := (EntryKey.template ⟨.primitive q, pointer⟩ slot d).body
    .format ∉ (t.before (.text q.spelling)).vars ∧
      (t.before (.text q.spelling)).placeAfter .code = .code := by
  revert hq h
  cases p <;> cases q <;> cases pointer <;> cases slot <;> cases d <;> decide +kernel

/-- A template for times has its layout in code, between a comma and a bracket. -/
theorem exists_layout (pointer : Bool) (slot : Slot) (d : Direction) :
    ∃ front back : Template, (EntryKey.template ⟨.primitive .time, pointer⟩ slot d).body =
        front ++ .text ", " ++ (.hole .format ++ (.text ")" ++ back)) ∧
      .format ∉ front.vars ∧ .format ∉ back.vars ∧
      (front ++ .text ", ").placeAfter .code = .code := by
  refine ⟨((EntryKey.template ⟨.primitive .time, pointer⟩ slot d).body.before
    (.hole .format)).dropLast, ((EntryKey.template ⟨.primitive .time, pointer⟩ slot d).body.behind
    (.hole .format)).tail, ?_⟩
  cases pointer <;> cases slot <;> cases d <;> decide +kernel

/-- A template mentions the packages that it needs, whatever the layout is. -/
theorem isMentionedIn_of_needs {layout : String} (h : (k.template slot d).needs layout p = true) :
    p.isMentionedIn ((k.template slot d).body.fill (blanks layout)) = true := by
  rw [MemberTemplate.needs, Bool.or_eq_true, decide_eq_true_iff] at h
  rcases h with hpackage | hlayout
  · obtain ⟨hp, hwrites⟩ := spells_iff.mp (package?_template.mp hpackage)
    obtain ⟨q, pointer, rfl, hq⟩ := eq_of_package? hp
    obtain ⟨hfront, hplace⟩ := placeAfter_type hq pointer hwrites
    have htype : .text q.spelling ∈ (EntryKey.template ⟨.primitive q, pointer⟩ slot d).body :=
      Style.mem_template (style_type q pointer) hwrites
    rw [← Template.before_append_behind htype]
    refine Template.isMentionedIn_of_rest hfront hplace ?_
    rw [Template.fill_text, String.toList_append]
    exact (Primitive.qualifier_isPrefix_spelling hq).trans (List.prefix_append _ _)
  · obtain ⟨hasks, hqualifies⟩ := Bool.and_eq_true_iff.mp hlayout
    obtain ⟨pointer, rfl⟩ := eq_time_of_asks (Bool.and_eq_true_iff.mp hasks).2
    obtain ⟨front, back, heq, hfront, _, hplace⟩ := exists_layout pointer slot d
    have hformat : .format ∉ (front ++ .text ", ").vars := by
      rw [Template.vars_append]
      simpa [Template.vars] using hfront
    rw [heq]
    refine Template.isMentionedIn_of_rest hformat hplace ?_
    rw [Template.fill_layout, String.toList_append]
    exact (List.isPrefixOf_iff_prefix.mp hqualifies).trans (List.prefix_append _ _)

/-- A template mentions no packages but those that it needs, if the layout is one. -/
theorem needs_of_isMentionedIn {layout : String}
    (hlayout : (k.template slot d).body.asks .format = true → IsLayout layout)
    (h : p.isMentionedIn ((k.template slot d).body.fill (blanks layout)) = true) :
    (k.template slot d).needs layout p = true := by
  by_cases hpackage : (k.template slot d).package? = some p
  · rw [MemberTemplate.needs, decide_eq_true hpackage, Bool.true_or]
  have hquiet : (k.template slot d).body.isQuiet p = true :=
    isQuiet_template fun hwrites => hpackage (package?_template.mpr (spells_iff.mpr hwrites))
  cases hasks : (k.template slot d).body.asks .format with
  | true =>
    obtain ⟨pointer, rfl⟩ := eq_time_of_asks hasks
    obtain ⟨front, back, heq, hfront, hback, hplace⟩ := exists_layout pointer slot d
    rw [heq] at hquiet h
    simp only [Template.isQuiet_append, Bool.and_eq_true] at hquiet
    rw [Template.isMentionedIn_layout hfront hback hplace hquiet.1.1 hquiet.2.2.2] at h
    obtain ⟨htime, hqualifies⟩ := qualifies_of_isMentionedIn (hlayout hasks) h
    rw [MemberTemplate.needs, hasks, hqualifies, decide_eq_true htime]
    exact Bool.or_true _
  | false =>
    have hformat : .format ∉ (k.template slot d).body.vars := by
      rw [Template.mem_vars_iff (k.asksOnly_template slot d), ← List.contains_iff_mem]
      exact fun h => Bool.false_ne_true (hasks.symm.trans h)
    rw [StdPackage.isMentionedIn, Template.fill_blanks hformat,
      StdPackage.mentions_of_isQuietIn (Template.isQuietIn_fill hquiet)] at h
    cases h

end EntryKey

end CodecGen
