import CodecGen.Template.Frame
import CodecGen.Template.Member
import Mathlib.Tactic.FinCases

/-!
# What templates are filled with

A template with its holes filled is its fixed texts with the values between them, each value as it
stands and once for each of its holes (`Template.render?_eq_fill`). Member templates and frames have
holes for nothing but what they are given values for (`EntryKey.asksOnly_template`,
`Frame.asksOnly_template`).
-/

namespace CodecGen

/-! ## Filling -/

/-- The piece is fixed text, or a hole for one of the given values. -/
def Piece.asksOnly (supplied : List Var) : Piece → Bool
  | text _ => true
  | hole var => supplied.contains var
  | importLines _ => false

namespace Template

/-- The template has holes for the given values only. -/
def asksOnly (t : Template) (supplied : List Var) : Bool :=
  t.all (Piece.asksOnly supplied)

/-- The values that a template asks for, each as often as it has a hole for it. -/
def vars : Template → List Var
  | [] => []
  | .text _ :: t => vars t
  | .hole var :: t | .importLines var :: t => var :: vars t

/-- Fixed texts with values put between them. -/
def weave : List String → List String → String
  | [], _ => ""
  | s :: ss, values => s ++ values.headD "" ++ weave ss values.tail

/-- The fixed texts of a template with the values that it asks for between them. -/
def fill (t : Template) (value : Var → String) : String :=
  weave t.fixed (t.vars.map value)

/-- Every template has a first fixed text, if only an empty one. -/
theorem fixed_ne_nil (t : Template) : fixed t ≠ [] := by
  cases t with
  | nil => simp [fixed]
  | cons p t => cases p <;> simp [fixed]

/-- There is one value between any two fixed texts. -/
theorem length_fixed (t : Template) : t.fixed.length = t.vars.length + 1 := by
  induction t with
  | nil => rfl
  | cons p t ih =>
    cases p with
    | text s =>
      simp only [fixed, vars, List.length_cons, List.length_tail]
      omega
    | hole var | importLines var => simp only [fixed, vars, List.length_cons, ih]

/-- More text before the first fixed text stands before the whole. -/
theorem weave_text {ss : List String} (h : ss ≠ []) (s : String) (values : List String) :
    weave ((s ++ ss.headD "") :: ss.tail) values = s ++ weave ss values := by
  cases ss with
  | nil => exact absurd rfl h
  | cons s' ss => simp [weave, String.append_assoc]

variable (t u : Template) (value : Var → String)

@[simp] theorem fill_nil : fill [] value = "" := rfl

@[simp] theorem fill_text (s : String) : fill (.text s :: t) value = s ++ fill t value :=
  weave_text (fixed_ne_nil t) s _

/-- A hole is filled with its value, before the rest. -/
@[simp] theorem fill_hole (var : Var) :
    fill (.hole var :: t) value = value var ++ fill t value := by
  simp [fill, fixed, vars, weave]

/-- What is filled into lines of imports stands there as it is. -/
@[simp] theorem fill_importLines (var : Var) :
    fill (.importLines var :: t) value = value var ++ fill t value := by
  simp [fill, fixed, vars, weave]

/-- Templates one after another are filled one after another. -/
theorem fill_append : fill (t ++ u) value = fill t value ++ fill u value := by
  induction t with
  | nil => simp
  | cons p t ih => cases p <;> simp [ih, String.append_assoc]

variable {t value}

/-- Only the values that a template asks for matter. -/
theorem fill_congr {value' : Var → String} (h : ∀ var ∈ t.vars, value var = value' var) :
    t.fill value = t.fill value' := by
  unfold fill
  rw [List.map_congr_left h]

/-- A template with holes for given values only asks for one of these. -/
theorem mem_of_asksOnly {supplied : List Var} (h : t.asksOnly supplied = true) {var : Var}
    (hvar : var ∈ t.vars) : var ∈ supplied := by
  induction t with
  | nil => cases hvar
  | cons p t ih =>
    simp only [asksOnly, List.all_cons, Bool.and_eq_true] at h
    obtain ⟨hp, ht⟩ := h
    cases p with
    | text s => exact ih ht hvar
    | hole var' =>
      rcases List.mem_cons.mp hvar with rfl | hvar
      · exact List.contains_iff_mem.mp hp
      · exact ih ht hvar
    | importLines var' => cases hp

/-- Where every value that a template asks for is supplied, the template has a text. -/
theorem render?_eq_fill {env : Env} {supplied : List Var}
    (hasks : t.asksOnly supplied = true)
    (henv : ∀ var ∈ supplied, (env var).map Value.render = some (value var)) :
    t.render? env = some (t.fill value) := by
  induction t with
  | nil => rfl
  | cons p t ih =>
    simp only [asksOnly, List.all_cons, Bool.and_eq_true] at hasks
    obtain ⟨hp, ht⟩ := hasks
    rw [render?_cons, ih ht]
    cases p with
    | text s =>
      rw [fill_text]
      rfl
    | hole var =>
      have hvar : Piece.render? env (.hole var) = some (value var) :=
        henv var (List.contains_iff_mem.mp hp)
      rw [hvar, fill_hole]
      rfl
    | importLines var => cases hp

end Template

/-! ## Member templates -/

/-- The value of a member that a hole asks for. -/
def MemberInput.value (i : MemberInput) : Var → String
  | .field => i.field
  | .key => i.key
  | .omitEmpty => i.omitEmpty
  | .format => i.layout
  | .typeName => i.concrete.getD i.owner
  | .owner => i.owner
  | _ => ""

/-- The values that a record carries for members in a slot. -/
def Builder.supplied (b : Builder) (slot : Slot) : List Var :=
  (if slot = .field then [.field, .key, .omitEmpty] else [.owner]) ++
    match b with
    | .basic => []
    | .time => [.format]
    | .named => [.typeName]

/-- A record carries the values of its member. -/
theorem Builder.env_params {b : Builder} {i : MemberInput} {var : Var}
    (h : var ∈ b.supplied i.slot) : (b.params i).env var = some (.text (i.value var)) := by
  obtain ⟨slot, _, _, _, _, _, _⟩ := i
  cases slot <;> cases b <;> fin_cases h <;> rfl

/-- No slot is missing from the list of all slots. -/
theorem Slot.mem_all (slot : Slot) : slot ∈ Slot.all := by
  cases slot <;> decide

/-- No template of an entry asks for anything that its record does not carry. -/
theorem EntryKey.asksOnly_template (k : EntryKey) (slot : Slot) (d : Direction) :
    (k.template slot d).body.asksOnly ((k.template slot d).builder.supplied slot) = true := by
  have hall : ∀ k ∈ EntryKey.all, ∀ slot ∈ Slot.all, ∀ d ∈ [Direction.marshal, .unmarshal],
      (k.template slot d).body.asksOnly ((k.template slot d).builder.supplied slot) = true := by
    decide +kernel
  exact hall k k.mem_all slot slot.mem_all d (by cases d <;> decide)

/-- The text of a member template is the template filled with what is known about the member. -/
theorem MemberTemplate.render?_eq_fill (k : EntryKey) (d : Direction) (i : MemberInput) :
    (k.template i.slot d).render? i = some ((k.template i.slot d).body.fill i.value) := by
  refine Template.render?_eq_fill (k.asksOnly_template i.slot d) ?_
  intro var hvar
  rw [Builder.env_params hvar]
  simp [Value.render]

/-! ## Frames -/

/-- The values that code for declarations gives to a frame. -/
def Frame.supplied : Frame → List Var
  | .header => [.package, .importPath, .imports]
  | .case => [.typeName, .key]
  | .structNKeys => [.typeName, .nKeys]
  | _ => [.typeName]

/-- No frame around the code for members asks for anything that it is not given. -/
theorem Frame.asksOnly_template {f : Frame} (h : f ≠ .header) :
    f.template.asksOnly f.supplied = true := by
  cases f with
  | header => exact absurd rfl h
  | _ => decide +kernel

end CodecGen
