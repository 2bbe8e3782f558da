import CodecGen.Package.FromJson
import CodecGen.Proofs.Json.Text
import Mathlib.Data.List.Forall2

/-!
# Declaration documents in JSON

The form in which packages are written as JSON values, with every member present
(`Package.toJson`), and the forms that stand for the same package: members that hold their default
may be left out, and unknown members may be added (`Package.Renders`). Each text of each such form
is read as the package, as long as the full form nests no deeper than the reader goes
(`ofJson?_renders`).
-/

namespace CodecGen

namespace Json

/-! ## Forms of values -/

/-- A text. -/
def ofString (text : String) : Json :=
  string (some text)

/-- A text, or the mark for none. -/
def ofOption : Option String → Json
  | none => null
  | some text => ofString text

/-- A variant with content. -/
def variant (name : String) (content : Json) : Json :=
  object [(some name, content)]

/-- A record. -/
def record (members : List (String × Json)) : Json :=
  object (members.map fun m => (some m.1, m.2))

mutual

/-- How many arrays and objects of a value stand in each other. -/
def nesting : Json → Nat
  | array items => itemsNesting items + 1
  | object members => membersNesting members + 1
  | _ => 0

/-- How deep the items of an array nest. -/
def itemsNesting : List Json → Nat
  | [] => 0
  | v :: items => max v.nesting (itemsNesting items)

/-- How deep the members of an object nest. -/
def membersNesting : List (Option String × Json) → Nat
  | [] => 0
  | (_, v) :: members => max v.nesting (membersNesting members)

end

/-! ## Records with members left out or added -/

/-- A member of a record: its name, what may be written for it, and whether it may be left out. -/
structure Slot where
  name : String
  writes : Json → Prop
  omits : Prop

/-- A value that is written for a member, or that none is. -/
def Slot.Reads (s : Slot) : Option Json → Prop
  | some v => s.writes v
  | none => s.omits

/-- The members of an object that is written for a record: one for each member of the record that
is not left out, in order, and any with names that the record does not know. -/
inductive Fills (known : List String) : List Slot → List (Option String × Json) → Prop
  | nil : Fills known [] []
  | member {s : Slot} {slots : List Slot} {v : Json} {members : List (Option String × Json)}
    (hv : s.writes v) (h : Fills known slots members) :
    Fills known (s :: slots) ((some s.name, v) :: members)
  | omitted {s : Slot} {slots : List Slot} {members : List (Option String × Json)}
    (hs : s.omits) (h : Fills known slots members) : Fills known (s :: slots) members
  | unknown {name : String} {slots : List Slot} {v : Json} {members : List (Option String × Json)}
    (hname : name ∉ known) (h : Fills known slots members) :
    Fills known slots ((some name, v) :: members)

/-- An object is written for a record with the given members. -/
def RendersRecord (slots : List Slot) (v : Json) : Prop :=
  ∃ members, v = object members ∧ Fills (slots.map Slot.name) slots members

/-- An array is written for a list, with items that are written for the items of the list. -/
def RendersList (renders : List Json → Prop) (v : Json) : Prop :=
  ∃ items, v = array items ∧ renders items

end Json

open Json

/-! ## The full form of a package -/

mutual

/-- A type expression as a JSON value. -/
def GoType.toJson : GoType → Json
  | .ident name => variant "ident" (ofString name)
  | .selector qualifier name =>
    variant "selector" (record [("qualifier", qualifier.toJson), ("name", ofString name)])
  | .pointer elem => variant "pointer" elem.toJson
  | .array len elem => variant "array" (record [("len", ofOption len), ("elem", elem.toJson)])
  | .map key value => variant "map" (record [("key", key.toJson), ("value", value.toJson)])
  | .struct fields => variant "struct" (record [("fields", .array (GoType.fieldsToJson fields))])
  | .interface => ofString "interface"
  | .func => ofString "func"
  | .chan elem => variant "chan" (record [("elem", elem.toJson)])

/-- Field lines as JSON values. -/
def GoType.fieldsToJson : List (FieldOf GoType) → List Json
  | [] => []
  | ⟨names, type, tag⟩ :: fields =>
    record [("names", .array (names.map ofString)), ("ty", type.toJson), ("tag", ofOption tag)] ::
      GoType.fieldsToJson fields

end

/-- A declaration as a JSON value. -/
def TypeDecl.toJson (d : TypeDecl) : Json :=
  record [("name", ofString d.name), ("ty", d.type.toJson)]

/-- A package as a JSON value. -/
def Package.toJson (p : Package) : Json :=
  record [("package", ofString p.name), ("types", .array (p.decls.map TypeDecl.toJson))]

/-! ## All forms of a package -/

mutual

/-- A value is written for a type expression. -/
def GoType.Renders : GoType → Json → Prop
  | .ident name, v => v = variant "ident" (ofString name)
  | .selector qualifier name, v => ∃ content, v = variant "selector" content ∧
    RendersRecord [⟨"qualifier", qualifier.Renders, False⟩,
      ⟨"name", (· = ofString name), False⟩] content
  | .pointer elem, v => ∃ content, v = variant "pointer" content ∧ elem.Renders content
  | .array len elem, v => ∃ content, v = variant "array" content ∧
    RendersRecord [⟨"len", (· = ofOption len), len = none⟩, ⟨"elem", elem.Renders, False⟩] content
  | .map key value, v => ∃ content, v = variant "map" content ∧
    RendersRecord [⟨"key", key.Renders, False⟩, ⟨"value", value.Renders, False⟩] content
  | .struct fields, v => ∃ content, v = variant "struct" content ∧
    RendersRecord [⟨"fields", RendersList (GoType.FieldsRender fields), fields = []⟩] content
  | .interface, v => v = ofString "interface"
  | .func, v => v = ofString "func"
  | .chan elem, v => ∃ content, v = variant "chan" content ∧
    RendersRecord [⟨"elem", elem.Renders, False⟩] content

/-- Values are written for field lines. -/
def GoType.FieldsRender : List (FieldOf GoType) → List Json → Prop
  | [], vs => vs = []
  | ⟨names, type, tag⟩ :: fields, vs => ∃ v items, vs = v :: items ∧
    RendersRecord [⟨"names", RendersList (· = names.map ofString), names = []⟩,
      ⟨"ty", type.Renders, False⟩, ⟨"tag", (· = ofOption tag), tag = none⟩] v ∧
    GoType.FieldsRender fields items

end

/-- A value is written for a declaration. -/
def TypeDecl.Renders (d : TypeDecl) : Json → Prop :=
  RendersRecord [⟨"name", (· = ofString d.name), False⟩, ⟨"ty", d.type.Renders, False⟩]

/-- A value is written for a package. -/
def Package.Renders (p : Package) : Json → Prop :=
  RendersRecord [⟨"package", (· = ofString p.name), False⟩,
    ⟨"types", RendersList (List.Forall₂ TypeDecl.Renders p.decls), p.decls = []⟩]

/-! ## Reading records and lists -/

namespace Json

@[simp] theorem nesting_ofString (text : String) : (ofString text).nesting = 0 :=
  rfl

@[simp] theorem nesting_ofOption (text : Option String) : (ofOption text).nesting = 0 := by
  cases text <;> rfl

@[simp] theorem nesting_array (items : List Json) :
    (array items).nesting = itemsNesting items + 1 :=
  rfl

@[simp] theorem nesting_variant (name : String) (content : Json) :
    (variant name content).nesting = content.nesting + 1 := by
  simp [variant, nesting, membersNesting]

@[simp] theorem nesting_record (members : List (String × Json)) :
    (record members).nesting = itemsNesting (members.map Prod.snd) + 1 := by
  unfold record nesting
  induction members with
  | nil => rfl
  | cons m members ih =>
    simp only [Nat.add_right_cancel_iff] at ih ⊢
    simp only [List.map_cons, membersNesting, itemsNesting, ih]

@[simp] theorem itemsNesting_nil : itemsNesting [] = 0 :=
  rfl

@[simp] theorem itemsNesting_cons (v : Json) (items : List Json) :
    itemsNesting (v :: items) = max v.nesting (itemsNesting items) :=
  rfl

/-- A value is found only under a name that some member has. -/
theorem memberOf?_of_unknown {name : String} {members : List (Option String × Json)}
    (h : ∀ m ∈ members, m.1 ≠ some name) : memberOf? members name = some none := by
  unfold memberOf?
  rw [List.filter_eq_nil_iff.mpr (by simpa using h)]

/-- A member before members of other names is the one of its name. -/
theorem memberOf?_cons_self {name : String} {v : Json} {members : List (Option String × Json)}
    (h : ∀ m ∈ members, m.1 ≠ some name) :
    memberOf? ((some name, v) :: members) name = some (some v) := by
  unfold memberOf?
  rw [List.filter_cons_of_pos (by simp), List.filter_eq_nil_iff.mpr (by simpa using h)]

/-- A member of another name makes no difference. -/
theorem memberOf?_cons_ne {name other : String} (hne : other ≠ name) (v : Json)
    (members : List (Option String × Json)) :
    memberOf? ((some other, v) :: members) name = memberOf? members name := by
  unfold memberOf?
  rw [List.filter_cons_of_neg (by simpa using hne)]

section

variable {known : List String} {slots : List Slot} {members : List (Option String × Json)}

/-- All names of members that are written for a record are texts. -/
theorem Fills.isSome (h : Fills known slots members) : ∀ m ∈ members, m.1.isSome = true := by
  induction h with
  | nil => exact fun _ hm => nomatch hm
  | member _ _ ih | unknown _ _ ih => exact List.forall_mem_cons.mpr ⟨rfl, ih⟩
  | omitted _ _ ih => exact ih

/-- A name that the record knows is not added. -/
theorem Fills.ne_of_known (h : Fills known slots members) {name : String} (hknown : name ∈ known)
    (hname : name ∉ slots.map Slot.name) : ∀ m ∈ members, m.1 ≠ some name := by
  induction h with
  | nil => exact fun _ hm => nomatch hm
  | member _ _ ih =>
    rw [List.map_cons, List.mem_cons, not_or] at hname
    refine List.forall_mem_cons.mpr ⟨?_, ih hname.2⟩
    exact fun hsame => hname.1 (Option.some.inj hsame).symm
  | omitted _ _ ih => exact ih fun hmem => hname (List.mem_cons_of_mem _ hmem)
  | unknown hother _ ih =>
    refine List.forall_mem_cons.mpr ⟨?_, ih hname⟩
    rintro hsame
    cases hsame
    exact hother hknown

/-- Each member of the record is found once or left out. -/
theorem Fills.memberOf? (h : Fills known slots members)
    (hknown : ∀ s ∈ slots, s.name ∈ known) (hnodup : (slots.map Slot.name).Nodup) :
    ∀ s ∈ slots, ∃ v, Json.memberOf? members s.name = some v ∧ s.Reads v := by
  induction h with
  | nil => exact fun _ hs => nomatch hs
  | @member s slots v members hv h ih =>
    obtain ⟨hs, hnodup⟩ := List.nodup_cons.mp hnodup
    obtain ⟨hself, hknown⟩ := List.forall_mem_cons.mp hknown
    refine List.forall_mem_cons.mpr ⟨⟨some v, memberOf?_cons_self (h.ne_of_known hself hs), hv⟩, ?_⟩
    intro t ht
    have hne : s.name ≠ t.name := fun hsame => hs (hsame ▸ List.mem_map_of_mem ht)
    rw [memberOf?_cons_ne hne]
    exact ih hknown hnodup t ht
  | @omitted s slots members homits h ih =>
    obtain ⟨hs, hnodup⟩ := List.nodup_cons.mp hnodup
    obtain ⟨hself, hknown⟩ := List.forall_mem_cons.mp hknown
    exact List.forall_mem_cons.mpr
      ⟨⟨none, memberOf?_of_unknown (h.ne_of_known hself hs), homits⟩, ih hknown hnodup⟩
  | @unknown name slots v members hname h ih =>
    intro s hs
    have hne : name ≠ s.name := fun hsame => hname (hsame ▸ hknown s hs)
    rw [memberOf?_cons_ne hne]
    exact ih hknown hnodup s hs

end

/-- The values of a record are found in each object that is written for it. -/
theorem record?_renders {slots : List Slot} {v : Json} (depth : Nat) (h : RendersRecord slots v)
    (hnodup : (slots.map Slot.name).Nodup) (hdepth : 0 < depth) :
    ∃ values, docView.record (slots.map Slot.name) ⟨v, depth⟩ =
        some (values.map (Option.map fun v => ⟨v, depth - 1⟩)) ∧
      List.Forall₂ Slot.Reads slots values := by
  obtain ⟨members, rfl, hfills⟩ := h
  -- the names differ, so each member is found under its own, whatever else is there
  have hfound := hfills.memberOf? (fun s hs => List.mem_map_of_mem hs) hnodup
  have hvalues : ∀ ss : List Slot,
      (∀ s ∈ ss, ∃ v, Json.memberOf? members s.name = some v ∧ s.Reads v) →
      ∃ values, (ss.map Slot.name).mapM (Json.memberOf? members) = some values ∧
        List.Forall₂ Slot.Reads ss values := by
    intro ss
    induction ss with
    | nil => exact fun _ => ⟨[], rfl, .nil⟩
    | cons s ss ih =>
      intro hss
      obtain ⟨⟨v, hv, hreads⟩, hss⟩ := List.forall_mem_cons.mp hss
      obtain ⟨values, hvalues, hall⟩ := ih hss
      exact ⟨v :: values, by simp [hv, hvalues], .cons hreads hall⟩
  obtain ⟨values, hvalues, hall⟩ := hvalues slots hfound
  refine ⟨values, ?_, hall⟩
  have hisSome : members.all (·.1.isSome) = true := List.all_eq_true.mpr hfills.isSome
  have hrecord : record? (slots.map Slot.name) ⟨object members, depth⟩ =
      some (values.map (Option.map fun v => ⟨v, depth - 1⟩)) := by
    simp only [record?, values?, hisSome, hvalues, DocNode.enter, if_true,
      if_neg (Nat.pos_iff_ne_zero.mp hdepth)]
    rfl
  exact hrecord

/-- A member that may not be left out has a value. -/
theorem Slot.Reads.exists {name : String} {writes : Json → Prop} {v : Option Json}
    (h : Slot.Reads ⟨name, writes, False⟩ v) : ∃ w, v = some w ∧ writes w :=
  match v, h with
  | some w, h => ⟨w, rfl, h⟩

/-- The texts of a list are read. -/
theorem mapM_text (depth : Nat) (texts : List String) :
    ((texts.map ofString).map fun v => (⟨v, depth⟩ : DocNode Json)).mapM docView.text =
      some texts := by
  induction texts with
  | nil => rfl
  | cons text texts ih =>
    have htext : docView.text (⟨ofString text, depth⟩ : DocNode Json) = some text := rfl
    simp only [List.map_cons, List.mapM_cons, htext, ih]
    rfl

/-- A text, or the mark for none, is read as what it was written for. -/
theorem optionalText_ofOption (depth : Nat) (text : Option String) :
    docView.optionalText (⟨ofOption text, depth⟩ : DocNode Json) = some text := by
  cases text <;> rfl

/-- A variant is read as its name and content, one level deeper. -/
theorem variant_variant (name : String) (content : Json) {depth : Nat} (h : 0 < depth) :
    docView.variant ⟨variant name content, depth⟩ =
      some (name, some ⟨content, depth - 1⟩) := by
  simp [docView, variant?, variant, DocNode.enter, Nat.pos_iff_ne_zero.mp h, DocNode.within]

/-- An array is read as its items, one level deeper. -/
theorem list_array (items : List Json) {depth : Nat} (h : 0 < depth) :
    docView.list ⟨array items, depth⟩ =
      some (items.map fun v => (⟨v, depth - 1⟩ : DocNode Json)) := by
  simp [docView, list?, DocNode.enter, Nat.pos_iff_ne_zero.mp h, DocNode.within]

/-- A text that may be left out or marked as none is read. -/
theorem textOrNone_reads {name : String} {text : Option String} {v : Option Json} (depth : Nat)
    (h : Slot.Reads ⟨name, (· = ofOption text), text = none⟩ v) :
    docView.textOrNone (v.map fun v => ⟨v, depth⟩) = some text := by
  match v, h with
  | none, h =>
    obtain rfl : text = none := h
    rfl
  | some _, rfl => exact optionalText_ofOption depth text

/-- A list that may be left out is read, if its items are. -/
theorem listOrEmpty_reads {α : Type} {name : String} {xs : List α} {renders : List Json → Prop}
    {item : DocNode Json → Option α} {v : Option Json} {depth : Nat} (hdepth : 0 < depth)
    (h : Slot.Reads ⟨name, RendersList renders, xs = []⟩ v)
    (hitems : ∀ items, renders items →
      (items.map fun v => (⟨v, depth - 1⟩ : DocNode Json)).mapM item = some xs) :
    docView.listOrEmpty item (v.map fun v => ⟨v, depth⟩) = some xs := by
  match v, h with
  | none, h =>
    obtain rfl : xs = [] := h
    rfl
  | some _, ⟨items, rfl, h⟩ =>
    simp only [Option.map_some, DocView.listOrEmpty, list_array items hdepth,
      Option.bind_eq_bind, Option.bind_some]
    exact hitems items h

end Json

/-! ## Reading packages -/

mutual

/-- A type expression is read from each value that is written for it, where the full one nests no
deeper than the reader goes. -/
theorem GoType.type_renders (t : GoType) {v : Json} {depth levels : Nat} (h : t.Renders v)
    (hdepth : t.toJson.nesting ≤ depth) (hlevels : depth < levels) :
    docView.type levels ⟨v, depth⟩ = some t := by
  cases levels with
  | zero => omega
  | succ levels =>
    -- the depth falls as fast as the levels: by one for a variant, and by one more for a record
    match t with
    | .interface | .func =>
      cases h
      rfl
    | .ident name =>
      cases h
      simp only [GoType.toJson, nesting_variant] at hdepth
      rw [DocView.type, variant_variant _ _ (by omega)]
      rfl
    | .pointer elem =>
      obtain ⟨content, rfl, h⟩ := h
      simp only [GoType.toJson, nesting_variant] at hdepth
      have hread : docView.type levels ⟨content, depth - 1⟩ = some elem :=
        elem.type_renders h (by omega) (by omega)
      rw [DocView.type, variant_variant _ _ (by omega)]
      simp [hread]
    | .selector qualifier name =>
      obtain ⟨content, rfl, h⟩ := h
      simp only [GoType.toJson, nesting_variant, nesting_record, List.map_cons, List.map_nil,
        itemsNesting_cons, itemsNesting_nil] at hdepth
      obtain ⟨values, hrecord, hall⟩ := record?_renders (depth - 1) h (by simp) (by omega)
      match values, hall with
      | [q, n], .cons hq (.cons hn .nil) =>
        obtain ⟨q, rfl, hq⟩ := hq.exists
        obtain ⟨_, rfl, rfl⟩ := hn.exists
        have hread : docView.type levels ⟨q, depth - 1 - 1⟩ = some qualifier :=
          qualifier.type_renders hq (by omega) (by omega)
        rw [DocView.type, variant_variant _ _ (by omega)]
        simp only [List.map_cons, List.map_nil, Option.map_some] at hrecord
        simp only [hrecord, hread, Option.bind_eq_bind, Option.bind_some]
        rfl
    | .array len elem =>
      obtain ⟨content, rfl, h⟩ := h
      simp only [GoType.toJson, nesting_variant, nesting_record, List.map_cons, List.map_nil,
        itemsNesting_cons, itemsNesting_nil] at hdepth
      obtain ⟨values, hrecord, hall⟩ := record?_renders (depth - 1) h (by simp) (by omega)
      match values, hall with
      | [l, e], .cons hl (.cons he .nil) =>
        obtain ⟨e, rfl, he⟩ := he.exists
        have hread : docView.type levels ⟨e, depth - 1 - 1⟩ = some elem :=
          elem.type_renders he (by omega) (by omega)
        rw [DocView.type, variant_variant _ _ (by omega)]
        simp only [List.map_cons, List.map_nil, Option.map_some] at hrecord
        simp only [hrecord, hread, textOrNone_reads _ hl, Option.bind_eq_bind, Option.bind_some]
        rfl
    | .map key value =>
      obtain ⟨content, rfl, h⟩ := h
      simp only [GoType.toJson, nesting_variant, nesting_record, List.map_cons, List.map_nil,
        itemsNesting_cons, itemsNesting_nil] at hdepth
      obtain ⟨values, hrecord, hall⟩ := record?_renders (depth - 1) h (by simp) (by omega)
      match values, hall with
      | [k, e], .cons hk (.cons he .nil) =>
        obtain ⟨k, rfl, hk⟩ := hk.exists
        obtain ⟨e, rfl, he⟩ := he.exists
        have hkey : docView.type levels ⟨k, depth - 1 - 1⟩ = some key :=
          key.type_renders hk (by omega) (by omega)
        have hvalue : docView.type levels ⟨e, depth - 1 - 1⟩ = some value :=
          value.type_renders he (by omega) (by omega)
        rw [DocView.type, variant_variant _ _ (by omega)]
        simp only [List.map_cons, List.map_nil, Option.map_some] at hrecord
        simp only [hrecord, hkey, hvalue, Option.bind_eq_bind, Option.bind_some]
        rfl
    | .chan elem =>
      obtain ⟨content, rfl, h⟩ := h
      simp only [GoType.toJson, nesting_variant, nesting_record, List.map_cons, List.map_nil,
        itemsNesting_cons, itemsNesting_nil] at hdepth
      obtain ⟨values, hrecord, hall⟩ := record?_renders (depth - 1) h (by simp) (by omega)
      match values, hall with
      | [e], .cons he .nil =>
        obtain ⟨e, rfl, he⟩ := he.exists
        have hread : docView.type levels ⟨e, depth - 1 - 1⟩ = some elem :=
          elem.type_renders he (by omega) (by omega)
        rw [DocView.type, variant_variant _ _ (by omega)]
        simp only [List.map_cons, List.map_nil, Option.map_some] at hrecord
        simp only [hrecord, hread, Option.bind_eq_bind, Option.bind_some]
        rfl
    | .struct fields =>
      obtain ⟨content, rfl, h⟩ := h
      simp only [GoType.toJson, nesting_variant, nesting_record, List.map_cons, List.map_nil,
        itemsNesting_cons, itemsNesting_nil, nesting_array] at hdepth
      obtain ⟨values, hrecord, hall⟩ := record?_renders (depth - 1) h (by simp) (by omega)
      match values, hall with
      | [f], .cons hf .nil =>
        have hread : docView.listOrEmpty (docView.field (docView.type levels))
            (f.map fun v => ⟨v, depth - 1 - 1⟩) = some fields :=
          listOrEmpty_reads (by omega) hf fun items hitems =>
            GoType.fields_render fields hitems (by omega) (by omega)
        rw [DocView.type, variant_variant _ _ (by omega)]
        simp only [List.map_cons, List.map_nil] at hrecord
        simp only [hrecord, hread, Option.bind_eq_bind, Option.bind_some]
        rfl

/-- Field lines are read from each list of values that is written for them. -/
theorem GoType.fields_render (fields : List (FieldOf GoType)) {items : List Json}
    {depth levels : Nat} (h : GoType.FieldsRender fields items)
    (hdepth : itemsNesting (GoType.fieldsToJson fields) ≤ depth) (hlevels : depth < levels) :
    (items.map fun v => (⟨v, depth⟩ : DocNode Json)).mapM (docView.field (docView.type levels)) =
      some fields := by
  match fields with
  | [] =>
    cases h
    rfl
  | ⟨names, type, tag⟩ :: fields =>
    obtain ⟨v, items, rfl, h, hlater⟩ := h
    simp [GoType.fieldsToJson] at hdepth
    obtain ⟨values, hrecord, hall⟩ := record?_renders depth h (by simp) (by omega)
    match values, hall with
    | [n, t, g], .cons hn (.cons ht (.cons hg .nil)) =>
      obtain ⟨t, rfl, ht⟩ := ht.exists
      have hread : docView.type levels ⟨t, depth - 1⟩ = some type :=
        type.type_renders ht (by omega) (by omega)
      have hnames : docView.listOrEmpty docView.text (n.map fun v => ⟨v, depth - 1⟩) =
          some names := by
        refine listOrEmpty_reads (by omega) hn ?_
        rintro _ rfl
        exact mapM_text _ names
      have hfield : docView.field (docView.type levels) ⟨v, depth⟩ = some ⟨names, type, tag⟩ := by
        simp only [List.map_cons, List.map_nil, Option.map_some] at hrecord
        simp only [DocView.field, hrecord, hnames, hread, textOrNone_reads _ hg,
          Option.bind_eq_bind, Option.bind_some]
        rfl
      have hfields : (items.map fun v => (⟨v, depth⟩ : DocNode Json)).mapM
          (docView.field (docView.type levels)) = some fields :=
        GoType.fields_render fields hlater (by omega) hlevels
      simp only [List.map_cons, List.mapM_cons, hfield, hfields]
      rfl

end

/-- A declaration is read from each value that is written for it. -/
theorem TypeDecl.decl_renders (d : TypeDecl) {v : Json} {depth levels : Nat} (h : d.Renders v)
    (hdepth : d.toJson.nesting ≤ depth) (hlevels : depth < levels) :
    docView.decl levels ⟨v, depth⟩ = some d := by
  simp [TypeDecl.toJson] at hdepth
  obtain ⟨values, hrecord, hall⟩ := record?_renders depth h (by simp) (by omega)
  match values, hall with
  | [n, t], .cons hn (.cons ht .nil) =>
    obtain ⟨_, rfl, rfl⟩ := hn.exists
    obtain ⟨t, rfl, ht⟩ := ht.exists
    have hread : docView.type levels ⟨t, depth - 1⟩ = some d.type :=
      d.type.type_renders ht (by omega) (by omega)
    simp only [List.map_cons, List.map_nil, Option.map_some] at hrecord
    simp only [DocView.decl, hrecord, hread, Option.bind_eq_bind, Option.bind_some]
    rfl

/-- Declarations are read from values that are written for them in order. -/
theorem decls_render {decls : List TypeDecl} {items : List Json} {depth levels : Nat}
    (h : List.Forall₂ TypeDecl.Renders decls items)
    (hdepth : itemsNesting (decls.map TypeDecl.toJson) ≤ depth) (hlevels : depth < levels) :
    (items.map fun v => (⟨v, depth⟩ : DocNode Json)).mapM (docView.decl levels) = some decls := by
  induction h with
  | nil => rfl
  | @cons d v decls items hd _ ih =>
    simp only [List.map_cons, itemsNesting_cons, Nat.max_le] at hdepth
    simp only [List.map_cons, List.mapM_cons, d.decl_renders hd hdepth.1 hlevels, ih hdepth.2]
    rfl

/-- A package is read from each value that is written for it, where the full one nests no deeper
than the reader goes. -/
theorem Package.package_renders (p : Package) {v : Json} {depth levels : Nat} (h : p.Renders v)
    (hdepth : p.toJson.nesting ≤ depth) (hlevels : depth < levels) :
    docView.package levels ⟨v, depth⟩ = some p := by
  simp [Package.toJson] at hdepth
  obtain ⟨values, hrecord, hall⟩ := record?_renders depth h (by simp) (by omega)
  match values, hall with
  | [n, t], .cons hn (.cons ht .nil) =>
    obtain ⟨_, rfl, rfl⟩ := hn.exists
    have hread : docView.listOrEmpty (docView.decl levels) (t.map fun v => ⟨v, depth - 1⟩) =
        some p.decls :=
      listOrEmpty_reads (by omega) ht fun items hitems =>
        decls_render hitems (by omega) (by omega)
    simp only [List.map_cons, List.map_nil, Option.map_some] at hrecord
    simp only [DocView.package, hrecord, hread, Option.bind_eq_bind, Option.bind_some]
    rfl

/-! ## The full form -/

/-- A text or the mark for none has all its texts. -/
theorem hasTexts_ofOption (text : Option String) : (ofOption text).HasTexts := by
  cases text with
  | none => trivial
  | some text => rfl

/-- A list has all its texts if what is written for each item does. -/
theorem itemsHaveTexts_map {α : Type} {f : α → Json} (hf : ∀ x, (f x).HasTexts) (xs : List α) :
    ItemsHaveTexts (xs.map f) := by
  induction xs with
  | nil => trivial
  | cons x xs ih => exact ⟨hf x, ih⟩

mutual

/-- The full form of a type expression is written for it. -/
theorem GoType.renders_toJson (t : GoType) : t.Renders t.toJson := by
  match t with
  | .interface | .func | .ident _ => rfl
  | .pointer elem => exact ⟨_, rfl, elem.renders_toJson⟩
  | .selector qualifier _ =>
    exact ⟨_, rfl, _, rfl, .member qualifier.renders_toJson (.member rfl .nil)⟩
  | .array _ elem => exact ⟨_, rfl, _, rfl, .member rfl (.member elem.renders_toJson .nil)⟩
  | .map key value =>
    exact ⟨_, rfl, _, rfl, .member key.renders_toJson (.member value.renders_toJson .nil)⟩
  | .struct fields =>
    exact ⟨_, rfl, _, rfl, .member ⟨_, rfl, GoType.fieldsRender_toJson fields⟩ .nil⟩
  | .chan elem => exact ⟨_, rfl, _, rfl, .member elem.renders_toJson .nil⟩

/-- The full forms of fields are written for them. -/
theorem GoType.fieldsRender_toJson (fields : List (FieldOf GoType)) :
    GoType.FieldsRender fields (GoType.fieldsToJson fields) := by
  match fields with
  | [] => rfl
  | ⟨_, type, _⟩ :: fields =>
    exact ⟨_, _, rfl,
      ⟨_, rfl, .member ⟨_, rfl, rfl⟩ (.member type.renders_toJson (.member rfl .nil))⟩,
      GoType.fieldsRender_toJson fields⟩

end

mutual

/-- The full form of a type expression has all its texts. -/
theorem GoType.hasTexts_toJson (t : GoType) : t.toJson.HasTexts := by
  match t with
  | .interface | .func => rfl
  | .ident _ => exact ⟨rfl, rfl, trivial⟩
  | .pointer elem => exact ⟨rfl, elem.hasTexts_toJson, trivial⟩
  | .selector qualifier _ =>
    exact ⟨rfl, ⟨rfl, qualifier.hasTexts_toJson, rfl, rfl, trivial⟩, trivial⟩
  | .array len elem =>
    exact ⟨rfl, ⟨rfl, hasTexts_ofOption len, rfl, elem.hasTexts_toJson, trivial⟩, trivial⟩
  | .map key value =>
    exact ⟨rfl, ⟨rfl, key.hasTexts_toJson, rfl, value.hasTexts_toJson, trivial⟩, trivial⟩
  | .struct fields => exact ⟨rfl, ⟨rfl, GoType.itemsHaveTexts_fields fields, trivial⟩, trivial⟩
  | .chan elem => exact ⟨rfl, ⟨rfl, elem.hasTexts_toJson, trivial⟩, trivial⟩

/-- The full forms of fields have all their texts. -/
theorem GoType.itemsHaveTexts_fields (fields : List (FieldOf GoType)) :
    ItemsHaveTexts (GoType.fieldsToJson fields) := by
  match fields with
  | [] => trivial
  | ⟨names, type, tag⟩ :: fields =>
    exact ⟨⟨rfl, itemsHaveTexts_map (f := ofString) (fun _ => rfl) names, rfl,
      type.hasTexts_toJson, rfl, hasTexts_ofOption tag, trivial⟩,
      GoType.itemsHaveTexts_fields fields⟩

end

/-- The full form of a declaration is written for it. -/
theorem TypeDecl.renders_toJson (d : TypeDecl) : d.Renders d.toJson :=
  ⟨_, rfl, .member rfl (.member d.type.renders_toJson .nil)⟩

/-- The full form of a declaration has all its texts. -/
theorem TypeDecl.hasTexts_toJson (d : TypeDecl) : d.toJson.HasTexts :=
  ⟨rfl, rfl, rfl, d.type.hasTexts_toJson, trivial⟩

namespace Package

/-- The full form is one of the forms of a package. -/
theorem renders_toJson (p : Package) : p.Renders p.toJson := by
  have hdecls : List.Forall₂ TypeDecl.Renders p.decls (p.decls.map TypeDecl.toJson) := by
    rw [List.forall₂_map_right_iff]
    exact List.forall₂_same.mpr fun d _ => d.renders_toJson
  exact ⟨_, rfl, .member rfl (.member ⟨_, rfl, hdecls⟩ .nil)⟩

/-- The full form of a package has all its texts. -/
theorem hasTexts_toJson (p : Package) : p.toJson.HasTexts :=
  ⟨rfl, rfl, rfl, itemsHaveTexts_map TypeDecl.hasTexts_toJson p.decls, trivial⟩

/-- The document that is printed for a package. -/
def document (p : Package) : String :=
  String.ofList p.toJson.print

/-- A package is read back from each text of each value that is written for it, where the full one
nests no deeper than the reader goes. The document that is printed for the package is such a
text. -/
theorem ofJson?_renders (p : Package) (hdepth : p.toJson.nesting ≤ maxJsonDepth) :
    ofJson? p.document = some p ∧
      (p.Renders p.toJson ∧ p.toJson.IsTextOf p.document) ∧
      ∀ v text, p.Renders v → v.IsTextOf text → ofJson? text = some p := by
  have hread : ∀ v text, p.Renders v → v.IsTextOf text → ofJson? text = some p := by
    intro v text hv htext
    unfold ofJson?
    rw [ofText?_writes htext]
    exact p.package_renders hv hdepth (Nat.lt_succ_self _)
  have htext : p.toJson.IsTextOf p.document := isTextOf_print p.hasTexts_toJson
  exact ⟨hread _ _ p.renders_toJson htext, ⟨p.renders_toJson, htext⟩, hread⟩

/-- A package with one type, of pointers inside each other. -/
def pointers (count : Nat) : Package :=
  ⟨"p", [⟨"T", count.repeat GoType.pointer (.ident "T")⟩]⟩

/-- As deep as the reader goes. -/
theorem ofJson?_renders_pointers :
    (pointers 123).toJson.nesting ≤ maxJsonDepth ∧
      ofJson? (pointers 123).document = some (pointers 123) := by
  have hdepth : (pointers 123).toJson.nesting ≤ maxJsonDepth := by decide +kernel
  exact ⟨hdepth, (ofJson?_renders _ hdepth).1⟩

/-- The reader does not go 128 levels deep. -/
theorem ofJson?_deep : ¬ ∀ p : Package, p.toJson.nesting ≤ 128 → ofJson? p.document = some p := by
  intro h
  have hdepth : (pointers 124).toJson.nesting ≤ 128 := by decide +kernel
  have hread := h _ hdepth
  unfold ofJson? document at hread
  rw [ofText?_writes (isTextOf_print (hasTexts_toJson _))] at hread
  have hnone : (docView.package (maxJsonDepth + 1) ⟨(pointers 124).toJson, maxJsonDepth⟩).isNone =
      true := by
    decide +kernel
  rw [Option.bind_eq_bind, Option.bind_some] at hread
  rw [hread] at hnone
  cases hnone

end Package

end CodecGen
