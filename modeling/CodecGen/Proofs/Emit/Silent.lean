import CodecGen.Proofs.Emit.Kinds

/-!
# Fields that take no part

Embedded fields, and fields whose tag hides them from both directions, leave no trace in the code:
it stays the same when such a field is changed, put in or taken out (`emitStruct_same`), and so does
the whole report (`generate_silentEdit`).
-/

namespace CodecGen

open Drive

/-! ## Computations that write the same -/

/-- Two computations write the same code and end alike; their notes may differ. -/
structure Drive.Same {α : Type} (x y : Drive α) : Prop where
  /-- The code that is written. -/
  code : x.code = y.code
  /-- The value, or why there is none. -/
  result : x.result = y.result

namespace Drive

variable {α β : Type} {x y z : Drive α}

/-- Every computation writes the same as itself. -/
theorem Same.refl (x : Drive α) : Same x x :=
  ⟨rfl, rfl⟩

/-- It does not matter which of two computations is named first. -/
theorem Same.symm (h : Same x y) : Same y x :=
  ⟨h.code.symm, h.result.symm⟩

/-- What writes the same as a third computation writes the same as each other. -/
theorem Same.trans (h : Same x y) (h' : Same y z) : Same x z :=
  ⟨h.code.trans h'.code, h.result.trans h'.result⟩

/-- Sequences write the same whose parts do. -/
theorem Same.bind {f g : α → Drive β} (h : Same x y) (hf : ∀ a, Same (f a) (g a)) :
    Same (x >>= f) (y >>= g) := by
  show Same (Drive.bind x f) (Drive.bind y g)
  unfold Drive.bind
  rw [h.result, h.code]
  cases y.result with
  | error e => exact ⟨rfl, rfl⟩
  | ok a => exact ⟨congrArg (y.code ++ ·) (hf a).code, (hf a).result⟩

/-- What begins alike writes the same if the rest does. -/
theorem Same.after {f g : α → Drive β} (x : Drive α) (hf : ∀ a, Same (f a) (g a)) :
    Same (x >>= f) (x >>= g) :=
  (Same.refl x).bind hf

/-- A note before a computation changes nothing that is written. -/
theorem same_note (level : Level) (text : String) (x : Drive α) :
    Same (note level text >>= fun _ => x) x :=
  ⟨rfl, rfl⟩

/-- Notes before a computation change nothing that is written. -/
theorem same_leave (notes : List Note) (x : Drive α) : Same (leave notes >>= fun _ => x) x :=
  ⟨rfl, rfl⟩

/-- Only the notes differ. -/
theorem same_leave_leave (notes notes' : List Note) : Same (leave notes) (leave notes') :=
  ⟨rfl, rfl⟩

/-- Notes write the same, namely nothing. -/
theorem same_note_note (level level' : Level) (text text' : String) :
    Same (note level text) (note level' text') :=
  ⟨rfl, rfl⟩

end Drive

/-! ## Fields -/

/-- The tag hides its field in both directions. -/
def TagRules.hidesBoth (r : TagRules) (tag : Option String) : Bool :=
  (r.policy tag).hides .marshal && (r.policy tag).hides .unmarshal

/-- A tag that hides its field in both directions hides it in each. -/
theorem TagRules.hides_of_hidesBoth {r : TagRules} {tag : Option String}
    (h : r.hidesBoth tag = true) :
    (r.policy tag).hideMarshal = true ∧ (r.policy tag).hideUnmarshal = true :=
  Bool.and_eq_true_iff.mp h

/-- The visit to a field leads to no code. -/
def FieldVisit.isSilent (r : TagRules) : FieldVisit → Bool
  | .embedded _ => true
  | .named _ field => r.hidesBoth field.tag

/-- The visits to fields that may lead to code. -/
def audible (r : TagRules) (visits : List FieldVisit) : List FieldVisit :=
  visits.filter fun visit => !visit.isSilent r

section

variable {r : TagRules} {visit : FieldVisit}

/-- A silent visit is passed over. -/
theorem audible_cons_of_silent (h : visit.isSilent r = true) (visits : List FieldVisit) :
    audible r (visit :: visits) = audible r visits :=
  List.filter_cons_of_neg (by simp [h])

/-- Any other visit is kept. -/
theorem audible_cons_of_not_silent (h : visit.isSilent r = false) (visits : List FieldVisit) :
    audible r (visit :: visits) = visit :: audible r visits :=
  List.filter_cons_of_pos (by simp [h])

end

section

variable (s : Setting) (owner : String)

/-- Silent fields take no part in the encoding pass. -/
theorem encodeFields_audible (visits : List FieldVisit) :
    Same (encodeFields s owner visits) (encodeFields s owner (audible s.rules visits)) := by
  induction visits with
  | nil => exact Same.refl _
  | cons visit visits ih =>
    cases visit with
    | embedded type =>
      rw [audible_cons_of_silent rfl, encodeFields]
      exact (same_note _ _ _).trans ih
    | named name field =>
      cases hsilent : (FieldVisit.named name field).isSilent s.rules with
      | true =>
        have hhide : (s.rules.policy field.tag).hideMarshal = true :=
          (TagRules.hides_of_hidesBoth hsilent).1
        rw [audible_cons_of_silent hsilent, encodeFields]
        refine (same_leave _ _).trans ?_
        rw [if_pos hhide]
        exact (same_note _ _ _).trans ih
      | false =>
        rw [audible_cons_of_not_silent hsilent, encodeFields, encodeFields]
        refine Same.after _ fun _ => ?_
        split
        · exact Same.after _ fun _ => ih
        · refine Same.after _ fun written => ?_
          cases written with
          | false => exact ih
          | true => exact ih.bind fun _ => Same.refl _

/-- Silent fields take no part in the decoding pass. -/
theorem decodeFields_audible (taken : List String) (visits : List FieldVisit) :
    Same (decodeFields s owner taken visits)
      (decodeFields s owner taken (audible s.rules visits)) := by
  induction visits generalizing taken with
  | nil => exact Same.refl _
  | cons visit visits ih =>
    cases visit with
    | embedded type =>
      rw [audible_cons_of_silent rfl, decodeFields]
      exact (same_note _ _ _).trans (ih taken)
    | named name field =>
      cases hsilent : (FieldVisit.named name field).isSilent s.rules with
      | true =>
        -- the key of a hidden field is not even looked at
        have hhide : (s.rules.policy field.tag).hideUnmarshal = true :=
          (TagRules.hides_of_hidesBoth hsilent).2
        rw [audible_cons_of_silent hsilent, decodeFields]
        refine (same_leave _ _).trans ?_
        rw [if_pos hhide]
        exact (same_note _ _ _).trans (ih taken)
      | false =>
        rw [audible_cons_of_not_silent hsilent, decodeFields, decodeFields]
        refine Same.after _ fun _ => ?_
        split
        · exact Same.after _ fun _ => ih taken
        split
        · exact Same.after _ fun _ => ih taken
        · refine Same.after _ fun written => ?_
          cases written with
          | false => exact ih taken
          | true => exact (ih _).bind fun _ => Same.refl _

variable {s}

/-- The encoding pass depends on the visits that may lead to code. -/
theorem encodeFields_same {visits visits' : List FieldVisit}
    (h : audible s.rules visits = audible s.rules visits') :
    Same (encodeFields s owner visits) (encodeFields s owner visits') := by
  refine (encodeFields_audible s owner visits).trans ?_
  rw [h]
  exact (encodeFields_audible s owner visits').symm

/-- So does the decoding pass. -/
theorem decodeFields_same (taken : List String) {visits visits' : List FieldVisit}
    (h : audible s.rules visits = audible s.rules visits') :
    Same (decodeFields s owner taken visits) (decodeFields s owner taken visits') := by
  refine (decodeFields_audible s owner taken visits).trans ?_
  rw [h]
  exact (decodeFields_audible s owner taken visits').symm

/-- Structs without fields apart, the code for a struct is what the passes over its fields write. -/
theorem emitStruct_same_of_passes {fields fields' : List Field}
    (hempty : fields.isEmpty = fields'.isEmpty)
    (hdecoded : Same (decodeFields s owner [] (fieldVisits fields))
      (decodeFields s owner [] (fieldVisits fields')))
    (hencoded : Same (encodeFields s owner (fieldVisits fields))
      (encodeFields s owner (fieldVisits fields'))) :
    Same (emitStruct s owner fields) (emitStruct s owner fields') := by
  have hswitch : Same (decodeSwitch s owner fields) (decodeSwitch s owner fields') := by
    unfold decodeSwitch
    rw [hempty]
    split
    · exact Same.refl _
    · refine Same.after _ fun _ => ?_
      exact hdecoded.bind fun _ => Same.refl _
  have hdecode : Same (decodeStruct s owner fields) (decodeStruct s owner fields') :=
    Same.after _ fun _ => hswitch.bind fun _ => Same.refl _
  have hencode : Same (encodeStruct s owner fields) (encodeStruct s owner fields') :=
    Same.after _ fun _ => hencoded.bind fun _ => Same.refl _
  unfold emitStruct
  refine hdecode.bind fun keys => Same.after _ fun _ => ?_
  refine hencode.bind fun encoded => Same.refl _

/-- Structs without fields apart, the code for a struct depends on the fields that are not
silent. -/
theorem emitStruct_same {fields fields' : List Field} (hempty : fields.isEmpty = fields'.isEmpty)
    (h : audible s.rules (fieldVisits fields) = audible s.rules (fieldVisits fields')) :
    Same (emitStruct s owner fields) (emitStruct s owner fields') :=
  emitStruct_same_of_passes owner hempty (decodeFields_same owner [] h) (encodeFields_same owner h)

end

/-! ## Edits -/

/-- A field that leads to no code. -/
def isSilentField (r : TagRules) (f : Field) : Bool :=
  f.isEmbedded || r.hidesBoth f.tag

/-- One edit of the fields of a struct that touches a single field, and a silent one. -/
inductive SilentEdit (r : TagRules) : List Field → List Field → Prop
  /-- Give a field that its tag hides in both directions other names and another type. -/
  | change (before after : List Field) (f : Field) (names : List String) (type : GoType)
      (h : r.hidesBoth f.tag = true) :
      SilentEdit r (before ++ f :: after)
        (before ++ { f with names := names, type := type } :: after)
  /-- Give an embedded field another type. -/
  | retype (before after : List Field) (f : Field) (type : GoType) (h : f.isEmbedded = true) :
      SilentEdit r (before ++ f :: after) (before ++ { f with type := type } :: after)
  /-- Put a silent field between the others. -/
  | insert (before after : List Field) (f : Field) (h : isSilentField r f = true)
      (hothers : before ++ after ≠ []) :
      SilentEdit r (before ++ after) (before ++ f :: after)
  /-- Take a silent field out from between the others. -/
  | remove (before after : List Field) (f : Field) (h : isSilentField r f = true)
      (hothers : before ++ after ≠ []) :
      SilentEdit r (before ++ f :: after) (before ++ after)

section

variable {r : TagRules}

/-- The visits that may lead to code are those of both parts. -/
theorem audible_append (visits visits' : List FieldVisit) :
    audible r (visits ++ visits') = audible r visits ++ audible r visits' :=
  List.filter_append _ _

/-- No visit to a silent field is heard. -/
theorem audible_of_isSilentField {f : Field} (h : isSilentField r f = true) :
    audible r (fieldVisits [f]) = [] := by
  refine List.filter_eq_nil_iff.mpr fun visit hvisit => ?_
  have hsilent : visit.isSilent r = true := by
    obtain ⟨f', hf', hvisit⟩ := List.mem_flatMap.mp hvisit
    rw [List.mem_singleton.mp hf'] at hvisit
    split at hvisit
    · rw [List.mem_singleton.mp hvisit]
      rfl
    · rename_i hembedded
      obtain ⟨name, _, rfl⟩ := List.mem_map.mp hvisit
      exact (Bool.or_eq_true_iff.mp h).resolve_left hembedded
  simp [hsilent]

/-- A silent field is not heard among others. -/
theorem audible_fieldVisits {f : Field} (h : isSilentField r f = true)
    (before after : List Field) :
    audible r (fieldVisits (before ++ f :: after)) =
      audible r (fieldVisits (before ++ after)) := by
  have hsplit : fieldVisits (before ++ f :: after) =
      fieldVisits before ++ (fieldVisits [f] ++ fieldVisits after) := by
    simp [fieldVisits]
  have hrest : fieldVisits (before ++ after) = fieldVisits before ++ fieldVisits after :=
    List.flatMap_append
  rw [hsplit, hrest, audible_append, audible_append, audible_of_isSilentField h, List.nil_append,
    audible_append]

/-- An edit of a silent field keeps what is heard, and whether the struct has fields. -/
theorem SilentEdit.audible_eq {fields fields' : List Field} (h : SilentEdit r fields fields') :
    fields.isEmpty = fields'.isEmpty ∧
      audible r (fieldVisits fields) = audible r (fieldVisits fields') := by
  have hcons : ∀ (before after : List Field) (f : Field), (before ++ f :: after).isEmpty = false :=
    fun before after f => by simp
  have hothers : ∀ {fs : List Field}, fs ≠ [] → fs.isEmpty = false := by
    intro fs hfs
    rwa [Bool.eq_false_iff, ne_eq, List.isEmpty_iff]
  cases h with
  | change before after f names type hhidden =>
    have hold : isSilentField r f = true := by
      rw [isSilentField, hhidden, Bool.or_true]
    have hnew : isSilentField r { f with names := names, type := type } = true := by
      rw [isSilentField, hhidden, Bool.or_true]
    exact ⟨(hcons _ _ _).trans (hcons _ _ _).symm,
      (audible_fieldVisits hold _ _).trans (audible_fieldVisits hnew _ _).symm⟩
  | retype before after f type hembedded =>
    have hold : isSilentField r f = true := by
      rw [isSilentField, hembedded, Bool.true_or]
    have hnew : isSilentField r { f with type := type } = true := by
      have hnames : FieldOf.isEmbedded { f with type := type } = true := hembedded
      rw [isSilentField, hnames, Bool.true_or]
    exact ⟨(hcons _ _ _).trans (hcons _ _ _).symm,
      (audible_fieldVisits hold _ _).trans (audible_fieldVisits hnew _ _).symm⟩
  | insert before after f hsilent hrest =>
    exact ⟨(hothers hrest).trans (hcons _ _ _).symm, (audible_fieldVisits hsilent _ _).symm⟩
  | remove before after f hsilent hrest =>
    exact ⟨(hcons _ _ _).trans (hothers hrest).symm, audible_fieldVisits hsilent _ _⟩

end

/-! ## Tables -/

/-- Two tables have the same names, with declarations of the same kinds. -/
def TypeTable.SameKinds (t t' : TypeTable) : Prop :=
  ∀ name, t.kind? name = t'.kind? name

/-- Declaring a name with types of one kind keeps tables of the same kinds. -/
theorem TypeTable.SameKinds.insert {t t' : TypeTable} (h : t.SameKinds t') (name : String)
    {type type' : GoType} (hkind : DeclKind.of type = DeclKind.of type') :
    (t.insert name type).SameKinds (t'.insert name type') := by
  intro name'
  have hrest := h name'
  unfold kind? at hrest ⊢
  rw [get?_insert, get?_insert]
  split
  · exact congrArg some hkind
  · exact hrest

/-- Declarations that differ in one place, and not in their kind there, give tables of the same
kinds. -/
theorem TypeTable.ofPackage_sameKinds (package : String) (before after : List TypeDecl)
    (name : String) {type type' : GoType} (hkind : DeclKind.of type = DeclKind.of type') :
    (ofPackage ⟨package, before ++ ⟨name, type⟩ :: after⟩).SameKinds
      (ofPackage ⟨package, before ++ ⟨name, type'⟩ :: after⟩) := by
  have hfold : ∀ (decls : List TypeDecl) {t t' : TypeTable}, t.SameKinds t' →
      (decls.foldl (fun t d => t.insert d.name d.type) t).SameKinds
        (decls.foldl (fun t d => t.insert d.name d.type) t') := by
    intro decls
    induction decls with
    | nil => exact fun h => h
    | cons d decls ih => exact fun h => ih (h.insert d.name rfl)
  unfold ofPackage
  rw [List.foldl_append, List.foldl_append, List.foldl_cons, List.foldl_cons]
  exact hfold after (TypeTable.SameKinds.insert (fun _ => rfl) name hkind)

/-! ## Reports -/

/-- Declarations of one name and kind whose code is the same contribute the same. -/
theorem contribution_eq_of_same {s : Setting} {d d' : TypeDecl} {x x' : Drive Nat}
    (hname : d.name = d'.name) (hkind : DeclKind.of d.type = DeclKind.of d'.type)
    (hx : emitDecl? s d = some x) (hx' : emitDecl? s d' = some x') (h : Same x x')
    (filter : TypeFilter) : d.contribution s filter = d'.contribution s filter := by
  unfold TypeDecl.contribution
  rw [hx, hx', hname]
  simp only [Contribution.ofDrive, h.code, h.result, hname, hkind]

/-- A struct contributes the same after an edit of a silent field. -/
theorem contribution_silentEdit {s : Setting} {fields fields' : List Field}
    (h : SilentEdit s.rules fields fields') (filter : TypeFilter) (name : String) :
    TypeDecl.contribution s filter ⟨name, .struct fields⟩ =
      TypeDecl.contribution s filter ⟨name, .struct fields'⟩ := by
  obtain ⟨hempty, haudible⟩ := h.audible_eq
  refine contribution_eq_of_same ?_ ?_ ?_ ?_ (emitStruct_same name hempty haudible) filter <;> rfl

/-- Packages with the same declarations, but for an edit of a silent field of one struct. -/
inductive SilentlyEdited (r : TagRules) : Package → Package → Prop
  /-- The struct has declarations before and after it. -/
  | inStruct (package name : String) (before after : List TypeDecl) {fields fields' : List Field}
      (h : SilentEdit r fields fields') :
      SilentlyEdited r ⟨package, before ++ ⟨name, .struct fields⟩ :: after⟩
        ⟨package, before ++ ⟨name, .struct fields'⟩ :: after⟩

namespace SilentlyEdited

variable {p p' : Package}

/-- The tables of the packages have the same kinds. -/
theorem ofPackage_sameKinds {r : TagRules} (h : SilentlyEdited r p p') :
    (TypeTable.ofPackage p).SameKinds (TypeTable.ofPackage p') := by
  cases h with
  | inStruct package name before after hedit =>
    exact TypeTable.ofPackage_sameKinds package before after name rfl

/-- The packages get the same report against tables of the same kinds. -/
theorem generateWith_eq {c : GenConfig} (h : SilentlyEdited c.tagRules p p') {t t' : TypeTable}
    (hkinds : t.SameKinds t') (filter : TypeFilter) :
    (generateWith c filter t p).result = (generateWith c filter t' p').result := by
  cases h with
  | @inStruct package name before after fields fields' hedit =>
    have hothers : ∀ d, TypeDecl.contribution ⟨c.tagRules, t⟩ filter d =
        TypeDecl.contribution ⟨c.tagRules, t'⟩ filter d :=
      fun d => contribution_agree (fun name _ => hkinds name) filter
    have hedited : TypeDecl.contribution ⟨c.tagRules, t⟩ filter ⟨name, .struct fields⟩ =
        TypeDecl.contribution ⟨c.tagRules, t'⟩ filter ⟨name, .struct fields'⟩ :=
      (hothers _).trans (contribution_silentEdit hedit filter name)
    rw [generateWith_result, generateWith_result, List.map_append, List.map_append, List.map_cons,
      List.map_cons, hedited, List.map_congr_left fun d _ => hothers d,
      List.map_congr_left fun d _ => hothers d]
    rfl

end SilentlyEdited

/-- An edit of a silent field of a struct leaves the whole report as it is, whether the names of
types are looked up in a given table or among the declarations themselves. -/
theorem generate_silentEdit (c : GenConfig) (filter : TypeFilter) (table : TypeTable)
    {p p' : Package} (h : SilentlyEdited c.tagRules p p') :
    (∃ r, (generateWith c filter table p).result = .ok r ∧
        (generateWith c filter table p').result = .ok r) ∧
      ∃ r, (generate c filter p).result = .ok r ∧ (generate c filter p').result = .ok r := by
  have hwith := h.generateWith_eq (t := table) (fun _ => rfl) filter
  have halone := h.generateWith_eq h.ofPackage_sameKinds filter
  refine ⟨⟨_, ?_, generateWith_result c filter table p'⟩,
    ⟨_, ?_, generateWith_result c filter _ p'⟩⟩
  · rw [hwith, generateWith_result]
  · rw [generate, halone, generateWith_result]

/-- A struct with a field that is hidden in both directions. -/
def hiddenFields : List Field := [
  ⟨["Name"], .ident "string", none⟩,
  ⟨["Secret"], .ident "string", some "\x60gojay:\"-\"\x60"⟩]

/-- The hidden field can become two fields of a type that has no code, one of them named like the
other field. -/
theorem generate_silentEdit_hiddenFields :
    let fields := [⟨["Name"], .ident "string", none⟩,
      ⟨["Name", "Key"], .func, some "\x60gojay:\"-\"\x60"⟩]
    SilentEdit (GenConfig.tagRules {}) hiddenFields fields ∧
      ∃ r, (generate {} .all ⟨"p", [⟨"Login", .struct hiddenFields⟩]⟩).result = .ok r ∧
        (generate {} .all ⟨"p", [⟨"Login", .struct fields⟩]⟩).result = .ok r := by
  have hhidden : (GenConfig.tagRules {}).hidesBoth (some "\x60gojay:\"-\"\x60") = true := by
    decide +kernel
  have hedit := SilentEdit.change [⟨["Name"], .ident "string", none⟩] []
    ⟨["Secret"], .ident "string", some "\x60gojay:\"-\"\x60"⟩ ["Name", "Key"] .func hhidden
  exact ⟨hedit, (generate_silentEdit {} .all .empty (.inStruct "p" "Login" [] [] hedit)).2⟩

end CodecGen
