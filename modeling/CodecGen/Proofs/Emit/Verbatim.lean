import CodecGen.Proofs.Emit.Container
import CodecGen.Proofs.Emit.Pass
import CodecGen.Proofs.Emit.Struct
import CodecGen.Proofs.Template.Verbatim

/-!
# What a pass writes

Every fragment that a pass writes carries a value for each hole of its template, so that writing
never fails (`emitDecl?_isSafe`), and its text is the fixed texts of the template with the values as
they stand between them. Every declaration is either passed over, or reported and written with the
code of its kind (`TypeDecl.silent_or_emitted`). The generated file is its header and the texts of
what is written (`generateWith_isVerbatim`).
-/

namespace CodecGen

open Fragment (textOf importsOf)

/-! ## Fragments and their values -/

namespace Fragment

/-- The template that a fragment is written from. -/
def body : Fragment → Template
  | frame f _ => f.template
  | member key d input => (key.template input.slot d).body

/-- What a fragment carries values for. -/
def supplied : Fragment → List Var
  | frame _ values => values.map Prod.fst
  | member key d input => (key.template input.slot d).builder.supplied input.slot

/-- The text that a fragment puts into a hole. -/
def value : Fragment → Var → String
  | frame _ values, var => ((values.lookup var).map Value.render).getD ""
  | member _ _ input, var => input.value var

/-- The fixed texts of the template with the values of the fragment between them. -/
def filled (f : Fragment) : String :=
  f.body.fill f.value

/-- The template asks for nothing that the fragment does not carry. -/
def IsSupplied (f : Fragment) : Prop :=
  f.body.asksOnly f.supplied = true

/-- The template of every entry asks only for what a member carries. -/
theorem isSupplied_member (k : EntryKey) (d : Direction) (i : MemberInput) :
    (member k d i).IsSupplied :=
  k.asksOnly_template i.slot d

/-- A frame of a declaration is supplied if it carries values for the holes that it has. -/
theorem isSupplied_frame {f : Frame} {values : List (Var × Value)} (hf : f ≠ .header)
    (h : values.map Prod.fst = f.supplied) : (frame f values).IsSupplied := by
  show f.template.asksOnly (values.map Prod.fst) = true
  rw [h]
  exact Frame.asksOnly_template hf

/-- A fragment that carries what its template asks for has its values in its text as they stand. -/
theorem render_of_isSupplied {f : Fragment} (h : f.IsSupplied) : f.render = .ok f.filled := by
  cases f with
  | frame f values =>
    refine render_frame (Template.render?_eq_fill h ?_)
    intro var hvar
    obtain ⟨entry, hentry, rfl⟩ := List.mem_map.mp hvar
    cases hlookup : values.lookup entry.1 with
    | none =>
      have hne := List.lookup_eq_none_iff.mp hlookup entry hentry
      simp at hne
    | some v =>
      simp only [value, hlookup]
      rfl
  | member k d i => exact render_member (MemberTemplate.render?_eq_fill k d i)

/-- Code whose fragments carry what they are asked for has the text of the filled templates. -/
theorem textOf_of_isSupplied {fs : List Fragment} (h : ∀ f ∈ fs, f.IsSupplied) :
    textOf fs = String.join (fs.map filled) := by
  unfold textOf
  exact congrArg String.join
    (List.map_congr_left fun f hf => text_of_render (render_of_isSupplied (h f hf)))

end Fragment

/-- So is a frame that speaks of a declared type alone. -/
theorem isSupplied_named {f : Frame} (hf : f ≠ .header) (h : f.supplied = [.typeName])
    (typeName : String) : (Fragment.named f typeName).IsSupplied :=
  Fragment.isSupplied_frame hf h.symm

/-- So is a case label. -/
theorem FieldMember.isSupplied_label (m : FieldMember) (owner : String) :
    (m.label owner).IsSupplied :=
  Fragment.isSupplied_frame (by decide) rfl

/-- So is the method that counts keys. -/
theorem isSupplied_keyCount (owner : String) (keys : Nat) : (keyCount owner keys).IsSupplied :=
  Fragment.isSupplied_frame (by decide) rfl

/-! ## Computations that fail for want of a signature only -/

/-- The failure is that a type expression has no signature. -/
def GenError.IsUnknownType (e : GenError) : Prop :=
  ∃ shape, e = .unknownType shape

/-- Everything written carries what its template asks for, and nothing fails but the reading of a
type expression. -/
structure Drive.IsSafe {α : Type} (x : Drive α) : Prop where
  /-- Fragments carry what they are asked for. -/
  code : ∀ f ∈ x.code, f.IsSupplied
  /-- A failure is that of a type expression. -/
  failure : ∀ e, x.result = .error e → e.IsUnknownType

namespace Drive

variable {α β : Type}

/-- What returns and has written supplied fragments is safe. -/
theorem Returns.isSafe {x : Drive α} {a : α} {cs : List Fragment} (h : Returns x a cs)
    (hcs : ∀ f ∈ cs, f.IsSupplied) : IsSafe x := by
  obtain ⟨hresult, hcode⟩ := h
  constructor
  · rwa [hcode]
  · intro e he
    rw [hresult] at he
    cases he

/-- What returns and has written nothing is safe. -/
theorem Returns.isSafe_of_nil {x : Drive α} {a : α} (h : Returns x a []) : IsSafe x :=
  h.isSafe fun _ hf => absurd hf List.not_mem_nil

/-- Ending with a value writes nothing that is not supplied. -/
theorem isSafe_pure (a : α) : IsSafe (pure a) :=
  (returns_pure a).isSafe_of_nil

/-- A note is safe. -/
theorem isSafe_note (level : Level) (text : String) : IsSafe (note level text) :=
  (returns_note level text).isSafe_of_nil

/-- Notes are safe. -/
theorem isSafe_leave (notes : List Note) : IsSafe (leave notes) :=
  (returns_leave notes).isSafe_of_nil

/-- A result is safe if it fails only for want of a signature. -/
theorem isSafe_ofExcept {x : Except GenError α} (h : ∀ e, x = .error e → e.IsUnknownType) :
    IsSafe (ofExcept x) :=
  ⟨fun _ hf => absurd hf List.not_mem_nil, h⟩

/-- A fragment that carries what its template asks for is written. -/
theorem isSafe_write {f : Fragment} (h : f.IsSupplied) : IsSafe (write f) :=
  (returns_write (Fragment.render_of_isSupplied h)).isSafe fun g hg => by
    rw [List.mem_singleton.mp hg]
    exact h

/-- A sequence of safe computations is safe. -/
theorem IsSafe.bind {x : Drive α} {f : α → Drive β} (hx : IsSafe x) (hf : ∀ a, IsSafe (f a)) :
    IsSafe (x >>= f) := by
  show IsSafe (Drive.bind x f)
  unfold Drive.bind
  cases hres : x.result with
  | error e =>
    constructor
    · exact hx.code
    · rintro _ ⟨⟩
      exact hx.failure e hres
  | ok a =>
    constructor
    · intro g hg
      rcases List.mem_append.mp hg with hg | hg
      · exact hx.code g hg
      · exact (hf a).code g hg
    · exact (hf a).failure

/-- What is done after something safe is all that is left to look at. -/
theorem IsSafe.then {x : Drive α} {y : Drive β} (hx : IsSafe x) (hy : IsSafe y) :
    IsSafe (x >>= fun _ => y) :=
  hx.bind fun _ => hy

end Drive

/-! ## Declarations -/

open Drive

/-- Where a type has no signature by its name, the error shows a type. -/
theorem Signature.ofName_error {pointer : Bool} {type : GoType} {e : GenError}
    (h : ofName pointer type = .error e) : e.IsUnknownType := by
  unfold ofName at h
  split at h <;> cases h <;> exact ⟨_, rfl⟩

/-- Where a type has no signature as that of a field, the error shows a type. -/
theorem Signature.ofField_error {type : GoType} {e : GenError} (h : ofField type = .error e) :
    e.IsUnknownType := by
  unfold ofField at h
  split at h <;> exact ofName_error h

/-- Where a type has no signature as that of elements, the error shows a type. -/
theorem Signature.ofArrayElement_error {elem : GoType} {e : GenError}
    (h : ofArrayElement elem = .error e) : e.IsUnknownType := by
  unfold ofArrayElement at h
  split at h <;> cases h <;> exact ⟨_, rfl⟩

section

variable (s : Setting) (owner : String)

/-- Writing a field is safe in both directions. -/
theorem writeField_isSafe (name : String) (field : Field) (policy : Policy) (d : Direction) :
    IsSafe (writeField s owner name field policy d) := by
  unfold writeField
  refine (isSafe_ofExcept fun _ => Signature.ofField_error).bind fun signature => ?_
  refine (isSafe_leave _).then ?_
  cases signature.resolve? s.table with
  | none => exact (isSafe_note _ _).then (isSafe_pure _)
  | some r =>
    have hmember : ∀ m : FieldMember, IsSafe (write (m.conversion owner d)) := fun m =>
      isSafe_write (Fragment.isSupplied_member _ _ _)
    cases d with
    | marshal => exact (hmember _).then (isSafe_pure _)
    | unmarshal =>
      exact (isSafe_write (FieldMember.isSupplied_label _ _)).then
        ((hmember _).then (isSafe_pure _))

/-- The decoding pass over the fields of a struct is safe. -/
theorem decodeFields_isSafe (taken : List String) (visits : List FieldVisit) :
    IsSafe (decodeFields s owner taken visits) := by
  induction visits generalizing taken with
  | nil => exact isSafe_pure _
  | cons visit visits ih =>
    cases visit with
    | embedded type =>
      rw [decodeFields]
      exact (isSafe_note _ _).then (ih taken)
    | named name field =>
      rw [decodeFields]
      refine (isSafe_leave _).then ?_
      split
      · exact (isSafe_note _ _).then (ih taken)
      split
      · exact (isSafe_note _ _).then (ih taken)
      · refine (writeField_isSafe s owner name field _ _).bind fun written => ?_
        cases written with
        | false => exact ih taken
        | true => exact (ih _).bind fun _ => isSafe_pure _

/-- The encoding pass over the fields of a struct is safe. -/
theorem encodeFields_isSafe (visits : List FieldVisit) :
    IsSafe (encodeFields s owner visits) := by
  induction visits with
  | nil => exact isSafe_pure _
  | cons visit visits ih =>
    cases visit with
    | embedded type =>
      rw [encodeFields]
      exact (isSafe_note _ _).then ih
    | named name field =>
      rw [encodeFields]
      refine (isSafe_leave _).then ?_
      split
      · exact (isSafe_note _ _).then ih
      · refine (writeField_isSafe s owner name field _ _).bind fun written => ?_
        cases written with
        | false => exact ih
        | true => exact ih.bind fun _ => isSafe_pure _

/-- A frame that speaks of a declared type alone is written. -/
theorem frame_isSafe {f : Frame} (hf : f ≠ .header) (h : f.supplied = [.typeName]) :
    IsSafe (frame f owner) :=
  isSafe_write (isSupplied_named hf h owner)

/-- The switch of a struct is written safely. -/
theorem decodeSwitch_isSafe (fields : List Field) : IsSafe (decodeSwitch s owner fields) := by
  unfold decodeSwitch
  split
  · exact isSafe_pure _
  · refine (frame_isSafe owner (by decide) rfl).then ?_
    refine (decodeFields_isSafe s owner [] _).bind fun _ => ?_
    exact (frame_isSafe owner (by decide) rfl).then (isSafe_pure _)

/-- The decoding method of a struct is written safely. -/
theorem decodeStruct_isSafe (fields : List Field) : IsSafe (decodeStruct s owner fields) := by
  unfold decodeStruct
  refine (frame_isSafe owner (by decide) rfl).then ?_
  refine (decodeSwitch_isSafe s owner fields).bind fun _ => ?_
  exact (frame_isSafe owner (by decide) rfl).then (isSafe_pure _)

/-- The encoding method of a struct is written safely. -/
theorem encodeStruct_isSafe (fields : List Field) : IsSafe (encodeStruct s owner fields) := by
  unfold encodeStruct
  refine (frame_isSafe owner (by decide) rfl).then ?_
  refine (encodeFields_isSafe s owner _).bind fun _ => ?_
  exact (frame_isSafe owner (by decide) rfl).then (isSafe_pure _)

/-- A struct is written safely. -/
theorem emitStruct_isSafe (fields : List Field) : IsSafe (emitStruct s owner fields) := by
  unfold emitStruct
  refine (decodeStruct_isSafe s owner fields).bind fun keys => ?_
  refine (isSafe_write (isSupplied_keyCount owner keys)).then ?_
  refine (encodeStruct_isSafe s owner fields).bind fun _ => ?_
  refine (frame_isSafe owner (by decide) rfl).then ?_
  exact (isSafe_note _ _).then (isSafe_pure _)

/-- The body of a method of an array or a map is written safely. -/
theorem writeContained_isSafe (slot : Slot) (resolved : Option Resolved) (d : Direction) :
    IsSafe (writeContained s slot owner resolved d) := by
  unfold writeContained
  cases resolved with
  | none => exact isSafe_pure _
  | some r => exact isSafe_write (Fragment.isSupplied_member _ _ _)

/-- An array is written safely. -/
theorem emitArray_isSafe (elem : GoType) : IsSafe (emitArray s owner elem) := by
  unfold emitArray
  refine (isSafe_ofExcept fun _ => Signature.ofArrayElement_error).bind fun signature => ?_
  refine (lookUp_returns s signature _).isSafe_of_nil.bind fun resolved => ?_
  refine (frame_isSafe owner (by decide) rfl).then ?_
  refine (writeContained_isSafe s owner _ resolved _).then ?_
  refine (frame_isSafe owner (by decide) rfl).then ?_
  refine (frame_isSafe owner (by decide) rfl).then ?_
  refine (writeContained_isSafe s owner _ resolved _).then ?_
  refine (frame_isSafe owner (by decide) rfl).then ?_
  exact (frame_isSafe owner (by decide) rfl).then (isSafe_pure _)

/-- A map is written safely. -/
theorem emitMap_isSafe (key value : GoType) : IsSafe (emitMap s owner key value) := by
  unfold emitMap
  refine (noteKeyType_returns owner key).isSafe_of_nil.then ?_
  refine (isSafe_ofExcept fun _ => Signature.ofField_error).bind fun signature => ?_
  refine (lookUp_returns s signature _).isSafe_of_nil.bind fun resolved => ?_
  refine (frame_isSafe owner (by decide) rfl).then ?_
  refine (writeContained_isSafe s owner _ resolved _).then ?_
  refine (frame_isSafe owner (by decide) rfl).then ?_
  refine (frame_isSafe owner (by decide) rfl).then ?_
  refine (frame_isSafe owner (by decide) rfl).then ?_
  refine (writeContained_isSafe s owner _ resolved _).then ?_
  refine (frame_isSafe owner (by decide) rfl).then ?_
  exact (frame_isSafe owner (by decide) rfl).then (isSafe_pure _)

end

/-- Every declaration is written safely. -/
theorem emitDecl?_isSafe {s : Setting} {d : TypeDecl} {drive : Drive Nat}
    (h : emitDecl? s d = some drive) : IsSafe drive := by
  obtain ⟨name, type⟩ := d
  unfold emitDecl? at h
  split at h <;> cases h
  · exact emitStruct_isSafe s name _
  · exact emitArray_isSafe s name _
  · exact emitMap_isSafe s name _ _

/-! ## Whole passes -/

/-- The code that is kept: all of it, unless the computation fails. -/
def Drive.kept {α : Type} (x : Drive α) : List Fragment :=
  match x.result with
  | .ok _ => x.code
  | .error _ => []

/-- The code of a declaration that is generated; none where it is not. -/
def TypeDecl.written (s : Setting) (filter : TypeFilter) (d : TypeDecl) : List Fragment :=
  if filter.accepts d.name then ((emitDecl? s d).map Drive.kept).getD [] else []

/-- The code of the generated declarations of a package, in order. -/
def Package.written (s : Setting) (filter : TypeFilter) (p : Package) : List Fragment :=
  p.decls.flatMap (TypeDecl.written s filter)

section

variable {s : Setting} {filter : TypeFilter} {d : TypeDecl}

/-- A declaration contributes what its computation writes where it is chosen, or nothing. -/
theorem contribution_cases (s : Setting) (filter : TypeFilter) (d : TypeDecl) :
    (filter.accepts d.name = true ∧ ∃ drive, emitDecl? s d = some drive ∧
        d.contribution s filter = .ofDrive d drive ∧ d.written s filter = drive.kept) ∨
      d.contribution s filter = .none ∧ d.written s filter = [] := by
  unfold TypeDecl.contribution TypeDecl.written
  by_cases haccept : filter.accepts d.name = true
  · rw [if_pos haccept, if_pos haccept]
    cases emitDecl? s d with
    | none => exact .inr ⟨rfl, rfl⟩
    | some drive => exact .inl ⟨haccept, drive, rfl, rfl, rfl⟩
  · rw [if_neg haccept, if_neg haccept]
    exact .inr ⟨rfl, rfl⟩

/-- A declaration contributes the text of its code and the packages that the code needs. -/
theorem contribution_eq_written (s : Setting) (filter : TypeFilter) (d : TypeDecl) :
    (d.contribution s filter).body = textOf (d.written s filter) ∧
      (d.contribution s filter).imports = importsOf (d.written s filter) := by
  obtain ⟨_, drive, _, hcontribution, hwritten⟩ | ⟨hcontribution, hwritten⟩ :=
    contribution_cases s filter d
  · rw [hcontribution, hwritten]
    unfold Contribution.ofDrive Drive.kept
    cases drive.result with
    | ok keys => exact ⟨rfl, rfl⟩
    | error e => exact ⟨rfl, rfl⟩
  · rw [hcontribution, hwritten]
    exact ⟨rfl, rfl⟩

/-- What is kept of a declaration carries what its template asks for. -/
theorem TypeDecl.isSupplied_of_mem_written {f : Fragment} (h : f ∈ d.written s filter) :
    f.IsSupplied := by
  obtain ⟨_, drive, hemit, _, hwritten⟩ | ⟨_, hwritten⟩ := contribution_cases s filter d
  · rw [hwritten] at h
    unfold Drive.kept at h
    split at h
    · exact (emitDecl?_isSafe hemit).code f h
    · cases h
  · rw [hwritten] at h
    cases h

/-- A declaration fails for want of a signature only. -/
theorem isUnknownType_of_mem_failures {f : Failure} (h : f ∈ (d.contribution s filter).failures) :
    f.error.IsUnknownType := by
  obtain ⟨_, drive, hemit, hcontribution, _⟩ | ⟨hcontribution, _⟩ := contribution_cases s filter d
  · rw [hcontribution] at h
    unfold Contribution.ofDrive at h
    cases hresult : drive.result with
    | ok keys =>
      rw [hresult] at h
      cases h
    | error e =>
      rw [hresult] at h
      rw [List.mem_singleton.mp h]
      exact (emitDecl?_isSafe hemit).failure e hresult
  · rw [hcontribution] at h
    cases h

end

/-! ## Declarations that are reported -/

/-- The code for a declaration that does not fail, and the number of keys that is returned for it.
-/
inductive TypeDecl.IsEmitted (s : Setting) : TypeDecl → List Fragment → Nat → Prop
  /-- A struct, with the fields that it decodes and encodes. -/
  | struct (owner : String) (fields : List Field) :
      IsEmitted s ⟨owner, .struct fields⟩
        (structCode owner fields (decodedMembers s fields) (encodedMembers s fields))
        (decodedMembers s fields).length
  /-- An array whose elements have a signature, with the entry for it. -/
  | array {elem : GoType} {signature : Signature}
      (hsigned : Signature.ofArrayElement elem = .ok signature) (owner : String)
      (len : Option String) :
      IsEmitted s ⟨owner, .array len elem⟩ (arrayCode s owner (signature.resolve? s.table))
        (if (signature.resolve? s.table).isSome then 1 else 0)
  /-- A map whose values have a signature, with the entry for it. -/
  | map {value : GoType} {signature : Signature}
      (hsigned : Signature.ofMapValue value = .ok signature) (owner : String) (key : GoType) :
      IsEmitted s ⟨owner, .map key value⟩ (mapCode s owner (signature.resolve? s.table)) 0

/-- What a driver that does not fail has written and returns. -/
theorem TypeDecl.isEmitted_of_result {s : Setting} {d : TypeDecl} {drive : Drive Nat} {keys : Nat}
    (hemit : emitDecl? s d = some drive) (hresult : drive.result = .ok keys) :
    d.IsEmitted s drive.code keys := by
  obtain ⟨owner, type⟩ := d
  unfold emitDecl? at hemit
  split at hemit <;> cases hemit
  case h_1 fields htype =>
    obtain rfl : type = .struct fields := htype
    -- a struct is written whatever it returns, the others only if their type has a signature
    obtain ⟨rfl, hcode⟩ := emitStruct_ensures s owner fields keys hresult
    rw [hcode]
    exact .struct owner fields
  case h_2 len elem htype =>
    obtain rfl : type = .array len elem := htype
    cases hsigned : Signature.ofArrayElement elem with
    | error e =>
      rw [(emitArray_fails hsigned s owner).1] at hresult
      cases hresult
    | ok signature =>
      obtain ⟨hreturned, hcode⟩ := emitArray_returns (s := s) hsigned owner
      obtain rfl := Except.ok.inj (hreturned.symm.trans hresult)
      rw [hcode]
      exact .array hsigned owner len
  case h_3 key value htype =>
    obtain rfl : type = .map key value := htype
    cases hsigned : Signature.ofMapValue value with
    | error e =>
      rw [(emitMap_fails hsigned s owner key).1] at hresult
      cases hresult
    | ok signature =>
      obtain ⟨hreturned, hcode⟩ := emitMap_returns (s := s) hsigned owner key
      obtain rfl := Except.ok.inj (hreturned.symm.trans hresult)
      rw [hcode]
      exact .map hsigned owner key

/-- Some code is written for every declaration that does not fail. -/
theorem TypeDecl.IsEmitted.code_ne_nil {s : Setting} {d : TypeDecl} {code : List Fragment}
    {keys : Nat} (h : d.IsEmitted s code keys) : code ≠ [] := by
  cases h with
  | struct owner fields =>
    unfold structCode
    exact List.append_ne_nil_of_right_ne_nil _ (List.cons_ne_nil _ _)
  | array => exact List.cons_ne_nil _ _
  | map => exact List.cons_ne_nil _ _

/-- A declaration is passed over, or it is chosen, reported and written. -/
theorem TypeDecl.silent_or_emitted (s : Setting) (filter : TypeFilter) (d : TypeDecl) :
    ((d.contribution s filter).generated = [] ∧ d.written s filter = []) ∨
      filter.accepts d.name = true ∧ ∃ keys,
        (d.contribution s filter).generated = [⟨d.name, .of d.type, keys⟩] ∧
          d.IsEmitted s (d.written s filter) keys := by
  obtain ⟨haccept, drive, hemit, hcontribution, hwritten⟩ | ⟨hcontribution, hwritten⟩ :=
    contribution_cases s filter d
  · rw [hcontribution, hwritten]
    unfold Contribution.ofDrive Drive.kept
    cases hresult : drive.result with
    | error e => exact .inl ⟨rfl, rfl⟩
    | ok keys => exact .inr ⟨haccept, keys, rfl, isEmitted_of_result hemit hresult⟩
  · rw [hcontribution, hwritten]
    exact .inl ⟨rfl, rfl⟩

/-- What is reported as generated are the declarations that something is written for, in order. -/
theorem names_generated (s : Setting) (filter : TypeFilter) (decls : List TypeDecl) :
    (decls.flatMap fun d => (d.contribution s filter).generated).map Summary.name =
      (decls.filter fun d => !(d.written s filter).isEmpty).map TypeDecl.name := by
  induction decls with
  | nil => rfl
  | cons d decls ih =>
    rw [List.flatMap_cons, List.map_append, ih]
    obtain ⟨hgenerated, hwritten⟩ | ⟨-, keys, hgenerated, hemitted⟩ := d.silent_or_emitted s filter
    · rw [List.filter_cons_of_neg (by simp [hwritten]), hgenerated]
      rfl
    · rw [List.filter_cons_of_pos (by simp [hemitted.code_ne_nil]), hgenerated]
      rfl

/-- Nothing is reported as generated if and only if nothing is written. -/
theorem generated_eq_nil_iff (s : Setting) (filter : TypeFilter) (p : Package) :
    (p.decls.flatMap fun d => (d.contribution s filter).generated) = [] ↔
      p.written s filter = [] := by
  rw [← List.map_eq_nil_iff (f := Summary.name), names_generated, List.map_eq_nil_iff,
    List.filter_eq_nil_iff, Package.written, List.flatMap_eq_nil_iff]
  simp only [Bool.not_eq_true', Bool.not_eq_false, List.isEmpty_iff]

/-! ## Reports -/

/-- Whatever a pass writes and keeps carries what its template asks for. -/
theorem Package.isSupplied_of_mem_written {s : Setting} {filter : TypeFilter} {p : Package} :
    ∀ f ∈ p.written s filter, f.IsSupplied := by
  intro f hf
  obtain ⟨d, _, hd⟩ := List.mem_flatMap.mp hf
  exact TypeDecl.isSupplied_of_mem_written hd

/-- The report on a package, from the code of its declarations. -/
theorem reportOf_written (c : GenConfig) (package : String) (s : Setting) (filter : TypeFilter)
    (p : Package) :
    (reportOf c package (p.decls.map (TypeDecl.contribution s filter))).output =
      fileText c package
        (reportOf c package (p.decls.map (TypeDecl.contribution s filter))).generated
        (importsOf (p.written s filter)) (textOf (p.written s filter)) := by
  have hbody : String.join ((p.decls.map (TypeDecl.contribution s filter)).map
      Contribution.body) = textOf (p.written s filter) := by
    rw [List.map_map]
    exact (Fragment.textOf_flatMap (fun d => (contribution_eq_written s filter d).1.symm) _).symm
  have himports : (p.decls.map (TypeDecl.contribution s filter)).flatMap Contribution.imports =
      importsOf (p.written s filter) := by
    unfold Package.written importsOf
    rw [List.flatMap_assoc, List.flatMap_map]
    exact List.flatMap_congr fun d _ => (contribution_eq_written s filter d).2
  show fileText c package _ _ _ = _
  rw [hbody, himports]
  rfl

/-- The report on a package whose declarations are written with the given code. -/
structure Report.IsVerbatim (c : GenConfig) (package : String) (code : List Fragment)
    (r : Report) : Prop where
  /-- A type fails for want of a signature only. -/
  failures : ∀ f ∈ r.failures, f.error.IsUnknownType
  /-- The templates of all entries ask only for what the records built for them carry. -/
  templates : ∀ (k : EntryKey) (slot : Slot) (d : Direction),
    (k.template slot d).body.asksOnly ((k.template slot d).builder.supplied slot) = true
  /-- A record carries the values of its member. -/
  records : ∀ (b : Builder) (i : MemberInput), ∀ var ∈ b.supplied i.slot,
    (b.params i).env var = some (.text (i.value var))
  /-- Whatever is written, frames too, carries what its template asks for. -/
  supplied : ∀ f ∈ code, f.IsSupplied
  /-- Its text is the fixed texts of the template with the values between them. -/
  texts : ∀ f ∈ code, f.render = .ok f.filled
  /-- Nothing is reported as generated if and only if nothing is written. -/
  empty_iff : r.generated = [] ↔ code = []
  /-- There is one value for each place between two fixed texts. -/
  places : ∀ f ∈ code, f.body.fixed.length = f.body.vars.length + 1
  /-- The file is these texts after a header, which names the package and the path it imports. -/
  output : r.output = if r.generated.isEmpty then "" else
    headerText package c.importPath (StdPackage.sorted (importsOf code)) ++
      String.join (code.map Fragment.filled)

/-- A pass over any package ends with a report. It names the declarations that something is written
for, in order, and no value that it inserts is read as part of a template. -/
theorem generateWith_isVerbatim (c : GenConfig) (filter : TypeFilter) (table : TypeTable)
    (p : Package) :
    let s : Setting := ⟨c.tagRules, table⟩
    ∃ r, (generateWith c filter table p).result = .ok r ∧
      r.generated.map Summary.name =
        (p.decls.filter fun d => !(d.written s filter).isEmpty).map TypeDecl.name ∧
      r.IsVerbatim c (c.packageFor p) (p.written s filter) := by
  intro s
  have hsupplied : ∀ f ∈ p.written s filter, f.IsSupplied := Package.isSupplied_of_mem_written
  have hgenerated : (p.decls.map (TypeDecl.contribution s filter)).flatMap Contribution.generated =
      p.decls.flatMap fun d => (d.contribution s filter).generated :=
    List.flatMap_map _ _ _
  -- the report is the one that the contributions of all declarations make up
  refine ⟨_, generateWith_result c filter table p, ?_, ?_⟩
  · exact (congrArg (List.map Summary.name) hgenerated).trans (names_generated s filter p.decls)
  constructor
  case failures =>
    intro f hf
    obtain ⟨x, hx, hfx⟩ := List.mem_flatMap.mp hf
    obtain ⟨d, _, rfl⟩ := List.mem_map.mp hx
    exact isUnknownType_of_mem_failures hfx
  case templates => exact EntryKey.asksOnly_template
  case records => exact fun b i var hvar => Builder.env_params hvar
  case supplied => exact hsupplied
  case texts => exact fun f hf => Fragment.render_of_isSupplied (hsupplied f hf)
  case empty_iff =>
    show (p.decls.map (TypeDecl.contribution s filter)).flatMap Contribution.generated = [] ↔ _
    rw [hgenerated]
    exact generated_eq_nil_iff s filter p
  case places => exact fun f _ => f.body.length_fixed
  case output =>
    rw [reportOf_written, Fragment.textOf_of_isSupplied hsupplied]
    rfl

/-- A key that looks like a hole is written as it stands. -/
example : (Fragment.member ⟨.primitive .int, false⟩ .marshal ⟨.field, "T", "Size",
    "\x7b\x7b field \x7d\x7d", "", "", none⟩).render =
      .ok "\tenc.IntKey(\"\x7b\x7b field \x7d\x7d\", v.Size)\n" := by
  cbv

end CodecGen
