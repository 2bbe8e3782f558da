import CodecGen.Entry.Signature
import CodecGen.Tag.Policy
import CodecGen.Template.Frame
import CodecGen.Template.Member

/-!
# Emitted code

The code for a declaration is a row of fragments, each a frame or the code for a member. What a
fragment says and which packages it needs is worked out from the fragment alone. A `Drive` writes
fragments one after another and may fail on the way; `PassState.step` decides what
becomes of the fragments that were written before a failure.
-/

namespace CodecGen

/-- What the code for a declaration depends on besides the declaration. -/
structure Setting where
  /-- How tags are read. -/
  rules : TagRules
  /-- The declared types that names are looked up in. -/
  table : TypeTable
  deriving Repr, Inhabited

/-- A piece of emitted code. -/
inductive Fragment where
  /-- A frame with values for its holes. -/
  | frame (f : Frame) (values : List (Var × Value))
  /-- The code for a member by the template of its entry. -/
  | member (key : EntryKey) (d : Direction) (input : MemberInput)
  deriving Repr, Inhabited

namespace Fragment

/-- A frame that speaks of a declared type. -/
def named (f : Frame) (typeName : String) : Fragment :=
  .frame f [(.typeName, .text typeName)]

/-- The text of a fragment. -/
def render : Fragment → Except GenError String
  | frame f values =>
    match f.template.render? fun var => values.lookup var with
    | some text => .ok text
    | none => .error (.render f.name)
  | member key d input =>
    let t := key.template input.slot d
    match t.render? input with
    | some text => .ok text
    | none => .error (.render t.name)

/-- The text that a fragment adds to the code; nothing where it has none. -/
def text (f : Fragment) : String :=
  match f.render with
  | .ok text => text
  | .error _ => ""

/-- The packages that a fragment needs. -/
def imports : Fragment → List StdPackage
  | frame _ _ => []
  | member key d input => (key.template input.slot d).imports input.layout

/-- The text of a row of fragments. -/
def textOf (fs : List Fragment) : String :=
  String.join (fs.map text)

/-- The packages that a row of fragments needs, with repeats. -/
def importsOf (fs : List Fragment) : List StdPackage :=
  fs.flatMap imports

@[simp] theorem textOf_nil : textOf [] = "" := rfl

/-- The text of the first fragment stands before the texts of the others. -/
@[simp] theorem textOf_cons (f : Fragment) (fs : List Fragment) :
    textOf (f :: fs) = f.text ++ textOf fs :=
  String.join_cons

/-- Rows of fragments one after another have their texts one after another. -/
@[simp] theorem textOf_append (fs gs : List Fragment) :
    textOf (fs ++ gs) = textOf fs ++ textOf gs := by
  unfold textOf
  rw [List.map_append, String.join_append]

/-- Things that are written alike have their texts one after another. -/
theorem textOf_flatMap {α : Type} {f : α → List Fragment} {g : α → String}
    (h : ∀ a, textOf (f a) = g a) (as : List α) :
    textOf (as.flatMap f) = String.join (as.map g) := by
  induction as with
  | nil => rfl
  | cons a as ih =>
    rw [List.flatMap_cons, textOf_append, ih, h, List.map_cons, String.join_cons]

/-- A fragment that is rendered adds what it is rendered to. -/
theorem text_of_render {f : Fragment} {t : String} (h : f.render = .ok t) : f.text = t := by
  unfold text
  rw [h]

/-- The packages that two rows need are those of the first, and then those of the second. -/
@[simp] theorem importsOf_append (fs gs : List Fragment) :
    importsOf (fs ++ gs) = importsOf fs ++ importsOf gs :=
  List.flatMap_append

end Fragment

/-- A computation that writes code: the notes it leaves, the fragments it has written, and what it
ends with. What was written before a failure stays written. -/
structure Drive (α : Type) where
  /-- The notes left, in order. -/
  notes : List Note
  /-- The fragments written, in order. -/
  code : List Fragment
  /-- The value, or why there is none. -/
  result : Except GenError α

namespace Drive

variable {α β : Type}

/-- Run one computation after another, unless the first fails. -/
protected def bind (x : Drive α) (f : α → Drive β) : Drive β :=
  match x.result with
  | .error e => ⟨x.notes, x.code, .error e⟩
  | .ok a => ⟨x.notes ++ (f a).notes, x.code ++ (f a).code, (f a).result⟩

instance : Monad Drive where
  pure a := ⟨[], [], .ok a⟩
  bind := Drive.bind

/-- Leave one note. -/
def note (level : Level) (text : String) : Drive Unit :=
  ⟨[⟨level, text⟩], [], .ok ()⟩

/-- Leave some notes. -/
def leave (notes : List Note) : Drive Unit :=
  ⟨notes, [], .ok ()⟩

/-- A result without notes and code. -/
def ofExcept (x : Except GenError α) : Drive α :=
  ⟨[], [], x⟩

/-- Write a fragment, unless it has no text. -/
def write (f : Fragment) : Drive Unit :=
  match f.render with
  | .ok _ => ⟨[], [f], .ok ()⟩
  | .error e => ⟨[], [], .error e⟩

/-- Write a frame that speaks of a declared type. -/
def frame (f : Frame) (typeName : String) : Drive Unit :=
  write (.named f typeName)

/-- The result of a sequence depends on results alone. -/
theorem result_bind (x : Drive α) (f : α → Drive β) :
    (x >>= f).result = x.result.bind fun a => (f a).result := by
  change (Drive.bind x f).result = _
  unfold Drive.bind
  cases x.result <;> rfl

/-- Where the first part ends with a value, the result is that of what is done with the value. -/
theorem result_bind_of_ok {x : Drive α} {a : α} (h : x.result = .ok a) (f : α → Drive β) :
    (x >>= f).result = (f a).result := by
  rw [result_bind, h]
  rfl

/-- Where the second part cannot fail, the first decides how a sequence fails. -/
theorem result_bind_error_iff {x : Drive α} {f : α → Drive β} {e : GenError}
    (hf : ∀ a, ∃ b, (f a).result = .ok b) :
    (x >>= f).result = .error e ↔ x.result = .error e := by
  rw [result_bind]
  cases x.result with
  | error e' =>
    show Except.error e' = Except.error e ↔ Except.error e' = Except.error e
    rw [Except.error.injEq, Except.error.injEq]
  | ok a =>
    obtain ⟨b, hb⟩ := hf a
    show (f a).result = .error e ↔ Except.ok a = Except.error e
    rw [hb]
    simp only [reduceCtorEq]

/-! ## What holds of a value and of the code written for it -/

/-- Where the computation ends with a value, `post` holds of it and of the code written. -/
def Ensures (x : Drive α) (post : α → List Fragment → Prop) : Prop :=
  ∀ a, x.result = .ok a → post a x.code

variable {post : β → List Fragment → Prop}

/-- Ending with a value writes nothing. -/
theorem ensures_pure {a : β} (h : post a []) : Ensures (pure a) post := by
  intro b hb
  cases hb
  exact h

/-- A sequence is judged by its first part, and by its second on what the first wrote. -/
theorem Ensures.bind {x : Drive α} {f : α → Drive β} {P : α → List Fragment → Prop}
    (hx : Ensures x P)
    (hf : ∀ a cs, P a cs → Ensures (f a) fun b ds => post b (cs ++ ds)) :
    Ensures (x >>= f) post := by
  intro b hb
  change (Drive.bind x f).result = _ at hb
  change post b (Drive.bind x f).code
  unfold Drive.bind at hb ⊢
  cases hres : x.result with
  | error e =>
    rw [hres] at hb
    cases hb
  | ok a =>
    rw [hres] at hb
    exact hf a x.code (hx a hres) b hb

/-- Notes do not count. -/
theorem Ensures.after_note {level : Level} {text : String} {y : Drive β} (h : Ensures y post) :
    Ensures (note level text >>= fun _ => y) post := by
  refine Ensures.bind (P := fun _ cs => cs = []) (fun _ _ => rfl) ?_
  rintro _ _ rfl
  exact h

/-- Notes left all at once do not count either. -/
theorem Ensures.after_leave {notes : List Note} {y : Drive β} (h : Ensures y post) :
    Ensures (leave notes >>= fun _ => y) post := by
  refine Ensures.bind (P := fun _ cs => cs = []) (fun _ _ => rfl) ?_
  rintro _ _ rfl
  exact h

/-- A result is there for what follows it. -/
theorem Ensures.after_ofExcept {x : Except GenError α} {f : α → Drive β}
    (h : ∀ a, x = .ok a → Ensures (f a) post) : Ensures (ofExcept x >>= f) post := by
  refine Ensures.bind (P := fun a cs => x = .ok a ∧ cs = []) (fun a ha => ⟨ha, rfl⟩) ?_
  rintro a _ ⟨ha, rfl⟩
  exact h a ha

/-- What is written after a fragment follows it. -/
theorem Ensures.after_write {g : Fragment} {y : Drive β}
    (h : Ensures y fun b ds => post b (g :: ds)) : Ensures (write g >>= fun _ => y) post := by
  refine Ensures.bind (P := fun _ cs => cs = [g]) ?_ ?_
  · intro a ha
    unfold write at ha ⊢
    cases hg : g.render with
    | ok text => rfl
    | error e =>
      rw [hg] at ha
      cases ha
  · rintro _ _ rfl
    exact h

/-- What is written after a frame follows it. -/
theorem Ensures.after_frame {g : Frame} {typeName : String} {y : Drive β}
    (h : Ensures y fun b ds => post b (.named g typeName :: ds)) :
    Ensures (frame g typeName >>= fun _ => y) post :=
  Ensures.after_write h

/-! ## Computations that cannot fail -/

/-- The computation ends with a value and has written some code. -/
def Returns (x : Drive α) (a : α) (code : List Fragment) : Prop :=
  x.result = .ok a ∧ x.code = code

/-- Ending with a value writes nothing, and does not fail. -/
theorem returns_pure (a : α) : Returns (pure a) a [] :=
  ⟨rfl, rfl⟩

/-- A note is left without any code. -/
theorem returns_note (level : Level) (text : String) : Returns (note level text) () [] :=
  ⟨rfl, rfl⟩

/-- Notes are left without any code. -/
theorem returns_leave (notes : List Note) : Returns (leave notes) () [] :=
  ⟨rfl, rfl⟩

/-- A result that is a value is returned without any code. -/
theorem returns_ofExcept {x : Except GenError α} {a : α} (h : x = .ok a) :
    Returns (ofExcept x) a [] :=
  ⟨h, rfl⟩

/-- What has a text is written. -/
theorem returns_write {f : Fragment} {text : String} (h : f.render = .ok text) :
    Returns (write f) () [f] := by
  unfold write
  rw [h]
  exact ⟨rfl, rfl⟩

variable {x : Drive α} {a : α} {cs : List Fragment}

/-- The second part of a sequence writes after the first. -/
theorem Returns.bind {f : α → Drive β} {b : β} {ds : List Fragment} (hx : Returns x a cs)
    (hf : Returns (f a) b ds) : Returns (x >>= f) b (cs ++ ds) := by
  obtain ⟨hxr, hxc⟩ := hx
  obtain ⟨hfr, hfc⟩ := hf
  show (Drive.bind x f).result = _ ∧ (Drive.bind x f).code = _
  unfold Drive.bind
  rw [hxr, ← hxc, ← hfc]
  exact ⟨hfr, rfl⟩

/-- What follows a part that writes nothing writes the whole. -/
theorem Returns.bind_nil {f : α → Drive β} {b : β} {ds : List Fragment} (hx : Returns x a [])
    (hf : Returns (f a) b ds) : Returns (x >>= f) b ds :=
  hx.bind hf

/-- What follows a fragment with a text is written after it. -/
theorem Returns.after_write {g : Fragment} {text : String} {y : Drive β} {b : β}
    {ds : List Fragment} (h : g.render = .ok text) (hy : Returns y b ds) :
    Returns (write g >>= fun _ => y) b (g :: ds) :=
  (returns_write h).bind hy

end Drive

end CodecGen
