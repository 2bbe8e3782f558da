/-!
# Notes kept while working

A computation may leave notes behind for whoever watches it: what it dropped, skipped or decided.
`Logged` is such a computation with a result that may be a failure; the notes written before a
failure are kept. `notes` never influence `result`, as the lemmas on `bind` say.
-/

namespace CodecGen

/-- How much a note matters, the most severe first. -/
inductive Level where
  | error
  | warn
  | info
  | debug
  | trace
  deriving DecidableEq, Repr, Inhabited

namespace Level

/-- The place of a level in the order of severity, zero for the most severe. -/
def rank : Level → Nat
  | error => 0
  | warn => 1
  | info => 2
  | debug => 3
  | trace => 4

/-- The word that a note of this level begins with. -/
def label : Level → String
  | error => "ERROR"
  | warn => "WARN"
  | info => "INFO"
  | debug => "DEBUG"
  | trace => "TRACE"

end Level

/-- One remark about the work done. -/
structure Note where
  /-- How much it matters. -/
  level : Level
  /-- What it says. -/
  text : String
  deriving DecidableEq, Repr, Inhabited

namespace Note

/-- The note as one line: its level and what it says. -/
def line (n : Note) : String :=
  n.level.label ++ " " ++ n.text

/-- The notes that are at least as severe as a level, in order. -/
def upTo (level : Level) (notes : List Note) : List Note :=
  notes.filter fun n => n.level.rank ≤ level.rank

end Note

/-- A computation that leaves notes and ends with a value or a failure. -/
structure Logged (ε α : Type) where
  /-- The notes left, in order. -/
  notes : List Note
  /-- The value, or why there is none. -/
  result : Except ε α

namespace Logged

variable {ε ε' α β : Type}

/-- Run one computation after another, unless the first fails. -/
protected def bind (x : Logged ε α) (f : α → Logged ε β) : Logged ε β :=
  match x.result with
  | .error e => ⟨x.notes, .error e⟩
  | .ok a => ⟨x.notes ++ (f a).notes, (f a).result⟩

instance : Monad (Logged ε) where
  pure a := ⟨[], .ok a⟩
  bind := Logged.bind

/-- End with a failure. -/
def fail (e : ε) : Logged ε α :=
  ⟨[], .error e⟩

/-- Leave one note. -/
def note (level : Level) (text : String) : Logged ε Unit :=
  ⟨[⟨level, text⟩], .ok ()⟩

/-- Leave some notes. -/
def leave (notes : List Note) : Logged ε Unit :=
  ⟨notes, .ok ()⟩

/-- A result without notes. -/
def ofExcept (x : Except ε α) : Logged ε α :=
  ⟨[], x⟩

/-- Change what a failure is said to be. -/
def mapError (f : ε → ε') (x : Logged ε α) : Logged ε' α :=
  ⟨x.notes, x.result.mapError f⟩

@[simp] theorem result_pure (a : α) : (pure a : Logged ε α).result = .ok a := rfl

@[simp] theorem result_fail (e : ε) : (fail e : Logged ε α).result = .error e := rfl

@[simp] theorem result_note (level : Level) (text : String) :
    (note level text : Logged ε Unit).result = .ok () := rfl

@[simp] theorem result_leave (notes : List Note) :
    (leave notes : Logged ε Unit).result = .ok () := rfl

@[simp] theorem result_ofExcept (x : Except ε α) : (ofExcept x).result = x := rfl

@[simp] theorem result_mapError (f : ε → ε') (x : Logged ε α) :
    (x.mapError f).result = x.result.mapError f := rfl

/-- Ending with the value of a computation adds nothing to it. -/
protected theorem bind_pure (x : Logged ε α) : x >>= pure = x := by
  change Logged.bind x (fun a => ⟨[], .ok a⟩) = x
  unfold Logged.bind
  rcases x with ⟨notes, e | a⟩
  · rfl
  · exact congrArg (Logged.mk · _) (List.append_nil notes)

/-- It does not matter how the parts of a sequence are grouped. -/
protected theorem bind_assoc {γ : Type} (x : Logged ε α) (f : α → Logged ε β)
    (g : β → Logged ε γ) : x >>= f >>= g = x >>= fun a => f a >>= g := by
  change Logged.bind (Logged.bind x f) g = Logged.bind x fun a => Logged.bind (f a) g
  unfold Logged.bind
  rcases x with ⟨notes, e | a⟩
  · rfl
  · dsimp only
    cases (f a).result with
    | error e => rfl
    | ok b => exact congrArg (Logged.mk · _) (List.append_assoc notes _ _)

/-- The result of a sequence depends on results alone. -/
theorem result_bind (x : Logged ε α) (f : α → Logged ε β) :
    (x >>= f).result = x.result.bind fun a => (f a).result := by
  change (Logged.bind x f).result = _
  unfold Logged.bind
  cases x.result <;> rfl

/-- Where the first part ends with a value, the result is that of what is done with the value. -/
theorem result_bind_of_ok {x : Logged ε α} {a : α} (h : x.result = .ok a)
    (f : α → Logged ε β) : (x >>= f).result = (f a).result := by
  rw [result_bind, h]
  rfl

/-- A sequence ends with a value only where its first part does. -/
theorem exists_of_result_bind {x : Logged ε α} {f : α → Logged ε β} {b : β}
    (h : (x >>= f).result = .ok b) : ∃ a, x.result = .ok a ∧ (f a).result = .ok b := by
  rw [result_bind] at h
  cases hx : x.result with
  | error e =>
    rw [hx] at h
    cases h
  | ok a =>
    rw [hx] at h
    exact ⟨a, rfl, h⟩

end Logged

end CodecGen
