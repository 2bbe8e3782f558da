import CodecGen.Proofs.Package.Types

/-!
# Reading with more nesting allowed

The nesting that is allowed only makes a difference to expressions that exceed it: what is read as a
type expression is read as the same expression where more nesting is allowed (`typeExpr_keeps`).
-/

namespace CodecGen.Package

open Logged (exists_of_result_bind result_bind_of_ok)

/-- What the first computation returns, the second one returns. -/
def Keeps {α : Type} (x y : Reading α) : Prop :=
  ∀ a, x.result = .ok a → y.result = .ok a

namespace Keeps

variable {α β : Type} {x y : Reading α}

/-- A computation keeps what it returns itself. -/
theorem refl (x : Reading α) : Keeps x x :=
  fun _ h => h

/-- What two steps in a row return is kept if each of them keeps it. -/
theorem bind (hx : Keeps x y) {f g : α → Reading β} (hf : ∀ a, Keeps (f a) (g a)) :
    Keeps (x >>= f) (y >>= g) := by
  intro b hb
  obtain ⟨a, ha, hfa⟩ := exists_of_result_bind hb
  rw [result_bind_of_ok (hx a ha)]
  exact hf a b hfa

end Keeps

section

variable {inner outer : TypeReader} (h : ∀ ts, Keeps (inner ts) (outer ts))

include h

/-- Slices and arrays are read alike with a reader that keeps what the other returns. -/
theorem arrayType_keeps (ts : List Token) : Keeps (arrayType inner ts) (arrayType outer ts) := by
  unfold arrayType
  split
  · exact (h _).bind fun _ => .refl _
  · exact (Keeps.refl _).bind fun _ => (h _).bind fun _ => .refl _

/-- Map types are read alike with a reader that keeps what the other returns. -/
theorem mapType_keeps (ts : List Token) : Keeps (mapType inner ts) (mapType outer ts) := by
  unfold mapType
  exact (Keeps.refl _).bind fun _ => (h _).bind fun _ => (Keeps.refl _).bind fun _ =>
    (h _).bind fun _ => .refl _

/-- Channel types are read alike with a reader that keeps what the other returns. -/
theorem chanType_keeps (ts : List Token) : Keeps (chanType inner ts) (chanType outer ts) := by
  unfold chanType
  exact (h ts).bind fun _ => .refl _

/-- Signatures are passed over alike with a reader that keeps what the other returns. -/
theorem skipSignature_keeps (ts : List Token) :
    Keeps (skipSignature inner ts) (skipSignature outer ts) := by
  unfold skipSignature
  refine (Keeps.refl _).bind fun ts => ?_
  split
  · exact .refl _
  · split
    · exact (h _).bind fun _ => .refl _
    · exact .refl _
  · exact .refl _

/-- Field lines are read alike with a reader that keeps what the other returns. -/
theorem fieldLine_keeps (ts : List Token) : Keeps (fieldLine inner ts) (fieldLine outer ts) := by
  unfold fieldLine
  split
  · exact (h _).bind fun _ => .refl _
  · exact (Keeps.refl _).bind fun _ => (Keeps.refl _).bind fun _ => (h _).bind fun _ => .refl _

/-- The fields of a struct are read alike: induction on the turns. -/
theorem structFields_keeps (turns : Nat) (ts : List Token) :
    Keeps (structFields inner turns ts) (structFields outer turns ts) := by
  induction turns generalizing ts with
  | zero => exact .refl _
  | succ turns ih =>
    rw [structFields, structFields]
    split
    · exact .refl _
    · split
      · exact .refl _
      · exact (fieldLine_keeps h _).bind fun _ => (Keeps.refl _).bind fun _ =>
          (ih _).bind fun _ => .refl _

/-- Struct types are read alike with a reader that keeps what the other returns. -/
theorem structType_keeps (ts : List Token) : Keeps (structType inner ts) (structType outer ts) := by
  unfold structType
  exact (Keeps.refl _).bind fun _ => (structFields_keeps h _ _).bind fun _ => .refl _

/-- Every form is read alike with a reader that keeps what the other returns. -/
theorem typeForm_keeps (ts : List Token) : Keeps (typeForm inner ts) (typeForm outer ts) := by
  cases ts with
  | nil => exact .refl _
  | cons t ts =>
    rw [typeForm, typeForm]
    split
    · exact .refl _
    · exact (h _).bind fun _ => .refl _
    · exact arrayType_keeps h ts
    · exact mapType_keeps h ts
    · exact structType_keeps h ts
    · exact .refl _
    · exact (skipSignature_keeps h ts).bind fun _ => .refl _
    · exact chanType_keeps h _
    · exact (Keeps.refl _).bind fun _ => chanType_keeps h _
    · exact (h _).bind fun _ => .refl _
    · exact .refl _

end

/-- What is read as a type expression is read so where one more level of nesting is allowed. -/
theorem typeExpr_keeps (depth : Nat) (ts : List Token) :
    Keeps (typeExpr depth ts) (typeExpr (depth + 1) ts) := by
  induction depth generalizing ts with
  | zero =>
    intro _ h
    cases h
  | succ depth ih => exact typeForm_keeps ih ts

/-- The tokens are read as the type expression, before anything that may follow one. -/
def ReadsAs (depth : Nat) (type : GoType) (ts : List Token) : Prop :=
  ∀ rest, Ends rest → (typeExpr depth (ts ++ rest)).result = .ok (type, rest)

namespace ReadsAs

variable {depth : Nat} {type : GoType} {ts : List Token}

/-- Tokens that spell a type expression are read as it. -/
theorem of_spells (h : Spells depth type ts) : ReadsAs depth type ts :=
  fun _ hrest => typeExpr_reads depth h hrest

/-- One more level of nesting changes nothing in what is read. -/
theorem succ (h : ReadsAs depth type ts) : ReadsAs (depth + 1) type ts :=
  fun rest hrest => typeExpr_keeps depth _ _ (h rest hrest)

/-- No type expression begins with an equality sign. -/
theorem skipKind_assign (h : ReadsAs depth type ts) (rest : List Token) :
    skipKind .assign (ts ++ rest) = ts ++ rest := by
  have hread := h [] fun _ ht => by cases ht
  cases depth with
  | zero => cases hread
  | succ depth =>
    change (typeForm (typeExpr depth) (ts ++ [])).result = _ at hread
    cases ts with
    | nil => cases hread
    | cons t ts =>
      refine if_neg fun hassign => ?_
      rw [List.cons_append, typeForm] at hread
      simp only [hassign] at hread
      cases hread

end ReadsAs

end CodecGen.Package
