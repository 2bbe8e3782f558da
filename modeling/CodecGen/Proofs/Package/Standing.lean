import CodecGen.Package.Parser
import Mathlib.Tactic.SplitIfs

/-!
# Statements by the classes of their tokens

Where tokens stand in a row of statements: how many statements have begun, and how many brackets are
open. Rows that declare no types are read as no declarations (`statements_of_afterAll?`), and tokens
with which one statement begins and ends are one statement for the reader that passes over
statements (`isStatement_of_afterAll?`).
-/

namespace CodecGen.Package

/-- Where tokens stand in a row of statements. -/
structure Standing where
  /-- How many statements have begun. -/
  begun : Nat
  /-- How many brackets are open in the statement around the tokens; none between statements. -/
  depth : Option Nat
  deriving DecidableEq, Repr, Inhabited

namespace Standing

/-- Where the tokens after one of the given class stand. There is none if the token closes a bracket
that is not open, or begins a declaration of types. -/
def after? (s : Standing) (kind : TokenKind) : Option Standing :=
  match s.depth with
  | none =>
    if kind.isSeparator then some s
    else if kind.closes ∨ kind = .keyword .typeDecl then none
    else some ⟨s.begun + 1, some (if kind.opens then 1 else 0)⟩
  | some depth =>
    if kind.opens then some { s with depth := some (depth + 1) }
    else if kind.closes then
      if depth = 0 then none else some { s with depth := some (depth - 1) }
    else if depth = 0 ∧ kind.isSeparator then some { s with depth := none }
    else some s

/-- Where the tokens after some in a row stand. -/
def afterAll? (s : Standing) (ts : List Token) : Option Standing :=
  ts.foldlM (fun s t => s.after? t.kind) s

/-- The same place with some more statements before it. -/
def later (n : Nat) (s : Standing) : Standing :=
  { s with begun := s.begun + n }

/-- Where tokens stand after a row is where the rest of the row leads from behind its first token.
-/
theorem afterAll?_cons (s : Standing) (t : Token) (ts : List Token) :
    s.afterAll? (t :: ts) = (s.after? t.kind).bind fun s' => s'.afterAll? ts :=
  List.foldlM_cons

/-- Statements before a place make no difference to what a token does there. -/
theorem after?_later (n : Nat) (s : Standing) (kind : TokenKind) :
    (s.later n).after? kind = (s.after? kind).map (later n) := by
  obtain ⟨begun, depth⟩ := s
  cases depth with
  | none =>
    simp only [after?, later]
    split_ifs <;> simp [Nat.add_right_comm, later]
  | some depth =>
    simp only [after?, later]
    split_ifs <;> rfl

/-- Statements do not become fewer. -/
theorem begun_le_of_after? {s s' : Standing} {kind : TokenKind} (h : s.after? kind = some s') :
    s.begun ≤ s'.begun := by
  obtain ⟨begun, depth⟩ := s
  cases depth with
  | none =>
    simp only [after?] at h
    split_ifs at h <;> cases h
    · exact Nat.le_refl _
    all_goals exact Nat.le_succ begun
  | some depth =>
    simp only [after?] at h
    split_ifs at h <;> cases h <;> exact Nat.le_refl _

/-- No row of tokens takes a statement back that has begun. -/
theorem begun_le_of_afterAll? {s s' : Standing} {ts : List Token} (h : s.afterAll? ts = some s') :
    s.begun ≤ s'.begun := by
  induction ts generalizing s with
  | nil =>
    cases h
    exact Nat.le_refl _
  | cons t ts ih =>
    rw [afterAll?_cons] at h
    obtain ⟨middle, hmiddle, hrest⟩ := Option.bind_eq_some_iff.mp h
    exact Nat.le_trans (begun_le_of_after? hmiddle) (ih hrest)

end Standing

variable {begun : Nat} {s : Standing} {ts : List Token}

/-- A statement is passed over, and what is left begins between statements. -/
theorem skipStatement_of_afterAll? {depth : Nat}
    (h : Standing.afterAll? ⟨begun, some depth⟩ ts = some s) (hend : ∀ d ∈ s.depth, d = 0) :
    ∃ rest, (skipStatement depth ts).result = .ok rest ∧
      (Standing.afterAll? ⟨begun, none⟩ rest = some s ∨ rest = []) := by
  induction ts generalizing depth with
  | nil =>
    obtain rfl : ⟨begun, some depth⟩ = s := Option.some.inj h
    obtain rfl : depth = 0 := hend depth rfl
    exact ⟨[], rfl, .inr rfl⟩
  | cons t ts ih =>
    rw [Standing.afterAll?_cons] at h
    unfold skipStatement
    simp only [Standing.after?] at h
    by_cases hopens : t.kind.opens = true
    · rw [if_pos hopens] at h ⊢
      exact ih h
    rw [if_neg hopens] at h ⊢
    by_cases hcloses : t.kind.closes = true
    · rw [if_pos hcloses] at h ⊢
      by_cases hdepth : depth = 0
      · rw [if_pos hdepth] at h
        cases h
      · rw [if_neg hdepth] at h ⊢
        exact ih h
    rw [if_neg hcloses] at h ⊢
    by_cases hseparator : depth = 0 ∧ t.kind.isSeparator = true
    · rw [if_pos hseparator] at h ⊢
      -- the separator is left, and stands between statements just as well
      refine ⟨t :: ts, rfl, .inl ?_⟩
      rw [Standing.afterAll?_cons]
      simp only [Standing.after?]
      rw [if_pos hseparator.2]
      exact h
    · rw [if_neg hseparator] at h ⊢
      exact ih h

/-- Tokens between statements still are when separators are passed over. -/
theorem afterAll?_skipSeparators (h : Standing.afterAll? ⟨begun, none⟩ ts = some s) :
    Standing.afterAll? ⟨begun, none⟩ (skipSeparators ts) = some s := by
  unfold skipSeparators
  induction ts with
  | nil => exact h
  | cons t ts ih =>
    cases hsep : t.kind.isSeparator with
    | true =>
      simp only [List.dropWhile_cons, hsep, if_true]
      rw [Standing.afterAll?_cons] at h
      simp only [Standing.after?] at h
      rw [if_pos hsep] at h
      exact ih h
    | false => simpa only [List.dropWhile_cons, hsep, Bool.false_eq_true, if_false] using h

/-- What stands first after the separators begins a statement. -/
theorem skipStatement_of_skipSeparators {t : Token} {rest : List Token}
    (hts : skipSeparators ts = t :: rest) (h : Standing.afterAll? ⟨begun, none⟩ ts = some s)
    (hend : ∀ d ∈ s.depth, d = 0) :
    t.kind ≠ .keyword .typeDecl ∧ begun < s.begun ∧
      ∃ left, (skipStatement 0 (t :: rest)).result = .ok left ∧
        (Standing.afterAll? ⟨begun + 1, none⟩ left = some s ∨ left = []) := by
  have hseparator : ¬t.kind.isSeparator = true := by
    have hnot := List.head?_dropWhile_not (fun t : Token => t.kind.isSeparator) ts
    unfold skipSeparators at hts
    rw [hts] at hnot
    simpa using hnot
  have hall := afterAll?_skipSeparators h
  rw [hts, Standing.afterAll?_cons] at hall
  simp only [Standing.after?] at hall
  rw [if_neg hseparator] at hall
  by_cases hstop : t.kind.closes = true ∨ t.kind = .keyword .typeDecl
  · rw [if_pos hstop] at hall
    cases hall
  rw [if_neg hstop] at hall
  obtain ⟨hcloses, htype⟩ := not_or.mp hstop
  have hbegun := Standing.begun_le_of_afterAll? (s := ⟨begun + 1, _⟩) hall
  refine ⟨htype, hbegun, skipStatement_of_afterAll? ?_ hend⟩
  -- the first token opens a bracket of the statement, or leaves all closed
  rw [Standing.afterAll?_cons]
  simp only [Standing.after?]
  by_cases hopens : t.kind.opens = true
  · rw [if_pos hopens] at hall ⊢
    exact hall
  · rw [if_neg hopens] at hall
    rw [if_neg hopens, if_neg hcloses, if_neg fun hboth => hseparator hboth.2]
    exact hall

/-- Statements in a row that declare no types are read as no declarations. -/
theorem statements_of_afterAll? {turns : Nat} (h : Standing.afterAll? ⟨begun, none⟩ ts = some s)
    (hend : ∀ d ∈ s.depth, d = 0) : (statements turns ts).result = .ok [] := by
  induction turns generalizing begun ts with
  | zero => rfl
  | succ turns ih =>
    rw [statements]
    cases hts : skipSeparators ts with
    | nil => rfl
    | cons t rest =>
      obtain ⟨htype, _, left, hresult, hleft⟩ := skipStatement_of_skipSeparators hts h hend
      dsimp only
      rw [if_neg htype, Logged.result_bind, hresult]
      rcases hleft with hleft | rfl
      · exact ih hleft
      · cases turns <;> rfl

/-- The tokens are one statement that brackets close, apart from separators around it. -/
def IsStatement (ts : List Token) : Prop :=
  skipSeparators ts ≠ [] ∧ ∃ rest,
    (skipStatement 0 (skipSeparators ts)).result = .ok rest ∧ skipSeparators rest = []

/-- Tokens with which one statement begins, and after which none is open, are that statement. -/
theorem isStatement_of_afterAll?
    (h : Standing.afterAll? ⟨begun, none⟩ ts = some ⟨begun + 1, none⟩) : IsStatement ts := by
  cases hts : skipSeparators ts with
  | nil =>
    have hall := afterAll?_skipSeparators h
    rw [hts] at hall
    have hbegun := congrArg Standing.begun (Option.some.inj hall)
    exact absurd hbegun (Nat.ne_of_lt (Nat.lt_succ_self _))
  | cons t rest =>
    have hend : ∀ d ∈ (⟨begun + 1, none⟩ : Standing).depth, d = 0 := fun d hd => by cases hd
    obtain ⟨_, _, left, hresult, hleft⟩ := skipStatement_of_skipSeparators hts h hend
    refine ⟨by rw [hts]; exact List.cons_ne_nil _ _, left, by rw [hts]; exact hresult, ?_⟩
    rcases hleft with hleft | rfl
    · cases hmore : skipSeparators left with
      | nil => rfl
      | cons u us =>
        -- one more token would begin one more statement
        obtain ⟨_, hlt, _⟩ := skipStatement_of_skipSeparators hmore hleft hend
        exact absurd hlt (Nat.lt_irrefl _)
    · rfl

end CodecGen.Package
