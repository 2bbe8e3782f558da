import CodecGen.Cursor.Parser

/-!
# Cursors and lists of tokens

What it means that a reader on a cursor does what a reader on a list of tokens does (`Agrees`): it
ends with the same value where the tokens ahead are those that the other leaves, or with the same
fault, and in both cases with the nesting counter that it began with. So it never panics. How far it
moves is kept, since loops have to move. Readers in sequence agree if they do so one by one
(`Agrees.bind`).
-/

namespace CodecGen

/-- The tokens ahead of a cursor. -/
def Input.ahead (input : Input) (c : Cursor) : List Token :=
  (input.tokens.drop c.pos).map Spanned.token

/-- The tokens of a source without their positions. -/
def Input.list (input : Input) : List Token :=
  input.tokens.map Spanned.token

/-- The cursor past one more token. -/
def Cursor.next (c : Cursor) : Cursor :=
  { c with pos := c.pos + 1 }

/-- The cursor is within the tokens. -/
def Cursor.InRange (input : Input) (c : Cursor) : Prop :=
  c.pos ≤ input.tokens.length

/-- A cursor is some tokens or more past another, at the same nesting. -/
structure Cursor.After (input : Input) (c : Cursor) (least : Nat) (c' : Cursor) : Prop where
  pos : c.pos + least ≤ c'.pos
  inRange : c'.InRange input
  depth : c'.depth = c.depth

/-- Moves of a cursor add up. -/
theorem Cursor.After.trans {input : Input} {c c' c'' : Cursor} {n m : Nat}
    (h : c.After input n c') (h' : c'.After input m c'') : c.After input (n + m) c'' := by
  refine ⟨?_, h'.inRange, h'.depth.trans h.depth⟩
  have hfirst := h.pos
  have hsecond := h'.pos
  omega

/-- A cursor that is some tokens past another is fewer past it too. -/
theorem Cursor.After.weaken {input : Input} {c c' : Cursor} {n m : Nat}
    (h : c.After input n c') (hmn : m ≤ n) : c.After input m c' := by
  have hpos := h.pos
  exact ⟨by omega, h.inRange, h.depth⟩

namespace Walk

open Package Reading

variable {α β γ δ : Type} {input : Input} {c : Cursor}

/-- A run of a reader on a cursor ends as one of a reader on the tokens ahead does, at least some
tokens later. `view` makes the result of the other reader of the value and of the tokens ahead. -/
inductive Agrees (input : Input) (c : Cursor) (least : Nat) (view : α → List Token → γ) :
    Except ReadFault γ → EStateM.Result Crash Cursor α → Prop where
  | ok {a : α} {c' : Cursor} (h : c.After input least c') :
      Agrees input c least view (.ok (view a (input.ahead c'))) (.ok a c')
  | fault {e : ReadFault} {c' : Cursor} (hdepth : c'.depth = c.depth) :
      Agrees input c least view (.error e) (.error (.fault (locate input.list e)) c')

/-- The result of a reader that only passes over tokens is what it leaves. -/
abbrev leaves : Unit → List Token → List Token :=
  fun _ ts => ts

/-! ## The tokens ahead -/

/-- Past the first token ahead are the other tokens ahead. -/
theorem ahead_next {t : Token} {ts : List Token} (h : input.ahead c = t :: ts) :
    input.ahead c.next = ts := by
  unfold Input.ahead at h ⊢
  have htail := congrArg List.tail h
  rw [← List.map_tail, List.tail_drop] at htail
  exact htail

/-- A class of token is known only where there is a token. -/
theorem next_of_next? {kind : TokenKind} (h : next? (input.ahead c) = some kind) :
    ∃ t ts, input.ahead c = t :: ts ∧ t.kind = kind := by
  cases hahead : input.ahead c with
  | nil =>
    rw [hahead] at h
    cases h
  | cons t ts =>
    rw [hahead] at h
    exact ⟨t, ts, rfl, Option.some.inj h⟩

/-- The tokens ahead are those from the position of the cursor on. -/
theorem length_ahead (input : Input) (c : Cursor) :
    (input.ahead c).length = input.tokens.length - c.pos := by
  rw [Input.ahead, List.length_map, List.length_drop]

/-- There is a token to pass. -/
theorem pos_lt {t : Token} {ts : List Token} (h : input.ahead c = t :: ts) :
    c.pos < input.tokens.length := by
  have hlength := length_ahead input c
  rw [h, List.length_cons] at hlength
  omega

/-- The cursor past the token ahead is one token later, and in range. -/
theorem after_next {t : Token} {ts : List Token} (h : input.ahead c = t :: ts) :
    c.After input 1 c.next :=
  ⟨Nat.le_refl _, pos_lt h, rfl⟩

/-- A cursor in range is no token past itself. -/
theorem after_self (h : c.InRange input) : c.After input 0 c :=
  ⟨Nat.le_refl _, h, rfl⟩

/-! ## Single steps -/

/-- What follows a step that succeeds runs on the value and the cursor of the step. -/
theorem run_bind_of_ok {x : Walk α} {a : α} {c' : Cursor} (h : x.run c = .ok a c')
    (k : α → Walk β) : (x >>= k).run c = (k a).run c' := by
  rw [EStateM.run_bind, h]

/-- Looking ahead by some tokens gives the token that far among those ahead, and moves nothing. -/
theorem run_peekAt (input : Input) (n : Nat) (c : Cursor) :
    (peekAt input n).run c = .ok (input.ahead c)[n]? c := by
  unfold Input.ahead
  rw [List.getElem?_map, List.getElem?_drop]
  rfl

/-- Looking ahead gives the first token ahead, and moves nothing. -/
theorem run_peek (input : Input) (c : Cursor) :
    (peek input).run c = .ok (input.ahead c).head? c := by
  rw [peek, run_peekAt, List.head?_eq_getElem?]

/-- The cursor moves past the token ahead. -/
theorem run_advance {t : Token} {ts : List Token} (h : input.ahead c = t :: ts) :
    (advance input).run c = .ok () c.next := by
  have hpos : c.pos < input.tokens.length := pos_lt h
  unfold advance
  rw [EStateM.run_bind, EStateM.run_get]
  dsimp only
  rw [if_pos hpos]
  rfl

/-- Taking a token gives the one ahead, and moves past it. -/
theorem run_bump_cons {t : Token} {ts : List Token} (h : input.ahead c = t :: ts) :
    (bump input).run c = .ok (some t) c.next := by
  unfold bump
  rw [run_bind_of_ok (run_peek input c), h]
  exact run_bind_of_ok (run_advance h) _

/-- Taking a token at the end gives none, and moves nothing. -/
theorem run_bump_nil (h : input.ahead c = []) : (bump input).run c = .ok none c := by
  unfold bump
  rw [run_bind_of_ok (run_peek input c), h]
  rfl

/-- A fault is raised at the line of the token ahead. -/
theorem run_fail (input : Input) (fault : SourceFault) (c : Cursor) :
    (fail input fault : Walk α).run c =
      .error (.fault (locate input.list ⟨(input.ahead c).head?.map Token.line, fault⟩)) c := by
  have hline : (line input).run c = .ok (locate input.list
      ⟨(input.ahead c).head?.map Token.line, fault⟩).line c := by
    unfold line
    rw [run_bind_of_ok (run_peek input c)]
    cases (input.ahead c).head? with
    | some t => rfl
    | none =>
      unfold locate Input.list
      rw [List.getLast?_map, Option.map_map]
      rfl
  unfold fail
  rw [run_bind_of_ok hline]
  rfl

/-- An unexpected token is reported at its line, with what was awaited and what it is. -/
theorem run_unexpected (input : Input) (what : String) (c : Cursor) :
    (unexpected input what : Walk α).run c = .error (.fault (locate input.list
      ⟨(input.ahead c).head?.map Token.line,
        .expected what ((input.ahead c).head?.map Token.describe)⟩)) c := by
  unfold unexpected
  rw [run_bind_of_ok (run_peek input c)]
  exact run_fail input _ c

/-- The next token is taken if it is of the given class. -/
theorem run_eat (input : Input) (kind : TokenKind) (c : Cursor) : (eat input kind).run c =
    if next? (input.ahead c) = some kind then .ok true c.next else .ok false c := by
  unfold eat
  rw [run_bind_of_ok (run_peek input c)]
  show EStateM.run (if next? (input.ahead c) = some kind then _ else _) c = _
  by_cases h : next? (input.ahead c) = some kind
  · obtain ⟨t, ts, hahead, -⟩ := next_of_next? h
    rw [if_pos h, if_pos h]
    exact run_bind_of_ok (run_advance hahead) _
  · rw [if_neg h, if_neg h]
    rfl

/-- A subtraction that does not go below zero succeeds. -/
theorem run_minus {n m : Nat} (h : m ≤ n) (c : Cursor) : (minus n m).run c = .ok (n - m) c := by
  unfold minus
  rw [if_pos h]
  rfl

section

variable {σ : Type} {turn : σ → Walk (σ ⊕ α)} {x : σ} {c' : Cursor}

/-- A loop runs its turn, and the rest of the loop if the turn goes on and has moved the cursor. -/
theorem run_loop (input : Input) (turn : σ → Walk (σ ⊕ α)) (x : σ) (c : Cursor) :
    (loop input turn x).run c = match (turn x).run c with
      | .error e c' => .error e c'
      | .ok (.inr a) c' => .ok a c'
      | .ok (.inl y) c' =>
        if c.pos < c'.pos ∧ c'.pos ≤ input.tokens.length then (loop input turn y).run c'
        else .error (.panic .stalled) c' := by
  show loop input turn x c = _
  rw [loop]
  cases (turn x).run c with
  | error e c' => rfl
  | ok y c' => cases y <;> rfl

/-- A loop goes on after a turn that took a token. -/
theorem run_loop_inl {y : σ} (hturn : (turn x).run c = .ok (.inl y) c')
    (h : c.After input 1 c') : (loop input turn x).run c = (loop input turn y).run c' := by
  have hpos := h.pos
  rw [run_loop, hturn]
  exact if_pos ⟨by omega, h.inRange⟩

/-- A loop ends with what a turn gives in the end. -/
theorem run_loop_inr {a : α} (hturn : (turn x).run c = .ok (.inr a) c') :
    (loop input turn x).run c = .ok a c' := by
  rw [run_loop, hturn]

/-- A loop fails as a turn of it does. -/
theorem run_loop_error {e : Crash} (hturn : (turn x).run c = .error e c') :
    (loop input turn x).run c = .error e c' := by
  rw [run_loop, hturn]

end

/-! ## Agreement -/

namespace Agrees

variable {view : α → List Token → γ} {r : Except ReadFault γ} {n m : Nat}

/-- What a run gives where the other reader gives a value. -/
theorem exists_of_ok {y : EStateM.Result Crash Cursor α} {v : γ}
    (h : Agrees input c n view (.ok v) y) :
    ∃ a c', y = .ok a c' ∧ c.After input n c' ∧ view a (input.ahead c') = v := by
  generalize hr : Except.ok v = r at h
  cases h with
  | ok h' => exact ⟨_, _, rfl, h', (Except.ok.inj hr).symm⟩
  | fault => cases hr

/-- What a run gives where the other reader finds a fault. -/
theorem exists_of_error {y : EStateM.Result Crash Cursor α} {e : ReadFault}
    (h : Agrees input c n view (.error e) y) :
    ∃ c', y = .error (.fault (locate input.list e)) c' ∧ c'.depth = c.depth := by
  cases h with
  | fault hdepth => exact ⟨_, rfl, hdepth⟩

/-- A run that agrees from a later cursor agrees from the cursor before, which it then has left
behind by as many tokens. -/
theorem later {c' : Cursor} {y : EStateM.Result Crash Cursor α} (h : c.After input n c')
    (hy : Agrees input c' 0 view r y) : Agrees input c n view r y := by
  cases hy with
  | ok h' => exact .ok (h.trans h')
  | fault hdepth => exact .fault (hdepth.trans h.depth)

/-- A run that agrees some tokens later agrees fewer tokens later too. -/
theorem mono {y : EStateM.Result Crash Cursor α} (hmn : m ≤ n) (hy : Agrees input c n view r y) :
    Agrees input c m view r y := by
  cases hy with
  | ok h => exact .ok (h.weaken hmn)
  | fault hdepth => exact .fault hdepth

/-- A run that agrees some tokens later agrees with no bound on the tokens. -/
theorem relax {y : EStateM.Result Crash Cursor α} (hy : Agrees input c n view r y) :
    Agrees input c 0 view r y :=
  hy.mono (Nat.zero_le n)

/-- A run that only gives a value agrees with reading that gives the value and all tokens ahead. -/
theorem pure (h : c.InRange input) (a : α) :
    Agrees input c 0 view (.ok (view a (input.ahead c))) ((pure a : Walk α).run c) :=
  .ok (after_self h)

/-- A fault of the cursor agrees with the fault of a reader at the tokens ahead. -/
theorem fail (fault : SourceFault) : Agrees input c n view
    (failAt (input.ahead c) fault : Reading γ).result ((fail input fault).run c) := by
  rw [run_fail]
  exact .fault rfl

/-- A report of an unexpected token agrees with that of a reader at the tokens ahead. -/
theorem unexpected (what : String) : Agrees input c n view
    (expected what (input.ahead c) : Reading γ).result ((unexpected input what).run c) := by
  rw [run_unexpected]
  exact .fault rfl

/-- Readers in sequence agree if they do so one by one. The first has to move as far as both do. -/
theorem bind {x : Walk α} {k : α → Walk β} {f : Reading γ} {g : γ → Reading δ}
    {view' : β → List Token → δ} (hx : Agrees input c n view f.result (x.run c))
    (hk : ∀ a c', c.After input n c' →
      Agrees input c' 0 view' (g (view a (input.ahead c'))).result ((k a).run c')) :
    Agrees input c n view' (f >>= g).result ((x >>= k).run c) := by
  rw [Logged.result_bind, EStateM.run_bind]
  generalize f.result = r at hx
  generalize x.run c = y at hx
  cases hx with
  | ok h => exact (hk _ _ h).later h
  | fault hdepth => exact .fault hdepth

/-- A value that is made of what was read. -/
theorem map {x : Walk α} {g : α → β} {view' : β → List Token → γ}
    (hx : Agrees input c n view r (x.run c)) (hview : ∀ a ts, view a ts = view' (g a) ts) :
    Agrees input c n view' r ((x >>= fun a => Pure.pure (g a)).run c) := by
  rw [EStateM.run_bind]
  generalize x.run c = y at hx
  cases hx with
  | ok h =>
    rw [hview]
    exact .ok h
  | fault hdepth => exact .fault hdepth

end Agrees

/-! ## Loops -/

/-- What a turn of a loop does to what is still to be read: the loop goes on at least some tokens
later with the same to come, or ends as reading does. -/
inductive Turns {σ : Type} (input : Input) (c : Cursor) (least : Nat)
    (view : α → List Token → γ) (reader : σ → List Token → Except ReadFault γ) :
    Except ReadFault γ → EStateM.Result Crash Cursor (σ ⊕ α) → Prop where
  | goOn {x : σ} {c' : Cursor} (h : c.After input least c') :
      Turns input c least view reader (reader x (input.ahead c')) (.ok (.inl x) c')
  | done {a : α} {c' : Cursor} (h : c.After input 0 c') :
      Turns input c least view reader (.ok (view a (input.ahead c'))) (.ok (.inr a) c')
  | fault {e : ReadFault} {c' : Cursor} (hdepth : c'.depth = c.depth) :
      Turns input c least view reader (.error e) (.error (.fault (locate input.list e)) c')

namespace Turns

variable {σ : Type} {view : β → List Token → δ} {reader : σ → List Token → Except ReadFault δ}
  {n m : Nat}

/-- A turn from a later cursor is one from the cursor before, which it then has left further behind.
-/
theorem later {c' : Cursor} {r : Except ReadFault δ} {y : EStateM.Result Crash Cursor (σ ⊕ β)}
    (h : c.After input n c') (hy : Turns input c' m view reader r y) :
    Turns input c (n + m) view reader r y := by
  cases hy with
  | goOn h' => exact .goOn (h.trans h')
  | done h' => exact .done ((h.trans h').weaken (Nat.zero_le _))
  | fault hdepth => exact .fault (hdepth.trans h.depth)

/-- A turn begins with some reader and goes on as a turn does. -/
theorem bind {x : Walk α} {k : α → Walk (σ ⊕ β)} {f : Reading γ} {g : γ → Reading δ}
    {view' : α → List Token → γ} (hx : Agrees input c n view' f.result (x.run c))
    (hk : ∀ a c', c.After input n c' →
      Turns input c' 0 view reader (g (view' a (input.ahead c'))).result ((k a).run c')) :
    Turns input c n view reader (f >>= g).result ((x >>= k).run c) := by
  rw [Logged.result_bind, EStateM.run_bind]
  generalize f.result = r at hx
  generalize x.run c = y at hx
  cases hx with
  | ok h => exact (hk _ _ h).later h
  | fault hdepth => exact .fault hdepth

/-- The loop goes on after one token. -/
theorem advance {t : Token} {ts : List Token} (h : input.ahead c = t :: ts) (x : σ) :
    Turns input c 1 view reader (reader x ts)
      ((Walk.advance input >>= fun () => Pure.pure (.inl x)).run c) := by
  rw [run_bind_of_ok (run_advance h), ← ahead_next h]
  exact .goOn (after_next h)

/-- The loop ends after one token. -/
theorem last {t : Token} {ts : List Token} (h : input.ahead c = t :: ts) (b : β) :
    Turns input c n view reader (.ok (view b ts))
      ((Walk.advance input >>= fun () => Pure.pure (.inr b)).run c) := by
  rw [run_bind_of_ok (run_advance h), ← ahead_next h]
  exact .done ((after_next h).weaken (Nat.zero_le 1))

/-- A turn that raises a fault does so as a reader at the tokens ahead. -/
theorem fail (fault : SourceFault) : Turns input c n view reader
    (failAt (input.ahead c) fault : Reading δ).result ((Walk.fail input fault).run c) := by
  rw [run_fail]
  exact .fault rfl

/-- A turn that reports an unexpected token does so as a reader at the tokens ahead. -/
theorem unexpected (what : String) : Turns input c n view reader
    (expected what (input.ahead c) : Reading δ).result ((Walk.unexpected input what).run c) := by
  rw [run_unexpected]
  exact .fault rfl

end Turns

/-- A loop agrees with a reader that takes as many turns as there are tokens if every turn does what
one turn of the reader does. -/
theorem loop_agrees {σ : Type} {turn : σ → Walk (σ ⊕ α)} {view : α → List Token → γ}
    {reader : Nat → σ → List Token → Except ReadFault γ}
    (hturn : ∀ n x c', c.After input 0 c' →
      Turns input c' 1 view (reader n) (reader (n + 1) x (input.ahead c')) ((turn x).run c'))
    (n : Nat) (x : σ) (hc : c.InRange input) (hn : (input.ahead c).length < n) :
    Agrees input c 0 view (reader n x (input.ahead c)) ((loop input turn x).run c) := by
  induction n generalizing x c with
  | zero => omega
  | succ n ih =>
    have h := hturn n x c (after_self hc)
    generalize reader (n + 1) x (input.ahead c) = r at h
    generalize hy : (turn x).run c = y at h
    cases h with
    | goOn h =>
      rename_i z c'
      -- every turn leaves fewer tokens ahead, so that the turns suffice
      have hshort := length_ahead input c
      have hlong := length_ahead input c'
      have hpos := h.pos
      have hlast : c'.pos ≤ input.tokens.length := h.inRange
      have hlater := h.weaken (Nat.zero_le 1)
      rw [run_loop_inl hy h]
      exact (ih (fun m y c'' h'' => hturn m y c'' (hlater.trans h'')) z h.inRange
        (by omega)).later hlater
    | done h =>
      rw [run_loop_inr hy]
      exact .ok h
    | fault hdepth =>
      rw [run_loop_error hy]
      exact .fault hdepth

/-! ## Single tokens -/

/-- A token of another class is not taken. -/
theorem expectKind_of_ne {ts : List Token} {kind : TokenKind} (h : next? ts ≠ some kind)
    (what : String) : expectKind kind what ts = expected what ts := by
  cases ts with
  | nil => rfl
  | cons t ts => exact if_neg fun hkind => h (congrArg some hkind)

/-- A token of another class is not passed over. -/
theorem skipKind_of_ne {ts : List Token} {kind : TokenKind} (h : next? ts ≠ some kind) :
    skipKind kind ts = ts := by
  cases ts with
  | nil => rfl
  | cons t ts => exact if_neg fun hkind => h (congrArg some hkind)

/-- A token of a given class is taken, or missed, alike with the cursor and from the list. -/
theorem expect_agrees (input : Input) (c : Cursor) (kind : TokenKind) (what : String) :
    Agrees input c 1 leaves (expectKind kind what (input.ahead c)).result
      ((expect input kind what).run c) := by
  unfold expect
  rw [EStateM.run_bind, run_eat]
  by_cases h : next? (input.ahead c) = some kind
  · obtain ⟨t, ts, hahead, ht⟩ := next_of_next? h
    rw [if_pos h, hahead, expectKind, if_pos ht, ← ahead_next hahead]
    exact .ok (after_next hahead)
  · rw [if_neg h, expectKind_of_ne h]
    exact .unexpected what

/-- A name is taken, or missed, alike with the cursor and from the list. -/
theorem expectIdent_agrees (input : Input) (c : Cursor) :
    Agrees input c 1 Prod.mk (identifier (input.ahead c)).result ((expectIdent input).run c) := by
  unfold expectIdent
  rw [run_bind_of_ok (run_peek input c)]
  cases hahead : input.ahead c with
  | nil =>
    rw [identifier, List.head?_nil]
    dsimp only
    rw [← hahead]
    exact .unexpected "identifier"
  | cons t ts =>
    rw [identifier, List.head?_cons]
    dsimp only
    by_cases h : t.kind = .ident
    · rw [if_pos h, if_pos h, run_bind_of_ok (run_advance hahead), ← ahead_next hahead]
      exact .ok (after_next hahead)
    · rw [if_neg h, if_neg h, ← hahead]
      exact .unexpected "identifier"

/-- Taking a token that need not be there. -/
theorem eat_skips (hc : c.InRange input) (kind : TokenKind) :
    ∃ b c', (eat input kind).run c = .ok b c' ∧ c.After input 0 c' ∧
      input.ahead c' = skipKind kind (input.ahead c) := by
  rw [run_eat]
  by_cases h : next? (input.ahead c) = some kind
  · obtain ⟨t, ts, hahead, ht⟩ := next_of_next? h
    rw [if_pos h, hahead, skipKind, if_pos ht]
    exact ⟨true, c.next, rfl, (after_next hahead).weaken (Nat.zero_le 1), ahead_next hahead⟩
  · rw [if_neg h, skipKind_of_ne h]
    exact ⟨false, c, rfl, after_self hc, rfl⟩

/-- Passing over tokens of some classes. -/
theorem skipWhile_skips (hc : c.InRange input) (p : TokenKind → Bool) :
    ∃ c', (skipWhile input p).run c = .ok () c' ∧ c.After input 0 c' ∧
      input.ahead c' = (input.ahead c).dropWhile fun t => p t.kind := by
  unfold skipWhile
  generalize hts : input.ahead c = ts
  induction ts generalizing c with
  | nil =>
    refine ⟨c, run_loop_inr ?_, after_self hc, hts⟩
    rw [run_bind_of_ok (run_peek input c), hts]
    rfl
  | cons t ts ih =>
    cases hp : p t.kind with
    | true =>
      have hturn := after_next hts
      obtain ⟨c', hrun, hafter, hahead⟩ := ih hturn.inRange (ahead_next hts)
      refine ⟨c', ?_, (hturn.trans hafter).weaken (Nat.zero_le _), ?_⟩
      · rw [← hrun]
        refine run_loop_inl ?_ hturn
        rw [run_bind_of_ok (run_peek input c), hts]
        simp only [List.head?_cons, Option.any_some, hp, if_true]
        exact run_bind_of_ok (run_advance hts) _
      · rw [hahead, List.dropWhile_cons, hp, if_pos rfl]
    | false =>
      refine ⟨c, run_loop_inr ?_, after_self hc, ?_⟩
      · rw [run_bind_of_ok (run_peek input c), hts]
        simp only [List.head?_cons, Option.any_some, hp, Bool.false_eq_true, if_false]
        rfl
      · rw [hts, List.dropWhile_cons, hp, if_neg (by decide)]

end Walk

end CodecGen
