import CodecGen.Proofs.Cursor.Lexer
import CodecGen.Proofs.Cursor.Steps

/-!
# Loops that pass over tokens

What a cursor is moved past in one loop: statements, bracketed groups, the lengths of arrays and the
names of fields. One turn of each loop is one step of the reader on a list of tokens that it agrees
with, and takes a token. The text of a length is cut out of the source where it stands
(`run_lengthText`).
-/

namespace CodecGen.Walk

open Package (next? lengthTokens namesAfter nameAwaited)

variable {input : Input} {c : Cursor}

/-! ## Brackets -/

/-- A turn of the loop over a statement passes over one token, and counts brackets as reading does.
-/
theorem statementTurn_turns (depth : Nat) (hc : c.InRange input) :
    Turns input c 1 leaves (fun depth ts => (Package.skipStatement depth ts).result)
      (Package.skipStatement depth (input.ahead c)).result ((statementTurn input depth).run c) := by
  unfold statementTurn
  rw [run_bind_of_ok (run_peek input c)]
  cases hahead : input.ahead c with
  | nil =>
    rw [Package.skipStatement, List.head?_nil, ← hahead]
    dsimp only
    by_cases h : depth = 0
    · rw [if_pos h, if_neg (by omega)]
      exact .done (after_self hc)
    · rw [if_neg h, if_pos (by omega)]
      exact .fail .unbalanced
  | cons t ts =>
    rw [Package.skipStatement, List.head?_cons]
    dsimp only
    -- the checks come in the same order on both sides
    by_cases hopens : t.kind.opens = true
    · rw [if_pos hopens, if_pos hopens]
      exact .advance hahead (depth + 1)
    rw [if_neg hopens, if_neg hopens]
    by_cases hcloses : t.kind.closes = true
    · rw [if_pos hcloses, if_pos hcloses]
      by_cases hdepth : depth = 0
      · rw [if_pos hdepth, if_pos hdepth, ← hahead]
        exact .unexpected "declaration"
      · rw [if_neg hdepth, if_neg hdepth, run_bind_of_ok (run_minus (by omega) c)]
        exact .advance hahead (depth - 1)
    rw [if_neg hcloses, if_neg hcloses]
    by_cases hends : depth = 0 ∧ t.kind.isSeparator = true
    · rw [if_pos hends, if_pos hends, ← hahead]
      exact .done (after_self hc)
    · rw [if_neg hends, if_neg hends]
      exact .advance hahead depth

/-- The rest of a statement is passed over alike with the cursor and from the list, at any depth of
brackets. -/
theorem skipStatement_agrees (depth : Nat) (hc : c.InRange input) :
    Agrees input c 0 leaves (Package.skipStatement depth (input.ahead c)).result
      ((loop input (statementTurn input) depth).run c) :=
  loop_agrees (fun _ depth _ h => statementTurn_turns depth h.inRange) _ depth hc
    (Nat.lt_succ_self _)

/-- A statement does not end at its first token, unless that is a separator. -/
theorem statementTurn_ne_done {t : Token} {ts : List Token} (hahead : input.ahead c = t :: ts)
    (ht : t.kind.isSeparator = false) (a : Unit) (c' : Cursor) :
    (statementTurn input 0).run c ≠ .ok (.inr a) c' := by
  unfold statementTurn
  rw [run_bind_of_ok (run_peek input c), hahead, List.head?_cons]
  dsimp only
  by_cases hopens : t.kind.opens = true
  · rw [if_pos hopens, run_bind_of_ok (run_advance hahead)]
    exact nofun
  rw [if_neg hopens]
  by_cases hcloses : t.kind.closes = true
  · rw [if_pos hcloses, if_pos rfl, run_unexpected]
    exact nofun
  rw [if_neg hcloses, ht, if_neg (by simp), run_bind_of_ok (run_advance hahead)]
  exact nofun

/-- A statement that does not begin with a separator takes a token. -/
theorem skipStatement_agrees_start {t : Token} {ts : List Token} (hahead : input.ahead c = t :: ts)
    (ht : t.kind.isSeparator = false) :
    Agrees input c 1 leaves (Package.skipStatement 0 (input.ahead c)).result
      ((skipStatement input).run c) := by
  have hc : c.InRange input := Nat.le_of_lt (pos_lt hahead)
  have hturn := statementTurn_turns 0 hc
  unfold skipStatement
  generalize hr : (Package.skipStatement 0 (input.ahead c)).result = r at hturn
  generalize hy : (statementTurn input 0).run c = y at hturn
  cases hturn with
  | goOn h =>
    rw [run_loop_inl hy h]
    exact (skipStatement_agrees _ h.inRange).later h
  | done h => exact absurd hy (statementTurn_ne_done hahead ht _ _)
  | fault hdepth =>
    rw [run_loop_error hy]
    exact .fault hdepth

/-- A turn of the loop over a group passes over one token, and counts brackets as reading does. -/
theorem groupTurn_turns (depth : Nat) :
    Turns input c 1 leaves (fun depth ts => (Package.skipGroup depth ts).result)
      (Package.skipGroup depth (input.ahead c)).result ((groupTurn input depth).run c) := by
  unfold groupTurn
  rw [run_bind_of_ok (run_peek input c)]
  cases hahead : input.ahead c with
  | nil =>
    rw [Package.skipGroup, List.head?_nil, ← hahead]
    exact .fail .unbalanced
  | cons t ts =>
    rw [Package.skipGroup, List.head?_cons]
    dsimp only
    by_cases hopens : t.kind.opens = true
    · rw [if_pos hopens, if_pos hopens]
      exact .advance hahead (depth + 1)
    rw [if_neg hopens, if_neg hopens]
    by_cases hcloses : t.kind.closes = true
    · rw [if_pos hcloses, if_pos hcloses]
      by_cases hdepth : depth ≤ 1
      · rw [if_pos hdepth, if_pos (by omega)]
        exact .last hahead ()
      · rw [if_neg hdepth, if_neg (by omega)]
        exact .advance hahead (depth - 1)
    · rw [if_neg hcloses, if_neg hcloses]
      exact .advance hahead depth

/-- A group of brackets is passed over alike with the cursor and from the list. -/
theorem skipGroup_agrees (hc : c.InRange input) :
    Agrees input c 0 leaves (Package.skipGroup 0 (input.ahead c)).result
      ((skipGroup input).run c) :=
  loop_agrees (fun _ depth _ _ => groupTurn_turns depth) _ 0 hc (Nat.lt_succ_self _)

/-- A group that has to begin with a given bracket is passed over, or missed, alike with the cursor
and from the list. -/
theorem expectGroup_agrees (hc : c.InRange input) (kind : TokenKind) (what : String) :
    Agrees input c 0 leaves (Package.expectGroup kind what (input.ahead c)).result
      ((expectGroup input kind what).run c) := by
  unfold expectGroup Package.expectGroup
  rw [run_bind_of_ok (run_peek input c)]
  show Agrees input c 0 leaves _
    (EStateM.run (if next? (input.ahead c) = some kind then _ else _) c)
  by_cases h : next? (input.ahead c) = some kind
  · rw [if_pos h, if_pos h]
    exact skipGroup_agrees hc
  · rw [if_neg h, if_neg h]
    exact .unexpected what

/-! ## Array lengths -/

/-- The tokens are those that are read from the source. -/
def IsScan (input : Input) : Prop :=
  input.tokens = Spanned.spansFrom 0 input.list ∧
    ∃ tail, input.source = Token.source input.list ++ tail

/-- The tokens of a length are those up to the bracket that ends it. -/
theorem lengthTokens_split {depth : Nat} {ts len rest : List Token}
    (h : (lengthTokens depth ts).result = .ok (len, rest)) :
    ts = len ++ rest ∧ next? rest = some .rbracket := by
  induction ts generalizing depth len with
  | nil => cases h
  | cons t ts ih =>
    rw [lengthTokens] at h
    by_cases hend : t.kind = .rbracket ∧ depth = 0
    · rw [if_pos hend] at h
      cases h
      exact ⟨rfl, congrArg some hend.1⟩
    · rw [if_neg hend] at h
      obtain ⟨⟨len', rest'⟩, hmore, hpure⟩ := Logged.exists_of_result_bind h
      cases hpure
      obtain ⟨hts, hrest⟩ := ih hmore
      exact ⟨by rw [hts, List.cons_append], hrest⟩

/-- What is left after a length does not depend on its tokens. -/
theorem lengthTokens_rest (depth : Nat) (t : Token) (ts : List Token) :
    (do
      let (len, rest) ← lengthTokens depth ts
      pure (t :: len, rest) : Reading (List Token × List Token)).result.map Prod.snd =
      (lengthTokens depth ts).result.map Prod.snd := by
  rw [Logged.result_bind]
  cases (lengthTokens depth ts).result <;> rfl

/-- A turn of the loop over an array length takes one token of it, up to the bracket that closes it.
-/
theorem lengthTurn_turns (depth : Nat) (hc : c.InRange input) :
    Turns input c 1 leaves (fun depth ts => (lengthTokens depth ts).result.map Prod.snd)
      ((lengthTokens depth (input.ahead c)).result.map Prod.snd)
      ((lengthTurn input depth).run c) := by
  unfold lengthTurn
  rw [run_bind_of_ok (run_peek input c)]
  cases hahead : input.ahead c with
  | nil =>
    rw [lengthTokens, List.head?_nil, ← hahead]
    exact .fail .unterminatedLength
  | cons t ts =>
    rw [lengthTokens, List.head?_cons]
    dsimp only
    by_cases hend : t.kind = .rbracket ∧ depth = 0
    · rw [if_pos hend, if_pos hend, ← hahead]
      exact .done (after_self hc)
    rw [if_neg hend, if_neg hend, lengthTokens_rest]
    by_cases hopens : t.kind = .lbracket ∨ t.kind = .lparen
    · rw [if_pos hopens, if_pos hopens]
      exact .advance hahead (depth + 1)
    rw [if_neg hopens, if_neg hopens]
    by_cases hcloses : t.kind = .rbracket ∨ t.kind = .rparen
    · rw [if_pos hcloses, if_pos hcloses]
      exact .advance hahead (depth - 1)
    · rw [if_neg hcloses, if_neg hcloses]
      exact .advance hahead depth

/-- Between two positions stands the text of the tokens there. -/
theorem run_lengthText (hinput : IsScan input) {c' : Cursor} {len rest : List Token}
    (hc : c.InRange input) (hc' : c'.InRange input) (hlen : len ≠ [])
    (hahead : input.ahead c = len ++ rest) (hrest : input.ahead c' = rest) :
    (lengthText input c.pos c'.pos).run c' =
      .ok (String.ofList (Text.trim (Token.spanText len))) c' := by
  obtain ⟨htokens, tail, hsource⟩ := hinput
  have hlist : input.list = input.list.take c.pos ++ (len ++ rest) := by
    rw [← hahead, Input.ahead, List.map_drop]
    exact (List.take_append_drop _ _).symm
  have hpos : (input.list.take c.pos).length = c.pos := by
    rw [List.length_take, Input.list, List.length_map]
    exact Nat.min_eq_left hc
  -- both cursors are in range, so the distance between them is the length of what was read
  have hpos' : c'.pos = c.pos + len.length := by
    have hlong := length_ahead input c
    have hshort := length_ahead input c'
    have hle : c.pos ≤ input.tokens.length := hc
    have hle' : c'.pos ≤ input.tokens.length := hc'
    rw [hahead, List.length_append] at hlong
    rw [hrest] at hshort
    omega
  have hlength := List.length_pos_iff.mpr hlen
  obtain ⟨first, last, hfirst, hlast, hslice⟩ :=
    Spanned.slice?_spansFrom (input.list.take c.pos) hlen rest tail
  rw [← hlist, ← htokens, hpos] at hfirst hlast
  rw [← hlist, ← hsource] at hslice
  unfold lengthText
  rw [run_bind_of_ok (run_minus (by omega) c'), hpos', hfirst, hlast]
  dsimp only
  rw [if_pos (by omega), hslice]
  rfl

/-- A length is never empty, since it does not begin with the bracket that ends it. -/
theorem arrayLength_agrees (hinput : IsScan input) (hc : c.InRange input)
    (h : next? (input.ahead c) ≠ some .rbracket) :
    Agrees input c 0 Prod.mk (lengthTokens 0 (input.ahead c) >>= fun p =>
      pure (String.ofList (Text.trim (Token.spanText p.1)), p.2.tail)).result
      ((arrayLength input).run c) := by
  have hloop : Agrees input c 0 leaves ((lengthTokens 0 (input.ahead c)).result.map Prod.snd)
      ((loop input (lengthTurn input) 0).run c) :=
    loop_agrees (fun _ depth _ h => lengthTurn_turns depth h.inRange) _ 0 hc (Nat.lt_succ_self _)
  unfold arrayLength
  rw [Logged.result_bind, EStateM.run_bind, EStateM.run_get]
  dsimp only
  cases hlist : (lengthTokens 0 (input.ahead c)).result with
  | error e =>
    rw [hlist] at hloop
    obtain ⟨c', hrun, hdepth⟩ := hloop.exists_of_error
    rw [EStateM.run_bind, hrun]
    exact .fault hdepth
  | ok p =>
    obtain ⟨len, rest⟩ := p
    rw [hlist] at hloop
    obtain ⟨⟨⟩, c', hrun, hc', hrest⟩ := hloop.exists_of_ok
    obtain ⟨hsplit, hbracket⟩ := lengthTokens_split hlist
    -- an empty length would put the bracket first
    have hlen : len ≠ [] := by
      rintro rfl
      rw [hsplit] at h
      exact h hbracket
    change input.ahead c' = rest at hrest
    obtain ⟨t, ts, hahead, -⟩ := next_of_next? (hrest ▸ hbracket)
    have htail : rest.tail = input.ahead c'.next := by
      rw [← hrest, hahead, ahead_next hahead]
      rfl
    -- the text of the length is cut out between its first and its last token
    rw [run_bind_of_ok hrun, EStateM.run_bind, EStateM.run_get]
    dsimp only [Except.bind]
    rw [run_bind_of_ok (run_lengthText hinput hc hc'.inRange hlen hsplit hrest),
      run_bind_of_ok (run_advance hahead), htail]
    exact .ok ((hc'.trans (after_next hahead)).weaken (Nat.zero_le _))

/-! ## Gathering -/

/-- A list that goes on with what a reader of lists reads. -/
def gather {α : Type} (xs : List α) (f : Reading (List α × List Token)) :
    Reading (List α × List Token) :=
  f >>= fun p => pure (xs ++ p.1, p.2)

section

variable {α β : Type} (xs ys : List α)

/-- What is gathered of two readers in a row is what is gathered of the second. -/
theorem gather_bind (f : Reading β) (g : β → Reading (List α × List Token)) :
    gather xs (f >>= g) = f >>= fun b => gather xs (g b) :=
  Logged.bind_assoc f g _

/-- A reader after one that gathers gets what is gathered. -/
theorem gather_bind_left (f : Reading (List α × List Token))
    (g : List α × List Token → Reading β) :
    gather xs f >>= g = f >>= fun p => g (xs ++ p.1, p.2) :=
  Logged.bind_assoc f _ g

/-- What is gathered of a gathering reader comes after both lists. -/
theorem gather_append (f : Reading (List α × List Token)) :
    gather xs (f >>= fun p => pure (ys ++ p.1, p.2)) = gather (xs ++ ys) f := by
  rw [gather_bind]
  unfold gather
  simp only [List.append_assoc]
  rfl

/-- Nothing is gathered before a list that goes on with no other. -/
theorem gather_nil (f : Reading (List α × List Token)) : gather [] f = f :=
  Logged.bind_pure f

end

/-! ## Names -/

/-- A name after a comma is read as any other, line ends apart. -/
theorem nameAwaited_eq (ts : List Token) :
    nameAwaited ts = (do
      let (name, ts) ← Package.identifier (ts.dropWhile fun t => t.kind.isNewline)
      let (names, ts) ← namesAfter ts
      pure (name :: names, ts)) := by
  induction ts with
  | nil =>
    rw [nameAwaited]
    rfl
  | cons t ts ih =>
    rw [nameAwaited]
    by_cases hnewline : t.kind.isNewline = true
    · rw [if_pos hnewline, ih, List.dropWhile_cons, if_pos hnewline]
    · rw [if_neg hnewline, List.dropWhile_cons, if_neg hnewline, Package.identifier]
      by_cases hident : t.kind = .ident
      · rw [if_pos hident, if_pos hident]
        rfl
      · rw [if_neg hident, if_neg hident]
        rfl

/-- A turn of the loop over names reads a comma and a name, or ends where no name is awaited. -/
theorem nameTurn_turns (names : List String) (hc : c.InRange input) :
    Turns input c 1 Prod.mk (fun names ts => (gather names (namesAfter ts)).result)
      (gather names (namesAfter (input.ahead c))).result ((nameTurn input names).run c) := by
  unfold nameTurn
  rw [EStateM.run_bind, run_eat]
  by_cases h : next? (input.ahead c) = some .comma
  · obtain ⟨t, ts, hahead, ht⟩ := next_of_next? h
    have hnext := after_next hahead
    obtain ⟨c', hskip, hc', hdrop⟩ := skipWhile_skips hnext.inRange TokenKind.isNewline
    rw [if_pos h, hahead, namesAfter, if_pos ht, nameAwaited_eq, gather_bind, ← ahead_next hahead,
      ← hdrop]
    dsimp only
    rw [if_pos rfl, run_bind_of_ok hskip]
    -- one comma, any line ends, and a name are passed over in one turn
    refine .later (n := 1) (m := 0) (hnext.trans hc') (.bind (expectIdent_agrees input c').relax ?_)
    intro name c'' hc''
    change Turns input c'' 0 Prod.mk _ (gather names (namesAfter (input.ahead c'') >>= fun p =>
      pure ([name] ++ p.1, p.2))).result _
    rw [gather_append]
    exact .goOn (after_self hc''.inRange)
  · have hnames : namesAfter (input.ahead c) = pure ([], input.ahead c) := by
      cases hahead : input.ahead c with
      | nil => rw [namesAfter]
      | cons t ts =>
        rw [hahead] at h
        rw [namesAfter, if_neg fun ht => h (congrArg some ht)]
    rw [if_neg h, hnames]
    change Turns input c 1 Prod.mk _ (.ok (names ++ [], input.ahead c)) _
    rw [List.append_nil]
    exact .done (after_self hc)

/-- The names after the first are read alike with the cursor and from the list. -/
theorem names_agrees (names : List String) (hc : c.InRange input) :
    Agrees input c 0 Prod.mk (gather names (namesAfter (input.ahead c))).result
      ((loop input (nameTurn input) names).run c) :=
  loop_agrees (fun _ names _ h => nameTurn_turns names h.inRange) _ names hc (Nat.lt_succ_self _)

end CodecGen.Walk
