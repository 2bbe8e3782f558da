import CodecGen.Proofs.Cursor.Types
import CodecGen.Proofs.Package.Nesting

/-!
# Reading declarations by a cursor

The readers of declarations and of whole sources on a cursor agree with those on lists of tokens, so
that both ways of reading a source are the same (`parse_eq`). What reading from lists cannot show
then holds of it: no check on the way fails (`parse_safe`).
-/

namespace CodecGen.Walk

open Package (next?)

variable {input : Input} {c : Cursor}

/-- Looking for type parameters with the cursor tells what the tokens ahead tell, and moves nothing.
-/
theorem run_atTypeParams (input : Input) (c : Cursor) :
    (atTypeParams input).run c = .ok (Package.atTypeParams (input.ahead c)) c := by
  unfold atTypeParams
  rw [run_bind_of_ok (run_peek input c), run_bind_of_ok (run_peekAt input 1 c),
    run_bind_of_ok (run_peekAt input 2 c)]
  generalize input.ahead c = ts
  rcases ts with _ | ⟨⟨kind, gap, text, line⟩, _ | ⟨⟨kind', gap', text', line'⟩, _ | ⟨u, us⟩⟩⟩
  · rfl
  · cases kind <;> rfl
  · cases kind <;> cases kind' <;> rfl
  · cases kind <;> cases kind' <;> rfl

/-- The declarations that one specification adds. -/
theorem typeSpec_agrees (hinput : IsScan input) (decls : List TypeDecl) (hdepth : c.depth = 0) :
    Agrees input c 1 Prod.mk
      (gather decls (Package.typeSpec (input.ahead c) >>= fun p => pure (p.1.toList, p.2))).result
      ((typeSpec input decls).run c) := by
  have htype := typeExpr_follows hinput maxTypeDepth 0 (Nat.zero_add _)
  rw [← hdepth] at htype
  unfold typeSpec Package.typeSpec
  dsimp only
  rw [Logged.bind_assoc, gather_bind]
  refine .bind (expectIdent_agrees input c) fun name c₁ hc₁ => ?_
  dsimp only
  rw [run_bind_of_ok (run_atTypeParams input c₁)]
  by_cases hparams : Package.atTypeParams (input.ahead c₁) = true
  · rw [if_pos hparams, if_pos hparams, Logged.bind_assoc, gather_bind]
    refine .bind (skipGroup_agrees hc₁.inRange) fun _ c₂ hc₂ => ?_
    obtain ⟨_, c₃, hrun, hc₃, hskip⟩ := eat_skips hc₂.inRange .assign
    rw [run_bind_of_ok hrun, ← hskip, Logged.bind_assoc, gather_bind]
    refine .later hc₃ (.bind (htype.after (hc₁.trans (hc₂.trans hc₃))) fun type c₄ hc₄ => ?_)
    change Agrees input c₄ 0 Prod.mk (.ok (decls ++ [], input.ahead c₄)) _
    rw [List.append_nil]
    exact .pure hc₄.inRange decls
  · rw [if_neg hparams, if_neg hparams, Logged.bind_assoc, gather_bind]
    obtain ⟨_, c₂, hrun, hc₂, hskip⟩ := eat_skips hc₁.inRange .assign
    rw [run_bind_of_ok hrun, ← hskip]
    refine .later hc₂ (.bind (htype.after (hc₁.trans hc₂)) fun type c₃ hc₃ => ?_)
    exact .pure hc₃.inRange (decls ++ [⟨name, type⟩])

/-! ## Groups -/

/-- What is read of a group after some declarations, which something has to stand between. -/
def groupRest (turns : Nat) (p : List TypeDecl × List Token) :
    Reading (List TypeDecl × List Token) :=
  match next? p.2 with
  | some kind =>
    if kind.isSeparator ∨ kind = .rparen then gather p.1 (Package.typeGroup turns p.2)
    else Reading.expected "newline or `)`" p.2
  | none => Reading.expected "newline or `)`" p.2

/-- A group that goes on is read as its next declaration and the rest, after the declarations that
are gathered so far. -/
theorem gather_typeGroup {t : Token} {ts us : List Token} (decls : List TypeDecl) (turns : Nat)
    (hts : Package.skipSeparators ts = t :: us) (ht : t.kind ≠ .rparen) :
    gather decls (Package.typeGroup (turns + 1) ts) =
      gather decls (Package.typeSpec (t :: us) >>= fun p => pure (p.1.toList, p.2)) >>=
        groupRest turns := by
  rw [Package.typeGroup, hts]
  dsimp only
  rw [if_neg ht, gather_bind, gather_bind, Logged.bind_assoc]
  refine congrArg (Package.typeSpec (t :: us) >>= ·) (funext fun p => ?_)
  change _ = groupRest turns (decls ++ p.1.toList, p.2)
  unfold groupRest
  dsimp only
  cases next? p.2 with
  | none => rfl
  | some kind =>
    dsimp only
    by_cases h : kind.isSeparator = true ∨ kind = .rparen
    · rw [if_pos h, if_pos h, gather_append]
    · rw [if_neg h, if_neg h]
      rfl

/-- After a declaration the group goes on, or ends. -/
theorem specEnd_turns (n : Nat) (decls : List TypeDecl) (hc : c.InRange input) :
    Turns input c 0 Prod.mk (fun decls ts => (gather decls (Package.typeGroup n ts)).result)
      (groupRest n (decls, input.ahead c)).result
      ((do
        if (← peek input).any fun t => t.kind.isSeparator || t.kind = .rparen then
          return .inl decls
        else unexpected input "newline or `)`" : Walk (List TypeDecl ⊕ List TypeDecl)).run c) := by
  unfold groupRest
  rw [run_bind_of_ok (run_peek input c)]
  cases hahead : input.ahead c with
  | nil =>
    rw [if_neg (by decide), run_unexpected, hahead]
    exact .fault rfl
  | cons t ts =>
    have hkind : next? (t :: ts) = some t.kind := rfl
    rw [List.head?_cons, Option.any_some, hkind]
    dsimp only
    by_cases h : t.kind.isSeparator = true ∨ t.kind = .rparen
    · rw [if_pos h, if_pos (by simpa using h), ← hahead]
      exact .goOn (after_self hc)
    · rw [if_neg h, if_neg (by simpa using h), ← hahead]
      exact .unexpected _

/-- A turn of the loop over a group reads one declaration and its end, or the closing bracket. -/
theorem specTurn_turns (hinput : IsScan input) (n : Nat) (decls : List TypeDecl)
    (hc : c.InRange input) (hdepth : c.depth = 0) :
    Turns input c 1 Prod.mk (fun decls ts => (gather decls (Package.typeGroup n ts)).result)
      (gather decls (Package.typeGroup (n + 1) (input.ahead c))).result
      ((specTurn input decls).run c) := by
  obtain ⟨c₁, hskip, hc₁, hdrop⟩ := skipWhile_skips hc TokenKind.isSeparator
  unfold specTurn
  rw [run_bind_of_ok hskip, run_bind_of_ok (run_peek input c₁)]
  refine .later (n := 0) (m := 1) hc₁ ?_
  cases hahead : input.ahead c₁ with
  | nil =>
    rw [hahead] at hdrop
    rw [Package.typeGroup, Package.skipSeparators, ← hdrop, List.head?_nil]
    dsimp only
    rw [run_fail, hahead]
    exact .fault rfl
  | cons t ts =>
    rw [hahead] at hdrop
    rw [List.head?_cons]
    dsimp only
    by_cases hend : t.kind = .rparen
    · rw [Package.typeGroup, Package.skipSeparators, ← hdrop]
      dsimp only
      rw [if_pos hend, if_pos hend]
      change Turns input c₁ 1 Prod.mk _ (.ok (decls ++ [], ts)) _
      rw [List.append_nil]
      exact .last hahead decls
    · rw [gather_typeGroup decls n hdrop.symm hend, if_neg hend, ← hahead]
      refine .bind (typeSpec_agrees hinput decls (hc₁.depth.trans hdepth)) fun decls c₂ hc₂ => ?_
      exact specEnd_turns n decls hc₂.inRange

/-- What follows the word `type` is read alike with the cursor and from the list, a group or a
single declaration. -/
theorem typeDecls_agrees (hinput : IsScan input) (decls : List TypeDecl) (hdepth : c.depth = 0) :
    Agrees input c 0 Prod.mk (gather decls (Package.typeDecls (input.ahead c))).result
      ((typeDecls input decls).run c) := by
  unfold typeDecls Package.typeDecls
  rw [EStateM.run_bind, run_eat]
  by_cases h : next? (input.ahead c) = some .lparen
  · obtain ⟨t, ts, hahead, ht⟩ := next_of_next? h
    have hnext := after_next hahead
    rw [if_pos h, hahead]
    dsimp only
    rw [if_pos ht, if_pos rfl, ← ahead_next hahead]
    refine .later (hnext.weaken (Nat.zero_le 1)) ?_
    exact loop_agrees (fun n decls c' hc' =>
      specTurn_turns hinput n decls hc'.inRange ((hnext.trans hc').depth.trans hdepth))
      ((input.ahead c.next).length + 1) decls hnext.inRange (Nat.lt_succ_self _)
  · have hspec : Package.typeDecls (input.ahead c) =
        Package.typeSpec (input.ahead c) >>= fun p => pure (p.1.toList, p.2) := by
      unfold Package.typeDecls
      cases hahead : input.ahead c with
      | nil => rfl
      | cons t ts =>
        rw [hahead] at h
        exact if_neg fun ht => h (congrArg some ht)
    rw [if_neg h]
    change Agrees input c 0 Prod.mk (gather decls (Package.typeDecls (input.ahead c))).result _
    rw [hspec]
    exact (typeSpec_agrees hinput decls hdepth).relax

/-! ## Statements -/

/-- Declarations are gathered before the statements after them are read. -/
theorem statements_after (decls : List TypeDecl) (turns : Nat)
    (f : Reading (List TypeDecl × List Token)) :
    (f >>= fun p => Package.statements turns p.2 >>= fun more => pure (p.1 ++ more)) >>=
        (fun more => pure (decls ++ more)) =
      gather decls f >>= fun p =>
        Package.statements turns p.2 >>= fun more => pure (p.1 ++ more) := by
  rw [gather_bind_left, Logged.bind_assoc]
  refine congrArg (f >>= ·) (funext fun p => ?_)
  rw [Logged.bind_assoc]
  refine congrArg (Package.statements turns p.2 >>= ·) (funext fun more => ?_)
  rw [List.append_assoc]
  rfl

/-- A turn of the loop over a source reads one statement, and gathers its declarations if it
declares types. -/
theorem fileTurn_turns (hinput : IsScan input) (n : Nat) (decls : List TypeDecl)
    (hc : c.InRange input) (hdepth : c.depth = 0) :
    Turns input c 1 (fun decls _ => decls)
      (fun decls ts => (Package.statements n ts >>= fun more => pure (decls ++ more)).result)
      (Package.statements (n + 1) (input.ahead c) >>= fun more => pure (decls ++ more)).result
      ((fileTurn input decls).run c) := by
  obtain ⟨c₁, hskip, hc₁, hdrop⟩ := skipWhile_skips hc TokenKind.isSeparator
  unfold fileTurn
  rw [run_bind_of_ok hskip, run_bind_of_ok (run_peek input c₁), Package.statements,
    Package.skipSeparators, ← hdrop]
  refine .later (n := 0) (m := 1) hc₁ ?_
  cases hahead : input.ahead c₁ with
  | nil =>
    rw [List.head?_nil]
    change Turns input c₁ 1 _ _ (.ok (decls ++ [])) _
    rw [List.append_nil]
    exact .done (after_self hc₁.inRange)
  | cons t ts =>
    rw [List.head?_cons]
    dsimp only
    by_cases htype : t.kind = .keyword .typeDecl
    · rw [if_pos htype, if_pos htype, run_bind_of_ok (run_advance hahead), ← ahead_next hahead]
      have hnext := after_next hahead
      refine .later (n := 1) (m := 0) hnext ?_
      rw [statements_after]
      refine .bind (typeDecls_agrees hinput decls
        ((hc₁.trans hnext).depth.trans hdepth)) fun decls c₂ hc₂ => ?_
      exact .goOn (after_self hc₂.inRange)
    · have ht := List.head?_dropWhile_not (fun t : Token => t.kind.isSeparator) (input.ahead c)
      rw [← hdrop, hahead] at ht
      rw [if_neg htype, if_neg htype, ← hahead, Logged.bind_assoc]
      refine .bind (skipStatement_agrees_start hahead ht) fun _ c₂ hc₂ => ?_
      exact .goOn (after_self hc₂.inRange)

/-- A source is read alike with the cursor and from the list, from the package clause on. -/
theorem file_agrees (hinput : IsScan input) (hc : c.InRange input) (hdepth : c.depth = 0) :
    Agrees input c 0 (fun p _ => p) (Package.ofTokens (input.ahead c)).result
      ((file input).run c) := by
  obtain ⟨c₁, hskip, hc₁, hdrop⟩ := skipWhile_skips hc TokenKind.isSeparator
  unfold file Package.ofTokens Package.skipSeparators
  rw [run_bind_of_ok hskip, ← hdrop]
  refine .later hc₁ ?_
  refine .bind (expect_agrees input c₁ (.keyword .package) "package clause").relax
    fun _ c₂ hc₂ => ?_
  refine .bind (expectIdent_agrees input c₂).relax fun name c₃ hc₃ => ?_
  have hstart : c.After input 0 c₃ := hc₁.trans (hc₂.trans hc₃)
  have hloop : Agrees input c₃ 0 (fun decls _ => decls)
      (Package.statements ((input.ahead c₃).length + 1) (input.ahead c₃) >>= pure).result
      ((loop input (fileTurn input) []).run c₃) :=
    loop_agrees (fun n decls c' hc' =>
      fileTurn_turns hinput n decls hc'.inRange ((hstart.trans hc').depth.trans hdepth))
      ((input.ahead c₃).length + 1) [] hc₃.inRange (Nat.lt_succ_self _)
  rw [Logged.bind_pure] at hloop
  refine .bind hloop fun decls c₄ hc₄ => ?_
  exact .pure hc₄.inRange (Package.mk name decls)

/-! ## Whole sources -/

/-- Reading a source on a cursor ends as reading it from lists does, and at no nesting. -/
theorem parse_eq (source : String) : ∃ c, c.depth = 0 ∧
    parse source = match (Package.parse source).result with
      | .ok p => .ok p c
      | .error e => .error (.fault e) c := by
  have hscan := Spanned.scan_eq source.toList
  unfold parse Package.parse
  cases htokens : Token.scan source.toList with
  | error e =>
    rw [htokens] at hscan
    rw [hscan]
    exact ⟨⟨0, 0⟩, rfl, rfl⟩
  | ok ts =>
    rw [htokens] at hscan
    obtain ⟨hspans, tail, hsource⟩ := hscan
    rw [hspans, Logged.result_bind, Logged.result_ofExcept]
    have hlist : Input.list ⟨source.toList, Spanned.spansFrom 0 ts⟩ = ts :=
      Spanned.map_token_spansFrom 0 ts
    have hinput : IsScan ⟨source.toList, Spanned.spansFrom 0 ts⟩ := by
      unfold IsScan
      rw [hlist]
      exact ⟨rfl, tail, hsource⟩
    have hstart : Input.ahead ⟨source.toList, Spanned.spansFrom 0 ts⟩ ⟨0, 0⟩ = ts := hlist
    have hfile := file_agrees hinput (c := ⟨0, 0⟩) (Nat.zero_le _) rfl
    rw [hstart] at hfile
    dsimp only [Except.bind]
    rw [Logged.result_mapError]
    cases hresult : (Package.ofTokens ts).result with
    | ok p =>
      rw [hresult] at hfile
      obtain ⟨p', c, hrun, hc, hp⟩ := hfile.exists_of_ok
      exact ⟨c, hc.depth, hp ▸ hrun⟩
    | error e =>
      rw [hresult] at hfile
      obtain ⟨c, hrun, hdepth⟩ := hfile.exists_of_error
      rw [hlist] at hrun
      exact ⟨c, hdepth, hrun⟩

/-- Reading any text ends with a package or at a fault, and never at a panic: no position is past
the last token, no count below zero, no slice cut out of range or within a character, no turn of a
loop without a token, and no type expression deeper than readers are foreseen. The nesting counter
is back where it began. What is read is what reading from lists gives, and no type in it nests
deeper than allowed. -/
theorem parse_safe (source : String) : ∃ c, c.depth = 0 ∧
    ((∃ p, parse source = .ok p c ∧ (Package.parse source).result = .ok p ∧
        ∀ d ∈ p.decls, d.type.nesting ≤ 64) ∨
      ∃ e, parse source = .error (.fault e) c ∧ (Package.parse source).result = .error e) := by
  obtain ⟨c, hdepth, hparse⟩ := parse_eq source
  refine ⟨c, hdepth, ?_⟩
  cases hresult : (Package.parse source).result with
  | ok p =>
    rw [hresult] at hparse
    exact .inl ⟨p, hparse, rfl, fun d hd => Package.parse_nesting hresult hd⟩
  | error e =>
    rw [hresult] at hparse
    exact .inr ⟨e, hparse, rfl⟩

end CodecGen.Walk
