import CodecGen.Proofs.Cursor.Loops

/-!
# Reading type expressions by a cursor

The readers of type expressions on a cursor agree with those on lists of tokens, over readers for
the expressions inside that do (`typeForm_agrees`), and so by induction at every nesting
(`typeExpr_follows`).
-/

namespace CodecGen.Walk

open Package (next? TypeReader lengthTokens namesAfter)

variable {input : Input} {c : Cursor}

/-! ## Named types -/

/-- The type arguments that may follow a name are passed over. -/
theorem typeArguments_agrees (hc : c.InRange input) (note : String) (type : GoType) :
    Agrees input c 0 Prod.mk
      (if next? (input.ahead c) = some .lbracket then (do
        let ts ← Package.skipGroup 0 (input.ahead c)
        Logged.note .debug note
        pure (type, ts))
      else pure (type, input.ahead c) : Reading (GoType × List Token)).result
      ((do
        if (← peek input).map Token.kind = some .lbracket then
          skipGroup input
          return type
        else return type : Walk GoType).run c) := by
  rw [run_bind_of_ok (run_peek input c)]
  show Agrees input c 0 Prod.mk _ (EStateM.run (if next? (input.ahead c) = some _ then _ else _) c)
  by_cases h : next? (input.ahead c) = some .lbracket
  · rw [if_pos h, if_pos h]
    refine .bind (skipGroup_agrees hc) fun _ c' hc' => ?_
    exact .pure hc'.inRange type
  · rw [if_neg h, if_neg h]
    exact .pure hc type

/-- A named type is read alike with the cursor and from the list, with the name after a dot and the
type arguments. -/
theorem namedType_agrees (hc : c.InRange input) (name : Token) :
    Agrees input c 0 Prod.mk (Package.namedType name (input.ahead c)).result
      ((namedType input name).run c) := by
  unfold namedType Package.namedType
  rw [EStateM.run_bind, run_eat]
  by_cases h : next? (input.ahead c) = some .dot
  · obtain ⟨t, ts, hahead, -⟩ := next_of_next? h
    rw [if_pos h, if_pos h, hahead, List.tail_cons, ← ahead_next hahead]
    refine .later ((after_next hahead).weaken (Nat.zero_le 1)) ?_
    refine .bind (expectIdent_agrees input c.next).relax fun sel c' hc' => ?_
    exact typeArguments_agrees hc'.inRange _ (.qualified name.lexeme sel)
  · rw [if_neg h, if_neg h]
    exact typeArguments_agrees hc _ (.ident name.lexeme)

/-! ## Expressions inside others -/

/-- What one reader does with the tokens ahead the other does on every cursor at some nesting, and
it moves the cursor. -/
def Follows (input : Input) (depth : Nat) (reader : TypeReader) (inner : Walk GoType) : Prop :=
  ∀ c, c.InRange input → c.depth = depth →
    Agrees input c 1 Prod.mk (reader (input.ahead c)).result (inner.run c)

namespace Follows

variable {reader : TypeReader} {inner : Walk GoType} {c' : Cursor} {n : Nat}

/-- A reader that follows at the nesting of a cursor follows at that of a later one. -/
theorem later (h : Follows input c.depth reader inner) (hc : c.After input n c') :
    Follows input c'.depth reader inner := by
  rw [hc.depth]
  exact h

/-- A reader that follows agrees at any later cursor. -/
theorem after (h : Follows input c.depth reader inner) (hc : c.After input n c') :
    Agrees input c' 0 Prod.mk (reader (input.ahead c')).result (inner.run c') :=
  .relax (h c' hc.inRange hc.depth)

end Follows

/-! ## Forms of type expression -/

section

variable {reader : TypeReader} {inner : Walk GoType}

/-- An array type that is no slice type is its length, and the type of its elements. -/
theorem arrayType_of_length {ts : List Token} (h : next? ts ≠ some .rbracket) :
    Package.arrayType reader ts =
      (lengthTokens 0 ts >>= fun p =>
        pure (String.ofList (Text.trim (Token.spanText p.1)), p.2.tail)) >>= fun p =>
      reader p.2 >>= fun q => pure (GoType.array (some p.1) q.1, q.2) := by
  unfold Package.arrayType
  rw [if_neg h, Logged.bind_assoc]
  rfl

/-- Slices and arrays are read alike with the cursor and from the list, if their elements are. -/
theorem arrayType_agrees (hinput : IsScan input) (hc : c.InRange input)
    (hinner : Follows input c.depth reader inner) :
    Agrees input c 0 Prod.mk (Package.arrayType reader (input.ahead c)).result
      ((arrayType input inner).run c) := by
  unfold arrayType
  rw [EStateM.run_bind, run_eat]
  by_cases h : next? (input.ahead c) = some .rbracket
  · obtain ⟨t, ts, hahead, -⟩ := next_of_next? h
    unfold Package.arrayType
    rw [if_pos h, if_pos h, hahead, List.tail_cons, ← ahead_next hahead]
    refine .later ((after_next hahead).weaken (Nat.zero_le 1)) ?_
    refine .bind (hinner.after (after_next hahead)) fun elem c' hc' => ?_
    exact .pure hc'.inRange (GoType.array none elem)
  · rw [if_neg h, arrayType_of_length h]
    refine .bind (arrayLength_agrees hinput hc h) fun len c₁ hc₁ => ?_
    refine .bind (hinner.after hc₁) fun elem c₂ hc₂ => ?_
    exact .pure hc₂.inRange (GoType.array (some len) elem)

/-- Map types are read alike with the cursor and from the list, if their keys and values are. -/
theorem mapType_agrees (hinner : Follows input c.depth reader inner) :
    Agrees input c 0 Prod.mk (Package.mapType reader (input.ahead c)).result
      ((mapType input inner).run c) := by
  refine .bind (expect_agrees input c .lbracket "`[`").relax fun _ c₁ hc₁ => ?_
  refine .bind (hinner.after hc₁) fun key c₂ hc₂ => ?_
  refine .bind (expect_agrees input c₂ .rbracket "`]`").relax fun _ c₃ hc₃ => ?_
  refine .bind (hinner.after ((hc₁.trans hc₂).trans hc₃)) fun value c₄ hc₄ => ?_
  exact .pure hc₄.inRange (GoType.map key value)

/-- What is read of a result type is dropped. -/
theorem skipSignature_agrees (hc : c.InRange input)
    (hinner : Follows input c.depth reader inner) :
    Agrees input c 0 leaves (Package.skipSignature reader (input.ahead c)).result
      ((skipSignature input inner).run c) := by
  refine .bind (expectGroup_agrees hc .lparen "`(`") fun _ c₁ hc₁ => ?_
  rw [run_bind_of_ok (run_peek input c₁)]
  cases hahead : input.ahead c₁ with
  | nil =>
    rw [List.head?_nil, if_neg nofun, if_neg (by decide)]
    change Agrees input c₁ 0 leaves (.ok []) _
    rw [← hahead]
    exact .pure hc₁.inRange ()
  | cons t ts =>
    have hkind : next? (t :: ts) = some t.kind := rfl
    dsimp only [leaves]
    rw [hkind, List.head?_cons, Option.map_some, Option.any_some, ← hahead]
    -- results in parentheses, a single result, or none
    split
    · rename_i hparen
      rw [if_pos hparen]
      exact skipGroup_agrees hc₁.inRange
    · rename_i kind hparen hkind
      cases hkind
      rw [if_neg fun h => hparen (Option.some.inj h)]
      by_cases hresult : Package.beginsResult t.kind = true
      · rw [if_pos hresult, if_pos hresult]
        refine .bind (hinner.after hc₁) fun _ c₂ hc₂ => ?_
        exact .pure hc₂.inRange ()
      · rw [if_neg hresult, if_neg hresult]
        exact .pure hc₁.inRange ()
    · rename_i hnone
      cases hnone

/-! ## Structs -/

/-- Looking for an embedded field with the cursor tells what the tokens ahead tell, and moves
nothing. -/
theorem run_atEmbedded (input : Input) (c : Cursor) :
    (atEmbedded input).run c = .ok (Package.atEmbedded (input.ahead c)) c := by
  unfold atEmbedded
  rw [run_bind_of_ok (run_peek input c), run_bind_of_ok (run_peekAt input 1 c)]
  generalize input.ahead c = ts
  rcases ts with _ | ⟨⟨kind, gap, text, line⟩, _ | ⟨u, us⟩⟩
  · rfl
  · cases kind <;> rfl
  · cases kind <;> rfl

/-- The tag of a field is read alike with the cursor and from the list. -/
theorem fieldTag_agrees (hc : c.InRange input) (names : List String) (type : GoType) :
    Agrees input c 0 (fun tag ts => ((⟨names, type, tag⟩ : Field), ts))
      (Package.fieldTag names type (input.ahead c)).result ((fieldTag input).run c) := by
  unfold fieldTag
  rw [run_bind_of_ok (run_peek input c)]
  cases hahead : input.ahead c with
  | nil =>
    rw [Package.fieldTag, List.head?_nil, ← hahead]
    exact .pure hc none
  | cons t ts =>
    rw [Package.fieldTag, List.head?_cons]
    dsimp only
    by_cases hliteral : t.kind.isStringLiteral = true
    · rw [if_pos hliteral, if_pos hliteral, run_bind_of_ok (run_advance hahead),
        ← ahead_next hahead]
      refine .later ((after_next hahead).weaken (Nat.zero_le 1)) ?_
      exact .pure (after_next hahead).inRange (some t.lexeme)
    · rw [if_neg hliteral, if_neg hliteral, ← hahead]
      exact .pure hc none

/-- A field takes a token. -/
theorem fieldLine_agrees (hc : c.InRange input) (hinner : Follows input c.depth reader inner) :
    Agrees input c 1 Prod.mk (Package.fieldLine reader (input.ahead c)).result
      ((fieldLine input inner).run c) := by
  unfold fieldLine Package.fieldLine
  rw [run_bind_of_ok (run_atEmbedded input c)]
  by_cases hembedded : Package.atEmbedded (input.ahead c) = true
  · rw [if_pos hembedded, if_pos hembedded]
    refine .bind (hinner c hc rfl) fun type c₁ hc₁ => ?_
    exact (fieldTag_agrees hc₁.inRange [] type).map fun _ _ => rfl
  · rw [if_neg hembedded, if_neg hembedded]
    refine .bind (expectIdent_agrees input c) fun name c₁ hc₁ => ?_
    change Agrees input c₁ 0 Prod.mk (namesAfter (input.ahead c₁) >>= fun p =>
      reader p.2 >>= fun q => Package.fieldTag ([name] ++ p.1) q.1 q.2).result _
    rw [← gather_bind_left [name] (namesAfter (input.ahead c₁)) fun p =>
      reader p.2 >>= fun q => Package.fieldTag p.1 q.1 q.2]
    refine .bind (names_agrees [name] hc₁.inRange) fun names c₂ hc₂ => ?_
    refine .bind (hinner.after (hc₁.trans hc₂)) fun type c₃ hc₃ => ?_
    exact (fieldTag_agrees hc₃.inRange names type).map fun _ _ => rfl

/-- The end of a field line is passed over, or missed, alike with the cursor and from the list. -/
theorem fieldEnd_agrees (hc : c.InRange input) :
    Agrees input c 0 leaves (Package.fieldEnd (input.ahead c)).result ((fieldEnd input).run c) := by
  unfold fieldEnd
  rw [run_bind_of_ok (run_peek input c)]
  cases hahead : input.ahead c with
  | nil =>
    rw [Package.fieldEnd, ← hahead, if_neg (by rw [hahead]; decide),
      run_bind_of_ok (run_peek input c), if_neg (by rw [hahead]; nofun)]
    exact .unexpected _
  | cons t ts =>
    rw [Package.fieldEnd, List.head?_cons, Option.any_some]
    by_cases hseparator : t.kind.isSeparator = true
    · rw [if_pos hseparator, if_pos hseparator, run_advance hahead, ← ahead_next hahead]
      exact .ok ((after_next hahead).weaken (Nat.zero_le 1))
    rw [if_neg hseparator, if_neg hseparator, run_bind_of_ok (run_peek input c), hahead,
      List.head?_cons, Option.map_some, ← hahead]
    by_cases hbrace : t.kind = .rbrace
    · rw [if_pos hbrace, if_pos (congrArg some hbrace)]
      exact .pure hc ()
    · rw [if_neg hbrace, if_neg fun h => hbrace (Option.some.inj h)]
      exact .unexpected _

/-- A turn of the loop over the fields of a struct reads one field and its end, or the closing
bracket. -/
theorem fieldTurn_turns (n : Nat) (fields : List Field) (hc : c.InRange input)
    (hinner : Follows input c.depth reader inner) :
    Turns input c 1 Prod.mk
      (fun fields ts => (gather fields (Package.structFields reader n ts)).result)
      (gather fields (Package.structFields reader (n + 1) (input.ahead c))).result
      ((fieldTurn input inner fields).run c) := by
  obtain ⟨c₁, hskip, hc₁, hdrop⟩ := skipWhile_skips hc TokenKind.isSeparator
  unfold fieldTurn
  rw [run_bind_of_ok hskip, run_bind_of_ok (run_peek input c₁), Package.structFields]
  unfold Package.skipSeparators
  rw [← hdrop]
  -- both readers pass over the separators first
  refine .later (n := 0) (m := 1) hc₁ ?_
  cases hahead : input.ahead c₁ with
  | nil =>
    rw [List.head?_nil]
    dsimp only
    rw [run_fail, hahead]
    exact .fault rfl
  | cons t ts =>
    rw [List.head?_cons]
    dsimp only
    by_cases hend : t.kind = .rbrace
    · rw [if_pos hend, if_pos hend]
      change Turns input c₁ 1 Prod.mk _ (.ok (fields ++ [], ts)) _
      rw [List.append_nil]
      exact .last hahead fields
    · rw [if_neg hend, if_neg hend, ← hahead, gather_bind]
      -- one more field is gathered, and the loop goes on behind its end
      refine .bind (fieldLine_agrees hc₁.inRange (hc₁.depth ▸ hinner)) fun field c₂ hc₂ => ?_
      dsimp only
      rw [gather_bind]
      refine .bind (fieldEnd_agrees hc₂.inRange) fun _ c₃ hc₃ => ?_
      change Turns input c₃ 0 Prod.mk _ (gather fields
        (Package.structFields reader n (input.ahead c₃) >>= fun p =>
          pure ([field] ++ p.1, p.2))).result _
      rw [gather_append]
      exact .goOn (after_self hc₃.inRange)

/-- Struct types are read alike with the cursor and from the list, if the types of their fields are.
-/
theorem structType_agrees (hinner : Follows input c.depth reader inner) :
    Agrees input c 0 Prod.mk (Package.structType reader (input.ahead c)).result
      ((structType input inner).run c) := by
  refine .bind (expect_agrees input c .lbrace "`\x7b`").relax fun _ c₁ hc₁ => ?_
  have hfields : Agrees input c₁ 0 Prod.mk
      (Package.structFields reader ((input.ahead c₁).length + 1) (input.ahead c₁)).result
      ((loop input (fieldTurn input inner) []).run c₁) := by
    rw [← gather_nil (Package.structFields reader _ (input.ahead c₁))]
    exact loop_agrees (fun n fields c₂ hc₂ =>
      fieldTurn_turns n fields hc₂.inRange (hinner.later (hc₁.trans hc₂)))
      ((input.ahead c₁).length + 1) [] hc₁.inRange (Nat.lt_succ_self _)
  refine .bind hfields fun fields c₂ hc₂ => ?_
  exact .pure hc₂.inRange (GoType.struct fields)

/-- A form of type expression begins with a token. -/
theorem typeForm_agrees (hinput : IsScan input) (hinner : Follows input c.depth reader inner) :
    Agrees input c 1 Prod.mk (Package.typeForm reader (input.ahead c)).result
      ((typeForm input inner).run c) := by
  unfold typeForm
  cases hahead : input.ahead c with
  | nil =>
    rw [Package.typeForm, run_bind_of_ok (run_bump_nil hahead), ← hahead]
    exact .unexpected "type"
  | cons t ts =>
    have hnext := after_next hahead
    have hlater : Follows input c.next.depth reader inner := hinner
    rw [Package.typeForm, run_bind_of_ok (run_bump_cons hahead), ← ahead_next hahead]
    refine .later hnext ?_
    dsimp only
    -- the first token decides the form alone, as both readers look at its class only
    generalize t.kind = kind
    cases kind with
    | ident => exact namedType_agrees hnext.inRange t
    | star =>
      refine .bind (hlater.after (after_self hnext.inRange)) fun elem c₁ hc₁ => ?_
      exact .pure hc₁.inRange (GoType.pointer elem)
    | lbracket => exact arrayType_agrees hinput hnext.inRange hlater
    | arrow =>
      refine .bind (expect_agrees input c.next (.keyword .chan) "`chan`").relax fun _ c₁ hc₁ => ?_
      refine .bind (hlater.after hc₁) fun elem c₂ hc₂ => ?_
      exact .pure hc₂.inRange (GoType.chan elem)
    | lparen =>
      refine .bind (hlater.after (after_self hnext.inRange)) fun type c₁ hc₁ => ?_
      refine .bind (expect_agrees input c₁ .rparen "`)`").relax fun _ c₂ hc₂ => ?_
      exact .pure hc₂.inRange type
    | keyword word =>
      cases word with
      | map => exact mapType_agrees hlater
      | struct => exact structType_agrees hlater
      | interface =>
        refine .bind (expectGroup_agrees hnext.inRange .lbrace "`\x7b`") fun _ c₁ hc₁ => ?_
        exact .pure hc₁.inRange GoType.interface
      | func =>
        refine .bind (skipSignature_agrees hnext.inRange hlater) fun _ c₁ hc₁ => ?_
        exact .pure hc₁.inRange GoType.func
      | chan =>
        obtain ⟨_, c₁, hrun, hc₁, hskip⟩ := eat_skips hnext.inRange .arrow
        change Agrees input c.next 0 Prod.mk (Package.chanType reader
          (Package.skipKind .arrow (input.ahead c.next))).result
          ((eat input .arrow >>= fun _ => inner >>= fun elem => pure (GoType.chan elem)).run c.next)
        rw [run_bind_of_ok hrun, ← hskip]
        refine .later hc₁ (.bind (hlater.after hc₁) fun elem c₂ hc₂ => ?_)
        exact .pure hc₂.inRange (GoType.chan elem)
      | _ => exact .fault rfl
    | _ => exact .fault rfl

end

/-! ## Nesting -/

/-- The nesting counter goes back on every path. -/
theorem nested_agrees {α γ : Type} {view : α → List Token → γ} {r : Except ReadFault γ}
    {x : Walk α} {n : Nat} (h : Agrees input c.deeper n view r (x.run c.deeper)) :
    Agrees input c n view r ((nested x).run c) := by
  show Agrees input c n view r (nested x c)
  unfold nested
  generalize x.run c.deeper = y at h
  cases h with
  | @ok a c' h =>
    have hback : c.After input n { c' with depth := c'.depth - 1 } :=
      ⟨h.pos, h.inRange, by rw [h.depth]; rfl⟩
    dsimp only
    rw [if_pos h.depth]
    exact .ok hback
  | @fault e c' hdepth =>
    dsimp only
    rw [if_pos hdepth]
    exact .fault (by rw [hdepth]; rfl)

/-- A type expression is read by as many levels of readers as nesting is still allowed. -/
theorem typeExpr_follows (hinput : IsScan input) (levels depth : Nat)
    (hlevels : depth + levels = maxTypeDepth) :
    Follows input depth (Package.typeExpr levels) (typeExpr input levels) := by
  intro c hc hdepth
  induction levels generalizing depth c with
  | zero =>
    unfold typeExpr
    rw [EStateM.run_bind, EStateM.run_get]
    dsimp only
    rw [if_pos (by omega), Package.typeExpr]
    exact .fail .nesting
  | succ levels ih =>
    unfold typeExpr
    rw [EStateM.run_bind, EStateM.run_get]
    dsimp only
    rw [if_neg (by omega), Package.typeExpr]
    refine nested_agrees (typeForm_agrees hinput ?_)
    intro c' hc' hdepth'
    exact ih (depth + 1) (by omega) c' hc' (hdepth'.trans (congrArg (· + 1) hdepth))

end CodecGen.Walk
