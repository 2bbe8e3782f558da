import CodecGen.Proofs.Package.Arguments

/-!
# Sources with type arguments

Type arguments are erased in every declaration: a source to which they are added at any number of
places of named types at once is read as the same package (`ofTokens_spread`).
-/

namespace CodecGen.Package

open Logged (result_bind_of_ok)

/-! ## Single declarations -/

/-- Type parameters are told by three tokens. -/
theorem atTypeParams_spread {args : Nat → List Token} {t : Token} {ts : List Token}
    (hfirst : args ts.length = []) (hsecond : args (ts.length - 1) = []) :
    atTypeParams (spread args (t :: ts)) = atTypeParams (t :: ts) := by
  rw [spread_cons hfirst]
  cases ts with
  | nil => rfl
  | cons u us =>
    rw [spread_cons hsecond]
    have hkinds : ∀ vs : List Token, ((t :: u :: vs).take 3).map Token.kind =
        t.kind :: u.kind :: (next? vs).toList := fun vs => by
      cases vs <;> rfl
    unfold atTypeParams
    rw [hkinds, hkinds, next?_spread]

/-- The type after an opening bracket begins after one more token at least. -/
theorem FormReads.after_bracket {R : TypeRelation}
    (hR : ∀ {ts : List Token} {type : GoType} {rest : List Token} {places : List Nat},
      R ts type rest places → Within ts rest places)
    {l : Token} {ts rest : List Token} {type : GoType} {places : List Nat}
    (h : FormReads R (l :: ts) type rest places) (hl : l.kind = .lbracket) :
    rest.length < ts.length - 1 ∧ ∀ n ∈ places, n < ts.length - 1 := by
  cases h with
  | slice _ _ helem =>
    obtain ⟨hlt, hplaces⟩ := (hR helem).bounds
    exact ⟨hlt, fun n hn => (hplaces n hn).2⟩
  | @array _ _ us len _ _ _ _ hnext hlen helem =>
    obtain ⟨hlt, hplaces⟩ := (hR helem).bounds
    obtain ⟨-, -, hlength⟩ := lengthTokens_takes hlen
    have hlength := hlength hnext
    have htail : us.tail.length ≤ us.length := by simp
    refine ⟨by omega, fun n hn => ?_⟩
    have := hplaces n hn
    omega
  | ident h | selector h | identArguments h | selectorArguments h | pointer h | map h | struct h
  | interface h | func h | funcList h | funcResult h | chan h | receiving h | paren h =>
    rw [hl] at h
    cases h

/-- A type after a name is not taken for type parameters, whatever is put in. -/
theorem atTypeParams_plain_spread {args : Nat → List Token} {ts rest : List Token}
    {places : List Nat} {type : GoType} (hparams : atTypeParams ts = false)
    (htype : TypeReads maxTypeDepth (skipKind .assign ts) type rest places)
    (hfits : Fits args places ts rest) : atTypeParams (spread args ts) = false := by
  cases ts with
  | nil => exact hparams
  | cons t ts =>
    by_cases ht : t.kind = .lbracket
    · rw [skipKind, if_neg (by rw [ht]; decide)] at htype
      obtain ⟨hlt, hplaces⟩ := FormReads.after_bracket TypeReads.within htype ht
      have hnone : ∀ n, ts.length - 1 ≤ n → n < (t :: ts).length → args n = [] :=
        fun n hle hlt' => hfits.none (by omega) hlt' fun hn => by
          have := hplaces n hn
          omega
      rw [atTypeParams_spread (hnone _ (Nat.sub_le _ _) (Nat.lt_succ_self _))
        (hnone _ (Nat.le_refl _) (Nat.lt_succ_of_le (Nat.sub_le _ _))), hparams]
    · exact atTypeParams_of_ne_lbracket ht _

section

variable {args : Nat → List Token} (hargs : ∀ n, args n ≠ [] → Arguments (args n))
  {ts rest : List Token} {places : List Nat}

include hargs

/-- A declaration is read as before, with what is put in at its places. -/
theorem typeSpec_spread {d : Option TypeDecl} (h : SpecReads ts d rest places)
    (hfits : Fits args places ts rest) :
    (typeSpec (spread args ts)).result = .ok (d, spread args rest) := by
  have htypes := typeExpr_spreads hargs maxTypeDepth
  cases h with
  | @plain name ts rest type places hname hparams htype =>
    have hsuffix := skipKind_suffix .assign ts
    obtain ⟨hlt, hplaces⟩ := htype.within.bounds
    obtain ⟨hfirst, hfits⟩ := hfits.uncons (htype.within.mono hsuffix List.suffix_rfl)
    have hclean := hfits.clean hlt.le fun n hn => (hplaces n hn).2
    have hread := htypes.reads htype (hfits.later hsuffix.length_le)
    have hparams' := atTypeParams_plain_spread hparams htype hfits
    rw [hfirst]
    unfold typeSpec
    rw [identifier_cons hname, result_bind_of_ok rfl]
    dsimp only
    rw [if_neg (by simp [hparams']), skipKind_spread hclean, result_bind_of_ok hread]
    rfl
  | @generic name ts us rest type places hname hparams hskip htype =>
    -- no place of a generic declaration counts, so nothing is put in at all
    obtain ⟨htakes, hlt⟩ := skipGroup_takes hskip
    have hsuffix := skipKind_suffix .assign us
    have hshorter := htype.within.shorter
    have hrest : rest.length < us.length := hshorter.trans_le hsuffix.length_le
    obtain ⟨hfirst, hfits⟩ :=
      hfits.uncons (htype.within.forget.mono (hsuffix.trans htakes.suffix) List.suffix_rfl)
    have hskip' := htakes.spread (hfits.sooner hrest.le)
    have hfits' : Fits args [] us rest := hfits.later hlt.le
    have hread := htypes.reads htype (hfits'.later hsuffix.length_le).of_nil
    have hclean : Fits args [] us (skipKind .assign us) := hfits'.sooner hshorter.le
    -- three tokens are looked at, and nothing is put in between them
    have hparams' : atTypeParams (spread args ts) = true := by
      cases ts with
      | nil => cases hparams
      | cons t ts =>
        have hnone : ∀ n, ts.length - 1 ≤ n → n < (t :: ts).length → args n = [] :=
          fun n hle hlt' => hfits.none (by rw [List.length_cons] at hlt; omega) hlt'
            List.not_mem_nil
        rw [atTypeParams_spread (hnone _ (Nat.sub_le _ _) (Nat.lt_succ_self _))
          (hnone _ (Nat.le_refl _) (Nat.lt_succ_of_le (Nat.sub_le _ _))), hparams]
    rw [hfirst]
    unfold typeSpec
    rw [identifier_cons hname, result_bind_of_ok rfl]
    dsimp only
    rw [if_pos hparams', result_bind_of_ok hskip']
    dsimp only [id]
    rw [skipKind_spread hclean, result_bind_of_ok hread]
    rfl

/-! ## Groups and statements -/

/-- A group of declarations is read as before, with what is put in at its places. -/
theorem typeGroup_spread {ds : List TypeDecl} (h : GroupReads ts ds rest places)
    (hfits : Fits args places ts rest) {turns : Nat} (hturns : (spread args ts).length < turns) :
    (typeGroup turns (spread args ts)).result = .ok (ds, spread args rest) := by
  induction h generalizing turns with
  | @close ts rest r hts hr =>
    obtain ⟨turns, rfl⟩ := Nat.exists_eq_succ_of_ne_zero (Nat.ne_zero_of_lt hturns)
    have hle := (skipSeparators_suffix ts).length_le
    rw [hts] at hle
    have hnone : args rest.length = [] :=
      (hfits.later hle).head (Nat.le_refl _) fun n hn => by cases hn
    rw [Nat.succ_eq_add_one, typeGroup,
      skipSeparators_spread hts (hfits.sooner (Nat.le_succ _)), spread_cons hnone]
    dsimp only
    rw [if_pos hr]
    rfl
  | @cons ts us vs rest first kind d ds places more hts hfirst hd hnext hkind hmore ih =>
    obtain ⟨turns, rfl⟩ := Nat.exists_eq_succ_of_ne_zero (Nat.ne_zero_of_lt hturns)
    obtain ⟨hlt, hplaces⟩ := hd.within.bounds
    obtain ⟨hlt', hplaces'⟩ := hmore.within.bounds
    have hle := (skipSeparators_suffix ts).length_le
    rw [hts] at hle
    -- the separators before the declaration are before all places
    have hclean : Fits args [] ts (first :: us) := hfits.clean (by omega) fun n hn => by
      rcases List.mem_append.mp hn with hn | hn
      · exact (hplaces n hn).2
      · have := hplaces' n hn
        omega
    have hfits := hfits.later hle
    have hread := typeSpec_spread hargs hd (hfits.before hlt'.le fun n hn => (hplaces' n hn).2)
    have hlength : (spread args vs).length < turns :=
      (spread_length_lt (by omega)).trans_le (Nat.le_of_lt_succ hturns)
    have hrest := ih (hfits.after hlt.le fun n hn => (hplaces n hn).1) hlength
    rw [Nat.succ_eq_add_one, typeGroup, skipSeparators_spread hts hclean]
    show (if first.kind = .rparen then _ else _ : Reading _).result = _
    rw [if_neg hfirst]
    refine (result_bind_of_ok hread _).trans ?_
    dsimp only
    rw [next?_spread, hnext]
    dsimp only
    rw [if_pos hkind]
    refine (result_bind_of_ok hrest _).trans ?_
    rfl

/-- What follows the word `type` is read as before, with what is put in at its places. -/
theorem typeDecls_spread {ds : List TypeDecl} (h : DeclsReads ts ds rest places)
    (hfits : Fits args places ts rest) :
    (typeDecls (spread args ts)).result = .ok (ds, spread args rest) := by
  cases h with
  | @group l ts _ _ _ hl hds =>
    obtain ⟨hfirst, hfits⟩ := hfits.uncons hds.within
    rw [hfirst]
    unfold typeDecls
    dsimp only
    rw [if_pos hl]
    exact typeGroup_spread hargs hds hfits (Nat.lt_succ_self _)
  | single hd =>
    have hread := typeSpec_spread hargs hd hfits
    cases hd with
    | plain hname => exact typeDecls_single hname hread
    | generic hname => exact typeDecls_single hname hread

omit hargs in
/-- The places in statements are after names. -/
theorem StatementsReads.names {ds : List TypeDecl} (h : StatementsReads ts ds places) :
    ∀ n ∈ places, NameAt ts n := by
  induction h with
  | done => exact fun n hn => by cases hn
  | @decls ts us vs word ds more places places' hts _ hds _ ih =>
    have hsuffix := skipSeparators_suffix ts
    rw [hts] at hsuffix
    have hwithin := (hds.within.cons word).mono hsuffix List.suffix_rfl
    intro n hn
    rcases List.mem_append.mp hn with hn | hn
    · exact (hwithin.names n hn).2
    · exact (ih n hn).mono hwithin.suffix
  | @other ts us vs first ds places hts _ hskip _ ih =>
    have hsuffix := skipSeparators_suffix ts
    rw [hts] at hsuffix
    exact fun n hn => (ih n hn).mono ((skipStatement_takes hskip).1.suffix.trans hsuffix)

/-- The statements of a source are read as before, with what is put in at their places. -/
theorem statements_spread {ds : List TypeDecl} (h : StatementsReads ts ds places)
    (hfits : Fits args places ts []) {turns : Nat} (hturns : (spread args ts).length < turns) :
    (statements turns (spread args ts)).result = .ok ds := by
  induction h generalizing turns with
  | @done ts hts =>
    obtain ⟨turns, rfl⟩ := Nat.exists_eq_succ_of_ne_zero (Nat.ne_zero_of_lt hturns)
    rw [Nat.succ_eq_add_one, statements, skipSeparators_spread hts hfits]
    rfl
  | @decls ts us vs word ds more places places' hts hword hds hmore ih =>
    obtain ⟨turns, rfl⟩ := Nat.exists_eq_succ_of_ne_zero (Nat.ne_zero_of_lt hturns)
    obtain ⟨hlt, hplaces⟩ := hds.within.bounds
    have hplaces' := fun n hn => (hmore.names n hn).lt
    have hle := (skipSeparators_suffix ts).length_le
    rw [hts] at hle
    -- nothing is put in up to the word, since all places are behind it
    have hbefore : ∀ n ∈ places ++ places', n < us.length := fun n hn => by
      rcases List.mem_append.mp hn with hn | hn
      · exact (hplaces n hn).2
      · exact (hplaces' n hn).trans hlt
    have hclean : Fits args [] ts (word :: us) :=
      hfits.clean (Nat.zero_le _) fun n hn => Nat.lt_succ_of_lt (hbefore n hn)
    have hnone : args us.length = [] := (hfits.later hle).head (Nat.zero_le _) hbefore
    have hread := typeDecls_spread hargs hds
      ((hfits.later (Nat.le_of_succ_le hle)).before (Nat.zero_le _) hplaces')
    have hlength : (spread args vs).length < turns :=
      (spread_length_lt (hlt.trans hle)).trans_le (Nat.le_of_lt_succ hturns)
    have hrest := ih (hfits.after (hlt.trans hle).le fun n hn => (hplaces n hn).1) hlength
    rw [Nat.succ_eq_add_one, statements, skipSeparators_spread hts hclean, spread_cons hnone]
    dsimp only
    rw [if_pos hword, result_bind_of_ok hread]
    dsimp only
    rw [result_bind_of_ok hrest]
    rfl
  | @other ts us vs first ds places hts hfirst hskip hmore ih =>
    obtain ⟨turns, rfl⟩ := Nat.exists_eq_succ_of_ne_zero (Nat.ne_zero_of_lt hturns)
    have hplaces := fun n hn => (hmore.names n hn).lt
    have hle := (skipSeparators_suffix ts).length_le
    rw [hts] at hle
    -- the statement has no places, so it is the same tokens before what follows
    have htakes := (skipStatement_takes hskip).1
    have hlt := skipStatement_length_lt (isSeparator_of_skipSeparators hts) hskip
    have hclean : Fits args [] ts vs := hfits.clean (Nat.zero_le _) hplaces
    have hseps := skipSeparators_spread hts (hclean.sooner htakes.length_le)
    have hread := htakes.spread (hclean.later hle)
    have hlength : (spread args vs).length < turns :=
      (spread_length_lt (hlt.trans_le hle)).trans_le (Nat.le_of_lt_succ hturns)
    have hrest := ih (hfits.later (hlt.trans_le hle).le) hlength
    rw [Nat.succ_eq_add_one, statements, hseps]
    show (if first.kind = .keyword .typeDecl then _ else _ : Reading _).result = _
    rw [if_neg hfirst]
    exact (result_bind_of_ok hread _).trans hrest

end

/-- Places of a source are after names. -/
theorem SourceReads.names {ts : List Token} {p : Package} {places : List Nat}
    (h : SourceReads ts p places) : ∀ n ∈ places, NameAt ts n := by
  cases h with
  | @intro us word name _ _ hts _ _ hds =>
    have hsuffix := skipSeparators_suffix ts
    rw [hts] at hsuffix
    exact fun n hn => (hds.names n hn).mono
      (((List.suffix_cons name us).trans (List.suffix_cons word _)).trans hsuffix)

/-- A source with type arguments after named types, at any number of places at once, is read as the
same package. -/
theorem ofTokens_spread {args : Nat → List Token} {ts : List Token} {p : Package}
    {places : List Nat} (h : SourceReads ts p places)
    (hargs : ∀ n, args n ≠ [] → n ∈ places ∧ Arguments (args n)) :
    (ofTokens (spread args ts)).result = .ok p := by
  have hrows : ∀ n, args n ≠ [] → Arguments (args n) := fun n hne => (hargs n hne).2
  have hfits : Fits args places ts [] := fun n _ _ hne => (hargs n hne).1
  cases h with
  | @intro us word name ds _ hts hword hname hds =>
    have hplaces := fun n hn => (hds.names n hn).lt
    have hle := (skipSeparators_suffix ts).length_le
    rw [hts] at hle
    have hclean : Fits args [] ts us := hfits.clean (Nat.zero_le _) hplaces
    have hseps := skipSeparators_spread hts
      (hclean.sooner (Nat.le_trans (Nat.le_succ _) (Nat.le_succ _)))
    have hnone : args us.length = [] := hclean.none (Nat.le_refl _) (Nat.lt_of_succ_lt hle)
      List.not_mem_nil
    have hnone' : args (name :: us).length = [] :=
      hclean.none (Nat.le_succ _) hle List.not_mem_nil
    have hread := statements_spread hrows hds
      (hfits.later (Nat.le_of_succ_le (Nat.le_of_succ_le hle)))
      (Nat.lt_succ_self _)
    unfold ofTokens
    rw [hseps, spread_cons hnone', spread_cons hnone, expectKind_cons hword,
      result_bind_of_ok rfl, identifier_cons hname, result_bind_of_ok rfl]
    dsimp only
    rw [result_bind_of_ok hread]
    rfl

end CodecGen.Package
