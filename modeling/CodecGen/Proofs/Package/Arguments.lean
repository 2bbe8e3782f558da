import CodecGen.Proofs.Package.Extents

/-!
# Type arguments

Type arguments do not change what is read as a type. They may be put after any of the named types in
it, at any depth and at any number of places at once: every reader then takes the arguments along
with the name before them, and answers the same (`typeExpr_spreads`).
-/

namespace CodecGen.Package

open Logged (result_bind_of_ok)

/-- A list of type arguments: a balanced row in square brackets. -/
inductive Arguments : List Token → Prop where
  | intro {l r : Token} {inside : List Token} (hl : l.kind = .lbracket)
      (hinside : Balanced false inside) (hr : r.kind = .rbracket) :
      Arguments (l :: (inside ++ [r]))

/-- The tokens with further tokens put in, given by the number of tokens after the place. -/
def spread (args : Nat → List Token) : List Token → List Token
  | [] => []
  | t :: ts => t :: (args ts.length ++ spread args ts)

/-- Type arguments are passed over as a group. -/
theorem Arguments.skipGroup {row : List Token} (h : Arguments row) (rest : List Token) :
    next? (row ++ rest) = some .lbracket ∧
      (skipGroup 0 (row ++ rest)).result = .ok rest := by
  cases h with
  | @intro l r inside hl hinside hr =>
    refine ⟨congrArg some hl, ?_⟩
    have hskip := skipGroup_group (by rw [hl]; rfl) hinside (by rw [hr]; rfl) rest
    rw [List.cons_append, List.append_assoc, List.singleton_append, hskip]
    rfl

/-- What is put in between two points is put in at places. -/
def Fits (args : Nat → List Token) (places : List Nat) (ts rest : List Token) : Prop :=
  ∀ n, rest.length ≤ n → n < ts.length → args n ≠ [] → n ∈ places

section

variable {args : Nat → List Token} {ts us rest : List Token} {places more : List Nat}

/-- Nothing is put in after the first token where there is nothing to put in. -/
theorem spread_cons {t : Token} (h : args ts.length = []) :
    spread args (t :: ts) = t :: spread args ts := by
  rw [spread, h, List.nil_append]

/-- The class of the next token stays what it is. -/
theorem next?_spread (args : Nat → List Token) (ts : List Token) :
    next? (spread args ts) = next? ts := by
  cases ts <;> rfl

/-- How much is put in depends on the places alone, and so on the number of tokens. -/
theorem spread_length_congr (h : us.length = ts.length) :
    (spread args us).length = (spread args ts).length := by
  induction ts generalizing us with
  | nil => rw [List.length_eq_zero_iff.mp h]
  | cons t ts ih =>
    cases us with
    | nil => cases h
    | cons u us =>
      have hlength : us.length = ts.length := Nat.succ.inj h
      simp only [spread, List.length_cons, List.length_append, hlength, ih hlength]

/-- Fewer tokens stay fewer. -/
theorem spread_length_lt (h : us.length < ts.length) :
    (spread args us).length < (spread args ts).length := by
  induction ts with
  | nil => cases h
  | cons t ts ih =>
    have hle : (spread args us).length ≤ (spread args ts).length := by
      rcases Nat.lt_succ_iff_lt_or_eq.mp h with hlt | heq
      · exact (ih hlt).le
      · exact (spread_length_congr heq).le
    simp only [spread, List.length_cons, List.length_append]
    omega

/-- Where nothing is put in, the tokens are the same. -/
theorem spread_append (us : List Token) (h : Fits args [] (us ++ rest) rest) :
    spread args (us ++ rest) = us ++ spread args rest := by
  induction us with
  | nil => rfl
  | cons t us ih =>
    have hnone : args (us ++ rest).length = [] := by
      by_contra hne
      exact absurd (h _ (by simp) (by simp) hne) List.not_mem_nil
    have hmore : Fits args [] (us ++ rest) rest := fun n hle hlt hne =>
      h n hle (Nat.lt_succ_of_lt hlt) hne
    rw [List.cons_append, spread_cons hnone, ih hmore]
    rfl

/-! ## Putting in fewer tokens -/

/-- Before a point that all later places come after, what is put in is put in at the places before
it. -/
theorem Fits.before (h : Fits args (places ++ more) ts rest) (hle : rest.length ≤ us.length)
    (hmore : ∀ n ∈ more, n < us.length) : Fits args places ts us := by
  intro n hn hlt hne
  rcases List.mem_append.mp (h n (hle.trans hn) hlt hne) with hmem | hmem
  · exact hmem
  · exact absurd (hmore n hmem) (Nat.not_lt.mpr hn)

/-- After a point that all earlier places come before, what is put in is put in at the places after
it. -/
theorem Fits.after (h : Fits args (places ++ more) ts rest) (hle : us.length ≤ ts.length)
    (hplaces : ∀ n ∈ places, us.length ≤ n) : Fits args more us rest := by
  intro n hn hlt hne
  rcases List.mem_append.mp (h n hn (hlt.trans_le hle) hne) with hmem | hmem
  · exact absurd (hplaces n hmem) (Nat.not_le.mpr hlt)
  · exact hmem

/-- Nothing is put in before the first place. -/
theorem Fits.clean (h : Fits args places ts rest) (hle : rest.length ≤ us.length)
    (hplaces : ∀ n ∈ places, n < us.length) : Fits args [] ts us := by
  have hall : Fits args ([] ++ places) ts rest := h
  exact hall.before hle hplaces

/-- Nothing is put in after the last place. -/
theorem Fits.cleanAfter (h : Fits args places ts rest) (hle : us.length ≤ ts.length)
    (hplaces : ∀ n ∈ places, us.length ≤ n) : Fits args [] us rest := by
  rw [← List.append_nil places] at h
  exact h.after hle hplaces

/-- What fits up to some rest fits up to a longer one. -/
theorem Fits.sooner (h : Fits args places ts rest) (hle : rest.length ≤ us.length) :
    Fits args places ts us :=
  fun n hn hlt hne => h n (hle.trans hn) hlt hne

/-- What fits between two points fits from a later one on. -/
theorem Fits.later (h : Fits args places ts rest) (hle : us.length ≤ ts.length) :
    Fits args places us rest :=
  fun n hn hlt hne => h n hn (hlt.trans_le hle) hne

/-- A token that is not at a place has nothing put in after it. -/
theorem Fits.none {n : Nat} (h : Fits args places ts rest) (hle : rest.length ≤ n)
    (hlt : n < ts.length) (hn : n ∉ places) : args n = [] := by
  by_contra hne
  exact hn (h n hle hlt hne)

/-- Nothing is put in after the first token if all places are later. -/
theorem Fits.head {t : Token} (h : Fits args places (t :: ts) rest)
    (hle : rest.length ≤ ts.length) (hplaces : ∀ n ∈ places, n < ts.length) :
    args ts.length = [] :=
  h.none hle (Nat.lt_succ_self _) fun hn => Nat.lt_irrefl _ (hplaces _ hn)

/-- What fits with no places fits with any. -/
theorem Fits.of_nil (h : Fits args [] ts rest) : Fits args places ts rest :=
  fun n hn hlt hne => absurd (h n hn hlt hne) List.not_mem_nil

/-- Nothing is put in after a token that all the places come after. -/
theorem Fits.uncons {t : Token} (h : Fits args places (t :: ts) rest)
    (hwithin : Within ts rest places) :
    spread args (t :: ts) = t :: spread args ts ∧ Fits args places ts rest := by
  obtain ⟨hlt, hplaces⟩ := hwithin.bounds
  exact ⟨spread_cons (h.head hlt.le fun n hn => (hplaces n hn).2), h.later (Nat.le_succ _)⟩

/-- A reader that takes a stretch in which nothing is put in answers the same. -/
theorem Takes.spread {α : Type} {r : List Token → Reading α} {answer : List Token → α}
    (h : Takes r answer ts rest) (hclean : Fits args [] ts rest) :
    (r (spread args ts)).result = .ok (answer (spread args rest)) := by
  obtain ⟨us, rfl, hus⟩ := h
  rw [spread_append us hclean]
  exact hus _ (next?_spread args rest)

/-- Separators are passed over alike if nothing is put in between them. -/
theorem skipSeparators_spread (hts : skipSeparators ts = us) (hclean : Fits args [] ts us) :
    skipSeparators (spread args ts) = spread args us := by
  subst hts
  exact Except.ok.inj ((skipSeparators_takes ts).spread hclean)

end

/-! ## Names -/

/-- What follows a name: nothing that belongs to it, or its type arguments. -/
def PassesArguments (ts rest : List Token) : Prop :=
  next? ts ≠ some .lbracket ∧ ts = rest ∨
    next? ts = some .lbracket ∧ (skipGroup 0 ts).result = .ok rest

section

variable {ts rest : List Token}

/-- Both ways to go on after a name end with the named type, and with what stands behind its
arguments. -/
theorem PassesArguments.result {named : GoType} {text : String} (h : PassesArguments ts rest) :
    (if next? ts = some .lbracket then do
        let ts ← skipGroup 0 ts
        Logged.note .debug text
        pure (named, ts)
      else pure (named, ts) : Reading (GoType × List Token)).result = .ok (named, rest) := by
  obtain ⟨hbracket, rfl⟩ | ⟨hbracket, hskip⟩ := h
  · rw [if_neg hbracket]
    rfl
  · rw [if_pos hbracket, result_bind_of_ok hskip]
    rfl

/-- A name is read as a named type, with what belongs to it passed over. -/
theorem namedType_of_ident {t : Token} (hdot : next? ts ≠ some .dot)
    (h : PassesArguments ts rest) : (namedType t ts).result = .ok (.ident t.lexeme, rest) := by
  unfold namedType
  rw [if_neg hdot]
  exact h.result

/-- A qualified name is read as a named type, with what belongs to it passed over. -/
theorem namedType_of_selector {q dot t : Token} (hdot : dot.kind = .dot) (ht : t.kind = .ident)
    (h : PassesArguments ts rest) :
    (namedType q (dot :: t :: ts)).result = .ok (.qualified q.lexeme t.lexeme, rest) := by
  have hnext : next? (dot :: t :: ts) = some .dot := congrArg some hdot
  unfold namedType
  rw [if_pos hnext, List.tail_cons, identifier_cons ht]
  exact h.result

variable {args : Nat → List Token} (hargs : ∀ n, args n ≠ [] → Arguments (args n))

include hargs

/-- Arguments that are put in after a name are passed over with it. -/
theorem passesArguments_spread (hbracket : next? rest ≠ some .lbracket) :
    PassesArguments (args rest.length ++ spread args rest) (spread args rest) := by
  by_cases hnone : args rest.length = []
  · rw [hnone]
    exact .inl ⟨by rwa [List.nil_append, next?_spread], rfl⟩
  · exact .inr ((hargs _ hnone).skipGroup _)

/-- What is put in begins with a bracket, so no other class of token comes next because of it. -/
theorem next?_arguments_ne {kind : TokenKind} (hnext : next? rest ≠ some kind)
    (hkind : kind ≠ .lbracket) : next? (args rest.length ++ spread args rest) ≠ some kind := by
  by_cases hnone : args rest.length = []
  · rwa [hnone, List.nil_append, next?_spread]
  · intro h
    exact hkind (Option.some.inj (h.symm.trans ((hargs _ hnone).skipGroup _).1))

end

/-! ## Forms -/

/-- The reader reads what the relation does, whatever is put in at its places. -/
structure Spreads (args : Nat → List Token) (inner : TypeReader) (R : TypeRelation) : Prop where
  within : ∀ {ts : List Token} {type : GoType} {rest : List Token} {places : List Nat},
    R ts type rest places → Within ts rest places
  /-- Nothing is put in between a package and the dot after it. -/
  qualified : ∀ {q : Token} {ts : List Token} {type : GoType} {rest : List Token}
    {places : List Nat}, R (q :: ts) type rest places → q.kind = .ident →
      next? ts = some .dot → ∀ n ∈ places, n < ts.length
  reads : ∀ {ts : List Token} {type : GoType} {rest : List Token} {places : List Nat},
    R ts type rest places → Fits args places ts rest →
      (inner (spread args ts)).result = .ok (type, spread args rest)

/-- Nothing can be put in between a package and the dot after it. -/
theorem FormReads.qualified {R : TypeRelation} {q : Token} {ts : List Token} {type : GoType}
    {rest : List Token} {places : List Nat} (h : FormReads R (q :: ts) type rest places)
    (hq : q.kind = .ident) (hdot : next? ts = some .dot) : ∀ n ∈ places, n < ts.length := by
  cases h with
  | ident _ hne => exact absurd hdot hne
  | selector =>
    simp only [List.mem_singleton, List.length_cons]
    omega
  | identArguments => simp
  | selectorArguments => simp
  | pointer h | slice h | array h | map h | struct h | interface h | func h | funcList h
  | funcResult h | chan h | receiving h | paren h =>
    rw [hq] at h
    cases h

section

variable {inner : TypeReader} {ts rest : List Token}

/-- Nothing that follows the parameters is a result. -/
theorem skipSignature_alone (hskip : (expectGroup .lparen "`(`" ts).result = .ok rest)
    (hnext : ∀ kind, next? rest = some kind → kind ≠ .lparen ∧ beginsResult kind = false) :
    (skipSignature inner ts).result = .ok rest := by
  unfold skipSignature
  rw [result_bind_of_ok hskip]
  split
  · rename_i hparen
    exact absurd rfl (hnext _ hparen).1
  · rename_i hkind
    rw [if_neg (by simp [(hnext _ hkind).2])]
    rfl
  · rfl

/-- A signature with results in parentheses is passed over without a look at types. -/
theorem skipSignature_list {us : List Token}
    (hskip : (expectGroup .lparen "`(`" ts).result = .ok us) (hnext : next? us = some .lparen)
    (hresults : (skipGroup 0 us).result = .ok rest) :
    (skipSignature inner ts).result = .ok rest := by
  unfold skipSignature
  rw [result_bind_of_ok hskip, hnext]
  exact hresults

end

section

variable {args : Nat → List Token} {inner : TypeReader} {R : TypeRelation}
  (hinner : Spreads args inner R) {ts rest : List Token} {places : List Nat}

include hinner

/-- The length of an array is as before, since nothing is put in up to the closing bracket; only the
element type is spread. -/
theorem arrayType_spread {len us : List Token} {elem : GoType} {l : Token}
    (hnext : next? ts ≠ some .rbracket) (hlen : (lengthTokens 0 ts).result = .ok (len, us))
    (helem : R us.tail elem rest places) (hfits : Fits args places (l :: ts) rest) :
    args ts.length = [] ∧ (arrayType inner (spread args ts)).result =
      .ok (.array (some (String.ofList (Text.trim (Token.spanText len)))) elem,
        spread args rest) := by
  obtain ⟨hlt, hplaces⟩ := (hinner.within helem).bounds
  obtain ⟨htakes, hclose, hlength⟩ := lengthTokens_takes hlen
  have hlength := hlength hnext
  cases us with
  | nil => cases hclose
  | cons r us =>
    rw [List.tail_cons] at helem hlt hplaces
    rw [List.length_cons] at hlength
    -- every place is in the element type, so nothing is put in up to the closing bracket
    have hnone := hfits.head (by omega) fun n hn => by
      have := hplaces n hn
      omega
    refine ⟨hnone, ?_⟩
    have hmid : Fits args places ts rest := hfits.later (Nat.le_succ _)
    have hend : Fits args places (r :: us) rest := hmid.later (Nat.le_of_lt hlength)
    have hafter : args us.length = [] := hend.head hlt.le fun n hn => (hplaces n hn).2
    have hclean : Fits args [] ts (r :: us) :=
      hmid.clean (hlt.le.trans (Nat.le_succ _)) fun n hn => Nat.lt_succ_of_lt (hplaces n hn).2
    have hrest := hinner.reads helem (hmid.later (by omega))
    unfold arrayType
    rw [if_neg (by rwa [next?_spread]), result_bind_of_ok (htakes.spread hclean)]
    dsimp only
    rw [spread_cons hafter, List.tail_cons, result_bind_of_ok hrest]
    rfl

/-- A map type is read as before, with what is put in its key and its value. -/
theorem mapType_spread {l r : Token} {us : List Token} {key value : GoType} {more : List Nat}
    (hl : l.kind = .lbracket) (hkey : R ts key (r :: us) places) (hr : r.kind = .rbracket)
    (hvalue : R us value rest more) (hfits : Fits args (places ++ more) ts rest) :
    (mapType inner (l :: spread args ts)).result = .ok (.map key value, spread args rest) := by
  obtain ⟨hlt, hplaces⟩ := (hinner.within hkey).bounds
  obtain ⟨hlt', hmore⟩ := (hinner.within hvalue).bounds
  rw [List.length_cons] at hlt hplaces
  have hnone : args us.length = [] := by
    refine hfits.none hlt'.le (by omega) fun hn => ?_
    rcases List.mem_append.mp hn with hn | hn
    · exact absurd (hplaces _ hn).1 (Nat.not_succ_le_self _)
    · exact absurd (hmore _ hn).2 (Nat.lt_irrefl _)
  have hkeyFits : Fits args places ts (r :: us) :=
    hfits.before (hlt'.le.trans (Nat.le_succ _)) fun n hn => Nat.lt_succ_of_lt (hmore n hn).2
  have hvalueFits : Fits args more us rest :=
    hfits.after (by omega) fun n hn => Nat.le_of_succ_le (hplaces n hn).1
  unfold mapType
  rw [expectKind_cons hl, result_bind_of_ok rfl, result_bind_of_ok (hinner.reads hkey hkeyFits)]
  dsimp only
  rw [spread_cons hnone, expectKind_cons hr, result_bind_of_ok rfl,
    result_bind_of_ok (hinner.reads hvalue hvalueFits)]
  rfl

/-- A channel type is read as before, with what is put in its element. -/
theorem chanType_spread {elem : GoType} (helem : R ts elem rest places)
    (hfits : Fits args places ts rest) :
    (chanType inner (spread args ts)).result = .ok (.chan elem, spread args rest) := by
  unfold chanType
  rw [result_bind_of_ok (hinner.reads helem hfits)]
  rfl

/-- A signature with a single result is passed over, with what is put in the result. -/
theorem skipSignature_spread {us : List Token} {kind : TokenKind} {type : GoType}
    (hskip : (expectGroup .lparen "`(`" ts).result = .ok us) (hnext : next? us = some kind)
    (hkind : beginsResult kind = true) (htype : R us type rest places)
    (hfits : Fits args places ts rest) :
    (skipSignature inner (spread args ts)).result = .ok (spread args rest) := by
  obtain ⟨htakes, hlt⟩ := expectGroup_takes hskip
  obtain ⟨hlt', hplaces⟩ := (hinner.within htype).bounds
  have hclean : Fits args [] ts us := hfits.clean hlt'.le fun n hn => (hplaces n hn).2
  have hresult := hinner.reads htype (hfits.later hlt.le)
  unfold skipSignature
  rw [result_bind_of_ok (htakes.spread hclean)]
  dsimp only [id]
  rw [next?_spread, hnext]
  split
  · rename_i hparen
    cases hparen
    cases hkind
  · rename_i hsome
    cases hsome
    rw [if_pos hkind, result_bind_of_ok hresult]
    rfl
  · rename_i hnone
    cases hnone

end

/-! ## Structs -/

/-- A field line is seen to be embedded by the class of its second token alone. -/
theorem atEmbedded_congr {t : Token} {us us' : List Token} (h : next? us' = next? us) :
    atEmbedded (t :: us') = atEmbedded (t :: us) := by
  have hkinds : ∀ vs : List Token,
      ((t :: vs).take 2).map Token.kind = t.kind :: (next? vs).toList := fun vs => by
    cases vs <;> rfl
  unfold atEmbedded
  rw [hkinds, hkinds, h]

section

variable {args : Nat → List Token} {inner : TypeReader} {R : TypeRelation}
  (hinner : Spreads args inner R) {ts rest : List Token} {places : List Nat}

include hinner

/-- The names and the type of a field are read before what follows them. -/
theorem fieldLine_spread {names : List String} {type : GoType} {f : Field} {us : List Token}
    (h : FieldReads R ts names type us places)
    (htag : (fieldTag names type us).result = .ok (f, rest))
    (hfits : Fits args places ts rest) :
    (fieldLine inner (spread args ts)).result = .ok (f, spread args rest) := by
  obtain ⟨hlt, hplaces⟩ := (h.within hinner.within).bounds
  have htakes := fieldTag_takes htag
  have htagged := htakes.spread (hfits.cleanAfter hlt.le fun n hn => (hplaces n hn).1)
  have hfits := hfits.sooner htakes.length_le
  cases h with
  | @named name ts vs _ names _ _ hplain hname hnames htype =>
    obtain ⟨hlt', hplaces'⟩ := (hinner.within htype).bounds
    have hnamesTake := (names_take ts).1 hnames
    have hle := hnamesTake.length_le
    have hnone : args ts.length = [] :=
      hfits.head (by omega) fun n hn => (hplaces' n hn).2.trans_le hle
    have hfits := hfits.later (Nat.le_succ ts.length)
    have hread := hinner.reads htype (hfits.later hle)
    have hnamesRead := hnamesTake.spread (hfits.clean hlt'.le fun n hn => (hplaces' n hn).2)
    have hplain' : ¬atEmbedded (name :: spread args ts) = true := by
      rw [atEmbedded_congr (next?_spread args ts), hplain]
      exact Bool.false_ne_true
    rw [spread_cons hnone]
    unfold fieldLine
    rw [if_neg hplain', identifier_cons hname, result_bind_of_ok rfl]
    dsimp only
    rw [result_bind_of_ok hnamesRead]
    dsimp only
    rw [result_bind_of_ok hread]
    exact htagged
  | @embedded first ts _ _ _ hembedded hfirst htype =>
    have hread := hinner.reads htype hfits
    have hembedded' : atEmbedded (spread args (first :: ts)) = true := by
      -- a pointer is told by one token, and a package by the dot that stays next to it
      rcases hfirst with hstar | ⟨hident, hdot⟩
      · exact atEmbedded_star hstar _
      · have hbefore := hinner.qualified htype hident hdot
        rw [spread_cons (hfits.head (Nat.le_of_lt_succ hlt) hbefore),
          atEmbedded_congr (next?_spread args ts), hembedded]
    unfold fieldLine
    rw [if_pos hembedded', result_bind_of_ok hread]
    exact htagged
  | @bare first ts _ _ _ hembedded _ _ htype =>
    have hread := hinner.reads htype hfits.of_nil
    have hembedded' : atEmbedded (spread args (first :: ts)) = true := by
      rw [spread_cons (hfits.head (Nat.le_of_lt_succ hlt) fun n hn => by cases hn),
        atEmbedded_congr (next?_spread args ts), hembedded]
    unfold fieldLine
    rw [if_pos hembedded', result_bind_of_ok hread]
    exact htagged

/-- The fields of a struct are read as before, with what is put in their types. -/
theorem structFields_spread {fs : List Field} (h : FieldsReads R ts fs rest places)
    (hfits : Fits args places ts rest) {turns : Nat} (hturns : (spread args ts).length < turns) :
    (structFields inner turns (spread args ts)).result = .ok (fs, spread args rest) := by
  induction h generalizing turns with
  | @close ts rest r hts hr =>
    obtain ⟨turns, rfl⟩ := Nat.exists_eq_succ_of_ne_zero (Nat.ne_zero_of_lt hturns)
    have hle := (skipSeparators_suffix ts).length_le
    rw [hts] at hle
    have hnone : args rest.length = [] :=
      (hfits.later hle).head (Nat.le_refl _) fun n hn => by cases hn
    rw [Nat.succ_eq_add_one, structFields,
      skipSeparators_spread hts (hfits.sooner (Nat.le_succ _)), spread_cons hnone]
    dsimp only
    rw [if_pos hr]
    rfl
  | @cons ts us vs ws xs rest first names type f fs places more hts hfirst hfield htag hend hmore
      ih =>
    obtain ⟨turns, rfl⟩ := Nat.exists_eq_succ_of_ne_zero (Nat.ne_zero_of_lt hturns)
    obtain ⟨hlt, hplaces⟩ := (hfield.within hinner.within).bounds
    obtain ⟨hlt', hplaces'⟩ := (hmore.within hinner.within).bounds
    have hle := (skipSeparators_suffix ts).length_le
    rw [hts] at hle
    have htagLe := (fieldTag_takes htag).length_le
    have hendLe := (fieldEnd_takes hend).length_le
    have hclean : Fits args [] ts (first :: us) := hfits.clean (by omega) fun n hn => by
      rcases List.mem_append.mp hn with hn | hn
      · exact (hplaces n hn).2
      · have := hplaces' n hn
        omega
    have hfits := hfits.later hle
    have hline : Fits args places (first :: us) ws :=
      hfits.before (by omega) fun n hn => (hplaces' n hn).2.trans_le hendLe
    have hafter : Fits args more ws rest :=
      hfits.after (by omega) fun n hn => htagLe.trans (hplaces n hn).1
    have hread := fieldLine_spread hinner hfield htag hline
    have hended := (fieldEnd_takes hend).spread
      (hafter.clean hlt'.le fun n hn => (hplaces' n hn).2)
    -- the turns suffice for the tokens with what is put in, of which the field takes some
    have hlength : (spread args xs).length < turns :=
      (spread_length_lt (by omega)).trans_le (Nat.le_of_lt_succ hturns)
    have hrest := ih (hafter.later hendLe) hlength
    rw [Nat.succ_eq_add_one, structFields, skipSeparators_spread hts hclean]
    show (if first.kind = .rbrace then _ else _ : Reading _).result = _
    rw [if_neg hfirst]
    refine (result_bind_of_ok hread _).trans ?_
    dsimp only
    rw [result_bind_of_ok hended]
    refine (result_bind_of_ok hrest _).trans ?_
    rfl

/-- A struct type is read as before, with what is put in the types of its fields. -/
theorem structType_spread {l : Token} {fs : List Field} (hl : l.kind = .lbrace)
    (h : FieldsReads R ts fs rest places) (hfits : Fits args places ts rest) :
    (structType inner (l :: spread args ts)).result = .ok (.struct fs, spread args rest) := by
  unfold structType
  rw [expectKind_cons hl, result_bind_of_ok rfl,
    result_bind_of_ok (structFields_spread hinner h hfits (Nat.lt_succ_self _))]
  rfl

end

/-! ## Type expressions -/

/-- A sign that may be passed over is, or is not, in both. -/
theorem skipKind_spread {args : Nat → List Token} {kind : TokenKind} {ts : List Token}
    (h : Fits args [] ts (skipKind kind ts)) :
    skipKind kind (spread args ts) = spread args (skipKind kind ts) := by
  cases ts with
  | nil => rfl
  | cons t ts =>
    by_cases hkind : t.kind = kind
    · rw [skipKind, if_pos hkind] at h
      rw [spread_cons (h.head (Nat.le_refl _) fun n hn => by cases hn), skipKind, skipKind,
        if_pos hkind, if_pos hkind]
    · rw [spread, skipKind, skipKind, if_neg hkind, if_neg hkind, spread]

section

variable {args : Nat → List Token} (hargs : ∀ n, args n ≠ [] → Arguments (args n))
  {inner : TypeReader} {R : TypeRelation} (hinner : Spreads args inner R)

include hargs hinner

/-- Every form of type expression is read as before, with what is put in at its places. -/
theorem typeForm_spread {ts rest : List Token} {type : GoType} {places : List Nat}
    (h : FormReads R ts type rest places) (hfits : Fits args places ts rest) :
    (typeForm inner (spread args ts)).result = .ok (type, spread args rest) := by
  cases h with
  | @ident t rest ht hdot hbracket =>
    simp only [spread, typeForm, ht]
    exact namedType_of_ident (next?_arguments_ne hargs hdot (by decide))
      (passesArguments_spread hargs hbracket)
  | @selector q dot t rest hq hdot ht hbracket =>
    obtain ⟨hfirst, hfits⟩ := hfits.uncons ((within_name ht rest).cons dot)
    obtain ⟨hsecond, -⟩ := hfits.uncons (within_name ht rest)
    rw [hfirst, hsecond]
    simp only [spread, typeForm, hq]
    exact namedType_of_selector hdot ht (passesArguments_spread hargs hbracket)
  | @identArguments t ts rest ht hbracket hskip =>
    have htakes := skipGroup_takes hskip
    obtain ⟨hfirst, hfits⟩ := hfits.uncons (within_nil htakes)
    have hdot : next? (spread args ts) ≠ some .dot := by
      rw [next?_spread, hbracket]
      decide
    rw [hfirst]
    simp only [typeForm, ht]
    exact namedType_of_ident hdot
      (.inr ⟨(next?_spread args ts).trans hbracket, htakes.1.spread hfits⟩)
  | @selectorArguments q dot t ts rest hq hdot ht hbracket hskip =>
    have htakes := skipGroup_takes hskip
    have hwithin := within_nil htakes
    obtain ⟨hfirst, hfits⟩ := hfits.uncons ((hwithin.cons t).cons dot)
    obtain ⟨hsecond, hfits⟩ := hfits.uncons (hwithin.cons t)
    obtain ⟨hthird, hfits⟩ := hfits.uncons hwithin
    rw [hfirst, hsecond, hthird]
    simp only [typeForm, hq]
    exact namedType_of_selector hdot ht
      (.inr ⟨(next?_spread args ts).trans hbracket, htakes.1.spread hfits⟩)
  | @pointer star ts rest elem places hstar helem =>
    obtain ⟨hfirst, hfits⟩ := hfits.uncons (hinner.within helem)
    rw [hfirst]
    simp only [typeForm, hstar]
    rw [result_bind_of_ok (hinner.reads helem hfits)]
    rfl
  | @slice l r ts rest elem places hl hr helem =>
    have hwithin := hinner.within helem
    obtain ⟨hfirst, hfits⟩ := hfits.uncons (hwithin.cons r)
    obtain ⟨hsecond, hfits⟩ := hfits.uncons hwithin
    have hnext : next? (r :: spread args ts) = some .rbracket := congrArg some hr
    rw [hfirst, hsecond]
    simp only [typeForm, hl]
    unfold arrayType
    rw [if_pos hnext, List.tail_cons, result_bind_of_ok (hinner.reads helem hfits)]
    rfl
  | @array l ts us len rest elem places hl hnext hlen helem =>
    obtain ⟨hnone, hread⟩ := arrayType_spread hinner hnext hlen helem hfits
    rw [spread_cons hnone]
    simp only [typeForm, hl]
    exact hread
  | @map word l r ts us rest key value places more hword hl hkey hr hvalue =>
    have hwithin := (hinner.within hkey).append (hinner.within hvalue) (List.suffix_cons r us)
    obtain ⟨hfirst, hfits⟩ := hfits.uncons (hwithin.cons l)
    obtain ⟨hsecond, hfits⟩ := hfits.uncons hwithin
    rw [hfirst, hsecond]
    simp only [typeForm, hword]
    exact mapType_spread hinner hl hkey hr hvalue hfits
  | @struct word l ts rest fields places hword hl hfields =>
    have hwithin := hfields.within hinner.within
    obtain ⟨hfirst, hfits⟩ := hfits.uncons (hwithin.cons l)
    obtain ⟨hsecond, hfits⟩ := hfits.uncons hwithin
    rw [hfirst, hsecond]
    simp only [typeForm, hword]
    exact structType_spread hinner hl hfields hfits
  | @interface word ts rest hword hskip =>
    have htakes := expectGroup_takes hskip
    obtain ⟨hfirst, hfits⟩ := hfits.uncons (within_nil htakes)
    rw [hfirst]
    simp only [typeForm, hword]
    rw [result_bind_of_ok (htakes.1.spread hfits)]
    rfl
  | @func word ts rest hword hskip hnext =>
    have htakes := expectGroup_takes hskip
    obtain ⟨hfirst, hfits⟩ := hfits.uncons (within_nil htakes)
    rw [hfirst]
    simp only [typeForm, hword]
    rw [result_bind_of_ok (skipSignature_alone (htakes.1.spread hfits) fun kind hkind =>
      hnext kind ((next?_spread args rest).symm.trans hkind))]
    rfl
  | @funcList word ts us rest hword hskip hnext hresults =>
    have htakes := expectGroup_takes hskip
    have htakes' := skipGroup_takes hresults
    obtain ⟨hfirst, hfits⟩ :=
      hfits.uncons ((within_nil htakes).append (within_nil htakes') List.suffix_rfl)
    have hread := htakes.1.spread (hfits.sooner htakes'.2.le)
    have hread' := htakes'.1.spread (hfits.later htakes.2.le)
    rw [hfirst]
    simp only [typeForm, hword]
    rw [result_bind_of_ok (skipSignature_list hread ((next?_spread args us).trans hnext) hread')]
    rfl
  | @funcResult word ts us rest kind type places hword hskip hnext hkind htype =>
    have hsuffix := (expectGroup_takes hskip).1.suffix
    obtain ⟨hfirst, hfits⟩ :=
      hfits.uncons ((hinner.within htype).mono hsuffix List.suffix_rfl)
    rw [hfirst]
    simp only [typeForm, hword]
    rw [result_bind_of_ok (skipSignature_spread hinner hskip hnext hkind htype hfits)]
    rfl
  | @chan word ts rest elem places hword helem =>
    have hsuffix := skipKind_suffix .arrow ts
    have hwithin := hinner.within helem
    obtain ⟨hlt, hplaces⟩ := hwithin.bounds
    obtain ⟨hfirst, hfits⟩ := hfits.uncons (hwithin.mono hsuffix List.suffix_rfl)
    have hclean := hfits.clean hlt.le fun n hn => (hplaces n hn).2
    rw [hfirst]
    simp only [typeForm, hword]
    rw [skipKind_spread hclean]
    exact chanType_spread hinner helem (hfits.later hsuffix.length_le)
  | @receiving arrow word ts rest elem places harrow hword helem =>
    have hwithin := hinner.within helem
    obtain ⟨hfirst, hfits⟩ := hfits.uncons (hwithin.cons word)
    obtain ⟨hsecond, hfits⟩ := hfits.uncons hwithin
    rw [hfirst, hsecond]
    simp only [typeForm, harrow]
    rw [expectKind_cons hword, result_bind_of_ok rfl]
    exact chanType_spread hinner helem hfits
  | @paren l r ts rest type places hl htype hr =>
    have hwithin := hinner.within htype
    obtain ⟨hlt, hplaces⟩ := hwithin.bounds
    obtain ⟨hfirst, hfits⟩ :=
      hfits.uncons (hwithin.mono List.suffix_rfl (List.suffix_cons r rest))
    have hnone : args rest.length = [] :=
      hfits.none (Nat.le_refl _) ((Nat.lt_succ_self _).trans hlt) fun hn =>
        Nat.lt_irrefl _ (hplaces _ hn).1
    have hread := hinner.reads htype (hfits.sooner (Nat.le_succ _))
    rw [hfirst]
    simp only [typeForm, hl]
    rw [result_bind_of_ok hread]
    dsimp only
    rw [spread_cons hnone, expectKind_cons hr, result_bind_of_ok rfl]
    rfl

/-- The forms of type expression spread if the types inside do. -/
theorem typeForm_spreads : Spreads args (typeForm inner) (FormReads R) where
  within := FormReads.within hinner.within
  qualified := FormReads.qualified
  reads := typeForm_spread hargs hinner

end

/-- Type expressions spread at every depth. -/
theorem typeExpr_spreads {args : Nat → List Token}
    (hargs : ∀ n, args n ≠ [] → Arguments (args n)) (depth : Nat) :
    Spreads args (typeExpr depth) (TypeReads depth) := by
  induction depth with
  | zero => exact ⟨fun h => (by cases h), fun h => (by cases h), fun h => (by cases h)⟩
  | succ depth ih => exact typeForm_spreads hargs ih

end CodecGen.Package
