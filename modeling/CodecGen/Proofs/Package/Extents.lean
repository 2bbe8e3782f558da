import CodecGen.Proofs.Package.Lengths
import CodecGen.Proofs.Package.Places

/-!
# How far the readers go

A reader that passes over tokens takes a stretch of them, and takes the same stretch before anything
that begins with the same class of token (`Takes`). What is read as a type or a declaration takes
tokens, and its places are among them (`Within`). So every statement takes tokens, and the places of
a whole source are found (`ofTokens_places`).
-/

namespace CodecGen.Package

open Logged (exists_of_result_bind result_bind_of_ok)

/-! ## Stretches -/

/-- The reader takes what stands before the rest, and answers the same with another rest that begins
with the same class of token. -/
def Takes {α : Type} (r : List Token → Reading α) (answer : List Token → α)
    (ts rest : List Token) : Prop :=
  ∃ us, ts = us ++ rest ∧ ∀ rest', next? rest' = next? rest →
    (r (us ++ rest')).result = .ok (answer rest')

/-- What is left of a stretch is an end of the tokens. -/
theorem Takes.suffix {α : Type} {r : List Token → Reading α} {answer : List Token → α}
    {ts rest : List Token} (h : Takes r answer ts rest) : rest <:+ ts := by
  obtain ⟨us, rfl, -⟩ := h
  exact List.suffix_append us rest

/-- A stretch leaves no more tokens than there were. -/
theorem Takes.length_le {α : Type} {r : List Token → Reading α} {answer : List Token → α}
    {ts rest : List Token} (h : Takes r answer ts rest) : rest.length ≤ ts.length :=
  h.suffix.length_le

/-- A token is taken, and more after it by another reader. -/
theorem Takes.cons {α β : Type} {r : List Token → Reading α} {r' : List Token → Reading β}
    {answer : List Token → α} {answer' : List Token → β} {t : Token} {ts rest : List Token}
    (h : Takes r' answer' ts rest)
    (hcons : ∀ us rest', (r' us).result = .ok (answer' rest') →
      (r (t :: us)).result = .ok (answer rest')) : Takes r answer (t :: ts) rest := by
  obtain ⟨us, rfl, hus⟩ := h
  exact ⟨t :: us, rfl, fun rest' hnext => hcons _ rest' (hus rest' hnext)⟩

section

variable {ts rest : List Token}

/-- A group is a stretch, of at least its closing bracket. -/
theorem skipGroup_takes {depth : Nat} (h : (skipGroup depth ts).result = .ok rest) :
    Takes (skipGroup depth) id ts rest ∧ rest.length < ts.length := by
  induction ts generalizing depth with
  | nil => cases h
  | cons t ts ih =>
    have hmore : ∀ {depth' : Nat}, (∀ us, skipGroup depth (t :: us) = skipGroup depth' us) →
        Takes (skipGroup depth) id (t :: ts) rest ∧ rest.length < (t :: ts).length := by
      intro depth' hstep
      rw [hstep] at h
      obtain ⟨htakes, hlength⟩ := ih h
      refine ⟨htakes.cons fun us rest' hus => (congrArg _ (hstep us)).trans hus, ?_⟩
      exact Nat.lt_succ_of_lt hlength
    by_cases hopen : t.kind.opens = true
    · exact hmore fun us => by rw [skipGroup, if_pos hopen]
    by_cases hclose : t.kind.closes = true
    · by_cases hdepth : depth ≤ 1
      · have hend : ∀ us, skipGroup depth (t :: us) = pure us := fun us => by
          rw [skipGroup, if_neg hopen, if_pos hclose, if_pos hdepth]
        rw [hend] at h
        cases h
        refine ⟨⟨[t], rfl, fun rest' _ => ?_⟩, Nat.lt_succ_self _⟩
        rw [List.singleton_append, hend]
        rfl
      · exact hmore fun us => by rw [skipGroup, if_neg hopen, if_pos hclose, if_neg hdepth]
    · exact hmore fun us => by rw [skipGroup, if_neg hopen, if_neg hclose]

/-- An awaited group is a stretch of at least its brackets. -/
theorem expectGroup_takes {kind : TokenKind} {what : String}
    (h : (expectGroup kind what ts).result = .ok rest) :
    Takes (expectGroup kind what) id ts rest ∧ rest.length < ts.length := by
  unfold expectGroup at h
  by_cases hnext : next? ts = some kind
  · rw [if_pos hnext] at h
    obtain ⟨⟨us, rfl, hus⟩, hlength⟩ := skipGroup_takes h
    refine ⟨⟨us, rfl, fun rest' hrest => ?_⟩, hlength⟩
    cases us with
    | nil => exact absurd hlength (Nat.lt_irrefl _)
    | cons t us =>
      have hnext' : next? (t :: us ++ rest') = some kind := hnext
      unfold expectGroup
      rw [if_pos hnext']
      exact hus rest' hrest
  · rw [if_neg hnext] at h
    cases h

/-- The tokens of a length end before a closing bracket. -/
theorem lengthTokens_takes {depth : Nat} {len : List Token}
    (h : (lengthTokens depth ts).result = .ok (len, rest)) :
    Takes (lengthTokens depth) (len, ·) ts rest ∧ next? rest = some .rbracket ∧
      (next? ts ≠ some .rbracket → rest.length < ts.length) := by
  induction ts generalizing depth len with
  | nil => cases h
  | cons t ts ih =>
    by_cases hend : t.kind = .rbracket ∧ depth = 0
    · rw [lengthTokens, if_pos hend] at h
      cases h
      refine ⟨⟨[], rfl, fun rest' hnext => ?_⟩, congrArg some hend.1, ?_⟩
      · cases rest' with
        | nil => cases hnext
        | cons t' rest' =>
          have hkind : t'.kind = t.kind := Option.some.inj hnext
          rw [List.nil_append, lengthTokens, if_pos (by rwa [hkind])]
          rfl
      · exact fun hne => absurd (congrArg some hend.1) hne
    · have hstep : ∀ us, lengthTokens depth (t :: us) =
          lengthTokens (depthAfter t.kind depth) us >>= fun p => pure (t :: p.1, p.2) :=
        fun us => by
          rw [lengthTokens, if_neg hend]
          rfl
      rw [hstep] at h
      obtain ⟨⟨len', us⟩, hlen, h⟩ := exists_of_result_bind h
      cases h
      obtain ⟨htakes, hnext, -⟩ := ih hlen
      refine ⟨htakes.cons fun us rest' hus => ?_, hnext, fun _ => ?_⟩
      · rw [hstep, result_bind_of_ok hus]
        rfl
      · exact Nat.lt_succ_of_le htakes.length_le

/-- What begins like the rest begins like a given token. -/
theorem exists_of_next? {t : Token} {rest' : List Token} (h : next? rest' = next? (t :: rest)) :
    ∃ t' us, rest' = t' :: us ∧ t'.kind = t.kind := by
  cases rest' with
  | nil => cases h
  | cons t' us => exact ⟨t', us, rfl, Option.some.inj h⟩

/-- Where no token is next, there are no tokens. -/
theorem eq_nil_of_next? {rest' : List Token} (h : next? rest' = next? []) : rest' = [] := by
  cases rest' with
  | nil => rfl
  | cons t us => cases h

/-- The further names of a field end where no comma follows. Both readers take names in turns. -/
theorem names_take (ts : List Token) :
    (∀ {names rest}, (namesAfter ts).result = .ok (names, rest) →
      Takes namesAfter (names, ·) ts rest) ∧
    ∀ {names rest}, (nameAwaited ts).result = .ok (names, rest) →
      Takes nameAwaited (names, ·) ts rest := by
  -- a comma leads from one reader to the other and a name leads back
  induction ts with
  | nil =>
    refine ⟨fun h => ?_, fun h => by cases h⟩
    cases h
    refine ⟨[], rfl, fun rest' hnext => ?_⟩
    rw [eq_nil_of_next? hnext]
    rfl
  | cons t ts ih =>
    constructor
    · intro names rest h
      by_cases hcomma : t.kind = .comma
      · have hstep : ∀ us, namesAfter (t :: us) = nameAwaited us := fun us => by
          rw [namesAfter, if_pos hcomma]
        rw [hstep] at h
        exact (ih.2 h).cons fun us rest' hus => (congrArg _ (hstep us)).trans hus
      · rw [namesAfter, if_neg hcomma] at h
        cases h
        refine ⟨[], rfl, fun rest' hnext => ?_⟩
        obtain ⟨t', us, rfl, hkind⟩ := exists_of_next? hnext
        rw [List.nil_append, namesAfter, if_neg (by rwa [hkind])]
        rfl
    · intro names rest h
      by_cases hline : t.kind.isNewline = true
      · have hstep : ∀ us, nameAwaited (t :: us) = nameAwaited us := fun us => by
          rw [nameAwaited, if_pos hline]
        rw [hstep] at h
        exact (ih.2 h).cons fun us rest' hus => (congrArg _ (hstep us)).trans hus
      · by_cases hname : t.kind = .ident
        · have hstep : ∀ us, nameAwaited (t :: us) =
              namesAfter us >>= fun p => pure (t.lexeme :: p.1, p.2) := fun us => by
            rw [nameAwaited, if_neg hline, if_pos hname]
          rw [hstep] at h
          obtain ⟨⟨names', us⟩, hnames, h⟩ := exists_of_result_bind h
          cases h
          refine (ih.1 hnames).cons fun us rest' hus => ?_
          rw [hstep]
          exact result_bind_of_ok hus _
        · rw [nameAwaited, if_neg hline, if_neg hname] at h
          cases h

/-- A tag, or none, is a stretch. -/
theorem fieldTag_takes {names : List String} {type : GoType} {f : Field}
    (h : (fieldTag names type ts).result = .ok (f, rest)) :
    Takes (fieldTag names type) (f, ·) ts rest := by
  cases ts with
  | nil =>
    cases h
    refine ⟨[], rfl, fun rest' hnext => ?_⟩
    rw [eq_nil_of_next? hnext]
    rfl
  | cons t ts =>
    by_cases hliteral : t.kind.isStringLiteral = true
    · rw [fieldTag, if_pos hliteral] at h
      cases h
      refine ⟨[t], rfl, fun rest' _ => ?_⟩
      rw [List.singleton_append, fieldTag, if_pos hliteral]
      rfl
    · rw [fieldTag, if_neg hliteral] at h
      cases h
      refine ⟨[], rfl, fun rest' hnext => ?_⟩
      obtain ⟨t', us, rfl, hkind⟩ := exists_of_next? hnext
      rw [List.nil_append, fieldTag, if_neg (by rwa [hkind])]
      rfl

/-- The end of a field line is a stretch. -/
theorem fieldEnd_takes (h : (fieldEnd ts).result = .ok rest) : Takes fieldEnd id ts rest := by
  cases ts with
  | nil => cases h
  | cons t ts =>
    by_cases hsep : t.kind.isSeparator = true
    · rw [fieldEnd, if_pos hsep] at h
      cases h
      refine ⟨[t], rfl, fun rest' _ => ?_⟩
      rw [List.singleton_append, fieldEnd, if_pos hsep]
      rfl
    · by_cases hbrace : t.kind = .rbrace
      · rw [fieldEnd, if_neg hsep, if_pos hbrace] at h
        cases h
        refine ⟨[], rfl, fun rest' hnext => ?_⟩
        obtain ⟨t', us, rfl, hkind⟩ := exists_of_next? hnext
        rw [List.nil_append, fieldEnd, if_neg (by rwa [hkind]), if_pos (hkind.trans hbrace)]
        rfl
      · rw [fieldEnd, if_neg hsep, if_neg hbrace] at h
        cases h

/-- A statement ends before a separator or at the end. -/
theorem skipStatement_takes {depth : Nat} (h : (skipStatement depth ts).result = .ok rest) :
    Takes (skipStatement depth) id ts rest ∧ StatementEnds rest := by
  induction ts generalizing depth with
  | nil =>
    by_cases hdepth : depth = 0
    · rw [skipStatement, if_pos hdepth] at h
      cases h
      refine ⟨⟨[], rfl, fun rest' hnext => ?_⟩, fun _ ht => by cases ht⟩
      rw [eq_nil_of_next? hnext, List.append_nil, skipStatement, if_pos hdepth]
      rfl
    · rw [skipStatement, if_neg hdepth] at h
      cases h
  | cons t ts ih =>
    -- a token that does not end the statement is passed over, whatever follows it
    have hmore : ∀ {depth' : Nat},
        (∀ us, skipStatement depth (t :: us) = skipStatement depth' us) →
        Takes (skipStatement depth) id (t :: ts) rest ∧ StatementEnds rest := by
      intro depth' hstep
      rw [hstep] at h
      obtain ⟨htakes, hends⟩ := ih h
      exact ⟨htakes.cons fun us rest' hus => (congrArg _ (hstep us)).trans hus, hends⟩
    by_cases hopen : t.kind.opens = true
    · exact hmore fun us => by rw [skipStatement, if_pos hopen]
    by_cases hclose : t.kind.closes = true
    · by_cases hdepth : depth = 0
      · rw [skipStatement, if_neg hopen, if_pos hclose, if_pos hdepth] at h
        cases h
      · exact hmore fun us => by
          rw [skipStatement, if_neg hopen, if_pos hclose, if_neg hdepth]
    by_cases hsep : depth = 0 ∧ t.kind.isSeparator = true
    · have hend := skipStatement_end (statementEnds_cons hsep.2 ts)
      rw [hsep.1, hend] at h
      cases h
      refine ⟨⟨[], rfl, fun rest' hnext => ?_⟩, statementEnds_cons hsep.2 ts⟩
      obtain ⟨t', us, rfl, hkind⟩ := exists_of_next? hnext
      rw [List.nil_append, hsep.1, skipStatement_end (statementEnds_cons (by
        rw [hkind]
        exact hsep.2) us)]
      rfl
    · exact hmore fun us => by
        rw [skipStatement, if_neg hopen, if_neg hclose, if_neg hsep]

/-- What is left after the separators begins with no separator. -/
theorem isSeparator_of_skipSeparators {ts us : List Token} {first : Token}
    (h : skipSeparators ts = first :: us) : first.kind.isSeparator = false := by
  have hhead := List.head?_dropWhile_not (fun t : Token => t.kind.isSeparator) ts
  unfold skipSeparators at h
  rw [h] at hhead
  exact hhead

/-- Separators are taken up to the first other token. -/
theorem skipSeparators_takes (ts : List Token) :
    Takes (fun ts => pure (skipSeparators ts)) id ts (skipSeparators ts) := by
  have hseps : Separators (ts.takeWhile fun t => t.kind.isSeparator) := fun t ht => by
    simpa using List.mem_takeWhile_imp ht
  refine ⟨_, List.takeWhile_append_dropWhile.symm, fun rest' hnext => ?_⟩
  cases hus : skipSeparators ts with
  | nil =>
    rw [hus] at hnext
    rw [eq_nil_of_next? hnext, List.append_nil]
    exact congrArg Except.ok (List.dropWhile_eq_nil_iff.mpr hseps)
  | cons t us =>
    rw [hus] at hnext
    obtain ⟨t', us', rfl, hkind⟩ := exists_of_next? hnext
    exact congrArg Except.ok (skipSeparators_append hseps
      (by rw [hkind, isSeparator_of_skipSeparators hus]) us')

/-- What is left after the separators is an end of the tokens. -/
theorem skipSeparators_suffix (ts : List Token) : skipSeparators ts <:+ ts :=
  List.dropWhile_suffix _

/-- Where a sign may be passed over, no more than that is. -/
theorem skipKind_suffix (kind : TokenKind) (ts : List Token) : skipKind kind ts <:+ ts := by
  cases ts with
  | nil => exact List.suffix_rfl
  | cons t ts =>
    rw [skipKind]
    split_ifs
    · exact List.suffix_cons t ts
    · exact List.suffix_rfl

end

/-! ## Places are within what is read -/

/-- The place is after a name. -/
def NameAt (ts : List Token) (n : Nat) : Prop :=
  ∃ t us, t :: us <:+ ts ∧ t.kind = .ident ∧ us.length = n

/-- A place after a name is before the end. -/
theorem NameAt.lt {ts : List Token} {n : Nat} (h : NameAt ts n) : n < ts.length := by
  obtain ⟨t, us, hsuffix, -, rfl⟩ := h
  exact hsuffix.length_le

/-- A place in an end of some tokens is a place in all of them. -/
theorem NameAt.mono {ts us : List Token} {n : Nat} (h : NameAt us n) (hus : us <:+ ts) :
    NameAt ts n := by
  obtain ⟨t, vs, hsuffix, ht⟩ := h
  exact ⟨t, vs, hsuffix.trans hus, ht⟩

/-- The place after the first token is one after a name only if that token is a name. -/
theorem NameAt.kind {t : Token} {ts : List Token} (h : NameAt (t :: ts) ts.length) :
    t.kind = .ident := by
  obtain ⟨u, us, hsuffix, hu, hlength⟩ := h
  have heq := hsuffix.eq_of_length (congrArg Nat.succ hlength)
  rwa [(List.cons.inj heq).1] at hu

/-- A place after a name further on is a place in the other tokens. -/
theorem NameAt.of_cons {t : Token} {ts : List Token} {n : Nat} (h : NameAt (t :: ts) n)
    (hn : n < ts.length) : NameAt ts n := by
  obtain ⟨u, us, hsuffix, hu, rfl⟩ := h
  rcases List.suffix_cons_iff.mp hsuffix with heq | hsuffix
  · rw [(List.cons.inj heq).2] at hn
    exact absurd hn (Nat.lt_irrefl _)
  · exact ⟨u, us, hsuffix, hu, rfl⟩

/-- Some tokens are taken, and the places are after names among them. -/
structure Within (ts rest : List Token) (places : List Nat) : Prop where
  /-- The tokens are taken from the front. -/
  suffix : rest <:+ ts
  /-- At least one token is taken. -/
  shorter : rest.length < ts.length
  /-- Every place is among the tokens that are taken. -/
  names : ∀ n ∈ places, rest.length ≤ n ∧ NameAt ts n

section

variable {ts us vs rest : List Token} {places more : List Nat}

/-- Places lie between what is taken and what is left. -/
theorem Within.bounds (h : Within ts rest places) :
    rest.length < ts.length ∧ ∀ n ∈ places, rest.length ≤ n ∧ n < ts.length :=
  ⟨h.shorter, fun n hn => ⟨(h.names n hn).1, (h.names n hn).2.lt⟩⟩

/-- The places of more that is read are those of its parts. -/
theorem Within.append (h : Within ts us places) (hmore : Within vs rest more) (hvs : vs <:+ us) :
    Within ts rest (places ++ more) := by
  have hsuffix := hvs.trans h.suffix
  have hlt := hmore.shorter.trans_le hvs.length_le
  refine ⟨hmore.suffix.trans hsuffix, hlt.trans h.shorter, fun n hn => ?_⟩
  rcases List.mem_append.mp hn with hn | hn
  · exact ⟨hlt.le.trans (h.names n hn).1, (h.names n hn).2⟩
  · exact ⟨(hmore.names n hn).1, (hmore.names n hn).2.mono hsuffix⟩

/-- Places within a stretch are within any longer one around it. -/
theorem Within.mono (h : Within us vs places) (hus : us <:+ ts) (hrest : rest <:+ vs) :
    Within ts rest places := by
  refine ⟨hrest.trans (h.suffix.trans hus), ?_, fun n hn => ?_⟩
  · exact hrest.length_le.trans_lt (h.shorter.trans_le hus.length_le)
  · exact ⟨hrest.length_le.trans (h.names n hn).1, (h.names n hn).2.mono hus⟩

/-- Places within a stretch are within it with one more token in front. -/
theorem Within.cons (h : Within ts rest places) (t : Token) : Within (t :: ts) rest places :=
  h.mono (List.suffix_cons t ts) List.suffix_rfl

/-- A name is a stretch with one place, after itself. -/
theorem within_name {t : Token} (ht : t.kind = .ident) (rest : List Token) :
    Within (t :: rest) rest [rest.length] :=
  ⟨List.suffix_cons t rest, Nat.lt_succ_self _,
    List.forall_mem_singleton.mpr ⟨Nat.le_refl _, t, rest, List.suffix_rfl, ht, rfl⟩⟩

/-- What is passed over has no places. -/
theorem within_nil {α : Type} {r : List Token → Reading α} {answer : List Token → α}
    (h : Takes r answer ts rest ∧ rest.length < ts.length) : Within ts rest [] :=
  ⟨h.1.suffix, h.2, fun n hn => by cases hn⟩

/-- A stretch is one with no places. -/
theorem Within.forget (h : Within ts rest places) : Within ts rest [] :=
  ⟨h.suffix, h.shorter, fun n hn => by cases hn⟩

end

section

variable {R : TypeRelation}
  (hR : ∀ {ts : List Token} {type : GoType} {rest : List Token} {places : List Nat},
    R ts type rest places → Within ts rest places)

include hR

/-- The places of a field are within it. -/
theorem FieldReads.within {ts rest : List Token} {names : List String} {type : GoType}
    {places : List Nat} (h : FieldReads R ts names type rest places) : Within ts rest places := by
  cases h with
  | named _ _ hnames htype =>
    have hsuffix := ((names_take _).1 hnames).suffix
    exact (hR htype).mono (hsuffix.trans (List.suffix_cons _ _)) List.suffix_rfl
  | embedded _ _ htype => exact hR htype
  | bare _ _ _ htype => exact (hR htype).forget

/-- The places of the fields of a struct are within them, by induction on the fields. -/
theorem FieldsReads.within {ts rest : List Token} {fs : List Field} {places : List Nat}
    (h : FieldsReads R ts fs rest places) : Within ts rest places := by
  induction h with
  | @close ts rest r hts _ =>
    have hsuffix := skipSeparators_suffix ts
    rw [hts] at hsuffix
    exact ⟨(List.suffix_cons r rest).trans hsuffix, hsuffix.length_le, fun n hn => by cases hn⟩
  | @cons ts us vs ws xs rest first names type f fs places more hts _ hfield htag hend _ ih =>
    have hsuffix := skipSeparators_suffix ts
    rw [hts] at hsuffix
    have htagSuffix := (fieldTag_takes htag).suffix
    have hendSuffix := (fieldEnd_takes hend).suffix
    exact ((hfield.within hR).mono hsuffix List.suffix_rfl).append ih
      (hendSuffix.trans htagSuffix)

/-- The places of a form of type expression are within it. -/
theorem FormReads.within {ts rest : List Token} {type : GoType} {places : List Nat}
    (h : FormReads R ts type rest places) : Within ts rest places := by
  -- the tokens before the types inside are no places, and a rest that is left is a rest of all
  cases h with
  | ident ht => exact within_name ht rest
  | selector _ _ ht => exact ((within_name ht rest).cons _).cons _
  | identArguments _ _ hskip => exact (within_nil (skipGroup_takes hskip)).cons _
  | selectorArguments _ _ _ _ hskip =>
    exact (((within_nil (skipGroup_takes hskip)).cons _).cons _).cons _
  | pointer _ helem => exact (hR helem).cons _
  | slice _ _ helem => exact ((hR helem).cons _).cons _
  | @array l ts us len rest elem places _ hnext hlen helem =>
    have hsuffix := (lengthTokens_takes hlen).1.suffix
    have htail : us.tail <:+ us := List.tail_suffix us
    exact ((hR helem).mono (htail.trans hsuffix) List.suffix_rfl).cons _
  | map _ _ hkey _ hvalue =>
    exact (((hR hkey).append (hR hvalue) (List.suffix_cons _ _)).cons _).cons _
  | struct _ _ hfields => exact ((hfields.within hR).cons _).cons _
  | interface _ hskip => exact (within_nil (expectGroup_takes hskip)).cons _
  | func _ hskip _ => exact (within_nil (expectGroup_takes hskip)).cons _
  | funcList _ hskip _ hresults =>
    have hparams := within_nil (expectGroup_takes hskip)
    exact (hparams.append (within_nil (skipGroup_takes hresults)) List.suffix_rfl).cons _
  | funcResult _ hskip _ _ htype =>
    have hsuffix := (expectGroup_takes hskip).1.suffix
    exact ((hR htype).mono hsuffix List.suffix_rfl).cons _
  | @chan word ts _ _ _ _ helem =>
    exact ((hR helem).mono (skipKind_suffix .arrow ts) List.suffix_rfl).cons _
  | receiving _ _ helem => exact ((hR helem).cons _).cons _
  | paren _ htype _ => exact ((hR htype).mono List.suffix_rfl (List.suffix_cons _ _)).cons _

end

/-- The places of a type expression are within it. -/
theorem TypeReads.within {depth : Nat} {ts rest : List Token} {type : GoType} {places : List Nat}
    (h : TypeReads depth ts type rest places) : Within ts rest places := by
  induction depth generalizing ts type rest places with
  | zero => cases h
  | succ depth ih => exact FormReads.within ih h

/-- The places of a declaration are within it. -/
theorem SpecReads.within {ts rest : List Token} {d : Option TypeDecl} {places : List Nat}
    (h : SpecReads ts d rest places) : Within ts rest places := by
  cases h with
  | plain _ _ htype => exact (htype.within.mono (skipKind_suffix _ _) List.suffix_rfl).cons _
  | @generic name ts us rest type places _ _ hskip htype =>
    have hsuffix := (skipKind_suffix .assign us).trans (skipGroup_takes hskip).1.suffix
    exact (htype.within.forget.mono hsuffix List.suffix_rfl).cons _

/-- The places in a group are within it. -/
theorem GroupReads.within {ts rest : List Token} {ds : List TypeDecl} {places : List Nat}
    (h : GroupReads ts ds rest places) : Within ts rest places := by
  induction h with
  | @close ts rest r hts _ =>
    have hsuffix := skipSeparators_suffix ts
    rw [hts] at hsuffix
    exact ⟨(List.suffix_cons r rest).trans hsuffix, hsuffix.length_le, fun n hn => by cases hn⟩
  | @cons ts us vs rest first kind d ds places more hts _ hd _ _ _ ih =>
    have hsuffix := skipSeparators_suffix ts
    rw [hts] at hsuffix
    exact (hd.within.mono hsuffix List.suffix_rfl).append ih List.suffix_rfl

/-- The places of what follows the word `type` are within it. -/
theorem DeclsReads.within {ts rest : List Token} {ds : List TypeDecl} {places : List Nat}
    (h : DeclsReads ts ds rest places) : Within ts rest places := by
  cases h with
  | group _ hds => exact hds.within.cons _
  | single hd => exact hd.within

/-! ## Sources -/

/-- A statement that is passed over takes at least its first token. -/
theorem skipStatement_length_lt {first : Token} {us rest : List Token}
    (hfirst : first.kind.isSeparator = false)
    (h : (skipStatement 0 (first :: us)).result = .ok rest) : rest.length < us.length + 1 := by
  obtain ⟨⟨ws, hws, -⟩, hends⟩ := skipStatement_takes h
  cases ws with
  | nil =>
    have hsep := hends first (by rw [← List.nil_append rest, ← hws]; rfl)
    rw [hfirst] at hsep
    cases hsep
  | cons w ws =>
    have hlength := congrArg List.length hws
    simp only [List.length_cons, List.length_append] at hlength
    omega

/-- The statements of a source are read with some places. -/
theorem statements_places {turns : Nat} {ts : List Token} {ds : List TypeDecl}
    (hturns : ts.length < turns) (h : (statements turns ts).result = .ok ds) :
    ∃ places, StatementsReads ts ds places := by
  induction turns generalizing ts ds with
  | zero => exact absurd hturns (Nat.not_lt_zero _)
  | succ turns ih =>
    rw [statements] at h
    split at h
    · rename_i hts
      cases h
      exact ⟨[], .done hts⟩
    · rename_i first us hts
      have hle := (skipSeparators_suffix ts).length_le
      rw [hts, List.length_cons] at hle
      by_cases hword : first.kind = .keyword .typeDecl
      · rw [if_pos hword] at h
        obtain ⟨⟨ds', vs⟩, hdecls, h⟩ := exists_of_result_bind h
        obtain ⟨more, hmore, h⟩ := exists_of_result_bind h
        cases h
        obtain ⟨places, hplaces⟩ := typeDecls_places hdecls
        have hlt := hplaces.within.shorter
        obtain ⟨places', hplaces'⟩ := ih (by omega) hmore
        exact ⟨places ++ places', .decls hts hword hplaces hplaces'⟩
      · rw [if_neg hword] at h
        obtain ⟨vs, hskip, hmore⟩ := exists_of_result_bind h
        have hlt := skipStatement_length_lt (isSeparator_of_skipSeparators hts) hskip
        obtain ⟨places, hplaces⟩ := ih (by omega) hmore
        exact ⟨places, .other hts hword hskip hplaces⟩

/-- Every source that is read has places of named types. -/
theorem ofTokens_places {ts : List Token} {p : Package} (h : (ofTokens ts).result = .ok p) :
    ∃ places, SourceReads ts p places := by
  unfold ofTokens at h
  obtain ⟨us, hword, h⟩ := exists_of_result_bind h
  obtain ⟨⟨name, vs⟩, hname, h⟩ := exists_of_result_bind h
  obtain ⟨ds, hds, h⟩ := exists_of_result_bind h
  obtain ⟨-, -, h⟩ := exists_of_result_bind h
  cases h
  obtain ⟨word, hts, hkind⟩ := exists_of_expectKind hword
  obtain ⟨t, rfl, ht, rfl⟩ := exists_of_identifier hname
  obtain ⟨places, hplaces⟩ := statements_places (Nat.lt_succ_self _) hds
  exact ⟨places, .intro hts hkind ht hplaces⟩

end CodecGen.Package
