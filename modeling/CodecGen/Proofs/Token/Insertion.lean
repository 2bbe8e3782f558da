import CodecGen.Proofs.Token.Respelling

/-!
# Text put in after a name

Text in square brackets that stands on one line can be put in directly after any name of a source:
it is read as the tokens it is read as by itself, and the other tokens are as before
(`exists_scan_inserted`).
-/

namespace CodecGen.Token

/-! ## The ends of names and brackets -/

/-- A closing square bracket is spelled in one way. -/
theorem eq_of_lexes_rbracket {text : List Char} (h : Lexes .rbracket text) : text = [']'] := by
  generalize hkind : TokenKind.rbracket = kind at h
  cases h with
  | word =>
    unfold wordKind at hkind
    split at hkind <;> cases hkind
  | operator =>
    unfold operatorKind at hkind
    split_ifs at hkind
  | mark h =>
    unfold punctuation? at h
    split at h <;> cases h <;> first | rfl | cases hkind
  | _ => cases hkind

/-- What begins like a word is read as one. -/
theorem front?_identStart {c : Char} (hc : isIdentStart c = true) (cs : List Char) :
    ∃ kind text rest, front? (c :: cs) = some (some kind, text, rest) := by
  have hparts : ∀ d ∈ cs.takeWhile isIdentPart, isIdentPart d = true :=
    fun d hd => List.mem_takeWhile_imp hd
  have hword := front?_word hc hparts (stopsAt_dropWhile isIdentPart cs)
  rw [List.takeWhile_append_dropWhile] at hword
  exact ⟨_, _, _, hword⟩

/-! ## Text in brackets -/

/-- Text on one line that is read as some tokens, from an opening square bracket to a closing one.
-/
structure Bracketed (text : List Char) (ts : List Token) : Prop where
  /-- There is no line end in it. -/
  line : '\n' ∉ text
  /-- It begins with the opening bracket. -/
  opens : text.head? = some '['
  /-- It is read as the tokens. -/
  scans : scan text = .ok ts
  /-- It ends with the last of them. -/
  source : source ts = text
  /-- The last of them is the closing bracket. -/
  closes : ∃ inside r, ts = inside ++ [r] ∧ r.kind = .rbracket

/-- Tokens with the texts of two rows are two rows with their texts. -/
theorem exists_append_of_sameText {ts us vs : List Token}
    (h : List.Forall₂ SameText (ts ++ us) vs) :
    ∃ ts' us', vs = ts' ++ us' ∧ List.Forall₂ SameText ts ts' ∧ List.Forall₂ SameText us us' := by
  have hflip : List.Forall₂ (flip SameText) vs (ts ++ us) := h.flip
  exact ⟨vs.take ts.length, vs.drop ts.length, (List.take_append_drop _ _).symm,
    (List.forall₂_take_append vs ts us hflip).flip, (List.forall₂_drop_append vs ts us hflip).flip⟩

/-- Text in brackets is read the same before other text. -/
theorem exists_scanFrom_bracketed {text rest : List Char} {ts us : List Token} {line : Nat}
    (h : Bracketed text ts) (hrest : scanFrom line [] rest = .ok us) :
    ∃ row, List.Forall₂ SameText ts row ∧ scanFrom line [] (text ++ rest) = .ok (row ++ us) := by
  obtain ⟨inside, r, rfl, hr⟩ := h.closes
  obtain ⟨row, hrow, hsame⟩ := exists_scanFrom_line h.scans line
  have hsource : Token.source row = text := (source_eq_of_sameText hsame).symm.trans h.source
  obtain ⟨inside', last, rfl, -, hlast⟩ := exists_append_of_sameText hsame
  obtain ⟨r', rfl, hr'⟩ : ∃ r', last = [r'] ∧ SameText r r' := by
    cases hlast with
    | cons hr' hnil =>
      cases hnil
      exact ⟨_, rfl, hr'⟩
  have hkind : r'.kind = .rbracket := hr'.kind.symm.trans hr
  have hlexes : Lexes .rbracket r'.text := hkind ▸
    lexes_of_mem_scanFrom hrow (List.mem_append_right _ List.mem_cons_self) (by rw [hkind]; decide)
  have htext : text = (Token.source inside' ++ r'.gap) ++ [']'] := by
    rw [← hsource, ← eq_of_lexes_rbracket hlexes]
    simp [Token.source]
  rw [htext] at hrow
  -- the closing bracket is read where it stands, and so it is before the rest
  obtain ⟨line', hclose, hline, hswap⟩ :=
    exists_scanFrom_swap (replaces_self (c := ']') (by decide)) hrow (List.nil_append _).symm
  obtain rfl : line' = line := hline fun hmem => h.line (by
    rw [htext]
    exact List.mem_append_left _ hmem)
  obtain ⟨_, htoken, -⟩ := exists_of_scanFrom rfl hclose
  have hfront : front? (']' :: rest) = some (some .rbracket, [']'], rest) := rfl
  have hread := hswap rest (r' :: us) (by
    rw [scanFrom_token hfront, (List.cons.inj htoken).1]
    show (scanFrom line' [] rest).map _ = _
    rw [hrest]
    rfl)
  refine ⟨inside' ++ [r'], hsame, ?_⟩
  rw [htext]
  simpa only [List.append_assoc, List.singleton_append] using hread

/-! ## Text after a name -/

/-- Text in brackets that is put in after a name is read there, and the other tokens are as before.
-/
theorem exists_scan_inserted {front back row : List Token} {t : Token} {text tail : List Char}
    (hrow : Bracketed text row) (ht : t.kind = .ident)
    (h : scan (source (front ++ t :: back) ++ tail) = .ok (front ++ t :: back)) :
    ∃ row', List.Forall₂ SameText row row' ∧
      scan (source (front ++ t :: (row' ++ back)) ++ tail) =
        .ok (front ++ t :: (row' ++ back)) := by
  have hlexes : Lexes .ident t.text := ht ▸
    lexes_of_mem_scanFrom h (List.mem_append_right _ List.mem_cons_self) (by rw [ht]; decide)
  obtain ⟨c, cs, htext, hc, -⟩ := exists_of_lexes_ident hlexes
  have hmarks : c ≠ '/' ∧ c ≠ '*' ∧ c ≠ '.' :=
    ⟨ne_of_class hc (by decide), ne_of_class hc (by decide), ne_of_class hc (by decide)⟩
  have hsource : ∀ us, source (front ++ t :: us) ++ tail =
      (source front ++ t.gap) ++ c :: (cs ++ (source us ++ tail)) := fun us => by
    simp [source, htext]
  rw [hsource] at h
  obtain ⟨line, hname, -, hswap⟩ :=
    exists_scanFrom_swap (replaces_self hmarks) h (List.nil_append _).symm
  -- the name ends before what follows it, and before a bracket
  obtain ⟨kind, word, rest, hfront⟩ := front?_identStart hc (cs ++ (source back ++ tail))
  obtain ⟨us, htoken, hback⟩ := exists_of_scanFrom hfront hname
  obtain ⟨ht', rfl⟩ := List.cons.inj htoken
  obtain rfl : word = t.text := (congrArg Token.text ht').symm
  obtain rfl : kind = .ident := (congrArg Token.kind ht').symm.trans ht
  obtain rfl : rest = source back ++ tail := by
    have hsplit := (front?_split hfront).1
    rw [← List.cons_append, ← htext] at hsplit
    exact List.append_cancel_left hsplit
  obtain ⟨row', hsame, hread⟩ := exists_scanFrom_bracketed hrow hback
  have hrowText : source row' = text := (source_eq_of_sameText hsame).symm.trans hrow.source
  refine ⟨row', hsame, ?_⟩
  rw [hsource]
  refine hswap _ _ ?_
  have hstop : StopsAt (runsOn .ident t.text) (text ++ (source back ++ tail)) := by
    intro d hd
    rw [List.head?_append, hrow.opens] at hd
    cases hd
    exact (by decide : isIdentPart '[' = false)
  have hbracket := front?_append hlexes hstop
  have hsplit : c :: (cs ++ (source (row' ++ back) ++ tail)) =
      t.text ++ (text ++ (source back ++ tail)) := by
    rw [htext, ← hrowText]
    simp [source]
  rw [hsplit, scanFrom_token hbracket, hread]
  exact congrArg (fun u => Except.ok (u :: (row' ++ back))) ht'.symm

end CodecGen.Token
