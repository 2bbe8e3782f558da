import CodecGen.Proofs.Token.Layout
import Mathlib.Data.List.Forall2

/-!
# A literal in another spelling

Reading is local: the tokens before a place are read the same with other text at the place, if the
first character of that text ends whatever the old one ended (`exists_scanFrom_swap`). So a raw
literal may be exchanged for an interpreted one, and what comes after it is the same too, from the
line on where the new literal ends (`scan_respelled`).
-/

namespace CodecGen.Token

/-! ## Pieces before a place -/

/-- Whatever ends before the first character ends before the second one, and the second one begins
no comment and no ellipsis. -/
structure Replaces (x y : Char) : Prop where
  gap : isGapChar x = false → isGapChar y = false
  ident : isIdentPart x = false → isIdentPart y = false
  number : isNumberPart x = false → isNumberPart y = false
  operator : isOperatorChar x = false → isOperatorChar y = false
  line : decide (x ≠ '\n') = false → decide (y ≠ '\n') = false
  marks : y ≠ '/' ∧ y ≠ '*' ∧ y ≠ '.'

/-- An interpreted literal may stand where a raw one stands, since every class that goes on with a
double quote goes on with a backquote. -/
theorem replaces_quote : Replaces '\x60' '"' := by
  constructor <;> decide

/-- What comes after a character that begins neither may be replaced. -/
theorem replaces_self {c : Char} (h : c ≠ '/' ∧ c ≠ '*' ∧ c ≠ '.') : Replaces c c :=
  ⟨id, id, id, id, id, h⟩

/-- Every run that ends before the first text ends before the second one. -/
structure EndsAlike (next next' : List Char) : Prop where
  gap : StopsAt isGapChar next → StopsAt isGapChar next'
  ident : StopsAt isIdentPart next → StopsAt isIdentPart next'
  number : StopsAt isNumberPart next → StopsAt isNumberPart next'
  operator : StopsAt isOperatorChar next → StopsAt isOperatorChar next'
  line : StopsAt (fun c => decide (c ≠ '\n')) next → StopsAt (fun c => decide (c ≠ '\n')) next'

section

variable {c : Char} {body text next next' : List Char} {kind : Option TokenKind}

/-- A run is the same before another text if it ends there too. -/
theorem runOf_alike {p : Char → Bool} {kindOf : List Char → Option TokenKind}
    (hp : StopsAt p next → StopsAt p next')
    (h : runOf p kindOf c (body ++ next) = (kind, c :: body, next)) :
    runOf p kindOf c (body ++ next') = (kind, c :: body, next') := by
  simp only [runOf, Prod.mk.injEq, List.cons.injEq, true_and] at h
  obtain ⟨rfl, htake, hdrop⟩ := h
  have hbody : ∀ d ∈ body, p d = true := by
    rw [← htake]
    exact fun d hd => List.mem_takeWhile_imp hd
  have hstop : StopsAt p next := by
    rw [← hdrop]
    exact stopsAt_dropWhile p _
  rw [runOf_append hbody (hp hstop), htake]

variable (halike : EndsAlike next next')

include halike

/-- A piece told by its first character is the same before another text in which all runs end as
well. -/
theorem plain?_alike (h : plain? c (body ++ next) = some (kind, c :: body, next)) :
    plain? c (body ++ next') = some (kind, c :: body, next') := by
  have hquoted : ∀ {quote : Char} {literal : TokenKind}, quote ≠ '\\' →
      ((quoted? quote (body ++ next)).map fun p => (some literal, c :: p.1, p.2)) =
        some (kind, c :: body, next) →
      ((quoted? quote (body ++ next')).map fun p => (some literal, c :: p.1, p.2)) =
        some (kind, c :: body, next') := by
    intro quote literal hback h
    obtain ⟨⟨b, r⟩, hb, heq⟩ := Option.map_eq_some_iff.mp h
    cases heq
    rw [quoted?_body hback (quotedBody_of_quoted? hb)]
    rfl
  unfold plain? at h ⊢
  split_ifs at h ⊢
  · exact congrArg some (runOf_alike halike.gap (Option.some.inj h))
  · exact congrArg some (runOf_alike halike.ident (Option.some.inj h))
  · exact congrArg some (runOf_alike halike.number (Option.some.inj h))
  · exact congrArg some (runOf_alike halike.operator (Option.some.inj h))
  · obtain ⟨⟨b, r⟩, hb, heq⟩ := Option.map_eq_some_iff.mp h
    cases heq
    obtain ⟨inside, hinside, rfl⟩ := notMem_of_rawQuoted? hb
    rw [List.append_assoc, List.singleton_append, rawQuoted?_body hinside]
    rfl
  · rename_i hquote
    exact hquoted (hquote ▸ by decide) h
  · rename_i hquote
    exact hquoted (hquote ▸ by decide) h
  · obtain ⟨k, hk, heq⟩ := Option.map_eq_some_iff.mp h
    cases heq
    rw [hk]
    rfl

/-- A piece is read the same before other text that ends the same runs, unless it begins a comment
or an ellipsis with that. -/
theorem front?_alike (hnext : next ≠ [])
    (hopening : Opening (text ++ next') → Opening (text ++ next))
    (h : front? (text ++ next) = some (kind, text, next)) :
    front? (text ++ next') = some (kind, text, next') := by
  obtain ⟨-, hne⟩ := front?_split h
  obtain ⟨c, body, rfl⟩ := List.exists_cons_of_ne_nil hne
  rw [List.cons_append] at h hopening ⊢
  generalize hsource : c :: (body ++ next) = source at h hopening
  unfold front? at h
  split at h
  · rename_i rest
    obtain ⟨rfl, htail⟩ := List.cons.inj hsource
    cases body with
    -- the second slash belongs to the comment
    | nil =>
      rw [List.nil_append] at htail
      simp [htail, runOf] at h
    | cons d ds =>
      rw [← htail] at h
      obtain ⟨rfl, -⟩ := List.cons.inj htail
      exact congrArg some (runOf_alike halike.line (Option.some.inj h))
  · rename_i rest
    simp only [Option.some.injEq, Prod.mk.injEq] at h
    obtain ⟨rfl, hbody, hafter⟩ := h
    obtain ⟨rfl, rfl⟩ := List.cons.inj hbody
    have hcomment : CommentBody (blockComment rest).1 :=
      commentBody_of_blockComment (by rwa [hafter])
    show front? ('/' :: '*' :: ((blockComment rest).1 ++ next')) = _
    simp only [front?, blockComment_body hcomment]
  · cases h
    rfl
  · cases h
  · rename_i hline hblock hdots
    obtain ⟨rfl, rfl⟩ := List.cons.inj hsource
    have hnot : ¬Opening (c :: (body ++ next)) := by
      generalize body ++ next = tail at hline hblock hdots
      rintro (rest | rest | rest)
      · exact hline rest rfl rfl
      · exact hblock rest rfl rfl
      · exact hdots rest rfl rfl
    rw [front?_of_not_opening fun hopen => hnot (hopening hopen)]
    exact plain?_alike halike h

end

section

variable {x y : Char} {text u v v' : List Char} {kind : Option TokenKind}

/-- A run that ends before the first character ends before the second, or ends sooner in both texts.
-/
theorem stopsAt_swap {p : Char → Bool} (hp : p x = false → p y = false)
    (h : StopsAt p (u ++ x :: v)) : StopsAt p (u ++ y :: v') := by
  cases u with
  | nil =>
    intro d hd
    cases hd
    exact hp (h x rfl)
  | cons d ds => exact h

/-- Runs end alike before two texts that differ from one character on. -/
theorem Replaces.endsAlike (hxy : Replaces x y) : EndsAlike (u ++ x :: v) (u ++ y :: v') where
  gap := stopsAt_swap hxy.gap
  ident := stopsAt_swap hxy.ident
  number := stopsAt_swap hxy.number
  operator := stopsAt_swap hxy.operator
  line := stopsAt_swap hxy.line

/-- What begins neither a comment nor an ellipsis before the first character begins none before the
second one. -/
theorem opening_swap (hxy : Replaces x y) (htext : text ≠ []) (h : Opening (text ++ y :: v')) :
    Opening (text ++ x :: v) := by
  obtain ⟨hslash, hstar, hdot⟩ := hxy.marks
  obtain ⟨c, cs, rfl⟩ := List.exists_cons_of_ne_nil htext
  generalize hsource : c :: cs ++ y :: v' = source at h
  -- the mark of an opening lies in the text, since neither character is part of one
  cases h with
  | line rest =>
    cases cs with
    | nil =>
      cases hsource
      exact absurd rfl hslash
    | cons d ds =>
      cases hsource
      exact .line _
  | block rest =>
    cases cs with
    | nil =>
      cases hsource
      exact absurd rfl hstar
    | cons d ds =>
      cases hsource
      exact .block _
  | dots rest =>
    rcases cs with _ | ⟨d, _ | ⟨e, ds⟩⟩
    · cases hsource
      exact absurd rfl hdot
    · cases hsource
      exact absurd rfl hdot
    · cases hsource
      exact .dots _

/-- A piece that ends before the first character is read the same before the second one. -/
theorem front?_swap (hxy : Replaces x y)
    (h : front? (text ++ (u ++ x :: v)) = some (kind, text, u ++ x :: v)) :
    front? (text ++ (u ++ y :: v')) = some (kind, text, u ++ y :: v') := by
  obtain ⟨-, hne⟩ := front?_split h
  refine front?_alike hxy.endsAlike (by simp) (fun hopen => ?_) h
  rw [← List.append_assoc] at hopen ⊢
  exact opening_swap hxy (by simp [hne]) hopen

end

/-! ## Tokens before a place -/

section

variable {line : Nat} {gap source : List Char} {t : Token} {ts : List Token}

/-- What was skipped before belongs to the gap of the first token. -/
theorem exists_gap_of_scanFrom (h : scanFrom line gap source = .ok (t :: ts)) :
    ∃ more, t.gap = gap ++ more := by
  fun_induction scanFrom line gap source with
  | case1 line gap source text rest hfront _ ih =>
    obtain ⟨more, hmore⟩ := ih h
    exact ⟨text ++ more, by rw [hmore, List.append_assoc]⟩
  | case2 line gap source kind text rest hfront _ ih =>
    obtain ⟨us, hus, -⟩ := exists_of_scanFrom hfront ((scanFrom_token hfront).trans h)
    cases hus
    exact ⟨[], (List.append_nil _).symm⟩
  | case3 => cases h
  | case4 => cases h

/-- The place of a token is after what was skipped before. -/
theorem exists_place_of_scanFrom {front back : List Token} {lit : Token}
    (h : scanFrom line gap source = .ok (front ++ lit :: back)) :
    ∃ more, Token.source front ++ lit.gap = gap ++ more := by
  cases front with
  | nil => exact exists_gap_of_scanFrom h
  | cons t ts =>
    obtain ⟨more, hmore⟩ := exists_gap_of_scanFrom h
    refine ⟨more ++ (t.text ++ (Token.source ts ++ lit.gap)), ?_⟩
    simp only [Token.source, List.flatMap_cons, hmore, List.append_assoc]

/-- Reading comes to a token after the tokens before it, and would come after the same tokens to
what may stand in its place. -/
theorem exists_scanFrom_swap {front back : List Token} {lit : Token} {x y : Char}
    (hxy : Replaces x y) {w v : List Char}
    (h : scanFrom line gap (w ++ x :: v) = .ok (front ++ lit :: back))
    (hplace : Token.source front ++ lit.gap = gap ++ w) :
    ∃ line', scanFrom line' lit.gap (x :: v) = .ok (lit :: back) ∧
      ('\n' ∉ w → line' = line) ∧
      ∀ v' us, scanFrom line' lit.gap (y :: v') = .ok us →
        scanFrom line gap (w ++ y :: v') = .ok (front ++ us) := by
  generalize hsource : w ++ x :: v = source at h
  induction line, gap, source using scanFrom.induct generalizing front w with
  | case1 line gap source text rest hfront _ ih =>
    rw [scanFrom_skip hfront] at h
    -- a skipped piece ends before the place, which is within the gap of the literal at the latest
    obtain ⟨u, hu⟩ := exists_place_of_scanFrom h
    obtain ⟨hsplit, -⟩ := front?_split hfront
    have hw : w = text ++ u := by
      rw [hplace, List.append_assoc] at hu
      exact List.append_cancel_left hu
    subst hw
    obtain rfl : rest = u ++ x :: v := by
      rw [← hsource, List.append_assoc] at hsplit
      exact List.append_cancel_left hsplit
    obtain ⟨line', hlit, hline, hswap⟩ := ih hu rfl h
    refine ⟨line', hlit, fun hw => hline fun hmem => hw (List.mem_append_right _ hmem),
      fun v' us hus => ?_⟩
    rw [List.append_assoc] at hsource ⊢
    rw [← hsource] at hfront
    rw [scanFrom_skip (front?_swap hxy hfront)]
    exact hswap v' us hus
  | case2 line gap source kind text rest hfront _ ih =>
    obtain ⟨us, htokens, hus⟩ := exists_of_scanFrom hfront h
    -- the token is the one at the place, or another before it
    cases front with
    | nil =>
      obtain ⟨rfl, rfl⟩ := List.cons.inj htokens
      obtain rfl : w = [] := List.self_eq_append_right.mp hplace
      subst hsource
      exact ⟨line, h, fun _ => rfl, fun v' us hus => hus⟩
    | cons t ts =>
      obtain ⟨rfl, rfl⟩ := List.cons.inj htokens
      obtain ⟨hsplit, -⟩ := front?_split hfront
      have hw : w = text ++ (Token.source ts ++ lit.gap) := by
        simp only [Token.source, List.flatMap_cons, List.append_assoc] at hplace
        exact (List.append_cancel_left hplace).symm
      subst hw
      obtain rfl : rest = Token.source ts ++ lit.gap ++ x :: v := by
        rw [← hsource, List.append_assoc] at hsplit
        exact List.append_cancel_left hsplit
      obtain ⟨line', hlit, hline, hswap⟩ := ih (List.nil_append _).symm rfl hus
      refine ⟨line', hlit, fun hw => ?_, fun v' us hus => ?_⟩
      · have htext : '\n' ∉ text := fun hmem => hw (List.mem_append_left _ hmem)
        rw [hline fun hmem => hw (List.mem_append_right _ hmem), List.count_eq_zero.mpr htext]
        rfl
      rw [List.append_assoc] at hsource ⊢
      rw [← hsource] at hfront
      rw [scanFrom_token (front?_swap hxy hfront), hswap v' us hus]
      rfl
  | case3 => simp at hsource
  | case4 line gap c cs hfront => cases (scanFrom_fails hfront).symm.trans h

end

/-! ## Tokens after a place -/

/-- Two tokens differ in the line they are on at most. -/
structure SameText (t t' : Token) : Prop where
  /-- The classes are the same. -/
  kind : t.kind = t'.kind
  /-- The gaps are the same. -/
  gap : t.gap = t'.gap
  /-- The texts are the same. -/
  text : t.text = t'.text

/-- A token differs from itself in nothing. -/
theorem SameText.refl (t : Token) : SameText t t :=
  ⟨rfl, rfl, rfl⟩

/-- Tokens that differ in their lines at most are shown alike. -/
theorem SameText.lexeme_eq {t t' : Token} (h : SameText t t') : t.lexeme = t'.lexeme :=
  congrArg String.ofList h.text

/-- Rows that differ in their lines at most come from the same text. -/
theorem source_eq_of_sameText {ts ts' : List Token} (h : List.Forall₂ SameText ts ts') :
    source ts = source ts' := by
  induction h with
  | nil => rfl
  | cons ht _ ih =>
    unfold source at ih ⊢
    rw [List.flatMap_cons, List.flatMap_cons, ht.gap, ht.text, ih]

/-- The text from the first token of a row to its last is the same if they differ in their lines at
most. -/
theorem spanText_eq_of_sameText {ts ts' : List Token} (h : List.Forall₂ SameText ts ts') :
    spanText ts = spanText ts' := by
  cases h with
  | nil => rfl
  | cons ht hts => exact congrArg₂ (· ++ ·) ht.text (source_eq_of_sameText hts)

section

variable {line : Nat} {gap source : List Char} {ts : List Token}

/-- Lines are counted from anywhere. -/
theorem exists_scanFrom_line (h : scanFrom line gap source = .ok ts) (line' : Nat) :
    ∃ ts', scanFrom line' gap source = .ok ts' ∧ List.Forall₂ SameText ts ts' := by
  induction line, gap, source using scanFrom.induct generalizing line' ts with
  | case1 line gap source text rest hfront _ ih =>
    rw [scanFrom_skip hfront] at h ⊢
    exact ih h line'
  | case2 line gap source kind text rest hfront _ ih =>
    obtain ⟨us, rfl, hus⟩ := exists_of_scanFrom hfront h
    obtain ⟨us', hus', hsame⟩ := ih hus (line' + text.count '\n')
    refine ⟨⟨kind, gap, text, line'⟩ :: us', ?_, .cons ⟨rfl, rfl, rfl⟩ hsame⟩
    rw [scanFrom_token hfront, hus']
    rfl
  | case3 =>
    rw [scanFrom_nil] at h ⊢
    cases h
    exact ⟨[], rfl, .nil⟩
  | case4 line gap c cs hfront => cases (scanFrom_fails hfront).symm.trans h

end

/-- Where an interpreted literal is put in the place of a raw one, it is read there as a token, and
the other tokens are as before, but for the lines of those after it. -/
theorem scan_respelled {front back : List Token} {lit : Token} {pre cs post body : List Char}
    (hcs : '\x60' ∉ cs) (hbody : QuotedBody '"' body)
    (h : scan (pre ++ '\x60' :: (cs ++ '\x60' :: post)) = .ok (front ++ lit :: back))
    (hplace : Token.source front ++ lit.gap = pre) :
    lit.kind = .rawString ∧ lit.text = '\x60' :: (cs ++ ['\x60']) ∧
      ∃ lit' back', lit'.kind = .string ∧ lit'.text = '"' :: body ∧
        scan (pre ++ '"' :: (body ++ post)) = .ok (front ++ lit' :: back') ∧
        List.Forall₂ SameText back back' := by
  obtain ⟨line, hlit, -, hswap⟩ := exists_scanFrom_swap replaces_quote h hplace
  have hraw : front? ('\x60' :: (cs ++ '\x60' :: post)) =
      some (some .rawString, '\x60' :: (cs ++ ['\x60']), post) := by
    have hfront := front?_append (.rawString hcs) (fun _ _ => rfl : StopsAt _ post)
    rwa [List.cons_append, List.append_assoc] at hfront
  have hstring : front? ('"' :: (body ++ post)) = some (some .string, '"' :: body, post) :=
    front?_append (.string hbody) fun _ _ => rfl
  obtain ⟨us, htokens, hus⟩ := exists_of_scanFrom hraw hlit
  obtain ⟨heq, rfl⟩ := List.cons.inj htokens
  obtain ⟨back', hback', hsame⟩ := exists_scanFrom_line hus (line + ('"' :: body).count '\n')
  refine ⟨congrArg Token.kind heq, congrArg Token.text heq, ⟨.string, lit.gap, '"' :: body, line⟩,
    back', rfl, rfl, hswap _ _ ?_, hsame⟩
  rw [scanFrom_token hstring, hback']
  rfl

end CodecGen.Token
