import CodecGen.Proofs.Token.Respelling
import CodecGen.Proofs.Token.Tiling

/-!
# Comments between tokens

Whatever is added to a text, the pieces before its last one are read as before
(`exists_lastPiece`), and so is the last one if it does not run on into what is added
(`words_append`). A comment is then read like the blank or the line end in its place, unless its
slash goes on with an operator before it. So comments are transparent exactly after the texts that
do not end with an operator (`transparent_iff`).
-/

namespace CodecGen.Token

/-! ## What is read, without the places -/

/-- The classes and the texts of the tokens that are read, or what is wrong. -/
def wordsOf (read : Except SourceError (List Token)) :
    Except SourceFault (List (TokenKind × List Char)) :=
  (read.mapError SourceError.fault).map (·.map fun t => (t.kind, t.text))

/-- What is read of a source, wherever in the source it stands. -/
def words (source : List Char) : Except SourceFault (List (TokenKind × List Char)) :=
  wordsOf (scan source)

section

variable {source text rest : List Char} {kind : TokenKind}

/-- The word of the first token stands before those of the others. -/
theorem wordsOf_cons (t : Token) (read : Except SourceError (List Token)) :
    wordsOf (read.map (t :: ·)) = (wordsOf read).map ((t.kind, t.text) :: ·) := by
  cases read <;> rfl

/-- It does not matter where reading begins. -/
theorem wordsOf_scanFrom (line line' : Nat) (gap gap' source : List Char) :
    wordsOf (scanFrom line gap source) = wordsOf (scanFrom line' gap' source) := by
  induction line, gap, source using scanFrom.induct generalizing line' gap' with
  | case1 line gap source text rest hfront _ ih =>
    rw [scanFrom_skip hfront, scanFrom_skip hfront]
    exact ih _ _
  | case2 line gap source kind text rest hfront _ ih =>
    rw [scanFrom_token hfront, scanFrom_token hfront, wordsOf_cons, wordsOf_cons]
    exact congrArg _ (ih _ _)
  | case3 => rw [scanFrom_nil, scanFrom_nil]
  | case4 line gap c cs hfront =>
    rw [scanFrom_fails hfront, scanFrom_fails hfront]
    rfl

/-- A piece that is skipped adds no word. -/
theorem words_skip (h : front? source = some (none, text, rest)) : words source = words rest := by
  unfold words scan
  rw [scanFrom_skip h]
  exact wordsOf_scanFrom _ _ _ _ _

/-- A token adds its class and its text, whatever line it is on. -/
theorem words_token (h : front? source = some (some kind, text, rest)) :
    words source = (words rest).map ((kind, text) :: ·) := by
  unfold words scan
  rw [scanFrom_token h, wordsOf_cons]
  exact congrArg _ (wordsOf_scanFrom _ _ _ _ _)

/-- The words of a text are those it was laid out from. -/
theorem words_source {tail : List Char} {ts : List Token} (h : Laid 1 tail ts) :
    words (Token.source ts ++ tail) = .ok (ts.map fun t => (t.kind, t.text)) := by
  unfold words
  rw [scan_source h]
  rfl

/-- There are no words in nothing. -/
theorem words_nil : words [] = .ok [] := by
  unfold words scan
  rw [scanFrom_nil]
  rfl

/-- A text that is read to its end begins with a piece, unless it is empty. -/
theorem exists_front?_of_words {ws : List (TokenKind × List Char)} (h : words source = .ok ws)
    (hne : source ≠ []) : ∃ kind text rest, front? source = some (kind, text, rest) := by
  cases hfront : front? source with
  | some piece => exact ⟨piece.1, piece.2.1, piece.2.2, rfl⟩
  | none =>
    obtain ⟨c, cs, rfl⟩ := List.exists_cons_of_ne_nil hne
    unfold words scan at h
    rw [scanFrom_fails hfront] at h
    cases h

/-- Blanks are skipped, whatever comes after them. -/
theorem words_blanks {blanks : List Char} (hblanks : ∀ c ∈ blanks, isGapChar c = true)
    (rest : List Char) : words (blanks ++ rest) = words rest := by
  have hdrop : ∀ cs : List Char, words (cs.dropWhile isGapChar) = words cs := by
    intro cs
    cases cs with
    | nil => rfl
    | cons c cs =>
      by_cases hc : isGapChar c = true
      · rw [List.dropWhile_cons_of_pos hc]
        have hfront : front? (c :: cs) =
            some (none, c :: cs.takeWhile isGapChar, cs.dropWhile isGapChar) := by
          rw [front?_of_ne (ne_of_class hc rfl) (ne_of_class hc rfl), plain?, if_pos hc]
          rfl
        exact (words_skip hfront).symm
      · rw [List.dropWhile_cons_of_neg hc]
  rw [← hdrop, List.dropWhile_append_of_pos hblanks, hdrop]

end

/-! ## Comments -/

/-- The block comment with a text. -/
def blockCommentOf (cs : List Char) : List Char :=
  '/' :: '*' :: (cs ++ ['*', '/'])

/-- The line comment with a text, without the end of its line. -/
def lineCommentOf (cs : List Char) : List Char :=
  '/' :: '/' :: cs

/-- The text ends within a comment, which would take in what is added to it. -/
inductive EndsInComment : List Char → Prop
  | line {cs : List Char} (hline : '\n' ∉ cs) : EndsInComment ('/' :: '/' :: cs)
  | block {cs : List Char} (hcs : ¬['*', '/'] <:+: cs) : EndsInComment ('/' :: '*' :: cs)
  | later {kind : Option TokenKind} {piece rest : List Char}
      (hpiece : front? (piece ++ rest) = some (kind, piece, rest)) (hrest : EndsInComment rest) :
      EndsInComment (piece ++ rest)

/-- Without a slash there is no comment to end in. -/
theorem slash_mem_of_endsInComment {cs : List Char} (h : EndsInComment cs) : '/' ∈ cs := by
  induction h with
  | line => exact List.mem_cons_self
  | block => exact List.mem_cons_self
  | later _ _ ih => exact List.mem_append_right _ ih

section

variable {cs rest : List Char}

/-- A text without the end mark of comments is the body of one once the mark is added. -/
theorem commentBody_append_end (h : ¬['*', '/'] <:+: cs) : CommentBody (cs ++ ['*', '/']) := by
  induction cs with
  | nil => exact .close
  | cons c cs ih =>
    rw [List.infix_cons_iff, not_or] at h
    refine .char ?_ (ih h.2)
    rintro rfl hhead
    cases cs with
    | nil => cases hhead
    | cons d ds =>
      cases hhead
      exact h.1 ⟨ds, rfl⟩

/-- A block comment ends with a slash. -/
theorem getLast?_cons_of_commentBody (h : CommentBody cs) (c : Char) :
    (c :: cs).getLast? = some '/' := by
  induction h generalizing c with
  | close => rfl
  | char _ _ ih => rw [List.getLast?_cons_cons, ih]

/-- A literal ends with its closing quote. -/
theorem getLast?_cons_of_quotedBody {quote : Char} (h : QuotedBody quote cs) (c : Char) :
    (c :: cs).getLast? = some quote := by
  induction h generalizing c with
  | close => rfl
  | char _ _ _ _ ih => rw [List.getLast?_cons_cons, ih]
  | escape _ _ ih => rw [List.getLast?_cons_cons, List.getLast?_cons_cons, ih]

/-- A block comment is read as one, and separates lines only if a line end is in it. -/
theorem front?_blockCommentOf (h : ¬['*', '/'] <:+: cs) (rest : List Char) :
    front? (blockCommentOf cs ++ rest) =
      some (if '\n' ∈ cs then some .comment else none, blockCommentOf cs, rest) := by
  have hbody := blockComment_body (commentBody_append_end h) rest
  show front? ('/' :: '*' :: ((cs ++ ['*', '/']) ++ rest)) = _
  simp only [front?, hbody, blockCommentOf]
  simp

/-- A line comment is skipped up to the end of its line. -/
theorem front?_lineCommentOf (h : '\n' ∉ cs) (rest : List Char) :
    front? (lineCommentOf cs ++ '\n' :: rest) = some (none, lineCommentOf cs, '\n' :: rest) := by
  have hcs : ∀ d ∈ '/' :: cs, decide (d ≠ '\n') = true := by
    intro d hd
    rcases List.mem_cons.mp hd with rfl | hd
    · decide
    · exact decide_eq_true fun heq => h (heq ▸ hd)
  have hstop : StopsAt (fun d => decide (d ≠ '\n')) ('\n' :: rest) := by
    intro d hd
    cases hd
    decide
  exact congrArg some (runOf_append hcs hstop)

end

/-! ## The last piece of a text -/

section

variable {source text next piece run rest : List Char} {kind : Option TokenKind}
variable {front ws : List (TokenKind × List Char)}

/-- More text after what follows a run does not change that the run ends there. -/
theorem endsAlike_append (hnext : next ≠ []) (more : List Char) :
    EndsAlike next (next ++ more) := by
  obtain ⟨d, ds, rfl⟩ := List.exists_cons_of_ne_nil hnext
  exact ⟨id, id, id, id, id⟩

/-- Two characters begin neither a comment nor an ellipsis with more after them than without, unless
that is a dot. -/
theorem opening_of_append {c d : Char} {cs more : List Char} (hmore : more.head? ≠ some '.')
    (h : Opening (c :: d :: cs ++ more)) : Opening (c :: d :: cs) := by
  generalize hsource : c :: d :: cs ++ more = source at h
  cases h with
  | line rest =>
    cases hsource
    exact .line _
  | block rest =>
    cases hsource
    exact .block _
  | dots rest =>
    cases cs with
    | nil =>
      cases hsource
      exact absurd rfl hmore
    | cons e es =>
      cases hsource
      exact .dots _

/-- A piece before other text is read the same if more is added after that text. -/
theorem front?_more {more : List Char} (hnext : next ≠ []) (hmore : more.head? ≠ some '.')
    (h : front? (text ++ next) = some (kind, text, next)) :
    front? (text ++ (next ++ more)) = some (kind, text, next ++ more) := by
  refine front?_alike (endsAlike_append hnext more) hnext ?_ h
  obtain ⟨c, cs, hcs⟩ := List.exists_cons_of_ne_nil (front?_split h).2
  obtain ⟨d, ds, hds⟩ := List.exists_cons_of_ne_nil (List.append_ne_nil_of_right_ne_nil cs hnext)
  have hsplit : text ++ next = c :: d :: ds := by
    rw [hcs, List.cons_append, hds]
  rw [← List.append_assoc, hsplit]
  exact opening_of_append hmore

/-- The last piece of a text, after the tokens of the pieces before it. -/
structure LastPiece (source : List Char) (front : List (TokenKind × List Char))
    (kind : Option TokenKind) (piece : List Char) : Prop where
  /-- The text ends with the piece. -/
  suffix : piece <:+ source
  /-- The piece is read as one. -/
  reads : front? piece = some (kind, piece, [])
  /-- Whether the text ends within a comment is told by the piece. -/
  opens : EndsInComment piece → EndsInComment source
  /-- Reading comes to the piece, whatever is added after it but a dot. -/
  append : ∀ more, more.head? ≠ some '.' →
    words (source ++ more) = (words (piece ++ more)).map (front ++ ·)

/-- The last piece of the rest is the last piece of the whole, after the tokens before it. -/
theorem LastPiece.before (hpiece : front? (text ++ rest) = some (kind, text, rest))
    (hrest : rest ≠ []) {last : Option TokenKind} (h : LastPiece rest front last piece) :
    LastPiece (text ++ rest) (kind.toList.map (·, text) ++ front) last piece where
  suffix := h.suffix.trans (List.suffix_append _ _)
  reads := h.reads
  opens hopen := .later hpiece (h.opens hopen)
  append more hmore := by
    have hfront := front?_more hrest hmore hpiece
    rw [List.append_assoc]
    cases kind with
    | none =>
      rw [words_skip hfront]
      exact h.append more hmore
    | some k =>
      rw [words_token hfront, h.append more hmore]
      cases words (piece ++ more) <;> rfl

/-- A text ends with the last character of its last piece. -/
theorem LastPiece.getLast?_eq (h : LastPiece source front kind piece) :
    source.getLast? = piece.getLast? := by
  obtain ⟨before, rfl⟩ := h.suffix
  exact List.getLast?_append_of_ne_nil _ (front?_split h.reads).2

/-- The tokens of a text are those before the last piece, and the piece unless it is skipped. -/
theorem LastPiece.words_eq (h : LastPiece source front kind piece) :
    words source = .ok (front ++ kind.toList.map (·, piece)) := by
  have hall := h.append [] (by simp)
  rw [List.append_nil, List.append_nil] at hall
  rw [hall]
  cases kind with
  | none =>
    rw [words_skip h.reads, words_nil]
    rfl
  | some k =>
    rw [words_token h.reads, words_nil]
    rfl

/-- Every text that can be read has a last piece. -/
theorem exists_lastPiece {source : List Char} {ws : List (TokenKind × List Char)}
    (h : words source = .ok ws) (hne : source ≠ []) :
    ∃ front kind piece, LastPiece source front kind piece := by
  obtain ⟨kind, text, rest, hfront⟩ := exists_front?_of_words h hne
  obtain ⟨rfl, htext⟩ := front?_split hfront
  by_cases hrest : rest = []
  · subst hrest
    rw [List.append_nil] at hfront ⊢
    refine ⟨[], kind, text, List.suffix_rfl, hfront, id, fun more _ => ?_⟩
    cases words (text ++ more) <;> rfl
  · have hwords : ∃ us, words rest = .ok us := by
      cases kind with
      | none =>
        rw [words_skip hfront] at h
        exact ⟨ws, h⟩
      | some k =>
        rw [words_token hfront] at h
        cases hus : words rest with
        | error e =>
          rw [hus] at h
          cases h
        | ok us => exact ⟨us, rfl⟩
    obtain ⟨us, hus⟩ := hwords
    have : rest.length < (text ++ rest).length := length_lt_of_front? hfront
    obtain ⟨front, last, piece, hlast⟩ := exists_lastPiece hus hrest
    exact ⟨_, last, piece, hlast.before hfront hrest⟩
termination_by source.length

/-- A piece with nothing after it is a token or blank, unless it is a comment. -/
theorem blanks_or_lexes (h : front? piece = some (kind, piece, []))
    (hopen : ¬EndsInComment piece) (hslash : piece.getLast? ≠ some '/') :
    kind = none ∧ (∀ c ∈ piece, isGapChar c = true) ∨ ∃ k, kind = some k ∧ Lexes k piece := by
  cases kind with
  | none =>
    cases skippedPiece_of_front? h with
    | blanks hcs => exact .inl ⟨rfl, hcs⟩
    | line hline => exact absurd (.line hline) hopen
    | block hcs _ => exact absurd (getLast?_cons_of_commentBody hcs '*') hslash
    | unclosed hcs _ => exact absurd (.block hcs) hopen
  | some k =>
    rcases lexes_or_unclosed_of_front? h with hlex | ⟨-, -, cs, rfl, hcs⟩
    · exact .inr ⟨k, rfl, hlex⟩
    · exact absurd (.block hcs) hopen

/-- The character ends the token that the text ends with. -/
structure Cuts (source : List Char) (c : Char) : Prop where
  ident : isIdentPart c = false
  number : isNumberPart c = false
  /-- It may go on with a run of operators only where there is none before it. -/
  operator : isOperatorChar c = true → ∀ d, source.getLast? = some d → isOperatorChar d = false

/-- A character that cuts a text is not read as part of its last token, unless that ends with a
slash. -/
theorem runsOn_eq_false {k : TokenKind} {c : Char} (hlex : Lexes k text) (hc : Cuts text c)
    (hslash : text.getLast? ≠ some '/') : runsOn k text c = false := by
  cases hlex with
  | word => rw [runsOn_wordKind, hc.ident]
  | number => exact hc.number
  | @operator d ds hd hds _ =>
    have hone : ((d :: ds) == ['/']) = false := by
      rw [beq_eq_false_iff_ne]
      intro heq
      rw [heq] at hslash
      exact hslash rfl
    have hrun : isOperatorChar c = false := by
      rw [← Bool.not_eq_true]
      intro hop
      have hlast := hc.operator hop _ (List.getLast?_eq_some_getLast (List.cons_ne_nil d ds))
      rcases List.mem_cons.mp (List.getLast_mem (List.cons_ne_nil d ds)) with heq | hmem
      · rw [heq, hd] at hlast
        cases hlast
      · rw [hds _ hmem] at hlast
        cases hlast
    rw [runsOn_operatorKind, hrun, hone]
    rfl
  | mark hmark =>
    -- only the mark that is a dot could go on, and with a dot
    have hdot : (c == '.') = false := by
      rw [beq_eq_false_iff_ne]
      rintro rfl
      exact absurd hc.number (by decide)
    unfold punctuation? at hmark
    split at hmark <;> cases hmark <;> first | rfl | exact hdot
  | _ => rfl

/-- What is read of a text and of other text after it is what is read of the one and of the other,
if the first character of the other ends the token before it. -/
theorem words_append (hwords : words source = .ok ws) (hopen : ¬EndsInComment source)
    (hslash : source.getLast? ≠ some '/') {c : Char} (hc : Cuts source c) (cs : List Char) :
    words (source ++ c :: cs) = (words (c :: cs)).map (ws ++ ·) := by
  by_cases hne : source = []
  · subst hne
    rw [words_nil] at hwords
    cases hwords
    cases hrest : words (c :: cs) <;> exact hrest
  obtain ⟨front, kind, piece, hlast⟩ := exists_lastPiece hwords hne
  have hend := hlast.getLast?_eq
  rw [hend] at hslash
  have hdot : (c :: cs).head? ≠ some '.' := by
    intro hhead
    cases hhead
    exact absurd hc.number (by decide)
  obtain rfl := Except.ok.inj (hwords.symm.trans hlast.words_eq)
  rw [hlast.append (c :: cs) hdot]
  rcases blanks_or_lexes hlast.reads (fun h => hopen (hlast.opens h)) hslash with
    ⟨rfl, hblanks⟩ | ⟨k, rfl, hlex⟩
  · rw [words_blanks hblanks]
    cases words (c :: cs) <;> simp [Except.map]
  · have hstop : StopsAt (runsOn k piece) (c :: cs) := by
      intro d hd
      cases hd
      exact runsOn_eq_false hlex ⟨hc.ident, hc.number, hend ▸ hc.operator⟩ hslash
    rw [words_token (front?_append hlex hstop)]
    cases words (c :: cs) <;> simp [Except.map]

/-- A token that ends with an operator other than a slash is a run of operators. -/
theorem exists_run_of_lexes {k : TokenKind} {d : Char} (hlex : Lexes k text)
    (hd : text.getLast? = some d) (hop : isOperatorChar d = true) (hslash : d ≠ '/') :
    ∃ c cs, text = c :: cs ∧ k = operatorKind text ∧ (∀ e ∈ c :: cs, isOperatorChar e = true) ∧
      (c = '/' → cs.head? ≠ some '/') := by
  obtain ⟨hstart, hdigit⟩ := class_of_isOperatorChar hop
  have hall : "-+/%&|^<>!=:~".toList.all (fun e => !isIdentPart e && !isNumberPart e) = true := by
    decide
  have hparts := List.all_eq_true.mp hall d (List.contains_iff_mem.mp hop)
  rw [Bool.and_eq_true, Bool.not_eq_true', Bool.not_eq_true'] at hparts
  have hne : ∀ e, isOperatorChar e = false → text.getLast? ≠ some e := by
    intro e he hend
    exact ne_of_class hop he (Option.some.inj (hd.symm.trans hend))
  have hmem := List.mem_of_getLast? hd
  -- only a run of operators can end with one: each other class ends with a character of its own
  cases hlex with
  | word hc hcs =>
    rcases List.mem_cons.mp hmem with rfl | hmem
    · rw [hstart] at hc
      cases hc
    · exact absurd (hcs d hmem) (by simp [hparts.1])
  | number hc hcs =>
    rcases List.mem_cons.mp hmem with rfl | hmem
    · rw [hdigit] at hc
      cases hc
    · exact absurd (hcs d hmem) (by simp [hparts.2])
  | operator hc hcs hopen => exact ⟨_, _, rfl, rfl, List.forall_mem_cons.mpr ⟨hc, hcs⟩, hopen⟩
  | @rawString cs _ =>
    exact absurd (List.getLast?_concat (l := '\x60' :: cs)) (hne '\x60' (by decide))
  | string hcs =>
    exact absurd (getLast?_cons_of_quotedBody hcs _) (hne '"' (by decide))
  | rune hcs =>
    exact absurd (getLast?_cons_of_quotedBody hcs _) (hne '\'' (by decide))
  | @comment cs hcs _ =>
    have hend : ('/' :: '*' :: cs).getLast? = some '/' := getLast?_cons_of_commentBody hcs '*'
    exact absurd (Option.some.inj (hd.symm.trans hend)) hslash
  | ellipsis => exact absurd rfl (hne '.' (by decide))
  | @mark c _ hmark =>
    have hmarks : isOperatorChar c = false := by
      unfold punctuation? at hmark
      split at hmark <;> first | rfl | cases hmark
    exact absurd rfl (hne c hmarks)

/-- A slash after a run of operators goes on with the run. -/
theorem lexes_concat_slash {c : Char} {cs : List Char}
    (hrun : ∀ e ∈ c :: cs, isOperatorChar e = true) (hcomment : c = '/' → cs.head? ≠ some '/')
    (hone : c :: cs ≠ ['/']) : Lexes .operator (c :: (cs ++ ['/'])) := by
  have hkind : operatorKind (c :: (cs ++ ['/'])) = .operator := by
    have hassign : c :: (cs ++ ['/']) ≠ ['='] := by simp
    have harrow : c :: (cs ++ ['/']) ≠ ['<', '-'] := by
      intro heq
      have hback := congrArg List.getLast? heq
      rw [← List.cons_append, List.getLast?_concat] at hback
      cases hback
    rw [operatorKind, if_neg hassign, if_neg harrow]
  rw [← hkind]
  refine .operator (hrun c List.mem_cons_self) ?_ ?_
  · intro e he
    rcases List.mem_append.mp he with he | he
    · exact hrun e (List.mem_cons_of_mem _ he)
    · rw [List.mem_singleton.mp he]
      decide
  · intro hc hhead
    cases cs with
    | nil => exact hone (hc ▸ rfl)
    | cons d ds => exact hcomment hc hhead

/-- A text that ends with an operator has it for its last token, and with a slash after it the
operator with the slash. -/
theorem exists_operator_slash (hwords : words source = .ok ws) (hopen : ¬EndsInComment source)
    {d : Char} (hd : source.getLast? = some d) (hop : isOperatorChar d = true) (hslash : d ≠ '/') :
    ∃ front run, ws = front ++ [(operatorKind run, run)] ∧
      ∀ rest, StopsAt isOperatorChar rest →
        words (source ++ '/' :: rest) =
          (words rest).map (front ++ (.operator, run ++ ['/']) :: ·) := by
  have hne : source ≠ [] := by
    rintro rfl
    cases hd
  obtain ⟨front, kind, piece, hlast⟩ := exists_lastPiece hwords hne
  have hend := hlast.getLast?_eq
  rw [hd] at hend
  have hlast' : piece.getLast? ≠ some '/' := by
    rw [← hend]
    simpa using hslash
  rcases blanks_or_lexes hlast.reads (fun h => hopen (hlast.opens h)) hlast' with
    ⟨rfl, hblanks⟩ | ⟨k, rfl, hlex⟩
  · have hgap := hblanks d (List.mem_of_getLast? hend.symm)
    rw [isGapChar_eq_false hop (by decide)] at hgap
    cases hgap
  obtain ⟨c, cs, rfl, rfl, hrun, hcomment⟩ := exists_run_of_lexes hlex hend.symm hop hslash
  refine ⟨front, c :: cs, Except.ok.inj (hwords.symm.trans hlast.words_eq), fun rest hrest => ?_⟩
  -- the run is not a slash by itself, so the slash after it begins no comment
  have hone : c :: cs ≠ ['/'] := fun heq => hlast' (congrArg List.getLast? heq)
  have hstop : StopsAt (runsOn .operator (c :: (cs ++ ['/']))) rest := by
    intro e he
    simp [runsOn, hrest e he]
  have hsplit : c :: cs ++ '/' :: rest = c :: (cs ++ ['/']) ++ rest := by simp
  rw [hlast.append ('/' :: rest) (by simp), hsplit,
    words_token (front?_append (lexes_concat_slash hrun hcomment hone) hstop)]
  cases words rest <;> rfl

end

/-! ## Comments in the place of blanks -/

/-- Comments directly after the text are read like the space or the line end in their place. -/
structure Transparent (source : List Char) : Prop where
  /-- A block comment on one line is read like a space. -/
  block : ∀ cs rest, '\n' ∉ cs → ¬['*', '/'] <:+: cs →
    words (source ++ (blockCommentOf cs ++ rest)) = words (source ++ ' ' :: rest)
  /-- A block comment that spans lines is read like a space, but for the separator that it is. -/
  lines : ∀ cs rest, '\n' ∈ cs → ¬['*', '/'] <:+: cs → ∃ front, words source = .ok front ∧
    words (source ++ ' ' :: rest) = (words rest).map (front ++ ·) ∧
    words (source ++ (blockCommentOf cs ++ rest)) =
      (words rest).map (front ++ (.comment, blockCommentOf cs) :: ·)
  /-- A line comment is not read. -/
  line : ∀ cs rest, '\n' ∉ cs →
    words (source ++ (lineCommentOf cs ++ '\n' :: rest)) = words (source ++ '\n' :: rest)

section

variable {source : List Char} {ws : List (TokenKind × List Char)}

/-- A space ends every token. -/
theorem cuts_space : Cuts source ' ' :=
  ⟨by decide, by decide, fun h => absurd h (by decide)⟩

/-- A line end does so too. -/
theorem cuts_newline : Cuts source '\n' :=
  ⟨by decide, by decide, fun h => absurd h (by decide)⟩

variable (hwords : words source = .ok ws) (hopen : ¬EndsInComment source)
variable (hslash : source.getLast? ≠ some '/')

include hwords hopen hslash

/-- A text and what follows a space after it are read apart. -/
theorem words_append_space (rest : List Char) :
    words (source ++ ' ' :: rest) = (words rest).map (ws ++ ·) := by
  have hblank : words (' ' :: rest) = words rest :=
    words_blanks (List.forall_mem_singleton.mpr rfl) rest
  rw [words_append hwords hopen hslash cuts_space, hblank]

/-- Where a slash ends the last token, a comment after the text is read like the space in its place.
-/
theorem transparent_of_cuts (hcuts : Cuts source '/') : Transparent source := by
  have hblock : ∀ cs rest, words (source ++ (blockCommentOf cs ++ rest)) =
      (words (blockCommentOf cs ++ rest)).map (ws ++ ·) :=
    fun cs rest => words_append hwords hopen hslash hcuts _
  have hline : ∀ cs rest, words (source ++ (lineCommentOf cs ++ rest)) =
      (words (lineCommentOf cs ++ rest)).map (ws ++ ·) :=
    fun cs rest => words_append hwords hopen hslash hcuts _
  constructor
  case block =>
    intro cs rest hone hcs
    have hfront := front?_blockCommentOf hcs rest
    rw [if_neg hone] at hfront
    rw [hblock, words_append_space hwords hopen hslash, words_skip hfront]
  case lines =>
    intro cs rest hmany hcs
    have hfront := front?_blockCommentOf hcs rest
    rw [if_pos hmany] at hfront
    refine ⟨ws, hwords, words_append_space hwords hopen hslash rest, ?_⟩
    rw [hblock, words_token hfront]
    cases words rest <;> rfl
  case line =>
    intro cs rest hone
    rw [hline, words_append hwords hopen hslash cuts_newline,
      words_skip (front?_lineCommentOf hone rest)]

/-- The least comment is not transparent after an operator. -/
theorem not_transparent_of_operator {c : Char} (hc : source.getLast? = some c)
    (hop : isOperatorChar c = true) : ¬Transparent source := by
  intro htransparent
  have hne : c ≠ '/' := by
    rintro rfl
    exact hslash hc
  obtain ⟨front, run, rfl, hrun⟩ := exists_operator_slash hwords hopen hc hop hne
  have hstop : StopsAt isOperatorChar ['*', '*', '/'] := by
    intro d hd
    cases hd
    decide
  have hread : words (source ++ (blockCommentOf [] ++ [])) =
      (words ['*', '*', '/']).map (front ++ (.operator, run ++ ['/']) :: ·) := hrun _ hstop
  have hcomment := htransparent.block [] [] (by simp) (by decide)
  rw [hread, words_append_space hwords hopen hslash, words_nil] at hcomment
  -- the operator would have to be the same with the slash as without it
  cases hrest : words ['*', '*', '/'] with
  | error e =>
    rw [hrest] at hcomment
    cases hcomment
  | ok us =>
    rw [hrest] at hcomment
    have hsame := Except.ok.inj hcomment
    simp at hsame

end

/-- Comments are transparent after a text that can be read, that does not end within a comment and
that does not end with a slash, if and only if it does not end with an operator. -/
theorem transparent_iff {source : List Char} (hscan : ∃ ts, scan source = .ok ts)
    (hopen : ¬EndsInComment source) (hslash : source.getLast? ≠ some '/') :
    Transparent source ↔ ∀ c, source.getLast? = some c → isOperatorChar c = false := by
  obtain ⟨ws, hwords⟩ : ∃ ws, words source = .ok ws := by
    obtain ⟨ts, hts⟩ := hscan
    exact ⟨_, by rw [words, hts]; rfl⟩
  constructor
  · intro htransparent c hc
    rw [← Bool.not_eq_true]
    intro hop
    exact not_transparent_of_operator hwords hopen hslash hc hop htransparent
  · intro hend
    exact transparent_of_cuts hwords hopen hslash ⟨by decide, by decide, fun _ => hend⟩

/-- The tokens of a file up to the name in an alias declaration. -/
def aliasTokens : List Token :=
  [⟨.keyword .package, [], "package".toList, 1⟩, ⟨.ident, [' '], ['p'], 1⟩,
    ⟨.newline, [], ['\n'], 1⟩, ⟨.keyword .typeDecl, [], "type".toList, 2⟩,
    ⟨.ident, [' '], ['A'], 2⟩]

/-- Comments are transparent after the name in an alias declaration. -/
theorem transparent_iff_alias :
    let source := "package p\ntype A".toList
    scan source = .ok aliasTokens ∧ ¬EndsInComment source ∧ source.getLast? ≠ some '/' ∧
      Transparent source := by
  have hlaid : Laid 1 [] aliasTokens := by decide +kernel
  have hsource : Token.source aliasTokens ++ [] = "package p\ntype A".toList := by decide +kernel
  have hscan : scan "package p\ntype A".toList = .ok aliasTokens := hsource ▸ scan_source hlaid
  have hopen : ¬EndsInComment "package p\ntype A".toList :=
    fun h => absurd (slash_mem_of_endsInComment h) (by decide +kernel)
  have hend : "package p\ntype A".toList.getLast? = some 'A' := by decide +kernel
  have hslash : "package p\ntype A".toList.getLast? ≠ some '/' := by
    rw [hend]
    decide
  refine ⟨hscan, hopen, hslash, (transparent_iff ⟨_, hscan⟩ hopen hslash).mpr ?_⟩
  intro c hc
  obtain rfl : 'A' = c := Option.some.inj (hend.symm.trans hc)
  decide

/-- A comment after the sign in an alias declaration is taken apart into tokens, whereas with a
space in its place the declaration is read as it should be. -/
theorem comment_not_transparent :
    let source := "package p\ntype A =".toList
    (∃ ts, scan source = .ok ts) ∧ ¬EndsInComment source ∧ source.getLast? ≠ some '/' ∧
      words (source ++ (blockCommentOf " x ".toList ++ " int".toList)) =
        .ok (aliasTokens.map (fun t => (t.kind, t.text)) ++
          [(.operator, "=/".toList), (.star, ['*']), (.ident, ['x']), (.star, ['*']),
            (.operator, ['/']), (.ident, "int".toList)]) ∧
      words (source ++ ' ' :: " int".toList) =
        .ok (aliasTokens.map (fun t => (t.kind, t.text)) ++
          [(.assign, ['=']), (.ident, "int".toList)]) ∧
      ¬Transparent source := by
  have hlaid : Laid 1 [] (aliasTokens ++ [⟨.assign, [' '], ['='], 2⟩]) := by decide +kernel
  have hcommented : Laid 1 [] (aliasTokens ++
      [⟨.operator, [' '], "=/".toList, 2⟩, ⟨.star, [], ['*'], 2⟩, ⟨.ident, [' '], ['x'], 2⟩,
        ⟨.star, [' '], ['*'], 2⟩, ⟨.operator, [], ['/'], 2⟩,
        ⟨.ident, [' '], "int".toList, 2⟩]) := by
    decide +kernel
  have hspaced : Laid 1 [] (aliasTokens ++
      [⟨.assign, [' '], ['='], 2⟩, ⟨.ident, "  ".toList, "int".toList, 2⟩]) := by
    decide +kernel
  have hopen : ¬EndsInComment "package p\ntype A =".toList :=
    fun h => absurd (slash_mem_of_endsInComment h) (by decide +kernel)
  refine ⟨⟨_, scan_source hlaid⟩, hopen, by decide +kernel, words_source hcommented,
    words_source hspaced, fun h => ?_⟩
  have hsame := h.block " x ".toList " int".toList (by decide +kernel) (by decide +kernel)
  have hwords := (words_source hcommented).symm.trans (hsame.trans (words_source hspaced))
  -- six tokens stand where there should be two
  have hlength := congrArg List.length (Except.ok.inj hwords)
  exact absurd hlength (by decide +kernel)

end CodecGen.Token
