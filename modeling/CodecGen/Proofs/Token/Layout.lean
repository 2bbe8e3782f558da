import CodecGen.Token.Lexer
import Mathlib.Data.List.TakeWhile

/-!
# Tokens that are laid out as text

`Lexes` says without reference to the lexer which texts are tokens of which class. Tokens in a row
are `Laid` out if blanks alone stand between them and none runs on into what follows it; the lexer
then finds just these tokens in their text (`scan_source`).
-/

namespace CodecGen.Token

/-! ## The texts of tokens -/

/-- What follows the opening quote of a literal with backslash escapes, through the closing quote.
-/
inductive QuotedBody (quote : Char) : List Char → Prop where
  | close : QuotedBody quote [quote]
  | char {c : Char} {cs : List Char} (hquote : c ≠ quote) (hline : c ≠ '\n') (hback : c ≠ '\\')
      (hcs : QuotedBody quote cs) : QuotedBody quote (c :: cs)
  | escape {c : Char} {cs : List Char} (hline : c ≠ '\n') (hcs : QuotedBody quote cs) :
      QuotedBody quote ('\\' :: c :: cs)

/-- What follows the beginning of a block comment, through its end. -/
inductive CommentBody : List Char → Prop where
  | close : CommentBody ['*', '/']
  | char {c : Char} {cs : List Char} (hopen : c = '*' → cs.head? ≠ some '/')
      (hcs : CommentBody cs) : CommentBody (c :: cs)

/-- The text is a token of the class. -/
inductive Lexes : TokenKind → List Char → Prop where
  /-- A word is a keyword or an identifier. -/
  | word {c : Char} {cs : List Char} (hc : isIdentStart c = true)
      (hcs : ∀ d ∈ cs, isIdentPart d = true) : Lexes (wordKind (c :: cs)) (c :: cs)
  | number {c : Char} {cs : List Char} (hc : c.isDigit = true)
      (hcs : ∀ d ∈ cs, isNumberPart d = true) : Lexes .number (c :: cs)
  /-- A run of operator characters that is not the beginning of a comment. -/
  | operator {c : Char} {cs : List Char} (hc : isOperatorChar c = true)
      (hcs : ∀ d ∈ cs, isOperatorChar d = true) (hopen : c = '/' → cs.head? ≠ some '/') :
      Lexes (operatorKind (c :: cs)) (c :: cs)
  | rawString {cs : List Char} (hcs : '\x60' ∉ cs) : Lexes .rawString ('\x60' :: (cs ++ ['\x60']))
  | string {cs : List Char} (hcs : QuotedBody '"' cs) : Lexes .string ('"' :: cs)
  | rune {cs : List Char} (hcs : QuotedBody '\'' cs) : Lexes .rune ('\'' :: cs)
  /-- A block comment is a token only if it spans lines. -/
  | comment {cs : List Char} (hcs : CommentBody cs) (hline : '\n' ∈ cs) :
      Lexes .comment ('/' :: '*' :: cs)
  | ellipsis : Lexes .ellipsis ['.', '.', '.']
  | mark {c : Char} {kind : TokenKind} (h : punctuation? c = some kind) : Lexes kind [c]

/-- A token of the class and text does not end before the given character. -/
def runsOn (kind : TokenKind) (text : List Char) (c : Char) : Bool :=
  match kind with
  | .keyword _ | .ident => isIdentPart c
  | .number => isNumberPart c
  | .assign | .arrow | .operator => isOperatorChar c || (text == ['/'] && c == '*')
  | .dot => c == '.'
  | _ => false

/-- The text does not go on with a character of a class. -/
def StopsAt (p : Char → Bool) (rest : List Char) : Prop :=
  ∀ c, rest.head? = some c → p c = false

/-! ## Classes of characters -/

/-- There are four blank characters, and a line end is none of them. -/
theorem isGapChar_iff {c : Char} :
    isGapChar c = true ↔ c = ' ' ∨ c = '\t' ∨ c = '\r' ∨ c = '\x0c' := by
  unfold isGapChar
  simp [or_assoc]

/-- A character of which no gap consists has its own class. -/
theorem isGapChar_eq_false {p : Char → Bool} {c : Char} (hc : p c = true)
    (hp : p ' ' = false ∧ p '\t' = false ∧ p '\r' = false ∧ p '\x0c' = false) :
    isGapChar c = false := by
  obtain ⟨hspace, htab, hreturn, hfeed⟩ := hp
  rw [← Bool.not_eq_true, isGapChar_iff]
  rintro (rfl | rfl | rfl | rfl)
  · rw [hspace] at hc; cases hc
  · rw [htab] at hc; cases hc
  · rw [hreturn] at hc; cases hc
  · rw [hfeed] at hc; cases hc

/-- Digits are in one range of code points. -/
theorem isDigit_bounds {c : Char} (h : c.isDigit = true) : 48 ≤ c.toNat ∧ c.toNat ≤ 57 := by
  have hval : (decide (48 ≤ c.val) && decide (c.val ≤ 57)) = true := h
  rw [Bool.and_eq_true, decide_eq_true_eq, decide_eq_true_eq, UInt32.le_iff_toNat_le,
    UInt32.le_iff_toNat_le] at hval
  exact hval

/-- Letters are in two ranges of code points. -/
theorem isAlpha_bounds {c : Char} (h : c.isAlpha = true) :
    65 ≤ c.toNat ∧ c.toNat ≤ 90 ∨ 97 ≤ c.toNat ∧ c.toNat ≤ 122 := by
  have hval : (decide (65 ≤ c.val ∧ c.val ≤ 90) ||
      (decide (97 ≤ c.val) && decide (c.val ≤ 122))) = true := h
  rw [Bool.or_eq_true, Bool.and_eq_true, decide_eq_true_eq, decide_eq_true_eq,
    decide_eq_true_eq] at hval
  simp only [UInt32.le_iff_toNat_le] at hval
  exact hval

/-- No digit begins a word. -/
theorem isIdentStart_of_isDigit {c : Char} (hc : c.isDigit = true) : isIdentStart c = false := by
  have hbounds := isDigit_bounds hc
  have hascii : c.val < 128 := by
    rw [UInt32.lt_iff_toNat_lt]
    show c.toNat < 128
    omega
  have halpha : c.isAlpha = false := by
    rw [← Bool.not_eq_true]
    intro htrue
    have hletter := isAlpha_bounds htrue
    omega
  have hunder : c ≠ '_' := by
    rintro rfl
    exact absurd hc (by decide)
  unfold isIdentStart Text.isLetter
  rw [if_pos hascii, halpha, Bool.or_false, beq_eq_false_iff_ne]
  exact hunder

/-- An operator character begins neither a word nor a number. -/
theorem class_of_isOperatorChar {c : Char} (hc : isOperatorChar c = true) :
    isIdentStart c = false ∧ c.isDigit = false := by
  have hall : "-+/%&|^<>!=:~".toList.all (fun d => !isIdentStart d && !d.isDigit) = true := by
    decide
  have hclass := List.all_eq_true.mp hall c (List.contains_iff_mem.mp hc)
  rw [Bool.and_eq_true, Bool.not_eq_true', Bool.not_eq_true'] at hclass
  exact hclass

/-- Characters of which one is in a class and the other is not are different. -/
theorem ne_of_class {p : Char → Bool} {c d : Char} (hc : p c = true) (hd : p d = false) :
    c ≠ d := by
  rintro rfl
  rw [hd] at hc
  cases hc

/-- Letters and digits of ASCII are not blank. -/
theorem isBlank_of_isAlphanum {c : Char} (hc : c.isAlphanum = true) : Text.isBlank c = false := by
  have hbounds : (65 ≤ c.toNat ∧ c.toNat ≤ 90 ∨ 97 ≤ c.toNat ∧ c.toNat ≤ 122) ∨
      48 ≤ c.toNat ∧ c.toNat ≤ 57 := by
    rw [Char.isAlphanum, Bool.or_eq_true] at hc
    exact hc.imp isAlpha_bounds isDigit_bounds
  simp [Text.isBlank]
  omega

/-- No letter is blank, in ASCII or outside of it. -/
theorem isBlank_of_isLetter {c : Char} (hc : Text.isLetter c = true) : Text.isBlank c = false := by
  unfold Text.isLetter at hc
  by_cases hascii : c.val < 128
  · rw [if_pos hascii] at hc
    exact isBlank_of_isAlphanum (by rw [Char.isAlphanum, hc, Bool.true_or])
  · rw [if_neg hascii, Bool.and_eq_true, Bool.not_eq_true'] at hc
    exact hc.1

/-- No number is blank, in ASCII or outside of it. -/
theorem isBlank_of_isNumber {c : Char} (hc : Text.isNumber c = true) : Text.isBlank c = false := by
  unfold Text.isNumber at hc
  by_cases hascii : c.val < 128
  · rw [if_pos hascii] at hc
    exact isBlank_of_isAlphanum (by rw [Char.isAlphanum, hc, Bool.or_true])
  · rw [if_neg hascii, Bool.and_eq_true, Bool.not_eq_true'] at hc
    exact hc.1

/-- Nothing in a word is blank. -/
theorem isBlank_of_isIdentPart {c : Char} (hc : isIdentPart c = true) : Text.isBlank c = false := by
  unfold isIdentPart at hc
  rw [Bool.or_eq_true, Bool.or_eq_true] at hc
  rcases hc with (hunder | hletter) | hnumber
  · rw [eq_of_beq hunder]
    decide
  · exact isBlank_of_isLetter hletter
  · exact isBlank_of_isNumber hnumber

/-- Nothing in a number is blank. -/
theorem isBlank_of_isNumberPart {c : Char} (hc : isNumberPart c = true) :
    Text.isBlank c = false := by
  unfold isNumberPart at hc
  rw [Bool.or_eq_true, Bool.or_eq_true] at hc
  rcases hc with (halpha | hunder) | hdot
  · exact isBlank_of_isAlphanum halpha
  · rw [eq_of_beq hunder]
    decide
  · rw [eq_of_beq hdot]
    decide

/-- Nothing is cut off the ends of a text without blanks. -/
theorem trim_of_not_isBlank {cs : List Char} (h : ∀ c ∈ cs, Text.isBlank c = false) :
    Text.trim cs = cs := by
  have hdrop : ∀ ds : List Char, (∀ c ∈ ds, Text.isBlank c = false) →
      ds.dropWhile Text.isBlank = ds := by
    intro ds hds
    cases ds with
    | nil => rfl
    | cons d ds => exact List.dropWhile_cons_of_neg (by simp [hds d List.mem_cons_self])
  unfold Text.trim
  rw [hdrop cs h, hdrop cs.reverse fun c hc => h c (List.mem_reverse.mp hc), List.reverse_reverse]

/-- Numbers and names have no blanks at their ends. -/
theorem trim_of_lexes {kind : TokenKind} {text : List Char} (h : Lexes kind text)
    (hkind : kind = .number ∨ kind = .ident) : Text.trim text = text := by
  cases h with
  | word hc hcs =>
    refine trim_of_not_isBlank fun d hd => isBlank_of_isIdentPart ?_
    rcases List.mem_cons.mp hd with rfl | hd
    · unfold isIdentStart at hc
      unfold isIdentPart
      rw [hc, Bool.true_or]
    · exact hcs d hd
  | number hc hcs =>
    refine trim_of_not_isBlank fun d hd => isBlank_of_isNumberPart ?_
    rcases List.mem_cons.mp hd with rfl | hd
    · unfold isNumberPart
      rw [Char.isAlphanum, hc, Bool.or_true, Bool.true_or, Bool.true_or]
    · exact hcs d hd
  | operator _ _ _ =>
    unfold operatorKind at hkind
    split at hkind
    · simp at hkind
    · split at hkind <;> simp at hkind
  | mark h =>
    unfold punctuation? at h
    split at h <;> cases h <;> simp at hkind
  | _ => simp at hkind

/-- An identifier is a word. -/
theorem exists_of_lexes_ident {text : List Char} (h : Lexes .ident text) :
    ∃ c cs, text = c :: cs ∧ isIdentStart c = true ∧ ∀ d ∈ cs, isIdentPart d = true := by
  generalize hkind : TokenKind.ident = kind at h
  cases h with
  | word hc hcs => exact ⟨_, _, rfl, hc, hcs⟩
  | operator =>
    unfold operatorKind at hkind
    split_ifs at hkind
  | mark h =>
    unfold punctuation? at h
    split at h <;> cases h <;> cases hkind
  | _ => cases hkind

/-- A dot ends an identifier. -/
theorem dot_notMem_of_lexes_ident {text : List Char} (h : Lexes .ident text) : '.' ∉ text := by
  obtain ⟨c, cs, rfl, hc, hcs⟩ := exists_of_lexes_ident h
  intro hmem
  rcases List.mem_cons.mp hmem with hdot | hmem
  · exact absurd (hdot ▸ hc) (by decide)
  · exact absurd (hcs '.' hmem) (by decide)

/-! ## Runs -/

/-- Where a text does not go on with a character of a class, no run of the class is taken from it.
-/
theorem takeWhile_stopsAt {p : Char → Bool} {rest : List Char} (h : StopsAt p rest) :
    rest.takeWhile p = [] ∧ rest.dropWhile p = rest := by
  cases rest with
  | nil => exact ⟨rfl, rfl⟩
  | cons c cs =>
    have hc := h c rfl
    exact ⟨List.takeWhile_cons_of_neg (by simp [hc]), List.dropWhile_cons_of_neg (by simp [hc])⟩

/-- What is left after a run does not go on with a character of its class. -/
theorem stopsAt_dropWhile (p : Char → Bool) (cs : List Char) : StopsAt p (cs.dropWhile p) := by
  intro c hc
  have hnot := List.head?_dropWhile_not p cs
  rw [hc] at hnot
  simpa using hnot

/-- A run ends where its characters do. -/
theorem runOf_append {p : Char → Bool} {kind : List Char → Option TokenKind} {c : Char}
    {cs rest : List Char} (hcs : ∀ d ∈ cs, p d = true) (hrest : StopsAt p rest) :
    runOf p kind c (cs ++ rest) = (kind (c :: cs), c :: cs, rest) := by
  obtain ⟨htake, hdrop⟩ := takeWhile_stopsAt hrest
  unfold runOf
  rw [List.takeWhile_append_of_pos hcs, List.dropWhile_append_of_pos hcs, htake, hdrop,
    List.append_nil]

/-! ## Literals and comments -/

/-- The body of a literal is read through its closing quote, whatever follows it. -/
theorem quoted?_body {quote : Char} (hback : quote ≠ '\\') {cs : List Char}
    (h : QuotedBody quote cs) (rest : List Char) :
    quoted? quote (cs ++ rest) = some (cs, rest) := by
  induction h with
  | close =>
    show quoted? quote (quote :: rest) = _
    rw [quoted?]
    · rw [if_pos rfl]
    · intro _ _ hq
      exact absurd hq hback
  | char hquote hline hesc _ ih =>
    rw [List.cons_append, quoted?]
    · rw [if_neg hquote, if_neg (by simp [hline, hesc]), ih]
      rfl
    · intro _ _ hc
      exact absurd hc hesc
  | escape hline _ ih =>
    rw [List.cons_append, List.cons_append, quoted?, if_neg hline, ih]
    rfl

/-- The body of a raw literal is read through its closing quote, whatever follows it. -/
theorem rawQuoted?_body {cs : List Char} (h : '\x60' ∉ cs) (rest : List Char) :
    rawQuoted? (cs ++ '\x60' :: rest) = some (cs ++ ['\x60'], rest) := by
  induction cs with
  | nil => rfl
  | cons c cs ih =>
    have hc : c ≠ '\x60' := fun hc => h (hc ▸ List.mem_cons_self)
    have hcs : '\x60' ∉ cs := fun hmem => h (List.mem_cons_of_mem _ hmem)
    rw [List.cons_append, rawQuoted?, if_neg hc, ih hcs]
    rfl

/-- The body of a comment is read through its end, whatever follows it. -/
theorem blockComment_body {cs : List Char} (h : CommentBody cs) (rest : List Char) :
    blockComment (cs ++ rest) = (cs, rest) := by
  induction h with
  | close => rfl
  | char hopen hcs ih =>
    rename_i c cs
    rw [List.cons_append, blockComment]
    · rw [ih]
    -- the text that is added cannot make this character the beginning of an end
    · intro rest' hc hrest
      refine hopen hc ?_
      cases hcs with
      | close => cases hrest
      | char _ _ => cases hrest; rfl

/-! ## One token -/

/-- The beginning of a comment or an ellipsis, which is not told by its first character. -/
inductive Opening : List Char → Prop
  | line (rest : List Char) : Opening ('/' :: '/' :: rest)
  | block (rest : List Char) : Opening ('/' :: '*' :: rest)
  | dots (rest : List Char) : Opening ('.' :: '.' :: '.' :: rest)

/-- A text that begins neither a comment nor an ellipsis is told by its first character. -/
theorem front?_of_not_opening {c : Char} {cs : List Char} (h : ¬Opening (c :: cs)) :
    front? (c :: cs) = plain? c cs := by
  unfold front?
  split
  · rename_i heq
    exact absurd (heq ▸ .line _) h
  · rename_i heq
    exact absurd (heq ▸ .block _) h
  · rename_i heq
    exact absurd (heq ▸ .dots _) h
  · rename_i heq
    cases heq
  · rename_i heq
    cases heq
    rfl

/-- Where neither a comment nor an ellipsis can begin, the first character tells the piece. -/
theorem front?_eq_plain? {c : Char} {cs : List Char}
    (hslash : c = '/' → cs.head? ≠ some '/' ∧ cs.head? ≠ some '*')
    (hdots : c = '.' → cs.head? ≠ some '.') : front? (c :: cs) = plain? c cs := by
  apply front?_of_not_opening
  rintro (_ | _ | _)
  · exact (hslash rfl).1 rfl
  · exact (hslash rfl).2 rfl
  · exact hdots rfl rfl

/-- Only a slash and a dot may begin what their first character does not tell. -/
theorem front?_of_ne {c : Char} (hslash : c ≠ '/') (hdot : c ≠ '.') (cs : List Char) :
    front? (c :: cs) = plain? c cs :=
  front?_eq_plain? (fun h => absurd h hslash) fun h => absurd h hdot

section

variable {c : Char} {cs rest : List Char}

/-- Blanks are skipped together, as far as they go. -/
theorem front?_gap (hcs : ∀ d ∈ c :: cs, isGapChar d = true) (hrest : StopsAt isGapChar rest) :
    front? (c :: (cs ++ rest)) = some (none, c :: cs, rest) := by
  have hc := hcs c List.mem_cons_self
  have htail : ∀ d ∈ cs, isGapChar d = true := fun d hd => hcs d (List.mem_cons_of_mem _ hd)
  rw [front?_of_ne (ne_of_class hc rfl) (ne_of_class hc rfl), plain?, if_pos hc,
    runOf_append htail hrest]

/-- A word is read as far as its characters go, and is a keyword or an identifier. -/
theorem front?_word (hc : isIdentStart c = true) (hcs : ∀ d ∈ cs, isIdentPart d = true)
    (hrest : StopsAt isIdentPart rest) :
    front? (c :: (cs ++ rest)) = some (some (wordKind (c :: cs)), c :: cs, rest) := by
  have hgap := isGapChar_eq_false hc (by decide)
  rw [front?_of_ne (ne_of_class hc (by decide)) (ne_of_class hc (by decide)), plain?,
    if_neg (by simp [hgap]), if_pos hc, runOf_append hcs hrest]
  rfl

/-- A number is read as far as its characters go. -/
theorem front?_number (hc : c.isDigit = true) (hcs : ∀ d ∈ cs, isNumberPart d = true)
    (hrest : StopsAt isNumberPart rest) :
    front? (c :: (cs ++ rest)) = some (some .number, c :: cs, rest) := by
  have hgap := isGapChar_eq_false hc (by decide)
  have hstart := isIdentStart_of_isDigit hc
  rw [front?_of_ne (ne_of_class hc (by decide)) (ne_of_class hc (by decide)), plain?,
    if_neg (by simp [hgap]), if_neg (by simp [hstart]), if_pos hc, runOf_append hcs hrest]

/-- Operator characters are read together, as far as they go and where they do not begin a comment.
-/
theorem front?_operator (hc : isOperatorChar c = true) (hcs : ∀ d ∈ cs, isOperatorChar d = true)
    (hopen : c = '/' → cs.head? ≠ some '/')
    (hrest : StopsAt (fun d => isOperatorChar d || ((c :: cs) == ['/'] && d == '*')) rest) :
    front? (c :: (cs ++ rest)) = some (some (operatorKind (c :: cs)), c :: cs, rest) := by
  have hgap := isGapChar_eq_false hc (by decide)
  obtain ⟨hstart, hdigit⟩ := class_of_isOperatorChar hc
  have hstop : StopsAt isOperatorChar rest := by
    intro d hd
    have hboth := hrest d hd
    rw [Bool.or_eq_false_iff] at hboth
    exact hboth.1
  have hslash : c = '/' → (cs ++ rest).head? ≠ some '/' ∧ (cs ++ rest).head? ≠ some '*' := by
    intro hslash
    cases cs with
    | nil =>
      -- a single slash is followed by neither character that would make it a comment
      refine ⟨fun hhead => ?_, fun hhead => ?_⟩
      · have hfalse := hstop '/' hhead
        exact absurd hfalse (by decide)
      · have hfalse := hrest '*' hhead
        rw [hslash] at hfalse
        exact absurd hfalse (by decide)
    | cons d ds =>
      refine ⟨hopen hslash, fun hhead => ?_⟩
      have hd := hcs d List.mem_cons_self
      exact ne_of_class hd (by decide) (Option.some.inj hhead)
  -- a run of operators is none of the classes that are tried before it
  rw [front?_eq_plain? hslash fun hdot => absurd hdot (ne_of_class hc (by decide)), plain?,
    if_neg (by simp [hgap]), if_neg (by simp [hstart]), if_neg (by simp [hdigit]), if_pos hc,
    runOf_append hcs hstop]
  rfl

/-- A line end is a token by itself, whatever follows it. -/
theorem front?_newline (rest : List Char) :
    front? ('\n' :: rest) = some (some .newline, ['\n'], rest) :=
  rfl

/-- Brackets and other marks are tokens by themselves. -/
theorem front?_mark {kind : TokenKind} (h : punctuation? c = some kind)
    (hrest : StopsAt (runsOn kind [c]) rest) :
    front? (c :: rest) = some (some kind, [c], rest) := by
  unfold punctuation? at h
  split at h
  case h_10 =>
    cases h
    rw [front?_eq_plain? (fun hslash => absurd hslash (by decide)) ?_]
    · rfl
    · intro _ hhead
      exact absurd (hrest '.' hhead) (by decide)
  all_goals cases h
  all_goals rfl

end

/-- Any word goes on with a character of words, a keyword too. -/
theorem runsOn_wordKind (word text : List Char) (c : Char) :
    runsOn (wordKind word) text c = isIdentPart c := by
  unfold wordKind
  split <;> rfl

/-- Any operator goes on with an operator character, and a slash alone with an asterisk too. -/
theorem runsOn_operatorKind (run text : List Char) (c : Char) :
    runsOn (operatorKind run) text c = (isOperatorChar c || (text == ['/'] && c == '*')) := by
  unfold operatorKind
  split
  · rfl
  · split <;> rfl

/-- A token that does not run on is the piece at the front of its text and what follows it. -/
theorem front?_append {kind : TokenKind} {text rest : List Char} (h : Lexes kind text)
    (hrest : StopsAt (runsOn kind text) rest) :
    front? (text ++ rest) = some (some kind, text, rest) := by
  cases h with
  | word hc hcs =>
    refine front?_word hc hcs ?_
    intro d hd
    exact (runsOn_wordKind _ _ d).symm.trans (hrest d hd)
  | number hc hcs => exact front?_number hc hcs hrest
  | operator hc hcs hopen =>
    refine front?_operator hc hcs hopen ?_
    intro d hd
    exact (runsOn_operatorKind _ _ d).symm.trans (hrest d hd)
  | rawString hcs =>
    rename_i cs
    show front? ('\x60' :: ((cs ++ ['\x60']) ++ rest)) = _
    rw [front?_of_ne (by decide) (by decide), List.append_assoc]
    show (rawQuoted? (cs ++ '\x60' :: rest)).map _ = _
    rw [rawQuoted?_body hcs]
    rfl
  | string hcs =>
    rename_i cs
    show (quoted? '"' (cs ++ rest)).map _ = _
    rw [quoted?_body (by decide) hcs]
    rfl
  | rune hcs =>
    rename_i cs
    show (quoted? '\'' (cs ++ rest)).map _ = _
    rw [quoted?_body (by decide) hcs]
    rfl
  | comment hcs hline =>
    rename_i cs
    show front? ('/' :: '*' :: (cs ++ rest)) = _
    simp [front?, blockComment_body hcs, hline]
  | ellipsis => rfl
  | mark h => exact front?_mark h hrest

/-! ## Nothing else is a token -/

/-- What is read of a literal is the body of one, through its closing quote. -/
theorem quotedBody_of_quoted? {quote : Char} {cs body rest : List Char}
    (h : quoted? quote cs = some (body, rest)) : QuotedBody quote body := by
  fun_induction quoted? quote cs generalizing body rest with
  | case1 => cases h
  | case2 => cases h
  | case3 c cs hline ih =>
    obtain ⟨⟨b, r⟩, hb, heq⟩ := Option.map_eq_some_iff.mp h
    cases heq
    exact .escape hline (ih hb)
  | case4 cs _ =>
    cases h
    exact .close
  | case5 => cases h
  | case6 c cs hback hquote hline ih =>
    obtain ⟨⟨b, r⟩, hb, heq⟩ := Option.map_eq_some_iff.mp h
    cases heq
    rw [not_or] at hline
    exact .char hquote hline.1 hline.2 (ih hb)

/-- What is read of a raw literal ends with its only closing quote. -/
theorem notMem_of_rawQuoted? {cs body rest : List Char} (h : rawQuoted? cs = some (body, rest)) :
    ∃ inside, '\x60' ∉ inside ∧ body = inside ++ ['\x60'] := by
  fun_induction rawQuoted? cs generalizing body rest with
  | case1 => cases h
  | case2 rest =>
    cases h
    exact ⟨[], List.not_mem_nil, rfl⟩
  | case3 c cs hc ih =>
    obtain ⟨⟨b, r⟩, hb, heq⟩ := Option.map_eq_some_iff.mp h
    cases heq
    obtain ⟨inside, hinside, rfl⟩ := ih hb
    refine ⟨c :: inside, ?_, rfl⟩
    intro hmem
    rcases List.mem_cons.mp hmem with heq | hmem
    · exact hc heq.symm
    · exact hinside hmem

/-- A block comment has an end, or takes all the text that is left. -/
theorem blockComment_cases (cs : List Char) :
    CommentBody (blockComment cs).1 ∨
      (blockComment cs).2 = [] ∧ ¬['*', '/'] <:+: (blockComment cs).1 := by
  fun_induction blockComment cs with
  | case1 => exact .inr ⟨rfl, by decide⟩
  | case2 rest => exact .inl .close
  | case3 c cs hopen ih =>
    have hhead : c = '*' → (blockComment cs).1.head? ≠ some '/' := by
      intro hc hhead
      have happ := blockComment_append cs
      cases hbody : (blockComment cs).1 with
      | nil =>
        rw [hbody] at hhead
        cases hhead
      | cons d ds =>
        rw [hbody] at hhead happ
        cases hhead
        exact hopen _ hc happ.symm
    rcases ih with hbody | ⟨hrest, hno⟩
    · exact .inl (.char hhead hbody)
    · refine .inr ⟨hrest, fun hin => ?_⟩
      rcases List.infix_cons_iff.mp hin with ⟨us, hus⟩ | hin
      · obtain ⟨hc, hbody⟩ := List.cons.inj hus
        exact hhead hc.symm (by rw [← hbody]; rfl)
      · exact hno hin

/-- A block comment that does not take all text has an end. -/
theorem commentBody_of_blockComment {cs : List Char} (h : (blockComment cs).2 ≠ []) :
    CommentBody (blockComment cs).1 :=
  (blockComment_cases cs).resolve_right fun hall => h hall.1

/-- What is told by its first character is a token of its class. -/
theorem lexes_of_plain? {c : Char} {cs text rest : List Char} {kind : TokenKind}
    (hopen : c = '/' → cs.head? ≠ some '/') (h : plain? c cs = some (some kind, text, rest)) :
    Lexes kind text := by
  have hrun : ∀ {p : Char → Bool} {d : Char}, d ∈ cs.takeWhile p → p d = true :=
    fun hd => List.mem_takeWhile_imp hd
  unfold plain? at h
  split at h
  · cases h
  split at h
  · rename_i hc
    cases h
    exact .word hc fun d hd => hrun hd
  split at h
  · rename_i hc
    cases h
    exact .number hc fun d hd => hrun hd
  split at h
  · rename_i hc
    cases h
    refine .operator hc (fun d hd => hrun hd) ?_
    -- if the run goes on with a slash, then so does the text
    intro hslash hhead
    refine hopen hslash ?_
    cases cs with
    | nil => cases hhead
    | cons d ds =>
      rw [List.takeWhile_cons] at hhead
      split at hhead <;> cases hhead
      rfl
  split at h
  · rename_i hc
    obtain ⟨⟨b, r⟩, hb, heq⟩ := Option.map_eq_some_iff.mp h
    cases heq
    obtain ⟨inside, hinside, rfl⟩ := notMem_of_rawQuoted? hb
    rw [hc]
    exact .rawString hinside
  split at h
  · rename_i hc
    obtain ⟨⟨b, r⟩, hb, heq⟩ := Option.map_eq_some_iff.mp h
    cases heq
    rw [hc] at hb ⊢
    exact .string (quotedBody_of_quoted? hb)
  split at h
  · rename_i hc
    obtain ⟨⟨b, r⟩, hb, heq⟩ := Option.map_eq_some_iff.mp h
    cases heq
    rw [hc] at hb ⊢
    exact .rune (quotedBody_of_quoted? hb)
  · obtain ⟨k, hk, heq⟩ := Option.map_eq_some_iff.mp h
    cases heq
    exact .mark hk

/-- Every token that the lexer finds has the text of its class, but a comment that takes all the
text that is left and has no end. -/
theorem lexes_or_unclosed_of_front? {source text rest : List Char} {kind : TokenKind}
    (h : front? source = some (some kind, text, rest)) :
    Lexes kind text ∨ kind = .comment ∧ rest = [] ∧
      ∃ cs, text = '/' :: '*' :: cs ∧ ¬['*', '/'] <:+: cs := by
  unfold front? at h
  split at h
  · cases h
  · rename_i cs
    simp only [Option.some.injEq, Prod.mk.injEq] at h
    obtain ⟨hkind, rfl, rfl⟩ := h
    split at hkind
    · rename_i hline
      cases hkind
      -- a block comment that spans lines is the only token that may be left open
      rcases blockComment_cases cs with hend | ⟨hrest, hend⟩
      · exact .inl (.comment hend (by simpa using hline))
      · exact .inr ⟨rfl, hrest, _, rfl, hend⟩
    · cases hkind
  · cases h
    exact .inl .ellipsis
  · cases h
  · rename_i c cs hline _ _
    refine .inl (lexes_of_plain? ?_ h)
    intro hc hhead
    cases cs with
    | nil => cases hhead
    | cons d ds =>
      cases hhead
      exact hline ds hc rfl

/-- A comment has the text of its class if there is text after it. -/
theorem lexes_of_front? {source text rest : List Char} {kind : TokenKind}
    (h : front? source = some (some kind, text, rest)) (hrest : kind = .comment → rest ≠ []) :
    Lexes kind text :=
  (lexes_or_unclosed_of_front? h).resolve_right fun hopen => hrest hopen.1 hopen.2.1

/-- Every token ends before a space. -/
theorem runsOn_space (kind : TokenKind) (text : List Char) : runsOn kind text ' ' = false := by
  -- the second part is that of a slash before an asterisk
  have hoperator : (isOperatorChar ' ' || (text == ['/'] && ' ' == '*')) = false :=
    Bool.and_false _
  unfold runsOn
  split
  · decide
  · decide
  · decide
  · exact hoperator
  · exact hoperator
  · exact hoperator
  · rfl
  · rfl

/-- The texts of tokens are those that the lexer takes for a token before a blank. -/
theorem lexes_iff {kind : TokenKind} {text : List Char} :
    Lexes kind text ↔ front? (text ++ [' ']) = some (some kind, text, [' ']) := by
  constructor
  · intro h
    refine front?_append h ?_
    intro c hc
    cases hc
    exact runsOn_space kind text
  · intro h
    exact lexes_of_front? h fun _ => List.cons_ne_nil _ _

instance (kind : TokenKind) (text : List Char) : Decidable (Lexes kind text) :=
  decidable_of_iff' _ lexes_iff

/-- No token begins with a blank. -/
theorem stopsAt_gap_of_lexes {kind : TokenKind} {text : List Char} (h : Lexes kind text)
    (rest : List Char) : StopsAt isGapChar (text ++ rest) := by
  intro c hhead
  have hend : StopsAt (runsOn kind text) [] := fun d hd => by cases hd
  have hfront := front?_append h hend
  obtain ⟨_, hne⟩ := front?_split hfront
  cases text with
  | nil => exact absurd rfl hne
  | cons d ds =>
    cases hhead
    -- a blank at the front is read as a gap, and a gap is not a token
    rw [List.append_nil] at hfront
    rw [← Bool.not_eq_true]
    intro hgap
    rw [front?_of_ne (ne_of_class hgap rfl) (ne_of_class hgap rfl), plain?, if_pos hgap] at hfront
    cases hfront

/-! ## Tokens in a row -/

/-- The tokens stand one after another in a text that ends with some blanks: each where it says it
does, with nothing but blanks before it, and not running on into what follows. `line` is the line
that the text begins on. -/
def Laid (line : Nat) (tail : List Char) : List Token → Prop
  | [] => ∀ c ∈ tail, isGapChar c = true
  | t :: ts =>
    t.line = line ∧ (∀ c ∈ t.gap, isGapChar c = true) ∧ Lexes t.kind t.text ∧
      StopsAt (runsOn t.kind t.text) (source ts ++ tail) ∧
      Laid (line + t.text.count '\n') tail ts

instance (p : Char → Bool) (rest : List Char) : Decidable (StopsAt p rest) :=
  match rest with
  | [] => .isTrue fun _ h => nomatch h
  | c :: _ =>
    decidable_of_iff (p c = false) ⟨fun h _ hd => Option.some.inj hd ▸ h, fun h => h c rfl⟩

def decidableBlanks (cs : List Char) : Decidable (∀ c ∈ cs, isGapChar c = true) :=
  decidable_of_iff (cs.all isGapChar = true) List.all_eq_true

instance decidableLaid (line : Nat) (tail : List Char) : (ts : List Token) →
    Decidable (Laid line tail ts)
  | [] => decidableBlanks tail
  | t :: ts =>
    have := decidableLaid (line + t.text.count '\n') tail ts
    have := decidableBlanks t.gap
    inferInstanceAs (Decidable (_ ∧ _ ∧ _ ∧ _ ∧ _))

section

variable {line : Nat} {gap source rest text : List Char} {kind : TokenKind}

/-- A piece that is skipped belongs to the gap before the next token. -/
theorem scanFrom_skip (h : front? source = some (none, text, rest)) :
    scanFrom line gap source = scanFrom line (gap ++ text) rest := by
  rw [scanFrom]
  split
  · rename_i heq
    rw [h] at heq
    cases heq
    rfl
  · rename_i heq
    rw [h] at heq
    cases heq
  · rename_i heq
    rw [h] at heq
    cases heq

/-- A token takes the gap before it, and the tokens after it begin with none. -/
theorem scanFrom_token (h : front? source = some (some kind, text, rest)) :
    scanFrom line gap source =
      (scanFrom (line + text.count '\n') [] rest).map (⟨kind, gap, text, line⟩ :: ·) := by
  rw [scanFrom]
  split
  · rename_i heq
    rw [h] at heq
    cases heq
  · rename_i heq
    rw [h] at heq
    cases heq
    rfl
  · rename_i heq
    rw [h] at heq
    cases heq

/-- What is read of a text begins with the token at its front. -/
theorem exists_of_scanFrom {ts : List Token} (hfront : front? source = some (some kind, text, rest))
    (hscan : scanFrom line gap source = .ok ts) :
    ∃ us, ts = ⟨kind, gap, text, line⟩ :: us ∧
      scanFrom (line + text.count '\n') [] rest = .ok us := by
  rw [scanFrom_token hfront] at hscan
  cases hus : scanFrom (line + text.count '\n') [] rest with
  | error e =>
    rw [hus] at hscan
    cases hscan
  | ok us =>
    rw [hus] at hscan
    cases hscan
    exact ⟨us, rfl, rfl⟩

/-- Blanks are skipped together. -/
theorem scanFrom_blanks {blanks : List Char} (hblanks : ∀ c ∈ blanks, isGapChar c = true)
    (hrest : StopsAt isGapChar rest) :
    scanFrom line gap (blanks ++ rest) = scanFrom line (gap ++ blanks) rest := by
  cases blanks with
  | nil => rw [List.nil_append, List.append_nil]
  | cons c cs => exact scanFrom_skip (front?_gap hblanks hrest)

/-- There are no tokens in nothing. -/
theorem scanFrom_nil : scanFrom line gap [] = .ok [] := by
  rw [scanFrom]
  rfl

/-- A character that no token begins with cannot be read. -/
theorem scanFrom_fails {c : Char} {cs : List Char} (h : front? (c :: cs) = none) :
    scanFrom line gap (c :: cs) = .error ⟨line, .character c⟩ := by
  rw [scanFrom]
  split
  · rename_i heq
    rw [h] at heq
    cases heq
  · rename_i heq
    rw [h] at heq
    cases heq
  · rfl

end

/-- What is read as a token other than a comment is one. -/
theorem lexes_of_mem_scanFrom {line : Nat} {gap source : List Char} {ts : List Token}
    (h : scanFrom line gap source = .ok ts) {t : Token} (ht : t ∈ ts) (hkind : t.kind ≠ .comment) :
    Lexes t.kind t.text := by
  fun_induction scanFrom line gap source generalizing ts with
  | case1 line gap source text rest hfront _ ih => exact ih h ht
  | case2 line gap source kind text rest hfront _ ih =>
    obtain ⟨us, rfl, hus⟩ := exists_of_scanFrom hfront ((scanFrom_token hfront).trans h)
    rcases List.mem_cons.mp ht with rfl | ht
    · exact lexes_of_front? hfront fun hcomment => absurd hcomment hkind
    · exact ih hus ht
  | case3 =>
    cases h
    cases ht
  | case4 => cases h

/-- Tokens that are laid out in a text are the tokens read from it. -/
theorem scanFrom_source {line : Nat} {tail : List Char} {ts : List Token} (h : Laid line tail ts) :
    scanFrom line [] (source ts ++ tail) = .ok ts := by
  induction ts generalizing line with
  | nil =>
    have hend : StopsAt isGapChar [] := fun c hc => by cases hc
    have hblanks : scanFrom line [] (tail ++ []) = _ := scanFrom_blanks h hend
    rw [List.append_nil] at hblanks
    exact hblanks.trans scanFrom_nil
  | cons t ts ih =>
    obtain ⟨hline, hgap, hlex, hstop, hrest⟩ := h
    have hsource : source (t :: ts) ++ tail = t.gap ++ (t.text ++ (source ts ++ tail)) := by
      simp only [source, List.flatMap_cons, List.append_assoc]
    -- the gap is read first, then the token, which ends where the tokens after it begin
    rw [hsource, scanFrom_blanks hgap (stopsAt_gap_of_lexes hlex _),
      scanFrom_token (front?_append hlex hstop), ih hrest, ← hline]
    rfl

/-- The lexer finds the tokens that a text was laid out from. -/
theorem scan_source {tail : List Char} {ts : List Token} (h : Laid 1 tail ts) :
    scan (source ts ++ tail) = .ok ts :=
  scanFrom_source h

/-! ## Words in a row -/

/-- A class of tokens with a text. -/
abbrev Word := TokenKind × String

/-- Words as tokens, with a space before each. -/
def row (line : Nat) : List Word → List Token
  | [] => []
  | (kind, text) :: ws => ⟨kind, [' '], text.toList, line⟩ :: row (line + text.toList.count '\n') ws

/-- The line that comes after some words. -/
def lineAfter (line : Nat) (ws : List Word) : Nat :=
  ws.foldl (fun n w => n + w.2.toList.count '\n') line

/-- The second row begins on the line where the first ends. -/
theorem row_append (line : Nat) (ws vs : List Word) :
    row line (ws ++ vs) = row line ws ++ row (lineAfter line ws) vs := by
  induction ws generalizing line with
  | nil => rfl
  | cons w ws ih =>
    obtain ⟨kind, text⟩ := w
    show _ :: row _ (ws ++ vs) = _
    rw [ih]
    rfl

/-- A row of tokens is laid out, since the spaces keep them apart. -/
theorem laid_row {ws : List Word} (h : ∀ w ∈ ws, Lexes w.1 w.2.toList) (line : Nat) :
    Laid line [] (row line ws) := by
  induction ws generalizing line with
  | nil => exact fun c hc => by cases hc
  | cons w ws ih =>
    obtain ⟨kind, text⟩ := w
    have hrest := ih (fun v hv => h v (List.mem_cons_of_mem _ hv))
    have hgap : ∀ c ∈ [' '], isGapChar c = true := List.forall_mem_singleton.mpr rfl
    refine ⟨rfl, hgap, h _ List.mem_cons_self, ?_, hrest _⟩
    cases ws with
    | nil => exact fun c hc => by cases hc
    | cons v vs =>
      intro c hc
      cases hc
      exact runsOn_space _ _

end CodecGen.Token
