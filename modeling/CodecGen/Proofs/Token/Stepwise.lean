import CodecGen.Proofs.Package.Standing
import CodecGen.Proofs.Tag.Literal
import CodecGen.Proofs.Token.Layout
import CodecGen.Text.Basic

/-!
# Reading text character by character

A machine that goes over text one character at a time and keeps only where in a token it is and how
many brackets of the statement around it are open. It stops at text that it does not know, such as
block comments, raw literals and escapes. Where it goes through a text, the text is tokens that
stand as the machine says (`reads_of_run?`).
-/

namespace CodecGen.Token

/-! ## The machine -/

open Package (Standing)

/-- Where in a token the text is. -/
inductive Place where
  /-- Before a token. -/
  | between
  | word
  | number
  | operator
  /-- In an interpreted string literal. -/
  | quoted
  /-- After the first slash of a line comment. -/
  | slash
  | comment
  /-- After a dot, which no other dot may follow. -/
  | dot
  deriving DecidableEq, Repr, Inhabited

/-- A place in a token, and where the tokens after that one stand. -/
abbrev Point := Place × Standing

/-- Where the text is after the first character of a token. A word between statements does not begin
like the one that declares types. -/
def begin? (s : Standing) (c : Char) : Option Point :=
  if isGapChar c then some (.between, s)
  else if isIdentStart c then
    if s.depth = none ∧ c = 't' then none else (s.after? .ident).map (.word, ·)
  else if c.isDigit then (s.after? .number).map (.number, ·)
  else if c = '/' then some (.slash, s)
  else if isOperatorChar c then (s.after? .operator).map (.operator, ·)
  else if c = '"' then (s.after? .string).map (.quoted, ·)
  else
    match punctuation? c with
    | some kind => (s.after? kind).map (if kind = .dot then .dot else .between, ·)
    | none => none

/-- Where the text is after one more character. -/
def step? : Point → Char → Option Point
  | (.between, s), c => begin? s c
  | (.word, s), c => if isIdentPart c then some (.word, s) else begin? s c
  | (.number, s), c => if isNumberPart c then some (.number, s) else begin? s c
  | (.operator, s), c => if isOperatorChar c then some (.operator, s) else begin? s c
  | (.quoted, s), c =>
    if c = '"' then some (.between, s)
    else if c = '\\' ∨ c = '\n' then none
    else some (.quoted, s)
  | (.slash, s), c => if c = '/' then some (.comment, s) else none
  | (.comment, s), c => if c ≠ '\n' then some (.comment, s) else begin? s c
  | (.dot, s), c => if c = '.' then none else begin? s c

/-- Where the text is after some characters. -/
def run? (point : Point) (cs : List Char) : Option Point :=
  cs.foldlM step? point

@[simp] theorem run?_nil (point : Point) : run? point [] = some point :=
  rfl

/-- The first character takes the machine to the place where it goes on with the others. -/
theorem run?_cons (point : Point) (c : Char) (cs : List Char) :
    run? point (c :: cs) = (step? point c).bind fun p => run? p cs :=
  List.foldlM_cons

/-- Reading two texts one after another is reading them as one. -/
theorem run?_append (point : Point) (cs ds : List Char) :
    run? point (cs ++ ds) = (run? point cs).bind fun p => run? p ds :=
  List.foldlM_append

/-- The same for the texts of strings, from the places that are known for each. -/
theorem run?_concat {point middle point' : Point} {s t : String}
    (hs : run? point s.toList = some middle) (ht : run? middle t.toList = some point') :
    run? point (s ++ t).toList = some point' := by
  rw [String.toList_append, run?_append, hs]
  exact ht

/-- A point with some more statements before it. -/
def later (n : Nat) (point : Point) : Point :=
  (point.1, point.2.later n)

/-- Statements before do not change what a first character means. -/
theorem begin?_later (n : Nat) (s : Standing) (c : Char) :
    begin? (s.later n) c = (begin? s c).map (later n) := by
  have hdepth : (s.later n).depth = s.depth := rfl
  have hafter : ∀ (kind : TokenKind) (place : Place),
      ((s.later n).after? kind).map (place, ·) =
        ((s.after? kind).map (place, ·)).map (later n) := by
    intro kind place
    rw [Standing.after?_later, Option.map_map, Option.map_map]
    rfl
  unfold begin?
  rw [hdepth]
  simp only [hafter]
  split_ifs <;> try rfl
  cases punctuation? c <;> rfl

/-- Statements before do not change what one more character means. -/
theorem step?_later (n : Nat) (point : Point) (c : Char) :
    step? (later n point) c = (step? point c).map (later n) := by
  obtain ⟨place, s⟩ := point
  cases place <;> simp only [later, step?] <;> try split_ifs
  all_goals first | rfl | exact begin?_later n s c

/-- What stands before does not matter. -/
theorem run?_later {point point' : Point} {cs : List Char} (h : run? point cs = some point')
    (n : Nat) : run? (later n point) cs = some (later n point') := by
  induction cs generalizing point with
  | nil =>
    cases h
    rfl
  | cons c cs ih =>
    rw [run?_cons] at h ⊢
    obtain ⟨middle, hmiddle, hrest⟩ := Option.bind_eq_some_iff.mp h
    rw [step?_later, hmiddle]
    exact ih hrest

/-! ## What the machine goes through -/

section

variable {standing standing' : Standing}

/-- Characters of a class at whose place they leave the machine are passed over together. -/
theorem run?_dropWhile {place : Place} {p : Char → Bool}
    (hstep : ∀ c, step? (place, standing) c =
      if p c = true then some (place, standing) else begin? standing c)
    {cs : List Char} (h : run? (place, standing) cs = some (.between, standing')) :
    run? (.between, standing) (cs.dropWhile p) = some (.between, standing') := by
  induction cs with
  | nil =>
    cases h
    rfl
  | cons c cs ih =>
    rw [run?_cons, hstep] at h
    by_cases hc : p c = true
    · rw [if_pos hc] at h
      rw [List.dropWhile_cons_of_pos hc]
      exact ih h
    · rw [if_neg hc] at h
      rw [List.dropWhile_cons_of_neg hc, run?_cons]
      exact h

/-- A string literal is gone through to its closing quote. -/
theorem exists_quotedBody_of_run? {cs : List Char}
    (h : run? (.quoted, standing) cs = some (.between, standing')) :
    ∃ body rest, cs = body ++ rest ∧ QuotedBody '"' body ∧
      run? (.between, standing) rest = some (.between, standing') := by
  induction cs with
  | nil => cases h
  | cons c cs ih =>
    simp only [run?_cons, step?] at h
    by_cases hquote : c = '"'
    · rw [if_pos hquote] at h
      exact ⟨[c], cs, rfl, hquote ▸ .close, h⟩
    · rw [if_neg hquote] at h
      by_cases hstop : c = '\\' ∨ c = '\n'
      · rw [if_pos hstop] at h
        cases h
      · rw [if_neg hstop] at h
        obtain ⟨hslash, hline⟩ := not_or.mp hstop
        obtain ⟨body, rest, rfl, hbody, hrest⟩ := ih h
        exact ⟨c :: body, rest, rfl, .char hquote hline hslash hbody, hrest⟩

/-- A word stands wherever an identifier does, unless it declares types. -/
theorem after?_wordKind {c : Char} {cs : List Char} (h : ¬(standing.depth = none ∧ c = 't')) :
    standing.after? (wordKind (c :: cs)) = standing.after? .ident := by
  obtain ⟨begun, depth⟩ := standing
  unfold wordKind
  cases hword : Keyword.ofText? (String.ofList (c :: cs)) with
  | none => rfl
  | some word =>
    cases depth with
    | some depth => rfl
    | none =>
      have hne : word ≠ .typeDecl := by
        rintro rfl
        have htype : String.ofList (c :: cs) = "type" := by
          unfold Keyword.ofText? at hword
          split at hword <;> cases hword
          assumption
        have hlist : c :: cs = "type".toList := by rw [← htype, String.toList_ofList]
        cases hlist
        exact h ⟨rfl, rfl⟩
      simp [Standing.after?, TokenKind.isSeparator, TokenKind.closes, TokenKind.opens, hne]

/-- All operators lead to the same standing. -/
theorem after?_operatorKind (standing : Standing) (cs : List Char) :
    standing.after? (operatorKind cs) = standing.after? .operator := by
  obtain ⟨begun, depth⟩ := standing
  unfold operatorKind
  split
  · cases depth <;> rfl
  split
  · cases depth <;> rfl
  · rfl

/-- The marks other than a dot end with their only character. -/
theorem runsOn_of_punctuation? {c d : Char} {kind : TokenKind} (h : punctuation? c = some kind)
    (hdot : kind ≠ .dot) : runsOn kind [c] d = false := by
  unfold punctuation? at h
  split at h <;> cases h <;> first | rfl | exact absurd rfl hdot

end

/-! ## Texts that the machine knows -/

/-- What an identifier looks like, keywords included. -/
def isWord : List Char → Bool
  | [] => false
  | c :: cs => isIdentStart c && cs.all isIdentPart

/-- Words with a dot between any two. -/
def isDotted (cs : List Char) : Bool :=
  (Text.split '.' cs).all isWord

/-- A word is a character that begins one, and then characters of words. -/
theorem isWord_cons (c : Char) (cs : List Char) :
    isWord (c :: cs) = (isIdentStart c && cs.all isIdentPart) :=
  rfl

/-- An identifier is a word. -/
theorem isWord_of_lexes {kind : TokenKind} {cs : List Char} (h : Lexes kind cs)
    (hkind : kind = .ident) : isWord cs = true := by
  cases h with
  | word hc hcs =>
    rw [isWord_cons, hc, Bool.true_and, List.all_eq_true]
    exact hcs
  | operator hc hcs hopen =>
    unfold operatorKind at hkind
    split_ifs at hkind
  | mark h =>
    unfold punctuation? at h
    split at h <;> cases h <;> cases hkind
  | _ => cases hkind

/-- A word between statements might declare types, and elsewhere it stands where it did. -/
theorem after?_of_depth {s : Standing} {kind : TokenKind} (hdepth : s.depth ≠ none)
    (hopens : kind.opens = false) (hcloses : kind.closes = false)
    (hseparator : kind.isSeparator = false) : s.after? kind = some s := by
  obtain ⟨begun, depth⟩ := s
  cases depth with
  | none => exact absurd rfl hdepth
  | some depth => simp [Standing.after?, hopens, hcloses, hseparator]

/-- Characters at which the machine stays where it is. -/
theorem run?_of_all {point : Point} {p : Char → Bool}
    (hstep : ∀ c, p c = true → step? point c = some point) {cs : List Char}
    (hcs : cs.all p = true) : run? point cs = some point := by
  induction cs with
  | nil => rfl
  | cons c cs ih =>
    rw [List.all_cons, Bool.and_eq_true] at hcs
    rw [run?_cons, hstep c hcs.1]
    exact ih hcs.2

section

variable {place : Place} {s : Standing} {cs : List Char}

/-- A word may begin here. -/
def Place.beforeWord : Place → Bool
  | .between | .operator | .dot => true
  | _ => false

/-- A word goes on as long as there are characters of words. -/
theorem run?_wordParts (hcs : cs.all isIdentPart = true) :
    run? (.word, s) cs = some (.word, s) :=
  run?_of_all (p := isIdentPart) (fun c hc => by rw [step?, if_pos hc]) hcs

/-- A word is read where one may begin. -/
theorem run?_word (hplace : place.beforeWord = true) (hdepth : s.depth ≠ none)
    (hcs : isWord cs = true) : run? (place, s) cs = some (.word, s) := by
  cases cs with
  | nil => cases hcs
  | cons c cs =>
    rw [isWord_cons, Bool.and_eq_true] at hcs
    obtain ⟨hc, hcs⟩ := hcs
    have hgap := isGapChar_eq_false hc (by decide)
    have hoperator : isOperatorChar c = false := by
      rw [← Bool.not_eq_true]
      intro hop
      rw [(class_of_isOperatorChar hop).1] at hc
      cases hc
    have hdot : c ≠ '.' := ne_of_class hc (by decide)
    have hbegin : begin? s c = some (.word, s) := by
      unfold begin?
      rw [if_neg (by simp [hgap]), if_pos hc, if_neg fun hnot => hdepth hnot.1,
        after?_of_depth hdepth rfl rfl rfl]
      rfl
    have hstep : step? (place, s) c = some (.word, s) := by
      cases place <;> simp [Place.beforeWord, step?, hoperator, hdot, hbegin] at hplace ⊢
    rw [run?_cons, hstep]
    exact run?_wordParts hcs

/-- A dot after a word is read as a dot. -/
theorem run?_dot (hdepth : s.depth ≠ none) : run? (.word, s) ['.'] = some (.dot, s) := by
  have hstep : step? (.word, s) '.' = (s.after? .dot).map (.dot, ·) := rfl
  rw [run?_cons, hstep, after?_of_depth hdepth rfl rfl rfl]
  rfl

/-- Words with dots between them are read to the end of the last one. -/
theorem run?_join {pieces : List (List Char)} (hplace : place.beforeWord = true)
    (hdepth : s.depth ≠ none) (hpieces : ∀ piece ∈ pieces, isWord piece = true)
    (hne : pieces ≠ []) : run? (place, s) (Text.join '.' pieces) = some (.word, s) := by
  induction pieces generalizing place with
  | nil => exact absurd rfl hne
  | cons piece pieces ih =>
    have hfirst := run?_word hplace hdepth (hpieces piece List.mem_cons_self)
    cases pieces with
    | nil => exact hfirst
    | cons next pieces =>
      have hrest : run? (.dot, s) (Text.join '.' (next :: pieces)) = some (.word, s) :=
        ih rfl (fun other hother => hpieces other (List.mem_cons_of_mem _ hother))
          (List.cons_ne_nil _ _)
      show run? (place, s) (piece ++ (['.'] ++ Text.join '.' (next :: pieces))) = _
      rw [run?_append, hfirst, Option.bind_some, run?_append, run?_dot hdepth]
      exact hrest

/-- A dotted text is read like its words with dots between them. -/
theorem run?_dotted (hplace : place.beforeWord = true) (hdepth : s.depth ≠ none)
    (hcs : isDotted cs = true) : run? (place, s) cs = some (.word, s) := by
  have hrun := run?_join hplace hdepth (List.all_eq_true.mp hcs) (Text.split_ne_nil '.' cs)
  rwa [Text.join_split] at hrun

/-- Plain characters do not end a literal. -/
theorem run?_quoted (hcs : cs.all Tag.isPlainChar = true) :
    run? (.quoted, s) cs = some (.quoted, s) := by
  refine run?_of_all (fun c hc => ?_) hcs
  simp only [Tag.isPlainChar, Bool.and_eq_true, decide_eq_true_eq] at hc
  obtain ⟨⟨hquote, hslash⟩, hline⟩ := hc
  simp [step?, hquote, hslash, hline]

/-- A number in digits is read as one. -/
theorem run?_number (hdepth : s.depth ≠ none) (n : Nat) :
    run? (.between, s) (toString n).toList = some (.number, s) := by
  have hdigits : ∀ c ∈ Nat.toDigits 10 n, c.isDigit = true := fun c hc =>
    Nat.isDigit_of_mem_toDigits (by decide) le_rfl hc
  rw [Nat.toString_eq_ofList_toDigits, String.toList_ofList]
  cases hcs : Nat.toDigits 10 n with
  | nil => exact absurd hcs Nat.toDigits_ne_nil
  | cons c cs =>
    rw [hcs] at hdigits
    have hc := hdigits c List.mem_cons_self
    have hgap := isGapChar_eq_false hc (by decide)
    have hstep : step? (.between, s) c = some (.number, s) := by
      show begin? s c = _
      unfold begin?
      rw [if_neg (by simp [hgap]), if_neg (by simp [isIdentStart_of_isDigit hc]), if_pos hc,
        after?_of_depth hdepth rfl rfl rfl]
      rfl
    rw [run?_cons, hstep]
    refine run?_of_all (p := isNumberPart) (fun d hd => by rw [step?, if_pos hd])
      (List.all_eq_true.mpr ?_)
    intro d hd
    have hdigit := hdigits d (List.mem_cons_of_mem _ hd)
    simp [isNumberPart, Char.isAlphanum, hdigit]

end

/-! ## What is read of it -/

/-- The text is tokens that lead from one standing to the other. -/
def Reads (standing : Standing) (cs : List Char) (standing' : Standing) : Prop :=
  ∀ line gap, ∃ ts, scanFrom line gap cs = .ok ts ∧ standing.afterAll? ts = some standing'

/-- Nothing leads from a standing to itself. -/
theorem reads_nil (standing : Standing) : Reads standing [] standing :=
  fun _ _ => ⟨[], scanFrom_nil, rfl⟩

/-- A skipped piece does not change the standing. -/
theorem reads_skip {standing standing' : Standing} {source text rest : List Char}
    (hfront : front? source = some (none, text, rest)) (hrest : Reads standing rest standing') :
    Reads standing source standing' := by
  intro line gap
  rw [scanFrom_skip hfront]
  exact hrest line _

/-- A token leads to the standing from which the rest is read. -/
theorem reads_token {standing middle standing' : Standing} {source text rest : List Char}
    {kind : TokenKind} (hfront : front? source = some (some kind, text, rest))
    (hafter : standing.after? kind = some middle) (hrest : Reads middle rest standing') :
    Reads standing source standing' := by
  intro line gap
  obtain ⟨ts, hscan, hpasses⟩ := hrest (line + text.count '\n') []
  refine ⟨⟨kind, gap, text, line⟩ :: ts, ?_, ?_⟩
  · rw [scanFrom_token hfront, hscan]
    rfl
  · rw [Standing.afterAll?_cons, hafter]
    exact hpasses

section

variable {standing standing' : Standing} {c : Char} {cs : List Char}
  (ih : ∀ {middle : Standing} {rest : List Char}, rest.length ≤ cs.length →
    run? (.between, middle) rest = some (.between, standing') → Reads middle rest standing')

include ih

/-- A text that begins with a blank is read as the machine goes through it. -/
theorem reads_gap (hc : isGapChar c = true)
    (h : run? (.between, standing) cs = some (.between, standing')) :
    Reads standing (c :: cs) standing' := by
  have hgap : ∀ d ∈ c :: cs.takeWhile isGapChar, isGapChar d = true :=
    List.forall_mem_cons.mpr ⟨hc, fun d hd => List.mem_takeWhile_imp hd⟩
  have hfront := front?_gap hgap (stopsAt_dropWhile isGapChar cs)
  rw [List.takeWhile_append_dropWhile] at hfront
  have hrun : run? (.between, standing) (cs.dropWhile isGapChar) = some (.between, standing') := by
    refine run?_dropWhile (fun d => ?_) h
    -- between two tokens the machine knows blanks by itself
    simp only [step?, begin?]
    split <;> rfl
  exact reads_skip hfront (ih (List.length_dropWhile_le _ cs) hrun)

/-- So is one that begins with a word, from the standing after an identifier. -/
theorem reads_word (hc : isIdentStart c = true) (hnot : ¬(standing.depth = none ∧ c = 't'))
    {middle : Standing} (hafter : standing.after? .ident = some middle)
    (h : run? (.word, middle) cs = some (.between, standing')) :
    Reads standing (c :: cs) standing' := by
  have hparts : ∀ d ∈ cs.takeWhile isIdentPart, isIdentPart d = true :=
    fun d hd => List.mem_takeWhile_imp hd
  have hfront := front?_word hc hparts (stopsAt_dropWhile isIdentPart cs)
  rw [List.takeWhile_append_dropWhile] at hfront
  have hrun := run?_dropWhile (fun d => rfl) h
  exact reads_token hfront ((after?_wordKind hnot).trans hafter)
    (ih (List.length_dropWhile_le _ cs) hrun)

/-- So is one that begins with a number. -/
theorem reads_number (hc : c.isDigit = true) {middle : Standing}
    (hafter : standing.after? .number = some middle)
    (h : run? (.number, middle) cs = some (.between, standing')) :
    Reads standing (c :: cs) standing' := by
  have hparts : ∀ d ∈ cs.takeWhile isNumberPart, isNumberPart d = true :=
    fun d hd => List.mem_takeWhile_imp hd
  have hfront := front?_number hc hparts (stopsAt_dropWhile isNumberPart cs)
  rw [List.takeWhile_append_dropWhile] at hfront
  have hrun := run?_dropWhile (fun d => rfl) h
  exact reads_token hfront hafter (ih (List.length_dropWhile_le _ cs) hrun)

/-- So is one that begins with an operator other than a slash. -/
theorem reads_operator (hc : isOperatorChar c = true) (hslash : c ≠ '/') {middle : Standing}
    (hafter : standing.after? .operator = some middle)
    (h : run? (.operator, middle) cs = some (.between, standing')) :
    Reads standing (c :: cs) standing' := by
  have hstop : StopsAt (fun d => isOperatorChar d ||
      ((c :: cs.takeWhile isOperatorChar) == ['/'] && d == '*')) (cs.dropWhile isOperatorChar) := by
    intro d hd
    have hd := stopsAt_dropWhile isOperatorChar cs d hd
    simp [hd, hslash]
  have hparts : ∀ d ∈ cs.takeWhile isOperatorChar, isOperatorChar d = true :=
    fun d hd => List.mem_takeWhile_imp hd
  have hfront := front?_operator hc hparts (fun heq => absurd heq hslash) hstop
  rw [List.takeWhile_append_dropWhile] at hfront
  have hrun := run?_dropWhile (fun d => rfl) h
  exact reads_token hfront ((after?_operatorKind _ _).trans hafter)
    (ih (List.length_dropWhile_le _ cs) hrun)

/-- So is one that begins with a slash, if the machine goes through it as a comment. -/
theorem reads_lineComment (h : run? (.slash, standing) cs = some (.between, standing')) :
    Reads standing ('/' :: cs) standing' := by
  cases cs with
  | nil => cases h
  | cons d ds =>
    simp only [run?_cons, step?] at h
    by_cases hd : d = '/'
    · rw [if_pos hd] at h
      subst hd
      have hfront : front? ('/' :: '/' :: ds) = some (none, '/' :: ('/' :: ds).takeWhile (· ≠ '\n'),
          ('/' :: ds).dropWhile (· ≠ '\n')) := rfl
      have hrun := run?_dropWhile (p := fun c => c ≠ '\n') (fun d => by simp [step?]) h
      exact reads_skip hfront (ih (List.length_dropWhile_le _ _) hrun)
    · rw [if_neg hd] at h
      cases h

/-- So is one that begins with a literal, from the standing after one. -/
theorem reads_string {middle : Standing} (hafter : standing.after? .string = some middle)
    (h : run? (.quoted, middle) cs = some (.between, standing')) :
    Reads standing ('"' :: cs) standing' := by
  obtain ⟨body, rest, rfl, hbody, hrun⟩ := exists_quotedBody_of_run? h
  have hends : StopsAt (runsOn .string ('"' :: body)) rest := fun d _ => rfl
  have hfront := front?_append (.string hbody) hends
  refine reads_token hfront hafter (ih ?_ hrun)
  rw [List.length_append]
  exact Nat.le_add_left _ _

/-- So is one that begins with a mark, which is a place of its own if it is a dot. -/
theorem reads_mark {kind : TokenKind} (hc : punctuation? c = some kind) {middle : Standing}
    (hafter : standing.after? kind = some middle)
    (h : run? (if kind = .dot then .dot else .between, middle) cs = some (.between, standing')) :
    Reads standing (c :: cs) standing' := by
  have hboth : StopsAt (runsOn kind [c]) cs ∧
      run? (.between, middle) cs = some (.between, standing') := by
    by_cases hdot : kind = .dot
    · subst hdot
      cases cs with
      | nil => cases h
      | cons d ds =>
        simp only [if_true, run?_cons, step?] at h
        by_cases hd : d = '.'
        · rw [if_pos hd] at h
          cases h
        · rw [if_neg hd] at h
          refine ⟨?_, h⟩
          intro e he
          cases he
          exact beq_false_of_ne hd
    · rw [if_neg hdot] at h
      exact ⟨fun d _ => runsOn_of_punctuation? hc hdot, h⟩
  exact reads_token (front?_mark hc hboth.1) hafter (ih le_rfl hboth.2)

end

/-- A step that succeeds goes through a standing that is there. -/
theorem exists_after {after : Option Standing} {place : Standing → Point}
    {next : Point → Option Point} {point : Point} (h : (after.map place).bind next = some point) :
    ∃ middle, after = some middle ∧ next (place middle) = some point := by
  rw [Option.bind_map] at h
  exact Option.bind_eq_some_iff.mp h

/-- What the machine goes through from between two tokens to between two tokens is tokens, and they
stand as the machine says. -/
theorem reads_of_run? {standing standing' : Standing} {cs : List Char}
    (h : run? (.between, standing) cs = some (.between, standing')) :
    Reads standing cs standing' := by
  -- a token takes more than its first character, so the induction is on how much text is left
  induction hlength : cs.length using Nat.strong_induction_on generalizing cs standing with
  | _ length ih =>
  cases cs with
  | nil =>
    cases h
    exact reads_nil _
  | cons c cs =>
    have hleft : ∀ {middle : Standing} {rest : List Char}, rest.length ≤ cs.length →
        run? (.between, middle) rest = some (.between, standing') →
          Reads middle rest standing' := by
      intro middle rest hle hrun
      rw [List.length_cons] at hlength
      exact ih rest.length (by omega) hrun rfl
    simp only [run?_cons, step?] at h
    unfold begin? at h
    by_cases hgap : isGapChar c = true
    · rw [if_pos hgap] at h
      exact reads_gap hleft hgap h
    rw [if_neg hgap] at h
    by_cases hword : isIdentStart c = true
    · rw [if_pos hword] at h
      by_cases htype : standing.depth = none ∧ c = 't'
      · rw [if_pos htype] at h
        cases h
      rw [if_neg htype] at h
      obtain ⟨middle, hafter, hrun⟩ := exists_after h
      exact reads_word hleft hword htype hafter hrun
    rw [if_neg hword] at h
    by_cases hnumber : c.isDigit = true
    · rw [if_pos hnumber] at h
      obtain ⟨middle, hafter, hrun⟩ := exists_after h
      exact reads_number hleft hnumber hafter hrun
    rw [if_neg hnumber] at h
    by_cases hslash : c = '/'
    · rw [if_pos hslash] at h
      subst hslash
      exact reads_lineComment hleft h
    rw [if_neg hslash] at h
    by_cases hoperator : isOperatorChar c = true
    · rw [if_pos hoperator] at h
      obtain ⟨middle, hafter, hrun⟩ := exists_after h
      exact reads_operator hleft hoperator hslash hafter hrun
    rw [if_neg hoperator] at h
    by_cases hquote : c = '"'
    · rw [if_pos hquote] at h
      subst hquote
      obtain ⟨middle, hafter, hrun⟩ := exists_after h
      exact reads_string hleft hafter hrun
    rw [if_neg hquote] at h
    cases hmark : punctuation? c with
    | none =>
      rw [hmark] at h
      cases h
    | some kind =>
      rw [hmark] at h
      obtain ⟨middle, hafter, hrun⟩ := exists_after h
      exact reads_mark hleft hmark hafter hrun

end CodecGen.Token
