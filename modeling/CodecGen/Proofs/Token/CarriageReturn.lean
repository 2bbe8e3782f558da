import CodecGen.Proofs.Token.Respelling
import CodecGen.Text.Basic

/-!
# Line ends with a carriage return

A carriage return before the end of a line is a blank, or belongs to the comment or the literal that
spans the line. So a source is read as the same tokens when carriage returns are added, on the same
lines and with the same texts (`scanFrom_addsReturns`); only a comment over several lines and a raw
string over several lines have more text than before, and the gap before the end of a line.
-/

namespace CodecGen

/-! ## Added carriage returns -/

namespace Text

/-- A text with a carriage return before every line end that has none before it. -/
def withReturns : List Char → List Char
  | [] => []
  | '\r' :: '\n' :: cs => '\r' :: '\n' :: withReturns cs
  | '\n' :: cs => '\r' :: '\n' :: withReturns cs
  | c :: cs => c :: withReturns cs

/-- The second text is the first one with a carriage return added before some line ends. -/
inductive AddsReturns : List Char → List Char → Prop
  | nil : AddsReturns [] []
  | same {c : Char} {cs cs' : List Char} (h : AddsReturns cs cs') : AddsReturns (c :: cs) (c :: cs')
  | added {cs cs' : List Char} (h : AddsReturns cs cs') :
      AddsReturns ('\n' :: cs) ('\r' :: '\n' :: cs')

section

variable {cs cs' ds ds' : List Char}

/-- No carriage return need be added. -/
theorem AddsReturns.refl (cs : List Char) : AddsReturns cs cs := by
  induction cs with
  | nil => exact .nil
  | cons c cs ih => exact .same ih

/-- Adding one wherever there is none adds some. -/
theorem addsReturns_withReturns (cs : List Char) : AddsReturns cs (withReturns cs) := by
  fun_induction withReturns cs with
  | case1 => exact .nil
  | case2 cs ih => exact .same (.same ih)
  | case3 cs ih => exact .added ih
  | case4 c cs _ _ ih => exact .same ih

/-- Texts one after another may have returns added to each. -/
theorem AddsReturns.append (h : AddsReturns cs cs') (h' : AddsReturns ds ds') :
    AddsReturns (cs ++ ds) (cs' ++ ds') := by
  induction h with
  | nil => exact h'
  | same _ ih => exact .same ih
  | added _ ih => exact .added ih

/-- Each part of a text has returns added. -/
theorem AddsReturns.exists_append {whole : List Char} (h : AddsReturns (cs ++ ds) whole) :
    ∃ cs' ds', whole = cs' ++ ds' ∧ AddsReturns cs cs' ∧ AddsReturns ds ds' := by
  induction cs generalizing whole with
  | nil => exact ⟨[], whole, rfl, .nil, h⟩
  | cons c cs ih =>
    cases h with
    | same h =>
      obtain ⟨cs', ds', rfl, hcs, hds⟩ := ih h
      exact ⟨_, ds', rfl, .same hcs, hds⟩
    | added h =>
      obtain ⟨cs', ds', rfl, hcs, hds⟩ := ih h
      exact ⟨_, ds', rfl, .added hcs, hds⟩

/-- Nothing is added to a text on one line. -/
theorem AddsReturns.eq_of_notMem (h : AddsReturns cs cs') (hline : '\n' ∉ cs) : cs = cs' := by
  induction h with
  | nil => rfl
  | same _ ih => rw [ih fun hmem => hline (List.mem_cons_of_mem _ hmem)]
  | added => exact absurd List.mem_cons_self hline

/-- No line end is added or taken away. -/
theorem AddsReturns.count_newline_eq (h : AddsReturns cs cs') :
    cs.count '\n' = cs'.count '\n' := by
  induction h with
  | nil => rfl
  | same _ ih => rw [List.count_cons, List.count_cons, ih]
  | added _ ih =>
    rw [List.count_cons_of_ne (by decide : '\r' ≠ '\n'), List.count_cons_self,
      List.count_cons_self, ih]

/-- Neither text has a line end that the other has not. -/
theorem AddsReturns.newline_mem_iff (h : AddsReturns cs cs') : '\n' ∈ cs ↔ '\n' ∈ cs' := by
  rw [← List.count_pos_iff, ← List.count_pos_iff, h.count_newline_eq]

/-! ## Blanks at the ends -/

/-- An added return is blank, so that a text of blanks stays one. -/
theorem AddsReturns.isBlank (h : AddsReturns cs cs') (hblank : ∀ c ∈ cs, isBlank c = true) :
    ∀ c ∈ cs', Text.isBlank c = true := by
  induction h with
  | nil => exact hblank
  | same _ ih =>
    obtain ⟨hc, hcs⟩ := List.forall_mem_cons.mp hblank
    exact List.forall_mem_cons.mpr ⟨hc, ih hcs⟩
  | added _ ih =>
    obtain ⟨hc, hcs⟩ := List.forall_mem_cons.mp hblank
    exact List.forall_mem_cons.mpr ⟨by decide, List.forall_mem_cons.mpr ⟨hc, ih hcs⟩⟩

/-- A text with blanks around it that has none at its own ends is what `trim` leaves. -/
theorem trim_around {pre mid post : List Char} (hpre : ∀ c ∈ pre, Text.isBlank c = true)
    (hpost : ∀ c ∈ post, Text.isBlank c = true) (hstart : Token.StopsAt Text.isBlank mid)
    (hend : Token.StopsAt Text.isBlank mid.reverse) : trim (pre ++ (mid ++ post)) = mid := by
  unfold trim
  rw [List.dropWhile_append_of_pos hpre]
  cases mid with
  | nil => rw [List.nil_append, List.dropWhile_eq_nil_iff.mpr hpost]; rfl
  | cons c cs =>
    have hwhole : Token.StopsAt Text.isBlank (c :: cs ++ post) := hstart
    have hpost' : ∀ d ∈ post.reverse, Text.isBlank d = true :=
      fun d hd => hpost d (List.mem_reverse.mp hd)
    rw [(Token.takeWhile_stopsAt hwhole).2, List.reverse_append,
      List.dropWhile_append_of_pos hpost', (Token.takeWhile_stopsAt hend).2, List.reverse_reverse]

/-- Only blanks are around what `trim` leaves, and none are at its ends. -/
theorem exists_around_trim (cs : List Char) : ∃ pre post, cs = pre ++ (trim cs ++ post) ∧
    (∀ c ∈ pre, Text.isBlank c = true) ∧ (∀ c ∈ post, Text.isBlank c = true) ∧
    Token.StopsAt Text.isBlank (trim cs) ∧ Token.StopsAt Text.isBlank (trim cs).reverse := by
  have hrest : cs.dropWhile Text.isBlank =
      trim cs ++ ((cs.dropWhile Text.isBlank).reverse.takeWhile Text.isBlank).reverse := by
    unfold trim
    rw [← List.reverse_append, List.takeWhile_append_dropWhile, List.reverse_reverse]
  refine ⟨cs.takeWhile Text.isBlank,
    ((cs.dropWhile Text.isBlank).reverse.takeWhile Text.isBlank).reverse, ?_,
    fun c hc => List.mem_takeWhile_imp hc,
    fun c hc => List.mem_takeWhile_imp (List.mem_reverse.mp hc), ?_, ?_⟩
  · rw [← hrest, List.takeWhile_append_dropWhile]
  · intro c hc
    refine Token.stopsAt_dropWhile Text.isBlank cs c ?_
    rw [hrest, List.head?_append, hc]
    rfl
  · unfold trim
    rw [List.reverse_reverse]
    exact Token.stopsAt_dropWhile _ _

/-- Returns added to the blanks around a text on one line are blanks around it. -/
theorem AddsReturns.trim_eq (h : AddsReturns cs cs') (hline : '\n' ∉ trim cs) :
    trim cs = trim cs' := by
  obtain ⟨pre, post, hcs, hpre, hpost, hstart, hend⟩ := exists_around_trim cs
  rw [hcs] at h
  obtain ⟨pre', rest', rfl, hpre', hrest'⟩ := h.exists_append
  obtain ⟨mid', post', rfl, hmid', hpost'⟩ := hrest'.exists_append
  rw [← hmid'.eq_of_notMem hline,
    trim_around (hpre'.isBlank hpre) (hpost'.isBlank hpost) hstart hend]

end

end Text

namespace Token

open Text (AddsReturns)

/-! ## Pieces of a text with returns -/

section

variable {c : Char} {cs cs' source source' : List Char}

/-- What is read at the front of a text and of the same text with returns is alike: nothing, pieces
of one class, or blanks and comments that the end of a line follows. -/
inductive PieceAlike : Option Piece → Option Piece → Prop
  | none : PieceAlike none none
  /-- Only comments and raw strings have ends of lines inside. -/
  | piece {kind : Option TokenKind} {text text' rest rest' : List Char}
      (htext : AddsReturns text text')
      (hsame : kind ≠ some .comment → kind ≠ some .rawString → text = text')
      (hrest : AddsReturns rest rest') :
      PieceAlike (some (kind, text, rest)) (some (kind, text', rest'))
  /-- The return before the end of the line belongs to what is skipped. -/
  | skipped {text rest rest' : List Char} (hrest : AddsReturns rest rest') :
      PieceAlike (some (none, text, '\n' :: rest)) (some (none, text ++ ['\r'], '\n' :: rest'))

/-- The same piece with alike text after it is alike. -/
theorem PieceAlike.of_same {kind : Option TokenKind} {text rest rest' : List Char}
    (hrest : AddsReturns rest rest') :
    PieceAlike (some (kind, text, rest)) (some (kind, text, rest')) :=
  .piece (.refl text) (fun _ _ => rfl) hrest

/-- A run that ends with the line stays the same, but for a return that it takes in. -/
theorem takeWhile_addsReturns {p : Char → Bool} (hline : p '\n' = false)
    (h : AddsReturns cs cs') :
    cs'.takeWhile p = cs.takeWhile p ∧ AddsReturns (cs.dropWhile p) (cs'.dropWhile p) ∨
      p '\r' = true ∧ cs'.takeWhile p = cs.takeWhile p ++ ['\r'] ∧ ∃ rest rest',
        cs.dropWhile p = '\n' :: rest ∧ cs'.dropWhile p = '\n' :: rest' ∧
          AddsReturns rest rest' := by
  induction h with
  | nil => exact .inl ⟨rfl, .nil⟩
  | @same c cs cs' h ih =>
    by_cases hc : p c = true
    · rw [List.takeWhile_cons_of_pos hc, List.takeWhile_cons_of_pos hc,
        List.dropWhile_cons_of_pos hc, List.dropWhile_cons_of_pos hc]
      refine ih.imp ?_ ?_
      · rintro ⟨htake, hdrop⟩
        exact ⟨by rw [htake], hdrop⟩
      · rintro ⟨hreturn, htake, hdrop⟩
        exact ⟨hreturn, by rw [htake, List.cons_append], hdrop⟩
    · rw [List.takeWhile_cons_of_neg hc, List.takeWhile_cons_of_neg hc,
        List.dropWhile_cons_of_neg hc, List.dropWhile_cons_of_neg hc]
      exact .inl ⟨rfl, .same h⟩
  | @added cs cs' h =>
    have hstop : StopsAt p ('\n' :: cs) := fun d hd => Option.some.inj hd ▸ hline
    have hstop' : StopsAt p ('\n' :: cs') := fun d hd => Option.some.inj hd ▸ hline
    obtain ⟨htake, hdrop⟩ := takeWhile_stopsAt hstop
    obtain ⟨htake', hdrop'⟩ := takeWhile_stopsAt hstop'
    -- the run stops at the line end anyway, with the return or without it
    by_cases hreturn : p '\r' = true
    · rw [List.takeWhile_cons_of_pos hreturn, List.dropWhile_cons_of_pos hreturn, htake, htake']
      exact .inr ⟨hreturn, rfl, cs, cs', hdrop, hdrop', h⟩
    · rw [List.takeWhile_cons_of_neg hreturn, List.dropWhile_cons_of_neg hreturn, htake, hdrop]
      exact .inl ⟨rfl, .added h⟩

/-- A run of a class that returns belong to is skipped. -/
theorem runOf_addsReturns {p : Char → Bool} {kindOf : List Char → Option TokenKind}
    (hline : p '\n' = false) (hreturn : p '\r' = true → ∀ run, kindOf run = none)
    (h : AddsReturns cs cs') :
    PieceAlike (some (runOf p kindOf c cs)) (some (runOf p kindOf c cs')) := by
  unfold runOf
  obtain ⟨htake, hdrop⟩ | ⟨hp, htake, rest, rest', hrest, hrest', hlater⟩ :=
    takeWhile_addsReturns hline h
  · rw [htake]
    exact .of_same hdrop
  · rw [htake, hrest, hrest', hreturn hp, hreturn hp]
    exact .skipped hlater

/-- What is cut off at a closing quote is alike: nothing, or related bodies with alike text after
them. -/
inductive CutAlike (bodies : List Char → List Char → Prop) :
    Option (List Char × List Char) → Option (List Char × List Char) → Prop
  | neither : CutAlike bodies none none
  | both {body body' rest rest' : List Char} (hbody : bodies body body')
      (hrest : AddsReturns rest rest') : CutAlike bodies (some (body, rest)) (some (body', rest'))

/-- What is done with both bodies of a cut keeps it alike if it keeps bodies related. -/
theorem CutAlike.map {bodies : List Char → List Char → Prop} {f f' : List Char → List Char}
    {cut cut' : Option (List Char × List Char)} (h : CutAlike bodies cut cut')
    (hf : ∀ body body', bodies body body' → bodies (f body) (f' body')) :
    CutAlike bodies (cut.map fun p => (f p.1, p.2)) (cut'.map fun p => (f' p.1, p.2)) := by
  cases h with
  | neither => exact .neither
  | both hbody hrest => exact .both (hf _ _ hbody) hrest

/-- A literal goes on with any character but a backslash, its closing quote and a line end. -/
theorem quoted?_cons {quote : Char} (hc : c ≠ '\\') (rest : List Char) :
    quoted? quote (c :: rest) = if c = quote then some ([c], rest) else if c = '\n' then none
      else (quoted? quote rest).map fun p => (c :: p.1, p.2) := by
  rw [quoted?]
  · simp only [hc, or_false]
  · intro _ _ heq
    exact absurd heq hc

/-- A literal with escapes is on one line, so that it is the same with returns or has no end. -/
theorem quoted?_addsReturns {quote : Char} (hline : quote ≠ '\n') (hreturn : quote ≠ '\r')
    (hback : quote ≠ '\\') (h : AddsReturns cs cs') :
    CutAlike Eq (quoted? quote cs) (quoted? quote cs') := by
  have hend : ∀ rest, quoted? quote ('\n' :: rest) = none := by
    intro rest
    rw [quoted?_cons (by decide), if_neg hline.symm, if_pos rfl]
  fun_induction quoted? quote cs generalizing cs' with
  | case1 =>
    cases h
    exact .neither
  | case2 rest =>
    rcases h with _ | h
    rcases h with _ | h | h
    · exact .neither
    -- the escape takes in the return, but not the end of the line after it
    · rw [quoted?, if_neg (by decide), hend]
      exact .neither
  | case3 c rest hc ih =>
    rcases h with _ | h
    rcases h with _ | h | h
    · rw [quoted?, if_neg hc]
      exact (ih h).map fun _ _ hbody => congrArg ('\\' :: c :: ·) hbody
    · exact absurd rfl hc
  | case4 rest =>
    rcases h with _ | h | h
    · rw [quoted?_cons hback, if_pos rfl]
      exact .both rfl h
    · exact absurd rfl hline
  | case5 c rest hlast hc hstop =>
    rcases hstop with rfl | rfl
    · rcases h with _ | h | h
      · rw [hend]
        exact .neither
      · rw [quoted?_cons (by decide), if_neg hreturn.symm, if_neg (by decide), hend]
        exact .neither
    · cases rest with
      | cons d ds => exact (hlast d ds rfl rfl).elim
      | nil =>
        rcases h with _ | h
        cases h
        rw [quoted?, if_neg hc, if_pos (.inr rfl)]
        · exact .neither
        · intro _ _ _ heq
          cases heq
  | case6 c rest hlast hc hstop ih =>
    rw [not_or] at hstop
    rcases h with _ | h | h
    · rw [quoted?_cons hstop.2, if_neg hc, if_neg hstop.1]
      exact (ih h).map fun _ _ hbody => congrArg (c :: ·) hbody
    · exact absurd rfl hstop.1

/-- A raw literal goes on over line ends. -/
theorem rawQuoted?_addsReturns (h : AddsReturns cs cs') :
    CutAlike AddsReturns (rawQuoted? cs) (rawQuoted? cs') := by
  induction h with
  | nil => exact .neither
  | @same c cs cs' h ih =>
    rw [rawQuoted?, rawQuoted?]
    by_cases hc : c = '\x60'
    · rw [if_pos hc, if_pos hc]
      exact .both (.refl [c]) h
    · rw [if_neg hc, if_neg hc]
      exact ih.map fun _ _ hbody => .same hbody
  | @added cs cs' h ih =>
    rw [rawQuoted?, rawQuoted?, rawQuoted?, if_neg (by decide), if_neg (by decide),
      if_neg (by decide), Option.map_map]
    exact ih.map fun _ _ hbody => .added hbody

/-- A comment goes on with every character at which it does not end. -/
theorem blockComment_cons (hopen : c = '*' → cs.head? ≠ some '/') :
    blockComment (c :: cs) = (c :: (blockComment cs).1, (blockComment cs).2) := by
  rw [blockComment]
  intro rest hc hcs
  exact hopen hc (by rw [hcs]; rfl)

/-- A block comment goes on over line ends, and ends at the same place. -/
theorem blockComment_addsReturns (h : AddsReturns cs cs') :
    AddsReturns (blockComment cs).1 (blockComment cs').1 ∧
      AddsReturns (blockComment cs).2 (blockComment cs').2 := by
  induction h with
  | nil => exact ⟨.nil, .nil⟩
  | @same c cs cs' h ih =>
    by_cases hend : c = '*' ∧ cs.head? = some '/'
    · obtain ⟨rfl, hhead⟩ := hend
      cases h with
      | nil => cases hhead
      | same h =>
        cases hhead
        exact ⟨.refl _, h⟩
      | added => cases hhead
    · have hopen : c = '*' → cs.head? ≠ some '/' := fun hc hhead => hend ⟨hc, hhead⟩
      -- a return does not come between the star and the slash of an end
      have hopen' : c = '*' → cs'.head? ≠ some '/' := by
        intro hc
        cases h with
        | nil => exact hopen hc
        | same => exact hopen hc
        | added => simp
      rw [blockComment_cons hopen, blockComment_cons hopen']
      exact ⟨.same ih.1, ih.2⟩
  | @added cs cs' h ih =>
    have hother : ∀ d ds, d ≠ '*' →
        blockComment (d :: ds) = (d :: (blockComment ds).1, (blockComment ds).2) :=
      fun d ds hd => blockComment_cons fun hstar => absurd hstar hd
    rw [hother '\n' cs (by decide), hother '\r' _ (by decide), hother '\n' cs' (by decide)]
    exact ⟨.added ih.1, ih.2⟩

/-- What is cut off makes alike pieces after the same opening quote. -/
theorem CutAlike.piece {bodies : List Char → List Char → Prop} {kind : TokenKind}
    {cut cut' : Option (List Char × List Char)} (h : CutAlike bodies cut cut')
    (hadds : ∀ body body', bodies body body' → AddsReturns body body')
    (hsame : kind ≠ .rawString → ∀ body body', bodies body body' → body = body') :
    PieceAlike (cut.map fun p => (some kind, c :: p.1, p.2))
      (cut'.map fun p => (some kind, c :: p.1, p.2)) := by
  cases h with
  | neither => exact .none
  | both hbody hrest =>
    refine .piece (.same (hadds _ _ hbody)) (fun _ hraw => congrArg (c :: ·) ?_) hrest
    exact hsame (fun hkind => hraw (congrArg some hkind)) _ _ hbody

/-- What is told by the first character of a text is alike if returns are added behind it. -/
theorem plain?_addsReturns (h : AddsReturns cs cs') : PieceAlike (plain? c cs) (plain? c cs') := by
  have hquoted : ∀ {kind : TokenKind}, c ≠ '\n' → c ≠ '\r' → c ≠ '\\' → PieceAlike
      ((quoted? c cs).map fun p => (some kind, c :: p.1, p.2))
      ((quoted? c cs').map fun p => (some kind, c :: p.1, p.2)) := by
    intro kind hline hreturn hback
    refine (quoted?_addsReturns hline hreturn hback h).piece ?_ fun _ _ _ hbody => hbody
    rintro body _ rfl
    exact .refl body
  unfold plain?
  split
  · exact runOf_addsReturns (by decide) (fun _ _ => rfl) h
  split
  · exact runOf_addsReturns (by decide) (fun hp => absurd hp (by decide)) h
  split
  · exact runOf_addsReturns (by decide) (fun hp => absurd hp (by decide)) h
  split
  · exact runOf_addsReturns (by decide) (fun hp => absurd hp (by decide)) h
  split
  · exact (rawQuoted?_addsReturns h).piece (fun _ _ hbody => hbody) fun hraw => absurd rfl hraw
  split
  · rename_i hc
    exact hquoted (hc ▸ by decide) (hc ▸ by decide) (hc ▸ by decide)
  split
  · rename_i hc
    exact hquoted (hc ▸ by decide) (hc ▸ by decide) (hc ▸ by decide)
  · cases punctuation? c with
    | none => exact .none
    | some kind => exact .of_same h

/-- Returns make no comment and no ellipsis begin. -/
theorem opening_of_addsReturns (h : AddsReturns source source') (hopen : Opening source') :
    Opening source := by
  cases hopen with
  | line =>
    rcases h with _ | h
    rcases h with _ | h
    exact .line _
  | block =>
    rcases h with _ | h
    rcases h with _ | h
    exact .block _
  | dots =>
    rcases h with _ | h
    rcases h with _ | h
    rcases h with _ | h
    exact .dots _

/-- What is read at the same character is alike, with returns and without. -/
theorem front?_addsReturns (h : AddsReturns cs cs') :
    PieceAlike (front? (c :: cs)) (front? (c :: cs')) := by
  by_cases hopen : Opening (c :: cs)
  · cases hopen with
    | line =>
      rcases h with _ | h
      exact runOf_addsReturns (by decide) (fun _ _ => rfl) (.same h)
    | block rest =>
      rcases h with _ | h
      obtain ⟨hbody, hrest⟩ := blockComment_addsReturns h
      simp only [front?, List.contains_iff_mem, ← hbody.newline_mem_iff]
      by_cases hlines : '\n' ∈ (blockComment rest).1
      · rw [if_pos hlines]
        exact .piece (.same (.same hbody)) (fun hcomment => absurd rfl hcomment) hrest
      · rw [if_neg hlines, hbody.eq_of_notMem hlines]
        exact .of_same hrest
    | dots =>
      rcases h with _ | h
      rcases h with _ | h
      exact .of_same h
  · have hopen' : ¬Opening (c :: cs') := fun h' => hopen (opening_of_addsReturns (.same h) h')
    rw [front?_of_not_opening hopen, front?_of_not_opening hopen']
    exact plain?_addsReturns h

/-- A piece of a text has a piece of the same text with returns that is alike. -/
theorem exists_pieceAlike {piece : Option Piece} (h : AddsReturns cs cs')
    (hfront : front? (c :: cs) = piece) :
    ∃ piece', front? (c :: cs') = piece' ∧ PieceAlike piece piece' :=
  ⟨_, rfl, hfront ▸ front?_addsReturns h⟩

end

/-! ## Tokens of a text with returns -/

/-- The second token is read of the text of the first with returns added: it is on the same line and
of the same class, and if no end of a line can be inside it has the same text. -/
structure AddsReturns (t t' : Token) : Prop where
  kind : t.kind = t'.kind
  line : t.line = t'.line
  text : Text.AddsReturns t.text t'.text
  /-- The return before an end of the line may be in the gap. -/
  whole : Text.AddsReturns (t.gap ++ t.text) (t'.gap ++ t'.text)
  same : t.kind ≠ .comment → t.kind ≠ .rawString → t.text = t'.text

/-- Reading two sources ends with the same fault, or with tokens that are related one by one. -/
def ScanAlike (read read' : Except SourceError (List Token)) : Prop :=
  (∃ e, read = .error e ∧ read' = .error e) ∨
    ∃ ts ts', read = .ok ts ∧ read' = .ok ts' ∧ List.Forall₂ AddsReturns ts ts'

/-- Where reading has come to: the same gap is before the text with returns and the one without, or
a return is in the gap already and the end of its line is next. -/
inductive Ahead : List Char → List Char → List Char → List Char → Prop
  | text {gap source source' : List Char} (h : Text.AddsReturns source source') :
      Ahead gap source gap source'
  | lineEnd {gap rest rest' : List Char} (h : Text.AddsReturns rest rest') :
      Ahead gap ('\n' :: rest) (gap ++ ['\r']) ('\n' :: rest')

section

variable {line : Nat} {gap gap' source source' rest rest' text text' : List Char}

/-- Related tokens at the front keep two readings alike. -/
theorem ScanAlike.cons {t t' : Token} {read read' : Except SourceError (List Token)}
    (ht : t.AddsReturns t') (h : ScanAlike read read') :
    ScanAlike (read.map (t :: ·)) (read'.map (t' :: ·)) := by
  obtain ⟨e, rfl, rfl⟩ | ⟨ts, ts', rfl, rfl, hts⟩ := h
  · exact .inl ⟨e, rfl, rfl⟩
  · exact .inr ⟨t :: ts, t' :: ts', rfl, rfl, .cons ht hts⟩

/-- Related pieces at the front make related tokens. -/
theorem scanAlike_token {kind : TokenKind}
    (hfront : front? source = some (some kind, text, rest))
    (hfront' : front? source' = some (some kind, text', rest'))
    (htext : Text.AddsReturns text text')
    (hsame : some kind ≠ some .comment → some kind ≠ some .rawString → text = text')
    (hwhole : Text.AddsReturns (gap ++ text) (gap' ++ text'))
    (hrest : ScanAlike (scanFrom (line + text.count '\n') [] rest)
      (scanFrom (line + text.count '\n') [] rest')) :
    ScanAlike (scanFrom line gap source) (scanFrom line gap' source') := by
  rw [scanFrom_token hfront, scanFrom_token hfront', ← htext.count_newline_eq]
  refine .cons ⟨rfl, rfl, htext, hwhole, fun hcomment hraw => ?_⟩ hrest
  exact hsame (fun h => hcomment (Option.some.inj h)) fun h => hraw (Option.some.inj h)

/-- A return before the end of a line is a blank by itself. -/
theorem front?_return (rest : List Char) :
    front? ('\r' :: '\n' :: rest) = some (none, ['\r'], '\n' :: rest) :=
  rfl

/-- With returns added the same tokens are read, or reading fails at the same character. -/
theorem scanFrom_addsReturns (h : Ahead gap source gap' source') :
    ScanAlike (scanFrom line gap source) (scanFrom line gap' source') := by
  induction line, gap, source using scanFrom.induct generalizing gap' source' with
  | case1 line gap source text rest hfront _ ih =>
    rw [scanFrom_skip hfront]
    cases h with
    | lineEnd h => cases (front?_newline _).symm.trans hfront
    | text h =>
      cases h with
      | nil => cases hfront
      | added h => cases (front?_newline _).symm.trans hfront
      | same h =>
        obtain ⟨piece, hfront', hpiece⟩ := exists_pieceAlike h hfront
        cases hpiece with
        | piece htext hsame hrest =>
          obtain rfl := hsame (fun hkind => by cases hkind) fun hkind => by cases hkind
          rw [scanFrom_skip hfront']
          exact ih (.text hrest)
        -- the return was taken in with the blanks or the comment before it
        | skipped hrest =>
          rw [scanFrom_skip hfront', ← List.append_assoc]
          exact ih (.lineEnd hrest)
  | case2 line gap source kind text rest hfront _ ih =>
    -- a return before the end of the line is in its gap, wherever the gap began
    have hlineEnd : ∀ later later', source = '\n' :: later → Text.AddsReturns later later' →
        ScanAlike (scanFrom line gap source) (scanFrom line (gap ++ ['\r']) ('\n' :: later')) := by
      rintro later later' rfl h
      cases (front?_newline _).symm.trans hfront
      refine scanAlike_token hfront (front?_newline _) (.refl _) (fun _ _ => rfl) ?_ (ih (.text h))
      rw [List.append_assoc]
      exact (Text.AddsReturns.refl gap).append (.added .nil)
    cases h with
    | lineEnd h => exact hlineEnd _ _ rfl h
    | text h =>
      cases h with
      | nil => cases hfront
      | added h =>
        rw [scanFrom_skip (front?_return _)]
        exact hlineEnd _ _ rfl h
      | same h =>
        obtain ⟨piece, hfront', hpiece⟩ := exists_pieceAlike h hfront
        cases hpiece with
        | piece htext hsame hrest =>
          have hwhole := (Text.AddsReturns.refl gap).append htext
          exact scanAlike_token hfront hfront' htext hsame hwhole (ih (.text hrest))
  | case3 line gap =>
    cases h with
    | text h =>
      cases h
      exact .inr ⟨[], [], scanFrom_nil, scanFrom_nil, .nil⟩
  | case4 line gap c cs hfront =>
    cases h with
    | lineEnd h => cases (front?_newline _).symm.trans hfront
    | text h =>
      cases h with
      | added h => cases (front?_newline _).symm.trans hfront
      | same h =>
        obtain ⟨piece, hfront', hpiece⟩ := exists_pieceAlike h hfront
        cases hpiece
        rw [scanFrom_fails hfront, scanFrom_fails hfront']
        exact .inl ⟨_, rfl, rfl⟩

end

end Token

end CodecGen
