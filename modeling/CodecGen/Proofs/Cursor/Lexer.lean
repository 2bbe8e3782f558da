import CodecGen.Cursor.Lexer
import CodecGen.Proofs.Token.Layout
import Mathlib.Data.List.TakeWhile

/-!
# The tokens at their positions

Reading tokens by positions never fails a check, and gives the tokens that are read from lists of
characters, each with its place in the source (`scan_eq`). What stands in the source between two
positions of tokens is their text with everything between them (`slice?_spansFrom`).
-/

namespace CodecGen.Spanned

open Text (byteLength cut? slice?)

/-! ## Pieces -/

/-- The length of a block comment in bytes is what is counted for it. -/
theorem byteLength_blockComment (cs : List Char) :
    byteLength (Token.blockComment cs).1 = commentLength cs := by
  fun_induction Token.blockComment cs with
  | case1 => rfl
  | case2 rest => rfl
  | case3 c rest hmark ih =>
    have hcons : commentLength (c :: rest) = c.utf8Size + commentLength rest := by
      unfold commentLength
      rw [commentMark?]
      · cases commentMark? rest with
        | none => rfl
        | some n =>
          show n + c.utf8Size + 2 = c.utf8Size + (n + 2)
          omega
      · exact hmark
    rw [hcons, ← ih]
    rfl

/-- A block comment is cut off where it ends. -/
theorem front?_eq (cs : List Char) : front? cs = .ok (Token.front? cs) := by
  unfold front?
  split
  · rename_i rest
    have hcut := Text.cut?_append (Token.blockComment rest).1 (Token.blockComment rest).2
    rw [byteLength_blockComment, Token.blockComment_append] at hcut
    rw [hcut]
    rfl
  · rfl

/-- What is skipped holds no line end. -/
theorem newline_notMem_of_skipped {cs text rest : List Char}
    (h : Token.front? cs = some (none, text, rest)) : '\n' ∉ text := by
  have hrun : ∀ {p : Char → Bool} {c : Char} {ds : List Char}, p '\n' = false → c ≠ '\n' →
      '\n' ∉ c :: ds.takeWhile p := by
    intro p c ds hp hc hmem
    rcases List.mem_cons.mp hmem with heq | hin
    · exact hc heq.symm
    · have hnewline := List.mem_takeWhile_imp hin
      rw [hp] at hnewline
      cases hnewline
  -- a comment on its own line, a block comment, and blanks: no other piece is skipped
  unfold Token.front? at h
  split at h
  · cases h
    exact hrun (by decide) (by decide)
  · dsimp only at h
    split at h
    · cases h
    · rename_i hbody
      cases h
      simpa using hbody
  · cases h
  · cases h
  · unfold Token.plain? at h
    split at h
    · rename_i hgap
      cases h
      refine hrun (by decide) ?_
      rintro rfl
      revert hgap
      decide
    repeat' split at h
    all_goals simp [Token.runOf] at h

/-! ## Positions -/

/-- Tokens in a row, from some position on. -/
def spansFrom (pos : Nat) : List Token → List Spanned
  | [] => []
  | t :: ts =>
    ⟨t, pos + byteLength t.gap, pos + byteLength t.gap + byteLength t.text⟩ ::
      spansFrom (pos + byteLength t.gap + byteLength t.text) ts

/-- The tokens in a row are those that were given. -/
theorem map_token_spansFrom (pos : Nat) (ts : List Token) :
    (spansFrom pos ts).map token = ts := by
  induction ts generalizing pos with
  | nil => rfl
  | cons t ts ih => rw [spansFrom, List.map_cons, ih]

/-- The text of some tokens is the gap and the text of the first, and that of the others. -/
theorem source_cons (t : Token) (ts : List Token) :
    Token.source (t :: ts) = t.gap ++ (t.text ++ Token.source ts) := by
  unfold Token.source
  rw [List.flatMap_cons, List.append_assoc]

/-- The text of tokens in a row is made of the texts of both parts. -/
theorem source_append (ts us : List Token) :
    Token.source (ts ++ us) = Token.source ts ++ Token.source us :=
  List.flatMap_append

/-- Tokens in a row stand behind the text of those before them. -/
theorem spansFrom_append (pos : Nat) (ts us : List Token) :
    spansFrom pos (ts ++ us) =
      spansFrom pos ts ++ spansFrom (pos + byteLength (Token.source ts)) us := by
  induction ts generalizing pos with
  | nil => rfl
  | cons t ts ih =>
    rw [List.cons_append, spansFrom, spansFrom, List.cons_append, ih, source_cons]
    simp only [Text.byteLength_append, Nat.add_assoc]

section

variable {source ahead text rest : List Char} {line last pos : Nat} {kind : TokenKind}

/-- The scan goes on behind a piece that makes no token. -/
theorem scanFrom_skip (h : Token.front? ahead = some (none, text, rest)) :
    scanFrom source line last pos ahead =
      scanFrom source line last (pos + byteLength text) rest := by
  rw [scanFrom]
  split
  · rename_i heq
    rw [front?_eq] at heq
    cases heq
  · rename_i heq
    rw [front?_eq, h] at heq
    cases heq
    rfl
  · rename_i heq
    rw [front?_eq, h] at heq
    cases heq
  · rename_i heq
    rw [front?_eq, h] at heq
    cases heq

/-- The scan cuts out the gap and the text of a token by their positions, and goes on behind it. -/
theorem scanFrom_token (h : Token.front? ahead = some (some kind, text, rest)) :
    scanFrom source line last pos ahead = (do
      let gap ← slice source last pos
      let lexeme ← slice source pos (pos + byteLength text)
      let more ← scanFrom source (line + gap.count '\n' + lexeme.count '\n')
        (pos + byteLength text) (pos + byteLength text) rest
      return ⟨⟨kind, gap, lexeme, line + gap.count '\n'⟩, pos, pos + byteLength text⟩ :: more) := by
  rw [scanFrom]
  split
  · rename_i heq
    rw [front?_eq] at heq
    cases heq
  · rename_i heq
    rw [front?_eq, h] at heq
    cases heq
  · rename_i heq
    rw [front?_eq, h] at heq
    cases heq
    rfl
  · rename_i heq
    rw [front?_eq, h] at heq
    cases heq

/-- The scan ends where no piece is found: at the end of the text, or at a character that begins
none. -/
theorem scanFrom_none (h : Token.front? ahead = none) :
    scanFrom source line last pos ahead = (do
      if ahead.isEmpty then return []
      let gap ← slice source last pos
      let tail ← slice source pos (byteLength source)
      throw (.fault ⟨line + gap.count '\n', .character (tail.head?.getD '\x00')⟩)) := by
  rw [scanFrom]
  split
  · rename_i heq
    rw [front?_eq] at heq
    cases heq
  · rename_i heq
    rw [front?_eq, h] at heq
    cases heq
  · rename_i heq
    rw [front?_eq, h] at heq
    cases heq
  · rfl

end

/-- The slice between the ends of a part of a text is that part. -/
theorem slice_append (before cs after : List Char) :
    slice (before ++ (cs ++ after)) (byteLength before) (byteLength before + byteLength cs) =
      .ok cs := by
  unfold slice
  rw [Text.slice?_append]

/-- Tokens are read by positions as they are from characters, and the source begins with them. -/
theorem scanFrom_eq (line : Nat) {source before gap ahead : List Char}
    (hsource : source = before ++ (gap ++ ahead)) (hgap : '\n' ∉ gap) :
    match Token.scanFrom line gap ahead with
    | .ok ts => scanFrom source line (byteLength before) (byteLength before + byteLength gap)
        ahead = .ok (spansFrom (byteLength before) ts) ∧
          ∃ tail, source = before ++ (Token.source ts ++ tail)
    | .error e => scanFrom source line (byteLength before) (byteLength before + byteLength gap)
        ahead = .error (.fault e) := by
  have hcount : line + gap.count '\n' = line := by rw [List.count_eq_zero_of_not_mem hgap]; rfl
  have hgapSlice : slice source (byteLength before) (byteLength before + byteLength gap) =
      .ok gap := by
    rw [hsource]
    exact slice_append before gap ahead
  -- the induction is on what is ahead: a skipped piece joins the gap, a token begins a new one
  cases hfront : Token.front? ahead with
  | none =>
    rw [scanFrom_none hfront, hgapSlice]
    cases ahead with
    | nil =>
      rw [Token.scanFrom_nil]
      exact ⟨rfl, gap, by rw [hsource]; simp [Token.source]⟩
    | cons c cs =>
      have htail : slice source (byteLength before + byteLength gap) (byteLength source) =
          .ok (c :: cs) := by
        have h := slice_append (before ++ gap) (c :: cs) []
        rw [List.append_nil, List.append_assoc, ← hsource, Text.byteLength_append] at h
        rw [← h, hsource]
        simp only [Text.byteLength_append, Nat.add_assoc]
      rw [Token.scanFrom_fails hfront]
      dsimp only
      rw [htail]
      show (Except.error _ : Except Crash _) = _
      rw [hcount]
      rfl
  | some piece =>
    obtain ⟨kind?, text, rest⟩ := piece
    obtain ⟨hahead, _⟩ := Token.front?_split hfront
    have hlength := Token.length_lt_of_front? hfront
    cases kind? with
    | none =>
      have hmore : '\n' ∉ gap ++ text := by
        rw [List.mem_append, not_or]
        exact ⟨hgap, newline_notMem_of_skipped hfront⟩
      have hsplit : source = before ++ ((gap ++ text) ++ rest) := by
        rw [hsource, ← hahead, List.append_assoc]
      have ih := scanFrom_eq line hsplit hmore
      rw [Text.byteLength_append, ← Nat.add_assoc] at ih
      rw [Token.scanFrom_skip hfront, scanFrom_skip hfront]
      exact ih
    | some kind =>
      have hsplit : source = (before ++ gap ++ text) ++ ([] ++ rest) := by
        rw [hsource, ← hahead]
        simp only [List.append_assoc, List.nil_append]
      have htext : slice source (byteLength before + byteLength gap)
          (byteLength before + byteLength gap + byteLength text) = .ok text := by
        have h := slice_append (before ++ gap) text rest
        rw [Text.byteLength_append] at h
        rw [← h, hsplit]
        simp only [List.append_assoc, List.nil_append]
      -- the scan by positions counts the line ends of the text only, as the gap has none
      have ih := scanFrom_eq (line + text.count '\n') hsplit List.not_mem_nil
      simp only [Text.byteLength_append, Text.byteLength_nil, Nat.add_zero] at ih
      rw [Token.scanFrom_token hfront, scanFrom_token hfront, hgapSlice, htext]
      simp only [bind, Except.bind, hcount]
      cases hrest : Token.scanFrom (line + text.count '\n') [] rest with
      | error e =>
        rw [hrest] at ih
        dsimp only [Except.map] at ih ⊢
        rw [ih]
      | ok ts =>
        rw [hrest] at ih
        obtain ⟨hscan, tail, htail⟩ := ih
        dsimp only [Except.map]
        rw [hscan]
        refine ⟨rfl, tail, ?_⟩
        rw [htail, source_cons]
        simp only [List.append_assoc]
termination_by ahead.length

/-- No check fails while tokens are read, and they are those that are read from characters. -/
theorem scan_eq (source : List Char) :
    match Token.scan source with
    | .ok ts => scan source = .ok (spansFrom 0 ts) ∧ ∃ tail, source = Token.source ts ++ tail
    | .error e => scan source = .error (.fault e) := by
  have hsource : source = [] ++ ([] ++ source) := rfl
  exact scanFrom_eq 1 hsource List.not_mem_nil

/-! ## Slices between tokens -/

/-- No token is lost or made by placing tokens in a row. -/
theorem length_spansFrom (pos : Nat) (ts : List Token) : (spansFrom pos ts).length = ts.length := by
  rw [← List.length_map token, map_token_spansFrom]

/-- A token after others begins after them and its gap, and ends after its text. -/
theorem getElem?_spansFrom (pre : List Token) (t : Token) (post : List Token) :
    (spansFrom 0 (pre ++ t :: post))[pre.length]? =
      some ⟨t, byteLength (Token.source pre) + byteLength t.gap,
        byteLength (Token.source (pre ++ [t]))⟩ := by
  have hlength := length_spansFrom 0 pre
  have hsource : byteLength (Token.source (pre ++ [t])) =
      byteLength (Token.source pre) + byteLength t.gap + byteLength t.text := by
    rw [source_append, source_cons]
    simp only [Text.byteLength_append, Token.source, List.flatMap_nil, Text.byteLength_nil]
    omega
  rw [spansFrom_append, List.getElem?_append_right (by omega), hlength, Nat.sub_self, spansFrom,
    Nat.zero_add, hsource]
  rfl

/-- The source of tokens is the gap before them and what they span. -/
theorem source_eq_spanText (t : Token) (ts : List Token) :
    Token.source (t :: ts) = t.gap ++ Token.spanText (t :: ts) :=
  source_cons t ts

/-- What stands between two tokens is cut out of the source with both of them. -/
theorem slice?_spansFrom (pre : List Token) {mid : List Token} (hmid : mid ≠ [])
    (post : List Token) (tail : List Char) :
    ∃ first last, (spansFrom 0 (pre ++ (mid ++ post)))[pre.length]? = some first ∧
      (spansFrom 0 (pre ++ (mid ++ post)))[pre.length + mid.length - 1]? = some last ∧
      slice? (Token.source (pre ++ (mid ++ post)) ++ tail) first.start last.stop =
        some (Token.spanText mid) := by
  obtain ⟨t, ts, hhead⟩ := List.exists_cons_of_ne_nil hmid
  obtain ⟨init, u, hlast⟩ := (List.eq_nil_or_concat mid).resolve_left hmid
  rw [List.concat_eq_append] at hlast
  have hfirst := getElem?_spansFrom pre t (ts ++ post)
  have hstop := getElem?_spansFrom (pre ++ init) u post
  have hindex : (pre ++ init).length = pre.length + mid.length - 1 := by
    rw [hlast, List.length_append, List.length_append, List.length_singleton]
    omega
  have hwhole : (pre ++ init) ++ u :: post = pre ++ (mid ++ post) := by
    rw [hlast]
    simp only [List.append_assoc, List.singleton_append]
  have hend : (pre ++ init) ++ [u] = pre ++ mid := by rw [hlast, List.append_assoc]
  rw [hwhole, hindex, hend] at hstop
  rw [← List.cons_append, ← hhead] at hfirst
  refine ⟨_, _, hfirst, hstop, ?_⟩
  -- the text of the row starts with the gap of its first token, which is not cut out
  have hspan : Token.source mid = t.gap ++ Token.spanText mid := by
    rw [hhead]
    exact source_eq_spanText t ts
  have hslice := Text.slice?_append (Token.source pre ++ t.gap) (Token.spanText mid)
    (Token.source post ++ tail)
  dsimp only
  rw [source_append pre mid, source_append pre, source_append mid, hspan]
  simp only [Text.byteLength_append, List.append_assoc, Nat.add_assoc] at hslice ⊢
  exact hslice

end CodecGen.Spanned
