import CodecGen.Proofs.Cursor.Lexer

/-!
# Tokens tile the source

Reading tokens loses nothing of a source. Each token has its text between its two positions, and
everything before, between and after them is `Skipped`: blanks and comments that stand on one line.
So the line of a token, which is counted from one token to the next, is that of its place in the
source (`Spanned.tiling_of_scan`), and so is the line of a character that no token begins with
(`Spanned.exists_of_scan_error`).
-/

namespace CodecGen

open Text (byteLength byteLength_pos)

/-! ## Skipped text -/

namespace Token

/-- A piece of text that no token is made of, before the given text. -/
inductive SkippedPiece : List Char → List Char → Prop
  | blanks {cs after : List Char} (hcs : ∀ c ∈ cs, isGapChar c = true) : SkippedPiece cs after
  /-- A comment up to the end of its line. -/
  | line {cs after : List Char} (hline : '\n' ∉ cs)
      (hafter : ∀ c, after.head? = some c → c = '\n') :
      SkippedPiece ('/' :: '/' :: cs) after
  /-- A block comment on one line. -/
  | block {cs after : List Char} (hcs : CommentBody cs) (hline : '\n' ∉ cs) :
      SkippedPiece ('/' :: '*' :: cs) after
  /-- A block comment on the last line that has no end. -/
  | unclosed {cs : List Char} (hcs : ¬['*', '/'] <:+: cs) (hline : '\n' ∉ cs) :
      SkippedPiece ('/' :: '*' :: cs) []

/-- Pieces in a row that no token is made of, before the given text. -/
inductive Skipped : List Char → List Char → Prop
  | nil {after : List Char} : Skipped [] after
  | cons {piece gap after : List Char} (hpiece : SkippedPiece piece (gap ++ after))
      (hgap : Skipped gap after) : Skipped (piece ++ gap) after

/-- One more skipped piece at the end of skipped text makes skipped text. -/
theorem Skipped.append {gap piece after : List Char} (hgap : Skipped gap (piece ++ after))
    (hpiece : SkippedPiece piece after) : Skipped (gap ++ piece) after := by
  generalize hrest : piece ++ after = rest at hgap
  induction hgap with
  | nil =>
    have h : Skipped (piece ++ []) after := .cons hpiece .nil
    rwa [List.append_nil] at h
  | cons hfirst _ ih =>
    subst hrest
    rw [List.append_assoc]
    refine .cons ?_ (ih rfl)
    rwa [List.append_assoc]

/-- What the lexer skips is no token. -/
theorem skippedPiece_of_front? {source piece after : List Char}
    (h : front? source = some (none, piece, after)) : SkippedPiece piece after := by
  have hline := Spanned.newline_notMem_of_skipped h
  unfold front? at h
  split at h
  · rename_i rest
    cases h
    have hrun : ('/' :: rest).takeWhile (· ≠ '\n') = '/' :: rest.takeWhile (· ≠ '\n') := rfl
    have hdrop : ('/' :: rest).dropWhile (· ≠ '\n') = rest.dropWhile (· ≠ '\n') := rfl
    rw [hrun] at hline ⊢
    rw [hdrop]
    refine .line (fun hmem => hline (List.mem_cons_of_mem _ (List.mem_cons_of_mem _ hmem))) ?_
    intro c hc
    simpa using stopsAt_dropWhile (· ≠ '\n') rest c hc
  · rename_i rest
    simp only [Option.some.injEq, Prod.mk.injEq] at h
    obtain ⟨-, rfl, rfl⟩ := h
    have hbody : '\n' ∉ (blockComment rest).1 := fun hmem =>
      hline (List.mem_cons_of_mem _ (List.mem_cons_of_mem _ hmem))
    -- the comment ends with its mark, or nothing follows it
    rcases blockComment_cases rest with hend | ⟨hrest, hend⟩
    · exact .block hend hbody
    · rw [hrest]
      exact .unclosed hend hbody
  · cases h
  · cases h
  · rename_i c cs _ _ _
    unfold plain? at h
    split at h
    · rename_i hc
      cases h
      refine .blanks fun d hd => ?_
      rcases List.mem_cons.mp hd with rfl | hd
      · exact hc
      · exact List.mem_takeWhile_imp hd
    -- every other piece has a class
    repeat' split at h
    all_goals simp [runOf] at h

/-! ## Rows of tokens -/

/-- The text is skipped text, the first token, skipped text, the second token and so on, and skipped
text at last; each token says on which line it is, if a text stands before all this. -/
def Tiles (before : List Char) : List Token → List Char → Prop
  | [], text => Skipped text []
  | t :: ts, text => ∃ after, text = t.gap ++ (t.text ++ after) ∧ t.text ≠ [] ∧
      t.line = 1 + (before ++ t.gap).count '\n' ∧ Skipped t.gap (t.text ++ after) ∧
      Tiles (before ++ t.gap ++ t.text) ts after

/-- The lines before a place and in the text after it. -/
theorem count_newline_append (before gap text : List Char) :
    (before ++ gap ++ text).count '\n' = (before ++ gap).count '\n' + text.count '\n' :=
  List.count_append

/-- The tokens that are read tile the text. -/
theorem tiles_of_scanFrom {before gap ahead : List Char} {line : Nat} {ts : List Token}
    (hgap : Skipped gap ahead) (hline : line = 1 + (before ++ gap).count '\n')
    (h : scanFrom line gap ahead = .ok ts) : Tiles before ts (gap ++ ahead) := by
  fun_induction scanFrom line gap ahead generalizing before ts with
  | case1 line gap ahead text rest hfront _ ih =>
    obtain ⟨rfl, -⟩ := front?_split hfront
    rw [← List.append_assoc]
    refine ih (hgap.append (skippedPiece_of_front? hfront)) ?_ h
    have hnone := List.count_eq_zero_of_not_mem (Spanned.newline_notMem_of_skipped hfront)
    rw [hline, ← List.append_assoc, count_newline_append, hnone, Nat.add_zero]
  | case2 line gap ahead kind text rest hfront _ ih =>
    obtain ⟨us, rfl, hus⟩ := exists_of_scanFrom hfront ((scanFrom_token hfront).trans h)
    obtain ⟨rfl, hne⟩ := front?_split hfront
    refine ⟨rest, rfl, hne, hline, hgap, ?_⟩
    refine ih .nil ?_ hus
    rw [hline, List.append_nil, count_newline_append, Nat.add_assoc]
  | case3 line gap =>
    cases h
    rwa [List.append_nil]
  | case4 => cases h

/-- Where no tokens are read, the fault is that of a character on its line. -/
theorem exists_of_scanFrom_error {before gap ahead : List Char} {line : Nat} {e : SourceError}
    (hline : line = 1 + (before ++ gap).count '\n') (h : scanFrom line gap ahead = .error e) :
    ∃ c front back, before ++ (gap ++ ahead) = front ++ c :: back ∧
      e = ⟨1 + front.count '\n', .character c⟩ ∧ front? (c :: back) = none := by
  fun_induction scanFrom line gap ahead generalizing before with
  | case1 line gap ahead text rest hfront _ ih =>
    obtain ⟨rfl, -⟩ := front?_split hfront
    rw [← List.append_assoc gap]
    refine ih ?_ h
    -- a skipped piece has no line ends, so the line stays
    have hnone := List.count_eq_zero_of_not_mem (Spanned.newline_notMem_of_skipped hfront)
    rw [hline, ← List.append_assoc, count_newline_append, hnone, Nat.add_zero]
  | case2 line gap ahead kind text rest hfront _ ih =>
    obtain ⟨rfl, -⟩ := front?_split hfront
    cases hrest : scanFrom (line + text.count '\n') [] rest with
    | ok us =>
      rw [hrest] at h
      cases h
    | error e' =>
      rw [hrest] at h
      cases h
      have hcount : line + text.count '\n' = 1 + ((before ++ gap ++ text) ++ []).count '\n' := by
        rw [hline, List.append_nil, count_newline_append, Nat.add_assoc]
      obtain ⟨c, front, back, hsplit, hfault⟩ := ih hcount hrest
      refine ⟨c, front, back, ?_, hfault⟩
      rw [← hsplit]
      simp only [List.append_assoc, List.nil_append]
  | case3 => cases h
  | case4 line gap c cs hfront =>
    cases h
    exact ⟨c, before ++ gap, cs, (List.append_assoc _ _ _).symm, by rw [hline], hfront⟩

end Token

/-! ## Tokens at their positions -/

namespace Spanned

open Token (Skipped Tiles)

/-- A token stands where it says, on the line that it says. -/
structure Stands (source : List Char) (s : Spanned) : Prop where
  /-- The text of the token is what stands in the source from its first position to its second. -/
  text : ∃ before after, source = before ++ (s.token.text ++ after) ∧ s.start = byteLength before ∧
    s.stop = s.start + byteLength s.token.text ∧ s.token.line = 1 + before.count '\n'
  /-- It is not empty. -/
  nonempty : s.start < s.stop
  /-- It ends within the source. -/
  bound : s.stop ≤ byteLength source

/-- Tokens stand in a source one after another, and no token is made of the text before the first,
between two of them and after the last. -/
structure Tiling (source : List Char) (spans : List Spanned) : Prop where
  stands : ∀ s ∈ spans, s.Stands source
  /-- They do not overlap. -/
  order : spans.Pairwise fun s s' => s.stop ≤ s'.start
  /-- Wherever the row is cut, only blanks and comments stand between the tokens before the cut and
  those after it. -/
  gaps : ∀ front back, spans = front ++ back → ∃ before gap after,
    source = before ++ (gap ++ after) ∧
      byteLength before = (front.getLast?.map stop).getD 0 ∧
      byteLength (before ++ gap) = (back.head?.map start).getD (byteLength source) ∧
      Skipped gap after

/-- No token of a row starts before the row does. -/
theorem le_start_of_mem_spansFrom {pos : Nat} {ts : List Token} {s : Spanned}
    (h : s ∈ spansFrom pos ts) : pos ≤ s.start := by
  induction ts generalizing pos with
  | nil => cases h
  | cons t ts ih =>
    rcases List.mem_cons.mp h with rfl | h
    · exact Nat.le_add_right _ _
    · have := ih h
      omega

/-- Tokens of a row do not overlap, whichever two are taken. -/
theorem pairwise_spansFrom (pos : Nat) (ts : List Token) :
    (spansFrom pos ts).Pairwise fun s s' => s.stop ≤ s'.start := by
  induction ts generalizing pos with
  | nil => exact .nil
  | cons t ts ih => exact .cons (fun _ hs => le_start_of_mem_spansFrom hs) (ih _)

/-- Every token of a row stands in the text that the row makes up. -/
theorem stands_of_tiles {before rest : List Char} {ts : List Token} (h : Tiles before ts rest) :
    ∀ s ∈ spansFrom (byteLength before) ts, s.Stands (before ++ rest) := by
  induction ts generalizing before rest with
  | nil =>
    intro s hs
    cases hs
  | cons t ts ih =>
    obtain ⟨after, rfl, hne, hline, -, hrest⟩ := h
    have hsource : before ++ (t.gap ++ (t.text ++ after)) =
        (before ++ t.gap) ++ (t.text ++ after) := (List.append_assoc _ _ _).symm
    intro s hs
    rcases List.mem_cons.mp hs with rfl | hs
    · have hpos := byteLength_pos hne
      refine ⟨⟨before ++ t.gap, after, hsource, ?_, rfl, hline⟩, ?_, ?_⟩
      · rw [Text.byteLength_append]
      · dsimp only
        omega
      · simp only [hsource, Text.byteLength_append]
        omega
    · rw [hsource, ← List.append_assoc]
      refine ih hrest s ?_
      simpa only [Text.byteLength_append] using hs

/-- Wherever a row is cut, skipped text stands between its two parts, from where the first ends to
where the second starts. -/
theorem gaps_of_tiles {before rest : List Char} {ts : List Token} (h : Tiles before ts rest)
    {front back : List Spanned} (hspans : spansFrom (byteLength before) ts = front ++ back) :
    ∃ before' gap after, before ++ rest = before' ++ (gap ++ after) ∧
      byteLength before' = (front.getLast?.map stop).getD (byteLength before) ∧
      byteLength (before' ++ gap) = (back.head?.map start).getD (byteLength (before ++ rest)) ∧
      Skipped gap after := by
  induction ts generalizing before rest front with
  | nil =>
    obtain ⟨rfl, rfl⟩ := List.append_eq_nil_iff.mp hspans.symm
    exact ⟨before, rest, [], by rw [List.append_nil], rfl, rfl, h⟩
  | cons t ts ih =>
    obtain ⟨after, rfl, -, -, hgap, hrest⟩ := h
    -- the cut is before the first token, or inside the row that it begins
    cases front with
    | nil =>
      subst hspans
      exact ⟨before, t.gap, t.text ++ after, rfl, rfl, by rw [Text.byteLength_append]; rfl, hgap⟩
    | cons s front =>
      obtain ⟨rfl, hmore⟩ := List.cons.inj hspans
      have hmore' : spansFrom (byteLength (before ++ t.gap ++ t.text)) ts = front ++ back := by
        rw [Text.byteLength_append, Text.byteLength_append]
        exact hmore
      obtain ⟨before', gap, after', hsplit, hstart, hstop, hskip⟩ := ih hrest hmore'
      have hsource : before ++ (t.gap ++ (t.text ++ after)) =
          (before ++ t.gap ++ t.text) ++ after := by
        simp only [List.append_assoc]
      refine ⟨before', gap, after', hsource.trans hsplit, ?_, by rw [hstop, hsource], hskip⟩
      rw [hstart, List.getLast?_cons]
      cases front.getLast? with
      | none =>
        rw [Text.byteLength_append, Text.byteLength_append]
        rfl
      | some s' => rfl

/-- The tokens that are read of a source tile it. -/
theorem tiling_of_scan {source : List Char} {spans : List Spanned}
    (h : scan source = .ok spans) : Tiling source spans := by
  have heq := scan_eq source
  cases hscan : Token.scan source with
  | error e =>
    rw [hscan] at heq
    cases h.symm.trans heq
  | ok ts =>
    rw [hscan] at heq
    obtain rfl : spans = spansFrom 0 ts := Except.ok.inj (h.symm.trans heq.1)
    have htiles : Tiles [] ts source := Token.tiles_of_scanFrom .nil rfl hscan
    constructor
    case stands => exact stands_of_tiles htiles
    case order => exact pairwise_spansFrom 0 ts
    case gaps => exact fun front back hsplit => gaps_of_tiles htiles hsplit

/-- Where a source has no tokens, it has a character that none begins with, which is reported with
its line. -/
theorem exists_of_scan_error {source : List Char} {crash : Crash}
    (h : scan source = .error crash) : ∃ c before after, source = before ++ c :: after ∧
      crash = .fault ⟨1 + before.count '\n', .character c⟩ ∧ Token.front? (c :: after) = none := by
  have heq := scan_eq source
  cases hscan : Token.scan source with
  | ok ts =>
    rw [hscan] at heq
    cases h.symm.trans heq.1
  | error e =>
    rw [hscan] at heq
    obtain rfl : crash = .fault e := Except.error.inj (h.symm.trans heq)
    have hline : 1 = 1 + (([] : List Char) ++ []).count '\n' := rfl
    obtain ⟨c, before, after, hsplit, rfl, hnone⟩ := Token.exists_of_scanFrom_error hline hscan
    exact ⟨c, before, after, hsplit, rfl, hnone⟩

end Spanned

end CodecGen
