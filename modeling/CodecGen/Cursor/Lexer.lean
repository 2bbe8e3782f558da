import CodecGen.Cursor.Basic
import CodecGen.Token.Lexer

/-!
# Reading tokens by positions

The tokens of a source with the positions that they begin and end at. Everything that is looked at
besides the pieces themselves is cut out of the source by positions: the end of a block comment, the
text between two tokens, whose line ends count, and the text of a token.
-/

namespace CodecGen.Spanned

open Text (byteLength cut? slice?)

/-- Where the mark that ends a block comment stands first, in bytes. -/
def commentMark? : List Char → Option Nat
  | [] => none
  | '*' :: '/' :: _ => some 0
  | c :: cs => (commentMark? cs).map fun n => n + c.utf8Size

/-- The length of a block comment after its opening mark, in bytes. -/
def commentLength (cs : List Char) : Nat :=
  match commentMark? cs with
  | some n => n + 2
  | none => byteLength cs

/-- The piece at the front of a text, with block comments cut off by their length. -/
def front? (cs : List Char) : Except Crash (Option Token.Piece) :=
  match cs with
  | '/' :: '*' :: rest =>
    match cut? (commentLength rest) rest with
    | some (body, after) =>
      .ok (some (if body.contains '\n' then some .comment else none, '/' :: '*' :: body, after))
    | none => .error (.panic .slice)
  | cs => .ok (Token.front? cs)

/-- What is left after a cut is no longer than the text was. -/
theorem length_le_of_cut? {n : Nat} {cs before after : List Char}
    (h : cut? n cs = some (before, after)) : after.length ≤ cs.length := by
  fun_induction cut? n cs generalizing before after with
  | case1 cs =>
    cases h
    exact Nat.le_refl _
  | case2 n => cases h
  | case3 n c cs _ ih =>
    obtain ⟨⟨b, a⟩, hp, heq⟩ := Option.map_eq_some_iff.mp h
    cases heq
    exact Nat.le_succ_of_le (ih hp)
  | case4 => cases h

/-- What follows a piece is shorter than the text, so that reading one piece after another ends. -/
theorem length_lt_of_front? {cs text rest : List Char} {kind : Option TokenKind}
    (h : front? cs = .ok (some (kind, text, rest))) : rest.length < cs.length := by
  unfold front? at h
  split at h
  · split at h
    · rename_i hcut
      cases h
      have hle := length_le_of_cut? hcut
      simp only [List.length_cons]
      omega
    · cases h
  · exact Token.length_lt_of_front? (Except.ok.inj h)

/-- A slice of the source, which has to be one. -/
def slice (source : List Char) (start stop : Nat) : Except Crash (List Char) :=
  match slice? source start stop with
  | some cs => .ok cs
  | none => .error (.panic .slice)

/-- Read tokens from some position on: the line and the position where the last token ended, the
position reached, and the text from there on. -/
def scanFrom (source : List Char) (line last pos : Nat) (ahead : List Char) :
    Except Crash (List Spanned) :=
  match h : front? ahead with
  | .error e => .error e
  | .ok (some (none, text, rest)) =>
    have := length_lt_of_front? h
    scanFrom source line last (pos + byteLength text) rest
  | .ok (some (some kind, text, rest)) => do
    have := length_lt_of_front? h
    let stop := pos + byteLength text
    let gap ← slice source last pos
    let line := line + gap.count '\n'
    let lexeme ← slice source pos stop
    let more ← scanFrom source (line + lexeme.count '\n') stop stop rest
    return ⟨⟨kind, gap, lexeme, line⟩, pos, stop⟩ :: more
  | .ok none => do
    if ahead.isEmpty then return []
    let gap ← slice source last pos
    let tail ← slice source pos (byteLength source)
    throw (.fault ⟨line + gap.count '\n', .character (tail.head?.getD '\x00')⟩)
termination_by ahead.length

/-- The tokens of a source with their positions, or the first character that none begins with. -/
def scan (source : List Char) : Except Crash (List Spanned) :=
  scanFrom source 1 0 0 source

end CodecGen.Spanned
