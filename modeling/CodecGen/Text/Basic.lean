/-!
# Text

What is asked of text everywhere: which of its characters are blank, what stands between two
positions that are counted in bytes, and what its pieces are between separators.

There is no cut past the end of a text, nor between the bytes of one character. What stands between
two texts is a slice of all three (`slice?_append`). The pieces with the separator between them are
the text again (`join_split`), and a text is cut apart at a separator (`split_append_cons`).
-/

namespace CodecGen.Text

/-! ## Blanks -/

/-- A blank character: a control for horizontal or vertical space, or any space or separator. -/
def isBlank (c : Char) : Bool :=
  let n := c.toNat
  (9 ≤ n && n ≤ 13) || n == 0x20 || n == 0x85 || n == 0xA0 || n == 0x1680 ||
    (0x2000 ≤ n && n ≤ 0x200A) || n == 0x2028 || n == 0x2029 || n == 0x202F || n == 0x205F ||
    n == 0x3000

/-- The text without the blanks at its two ends. -/
def trim (cs : List Char) : List Char :=
  ((cs.dropWhile isBlank).reverse.dropWhile isBlank).reverse

/-- The text consists of blanks. -/
def isBlankText (text : String) : Bool :=
  text.toList.all isBlank

/-! ## Bytes -/

/-- The number of bytes that some text takes in UTF-8. -/
def byteLength : List Char → Nat
  | [] => 0
  | c :: cs => c.utf8Size + byteLength cs

@[simp] theorem byteLength_nil : byteLength [] = 0 := rfl

@[simp] theorem byteLength_cons (c : Char) (cs : List Char) :
    byteLength (c :: cs) = c.utf8Size + byteLength cs := rfl

/-- Texts one after another take the bytes of both. -/
@[simp] theorem byteLength_append (cs ds : List Char) :
    byteLength (cs ++ ds) = byteLength cs + byteLength ds := by
  induction cs with
  | nil => simp
  | cons c cs ih => simp [ih, Nat.add_assoc]

/-- A text that is not empty takes some bytes. -/
theorem byteLength_pos {cs : List Char} (h : cs ≠ []) : 0 < byteLength cs := by
  obtain ⟨c, cs, rfl⟩ := List.exists_cons_of_ne_nil h
  exact Nat.add_pos_left c.utf8Size_pos _

/-- Cut after a number of bytes, where a character ends. -/
def cut? : Nat → List Char → Option (List Char × List Char)
  | 0, cs => some ([], cs)
  | _ + 1, [] => none
  | n + 1, c :: cs =>
    if c.utf8Size ≤ n + 1 then (cut? (n + 1 - c.utf8Size) cs).map fun p => (c :: p.1, p.2)
    else none

/-- The text from one position to another, where characters begin and end there. -/
def slice? (cs : List Char) (start stop : Nat) : Option (List Char) :=
  if start ≤ stop then (cut? start cs).bind fun p => (cut? (stop - start) p.2).map Prod.fst
  else none

/-- A text is cut in two after as many bytes as its first part takes. -/
theorem cut?_append (cs ds : List Char) : cut? (byteLength cs) (cs ++ ds) = some (cs, ds) := by
  induction cs with
  | nil => rw [byteLength_nil, cut?, List.nil_append]
  | cons c cs ih =>
    have hpos := c.utf8Size_pos
    obtain ⟨n, hn⟩ : ∃ n, byteLength (c :: cs) = n + 1 :=
      ⟨byteLength (c :: cs) - 1, by rw [byteLength_cons]; omega⟩
    have hsize : c.utf8Size ≤ n + 1 := by rw [← hn, byteLength_cons]; omega
    have hrest : n + 1 - c.utf8Size = byteLength cs := by rw [← hn, byteLength_cons]; omega
    rw [hn, List.cons_append, cut?, if_pos hsize, hrest, ih]
    rfl

/-- The text between two others is a slice. -/
theorem slice?_append (before cs after : List Char) :
    slice? (before ++ (cs ++ after)) (byteLength before) (byteLength before + byteLength cs) =
      some cs := by
  have hle : byteLength before ≤ byteLength before + byteLength cs := by omega
  have hlength : byteLength before + byteLength cs - byteLength before = byteLength cs := by omega
  unfold slice?
  rw [if_pos hle, cut?_append, Option.bind_some, hlength, cut?_append]
  rfl

/-! ## Separators -/

/-- The pieces of a text between the separators; a text without any is one piece. -/
def split (sep : Char) : List Char → List (List Char)
  | [] => [[]]
  | c :: cs =>
    if c = sep then [] :: split sep cs
    else
      match split sep cs with
      | [] => [[c]]
      | piece :: pieces => (c :: piece) :: pieces

/-- Pieces with a separator between them. -/
def join (sep : Char) : List (List Char) → List Char
  | [] => []
  | [piece] => piece
  | piece :: pieces => piece ++ sep :: join sep pieces

/-- Some stretch of the text is the word. -/
def hasInfix (word : List Char) : List Char → Bool
  | [] => word.isEmpty
  | c :: cs => word.isPrefixOf (c :: cs) || hasInfix word cs

/-- There is always a piece, if only an empty one. -/
theorem split_ne_nil (sep : Char) (cs : List Char) : split sep cs ≠ [] := by
  cases cs with
  | nil => simp [split]
  | cons c cs =>
    simp only [split]
    split
    · simp
    · split <;> simp

/-- The pieces with the separator between them are the text again. -/
theorem join_split (sep : Char) (cs : List Char) : join sep (split sep cs) = cs := by
  induction cs with
  | nil => rfl
  | cons c cs ih =>
    simp only [split]
    cases hs : split sep cs with
    | nil => exact absurd hs (split_ne_nil sep cs)
    | cons piece pieces =>
      rw [hs] at ih
      split
      · subst_vars
        simp [join]
      · rw [← ih]
        cases pieces <;> rfl

/-- No separator is left inside a piece. -/
theorem notMem_of_mem_split {sep : Char} {cs piece : List Char} (h : piece ∈ split sep cs) :
    sep ∉ piece := by
  induction cs generalizing piece with
  | nil =>
    rw [List.mem_singleton.mp h]
    exact List.not_mem_nil
  | cons c cs ih =>
    simp only [split] at h
    split at h
    · rcases List.mem_cons.mp h with rfl | hmem
      · exact List.not_mem_nil
      · exact ih hmem
    · rename_i hc
      cases hs : split sep cs with
      | nil => exact absurd hs (split_ne_nil sep cs)
      | cons first pieces =>
        rw [hs] at h ih
        rcases List.mem_cons.mp h with rfl | hmem
        · intro hsep
          rcases List.mem_cons.mp hsep with heq | hin
          · exact hc heq.symm
          · exact ih List.mem_cons_self hin
        · exact ih (List.mem_cons_of_mem first hmem)

/-- A text without a separator is its only piece. -/
theorem split_of_notMem {sep : Char} {cs : List Char} (h : sep ∉ cs) : split sep cs = [cs] := by
  induction cs with
  | nil => rfl
  | cons c cs ih =>
    have hc : c ≠ sep := fun heq => h (heq ▸ List.mem_cons_self)
    have hcs : sep ∉ cs := fun hmem => h (List.mem_cons_of_mem c hmem)
    rw [split, if_neg hc, ih hcs]

/-- What stands after a separator is cut off what stands before it. -/
theorem split_append_cons (sep : Char) (cs ds : List Char) :
    split sep (cs ++ sep :: ds) = split sep cs ++ split sep ds := by
  induction cs with
  | nil =>
    show split sep (sep :: ds) = [] :: split sep ds
    rw [split, if_pos rfl]
  | cons c cs ih =>
    rw [List.cons_append, split, split, ih]
    split
    · rfl
    · cases hs : split sep cs with
      | nil => exact absurd hs (split_ne_nil sep cs)
      | cons piece pieces => rfl

/-- The first piece ends where the first separator stands. -/
theorem exists_split_eq_cons (sep : Char) (cs : List Char) :
    ∃ pieces, split sep cs = cs.takeWhile (· ≠ sep) :: pieces := by
  induction cs with
  | nil => exact ⟨[], rfl⟩
  | cons c cs ih =>
    obtain ⟨pieces, hpieces⟩ := ih
    rw [split]
    by_cases hc : c = sep
    · rw [if_pos hc, List.takeWhile_cons_of_neg (by simpa using hc)]
      exact ⟨_, rfl⟩
    · rw [if_neg hc, hpieces, List.takeWhile_cons_of_pos (by simpa using hc)]
      exact ⟨pieces, rfl⟩

end CodecGen.Text
