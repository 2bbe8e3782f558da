import CodecGen.Tag.Literal

/-!
# Text between double quotes

Which text an interpreted literal denotes when some text is put between double quotes as it stands:
that text if every character of it is plain (`denotes_quoted_self_iff`), and something shorter or
nothing at all otherwise.
-/

namespace CodecGen.Tag

/-- An interpreted literal denotes a text. -/
def Denotes (literal value : String) : Prop :=
  unquote? literal.toList = some value.toList

instance (literal value : String) : Decidable (Denotes literal value) :=
  inferInstanceAs (Decidable (_ = _))

/-- The character stands for itself between double quotes. -/
def isPlainChar (c : Char) : Bool :=
  c ≠ '"' && c ≠ '\\' && c ≠ '\n'

/-- Every character of the text stands for itself between double quotes. -/
def isPlainText (text : String) : Bool :=
  text.toList.all isPlainChar

/-- A text between double quotes, as it stands. -/
def quoted (text : String) : String :=
  "\"" ++ text ++ "\""

/-- A character that stands for itself is decoded as itself. -/
theorem decode?_cons_of_isPlainChar {c : Char} (h : isPlainChar c = true) (cs : List Char) :
    decode? (c :: cs) = (decode? cs).map (c :: ·) := by
  simp only [isPlainChar, Bool.and_eq_true, decide_eq_true_eq] at h
  obtain ⟨⟨hquote, hslash⟩, hline⟩ := h
  rw [decode?]
  · rw [if_neg (by simp [hquote, hline])]
    cases decode? cs <;> rfl
  all_goals simp [hslash]

/-- A text of such characters denotes itself. -/
theorem decode?_of_all_plain {cs : List Char} (h : cs.all isPlainChar = true) :
    decode? cs = some cs := by
  induction cs with
  | nil => rw [decode?]
  | cons c cs ih =>
    rw [List.all_cons, Bool.and_eq_true] at h
    obtain ⟨hc, hcs⟩ := h
    rw [decode?_cons_of_isPlainChar hc, ih hcs]
    rfl

/-- What is decoded after an escape is one character and what is decoded of the rest. -/
theorem escape_eq_some {x : Option Char} {y : Option (List Char)} {ds : List Char}
    (h : (do return (← x) :: (← y)) = some ds) : ∃ c es, y = some es ∧ ds = c :: es := by
  cases x with
  | none => cases h
  | some c =>
    cases y with
    | none => cases h
    | some es =>
      cases h
      exact ⟨c, es, rfl, rfl⟩

/-- Text is decoded to itself if it is plain, and to less otherwise: an escape takes two characters
or more and stands for one. -/
theorem plain_or_shorter_of_decode? {cs ds : List Char} (h : decode? cs = some ds) :
    (cs.all isPlainChar = true ∧ ds = cs) ∨ ds.length < cs.length := by
  have hle : ∀ {es rest : List Char}, (rest.all isPlainChar = true ∧ es = rest) ∨
      es.length < rest.length → es.length ≤ rest.length := by
    rintro es rest (⟨-, rfl⟩ | hlt)
    · exact Nat.le_refl _
    · exact Nat.le_of_lt hlt
  fun_induction decode? cs generalizing ds with
  | case1 =>
    cases h
    exact .inl ⟨rfl, rfl⟩
  | case2 => cases h
  | case3 cs ih =>
    obtain ⟨c, es, hes, rfl⟩ := escape_eq_some h
    have hlen := hle (ih hes)
    right
    simp only [List.length_cons, List.length_drop] at hlen ⊢
    omega
  | case4 cs ih =>
    obtain ⟨c, es, hes, rfl⟩ := escape_eq_some h
    have hlen := hle (ih hes)
    right
    simp only [List.length_cons, List.length_drop] at hlen ⊢
    omega
  | case5 c cs _ _ ih =>
    obtain ⟨d, es, hes, rfl⟩ := escape_eq_some h
    have hlen := hle (ih hes)
    right
    simp only [List.length_cons]
    omega
  | case6 => cases h
  | case7 c cs hlast hx hu hescape hc ih =>
    cases hes : decode? cs with
    | none =>
      rw [hes] at h
      cases h
    | some es =>
      rw [hes] at h
      cases h
      -- a backslash would have begun an escape, or stood at the end
      have hslash : c ≠ '\\' := by
        intro hc
        cases cs with
        | nil => exact hlast hc rfl
        | cons c' cs' => exact hescape c' cs' hc rfl
      rcases ih hes with ⟨hplain, rfl⟩ | hlt
      · left
        refine ⟨?_, rfl⟩
        rw [not_or] at hc
        simp [isPlainChar, hc.1, hc.2, hslash, hplain]
      · right
        simp only [List.length_cons]
        omega

/-- Text is decoded to itself if and only if it is plain. -/
theorem decode?_eq_self_iff (cs : List Char) :
    decode? cs = some cs ↔ cs.all isPlainChar = true := by
  constructor
  · intro h
    rcases plain_or_shorter_of_decode? h with ⟨hplain, -⟩ | hlt
    · exact hplain
    · exact absurd hlt (Nat.lt_irrefl _)
  · exact decode?_of_all_plain

/-- A text between double quotes is decoded as it stands. -/
theorem unquote?_quoted (text : String) :
    unquote? (quoted text).toList = decode? text.toList := by
  have hchars : (quoted text).toList = '"' :: (text.toList ++ ['"']) := by
    simp [quoted]
  rw [hchars, unquote?, beforeLast?, if_pos (by simp), List.dropLast_concat]
  rfl

/-- A text between double quotes is a literal that denotes it if and only if it is plain. -/
theorem denotes_quoted_self_iff (text : String) :
    Denotes (quoted text) text ↔ isPlainText text = true := by
  unfold Denotes isPlainText
  rw [unquote?_quoted]
  exact decode?_eq_self_iff text.toList

/-- Plain texts between double quotes denote different values if they are different. -/
theorem eq_of_denotes_quoted {text text' value : String} (hplain : isPlainText text = true)
    (hplain' : isPlainText text' = true) (h : Denotes (quoted text) value)
    (h' : Denotes (quoted text') value) : text = text' := by
  have hself := (denotes_quoted_self_iff text).mpr hplain
  have hself' := (denotes_quoted_self_iff text').mpr hplain'
  unfold Denotes at h h' hself hself'
  rw [h] at hself
  rw [h', hself] at hself'
  exact String.toList_inj.mp (Option.some.inj hself')

end CodecGen.Tag
