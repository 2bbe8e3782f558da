import CodecGen.Proofs.Tag.Literal
import CodecGen.Proofs.Token.Layout
import CodecGen.Tag.Policy

/-!
# Two spellings of a tag

A text can be written as a raw literal or as an interpreted one. Both are tokens, and both have the
text as their content (`content?_rawLiteral`, `content?_interpretedLiteral`), so that they decide
the same for a field (`TagRules.policy_eq_of_content?`).
-/

namespace CodecGen

namespace Tag

/-- A text as a raw literal. -/
def rawLiteral (text : String) : String :=
  "\x60" ++ text ++ "\x60"

/-- How a character is written in an interpreted literal. -/
def escape (c : Char) : List Char :=
  if c = '\\' then ['\\', '\\']
  else if c = '"' then ['\\', '"']
  else if c = '\n' then ['\\', 'n']
  else [c]

/-- What follows the opening quote of an interpreted literal of some characters. -/
def escapedBody (cs : List Char) : List Char :=
  cs.flatMap escape ++ ['"']

/-- A text as an interpreted literal. -/
def interpretedLiteral (text : String) : String :=
  String.ofList ('"' :: escapedBody text.toList)

/-- The characters of a raw literal are those of the text between two backquotes. -/
theorem toList_rawLiteral (text : String) :
    (rawLiteral text).toList = '\x60' :: (text.toList ++ ['\x60']) := by
  simp [rawLiteral]

/-- The characters of an interpreted literal are a quote and the escaped text with another one. -/
theorem toList_interpretedLiteral (text : String) :
    (interpretedLiteral text).toList = '"' :: escapedBody text.toList :=
  String.toList_ofList

/-! ## Tokens -/

/-- Escaped characters end where the quote stands. -/
theorem quotedBody_escapedBody (cs : List Char) : Token.QuotedBody '"' (escapedBody cs) := by
  induction cs with
  | nil => exact .close
  | cons c cs ih =>
    have hcons : escapedBody (c :: cs) = escape c ++ escapedBody cs := by
      simp [escapedBody]
    rw [hcons]
    unfold escape
    split_ifs with hback hquote hline
    · exact .escape (by decide) ih
    · exact .escape (by decide) ih
    · exact .escape (by decide) ih
    · exact .char hquote hline hback ih

/-! ## Contents -/

/-- An escape by letter is decoded to the character that it stands for. -/
theorem decode?_escape {c d : Char} (h : escaped? c = some d) (cs : List Char) :
    decode? ('\\' :: c :: cs) = (decode? cs).map (d :: ·) := by
  rw [decode?, h]
  · cases decode? cs <;> rfl
  -- the escapes by number are none of these
  all_goals
    rintro rfl
    cases h

/-- What was escaped is decoded to itself. -/
theorem decode?_flatMap_escape (cs : List Char) : decode? (cs.flatMap escape) = some cs := by
  induction cs with
  | nil => rw [List.flatMap_nil, decode?]
  | cons c cs ih =>
    have hcons : decode? ((c :: cs).flatMap escape) =
        (decode? (cs.flatMap escape)).map (c :: ·) := by
      rw [List.flatMap_cons]
      unfold escape
      split_ifs with hback hquote hline
      · subst hback
        exact decode?_escape rfl _
      · subst hquote
        exact decode?_escape rfl _
      · subst hline
        exact decode?_escape rfl _
      · exact decode?_cons_of_isPlainChar (by simp [isPlainChar, hback, hquote, hline]) _
    rw [hcons, ih]
    rfl

/-- Text between two delimiters has no blanks at its ends. -/
theorem trim_enclosed {delimiter : Char} (h : Text.isBlank delimiter = false) (cs : List Char) :
    Text.trim (delimiter :: (cs ++ [delimiter])) = delimiter :: (cs ++ [delimiter]) := by
  have hdrop : ∀ ds : List Char, (delimiter :: ds).dropWhile Text.isBlank = delimiter :: ds :=
    fun ds => List.dropWhile_cons_of_neg (by simp [h])
  have hreverse : (delimiter :: (cs ++ [delimiter])).reverse =
      delimiter :: (cs.reverse ++ [delimiter]) := by
    simp
  unfold Text.trim
  rw [hdrop, hreverse, hdrop, ← hreverse, List.reverse_reverse]

/-- What stands before the last delimiter of a text that ends with it is the rest of the text. -/
theorem beforeLast?_concat (delimiter : Char) (cs : List Char) :
    beforeLast? delimiter (cs ++ [delimiter]) = some cs := by
  rw [beforeLast?, if_pos (by simp), List.dropLast_concat]

/-- A raw literal has its text as content. -/
theorem content?_rawLiteral (text : String) : content? (rawLiteral text) = some text := by
  unfold content?
  rw [toList_rawLiteral, trim_enclosed (by decide)]
  show some (String.ofList ((beforeLast? '\x60' (text.toList ++ ['\x60'])).getD _)) = _
  rw [beforeLast?_concat, Option.getD_some, String.ofList_toList]

/-- An interpreted literal has its text as content. -/
theorem content?_interpretedLiteral (text : String) :
    content? (interpretedLiteral text) = some text := by
  unfold content?
  rw [toList_interpretedLiteral, escapedBody, trim_enclosed (by decide)]
  show (unquote? ('"' :: (text.toList.flatMap escape ++ ['"']))).map String.ofList = _
  rw [unquote?, beforeLast?_concat, Option.bind_some, decode?_flatMap_escape, Option.map_some,
    String.ofList_toList]

end Tag

/-- A tag decides by its content. -/
theorem TagRules.policy_eq_of_content? {literal literal' : String}
    (h : Tag.content? literal = Tag.content? literal') (r : TagRules) :
    r.policy (some literal) = r.policy (some literal') := by
  have hread : Tag.read literal = Tag.read literal' := by
    unfold Tag.read
    rw [h]
  unfold policy
  rw [Option.map_some, Option.map_some, hread]

end CodecGen
