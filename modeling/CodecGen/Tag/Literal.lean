import CodecGen.Text.Basic
import CodecGen.Text.RangeSet

/-!
# String literals

What string literals denote. `unquote?` decodes an interpreted literal, `content?` a tag literal of
either kind.
-/

namespace CodecGen.Tag

open CodecGen.Text

/-- The character that a one-letter escape stands for. -/
def escaped? : Char → Option Char
  | 'n' => some '\n'
  | 't' => some '\t'
  | 'r' => some '\r'
  | 'a' => some '\x07'
  | 'b' => some '\x08'
  | 'f' => some '\x0c'
  | 'v' => some '\x0b'
  | '\\' => some '\\'
  | '"' => some '"'
  | '\'' => some '\''
  | _ => none

/-- The number that hexadecimal digits write, at least one of them; a plus sign may come first. -/
def hexNumber? (cs : List Char) : Option Nat :=
  let digits :=
    match cs with
    | '+' :: rest => rest
    | _ => cs
  if digits.isEmpty then none
  else digits.foldlM (fun n c => (RangeSet.hexDigit? c).map (16 * n + ·)) 0

/-- The character with the number that hexadecimal digits write. -/
def hexChar? (cs : List Char) : Option Char := do
  let n ← hexNumber? cs
  if n.isValidChar then some (Char.ofNat n) else none

/-- What stands between the quotes of an interpreted literal, decoded. The escapes by number take
two and four characters, or those that are left. -/
def decode? : List Char → Option (List Char)
  | [] => some []
  | ['\\'] => none
  | '\\' :: 'x' :: cs => return (← hexChar? (cs.take 2)) :: (← decode? (cs.drop 2))
  | '\\' :: 'u' :: cs => return (← hexChar? (cs.take 4)) :: (← decode? (cs.drop 4))
  | '\\' :: c :: cs => return (← escaped? c) :: (← decode? cs)
  | c :: cs => if c = '"' ∨ c = '\n' then none else return c :: (← decode? cs)
termination_by cs => cs.length
decreasing_by all_goals simp only [List.length_cons, List.length_drop]; omega

/-- The text inside a pair of delimiters, from the character after the opening one on. -/
def beforeLast? (delimiter : Char) (cs : List Char) : Option (List Char) :=
  if cs.getLast? = some delimiter then some cs.dropLast else none

/-- Decode an interpreted literal with its quotes. -/
def unquote? : List Char → Option (List Char)
  | '"' :: cs => (beforeLast? '"' cs).bind decode?
  | _ => none

/-- The text of a tag literal: that of a raw literal as it stands, that of an interpreted literal
decoded. What is no literal is its own text. Blanks around the literal do not count. -/
def content? (literal : String) : Option String :=
  let cs := trim literal.toList
  match cs with
  | '\x60' :: rest => some (String.ofList ((beforeLast? '\x60' rest).getD cs))
  | '"' :: _ => (unquote? cs).map String.ofList
  | _ => some (String.ofList cs)

end CodecGen.Tag
