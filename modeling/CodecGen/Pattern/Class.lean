import CodecGen.Text.Age
import CodecGen.Text.Break
import CodecGen.Text.Property.Case
import CodecGen.Text.Property.Emoji
import CodecGen.Text.Property.Grapheme
import CodecGen.Text.Property.Identifier
import CodecGen.Text.Property.Symbol
import CodecGen.Text.ScriptExtension

/-!
# Classes of characters in patterns

The classes that patterns name: those written as one letter after a backslash, those written between
colons, and the properties of the character standard, whose names are compared loosely.
-/

namespace CodecGen.Text

/-- The characters with the property of the given name; none where the name is unknown. -/
def property? (name : String) : Option RangeSet :=
  [alphabetProperty?, caseProperty?, identifierProperty?, symbolProperty?, graphemeProperty?,
    emojiProperty?].findSome? fun find? => find? name

end CodecGen.Text

namespace CodecGen.Pattern

open CodecGen.Text

/-- The digits, blanks or word characters that a letter stands for; all of them, or only those of
ASCII. -/
def letterClass? (unicode : Bool) (letter : Char) : Option RangeSet :=
  match letter, unicode with
  | 'd', true => some (Category.unionOf [.decimalNumber])
  | 'd', false => some (RangeSet.ofText "30-39")
  | 's', true => some blankRanges
  | 's', false => some (RangeSet.ofText "9-D 20")
  | 'w', true => some wordRanges
  | 'w', false => some (RangeSet.ofText "30-39 41-5A 5F 61-7A")
  | _, _ => none

/-- The word characters, or only those of ASCII. -/
def wordClass (unicode : Bool) : RangeSet :=
  (letterClass? unicode 'w').getD .empty

/-- The ASCII class with a name, as written between colons. -/
def asciiClass? (name : String) : Option RangeSet :=
  match name with
  | "alnum" => some (RangeSet.ofText "30-39 41-5A 61-7A")
  | "alpha" => some (RangeSet.ofText "41-5A 61-7A")
  | "ascii" => some (RangeSet.ofText "0-7F")
  | "blank" => some (RangeSet.ofText "9 20")
  | "cntrl" => some (RangeSet.ofText "0-1F 7F")
  | "digit" => some (RangeSet.ofText "30-39")
  | "graph" => some (RangeSet.ofText "21-7E")
  | "lower" => some (RangeSet.ofText "61-7A")
  | "print" => some (RangeSet.ofText "20-7E")
  | "punct" => some (RangeSet.ofText "21-2F 3A-40 5B-60 7B-7E")
  | "space" => some (RangeSet.ofText "9-D 20")
  | "upper" => some (RangeSet.ofText "41-5A")
  | "word" => some (RangeSet.ofText "30-39 41-5A 5F 61-7A")
  | "xdigit" => some (RangeSet.ofText "30-39 41-46 61-66")
  | _ => none

/-- A name without the word `is` at its front, without blanks, hyphens, underscores and characters
outside ASCII, and in lower case. -/
def looseName (name : List Char) : String :=
  let body (cs : List Char) : String :=
    String.ofList ((cs.filter fun c =>
      c.val < 128 && c != ' ' && c != '_' && c != '-').map Char.toLower)
  match name with
  | i :: s :: rest =>
    if i.toLower = 'i' ∧ s.toLower = 's' then
      if body rest = "c" then "isc" else body rest
    else body name
  | _ => body name

/-- The characters in the general categories that a loose name stands for. -/
def categoryClass? (name : String) : Option RangeSet :=
  match name with
  | "any" => some .full
  | "ascii" => some (RangeSet.ofText "0-7F")
  | "assigned" => some (Category.ranges .unassigned).complement
  | _ => (Category.ofName? name).map fun cs => RangeSet.unionAll (cs.map Category.ranges)

/-- The characters of the script that a loose name stands for. -/
def scriptClass? (name : String) : Option RangeSet :=
  (Script.ofName? name).map Script.ranges

/-- The class that a property name stands for: a property, a general category or a script. Three
short names are those of categories, though properties have them too. -/
def namedClass? (name : List Char) : Option RangeSet :=
  let name := looseName name
  let property := if name ∈ ["cf", "sc", "lc"] then none else property? name
  (property <|> categoryClass? name) <|> scriptClass? name

/-- The class of the characters whose property has a value. -/
def valueClass? (property value : List Char) : Option RangeSet :=
  let value := looseName value
  match looseName property with
  | "generalcategory" | "gc" => categoryClass? value
  | "script" | "sc" => scriptClass? value
  | "scriptextensions" | "scx" => (Script.ofName? value).map Script.extendedRanges
  | "age" => Age.ranges? value
  | "graphemeclusterbreak" | "gcb" => GraphemeBreak.ranges? value
  | "wordbreak" | "wb" => WordBreak.ranges? value
  | "sentencebreak" | "sb" => SentenceBreak.ranges? value
  | _ => none

/-- Cut at the first occurrence of a character. -/
private def cutAt? (c : Char) (cs : List Char) : Option (List Char × List Char) :=
  if c ∈ cs then some (cs.takeWhile (· ≠ c), (cs.dropWhile (· ≠ c)).tail) else none

/-- Cut at the first inequality sign. -/
private def cutAtUnequal? : List Char → Option (List Char × List Char)
  | [] => none
  | '!' :: '=' :: rest => some ([], rest)
  | c :: rest => (cutAtUnequal? rest).map fun p => (c :: p.1, p.2)

/-- The class that the text between the braces of a property stands for, and whether an inequality
sign asks for all other characters. -/
def bracedClass? (text : List Char) : Option (RangeSet × Bool) :=
  match cutAtUnequal? text, cutAt? ':' text, cutAt? '=' text with
  | some (property, value), _, _ => (valueClass? property value).map (·, true)
  | none, some (property, value), _ => (valueClass? property value).map (·, false)
  | none, none, some (property, value) => (valueClass? property value).map (·, false)
  | none, none, none => (namedClass? text).map (·, false)

end CodecGen.Pattern
