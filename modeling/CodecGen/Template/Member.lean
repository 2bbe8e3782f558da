import CodecGen.Tag.Policy
import CodecGen.Template.Params
import CodecGen.Template.Style
import CodecGen.Text.Basic

/-!
# Member templates

The code that converts one member: a field of a struct, the values of a map or the elements of an
array, in either direction. `EntryKey.template` has six templates for each entry, written from the
entry's style, and says how their parameters are built.
-/

namespace CodecGen

namespace Style

open Template (text hole)

/-- The end of a call of a codec method, from what it is given after the value on. -/
def callEnd (s : Style) : Template :=
  s.extra ++ text ")"

/-- Encode a field under its key. -/
def fieldMarshal (s : Style) : Template :=
  text ("\tenc." ++ s.stem ++ "Key") ++ (if s.omits then hole .omitEmpty else []) ++
    text "(\"" ++ hole .key ++ text ("\", " ++ s.passing.mark ++ "v.") ++ hole .field ++
    s.callEnd ++ text "\n"

/-- Set up the target of a pointer field. -/
def fieldTarget (s : Style) : Template :=
  match s.target with
  | .zero => text "v." ++ hole .field ++ text " = new(" ++ s.type ++ text ")"
  | .literal | .pointer => text "v." ++ hole .field ++ text " = &" ++ s.type ++ text "\x7b\x7d"
  | .make =>
    text "arr := make(" ++ s.type ++ text ", 0)\n\t\t\tv." ++ hole .field ++ text " = &arr"

/-- Decode a field. A pointer is given a target first if it has none. -/
def fieldUnmarshal (s : Style) : Template :=
  (if s.pointer then
    text "\t\tif v." ++ hole .field ++ text " == nil \x7b\n\t\t\t" ++ s.fieldTarget ++
      text "\n\t\t\x7d\n"
  else []) ++
    text ("\t\treturn dec." ++ s.stem ++ "(" ++ (if s.pointer then "" else "&") ++ "v.") ++
    hole .field ++ s.callEnd ++ text "\n"

/-- Encode all values of a map under their keys. -/
def entryMarshal (s : Style) : Template :=
  text (if s.copies then "\tfor k := range v \x7b\n\t\t" ++ s.letter ++ " := v[k]\n"
    else "\tfor k, " ++ s.letter ++ " := range v \x7b\n") ++
    text ("\t\tenc." ++ s.stem ++ "Key(k, " ++ s.passing.mark ++ s.letter) ++ s.callEnd ++
    text "\n\t\x7d\n"

/-- Encode all elements of an array. -/
def elementMarshal (s : Style) : Template :=
  text (if s.byIndex then "\tfor i := range *v \x7b\n"
    else "\tfor _, " ++ s.letter ++ " := range *v \x7b\n") ++
    text ("\t\tenc." ++ s.stem ++ "(" ++ s.passing.mark ++
      (if s.byIndex then "(*v)[i]" else s.letter)) ++ s.callEnd ++
    text "\n\t\x7d\n"

/-- What follows the name in the declaration of a value to decode into. -/
def creationText (s : Style) : Template :=
  match s.creation with
  | .zero => text " " ++ s.type
  | .literal => text " = " ++ s.type ++ text "\x7b\x7d"
  | .pointer => text " = &" ++ s.type ++ text "\x7b\x7d"
  | .make => text " = make(" ++ s.type ++ text ", 0)"

/-- Decode one value into a variable. -/
def decodeOne (s : Style) : Template :=
  text ("\tvar " ++ s.letter) ++ s.creationText ++
    text ("\n\tif err := dec." ++ s.stem ++ "(" ++ (if s.creation = .pointer then "" else "&") ++
      s.letter) ++ s.callEnd ++
    text "; err != nil \x7b\n\t\treturn err\n\t\x7d\n"

/-- How a decoded value is put into its map or array. -/
def stored (s : Style) : String :=
  if s.pointer && s.creation ≠ .pointer then "&" ++ s.letter else s.letter

/-- Decode a value of a map and put it under its key. -/
def entryUnmarshal (s : Style) : Template :=
  s.decodeOne ++ text ("\tv[k] = " ++ s.stored ++ "\n")

/-- Decode an element of an array and append it. -/
def elementUnmarshal (s : Style) : Template :=
  s.decodeOne ++ text ("\t*v = append(*v, " ++ s.stored ++ ")\n")

/-- The template for members in a slot and a direction. -/
def template (s : Style) : Slot → Direction → Template
  | .field, .marshal => s.fieldMarshal
  | .field, .unmarshal => s.fieldUnmarshal
  | .entry, .marshal => s.entryMarshal
  | .entry, .unmarshal => s.entryUnmarshal
  | .element, .marshal => s.elementMarshal
  | .element, .unmarshal => s.elementUnmarshal

end Style

/-- A template for members, with its name, the building of its parameters, and the package that it
names. -/
structure MemberTemplate where
  /-- The name by which messages speak of it. -/
  name : String
  /-- The text with holes. -/
  body : Template
  /-- Which optional part its parameters carry. -/
  builder : Builder
  /-- The package of the entry's type, where the text spells the type out. -/
  package? : Option StdPackage
  deriving Repr, Inhabited

/-- A fixed text of a template contains a word. -/
def Template.spells (t : Template) (word : String) : Bool :=
  t.fixed.any fun s => Text.hasInfix word.toList s.toList

/-- The optional part that the parameters of an entry's templates carry. The encoding of a field has
no need of the type's name. -/
def EntryKey.builder (k : EntryKey) (slot : Slot) (d : Direction) : Builder :=
  match k.base with
  | .primitive p => if p = .time then .time else .basic
  | .wildcard _ => if slot = .field ∧ d = .marshal then .basic else .named

/-- The template of an entry for members in a slot and a direction. -/
def EntryKey.template (k : EntryKey) (slot : Slot) (d : Direction) : MemberTemplate where
  name := k.text ++ "." ++ slot.label ++ "." ++ d.label
  body := k.style.template slot d
  builder := k.builder slot d
  package? := k.package?.filter fun p => (k.style.template slot d).spells p.qualifier

/-- The expression begins with the qualifier of a package. -/
def StdPackage.qualifies (p : StdPackage) (expression : String) : Bool :=
  p.qualifier.toList.isPrefixOf expression.toList

namespace MemberTemplate

/-- The code from a template needs a package: its fixed text names it, or it writes a time layout
that the package declares. -/
def needs (t : MemberTemplate) (layout : String) (p : StdPackage) : Bool :=
  t.package? = some p || (p = .time && t.body.asks .format && p.qualifies layout)

/-- The packages that the code from a template needs, in order. -/
def imports (t : MemberTemplate) (layout : String) : List StdPackage :=
  StdPackage.all.filter (t.needs layout)

/-- The code for a member. -/
def render? (t : MemberTemplate) (i : MemberInput) : Option String :=
  t.body.render? (t.builder.params i).env

end MemberTemplate

end CodecGen
