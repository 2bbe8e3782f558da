import CodecGen.Json.Basic
import CodecGen.Package.Document

/-!
# Declarations in JSON

A record is written as an object, or as an array of its values in order; unknown members of an
object are passed over, and known ones may not be repeated. A variant is written as an object with
one member, or as a string where it has no content.
-/

namespace CodecGen

namespace Json

/-- The text of a string that has one. -/
def text? : Json → Option String
  | string text => text
  | _ => none

/-- A text, or none for a null. -/
def optionalText? : Json → Option (Option String)
  | null => some none
  | v => v.text?.map some

/-- The items of an array. -/
def list? (v : DocNode Json) : Option (List (DocNode Json)) :=
  match v.node with
  | array items => do
    v.enter
    return items.map v.within
  | _ => none

/-- The value of the only member with a name; it is an error for two members to have it. -/
def memberOf? (members : List (Option String × Json)) (name : String) : Option (Option Json) :=
  match members.filter fun m => m.1 = some name with
  | [] => some none
  | [m] => some (some m.2)
  | _ => none

/-- The values of a record for its names, in order. -/
def values? (names : List String) : Json → Option (List (Option Json))
  | object members => if members.all (·.1.isSome) then names.mapM (memberOf? members) else none
  | array items =>
    if items.length ≤ names.length then
      some (items.map some ++ List.replicate (names.length - items.length) none)
    else none
  | _ => none

/-- The values of a record for its names, in order. -/
def record? (names : List String) (v : DocNode Json) : Option (List (Option (DocNode Json))) := do
  let values ← values? names v.node
  v.enter
  return values.map fun value => value.map v.within

/-- A variant with or without content. -/
def variant? (v : DocNode Json) : Option (String × Option (DocNode Json)) :=
  match v.node with
  | string text => text.map (·, none)
  | object [(some name, content)] => do
    v.enter
    return (name, some (v.within content))
  | _ => none

/-- A null stands for no content. -/
def unit? : Json → Option Unit
  | null => some ()
  | _ => none

/-- How JSON values are taken in declaration documents. -/
def docView : DocView Option (DocNode Json) where
  text v := v.node.text?
  optionalText v := v.node.optionalText?
  list := list?
  record := record?
  variant := variant?
  unit v := v.node.unit?

end Json

/-- The deepest nesting of arrays and objects in a JSON declaration document. -/
def maxJsonDepth : Nat := 127

/-- The package that a JSON document declares. -/
def Package.ofJson? (text : String) : Option Package := do
  Json.docView.package (maxJsonDepth + 1) ⟨← Json.ofText? text, maxJsonDepth⟩

end CodecGen
