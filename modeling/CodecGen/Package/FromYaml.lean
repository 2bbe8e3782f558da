import CodecGen.Package.Document
import CodecGen.Yaml.Node

/-!
# Declarations in YAML

A record is written as a map; unknown keys are passed over, and known ones may not be repeated.
Texts are scalars of any style, whatever else a plain scalar might stand for. A variant is written
as a map with one key, or as a scalar where it has no content. Where a list or a record is expected,
nothing at all stands for an empty one. Aliases are followed where a node is read, but not too often
for the size of the document.
-/

namespace CodecGen

namespace Yaml.Node

/-- The text of a scalar. -/
def text? : Node → Option String
  | scalar _ _ text => some text
  | _ => none

/-- Nothing is written, or a plain scalar of no characters. -/
def isMissing : Node → Bool
  | scalar .plain _ "" => true
  | _ => false

/-- The words that stand for none. -/
def isNullWord (text : String) : Bool :=
  text ∈ ["null", "Null", "NULL", "~"]

/-- The tag that marks a node as none. -/
def nullTag : Tag :=
  .ofText "tag:yaml.org,2002:null"

/-- A text, or none for a plain scalar that stands for it. -/
def optionalText? : Node → Option (Option String)
  | scalar .plain (some tag) text =>
    if tag = nullTag then if isNullWord text then some none else none else some (some text)
  | scalar .plain none text =>
    if text.isEmpty || isNullWord text then some none else some (some text)
  | scalar .quoted _ text => some (some text)
  | _ => none

/-- A tag that no variant is written with. -/
def isLocalTag (tag : Option Tag) : Bool :=
  tag.any Tag.isLocal

/-- A tag that marks a scalar as a value of some other type than text. -/
def isValueTag (tag : Option Tag) : Bool :=
  tag.any fun t =>
    t = nullTag || ["bool", "int", "float"].any fun type =>
      t = .ofText ("tag:yaml.org,2002:" ++ type)

end Yaml.Node

namespace Yaml.Document

/-- Reading in which only so many more aliases are followed. -/
abbrev Follow := StateT Nat Option

/-- The node that is meant where a node stands: an alias is followed. -/
def resolve (d : Document) (v : DocNode Node) : Follow (DocNode Node) :=
  match v.node with
  | .aliasOf number => do
    let left ← get
    if left = 0 then failure
    set (left - 1)
    match d.anchors[number]? with
    | some n => return ⟨n, v.depth⟩
    | none => failure
  | .anchored _ n => return ⟨n, v.depth⟩
  | _ => return v

/-- A text, by the reader for scalars. -/
def scalar {α : Type} (d : Document) (read? : Node → Option α) (v : DocNode Node) : Follow α := do
  let v ← d.resolve v
  StateT.lift (read? v.node)

/-- The items of a list. -/
def list (d : Document) (v : DocNode Node) : Follow (List (DocNode Node)) := do
  let v ← d.resolve v
  match v.node with
  | .list _ items => do
    v.enter
    return items.map v.within
  | n => if n.isMissing then return [] else failure

/-- The value of the only pair with a key; it is an error for two pairs to have it. -/
def valueOf {ν : Type} (pairs : List (String × ν)) (key : String) : Follow (Option ν) :=
  match pairs.filter fun p => p.1 = key with
  | [] => return none
  | [p] => return some p.2
  | _ => failure

/-- The values of a record for its names, in order. -/
def record (d : Document) (names : List String) (v : DocNode Node) :
    Follow (List (Option (DocNode Node))) := do
  let v ← d.resolve v
  match v.node with
  | .map _ pairs => do
    v.enter
    let pairs ← pairs.mapM fun p => do
      return (← d.scalar Node.text? (v.within p.1), v.within p.2)
    names.mapM (valueOf pairs)
  | n => if n.isMissing then return names.map fun _ => none else failure

/-- A variant with or without content. -/
def variant (d : Document) (v : DocNode Node) : Follow (String × Option (DocNode Node)) := do
  let v ← d.resolve v
  match v.node with
  | .scalar _ tag text =>
    if Node.isLocalTag tag || Node.isValueTag tag then failure else return (text, none)
  | .map tag [(k, content)] => do
    if Node.isLocalTag tag then failure
    v.enter
    return (← d.scalar Node.text? (v.within k), some (v.within content))
  | _ => failure

/-- How the nodes of a YAML document are taken in declaration documents. A variant without content
is never written as a map. -/
def docView (d : Document) : DocView Follow (DocNode Node) where
  text := d.scalar Node.text?
  optionalText := d.scalar Node.optionalText?
  list := d.list
  record := d.record
  variant := d.variant
  unit _ := failure

/-- How often aliases are followed in a document. -/
def maxFollowed (d : Document) : Nat :=
  100 * d.root.size

end Yaml.Document

/-- The deepest nesting of lists and maps in a YAML declaration document. -/
def maxYamlDepth : Nat := 128

/-- The package that a YAML document declares. -/
def Package.ofYaml? (text : String) : Option Package := do
  let d ← Yaml.Document.ofText? text
  (d.docView.package (maxYamlDepth + 1) ⟨d.root, maxYamlDepth⟩).run' d.maxFollowed

end CodecGen
