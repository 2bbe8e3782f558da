/-!
# Type expressions

The type expressions that declarations are written with: names, pointers, slices and arrays, maps,
structs, and the kinds of type that carry no data to encode.
-/

namespace CodecGen

/-- One line of a struct body, over the expressions its type is written with. -/
structure FieldOf (τ : Type) where
  /-- The declared names; none for an embedded field. -/
  names : List String
  /-- The type that the names share. -/
  type : τ
  /-- The tag literal as written, delimiters included. -/
  tag : Option String
  deriving DecidableEq, Repr, BEq, Inhabited

/-- A type expression. -/
inductive GoType where
  /-- A plain name, such as `int` or `Person`. -/
  | ident (name : String)
  /-- A name of another package, such as `time.Time`. -/
  | selector (qualifier : GoType) (name : String)
  /-- A pointer to a type. -/
  | pointer (elem : GoType)
  /-- A slice, or an array where a length is given. -/
  | array (len : Option String) (elem : GoType)
  /-- A map from keys to values. -/
  | map (key value : GoType)
  /-- A struct with the given field lines. -/
  | struct (fields : List (FieldOf GoType))
  /-- An interface, its methods left out. -/
  | interface
  /-- A function type, its signature left out. -/
  | func
  /-- A channel. -/
  | chan (elem : GoType)
  deriving Repr, BEq, Inhabited

/-- One line of a struct body. -/
abbrev Field := FieldOf GoType

/-- A field without names embeds its type. -/
def FieldOf.isEmbedded {τ : Type} (f : FieldOf τ) : Bool :=
  f.names.isEmpty

namespace GoType

/-- The name of the outermost form of an expression, as messages give it. -/
def shape : GoType → String
  | ident _ => "Ident"
  | selector _ _ => "SelectorExpr"
  | pointer _ => "StarExpr"
  | array _ _ => "ArrayType"
  | map _ _ => "MapType"
  | struct _ => "StructType"
  | interface => "InterfaceType"
  | func => "FuncType"
  | chan _ => "ChanType"

/-- A name of the package with the given name. -/
def qualified (qualifier name : String) : GoType :=
  selector (ident qualifier) name

end GoType

end CodecGen
