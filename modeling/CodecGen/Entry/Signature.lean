import CodecGen.Entry.Key
import CodecGen.Journal
import CodecGen.Package.Basic

/-!
# Which entry a type has

A member is converted by the entry of its type. `Signature.ofField`, `ofMapValue` and
`ofArrayElement` read the name and the pointer mark off a type expression; `Signature.resolve?`
looks the name up among the primitive types first, and then among the declared types, whose kind
decides.
-/

namespace CodecGen

/-- Why no code can be written. -/
inductive GenError where
  /-- A type expression of this shape has no signature. -/
  | unknownType (shape : String)
  /-- A template mentions something that it is given no value for. -/
  | render (template : String)
  deriving DecidableEq, Repr, Inhabited

/-- The message for a failure to write code. -/
def GenError.message : GenError → String
  | unknownType shape => "unknown type: " ++ shape
  | render template =>
    "template \x60" ++ template ++ "\x60 failed to render: Failed to render '" ++ template ++ "'"

/-- The name of a type and whether a pointer to it is meant. -/
structure Signature where
  /-- The name, with its qualifier and a dot before it where it has one. -/
  name : String
  /-- A pointer is meant. -/
  pointer : Bool
  deriving DecidableEq, Repr, Inhabited

namespace Signature

/-- A signature as text: its name, after an asterisk for pointers. -/
def text (s : Signature) : String :=
  if s.pointer then "*" ++ s.name else s.name

/-- The signature of a type named, qualified or not; no other expression has one. -/
def ofName (pointer : Bool) : GoType → Except GenError Signature
  | .ident name => .ok ⟨name, pointer⟩
  | .selector (.ident qualifier) name => .ok ⟨qualifier ++ "." ++ name, pointer⟩
  | .selector qualifier _ => .error (.unknownType qualifier.shape)
  | type => .error (.unknownType type.shape)

/-- The signature of a field's type: a name, qualified or not, or a pointer to one. -/
def ofField : GoType → Except GenError Signature
  | .pointer elem => ofName true elem
  | type => ofName false type

/-- The signature of the type of a map's values: as for fields. -/
def ofMapValue (type : GoType) : Except GenError Signature :=
  ofField type

/-- The signature of the type of an array's elements: a name without qualifier or a pointer to one.
-/
def ofArrayElement : GoType → Except GenError Signature
  | .ident name => .ok ⟨name, false⟩
  | .pointer (.ident name) => .ok ⟨name, true⟩
  | .pointer elem => .error (.unknownType elem.shape)
  | type => .error (.unknownType type.shape)

/-- The key of a signature whose name spells a primitive type. -/
def primitiveKey? (s : Signature) : Option EntryKey :=
  (Primitive.ofName? s.name).map fun p => ⟨.primitive p, s.pointer⟩

end Signature

/-- The shape that stands for declarations of a kind. -/
def DeclKind.wildcard : DeclKind → Wildcard
  | struct => .struct
  | array => .array
  | map | other => .any

/-- The entry found for a type. -/
structure Resolved where
  /-- Its key. -/
  key : EntryKey
  /-- The name of the declared type that the entry stands for, if it is not a primitive type. -/
  concrete : Option String
  deriving DecidableEq, Repr, Inhabited

namespace Signature

/-- The entry of a type by its signature. -/
def resolve? (s : Signature) (table : TypeTable) : Option Resolved :=
  match s.primitiveKey? with
  | some key => some ⟨key, none⟩
  | none => (table.kind? s.name).map fun kind =>
      ⟨⟨.wildcard kind.wildcard, s.pointer⟩, some s.name⟩

/-- The notes left by looking for the entry of a type. -/
def resolveNotes (s : Signature) (table : TypeTable) : List Note :=
  match s.resolve? table with
  | some ⟨key, some _⟩ =>
    [⟨.trace, s.text ++ " resolved through user type table as " ++ key.text⟩]
  | _ => []

end Signature

end CodecGen
