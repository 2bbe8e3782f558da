import CodecGen.Template.Basic

/-!
# Parameters of member templates

What is known about the member that code is written for, and the records that templates are filled
from. A record carries the layout of times or the name of the member's type only where the template
asks for it.
-/

namespace CodecGen

/-- Where in a declared type a member stands. -/
inductive Slot where
  /-- A field of a struct. -/
  | field
  /-- The values of a map. -/
  | entry
  /-- The elements of an array. -/
  | element
  deriving DecidableEq, Repr, Inhabited

namespace Slot

/-- All slots. -/
def all : List Slot :=
  [field, entry, element]

/-- The word for the kind of type that has such slots. -/
def label : Slot → String
  | field => "struct"
  | entry => "map"
  | element => "array"

end Slot

/-- What is known about the member that code is written for. -/
structure MemberInput where
  /-- Where it stands. -/
  slot : Slot
  /-- The declared type around it. -/
  owner : String
  /-- The name of the field; empty outside structs. -/
  field : String
  /-- The key it is encoded under; empty outside structs. -/
  key : String
  /-- What the name of the encoder method ends in. -/
  omitEmpty : String
  /-- The expression for the layout of times. -/
  layout : String
  /-- The declared type of the member, where its entry stands for a shape. -/
  concrete : Option String
  deriving DecidableEq, Repr, Inhabited

/-- The record that a member template is filled from. -/
inductive Params where
  /-- For a field of a struct. -/
  | field (field key omitEmpty : String) (format typeName : Option String)
  /-- For the values of a map. -/
  | entry (owner : String) (format typeName : Option String)
  /-- For the elements of an array. -/
  | element (owner : String) (format typeName : Option String)
  deriving DecidableEq, Repr, Inhabited

namespace Params

/-- The record of a member with the given optional parts. -/
def build (i : MemberInput) (format typeName : Option String) : Params :=
  match i.slot with
  | .field => .field i.field i.key i.omitEmpty format typeName
  | .entry => .entry i.owner format typeName
  | .element => .element i.owner format typeName

/-- Where the member stands. -/
def slot : Params → Slot
  | field .. => .field
  | entry .. => .entry
  | element .. => .element

/-- The parts of a record, the optional ones only where they are present. -/
def parts : Params → List (Var × String)
  | field f k o format typeName =>
    [(.field, f), (.key, k), (.omitEmpty, o)] ++ optional format typeName
  | entry owner format typeName => (.owner, owner) :: optional format typeName
  | element owner format typeName => (.owner, owner) :: optional format typeName
where
  /-- The optional parts. -/
  optional (format typeName : Option String) : List (Var × String) :=
    (format.map fun s => (Var.format, s)).toList ++ (typeName.map fun s => (Var.typeName, s)).toList

/-- The values that a record gives to holes. -/
def env (p : Params) : Env :=
  fun var => (p.parts.lookup var).map .text

end Params

/-- Which optional part the record of a template carries. -/
inductive Builder where
  /-- None. -/
  | basic
  /-- The layout of times. -/
  | time
  /-- The name of the member's type. -/
  | named
  deriving DecidableEq, Repr, Inhabited

/-- The record of a member. A member without a declared type of its own is named after the type
around it. -/
def Builder.params (b : Builder) (i : MemberInput) : Params :=
  match b with
  | basic => .build i none none
  | time => .build i (some i.layout) none
  | named => .build i none (some (i.concrete.getD i.owner))

end CodecGen
