import CodecGen.Entry.Signature

/-!
# Type expressions with a signature

Which type expressions have a signature, by their form alone. The error for any other names the
shape of one node of it: what stands under a pointer mark or before the dot of a selector, or the
expression itself.
-/

namespace CodecGen

namespace GoType

/-- A name, qualified by another name or not. -/
inductive IsName : GoType → Prop
  | ident (name : String) : IsName (.ident name)
  | qualified (qualifier name : String) : IsName (.qualified qualifier name)

/-- What fields and the values of maps may be: a name, qualified or not, or a pointer to one. -/
inductive IsMember : GoType → Prop
  | value {type : GoType} (h : IsName type) : IsMember type
  | pointer {elem : GoType} (h : IsName elem) : IsMember (.pointer elem)

/-- What the elements of arrays may be: a name without qualifier, or a pointer to one. -/
inductive IsElement : GoType → Prop
  | value (name : String) : IsElement (.ident name)
  | pointer (name : String) : IsElement (.pointer (.ident name))

/-- The node by which an expression is no name: the qualifier of a selector, or the expression. -/
def nameFault : GoType → GoType
  | .selector qualifier _ => qualifier
  | type => type

/-- The node by which an expression is nothing that a field may be. -/
def memberFault : GoType → GoType
  | .pointer elem => elem.nameFault
  | type => type.nameFault

/-- The node by which an expression is nothing that an element may be. -/
def elementFault : GoType → GoType
  | .pointer elem => elem
  | type => type

end GoType

namespace Signature

/-- Names have a signature. -/
theorem exists_of_isName {type : GoType} (h : type.IsName) (pointer : Bool) :
    ∃ signature, ofName pointer type = .ok signature := by
  cases h with
  | ident name => exact ⟨_, rfl⟩
  | qualified qualifier name => exact ⟨_, rfl⟩

/-- What is no name has none, for the sake of one node. -/
theorem ofName_of_not_isName {type : GoType} (h : ¬type.IsName) (pointer : Bool) :
    ofName pointer type = .error (.unknownType type.nameFault.shape) := by
  cases type with
  | ident name => exact absurd (.ident name) h
  | selector qualifier name =>
    cases qualifier with
    | ident q => exact absurd (.qualified q name) h
    | _ => rfl
  | _ => rfl

/-- Whatever a field may be has a signature. -/
theorem exists_of_isMember {type : GoType} (h : type.IsMember) :
    ∃ signature, ofField type = .ok signature := by
  cases h with
  | value h =>
    cases h with
    | ident name => exact ⟨_, rfl⟩
    | qualified qualifier name => exact ⟨_, rfl⟩
  | pointer h => exact exists_of_isName h true

/-- Whatever else a field is, it is refused, and the error shows the node by which it is. -/
theorem ofField_of_not_isMember {type : GoType} (h : ¬type.IsMember) :
    ofField type = .error (.unknownType type.memberFault.shape) := by
  have hname : ¬type.IsName := fun hname => h (.value hname)
  cases type with
  | pointer elem => exact ofName_of_not_isName (fun helem => h (.pointer helem)) true
  | selector qualifier name => exact ofName_of_not_isName hname false
  | ident name => exact absurd (.ident name) hname
  | _ => rfl

/-- Whatever an element may be has a signature. -/
theorem exists_of_isElement {type : GoType} (h : type.IsElement) :
    ∃ signature, ofArrayElement type = .ok signature := by
  cases h with
  | value name => exact ⟨_, rfl⟩
  | pointer name => exact ⟨_, rfl⟩

/-- Whatever else an element is, it is refused, and the error shows the node by which it is. -/
theorem ofArrayElement_of_not_isElement {type : GoType} (h : ¬type.IsElement) :
    ofArrayElement type = .error (.unknownType type.elementFault.shape) := by
  cases type with
  | ident name => exact absurd (.value name) h
  | pointer elem =>
    cases elem with
    | ident name => exact absurd (.pointer name) h
    | _ => rfl
  | _ => rfl

end Signature

end CodecGen
