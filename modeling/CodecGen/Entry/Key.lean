import CodecGen.Entry.Primitive

/-!
# Keys of entries

A type is converted by its entry. A key says which one that is: the entry of a primitive type, or
of a shape that declared types have, each for values and for pointers.
-/

namespace CodecGen

/-- The shapes of declared types that the codec library tells apart. -/
inductive Wildcard where
  | struct
  | array
  | any
  deriving DecidableEq, Repr, Inhabited

namespace Wildcard

/-- All shapes. -/
def all : List Wildcard :=
  [struct, array, any]

/-- The word for a shape. -/
def label : Wildcard → String
  | struct => "struct"
  | array => "array"
  | any => "any"

end Wildcard

/-- What an entry is for, pointers apart. -/
inductive EntryBase where
  | primitive (p : Primitive)
  | wildcard (w : Wildcard)
  deriving DecidableEq, Repr, Inhabited

/-- The name of what an entry is for. -/
def EntryBase.name : EntryBase → String
  | primitive p => p.spelling
  | wildcard w => w.label

/-- The key of an entry. -/
structure EntryKey where
  /-- What the entry is for. -/
  base : EntryBase
  /-- The entry is for pointers to it. -/
  pointer : Bool
  deriving DecidableEq, Repr, Inhabited

namespace EntryKey

/-- A key as text: its name, after an asterisk for pointers. -/
def text (k : EntryKey) : String :=
  if k.pointer then "*" ++ k.base.name else k.base.name

/-- The standard package that declares the type that the entry is for. Declared types have none. -/
def package? (k : EntryKey) : Option StdPackage :=
  match k.base with
  | .primitive p => p.package?
  | .wildcard _ => none

/-- All bases of keys. -/
def bases : List EntryBase :=
  Primitive.all.map .primitive ++ Wildcard.all.map .wildcard

/-- All keys. -/
def all : List EntryKey :=
  bases.flatMap fun b => [⟨b, false⟩, ⟨b, true⟩]

/-- The key with a text. -/
def ofText? (text : String) : Option EntryKey :=
  all.find? fun k => k.text = text

/-- No key is missing from the list of all keys. -/
theorem mem_all (k : EntryKey) : k ∈ all := by
  obtain ⟨base, pointer⟩ := k
  refine List.mem_flatMap.2 ⟨base, ?_, by cases pointer <;> simp⟩
  cases base with
  | primitive p => exact List.mem_append_left _ (List.mem_map_of_mem (Primitive.mem_all p))
  | wildcard w => cases w <;> decide

end EntryKey

end CodecGen
