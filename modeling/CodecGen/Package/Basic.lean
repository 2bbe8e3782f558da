import CodecGen.GoType

/-!
# Packages of declarations

The declared types of one package in order, the table by which names are looked up, and the coarse
kind of a declaration, which is all that the look-up is used for. Merging packages is associative,
with the empty package neutral.
-/

namespace CodecGen

/-- A declaration of a named type. -/
structure TypeDecl where
  /-- The declared name. -/
  name : String
  /-- What the name stands for. -/
  type : GoType
  deriving Repr, BEq, Inhabited

/-- The type declarations of a package, in order. -/
structure Package where
  /-- The name in the package clause. -/
  name : String
  /-- The declarations. -/
  decls : List TypeDecl
  deriving Repr, BEq, Inhabited

namespace Package

/-- The package without name and declarations. -/
def empty : Package :=
  ⟨"", []⟩

/-- A package with one more declaration at its end. -/
def withDecl (p : Package) (name : String) (type : GoType) : Package :=
  { p with decls := p.decls ++ [⟨name, type⟩] }

/-- All declarations of two packages under the name of the first, unless that is empty. -/
def merge (p q : Package) : Package :=
  ⟨if p.name.isEmpty then q.name else p.name, p.decls ++ q.decls⟩

/-- It does not matter how packages are grouped when they are merged. -/
theorem merge_assoc (p q r : Package) : (p.merge q).merge r = p.merge (q.merge r) := by
  unfold merge
  rw [Package.mk.injEq]
  refine ⟨?_, List.append_assoc _ _ _⟩
  by_cases hp : p.name.isEmpty = true
  · simp [hp]
  · simp [hp]

theorem empty_merge (p : Package) : empty.merge p = p :=
  rfl

theorem merge_empty (p : Package) : p.merge empty = p := by
  obtain ⟨name, decls⟩ := p
  unfold merge
  rw [Package.mk.injEq]
  refine ⟨?_, List.append_nil decls⟩
  by_cases h : name.isEmpty = true
  · rw [if_pos h]
    exact (String.isEmpty_iff.mp h).symm
  · rw [if_neg h]

end Package

/-- The kinds of declaration that are told apart. -/
inductive DeclKind where
  | struct
  | array
  | map
  | other
  deriving DecidableEq, Repr, Inhabited

namespace DeclKind

/-- The kind of a declaration of the given type. -/
def of : GoType → DeclKind
  | .struct _ => struct
  | .array _ _ => array
  | .map _ _ => map
  | _ => other

/-- The word for a kind. -/
def label : DeclKind → String
  | struct => "struct"
  | array => "array"
  | map => "map"
  | other => "other"

end DeclKind

/-- Declared types by name, each name once. -/
structure TypeTable where
  /-- The names with what they stand for. -/
  entries : List (String × GoType)
  deriving Repr, Inhabited

namespace TypeTable

/-- The table without names. -/
def empty : TypeTable :=
  ⟨[]⟩

/-- Declare a name. A later declaration takes the place of an earlier one. -/
def insert (t : TypeTable) (name : String) (type : GoType) : TypeTable :=
  ⟨(name, type) :: t.entries.filter fun e => e.1 ≠ name⟩

/-- What a name stands for. -/
def get? (t : TypeTable) (name : String) : Option GoType :=
  t.entries.lookup name

/-- The kind of declaration behind a name. -/
def kind? (t : TypeTable) (name : String) : Option DeclKind :=
  (t.get? name).map DeclKind.of

/-- The number of names. -/
def size (t : TypeTable) : Nat :=
  t.entries.length

/-- The table of the declarations of a package. -/
def ofPackage (p : Package) : TypeTable :=
  p.decls.foldl (fun t d => t.insert d.name d.type) empty

end TypeTable

end CodecGen
