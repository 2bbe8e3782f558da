import CodecGen.Package.Basic

/-!
# Declaration documents

Declarations can be given as a document, a tree of records, lists and texts in some data format.
What counts as a record, a list or a text is said for each format by a `DocView`; how a package is
read from them is the same for all.
-/

namespace CodecGen

/-- A node of a document, with how many containers may be entered from there on. -/
structure DocNode (ν : Type) where
  /-- The node. -/
  node : ν
  /-- How many containers may be entered. -/
  depth : Nat
  deriving Repr, Inhabited

namespace DocNode

variable {m : Type → Type} [Monad m] [MonadExceptOf Unit m] {ν : Type}

/-- A node of the container that a node is. -/
def within (container : DocNode ν) (v : ν) : DocNode ν :=
  ⟨v, container.depth - 1⟩

/-- Enter a container, of which there may not be too many inside each other. -/
def enter (v : DocNode ν) : m Unit :=
  if v.depth = 0 then throw () else pure ()

end DocNode

/-- How the nodes of a data format are read, where reading may fail. -/
structure DocView (m : Type → Type) (ν : Type) where
  /-- A text. -/
  text : ν → m String
  /-- A text or the mark for none. -/
  optionalText : ν → m (Option String)
  /-- A list. -/
  list : ν → m (List ν)
  /-- A record, as its values for the given names in order. -/
  record : List String → ν → m (List (Option ν))
  /-- A variant: its name by itself, or with what it holds. -/
  variant : ν → m (String × Option ν)
  /-- What a variant holds that has no content. -/
  unit : ν → m Unit

namespace DocView

variable {m : Type → Type} [Monad m] [MonadExceptOf Unit m] {ν : Type} (view : DocView m ν)

/-- A text that may be missing or marked as none. -/
def textOrNone : Option ν → m (Option String)
  | none => pure none
  | some v => view.optionalText v

/-- A list that may be missing and is empty then, by a reader for items. -/
def listOrEmpty {α : Type} (item : ν → m α) : Option ν → m (List α)
  | none => pure []
  | some v => do (← view.list v).mapM item

/-- A field, by a reader for its type. -/
def field (type : ν → m GoType) (v : ν) : m Field := do
  match ← view.record ["names", "ty", "tag"] v with
  | [names, some t, tag] =>
    return ⟨← view.listOrEmpty view.text names, ← type t, ← view.textOrNone tag⟩
  | _ => throw ()

/-- A type expression, in which fewer types than the given number lie inside each other. -/
def type : Nat → ν → m GoType
  | 0, _ => throw ()
  | levels + 1, v => do
    match ← view.variant v with
    | ("interface", none) => return .interface
    | ("func", none) => return .func
    | (_, none) => throw ()
    | (name, some content) =>
      match name with
      | "ident" => return .ident (← view.text content)
      | "pointer" => return .pointer (← type levels content)
      | "interface" => do
        view.unit content
        return .interface
      | "func" => do
        view.unit content
        return .func
      | "selector" =>
        match ← view.record ["qualifier", "name"] content with
        | [some q, some n] => return .selector (← type levels q) (← view.text n)
        | _ => throw ()
      | "array" =>
        match ← view.record ["len", "elem"] content with
        | [len, some e] => return .array (← view.textOrNone len) (← type levels e)
        | _ => throw ()
      | "map" =>
        match ← view.record ["key", "value"] content with
        | [some k, some e] => return .map (← type levels k) (← type levels e)
        | _ => throw ()
      | "chan" =>
        match ← view.record ["elem"] content with
        | [some e] => return .chan (← type levels e)
        | _ => throw ()
      | "struct" =>
        match ← view.record ["fields"] content with
        | [fields] => return .struct (← view.listOrEmpty (view.field (type levels)) fields)
        | _ => throw ()
      | _ => throw ()

/-- A declaration, of a type in which fewer types than the given number lie inside each other. -/
def decl (levels : Nat) (v : ν) : m TypeDecl := do
  match ← view.record ["name", "ty"] v with
  | [some n, some t] => return ⟨← view.text n, ← view.type levels t⟩
  | _ => throw ()

/-- A package, of types in which fewer types than the given number lie inside each other. -/
def package (levels : Nat) (v : ν) : m Package := do
  match ← view.record ["package", "types"] v with
  | [some p, types] => return ⟨← view.text p, ← view.listOrEmpty (view.decl levels) types⟩
  | _ => throw ()

end DocView

end CodecGen
