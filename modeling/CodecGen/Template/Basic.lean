/-!
# Templates

A template is fixed text with holes in it. Each hole names what goes there; `Template.render?` fills
the holes from an environment, and has no text where one of them has no value. What is put into a
hole is never read as a template.
-/

namespace CodecGen

/-- What holes of templates ask for. -/
inductive Var where
  | typeName
  | owner
  | field
  | key
  | omitEmpty
  | format
  | nKeys
  | package
  | importPath
  | imports
  deriving DecidableEq, Repr, Inhabited

/-- The name of what a hole asks for. -/
def Var.label : Var → String
  | typeName => "type_name"
  | owner => "owner"
  | field => "field"
  | key => "key"
  | omitEmpty => "omit_empty"
  | format => "format"
  | nKeys => "n_keys"
  | package => "package"
  | importPath => "import_path"
  | imports => "imports"

/-- A value for a hole. -/
inductive Value where
  | text (s : String)
  | number (n : Int)
  | bool (b : Bool)
  | null
  | list (items : List Value)
  /-- A value with named parts, which has no text of its own. -/
  | record
  deriving Repr, Inhabited

namespace Value

mutual

/-- A value as text. -/
def render : Value → String
  | text s => s
  | number n => toString n
  | bool b => if b then "true" else "false"
  | null => ""
  | list items => "[" ++ renderItems items ++ "]"
  | record => "[object]"

/-- The items of a list as text, with commas between them. -/
def renderItems : List Value → String
  | [] => ""
  | [v] => v.render
  | v :: w :: vs => v.render ++ ", " ++ renderItems (w :: vs)

end

/-- The items that a value consists of: those of a list, or the characters of a text. -/
def items? : Value → Option (List Value)
  | list items => some items
  | text s => some (s.toList.map fun c => text (String.ofList [c]))
  | _ => none

end Value

/-- A piece of a template. -/
inductive Piece where
  /-- Text as it stands. -/
  | text (s : String)
  /-- A value. -/
  | hole (var : Var)
  /-- A line for each item of a value, the item in quotes, and a blank line after them if there are
  any. -/
  | importLines (var : Var)
  deriving DecidableEq, Repr, Inhabited

/-- Fixed text with holes. -/
abbrev Template := List Piece

/-- The template of a text as it stands. -/
abbrev Template.text (s : String) : Template :=
  [.text s]

/-- The template of one hole. -/
abbrev Template.hole (var : Var) : Template :=
  [.hole var]

/-- Values for holes. -/
abbrev Env := Var → Option Value

/-- The line for one import. -/
def importLine (item : Value) : String :=
  "\t\"" ++ item.render ++ "\"\n"

/-- The text of a piece with its holes filled. -/
def Piece.render? (env : Env) : Piece → Option String
  | text s => some s
  | hole var => (env var).map Value.render
  | importLines var =>
    ((env var).bind Value.items?).map fun items =>
      String.join (items.map importLine) ++ if items.isEmpty then "" else "\n"

namespace Template

/-- The text of a template with its holes filled. -/
def render? (t : Template) (env : Env) : Option String :=
  (t.mapM (Piece.render? env)).map String.join

/-- The template asks for a value. -/
def asks (t : Template) (var : Var) : Bool :=
  t.contains (.hole var)

/-- The fixed texts of a template: before the first value, between values, and after the last. -/
def fixed : Template → List String
  | [] => [""]
  | .text s :: t => (s ++ (fixed t).headD "") :: (fixed t).tail
  | .hole _ :: t | .importLines _ :: t => "" :: fixed t

@[simp] theorem render?_nil (env : Env) : render? [] env = some "" := rfl

/-- A template has a text where its first piece and the rest of it have one. -/
@[simp] theorem render?_cons (p : Piece) (t : Template) (env : Env) :
    render? (p :: t) env = (p.render? env).bind fun a => (render? t env).map (a ++ ·) := by
  unfold render?
  rw [List.mapM_cons]
  cases p.render? env with
  | none => rfl
  | some a => cases t.mapM (Piece.render? env) <;> simp

/-- Templates one after another have their texts one after another. -/
@[simp] theorem render?_append (t u : Template) (env : Env) :
    render? (t ++ u) env = (render? t env).bind fun a => (render? u env).map (a ++ ·) := by
  unfold render?
  rw [List.mapM_append]
  cases t.mapM (Piece.render? env) with
  | none => rfl
  | some a => cases u.mapM (Piece.render? env) <;> simp [String.join_append]

end Template

end CodecGen
