import CodecGen.Pattern.Parser
import CodecGen.Tag.Policy

/-!
# Settings of a run

What a user may set: which pairs of tags count, the layout of times, what the generated file is
called and imports, and which types are generated. `validate` says what is wrong with settings;
`TypeFilter` is the choice of types, with its pattern read.
-/

namespace CodecGen

/-- The settings of a run. -/
structure GenConfig where
  /-- The key of the tag's pair with the naming rules. -/
  tagNamespace : String := "gojay"
  /-- The key of the tag's pair with the layout of times. -/
  formatTag : String := "fmt"
  /-- The layout of times where the tag gives none. -/
  defaultTimeFormat : String := "time.RFC3339"
  /-- The path that the generated file imports the codec library by. -/
  importPath : String := "github.com/francoispqt/gojay"
  /-- The package of the generated file, if not that of the declarations. -/
  package : Option String := none
  /-- The only types that are generated; all of them where the list is empty. -/
  types : List String := []
  /-- The pattern that the names of generated types match. -/
  typePattern : Option String := none
  deriving DecidableEq, Repr, Inhabited

/-- What can be wrong with settings. -/
inductive ConfigError where
  /-- A setting is blank. -/
  | blank (setting : String)
  /-- Both keys of tags are the same. -/
  | sameKeys (key : String)
  /-- The pattern for types cannot be read. -/
  | badPattern (pattern : String)
  deriving DecidableEq, Repr, Inhabited

/-- The message for a fault of settings. -/
def ConfigError.message (e : ConfigError) : String :=
  "Invalid configuration: " ++
    match e with
    | blank setting => setting ++ " is empty"
    | sameKeys key => "tag_namespace and format_tag are both \x60" ++ key ++ "\x60"
    | badPattern pattern => "type_pattern \x60" ++ pattern ++ "\x60 is not a valid regex"

/-- The choice of the types that are generated. -/
structure TypeFilter where
  /-- The only names that are chosen; any name where the list is empty. -/
  names : List String
  /-- The pattern that chosen names match. -/
  pattern : Option Pattern
  deriving Repr, Inhabited

namespace TypeFilter

/-- The choice of all types. -/
def all : TypeFilter :=
  ⟨[], none⟩

/-- A name is chosen. -/
def accepts (f : TypeFilter) (name : String) : Bool :=
  (f.names.isEmpty || f.names.contains name) && f.pattern.all (·.isMatch name)

end TypeFilter

namespace GenConfig

/-- How tags are read. -/
def tagRules (c : GenConfig) : TagRules :=
  ⟨c.tagNamespace, c.formatTag, c.defaultTimeFormat⟩

/-- The choice of types. -/
def typeFilter (c : GenConfig) : Except ConfigError TypeFilter :=
  match c.typePattern with
  | none => .ok ⟨c.types, none⟩
  | some text =>
    match Pattern.ofText? text with
    | some p => .ok ⟨c.types, some p⟩
    | none => .error (.badPattern text)

/-- Fail if a setting is blank. -/
private def checkBlank (setting value : String) : Except ConfigError Unit :=
  if Text.isBlankText value then .error (.blank setting) else .ok ()

/-- Fail at the first thing that is wrong with settings. -/
def validate (c : GenConfig) : Except ConfigError Unit := do
  checkBlank "tag_namespace" c.tagNamespace
  checkBlank "format_tag" c.formatTag
  if c.tagNamespace = c.formatTag then throw (.sameKeys c.tagNamespace)
  checkBlank "default_time_format" c.defaultTimeFormat
  checkBlank "import_path" c.importPath
  let _ ← c.typeFilter

end GenConfig

end CodecGen
