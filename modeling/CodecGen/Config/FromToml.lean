import CodecGen.Config.Basic
import CodecGen.Toml.Document

/-!
# Settings in TOML

A settings file is a TOML document with an entry for each setting that differs from the default.
Other entries are passed over.
-/

namespace CodecGen

/-- Why a settings file cannot be used. -/
inductive SettingsFault where
  /-- It is not a document with settings. -/
  | unreadable
  /-- Its settings are wrong. -/
  | invalid (e : ConfigError)
  deriving DecidableEq, Repr, Inhabited

namespace Toml

/-- The text of a string. -/
def string? : Toml → Option String
  | string s => some s
  | _ => none

/-- The texts of an array of strings. -/
def strings? : Toml → Option (List String)
  | array items => items.mapM string?
  | _ => none

/-- The entry with a key, read, or a default where there is none. -/
def setting? {α : Type} (es : Entries) (key : String) (read : Toml → Option α) (default : α) :
    Option α :=
  match es.lookup key with
  | none => some default
  | some v => read v

end Toml

namespace GenConfig

/-- The settings in the entries of a document. -/
def ofEntries? (es : Toml.Entries) : Option GenConfig := do
  let d : GenConfig := {}
  return {
    tagNamespace := ← Toml.setting? es "tag_namespace" Toml.string? d.tagNamespace
    formatTag := ← Toml.setting? es "format_tag" Toml.string? d.formatTag
    defaultTimeFormat := ← Toml.setting? es "default_time_format" Toml.string? d.defaultTimeFormat
    importPath := ← Toml.setting? es "import_path" Toml.string? d.importPath
    package := ← Toml.setting? es "package" (·.string?.map some) d.package
    types := ← Toml.setting? es "types" Toml.strings? d.types
    typePattern := ← Toml.setting? es "type_pattern" (·.string?.map some) d.typePattern }

/-- Read settings from the text of a settings file. -/
def ofToml (text : String) : Except SettingsFault GenConfig :=
  match (Toml.ofText? text).bind ofEntries? with
  | none => .error .unreadable
  | some c => (c.validate.mapError .invalid).map fun _ => c

end GenConfig

end CodecGen
