import CodecGen.Cli.Options
import CodecGen.Config.FromToml
import CodecGen.Emit.Report
import CodecGen.Load

/-!
# Runs of the tool

What a run does with the files it sees: the text it prints, the file it writes, and the code it ends
with. `run` takes the tree of files before the run and the arguments.
-/

namespace CodecGen.Cli

/-- What comes of a run. -/
structure Outcome where
  /-- The code that the run ends with. -/
  exit : Nat
  /-- The text that is printed. -/
  stdout : String
  /-- The path of the file that is written, with its text. -/
  written : Option (String × String)
  /-- The tree of files after the run. -/
  files : FileTree
  /-- The notes left by the run. -/
  notes : List Note
  deriving Repr, Inhabited

/-- A run that delivers nothing. -/
def Outcome.silent (t : FileTree) (exit : Nat) (notes : List Note) : Outcome :=
  ⟨exit, "", none, t, notes⟩

/-- The code for success. -/
def success : Nat := 0

/-- The code for a run that could not do all it was asked for. -/
def failure : Nat := 1

/-- The code for wrong arguments. -/
def usageError : Nat := 2

/-- The line that tells the version. -/
def versionLine : String :=
  "gojay-gen 0.3.0\n"

/-- The text that tells the options. -/
def helpText : String :=
  "Generate gojay marshal/unmarshal methods for Go types\n\n" ++
  "Usage: gojay-gen [OPTIONS] <INPUTS>...\n\n" ++
  "Arguments:\n" ++
  "  <INPUTS>...  Go files, package directories, or JSON/YAML declaration documents\n\n" ++
  "Options:\n" ++
  "  -o, --output <OUTPUT>    Output file (stdout when absent)\n" ++
  "  -p, --package <PACKAGE>  Package clause of the generated file\n" ++
  "  -t, --types <TYPES>      Only generate these types\n" ++
  "      --match <PATTERN>    Only generate types whose name matches this regex\n" ++
  "  -c, --config <CONFIG>    Configuration file (TOML)\n" ++
  "  -v, --verbose            Verbose mode (per-type and per-field decisions)\n" ++
  "  -h, --help               Print help\n" ++
  "  -V, --version            Print version\n"

/-- The settings with those of the options in place of their own. -/
def Options.override (o : Options) (c : GenConfig) : GenConfig :=
  { c with
    package := o.package <|> c.package
    types := if o.types.isEmpty then c.types else o.types
    typePattern := o.pattern <|> c.typePattern }

/-- The settings of the settings file, or the default ones where none is named. -/
def baseSettings (t : FileTree) (o : Options) : Option GenConfig :=
  match o.config with
  | none => some {}
  | some path => (t.read? path).bind fun text => (GenConfig.ofToml text).toOption

/-- The settings of a run, if they are valid. -/
def settings (t : FileTree) (o : Options) : Option GenConfig := do
  let c := o.override (← baseSettings t o)
  if c.validate.isOk then some c else none

/-- Deliver some text: to the output file, unless it holds just that, or else by printing it. The
result is the code of a run that ends well with `exit`. -/
def deliver (t : FileTree) (o : Options) (text : String) (exit : Nat) (notes : List Note) :
    Outcome :=
  if text.isEmpty then
    .silent t exit (notes ++ [⟨.warn, "nothing to generate"⟩])
  else
    match o.output with
    | none => ⟨exit, text, none, t, notes⟩
    | some path =>
      if t.read? path = some text then
        .silent t exit (notes ++ [⟨.info, path ++ " is up to date"⟩])
      else
        match t.write? path text with
        | none => .silent t failure (notes ++ [⟨.error, "Failed to write " ++ path⟩])
        | some t => ⟨exit, "", some (path, text), t, notes ++ [⟨.info, "wrote " ++ path⟩]⟩

/-- Generate code for loaded declarations and deliver it. -/
def generateLoaded (t : FileTree) (o : Options) (c : GenConfig) (l : Loaded) (notes : List Note) :
    Outcome :=
  match c.typeFilter with
  | .error _ => .silent t failure notes
  | .ok filter =>
    let pass := generate c filter l.package
    let notes := notes ++ pass.notes
    match pass.result with
    | .error e => .silent t failure (notes ++ [⟨.error, e.message⟩])
    | .ok r =>
      let notes := notes ++ r.failures.map fun f => ⟨.error, f.message⟩
      let exit := if r.isSuccess && l.isComplete then success else failure
      let outcome := deliver t o r.output exit notes
      let left := toString l.failed.length ++ " input(s) could not be loaded"
      if l.isComplete then outcome
      else { outcome with notes := outcome.notes ++ [⟨.error, left⟩] }

/-- The notes left by loading inputs. -/
def inputNotes (t : FileTree) (inputs : List String) (l : Loaded) : List Note :=
  (inputs.flatMap (inputFiles t)).flatMap (loadNotes t) ++
    if l.package.decls.isEmpty then [⟨.warn, "no type declarations found"⟩] else []

/-- The notes left by loading inputs up to one whose directory cannot be listed. -/
def listNotes (t : FileTree) (inputs : List String) (input : String) : List Note :=
  ((inputs.takeWhile (canList t)).flatMap (inputFiles t)).flatMap (loadNotes t) ++
    [⟨.error, "Failed to read directory " ++ input⟩]

/-- Run with the given options. -/
def runWith (t : FileTree) (o : Options) : Outcome :=
  match settings t o with
  | none => .silent t failure [⟨.error, "Invalid configuration"⟩]
  | some c =>
    match load? t o.inputs with
    | .error input => .silent t failure (listNotes t o.inputs input)
    | .ok l => generateLoaded t o c l (inputNotes t o.inputs l)

/-- Run with the given arguments. -/
def run (t : FileTree) (args : List String) : Outcome :=
  match Options.ofArgs args with
  | .ok o => runWith t o
  | .error .usage => .silent t usageError [⟨.error, "wrong arguments"⟩]
  | .error .version => ⟨success, versionLine, none, t, []⟩
  | .error .help => ⟨success, helpText, none, t, []⟩

end CodecGen.Cli
