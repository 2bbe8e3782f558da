import CodecGen.FileTree
import CodecGen.Package.FromJson
import CodecGen.Package.FromYaml
import CodecGen.Package.Parser

/-!
# Loading declarations

The declarations of all inputs together. An input is a file, or a directory that stands for the
source files in it; what kind of file it is shows in its name. A file that cannot be read or does
not hold declarations is left out and listed, but a directory that cannot be listed is a failure.
A source that a tool wrote says so on a line of its own, and is not read for declarations.
-/

namespace CodecGen

/-! ## Files that tools wrote -/

/-- How a marker line begins. -/
def markerOpening : List Char :=
  "// Code generated ".toList

/-- How a marker line ends. -/
def markerClosing : List Char :=
  " DO NOT EDIT.".toList

/-- The line begins and ends as a marker line does, and the two ends do not overlap. -/
def isMarkerLine (line : List Char) : Bool :=
  markerOpening.isPrefixOf line &&
    markerClosing.isSuffixOf (line.drop markerOpening.length)

/-- Some line of the source is a marker line. -/
def isGenerated (source : String) : Bool :=
  (Text.split '\n' source.toList).any isMarkerLine

/-! ## Files -/

/-- Why a file has no declarations to give. -/
inductive LoadFault where
  /-- There is no text to read. -/
  | unreadable
  /-- Its name is not that of a source file or a declaration document. -/
  | unsupported
  /-- It is not source text. -/
  | source (e : SourceError)
  /-- It is not a declaration document. -/
  | document
  deriving DecidableEq, Repr, Inhabited

/-- The message for a file that has no declarations to give. -/
def LoadFault.message (path : String) : LoadFault → String
  | unreadable => "Failed to read " ++ path
  | unsupported => "Unsupported input " ++ path ++ " (expected .go, .json, .yaml)"
  | source e => "Failed to parse " ++ path ++ ": " ++ e.message
  | document => "Invalid declaration document " ++ path

/-- The declarations in the text of a file, by the extension of its name; none where a tool wrote
the file. -/
def readDeclarations (extension : Option String) (text : String) :
    Logged LoadFault (Option Package) :=
  let document (p : Option Package) : Logged LoadFault (Option Package) :=
    if p.isSome then pure p else .fail .document
  match extension with
  | some "go" =>
    if isGenerated text then pure none
    else do pure (some (← (Package.parse text).mapError .source))
  | some "json" => document (Package.ofJson? text)
  | some "yaml" | some "yml" => document (Package.ofYaml? text)
  | _ => .fail .unsupported

/-- The declarations in the file that a path leads to; none where a tool wrote the file. -/
def loadFile (t : FileTree) (path : String) : Logged LoadFault (Option Package) :=
  match t.read? path with
  | none => .fail .unreadable
  | some text => readDeclarations (FileTree.extension? path) text

/-- The name is that of a source file, and not of a test. -/
def isSourceName (name : String) : Bool :=
  ".go".toList.isSuffixOf name.toList && !"_test.go".toList.isSuffixOf name.toList

/-- The source files of a directory, in the order of their names. -/
def sourceNames (t : FileTree) (dir : Location) : List String :=
  ((t.namesIn dir).filter isSourceName).mergeSort fun a b => decide (a ≤ b)

/-- The input does not lead to a directory whose entries cannot be listed. -/
def canList (t : FileTree) (input : String) : Bool :=
  (t.dirAt? input).all fun dir => !t.hidden.contains dir

/-- The files that an input stands for. -/
def inputFiles (t : FileTree) (input : String) : List String :=
  match t.dirAt? input with
  | some dir => (sourceNames t dir).map (FileTree.join input)
  | none => [input]

/-- The declarations of some inputs. -/
structure Loaded where
  /-- The declarations. -/
  package : Package
  /-- The files that were left out. -/
  failed : List String
  deriving Repr, Inhabited

namespace Loaded

/-- Nothing. -/
def empty : Loaded :=
  ⟨.empty, []⟩

/-- No file was left out. -/
def isComplete (l : Loaded) : Bool :=
  l.failed.isEmpty

/-- Add the declarations of a file. -/
def add (l : Loaded) (path : String) (r : Except LoadFault (Option Package)) : Loaded :=
  match r with
  | .ok none => l
  | .ok (some p) => { l with package := l.package.merge p }
  | .error _ => { l with failed := l.failed ++ [path] }

end Loaded

/-- Load some inputs in order, with every directory among them listed. -/
def load (t : FileTree) (inputs : List String) : Loaded :=
  (inputs.flatMap (inputFiles t)).foldl (fun l path => l.add path (loadFile t path).result) .empty

/-- Load some inputs in order. The first directory among them that cannot be listed is a failure of
the whole. -/
def load? (t : FileTree) (inputs : List String) : Except String Loaded :=
  match inputs.find? (!canList t ·) with
  | some input => .error input
  | none => .ok (load t inputs)

/-- The notes left by loading a file. -/
def loadNotes (t : FileTree) (path : String) : List Note :=
  let r := loadFile t path
  r.notes ++
    match r.result with
    | .ok none => [⟨.debug, "skipping generated file " ++ path⟩]
    | .ok (some p) =>
      [⟨.debug, path ++ ": package " ++ p.name ++ ", " ++ toString p.decls.length ++ " types"⟩]
    | .error e => [⟨.error, e.message path⟩]

end CodecGen
