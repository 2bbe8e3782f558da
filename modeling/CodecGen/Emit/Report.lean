import CodecGen.Config.Basic
import CodecGen.Emit.Container
import CodecGen.Emit.Struct

/-!
# A generation pass

Every chosen struct, array and map declaration of a package is generated in turn. The drivers write
into text of their own and note the packages that it needs; both are moved to the generated file
where a declaration succeeds, and dropped where it fails.
-/

namespace CodecGen

/-- A generated type. -/
structure Summary where
  /-- Its name. -/
  name : String
  /-- The kind of its declaration. -/
  kind : DeclKind
  /-- The number of keys reported for it. -/
  keys : Nat
  deriving DecidableEq, Repr, Inhabited

/-- A type that could not be generated. -/
structure Failure where
  /-- Its name. -/
  name : String
  /-- Why it could not be generated. -/
  error : GenError
  deriving DecidableEq, Repr, Inhabited

/-- The message for a type that could not be generated. -/
def Failure.message (f : Failure) : String :=
  "cannot generate \x60" ++ f.name ++ "\x60: " ++ f.error.message

/-- The outcome of a generation pass. -/
structure Report where
  /-- The text of the generated file; empty where nothing was generated. -/
  output : String
  /-- The generated types, in order. -/
  generated : List Summary
  /-- The types that could not be generated, in order. -/
  failures : List Failure
  deriving DecidableEq, Repr, Inhabited

/-- No type failed. -/
def Report.isSuccess (r : Report) : Bool :=
  r.failures.isEmpty

/-- Write the code for a declaration; none where its kind is not generated. -/
def emitDecl? (s : Setting) (d : TypeDecl) : Option (Drive Nat) :=
  match d.type with
  | .struct fields => some (emitStruct s d.name fields)
  | .array _ elem => some (emitArray s d.name elem)
  | .map key value => some (emitMap s d.name key value)
  | _ => none

/-- What a pass has gathered. -/
structure PassState where
  /-- The packages noted by the drivers since they were taken from them. -/
  pending : List StdPackage
  /-- The text of the types generated so far. -/
  body : String
  /-- The packages that this text needs, with repeats. -/
  imports : List StdPackage
  /-- The types generated so far. -/
  generated : List Summary
  /-- The types that could not be generated so far. -/
  failures : List Failure
  deriving DecidableEq, Repr, Inhabited

namespace PassState

/-- The state before the first declaration. -/
def start : PassState :=
  ⟨[], "", [], [], []⟩

/-- The packages that a driver needs are noted while it writes, also when it fails later. -/
def noteImports (st : PassState) (code : List Fragment) : PassState :=
  { st with pending := st.pending ++ Fragment.importsOf code }

/-- Drop what the drivers noted. -/
def dropPending (st : PassState) : PassState :=
  { st with pending := [] }

/-- Move the text for a declaration and what the drivers noted for it to the generated file. -/
def accept (st : PassState) (summary : Summary) (text : String) : PassState :=
  { st with
    pending := []
    body := st.body ++ text
    imports := st.imports ++ st.pending
    generated := st.generated ++ [summary] }

/-- Record a declaration that could not be generated. -/
def reject (st : PassState) (failure : Failure) : PassState :=
  { st.dropPending with failures := st.failures ++ [failure] }

/-- Generate one declaration. -/
def step (s : Setting) (filter : TypeFilter) (st : PassState) (d : TypeDecl) :
    Logged GenError PassState := do
  let kind := (DeclKind.of d.type).label
  if !filter.accepts d.name then
    Logged.note .debug (d.name ++ ": not selected")
    pure st
  else
    match emitDecl? s d with
    | none =>
      Logged.note .debug (d.name ++ ": " ++ kind ++ " declarations are not generated")
      pure st.dropPending
    | some drive =>
      let st := st.noteImports drive.code
      Logged.leave drive.notes
      match drive.result with
      | .ok keys =>
        Logged.note .debug (d.name ++ ": generated " ++ kind ++ " (" ++ toString keys ++ " keys)")
        pure (st.accept ⟨d.name, .of d.type, keys⟩ (Fragment.textOf drive.code))
      | .error e =>
        Logged.note .debug (d.name ++ ": aborted: " ++ e.message)
        pure (st.reject ⟨d.name, e⟩)

end PassState

/-- The header of a generated file. -/
def header (package importPath : String) (imports : List StdPackage) : Fragment :=
  .frame .header [(.package, .text package), (.importPath, .text importPath),
    (.imports, .list (imports.map fun p => .text p.path))]

/-- The packages of a list, each once and in order. -/
def StdPackage.sorted (ps : List StdPackage) : List StdPackage :=
  StdPackage.all.filter ps.contains

/-- The package of a generated file. -/
def GenConfig.packageFor (c : GenConfig) (p : Package) : String :=
  c.package.getD p.name

/-- The text of the generated file; empty where nothing was generated. -/
def PassState.output (c : GenConfig) (package : String) (st : PassState) :
    Except GenError String :=
  if st.generated.isEmpty then .ok ""
  else do
    let head ← (header package c.importPath (StdPackage.sorted st.imports)).render
    return head ++ st.body

/-- Generate the declarations of a package that a filter chooses, with the names of types looked up
in a table. -/
def generateWith (c : GenConfig) (filter : TypeFilter) (table : TypeTable) (p : Package) :
    Logged GenError Report := do
  let package := c.packageFor p
  let st ← p.decls.foldlM (PassState.step ⟨c.tagRules, table⟩ filter) .start
  let output ← Logged.ofExcept (st.output c package)
  Logged.note .info ("package " ++ package ++ ": " ++ toString st.generated.length ++
    " types generated, " ++ toString st.failures.length ++ " failed")
  pure ⟨output, st.generated, st.failures⟩

/-- Generate the declarations of a package that a filter chooses, with the names of types looked up
among them. -/
def generate (c : GenConfig) (filter : TypeFilter) (p : Package) : Logged GenError Report :=
  generateWith c filter (.ofPackage p) p

end CodecGen
