import CodecGen.Cli.Run

/-!
# The program

Reads the files that the arguments speak of into a tree, runs on it, and does what comes of the run.
-/

open CodecGen CodecGen.Cli

/-- A path leads to a directory. -/
def isDirectory (path : String) : IO Bool := do
  try
    (← IO.FS.realPath path).isDir
  catch _ =>
    return false

/-- The entries of a directory, or none where they cannot be listed. -/
def directoryEntries? (path : String) : IO (Option (Array IO.FS.DirEntry)) := do
  try
    return some (← (← IO.FS.realPath path).readDir)
  catch _ =>
    return none

/-- Add the file at a path to a tree, if there is one. -/
def addFileAt (t : FileTree) (l : Location) (path : String) : IO FileTree := do
  try
    return t.addFile l (String.fromUTF8? (← IO.FS.readBinFile path))
  catch _ =>
    return t

/-- Add to a tree what a path leads to: the directories on the way, and the file at its end or the
source files of the directory there. -/
def addPath (t : FileTree) (path : String) : IO FileTree := do
  let mut t := t
  let names := FileTree.pathNames path
  for n in [1:names.length] do
    let way := "/".intercalate (names.take n)
    let way := if way.isEmpty then "/" else way
    if ← isDirectory way then
      if let some l := t.locate? way then t := t.addDir l
  let some l := t.locate? path | return t
  if !(← isDirectory path) then return ← addFileAt t l path
  t := t.addDir l
  match ← directoryEntries? path with
  | none => return t.hide l
  | some entries =>
    for e in entries do
      if isSourceName e.fileName && !(← e.path.isDir) then
        t ← addFileAt t (l ++ [e.fileName]) (FileTree.join path e.fileName)
    return t

/-- The files that a run with some options can see. -/
def visibleFiles (o : Options) : IO FileTree :=
  (o.config.toList ++ o.inputs ++ o.output.toList).foldlM addPath .empty

/-- Run on the files that the arguments speak of. -/
def main (args : List String) : IO UInt32 := do
  let options := Options.ofArgs args
  let outcome := run (← options.toOption.elim (pure .empty) visibleFiles) args
  let verbose := options.toOption.any (·.verbose)
  for note in Note.upTo (if verbose then .debug else .info) outcome.notes do
    IO.eprintln note.line
  IO.print outcome.stdout
  match outcome.written with
  | none => return outcome.exit.toUInt32
  | some (path, text) =>
    try
      IO.FS.writeFile path text
      return outcome.exit.toUInt32
    catch e =>
      IO.eprintln e.toString
      return failure.toUInt32
