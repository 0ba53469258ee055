import Locus.Command.Run

/-!
# The program

Looks up in the file system what the arguments name, runs, and prints the output. Of the files
below a directory only ignore files are read before the run is known to need the others.
-/

namespace Locus.Command

open Files

/-- The names of the files that decide what a walk leaves out. -/
def ignoreNames : List String := [".ignore", ".gitignore", "exclude"]

/-- A file, with its bytes if it decides what a walk leaves out. -/
def loadFile (directory name : String) : IO Node := do
  if name ∈ ignoreNames then
    return .file (← IO.FS.readBinFile (Path.join directory name)).toList
  else
    return .file []

/-- A directory with those of its entries that are wanted, and all that is in them. Links are not
followed. -/
partial def loadDirectory (path : String) (wanted : String → Bool) : IO Node := do
  let mut entries : List (String × Node) := []
  for child in ← ((← IO.currentDir) / path).readDir do
    let name := child.fileName
    if wanted name then
      match (← child.path.symlinkMetadata).type with
      | .dir =>
        entries := (name, ← loadDirectory (Path.join path name) fun _ => true) :: entries
      | .file => entries := (name, ← loadFile path name) :: entries
      | _ => pure ()
  return .directory entries

/-- Whether an entry of a directory decides what a walk below it leaves out. -/
def isRule (name : String) : Bool := name ∈ ignoreNames || name = IgnoreRules.repositoryName

/-- The directories above one that is given by its names in reverse, with their ignore files. -/
def loadAbove : List String → IO (List (String × Node))
  | [] => return []
  | name :: names => do
    let rules ← loadDirectory ("/" ++ String.intercalate "/" names.reverse) isRule
    return (name, rules) :: (← loadAbove names)

/-- What a walk of a directory comes upon. -/
def loadWalk (path : String) : IO (List WalkEntry) := do
  let names := Path.names (← IO.FS.realPath path).toString
  let node ← loadDirectory path fun _ => true
  return (Site.mk node (← loadAbove names.reverse)).walk path

/-- What is at a path, and what a walk comes upon if it is a directory. Of what is neither a
directory nor a file with bytes of its own, nothing is said to be there. -/
def loadInput (path : String) : IO (Option SourceKind × List WalkEntry) := do
  let place := (← IO.currentDir) / path
  if !(← place.pathExists) then return (none, [])
  match (← place.metadata).type with
  | .dir => return (some .directory, ← loadWalk path)
  | .file => return (some .file, [])
  | _ => return (none, [])

/-- What the inputs name, with the bytes of the files that a run needs. -/
def loadSources (inputs : List String) : IO Sources := do
  let found ← inputs.mapM fun path => do return (path, ← loadInput path)
  let names : Sources :=
    { kind? := fun path => (found.lookup path).bind (·.1)
      walk := fun path => ((found.lookup path).map (·.2)).getD []
      read := fun _ => [] }
  let files := (collect names inputs).toOption.getD []
  let contents ← files.mapM fun f => do return (f.path, (← IO.FS.readBinFile f.path).toList)
  return { names with read := fun path => (contents.lookup path).getD [] }

end Locus.Command

/-- Runs with the arguments of the command line. -/
def main (args : List String) : IO UInt32 := do
  let inputs := ((Locus.Command.Config.ofArguments args).toOption.map (·.inputs)).getD []
  let outcome := Locus.Command.execute (← Locus.Command.loadSources inputs) args
  IO.print outcome.output
  outcome.messages.forM fun message => IO.eprintln message
  return UInt32.ofNat outcome.status
