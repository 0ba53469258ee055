import Locus.Files.Path

/-!
# Files and directories

A file with its bytes, or a directory with its entries by name. Names are looked up one by one, and
the way up is the list of directories that have been passed.
-/

namespace Locus.Files

/-- A file or directory. -/
inductive Node where
  | file (bytes : List UInt8)
  | directory (entries : List (String × Node))

instance : Inhabited Node := ⟨.directory []⟩

namespace Node

/-- Whether this is a directory. -/
def isDirectory : Node → Bool
  | .directory _ => true
  | .file _ => false

/-- What a directory holds; files hold nothing. -/
def entries : Node → List (String × Node)
  | .directory es => es
  | .file _ => []

/-- The entry under a name. -/
def child? (n : Node) (name : String) : Option Node := n.entries.lookup name

/-- The bytes of the file under a name. -/
def fileBytes? (n : Node) (name : String) : Option (List UInt8) :=
  match n.child? name with
  | some (.file bytes) => some bytes
  | _ => none

/-- The directory with an entry under a name, in place of the one that was there. -/
def setEntry (n : Node) (name : String) (child : Node) : Node :=
  .directory (n.entries.filter (·.1 ≠ name) ++ [(name, child)])

/-- Puts something at the end of a list of names. The directories on the way are made where they
are missing. -/
def put (child : Node) : List String → Node → Node
  | [], _ => child
  | name :: names, n =>
    n.setEntry name (put child names ((n.child? name).getD (.directory [])))

/-- Makes a directory at the end of a list of names, unless there is one. -/
def putDirectory : List String → Node → Node
  | [], n => .directory n.entries
  | name :: names, n =>
    n.setEntry name (putDirectory names ((n.child? name).getD (.directory [])))

end Node

/-- A site in a tree: what is there, and the directories above it from the nearest on, each with
the name under which the next one down is its entry. -/
structure Site where
  node : Node
  above : List (String × Node)

namespace Site

/-- The site at the root of a tree. -/
def ofRoot (n : Node) : Site := ⟨n, []⟩

/-- The site of an entry. Only directories have any; two dots go up, and stay at the root. -/
def step? (s : Site) (name : String) : Option Site :=
  if !s.node.isDirectory then none
  else if name = ".." then
    match s.above with
    | [] => some s
    | (_, parent) :: rest => some ⟨parent, rest⟩
  else (s.node.child? name).map fun child => ⟨child, (name, s.node) :: s.above⟩

/-- The site at the root of the tree. -/
def top (s : Site) : Site :=
  match s.above.getLast? with
  | some (_, root) => ⟨root, []⟩
  | none => s

/-- The site that a path leads to. The empty path leads nowhere, one that starts with a slash
leads on from the root, and one that can only name a directory does not lead to a file. -/
def follow? (s : Site) (path : String) : Option Site :=
  if path = "" then none
  else do
    let start := if path.toList.head? = some '/' then s.top else s
    let found ← (Path.names path).foldlM step? start
    if Path.isDirectoryForm path ∧ !found.node.isDirectory then none else some found

end Site

end Locus.Files
