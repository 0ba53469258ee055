import Locus.Files.Ignore

/-!
# Walks

What there is below a directory. Hidden entries and what ignore files skip are left out,
directories with all that is in them; what an ignore file keeps is not left out for being hidden.
-/

namespace Locus.Files

/-- Something that a walk comes upon. -/
structure WalkEntry where
  path : String
  /-- Whether this is a file with bytes of its own. -/
  isFile : Bool
deriving DecidableEq

/-- The bytes of a name. -/
def nameBytes (name : String) : List UInt8 := name.toUTF8.toList

/-- The chain of a directory seen from its entry: the path of the entry is longer by its name. -/
def IgnoreChain.extend (name : List UInt8) (c : IgnoreChain) : IgnoreChain :=
  c.map fun (rules, path) => (rules, path ++ name)

/-- Whether a walk leaves out an entry of a directory, given what the ignore files say. -/
def isLeftOut (name : String) (verdict : Option Verdict) : Bool :=
  match verdict with
  | some .skip => true
  | some .keep => false
  | none => Path.isHidden name

mutual

/-- What a walk comes upon at something that has the given path itself and below it, in no
particular order. The chain is that of the directories above it, each with the path from there and a
slash. -/
def Node.walk (path : String) (above : IgnoreChain) : Node → List WalkEntry
  | .file _ => [⟨path, true⟩]
  | .directory entries =>
    ⟨path, false⟩ ::
      walkEntries path ((IgnoreRules.ofNode (.directory entries), []) :: above) entries

/-- What a walk comes upon among the entries of a directory and below them. -/
def walkEntries (path : String) (chain : IgnoreChain) : List (String × Node) → List WalkEntry
  | [] => []
  | (name, child) :: rest =>
    let here := chain.extend (nameBytes name)
    let found :=
      if isLeftOut name (here.verdict? child.isDirectory) then []
      else child.walk (Path.join path name) (here.extend [0x2F])
    found ++ walkEntries path chain rest

end

namespace Site

/-- The chain of the directories above a site, given the path from the site down, which starts
with a slash or is empty. -/
def chainFrom (below : List UInt8) : List (String × Node) → IgnoreChain
  | [] => []
  | (name, parent) :: rest =>
    let path := nameBytes name ++ below
    (IgnoreRules.ofNode parent, path) :: chainFrom (0x2F :: path) rest

/-- What a walk comes upon at a directory that is named by the given path and below it. -/
def walk (s : Site) (path : String) : List WalkEntry :=
  s.node.walk path (chainFrom [0x2F] s.above)

end Site

end Locus.Files
