import Locus.Files.Glob
import Locus.Files.Node
import Locus.Text.Utf8
import Locus.Unicode.Classes

/-!
# Ignore files

The lines of ignore files, and what the ignore files of a directory and of the directories above it
say about an entry. The last line of a file that matches decides, a nearer directory goes before
the ones above it, and `.ignore` goes before what a repository ignores. Repositories say something
only inside of one, and only up to its root.
-/

namespace Locus.Files

/-- What ignore files say about an entry. -/
inductive Verdict where
  | skip
  | keep
deriving DecidableEq

/-- A line of an ignore file. -/
structure IgnoreLine where
  glob : Glob
  verdict : Verdict
  /-- Whether it is about directories only. -/
  directoriesOnly : Bool

namespace IgnoreLine

/-- A text without the white space at its end. -/
def trimEnd (cs : List Char) : List Char :=
  (cs.reverse.dropWhile Unicode.isWhiteSpace).reverse

/-- A text without the slash at its end, and without a backslash in front of that. -/
def dropLastSlash (cs : List Char) : List Char × Bool :=
  match cs.reverse with
  | '/' :: '\\' :: rest => (rest.reverse, true)
  | '/' :: rest => (rest.reverse, true)
  | _ => (cs, false)

/-- The glob for whole paths: one without a slash matches at any depth, and one that ends in two
stars matches what is inside only. -/
def wholeGlob (isRooted : Bool) (cs : List Char) : List Char :=
  let everywhere := ['*', '*', '/']
  let anywhere := isRooted || cs.contains '/' || everywhere.isPrefixOf cs || cs = ['*', '*']
  let cs := if anywhere then cs else everywhere ++ cs
  if ['/', '*', '*'].isSuffixOf cs then cs ++ ['/', '*'] else cs

/-- What a line says: none if it is blank, a comment or makes no sense. -/
def ofList? (line : List Char) : Option IgnoreLine :=
  if line.head? = some '#' then none
  else
    let line := if ['\\', ' '].isSuffixOf line then line else trimEnd line
    if line = [] then none
    else
      let (verdict, isRooted, cs) : Verdict × Bool × List Char :=
        match line with
        | '\\' :: '!' :: _ => (.skip, false, line.drop 1)
        | '\\' :: '#' :: _ => (.skip, false, line.drop 1)
        | '!' :: '/' :: cs => (.keep, true, cs)
        | '!' :: cs => (.keep, false, cs)
        | '/' :: cs => (.skip, true, cs)
        | cs => (.skip, false, cs)
      let (cs, directoriesOnly) := dropLastSlash cs
      (Glob.ofList? (wholeGlob isRooted cs)).map fun glob => ⟨glob, verdict, directoriesOnly⟩

end IgnoreLine

/-- The lines of an ignore file. -/
abbrev IgnoreFile := List IgnoreLine

namespace IgnoreFile

/-- The lines of some bytes, without their ends. Nothing after the last end is no line. -/
def splitLines (bytes : List UInt8) : List (List UInt8) :=
  let (first, others) := divide (· = 0x0A) bytes
  let lines := first :: others
  if lines.getLast? = some [] then lines.dropLast else lines

/-- A line without the carriage return at its end. -/
def dropReturn (line : List UInt8) : List UInt8 :=
  if line.getLast? = some 0x0D then line.dropLast else line

/-- The lines that are text, up to the first that is not. -/
def texts (lines : List (List UInt8)) : List (List Char) :=
  match lines with
  | [] => []
  | line :: rest =>
    match Utf8.decode (dropReturn line) with
    | .ok cs => cs :: texts rest
    | .error _ => []

/-- The mark that may stand at the start of a file. -/
def byteOrderMark : Char := '\ufeff'

/-- The lines of an ignore file. -/
def ofBytes (bytes : List UInt8) : IgnoreFile :=
  let lines :=
    match texts (splitLines bytes) with
    | [] => []
    | first :: rest => first.dropWhile (· = byteOrderMark) :: rest
  lines.filterMap IgnoreLine.ofList?

/-- What a file says about the path of an entry, seen from the directory of the file: what the last
line says that matches. -/
def verdict? (f : IgnoreFile) (path : List UInt8) (isDirectory : Bool) : Option Verdict :=
  (f.reverse.find? fun line =>
    (!line.directoriesOnly || isDirectory) && line.glob.isMatch path).map (·.verdict)

end IgnoreFile

/-- The ignore files of a directory. -/
structure IgnoreRules where
  /-- What `.ignore` says. -/
  plain : IgnoreFile
  /-- What `.gitignore` says. -/
  repository : IgnoreFile
  /-- What the list of exclusions of the repository says. -/
  excluded : IgnoreFile
  /-- Whether the directory is the root of a repository. -/
  isRepository : Bool

namespace IgnoreRules

/-- The name of the directory that makes its parent the root of a repository. -/
def repositoryName : String := ".git"

/-- The ignore file under a name. -/
def fileOf (n : Node) (name : String) : IgnoreFile :=
  IgnoreFile.ofBytes ((n.fileBytes? name).getD [])

/-- The ignore files of a directory. -/
def ofNode (n : Node) : IgnoreRules where
  plain := fileOf n ".ignore"
  repository := fileOf n ".gitignore"
  excluded := fileOf (((n.child? repositoryName).bind (·.child? "info")).getD default) "exclude"
  isRepository := (n.child? repositoryName).isSome

end IgnoreRules

/-- The ignore files that count for an entry, nearest directory first, each with the path of the
entry from that directory. -/
abbrev IgnoreChain := List (IgnoreRules × List UInt8)

namespace IgnoreChain

/-- What the nearest of the chosen files says that says anything. -/
def nearest? (choose : IgnoreRules → IgnoreFile) (isDirectory : Bool) (c : IgnoreChain) :
    Option Verdict :=
  c.findSome? fun (rules, path) => (choose rules).verdict? path isDirectory

/-- The directories up to the root of the nearest repository; none if there is no repository. -/
def insideRepository : IgnoreChain → IgnoreChain
  | [] => []
  | (rules, path) :: rest =>
    if rules.isRepository then [(rules, path)]
    else
      match insideRepository rest with
      | [] => []
      | inside => (rules, path) :: inside

/-- What the ignore files say about an entry. -/
def verdict? (isDirectory : Bool) (c : IgnoreChain) : Option Verdict :=
  (c.nearest? IgnoreRules.plain isDirectory).or <|
    (c.insideRepository.nearest? IgnoreRules.repository isDirectory).or <|
      c.insideRepository.nearest? IgnoreRules.excluded isDirectory

end IgnoreChain

end Locus.Files
