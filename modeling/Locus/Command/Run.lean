import Locus.Command.Lexing
import Locus.Files.Walk
import Locus.Format.Token

/-!
# Runs

A run collects the files that its inputs name, lexes those that are text one after another, and
puts the results together as its output. It stops at the first failure and then has no output.
-/

namespace Locus.Command

open Files Json

/-- What an input may be. -/
inductive SourceKind where
  | file
  | directory
deriving DecidableEq

/-- What a run sees of files and directories. -/
structure Sources where
  /-- What is at a path, if anything is. -/
  kind? : String → Option SourceKind
  /-- What a walk of a directory comes upon, in whatever order. -/
  walk : String → List WalkEntry
  /-- The bytes of a file. -/
  read : String → List UInt8

/-- The files and directories of a tree, seen from a site in it. -/
def Sources.ofSite (here : Site) : Sources where
  kind? path :=
    (here.follow? path).map fun found => if found.node.isDirectory then .directory else .file
  walk path :=
    match here.follow? path with
    | some found => found.walk path
    | none => []
  read path :=
    match (here.follow? path).map Site.node with
    | some (.file bytes) => bytes
    | _ => []

/-- The paths of the files that a walk of a directory comes upon, in the order of their names. -/
def Sources.filesBelow (s : Sources) (directory : String) : List String :=
  (((s.walk directory).filter WalkEntry.isFile).map WalkEntry.path).mergeSort Path.le

/-- A file to lex. -/
structure SourceFile where
  path : String
  /-- Whether a walk found it, so that it need not be text. -/
  walked : Bool
deriving DecidableEq

/-- Why a run fails. -/
inductive RunError where
  | noSuchInput (path : String)
  /-- A file that is an input of its own is no text. -/
  | notText (path : String) (fault : Utf8.Fault)
  | lex (path : String) (e : LexError)
deriving DecidableEq

/-- The messages of the error and of what lies behind it, outermost first. -/
def RunError.chain : RunError → List String
  | .noSuchInput path => ["No such file or directory: '" ++ path ++ "'"]
  | .notText path fault => ["'" ++ path ++ "' is not UTF-8 text", fault.message]
  | .lex path e => ("Failed to lex '" ++ path ++ "'") :: e.chain

/-- The files that an input names. Those of a directory are in the order of their names. -/
def filesOf (s : Sources) (input : String) : Except RunError (List SourceFile) :=
  match s.kind? input with
  | some .directory => .ok ((s.filesBelow input).map fun path => ⟨path, true⟩)
  | some .file => .ok [⟨input, false⟩]
  | none => .error (.noSuchInput input)

/-- The files that the inputs name, in order. -/
def collect (s : Sources) : List String → Except RunError (List SourceFile)
  | [] => .ok []
  | input :: rest => do
    let files ← filesOf s input
    let more ← collect s rest
    .ok (files ++ more)

/-- The text of a file; none for a file that is passed over because it is no text. -/
def readText (s : Sources) (f : SourceFile) : Except RunError (Option String) :=
  match Utf8.decode (s.read f.path) with
  | .ok cs => .ok (some (String.ofList cs))
  | .error fault => if f.walked then .ok none else .error (.notText f.path fault)

/-- The tokens of a file. -/
structure FileTokens where
  path : String
  tokens : List Token
deriving DecidableEq

/-- The tokens of a file; none for a file that is passed over. -/
def lexSource (s : Sources) (c : Config) (f : SourceFile) :
    Except RunError (Option FileTokens) := do
  match ← readText s f with
  | none => .ok none
  | some text =>
    match c.lexFile f.path text with
    | .ok tokens => .ok (some ⟨f.path, tokens⟩)
    | .error e => .error (.lex f.path e)

/-- The tokens of all files that are not passed over, in order. -/
def lexAll (s : Sources) (c : Config) : List SourceFile → Except RunError (List FileTokens)
  | [] => .ok []
  | f :: rest => do
    let here ← lexSource s c f
    let more ← lexAll s c rest
    .ok (here.toList ++ more)

/-- What a run comes to. -/
def run (s : Sources) (c : Config) : Except RunError (List FileTokens) := do
  lexAll s c (← collect s c.inputs)

/-! ## Output -/

/-- The tokens of a file as they are written. -/
def FileTokens.tree (f : FileTokens) : Tree :=
  .record [("path", Tree.ofString f.path), ("tokens", .array (f.tokens.map Token.tree))]

/-- The output of a run in the form that the configuration asks for. -/
def output (c : Config) (results : List FileTokens) : String :=
  match c.form with
  | .json => String.ofList ((Tree.array (results.map FileTokens.tree)).pretty 0 ++ ['\n'])
  | .text =>
    String.join (results.flatMap fun f => (lines c.property f.tokens).map fun line => line ++ "\n")

/-- What is left behind: a status, an output, and the messages of a failure. -/
structure Outcome where
  status : Nat
  output : String
  messages : List String
deriving DecidableEq

/-- The status when the arguments make no sense. -/
def usageStatus : Nat := 2

/-- The status when a run fails. -/
def failureStatus : Nat := 1

/-- How the program is called. -/
def usage : String :=
  "Usage: lexloc [OPTIONS] <INPUTS>...\n\n" ++
  "Options:\n" ++
  "  -r, --rule <NAME=PATTERN>  Token rule, tried in the order given\n" ++
  "  -p, --property <PROPERTY>  Property for locations [default: " ++ defaultProperty ++ "]\n" ++
  "      --source <SOURCE>      Source label for every location\n" ++
  "  -f, --format <FORMAT>      [default: json] [possible values: json, text]\n" ++
  "  -h, --help                 Print help\n" ++
  "  -V, --version              Print version\n"

/-- What comes of the given arguments. A request for help or for the version is no failure. -/
def execute (s : Sources) (args : List String) : Outcome :=
  match Config.ofArguments args with
  | .error .help => ⟨0, usage, []⟩
  | .error .version => ⟨0, "lexloc-cli 0.1.0\n", []⟩
  | .error e => ⟨usageStatus, "", e.message?.toList ++ [usage]⟩
  | .ok c =>
    match run s c with
    | .ok results => ⟨0, output c results, []⟩
    | .error e => ⟨failureStatus, "", e.chain⟩

end Locus.Command
