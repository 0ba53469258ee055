import Locus.Command.Rule
import Locus.Token

/-!
# The command line

What a run is told by its arguments: the inputs, the rules, the property for locations, a label
for the source and the form of the output. Arguments are judged from left to right. A value that is
an argument of its own is judged only when the next option or input shows that it is complete, so
an unknown option right behind it is complained about first.
-/

namespace Locus.Command

/-- The form of the output. -/
inductive OutputForm where
  | json
  | text
deriving DecidableEq

/-- What a run is told. -/
structure Config where
  /-- The files and directories, at least one. -/
  inputs : List String
  /-- The rules in the order given; none means the standard ones. -/
  rules : List Rule
  /-- The property under which tokens get their location. -/
  property : String
  /-- The label of every source, instead of the path of its file. -/
  source : Option String
  form : OutputForm
deriving DecidableEq

/-- Why the arguments do not tell what to do. The last two are no errors: they ask for something
else than a run. -/
inductive UsageError where
  | noInput
  | emptyInput
  | noValue
  | unknownForm (word : String)
  | badRule (arg : String)
  | emptyProperty
  /-- The property is a key of its own in every token. -/
  | ownKey (property : String)
  | unknownOption
  | repeatedOption
  /-- A value is given to an option that takes none. -/
  | excessValue
  | help
  | version
deriving DecidableEq

/-- The complaint about a value; there is none where the fault is in the form of the arguments. -/
def UsageError.message? : UsageError → Option String
  | .badRule arg => some ("expected NAME=PATTERN, got '" ++ arg ++ "'")
  | .emptyProperty => some "property name can't be empty"
  | .ownKey property => some ("'" ++ property ++ "' is already a token key")
  | _ => none

/-! ## Values -/

/-- The rule that an argument spells. -/
def readRule (arg : String) : Except UsageError Rule :=
  match Rule.ofText? arg with
  | some rule => .ok rule
  | none => .error (.badRule arg)

/-- A property that tokens have a place for. -/
def readProperty (arg : String) : Except UsageError String :=
  if arg = "" then .error .emptyProperty
  else if Locate.reserves Token arg then .error (.ownKey arg)
  else .ok arg

/-- The form of the output that a word names. -/
def readForm (arg : String) : Except UsageError OutputForm :=
  if arg = "json" then .ok .json
  else if arg = "text" then .ok .text
  else .error (.unknownForm arg)

/-- The path of an input. -/
def readInput (arg : String) : Except UsageError String :=
  if arg = "" then .error .emptyInput else .ok arg

/-! ## Arguments -/

/-- An option that takes a value. -/
inductive Setting where
  | rule
  | property
  | source
  | form
deriving DecidableEq

/-- What an argument looks like before `--`. -/
inductive Argument where
  /-- The sign that only inputs follow. -/
  | onlyInputs
  /-- An option that takes a value, with the value if it is attached. -/
  | setting (s : Setting) (value : Option String)
  /-- Something that ends the reading. -/
  | refused (e : UsageError)
  /-- A request for something else than a run. -/
  | request (e : UsageError)
  /-- An input, or the value of the option before it. -/
  | plain
deriving DecidableEq

namespace Argument

/-- The option with the given long name. -/
def ofName (name : List Char) (value : Option String) : Argument :=
  match String.ofList name with
  | "rule" => .setting .rule value
  | "property" => .setting .property value
  | "source" => .setting .source value
  | "format" => .setting .form value
  | "help" => if value.isSome then .refused .excessValue else .request .help
  | "version" => if value.isSome then .refused .excessValue else .request .version
  | _ => .refused .unknownOption

/-- The option with the given letter, and what is written behind the letter. An equals sign there
does not belong to the value. -/
def ofLetter (letter : Char) (behind : List Char) : Argument :=
  let value :=
    match behind with
    | [] => none
    | '=' :: value => some (String.ofList value)
    | value => some (String.ofList value)
  match letter with
  | 'r' => .setting .rule value
  | 'p' => .setting .property value
  | 'f' => .setting .form value
  | 'h' => .request .help
  | 'V' => .request .version
  | _ => .refused .unknownOption

/-- What an argument looks like. -/
def ofText (arg : String) : Argument :=
  match arg.toList with
  | ['-', '-'] => .onlyInputs
  | '-' :: '-' :: cs =>
    ofName (cs.takeWhile (· ≠ '='))
      (match cs.dropWhile (· ≠ '=') with
        | _ :: value => some (String.ofList value)
        | [] => none)
  | '-' :: letter :: behind => ofLetter letter behind
  | _ => .plain

end Argument

/-- What has been understood so far. -/
structure Draft where
  inputs : List String
  rules : List Rule
  property : Option String
  source : Option String
  form : Option OutputForm

/-- What has been read but not yet judged. -/
inductive Waiting where
  | nothing
  /-- An option that still needs its value. -/
  | valueOf (s : Setting)
  /-- An option with its value. -/
  | given (s : Setting) (value : String)
  /-- Inputs in a row. -/
  | inputs (paths : List String)

namespace Draft

/-- Nothing understood yet. -/
def empty : Draft := ⟨[], [], none, none, none⟩

/-- Takes note of an option. All but rules may be given once only. -/
def set (d : Draft) (s : Setting) (value : String) : Except UsageError Draft :=
  match s with
  | .rule => do .ok { d with rules := d.rules ++ [← readRule value] }
  | .property => do
    if d.property.isSome then .error .repeatedOption
    else .ok { d with property := some (← readProperty value) }
  | .source =>
    if d.source.isSome then .error .repeatedOption else .ok { d with source := some value }
  | .form => do
    if d.form.isSome then .error .repeatedOption
    else .ok { d with form := some (← readForm value) }

/-- Judges what waits. -/
def settle (d : Draft) : Waiting → Except UsageError Draft
  | .nothing => .ok d
  | .valueOf _ => .error .noValue
  | .given s value => d.set s value
  | .inputs paths => do .ok { d with inputs := d.inputs ++ (← paths.mapM readInput) }

/-- Reads one argument that is an input or a value. -/
def readPlain (d : Draft) (w : Waiting) (arg : String) : Except UsageError (Draft × Waiting) :=
  match w with
  | .valueOf s => .ok (d, .given s arg)
  | .inputs paths => .ok (d, .inputs (paths ++ [arg]))
  | _ => do .ok (← d.settle w, .inputs [arg])

/-- Reads arguments that are inputs whatever they look like. -/
def readInputs (d : Draft) (w : Waiting) : List String → Except UsageError Draft
  | [] => d.settle w
  | arg :: rest =>
    match w with
    | .inputs paths => d.readInputs (.inputs (paths ++ [arg])) rest
    | _ => do (← d.settle w).readInputs (.inputs [arg]) rest

/-- Reads arguments from left to right. -/
def read (d : Draft) (w : Waiting) : List String → Except UsageError Draft
  | [] => d.settle w
  | arg :: rest =>
    match Argument.ofText arg with
    | .onlyInputs => d.readInputs w rest
    | .setting s (some value) => do (← (← d.settle w).set s value).read .nothing rest
    | .setting s none => do (← d.settle w).read (.valueOf s) rest
    | .refused e => .error e
    | .request e => do
      let _ ← d.settle w
      .error e
    | .plain => do
      let (d, w) ← d.readPlain w arg
      d.read w rest

end Draft

/-- What a run is told by the given arguments. -/
def Config.ofArguments (args : List String) : Except UsageError Config := do
  let d ← Draft.empty.read .nothing args
  if d.inputs = [] then .error .noInput
  else
    .ok ⟨d.inputs, d.rules, d.property.getD defaultProperty, d.source, d.form.getD .json⟩

end Locus.Command
