import Locus.Record.TokenTree

/-!
# Attributes

The attributes in front of a field, and the comma-separated items that they list: what place for
locations the field is, and how it is written.
-/

namespace Locus.Record

/-- A name with the names that qualify it. -/
structure Path where
  /-- Whether it starts with two colons. -/
  rooted : Bool
  names : List String
deriving DecidableEq

/-- A name that nothing qualifies. -/
def Path.plain (name : String) : Path := ⟨false, [name]⟩

/-- What an attribute says after its path. -/
inductive Arguments where
  | absent
  /-- A list in brackets of any kind. -/
  | list (inside : List TokenTree)
  /-- An equals sign and a value. -/
  | value

/-- An attribute. -/
structure Attribute where
  path : Path
  arguments : Arguments

/-! ## Items -/

/-- What is wrong with an item of a list. -/
inductive ItemError where
  /-- The list ends where an item must start. -/
  | absent
  /-- A literal stands where an item must start. -/
  | literal
  /-- Something else that is no name stands there. -/
  | noName
  /-- Two colons are not followed by a name; the list may end there. -/
  | unfinishedPath (atEnd : Bool)
  | noEquals
  /-- The equals sign is not followed by a string; the list may end there. -/
  | noText (atEnd : Bool)
  /-- The item is none that the attribute knows. -/
  | unknown
  /-- Something other than a comma follows the item. -/
  | noComma
deriving DecidableEq

namespace ItemError

/-- A complaint about what comes next, which may be the end. -/
def withEnd (atEnd : Bool) (text : String) : String :=
  if atEnd then "unexpected end of input, " ++ text else text

/-- The sentence that reports the error. -/
def message : ItemError → String
  | .absent => withEnd true "expected nested attribute"
  | .literal => "unexpected literal in nested attribute, expected ident"
  | .noName => "unexpected token in nested attribute, expected ident"
  | .unfinishedPath atEnd => withEnd atEnd "expected ident"
  | .noEquals => "expected `=`"
  | .noText atEnd => withEnd atEnd "expected string literal"
  | .unknown => "expected `name = \"...\"` or `extra` in location() helper"
  | .noComma => "expected `,`"

end ItemError

namespace Part

/-- Whether the list ends where the given rest of the part begins. -/
def endsAt (p : Part) (rest : List TokenTree) : Bool := rest.isEmpty && !p.followed

/-- Further names of a path, each after two colons, and what follows them. -/
def moreNames (p : Part) : List TokenTree → Except ItemError (List String × List TokenTree)
  | .atom (.sign ':' true) :: .atom (.sign ':' _) :: .atom (.word name) :: rest => do
    let (names, rest) ← p.moreNames rest
    .ok (name :: names, rest)
  | .atom (.sign ':' true) :: .atom (.sign ':' _) :: rest =>
    .error (.unfinishedPath (p.endsAt rest))
  | rest => .ok ([], rest)

/-- Whether a number with its sign stands at the front. -/
def startsNegative : List TokenTree → Bool
  | t :: u :: _ => t.isSign '-' && u.isNumber
  | _ => false

/-- The first name of a path and what follows it. -/
def firstName (p : Part) (ts : List TokenTree) : Except ItemError (String × List TokenTree) :=
  match ts with
  | .atom (.word name) :: rest => .ok (name, rest)
  | [] => .error (if p.followed then .noName else .absent)
  | t :: _ => .error (if t.isLiteral || startsNegative ts then .literal else .noName)

/-- The path that an item starts with, and what follows it. -/
def path (p : Part) : Except ItemError (Path × List TokenTree) := do
  let (rooted, ts) :=
    match p.tokens with
    | .atom (.sign ':' true) :: .atom (.sign ':' _) :: rest => (true, rest)
    | ts => (false, ts)
  let (name, rest) ← p.firstName ts
  let (names, rest) ← p.moreNames rest
  .ok (⟨rooted, name :: names⟩, rest)

/-- Whether an equals sign stands at the front. -/
def startsEquals : List TokenTree → Bool
  | t :: _ => t.isSign '='
  | [] => false

/-- The string after an equals sign, and what follows it. -/
def assigned (p : Part) : List TokenTree → Except ItemError (String × List TokenTree)
  | t :: rest =>
    if t.isSign '=' then
      match rest with
      | .atom (.text value) :: rest => .ok (value, rest)
      | _ => .error (.noText (p.endsAt rest))
    else .error .noEquals
  | [] => .error .noEquals

/-- Nothing may follow an item but a comma. -/
def finished : List TokenTree → Except ItemError Unit
  | [] => .ok ()
  | _ :: _ => .error .noComma

end Part

/-! ## Places for locations -/

/-- A place for locations. -/
inductive Slot where
  /-- It takes the location under one property. -/
  | named (property : String)
  /-- It takes the locations under all properties that nothing else takes. -/
  | extra
deriving DecidableEq

/-- The place that an item asks for. -/
def Slot.ofPart (p : Part) : Except ItemError Slot := do
  let (path, rest) ← p.path
  if path = .plain "name" then
    let (property, rest) ← p.assigned rest
    Part.finished rest
    .ok (.named property)
  else if path = .plain "extra" then
    Part.finished rest
    .ok .extra
  else .error .unknown

/-! ## How fields are written -/

/-- How a field is written. -/
structure Writing where
  /-- The key that it is written under instead of its name. -/
  rename : Option String
  /-- Whether its members are written in its place. -/
  flattened : Bool
  /-- Whether it is left out. -/
  skipped : Bool
deriving DecidableEq

namespace Writing

/-- A field that is written under its name. -/
def standard : Writing := ⟨none, false, false⟩

/-- Takes note of an item, and whether those after it count as well. Items that say nothing about
the key pass as they are. -/
def readPart (w : Writing) (p : Part) : Writing × Bool :=
  match p.path with
  | .error _ => (w, false)
  | .ok (path, rest) =>
    if path = .plain "rename" ∧ Part.startsEquals rest then
      match p.assigned rest with
      | .ok (key, rest) => ({ w with rename := some key }, rest.isEmpty)
      | .error _ => (w, false)
    else if path = .plain "flatten" then ({ w with flattened := true }, rest.isEmpty)
    else if path = .plain "skip" ∨ path = .plain "skip_serializing" then
      ({ w with skipped := true }, rest.isEmpty)
    else (w, true)

/-- Takes note of items in order, up to the first that makes no sense. -/
def readParts (w : Writing) : List Part → Writing
  | [] => w
  | p :: ps =>
    match w.readPart p with
    | (w, true) => readParts w ps
    | (w, false) => w

/-- Takes note of an attribute, if it is about writing. -/
def readAttribute (w : Writing) (a : Attribute) : Writing :=
  match a.arguments with
  | .list inside => if a.path = .plain "serde" then w.readParts (Part.ofList inside) else w
  | _ => w

/-- How a field with the given attributes is written. -/
def ofAttributes (attributes : List Attribute) : Writing :=
  attributes.foldl readAttribute standard

end Writing

end Locus.Record
