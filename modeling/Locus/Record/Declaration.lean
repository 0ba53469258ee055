import Locus.Record.Grammar
import Locus.Record.Layout
import Locus.Record.Lexeme

/-!
# Declarations

Reading the declaration of a type from its source text, and putting that text together from the
texts of its fields.
-/

namespace Locus.Record

open Grammar

/-! ## Attributes -/

/-- The names of a path that holds no arguments, and what follows it. -/
def Path.names? : List TokenTree → Option (List String × List TokenTree)
  | .atom (.word name) :: .atom (.sign ':' true) :: .atom (.sign ':' _) :: rest => do
    let (_, _) ← pathName? [.atom (.word name)]
    let (names, rest) ← Path.names? rest
    some (name :: names, rest)
  | ts => (pathName? ts).map fun (name, rest) => ([name], rest)

/-- The path at the front of an attribute and what follows it. -/
def Path.ofTokens? (ts : List TokenTree) : Option (Path × List TokenTree) :=
  match keyword? "unsafe" ts, signs? ':' ':' ts with
  | some rest, _ => some (.plain "unsafe", rest)
  | none, some rest => (Path.names? rest).map fun (names, rest) => (⟨true, names⟩, rest)
  | none, none => (Path.names? ts).map fun (names, rest) => (⟨false, names⟩, rest)

/-- Whether something was recognized and nothing follows it. -/
def isWhole : Option (List TokenTree) → Bool
  | some [] => true
  | _ => false

/-- Whether the value of an attribute makes sense: a literal alone, or an expression. -/
def isValue (ts : List TokenTree) : Bool :=
  isWhole (literal? ts) || isWhole (expression? (2 * TokenTree.sizeList ts + 2) ts)

/-- The attribute that stands in brackets. -/
def Attribute.ofTokens? (ts : List TokenTree) : Option Attribute := do
  match ← Path.ofTokens? ts with
  | (path, []) => some ⟨path, .absent⟩
  | (path, [.group _ inside]) => some ⟨path, .list inside⟩
  | (path, t :: value) => if t.isSign '=' ∧ isValue value then some ⟨path, .value⟩ else none

/-- The attributes at the front, and what follows them. -/
def Attribute.takeAll? : List TokenTree → Option (List Attribute × List TokenTree)
  | t :: .group .brackets inside :: rest =>
    if t.isSign '#' then do
      let a ← Attribute.ofTokens? inside
      let (as, rest) ← Attribute.takeAll? rest
      some (a :: as, rest)
    else some ([], t :: .group .brackets inside :: rest)
  | ts => some ([], ts)

/-! ## Fields -/

/-- What follows the visibility of a field, if it has one. -/
def dropVisibility (ts : List TokenTree) : List TokenTree :=
  match keyword? "pub" ts with
  | none => ts
  | some (.group .parentheses (t :: inside) :: rest) =>
    if t.word? = some "in" ∨ (inside = [] ∧ t.word?.any (· ∈ pathKeywords)) then rest
    else .group .parentheses (t :: inside) :: rest
  | some rest => rest

/-- What follows the type at the front. -/
def dropType? (ts : List TokenTree) : Option (List TokenTree) :=
  type? (2 * TokenTree.sizeList ts + 2) ts

/-- A field with its name and what follows it. -/
def Field.ofTokens? (ts : List TokenTree) : Option (Field × List TokenTree) := do
  let (attributes, rest) ← Attribute.takeAll? ts
  let (name, rest) ← name? (dropVisibility rest)
  let rest ← dropType? (← sign? ':' rest)
  some (⟨name, attributes⟩, rest)

/-- What follows a field without a name. -/
def dropUnnamed? (ts : List TokenTree) : Option (List TokenTree) := do
  let (_, rest) ← Attribute.takeAll? ts
  dropType? (dropVisibility rest)

/-- The fields that fill a list, with commas between them. -/
def readFields? {α : Type} (one? : List TokenTree → Option (α × List TokenTree)) :
    Nat → List TokenTree → Option (List α)
  | _, [] => some []
  | 0, _ => none
  | n + 1, ts => do
    let (field, rest) ← one? ts
    match rest with
    | [] => some [field]
    | _ => (readFields? one? n (← sign? ',' rest)).map (field :: ·)

/-- The fields with names that fill a list. -/
def namedFields? (ts : List TokenTree) : Option (List Field) :=
  readFields? Field.ofTokens? ts.length ts

/-- The fields without names that fill a list. -/
def unnamedFields? (ts : List TokenTree) : Option Unit :=
  (readFields? (fun ts => (dropUnnamed? ts).map (Unit.unit, ·)) ts.length ts).map fun _ => ()

/-- A variant of a type of alternatives, and what follows it. -/
def variant? (ts : List TokenTree) : Option (Unit × List TokenTree) := do
  let (_, rest) ← Attribute.takeAll? ts
  match ← name? (dropVisibility rest) with
  | (_, .group .braces inside :: rest) => do let _ ← namedFields? inside; some ((), rest)
  | (_, .group .parentheses inside :: rest) => do unnamedFields? inside; some ((), rest)
  | (_, rest) => some ((), rest)

/-! ## Declarations -/

namespace Declaration

/-- The declaration that a sequence of pieces spells. -/
def ofTokens? (ts : List TokenTree) : Option Declaration := do
  let (_, rest) ← Attribute.takeAll? ts
  match dropVisibility rest with
  | .atom (.word kind) :: rest =>
    match kind, ← name? rest with
    | "struct", (_, [.group .braces inside]) => (namedFields? inside).map .fields
    | "struct", (_, [.group .parentheses inside, t]) =>
      if t.isSign ';' then (unnamedFields? inside).map fun _ => .unnamed else none
    | "struct", (_, [t]) => if t.isSign ';' then some .unnamed else none
    | "enum", (_, [.group .braces inside]) =>
      (readFields? variant? inside.length inside).map fun _ => .other
    | "union", (_, [.group .braces inside]) => (namedFields? inside).map fun _ => .other
    | _, _ => none
  | _ => none

/-- The declaration that a text spells. -/
def ofText? (text : String) : Option Declaration := do
  ofTokens? (← TokenTree.ofText? text.toList)

end Declaration

/-! ## Source texts -/

/-- The texts of a field. -/
structure FieldText where
  name : String
  type : String
  /-- Its attributes, without the brackets around them. -/
  attributes : List String

/-- The forms of declarations that have fields in one place. -/
inductive Form where
  | record
  | tuple
  | unit
  /-- A type of alternatives, of which the only one has the fields. -/
  | alternatives
  | union

namespace FieldText

/-- The attributes of a field in their brackets. -/
def attributeText (f : FieldText) : String :=
  String.join (f.attributes.map fun a => "#[" ++ a ++ "] ")

/-- A field with its name. -/
def named (f : FieldText) : String :=
  f.attributeText ++ f.name ++ ": " ++ f.type ++ ", "

/-- A field without its name. -/
def unnamed (f : FieldText) : String :=
  f.attributeText ++ f.type ++ ", "

end FieldText

/-- The text of a declaration of some name. -/
def Form.text (fs : List FieldText) : Form → String
  | .record => "struct S \x7b " ++ String.join (fs.map FieldText.named) ++ "\x7d"
  | .tuple => "struct S(" ++ String.join (fs.map FieldText.unnamed) ++ ");"
  | .unit => "struct S;"
  | .alternatives => "enum E \x7b V \x7b " ++ String.join (fs.map FieldText.named) ++ "\x7d \x7d"
  | .union => "union U \x7b " ++ String.join (fs.map FieldText.named) ++ "\x7d"

end Locus.Record
