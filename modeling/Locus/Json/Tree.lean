import Locus.Json.Numeral

/-!
# JSON as it is written

A JSON text with blanks and escapes taken away, but nothing else: numbers keep their spelling,
objects keep the order of their members, and a key may occur twice. Readers of records work on
this form, since it is here that a duplicate or a fraction still shows.
-/

namespace Locus.Json

/-- A JSON text. A string, or the key of a member, is none where an escaped surrogate has no
partner, so that it stands for no text. -/
inductive Tree where
  | null
  | bool (b : Bool)
  | number (n : Numeral)
  | string (text : Option String)
  | array (items : List Tree)
  | object (members : List (Option String × Tree))

instance : Inhabited Tree := ⟨.null⟩

namespace Tree

/-- The number `n`. -/
def ofNat (n : Nat) : Tree := .number (.ofNat n)

/-- The string `s`. -/
def ofString (s : String) : Tree := .string (some s)

/-- An object with the given members, in order. -/
def record (members : List (String × Tree)) : Tree :=
  .object (members.map fun m => (some m.1, m.2))

/-- The natural number that is written, if one is and it fits in 64 bits. -/
def natural? : Tree → Option Nat
  | .number n => n.natural?
  | _ => none

/-- The text that is written, if one is. -/
def text? : Tree → Option String
  | .string text => text
  | _ => none

/-- The truth value that is written, if one is. -/
def bool? : Tree → Option Bool
  | .bool b => some b
  | _ => none

/-- What stands for an optional value: nothing for `null`, else what `read` makes of it. -/
def optional? {α : Type} (read : Tree → Option α) : Tree → Option (Option α)
  | .null => some none
  | t => (read t).map some

/-- The value of the field `name` among the members of an object: absent, or given once. A field
that is given twice is an error. -/
def field? (members : List (Option String × Tree)) (name : String) : Option (Option Tree) :=
  match members.filter fun m => m.1 = some name with
  | [] => some none
  | [m] => some (some m.2)
  | _ => none

/-- The values of the fields of a record, in the order of their names. A record is written either
as an object, in which other members are ignored, or as an array of the values in that order,
which may leave out the last ones but has no more of them. -/
def fields? (names : List String) : Tree → Option (List (Option Tree))
  | .object members =>
    if members.all fun m => m.1.isSome then names.mapM (field? members) else none
  | .array items =>
    if items.length ≤ names.length then
      some (items.map some ++ List.replicate (names.length - items.length) none)
    else none
  | _ => none

mutual

/-- How deeply arrays and objects are nested. -/
def depth : Tree → Nat
  | .array items => depthItems items + 1
  | .object members => depthMembers members + 1
  | _ => 0

/-- The greatest depth among the items of an array. -/
def depthItems : List Tree → Nat
  | [] => 0
  | t :: rest => max t.depth (depthItems rest)

/-- The greatest depth among the members of an object. -/
def depthMembers : List (Option String × Tree) → Nat
  | [] => 0
  | (_, t) :: rest => max t.depth (depthMembers rest)

end

end Tree

end Locus.Json
