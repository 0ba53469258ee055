import Locus.Format.Location
import Locus.Token

/-!
# Tokens in JSON

A token is an object. Besides its kind and value it has its location and range, where it has them,
and its other locations under the names of their properties. When it is read, every member that is
not one of its own must be a location.
-/

namespace Locus.Token

open Json

/-- The indices of a range as they are written. -/
def rangeTree (r : Nat × Nat) : Tree := .array [.ofNat r.1, .ofNat r.2]

/-- A token as it is written: its kind and value, what it has of location and range, and its other
locations in the order of their properties. -/
def tree (t : Token) : Tree :=
  .record <|
    [("type", Tree.ofString t.kind), ("value", Tree.ofString t.value)]
      ++ (match t.loc with | some l => [("loc", l.tree)] | none => [])
      ++ (match t.range with | some r => [("range", rangeTree r)] | none => [])
      ++ t.extra.entries.map fun entry => (entry.1, entry.2.tree)

/-- Reads a range: exactly two indices. -/
def range? : Tree → Option (Nat × Nat)
  | .array [a, b] => do some (← a.natural?, ← b.natural?)
  | _ => none

/-- Arrays and objects may be nested to this depth in a text. -/
def maxDepth : Nat := 127

/-- Reads a member that is not one of the token's own: a location, in which even what counts for
nothing must make sense. -/
def extraLocation? (t : Tree) : Option Location :=
  if (Value.ofTree? t).isSome ∧ t.depth < maxDepth then Location.ofTree? t else none

/-- The keys of a token's own members. -/
def memberKeys : List String := ["type", "value", "loc", "range"]

/-- Reads the members that are not the token's own; of two under one key the later counts. -/
def readExtra? : List (Option String × Tree) → KeyMap Location → Option (KeyMap Location)
  | [], extra => some extra
  | (none, _) :: _, _ => none
  | (some key, t) :: rest, extra =>
    if key ∈ memberKeys then readExtra? rest extra
    else
      match extraLocation? t with
      | some l => readExtra? rest (extra.insert key l)
      | none => none

/-- Reads a token. Only an object is one. -/
def ofTree? : Tree → Option Token
  | .object members => do
    let kind ← (← (← Tree.field? members "type")).text?
    let value ← (← (← Tree.field? members "value")).text?
    let loc ← ((← Tree.field? members "loc").getD .null).optional? Location.ofTree?
    let range ← ((← Tree.field? members "range").getD .null).optional? range?
    let extra ← readExtra? members .empty
    some ⟨kind, value, loc, range, extra⟩
  | _ => none

/-- The text of a token. -/
def text (t : Token) : List Char := t.tree.text

/-- The token that a text spells. -/
def ofText? (text : List Char) : Option Token := do
  ofTree? (← Tree.ofText? text)

end Locus.Token
