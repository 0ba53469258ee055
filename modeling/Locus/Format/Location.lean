import Locus.Json.Reader
import Locus.Location

/-!
# Positions and locations in JSON

Both are records. A position has the fields `index`, `column` and `line`, and a location `source`,
`start` and `end`, of which `source` may be absent or null.
-/

namespace Locus

open Json

/-- A position as it is written. -/
def Position.tree (p : Position) : Tree :=
  .record [("index", .ofNat p.index), ("column", .ofNat p.column), ("line", .ofNat p.line)]

/-- Reads a position. -/
def Position.ofTree? (t : Tree) : Option Position := do
  match ← t.fields? ["index", "column", "line"] with
  | [some index, some column, some line] =>
    some ⟨← index.natural?, ← line.natural?, ← column.natural?⟩
  | _ => none

/-- The text of a position. -/
def Position.text (p : Position) : List Char := p.tree.text

/-- The position that a text spells. -/
def Position.ofText? (text : List Char) : Option Position := do
  ofTree? (← Tree.ofText? text)

/-- A location as it is written; a label that is absent is left out. -/
def Location.tree (l : Location) : Tree :=
  .record <|
    (match l.source with | some label => [("source", Tree.ofString label)] | none => [])
      ++ [("start", l.start.tree), ("end", l.stop.tree)]

/-- Reads a location. -/
def Location.ofTree? (t : Tree) : Option Location := do
  match ← t.fields? ["source", "start", "end"] with
  | [source, some start, some stop] =>
    let label ← (source.getD .null).optional? Tree.text?
    some ⟨label, ← Position.ofTree? start, ← Position.ofTree? stop⟩
  | _ => none

/-- The text of a location. -/
def Location.text (l : Location) : List Char := l.tree.text

/-- The location that a text spells. -/
def Location.ofText? (text : List Char) : Option Location := do
  ofTree? (← Tree.ofText? text)

end Locus
