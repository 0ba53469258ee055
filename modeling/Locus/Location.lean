import Locus.Position
import Locus.Text.Utf8

/-!
# Locations

The stretch of a source that a token covers, from a start to an end position, and the part of a
text that it picks out. The ends are counted in characters; what they pick out is found through
byte offsets.
-/

namespace Locus

/-- A stretch of a source. Nothing relates the two ends: a host that moves back gives a location
that ends before it starts. -/
structure Location where
  /-- The label of the source, such as the path of a file. -/
  source : Option String
  /-- Where the stretch begins. -/
  start : Position
  /-- Where it ends; the character there is no longer part of it. -/
  stop : Position
deriving DecidableEq

namespace Location

/-- The indices of both ends. -/
def range (l : Location) : Nat × Nat :=
  (l.start.index, l.stop.index)

/-- The byte offsets of both ends in the UTF-8 form of `text`. None if the ends are the wrong way
round or the text stops before the end. -/
def byteRange? (l : Location) (text : List Char) : Option (Nat × Nat) :=
  if l.stop.index < l.start.index then none
  else
    match (Utf8.offsets 0 text).drop l.start.index with
    | [] => none
    | start :: later =>
      if l.stop.index = l.start.index then some (start, start)
      else later[l.stop.index - l.start.index - 1]?.map fun stop => (start, stop)

/-- The characters of `text` from the start to the end, taken at the byte offsets of both. -/
def slice? (l : Location) (text : List Char) : Option (List Char) :=
  (l.byteRange? text).bind fun ends => Utf8.between? ends.1 ends.2 text

/-- A location as people read it: the label if there is one, then the two ends. -/
def display (l : Location) : String :=
  let ends := l.start.display ++ "-" ++ l.stop.display
  match l.source with
  | some label => label ++ ":" ++ ends
  | none => ends

end Location

end Locus
