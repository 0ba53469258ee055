import Locus.Json.Value
import Locus.Location

/-!
# Tokens that carry locations

What it means for a kind of token to carry locations under named properties, and how JSON values
do it: the location becomes a member of the object, and its range the member `range`.
-/

namespace Locus

/-- The property under which tokens get their location unless told otherwise. -/
def defaultProperty : String := "loc"

/-- Tokens that can carry a location under a named property. -/
class Locate (τ : Type) where
  /-- The token with the location under the property, and with its range where tokens have a place
  for one; none if the token has no place for the property. -/
  attach? : String → Location → τ → Option τ
  /-- Whether the property names something that belongs to the token itself. -/
  reserves : String → Bool

/-- The token with the location under the property, or as it is if it has no place for it. -/
def stamp {τ : Type} [Locate τ] (property : String) (l : Location) (t : τ) : τ :=
  (Locate.attach? property l t).getD t

open Json

/-! ## Locations as JSON values -/

/-- The JSON object of a position. -/
def Position.value (p : Position) : Value :=
  .record [("index", .ofNat p.index), ("column", .ofNat p.column), ("line", .ofNat p.line)]

/-- The JSON object of a location; the label is left out if there is none. -/
def Location.value (l : Location) : Value :=
  .record <|
    (match l.source with | some label => [("source", Value.string label)] | none => [])
      ++ [("start", l.start.value), ("end", l.stop.value)]

/-- The key of an object's range. -/
def rangeKey : String := "range"

/-- A token that is any JSON object. -/
structure Json.Object where
  /-- The members, in the order of their keys. -/
  members : List (String × Value)

/-- The object with a location under a property. The range is written last, so the property must
not be its key. -/
def Json.Object.attach? (property : String) (l : Location) (o : Json.Object) :
    Option Json.Object :=
  if property = rangeKey then none
  else
    let range := Value.array [.ofNat l.range.1, .ofNat l.range.2]
    some ⟨Keyed.insert rangeKey range (Keyed.insert property l.value o.members)⟩

instance : Locate Json.Object where
  attach? := Json.Object.attach?
  reserves property := property = rangeKey

/-- Of the JSON values only objects have a place for locations. -/
instance : Locate Value where
  attach? property l v :=
    match v with
    | .object members => (Json.Object.attach? property l ⟨members⟩).map fun o => .object o.members
    | _ => none
  reserves property := property = rangeKey

end Locus
