import Locus.Format.Location
import Locus.Locate

/-!
# Trails

A token that is nothing but the list of the locations it was given, in order.
-/

namespace Locus

open Json

/-- The locations that were given, each with its property, in order. -/
structure Trail where
  seen : List (String × Location)
deriving DecidableEq

namespace Trail

/-- The trail with one more location. Only the empty property is refused. -/
def attach? (property : String) (l : Location) (t : Trail) : Option Trail :=
  if property = "" then none else some ⟨t.seen ++ [(property, l)]⟩

instance : Locate Trail where
  attach? := attach?
  reserves _ := false

/-- A trail as it is written. -/
def tree (t : Trail) : Tree :=
  .record
    [("seen", .array (t.seen.map fun (property, l) => .array [Tree.ofString property, l.tree]))]

/-- The text of a trail. -/
def text (t : Trail) : List Char := t.tree.text

end Trail

end Locus
