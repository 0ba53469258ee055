import Locus.Keyed
import Locus.Locate

/-!
# Tokens

A token has a kind and the text that it covers, and it can be given locations: one under the
default property, the others under names of the user's choice. Its own keys are no names for
properties.
-/

namespace Locus

/-- A token. -/
structure Token where
  kind : String
  value : String
  /-- The location under the default property. -/
  loc : Option Location
  /-- The indices of the location that was given last. -/
  range : Option (Nat × Nat)
  /-- The locations under all other properties. -/
  extra : KeyMap Location
deriving DecidableEq

namespace Token

/-- A token without locations. -/
def ofKind (kind value : String) : Token := ⟨kind, value, none, none, .empty⟩

/-- The keys that a token writes besides its locations. -/
def ownKeys : List String := ["type", "value", "range"]

/-- The location under a property, if there is one. -/
def location? (t : Token) (property : String) : Option Location :=
  if property = defaultProperty then t.loc else t.extra.find? property

/-- The token with a location under a property, unless the property is one of its own keys. -/
def attach? (property : String) (l : Location) (t : Token) : Option Token :=
  if property ∈ ownKeys then none
  else if property = defaultProperty then some { t with loc := some l, range := some l.range }
  else some { t with extra := t.extra.insert property l, range := some l.range }

instance : Locate Token where
  attach? := attach?
  reserves property := property ∈ ownKeys

end Token

end Locus
