import Locus.Format.Token
import Locus.Record.Layout

/-!
# Records

Records with the places for locations that a layout describes. Attaching a location fills the
field that claims its property, or else adds it to the field that takes all others, and puts its
range into the field for ranges. Main statement: a property that is reserved is refused.
-/

namespace Locus

open Json

namespace Record

/-- What a field holds. -/
inductive Content where
  | location (l : Option Location)
  /-- The locations under any number of properties. -/
  | locations (m : KeyMap Location)
  | range (r : Option (Nat × Nat))
  /-- Something that locations do not touch. -/
  | value (v : Value)

namespace Content

/-- What a field holds, as it is written. -/
def tree : Content → Tree
  | .location (some l) => l.tree
  | .location none => .null
  | .locations m => .record (m.entries.map fun (key, l) => (key, l.tree))
  | .range (some r) => Token.rangeTree r
  | .range none => .null
  | .value v => v.tree

/-- The members of what a field holds, to be written in its place. -/
def members (c : Content) : List (Option String × Tree) :=
  match c.tree with
  | .object members => members
  | _ => []

/-- The content with one more location. -/
def insert (property : String) (l : Location) : Content → Content
  | .locations m => .locations (m.insert property l)
  | c => c

end Content

end Record

/-- A record with the given layout: what its fields hold, in order. -/
structure Record (layout : Record.Layout) where
  contents : List (String × Record.Content)

namespace Record

variable {layout : Layout}

/-- What a field holds. -/
def content? (r : Record layout) (field : String) : Option Content := r.contents.lookup field

/-- The record with one field changed. -/
def modify (f : Content → Content) (field : String) (r : Record layout) : Record layout :=
  ⟨r.contents.map fun (name, c) => if name = field then (name, f c) else (name, c)⟩

/-- The record with a location in the place for it, if there is one. -/
def place? (property : String) (l : Location) (r : Record layout) : Option (Record layout) :=
  match layout.named.lookup property with
  | some field => some (r.modify (fun _ => .location (some l)) field)
  | none => layout.extra.map fun field => r.modify (.insert property l) field

/-- The record with a range in the field for it. -/
def placeRange (range : Nat × Nat) (r : Record layout) : Record layout :=
  match layout.range with
  | some field => r.modify (fun _ => .range (some range)) field
  | none => r

/-- The record with a location under a property, and with its range. -/
def attach? (property : String) (l : Location) (r : Record layout) : Option (Record layout) :=
  if property ∈ layout.reserved then none
  else (r.place? property l).map (placeRange l.range)

instance : Locate (Record layout) where
  attach? := attach?
  reserves property := property ∈ layout.reserved

/-! ## Records in JSON -/

/-- A name without the mark that makes it a raw one. -/
def plainName (name : String) : String :=
  match name.toList with
  | 'r' :: '#' :: cs => String.ofList cs
  | _ => name

/-- The key that a field is written under. -/
def Writing.key (w : Writing) (name : String) : String := w.rename.getD (plainName name)

/-- The members that a field is written as. -/
def fieldMembers (r : Record layout) (name : String) (w : Writing) :
    List (Option String × Tree) :=
  match r.content? name with
  | none => []
  | some c =>
    if w.skipped then []
    else if w.flattened then c.members
    else [(some (w.key name), c.tree)]

/-- A record as it is written. -/
def tree (r : Record layout) : Tree :=
  .object (layout.fields.flatMap fun (name, w) => r.fieldMembers name w)

/-- The text of a record. -/
def text (r : Record layout) : List Char := r.tree.text

/-- A property that is reserved is refused. -/
theorem attach?_eq_none_of_mem_reserved {property : String} (l : Location) (r : Record layout)
    (h : property ∈ layout.reserved) : r.attach? property l = none := by
  simp [attach?, h]

end Record

end Locus
