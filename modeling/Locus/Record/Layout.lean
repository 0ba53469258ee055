import Locus.Record.Attribute

/-!
# Layouts

Which fields of a record are places for locations, under which properties, and which properties
are refused because they are keys of other fields. Main statement: no property that is claimed is
refused.
-/

namespace Locus.Record

/-- A field of a declaration. -/
structure Field where
  /-- Its name. A raw name keeps the mark that makes it one. -/
  name : String
  attributes : List Attribute

/-- A declaration, as far as it matters for locations. -/
inductive Declaration where
  /-- A record with named fields. -/
  | fields (fs : List Field)
  /-- A record whose fields have no names, or none at all. -/
  | unnamed
  /-- A type that is no record. -/
  | other

/-- Why a declaration has no layout. -/
inductive LayoutError where
  | notRecord
  | unnamedFields
  /-- An item of a place for locations makes no sense. -/
  | item (e : ItemError)
  /-- A place for locations lists nothing. -/
  | emptyList
  /-- A place for locations is given a value. -/
  | valueForm
  | claimedTwice (property : String)
  | secondExtra
  | secondRange
  /-- No field is a place for locations. -/
  | noSlot
deriving DecidableEq

/-- The sentence that reports the error. -/
def LayoutError.message : LayoutError → String
  | .notRecord => "derive(Locate) only supports structs"
  | .unnamedFields => "derive(Locate) only supports structs with named fields"
  | .item e => e.message
  | .emptyList => "empty location() helper"
  | .valueForm => "use #[location] or #[location(name = \"...\")]"
  | .claimedTwice property => "property `" ++ property ++ "` is claimed by more than one field"
  | .secondExtra => "only one #[location(extra)] field is allowed"
  | .secondRange => "duplicate #[range] field"
  | .noSlot => "derive(Locate) requires at least one #[location] field"

/-- The path of the attributes that make a field a place for locations. -/
def slotPath : Path := .plain "location"

/-- The path of the attributes that make a field the place of the range. -/
def rangePath : Path := .plain "range"

/-- The place that an attribute makes of a field. Without a list it is the place of the property
that has the name of the field; of the items in a list the last decides. -/
def Slot.ofArguments (field : String) : Arguments → Except LayoutError Slot
  | .absent => .ok (.named field)
  | .list inside =>
    match (Part.ofList inside).mapM Slot.ofPart with
    | .error e => .error (.item e)
    | .ok slots =>
      match slots.getLast? with
      | some slot => .ok slot
      | none => .error .emptyList
  | .value => .error .valueForm

/-- Which fields of a record are places for locations. -/
structure Layout where
  /-- The properties that are claimed, each with the field that claims it, in order. -/
  named : List (String × String)
  /-- The field that takes the locations under all other properties. -/
  extra : Option String
  /-- The field that takes the range. -/
  range : Option String
  /-- The fields in order, and how they are written. -/
  fields : List (String × Writing)
deriving DecidableEq

/-- The key that a field keeps for itself, if it is written under one. -/
def Writing.reservedKey? (w : Writing) (name : String) : Option String :=
  if w.flattened || w.skipped then none else some (w.rename.getD name)

namespace Layout

/-- The layout of a record without fields. -/
def empty : Layout := ⟨[], none, none, []⟩

/-- The properties that are claimed, in order. -/
def claimed (l : Layout) : List String := l.named.map (·.1)

/-- The keys of the fields that no place for locations claims, in order. -/
def reserved (l : Layout) : List String :=
  (l.fields.filterMap fun (name, w) => w.reservedKey? name).filter (· ∉ l.claimed)

/-- Takes note of a place for locations. -/
def claim (l : Layout) (field : String) : Slot → Except LayoutError Layout
  | .named property =>
    if property ∈ l.claimed then .error (.claimedTwice property)
    else .ok { l with named := l.named ++ [(property, field)] }
  | .extra => if l.extra.isSome then .error .secondExtra else .ok { l with extra := some field }

/-- Takes note of an attribute of a field. -/
def readAttribute (field : String) (l : Layout) (a : Attribute) : Except LayoutError Layout :=
  if a.path = rangePath then
    if l.range.isSome then .error .secondRange else .ok { l with range := some field }
  else if a.path = slotPath then do l.claim field (← Slot.ofArguments field a.arguments)
  else .ok l

/-- Takes note of a field. -/
def readField (l : Layout) (f : Field) : Except LayoutError Layout :=
  f.attributes.foldlM (readAttribute f.name)
    { l with fields := l.fields ++ [(f.name, .ofAttributes f.attributes)] }

/-- The layout of a list of fields, of which one at least must be a place for locations. -/
def ofFields (fs : List Field) : Except LayoutError Layout := do
  let l ← fs.foldlM readField empty
  if l.named = [] ∧ l.extra = none then .error .noSlot else .ok l

/-- The layout of a declaration. -/
def ofDeclaration : Declaration → Except LayoutError Layout
  | .fields fs => ofFields fs
  | .unnamed => .error .unnamedFields
  | .other => .error .notRecord

/-- A property that is claimed is not refused. -/
theorem not_mem_reserved_of_mem_claimed {l : Layout} {property : String}
    (h : property ∈ l.claimed) : property ∉ l.reserved := by
  simp [reserved, h]

end Layout

end Locus.Record
