import Locus.Proofs.Keys
import Locus.Proofs.Traversal
import Locus.Record.Layout

/-!
# What a layout is made of

A layout is put together attribute by attribute, and any conflict between two of them is refused on
the way. Main statement: the layout of a list of fields has exactly the places that the attributes
make of the fields, and no property is claimed twice.
-/

namespace Locus.Record

/-! ## What attributes ask for -/

/-- One of the attributes makes the field the given place for locations. -/
def Field.IsPlace (f : Field) (s : Slot) : Prop :=
  ∃ a ∈ f.attributes, a.path = slotPath ∧ Slot.ofArguments f.name a.arguments = .ok s

/-- One of the fields claims the property. -/
def IsClaimed (fs : List Field) (property : String) : Prop :=
  ∃ f ∈ fs, f.IsPlace (.named property)

/-- One of the attributes makes the field the place of the range. -/
def Field.IsRange (f : Field) : Prop := ∃ a ∈ f.attributes, a.path = rangePath

/-- An attribute with the name of its field. -/
abbrev Placed := String × Attribute

namespace Placed

/-- The attributes of fields, in order. -/
def ofFields (fs : List Field) : List Placed :=
  fs.flatMap fun f => f.attributes.map fun a => (f.name, a)

/-- The place for locations that an attribute makes of its field, if any. -/
def slot? (x : Placed) : Option Slot :=
  if x.2.path = slotPath then (Slot.ofArguments x.1 x.2.arguments).toOption else none

/-- The property that an attribute claims, with its field. -/
def named? (x : Placed) : Option (String × String) :=
  match x.slot? with
  | some (.named property) => some (property, x.1)
  | _ => none

/-- The field that an attribute makes the place of all other locations. -/
def extra? (x : Placed) : Option String := if x.slot? = some .extra then some x.1 else none

/-- The field that an attribute makes the place of the range. -/
def range? (x : Placed) : Option String := if x.2.path = rangePath then some x.1 else none

theorem slot?_eq_some_iff {x : Placed} {s : Slot} :
    x.slot? = some s ↔ x.2.path = slotPath ∧ Slot.ofArguments x.1 x.2.arguments = .ok s := by
  rw [slot?]
  split
  · next hpath =>
    rcases Slot.ofArguments x.1 x.2.arguments with e | s'
    · simp [Except.toOption]
    · simp [Except.toOption, hpath]
  · next hpath => simp [hpath]

end Placed

namespace Layout

/-- The layout has the places that the attributes ask for, which do not conflict. -/
structure Reads (seen : List Placed) (l : Layout) : Prop where
  named_eq : l.named = seen.filterMap Placed.named?
  extra_eq : l.extra.toList = seen.filterMap Placed.extra?
  range_eq : l.range.toList = seen.filterMap Placed.range?
  nodup : l.claimed.Nodup

theorem reads_empty : Reads [] empty := ⟨rfl, rfl, rfl, List.nodup_nil⟩

/-- One more attribute adds what it asks for. -/
theorem Reads.snoc {seen : List Placed} {l l' : Layout} (h : Reads seen l) {x : Placed}
    (hnamed : l'.named = l.named ++ x.named?.toList)
    (hextra : l'.extra.toList = l.extra.toList ++ x.extra?.toList)
    (hrange : l'.range.toList = l.range.toList ++ x.range?.toList)
    (hnodup : l'.claimed.Nodup) : Reads (seen ++ [x]) l' := by
  have hone : ∀ {α : Type} (f : Placed → Option α), [x].filterMap f = (f x).toList := by
    intro α f
    rw [List.filterMap_cons]
    rcases f x with _ | a
    · rfl
    · rfl
  refine ⟨?_, ?_, ?_, hnodup⟩
  · rw [List.filterMap_append, ← h.named_eq, hone, hnamed]
  · rw [List.filterMap_append, ← h.extra_eq, hone, hextra]
  · rw [List.filterMap_append, ← h.range_eq, hone, hrange]

theorem Reads.claim {seen : List Placed} {l l' : Layout} (h : Reads seen l) {field : String}
    {a : Attribute} {slot : Slot} (hslot : Placed.slot? (field, a) = some slot)
    (hrange : Placed.range? (field, a) = none) (hok : l.claim field slot = .ok l') :
    Reads (seen ++ [(field, a)]) l' := by
  cases slot with
  | named property =>
    rw [Layout.claim] at hok
    split at hok
    · cases hok
    · next hfresh =>
      cases hok
      refine h.snoc ?_ ?_ ?_ ?_
      · simp [Placed.named?, hslot]
      · simp [Placed.extra?, hslot]
      · simp [hrange]
      · have hsingle : [property].Nodup := by simp
        rw [claimed, List.map_append]
        refine List.nodup_append.2 ⟨h.nodup, hsingle, fun p hp q hq heq => ?_⟩
        rw [heq, List.mem_singleton.1 hq] at hp
        exact hfresh hp
  | extra =>
    rw [Layout.claim] at hok
    split at hok
    · cases hok
    · next hnone =>
      cases hok
      have hextra : l.extra = none := by simpa using hnone
      refine h.snoc ?_ ?_ ?_ h.nodup
      · simp [Placed.named?, hslot]
      · simp [Placed.extra?, hslot, hextra]
      · simp [hrange]

/-- What one attribute does to a layout, unless it is refused. -/
theorem Reads.readAttribute {seen : List Placed} {l l' : Layout} (h : Reads seen l) {field : String}
    {a : Attribute} (hok : l.readAttribute field a = .ok l') :
    Reads (seen ++ [(field, a)]) l' := by
  rw [Layout.readAttribute] at hok
  split at hok
  · next hpath =>
    have hslot : Placed.slot? (field, a) = none := if_neg (by rw [hpath]; decide)
    split at hok
    · cases hok
    · next hnone =>
      cases hok
      have hrange : l.range = none := by simpa using hnone
      refine h.snoc ?_ ?_ ?_ h.nodup
      · simp [Placed.named?, hslot]
      · simp [Placed.extra?, hslot]
      · simp [Placed.range?, hpath, hrange]
  · next hrangePath =>
    have hrange : Placed.range? (field, a) = none := if_neg hrangePath
    split at hok
    · next hpath =>
      obtain ⟨slot, hargs, hclaim⟩ := bind_eq_ok_iff.1 hok
      exact h.claim (Placed.slot?_eq_some_iff.2 ⟨hpath, hargs⟩) hrange hclaim
    · next hpath =>
      have hslot : Placed.slot? (field, a) = none := if_neg hpath
      cases hok
      refine h.snoc ?_ ?_ ?_ h.nodup
      · simp [Placed.named?, hslot]
      · simp [Placed.extra?, hslot]
      · simp [hrange]

/-! ## Attribute by attribute -/

/-- The layout without how its fields are written. -/
def places (l : Layout) : Layout := { l with fields := [] }

/-- The layout with one more attribute taken note of. -/
def readPlaced (l : Layout) (x : Placed) : Except LayoutError Layout := l.readAttribute x.1 x.2

theorem claim_places (l : Layout) (field : String) (s : Slot) :
    l.places.claim field s = (l.claim field s).map places := by
  cases s with
  | named property =>
    change (if property ∈ l.claimed then _ else _) = _
    rw [claim]
    split <;> rfl
  | extra =>
    change (if l.extra.isSome then _ else _) = _
    rw [claim]
    split <;> rfl

/-- How fields are written does not matter for places. -/
theorem readAttribute_places (field : String) (l : Layout) (a : Attribute) :
    l.places.readAttribute field a = (l.readAttribute field a).map places := by
  rw [readAttribute, readAttribute]
  split
  · change (if l.range.isSome then _ else _) = _
    split <;> rfl
  · split
    · rcases Slot.ofArguments field a.arguments with e | s
      · rfl
      · exact l.claim_places field s
    · rfl

/-- Fields are read attribute by attribute. -/
theorem foldlM_readField (fs : List Field) :
    (fs.foldlM readField empty).map places = (Placed.ofFields fs).foldlM readPlaced empty := by
  have hstep (l : Layout) (f : Field) :
      (f.attributes.map fun a => (f.name, a)).foldlM readPlaced l.places =
        (l.readField f).map places := by
    rw [List.foldlM_map, readField, ← foldlM_map_state (readAttribute_places f.name)]
    rfl
  rw [Placed.ofFields, foldlM_flatMap]
  exact (foldlM_map_state hstep empty fs).symm

theorem reads_of_foldlM {seen : List Placed} {l : Layout}
    (hok : seen.foldlM readPlaced empty = .ok l) : Reads seen l :=
  foldlM_induction (fun h hok => h.readAttribute hok) reads_empty hok

/-- A declaration has a layout only if all its fields can be read, one after another. -/
theorem foldlM_of_ofDeclaration {fs : List Field} {l : Layout}
    (hok : ofDeclaration (.fields fs) = .ok l) : fs.foldlM Layout.readField empty = .ok l := by
  obtain ⟨m, hfold, hm⟩ := bind_eq_ok_iff.1 hok
  split at hm
  · cases hm
  · cases hm
    exact hfold

/-- The layout of a declaration has the places that its attributes ask for. -/
theorem reads_of_ofDeclaration {fs : List Field} {l : Layout}
    (hok : ofDeclaration (.fields fs) = .ok l) : Reads (Placed.ofFields fs) l := by
  have hflat : (Placed.ofFields fs).foldlM readPlaced empty = .ok l.places := by
    rw [← foldlM_readField, foldlM_of_ofDeclaration hok]
    rfl
  have hreads : Reads (Placed.ofFields fs) l.places := reads_of_foldlM hflat
  exact ⟨hreads.named_eq, hreads.extra_eq, hreads.range_eq, hreads.nodup⟩

/-! ## The fields of a layout -/

theorem fields_of_readAttribute {l l' : Layout} {field : String} {a : Attribute}
    (hok : l.readAttribute field a = .ok l') : l'.fields = l.fields := by
  rw [Layout.readAttribute] at hok
  split at hok
  · split at hok <;> cases hok
    rfl
  · split at hok
    · obtain ⟨slot, -, hclaim⟩ := bind_eq_ok_iff.1 hok
      rw [Layout.claim.eq_def] at hclaim
      split at hclaim
      · split at hclaim <;> cases hclaim
        rfl
      · split at hclaim <;> cases hclaim
        rfl
    · cases hok
      rfl

theorem fields_of_readField {l l' : Layout} {f : Field} (hok : l.readField f = .ok l') :
    l'.fields = l.fields ++ [(f.name, .ofAttributes f.attributes)] := by
  rw [Layout.readField] at hok
  exact foldlM_induction (P := fun _ m => m.fields = l.fields ++ [(f.name, _)])
    (fun hsame hnext => (fields_of_readAttribute hnext).trans hsame) rfl hok

/-- The layout of a declaration has its fields, each written as its attributes say. -/
theorem fields_of_ofDeclaration {fs : List Field} {l : Layout}
    (hok : ofDeclaration (.fields fs) = .ok l) :
    l.fields = fs.map fun f => (f.name, .ofAttributes f.attributes) := by
  refine foldlM_induction
    (P := fun fs l => l.fields = fs.map fun f => (f.name, .ofAttributes f.attributes))
    (fun hpast hnext => ?_) rfl (foldlM_of_ofDeclaration hok)
  rw [fields_of_readField hnext, hpast, List.map_append]
  rfl

/-! ## The places of a layout -/

section Seen

variable {seen : List Placed} {l : Layout}

theorem Reads.mem_named_iff (h : Reads seen l) {property field : String} :
    (property, field) ∈ l.named ↔ ∃ x ∈ seen, x.slot? = some (.named property) ∧ x.1 = field := by
  have hnamed (x : Placed) : x.named? = some (property, field) ↔
      x.slot? = some (.named property) ∧ x.1 = field := by
    rw [Placed.named?]
    rcases x.slot? with _ | _ | _ <;> simp
  simp only [h.named_eq, List.mem_filterMap, hnamed]

theorem Reads.extra_eq_some_iff (h : Reads seen l) {field : String} :
    l.extra = some field ↔ ∃ x ∈ seen, x.slot? = some .extra ∧ x.1 = field := by
  rw [← Option.mem_toList, h.extra_eq, List.mem_filterMap]
  simp only [Placed.extra?, Option.ite_none_right_eq_some, Option.some.injEq]

theorem Reads.range_eq_some_iff (h : Reads seen l) {field : String} :
    l.range = some field ↔ ∃ x ∈ seen, x.2.path = rangePath ∧ x.1 = field := by
  rw [← Option.mem_toList, h.range_eq, List.mem_filterMap]
  simp only [Placed.range?, Option.ite_none_right_eq_some, Option.some.injEq]

end Seen

variable {fs : List Field} {l : Layout}

theorem exists_mem_ofFields_iff {P : Placed → Prop} :
    (∃ x ∈ Placed.ofFields fs, P x) ↔ ∃ f ∈ fs, ∃ a ∈ f.attributes, P (f.name, a) := by
  constructor
  · rintro ⟨x, hx, h⟩
    obtain ⟨f, hf, hx⟩ := List.mem_flatMap.1 hx
    obtain ⟨a, ha, rfl⟩ := List.mem_map.1 hx
    exact ⟨f, hf, a, ha, h⟩
  · rintro ⟨f, hf, a, ha, h⟩
    exact ⟨(f.name, a), List.mem_flatMap.2 ⟨f, hf, List.mem_map_of_mem ha⟩, h⟩

theorem exists_slot?_iff {s : Slot} {field : String} :
    (∃ x ∈ Placed.ofFields fs, x.slot? = some s ∧ x.1 = field) ↔
      ∃ f ∈ fs, f.name = field ∧ f.IsPlace s := by
  rw [exists_mem_ofFields_iff]
  simp only [Placed.slot?_eq_some_iff, Field.IsPlace]
  refine exists_congr fun f => and_congr_right fun _ => ?_
  constructor
  · rintro ⟨a, ha, hslot, hname⟩
    exact ⟨hname, a, ha, hslot⟩
  · rintro ⟨hname, a, ha, hslot⟩
    exact ⟨a, ha, hslot, hname⟩

/-- The properties that are claimed are those that attributes claim. -/
theorem mem_named_iff (h : Reads (Placed.ofFields fs) l) {property field : String} :
    (property, field) ∈ l.named ↔ ∃ f ∈ fs, f.name = field ∧ f.IsPlace (.named property) :=
  h.mem_named_iff.trans exists_slot?_iff

/-- The field for all other locations is the one that an attribute makes it. -/
theorem extra_eq_some_iff (h : Reads (Placed.ofFields fs) l) {field : String} :
    l.extra = some field ↔ ∃ f ∈ fs, f.name = field ∧ f.IsPlace .extra :=
  h.extra_eq_some_iff.trans exists_slot?_iff

theorem extra_eq_none_iff (h : Reads (Placed.ofFields fs) l) :
    l.extra = none ↔ ¬∃ f ∈ fs, f.IsPlace .extra := by
  rw [Option.eq_none_iff_forall_ne_some]
  constructor
  · rintro hnone ⟨f, hf, hs⟩
    exact hnone f.name ((extra_eq_some_iff h).2 ⟨f, hf, rfl, hs⟩)
  · intro huntaken field hsome
    obtain ⟨f, hf, -, hs⟩ := (extra_eq_some_iff h).1 hsome
    exact huntaken ⟨f, hf, hs⟩

/-- The field for the range is the one that an attribute makes it. -/
theorem range_eq_some_iff (h : Reads (Placed.ofFields fs) l) {field : String} :
    l.range = some field ↔ ∃ f ∈ fs, f.name = field ∧ f.IsRange := by
  rw [h.range_eq_some_iff, exists_mem_ofFields_iff]
  refine exists_congr fun f => and_congr_right fun _ => ?_
  constructor
  · rintro ⟨a, ha, hpath, hname⟩
    exact ⟨hname, a, ha, hpath⟩
  · rintro ⟨hname, a, ha, hpath⟩
    exact ⟨a, ha, hpath, hname⟩

/-- A property is looked up where it is claimed. -/
theorem lookup_named_eq_some_iff (h : Reads (Placed.ofFields fs) l) {property field : String} :
    l.named.lookup property = some field ↔
      ∃ f ∈ fs, f.name = field ∧ f.IsPlace (.named property) := by
  rw [← mem_named_iff h]
  exact lookup_eq_some_iff_mem h.nodup

theorem lookup_named_eq_none_iff (h : Reads (Placed.ofFields fs) l) {property : String} :
    l.named.lookup property = none ↔ ¬IsClaimed fs property := by
  rw [Option.eq_none_iff_forall_ne_some]
  constructor
  · rintro hnone ⟨f, hf, hs⟩
    exact hnone f.name ((lookup_named_eq_some_iff h).2 ⟨f, hf, rfl, hs⟩)
  · intro hunclaimed field hsome
    obtain ⟨f, hf, -, hs⟩ := (lookup_named_eq_some_iff h).1 hsome
    exact hunclaimed ⟨f, hf, hs⟩

theorem mem_claimed_iff (h : Reads (Placed.ofFields fs) l) {property : String} :
    property ∈ l.claimed ↔ IsClaimed fs property := by
  rw [claimed, List.mem_map]
  constructor
  · rintro ⟨⟨p, field⟩, hmem, rfl⟩
    obtain ⟨f, hf, -, hs⟩ := (mem_named_iff h).1 hmem
    exact ⟨f, hf, hs⟩
  · rintro ⟨f, hf, hs⟩
    exact ⟨(property, f.name), (mem_named_iff h).2 ⟨f, hf, rfl, hs⟩, rfl⟩

end Layout

end Locus.Record
