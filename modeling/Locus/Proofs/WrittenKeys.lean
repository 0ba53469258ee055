import Locus.Proofs.Record
import Locus.Proofs.Writing

/-!
# Keys that locations leave alone

What is written of a record when locations have been attached to it. Main statements: the key that a
field is written under is claimed or reserved, unless it is a raw name that nothing renames, so that
no location comes under it among all others, and it does not occur more often than before; and a raw
name that nothing renames is written under a key that can occur twice.
-/

namespace Locus

/-- How many members of an object have the key. -/
def Json.Tree.occurrences (key : String) : Json.Tree → Nat
  | .object members => members.countP fun m => m.1 = some key
  | _ => 0

/-- Under all other keys there are as many pairs as before. -/
theorem Keyed.countP_insert_of_ne {α : Type} {key key' : String} (hne : key ≠ key') (value : α)
    (entries : List (String × α)) :
    (insert key value entries).countP (fun e => e.1 = key') =
      entries.countP (fun e => e.1 = key') := by
  induction entries with
  | nil => simp [insert, hne]
  | cons entry rest ih =>
    obtain ⟨k, v⟩ := entry
    unfold insert
    split
    · simp [hne]
    · split
      · next hk => simp [hk, hne]
      · simp [List.countP_cons, ih]

namespace Record

open Json

variable {layout : Layout} {fs : List Field} {r r' : Record layout}

/-! ## What is written of a field -/

/-- How often a field is written under the key. -/
def fieldOccurrences (key : String) (r : Record layout) (f : Field) : Nat :=
  (r.fieldMembers f.name (.ofAttributes f.attributes)).countP fun m => m.1 = some key

/-- A key occurs as often in what is written if every field is written under it as often. -/
theorem occurrences_tree_congr (hlayout : Layout.ofDeclaration (.fields fs) = .ok layout)
    {key : String} (h : ∀ f ∈ fs, r'.fieldOccurrences key f = r.fieldOccurrences key f) :
    r'.tree.occurrences key = r.tree.occurrences key := by
  rw [tree, tree, Tree.occurrences, Tree.occurrences, Layout.fields_of_ofDeclaration hlayout,
    List.flatMap_map, List.flatMap_map, List.countP_flatMap, List.countP_flatMap]
  congr 1
  exact List.map_congr_left h

/-- How often a field is written under a key depends only on the members of what it holds, and on
those only if they are written in its place. -/
theorem fieldOccurrences_congr {key : String} {f : Field} {c c' : Content}
    (hc : r.content? f.name = some c) (hc' : r'.content? f.name = some c')
    (hmembers : (Writing.ofAttributes f.attributes).flattened = true →
      c'.members.countP (fun m => m.1 = some key) = c.members.countP fun m => m.1 = some key) :
    r'.fieldOccurrences key f = r.fieldOccurrences key f := by
  rw [fieldOccurrences, fieldOccurrences, fieldMembers, fieldMembers, hc, hc']
  dsimp only
  split
  · rfl
  · split
    · next hflattened => exact hmembers hflattened
    · simp

/-- A map takes a location without writing any other key. -/
theorem countP_members_insert {property key : String} (hne : property ≠ key) (l : Location)
    (m : KeyMap Location) :
    (Content.locations (m.insert property l)).members.countP (fun e => e.1 = some key) =
      (Content.locations m).members.countP fun e => e.1 = some key := by
  have hentries : ∀ m : KeyMap Location,
      (Content.locations m).members.countP (fun e => e.1 = some key) =
        m.entries.countP fun e => e.1 = key := by
    intro m
    rw [Content.members, Content.tree, Tree.record]
    dsimp only
    rw [List.map_map, List.countP_map]
    refine List.countP_congr fun e _ => ?_
    simp
  rw [hentries, hentries]
  exact Keyed.countP_insert_of_ne hne l m.entries

/-- The keys of the members that a location is written with. -/
def locationKeys : List String := ["source", "start", "end"]

/-- A location writes no other keys. -/
theorem countP_members_location {key : String} (hkey : key ∉ locationKeys) (l : Option Location) :
    (Content.location l).members.countP (fun e => e.1 = some key) = 0 := by
  obtain ⟨hsource, hstart, hend⟩ : key ≠ "source" ∧ key ≠ "start" ∧ key ≠ "end" := by
    simpa [locationKeys] using hkey
  rcases l with _ | l
  · rfl
  · rw [Content.members, Content.tree, Location.tree, Tree.record]
    dsimp only
    rcases l.source with _ | label
    · simp [hstart.symm, hend.symm]
    · simp [hsource.symm, hstart.symm, hend.symm]

/-- A range is no object, and neither is what stands for none. -/
theorem members_range (ends : Option (Nat × Nat)) : (Content.range ends).members = [] := by
  rcases ends with _ | ends
  · rfl
  · rfl

/-! ## What locations change of it -/

/-- A field is written under a key that is claimed or reserved as often as before when a location is
attached, unless the members of a location are written in its place and one has that key. -/
theorem WellTyped.fieldOccurrences_stamp (h : r.WellTyped fs)
    (hreads : Layout.Reads (Placed.ofFields fs) layout) {key : String}
    (hkey : IsClaimed fs key ∨ key ∈ layout.reserved) {f : Field} (hf : f ∈ fs)
    (hwhole : key ∈ locationKeys → ∀ p, f.IsPlace (.named p) →
      (Writing.ofAttributes f.attributes).flattened = false)
    (property : String) (l : Location) :
    (Locus.stamp property l r).fieldOccurrences key f = r.fieldOccurrences key f := by
  rcases stamp_cases property l r with hsome | ⟨-, hsame⟩
  · -- what a field holds changes as its place says; that shows only if its members are written
    by_cases hrange : f.IsRange
    · obtain ⟨ends, hends⟩ := h.range f hf hrange
      refine fieldOccurrences_congr hends (h.content?_of_isRange hreads hsome hf hrange) fun _ => ?_
      rw [members_range, members_range]
    · by_cases hnamed : f.IsPlace (.named property)
      · obtain ⟨l₀, hl₀⟩ := h.named f hf property hnamed
        have hfilled := h.content?_of_isPlace hreads hsome hf hnamed
        refine fieldOccurrences_congr hl₀ hfilled fun hflattened => ?_
        have hother : key ∉ locationKeys := by
          intro hkey
          rw [hwhole hkey property hnamed] at hflattened
          cases hflattened
        rw [countP_members_location hother, countP_members_location hother]
      · by_cases hextra : ¬IsClaimed fs property ∧ f.IsPlace .extra
        · obtain ⟨hunclaimed, hs⟩ := hextra
          obtain ⟨m, hm⟩ := h.extra f hf hs
          have hfilled := h.content?_of_extra hreads hsome hf hs hunclaimed hm
          refine fieldOccurrences_congr hm hfilled fun _ => ?_
          exact countP_members_insert (ne_of_attach? hsome hunclaimed hkey) l m
        · have hother := h.content?_of_other hreads hsome hf hnamed hextra hrange
          rw [fieldOccurrences, fieldOccurrences, fieldMembers, fieldMembers, hother]
  · rw [hsame]

/-- So it is when any number of locations are attached, by induction on them. -/
theorem WellTyped.fieldOccurrences_attachAll (h : r.WellTyped fs)
    (hreads : Layout.Reads (Placed.ofFields fs) layout) {key : String}
    (hkey : IsClaimed fs key ∨ key ∈ layout.reserved) {f : Field} (hf : f ∈ fs)
    (hwhole : key ∈ locationKeys → ∀ p, f.IsPlace (.named p) →
      (Writing.ofAttributes f.attributes).flattened = false)
    (steps : List (String × Location)) :
    (attachAll steps r).fieldOccurrences key f = r.fieldOccurrences key f := by
  induction steps generalizing r with
  | nil => rfl
  | cons step steps ih =>
    have hone := h.fieldOccurrences_stamp hreads hkey hf hwhole step.1 step.2
    exact (ih (h.stamp hreads step.1 step.2)).trans hone

/-! ## The keys of fields -/

/-- The key of a field is claimed or reserved, unless it is a raw name that nothing renames: then it
is the name without its mark that the field is written under, but with its mark that the name is
reserved. -/
theorem isClaimed_or_mem_reserved (hlayout : Layout.ofDeclaration (.fields fs) = .ok layout)
    {f : Field} (hf : f ∈ fs) {w : Writing} (hw : Writing.ofAttributes f.attributes = w)
    (hflattened : w.flattened = false) (hskipped : w.skipped = false)
    (hname : w.rename = none → plainName f.name = f.name) :
    IsClaimed fs (w.key f.name) ∨ w.key f.name ∈ layout.reserved := by
  -- the key that is kept for the field is the one that it is written under, as its name has no mark
  have hkey : w.reservedKey? f.name = some (w.key f.name) := by
    rw [Writing.reservedKey?, Writing.key, hflattened, hskipped]
    rcases hrename : w.rename with _ | key
    · simp [hname hrename]
    · rfl
  rw [← Layout.mem_claimed_iff (Layout.reads_of_ofDeclaration hlayout), or_iff_not_imp_left]
  intro hunclaimed
  rw [Layout.reserved, List.mem_filter, List.mem_filterMap]
  refine ⟨⟨(f.name, w), ?_, hkey⟩, by simpa using hunclaimed⟩
  rw [Layout.fields_of_ofDeclaration hlayout, ← hw]
  exact List.mem_map_of_mem hf

/-- **Locations leave the keys of fields alone.** Let the attributes about writing make sense. Then
the key of every field that is written under one is claimed or reserved, unless it is a raw name
that nothing renames. If the field for all other locations holds none at first, it never holds one
under that key, whatever is attached; and the key is written as often as at first, unless it is that
of a member of locations and a field that claims a property has its members written in its place. -/
theorem attachAll_keeps_keys (hlayout : Layout.ofDeclaration (.fields fs) = .ok layout)
    {items : Field → List Item} (hspell : ∀ f ∈ fs, Writing.Spells f.attributes (items f))
    (hone : ∀ f ∈ fs, ((items f).filterMap Item.key?).length ≤ 1) (hr : r.WellTyped fs)
    (hempty : ∀ g ∈ fs, g.IsPlace .extra → r.content? g.name = some (.locations .empty)) :
    ∀ f ∈ fs, let w := Writing.ofItems (items f)
      w.flattened = false → w.skipped = false → (w.rename = none → plainName f.name = f.name) →
      let key := w.key f.name
      (IsClaimed fs key ∨ Locate.reserves (Record layout) key = true) ∧
        ∀ steps,
          (∀ g ∈ fs, g.IsPlace .extra → ∃ m,
            (attachAll steps r).content? g.name = some (.locations m) ∧ m.find? key = none) ∧
          ((key ∈ locationKeys → ∀ g ∈ fs, ∀ p, g.IsPlace (.named p) →
              (Writing.ofItems (items g)).flattened = false) →
            (attachAll steps r).tree.occurrences key = r.tree.occurrences key) := by
  intro f hf w hflattened hskipped hname key
  have hreads := Layout.reads_of_ofDeclaration hlayout
  have hwriting : ∀ g ∈ fs, Writing.ofAttributes g.attributes = Writing.ofItems (items g) :=
    fun g hg => Writing.ofAttributes_of_spells (hspell g hg) (hone g hg)
  have hkey : IsClaimed fs key ∨ key ∈ layout.reserved :=
    isClaimed_or_mem_reserved hlayout hf (hwriting f hf) hflattened hskipped hname
  refine ⟨hkey.imp_right decide_eq_true, fun steps => ⟨fun g hg hs => ?_, fun hwhole => ?_⟩⟩
  · obtain ⟨m, hm, hfind⟩ :=
      hr.find?_attachAll_of_taken hreads hkey hg hs (hempty g hg hs) steps
    exact ⟨m, hm, hfind⟩
  · refine occurrences_tree_congr hlayout fun g hg => ?_
    refine hr.fieldOccurrences_attachAll hreads hkey hg (fun hmember p hs => ?_) steps
    rw [hwriting g hg]
    exact hwhole hmember g hg p hs

/-- A field that is renamed: its key is reserved, and is written once whatever is attached. -/
theorem attachAll_keeps_keys_renamed :
    let inside (ts : List Atom) : Arguments := .list (ts.map .atom)
    let renamed : Field :=
      ⟨"ty", [⟨.plain "serde", inside [.word "rename", .sign '=' false, .text "kind"]⟩]⟩
    let fs : List Field :=
      [renamed, ⟨"loc", [⟨slotPath, .absent⟩]⟩,
        ⟨"rest", [⟨.plain "serde", inside [.word "flatten"]⟩, ⟨slotPath, inside [.word "extra"]⟩]⟩]
    let layout : Layout :=
      ⟨[("loc", "loc")], some "rest", none, fs.map fun f => (f.name, .ofAttributes f.attributes)⟩
    let r : Record layout :=
      ⟨[("ty", .value (.string "word")), ("loc", .location none), ("rest", .locations .empty)]⟩
    Layout.ofDeclaration (.fields fs) = .ok layout ∧ r.WellTyped fs ∧
      Locate.reserves (Record layout) "kind" = true ∧
      ∀ steps, (attachAll steps r).tree.occurrences "kind" = 1 := by
  intro inside renamed fs layout r
  have hlayout : Layout.ofDeclaration (.fields fs) = .ok layout := by rfl
  have hreads := Layout.reads_of_ofDeclaration hlayout
  have hr : r.WellTyped fs := by
    refine .of_layout hreads rfl (by decide) ?_ ?_ ?_
    · rintro x hx
      cases List.mem_singleton.1 hx
      exact ⟨none, rfl⟩
    · rintro _ ⟨⟩
      exact ⟨.empty, rfl⟩
    · rintro _ ⟨⟩
  let rename : Item := ⟨"rename", [.atom (.sign '=' false), .atom (.text "kind")]⟩
  let flatten : Item := ⟨"flatten", []⟩
  have hrename : rename.WellFormed :=
    ⟨.inr (.inl ⟨false, _, rfl⟩), by simp [rename, Item.skipNames], fun _ _ => by decide⟩
  have hflatten : flatten.WellFormed := ⟨.inl rfl, fun _ => rfl, by simp [flatten]⟩
  let items (f : Field) : List Item :=
    if f.name = "ty" then [rename] ++ [] else if f.name = "rest" then [flatten] ++ [] else []
  have hspell : ∀ f ∈ fs, Writing.Spells f.attributes (items f) := by
    simp only [fs, List.forall_mem_cons, List.not_mem_nil, false_imp_iff, implies_true, and_true]
    refine ⟨?_, .other (by decide) .nil, ?_⟩
    · exact Writing.Spells.list rfl rfl (.cons ⟨rfl, hrename⟩ .nil) .nil
    · exact Writing.Spells.list rfl rfl (.cons ⟨rfl, hflatten⟩ .nil) (.other (by decide) .nil)
  have hone : ∀ f ∈ fs, ((items f).filterMap Item.key?).length ≤ 1 := by decide
  have hempty : ∀ g ∈ fs, g.IsPlace .extra → r.content? g.name = some (.locations .empty) := by
    intro g hg hs
    have hname := Option.some.inj ((Layout.extra_eq_some_iff hreads).2 ⟨g, hg, rfl, hs⟩)
    rw [← hname]
    rfl
  obtain ⟨-, hkept⟩ := attachAll_keeps_keys hlayout hspell hone hr hempty renamed
    List.mem_cons_self rfl rfl fun hname => absurd hname (by decide)
  refine ⟨hlayout, hr, by decide, fun steps => ?_⟩
  exact (hkept steps).2 fun hmember => absurd hmember (by decide)

/-- The name of a raw field that nothing renames is written without its mark, but reserved with it:
a location comes under it among all others, and then it is written twice. -/
theorem raw_name_written_twice :
    let inside (ts : List Atom) : Arguments := .list (ts.map .atom)
    let raw : Field := ⟨"r#type", []⟩
    let fs : List Field :=
      [raw, ⟨"loc", [⟨slotPath, .absent⟩]⟩,
        ⟨"rest", [⟨slotPath, inside [.word "extra"]⟩, ⟨.plain "serde", inside [.word "flatten"]⟩]⟩]
    let layout : Layout :=
      ⟨[("loc", "loc")], some "rest", none, fs.map fun f => (f.name, .ofAttributes f.attributes)⟩
    let r : Record layout :=
      ⟨[("r#type", .value (.string "word")), ("loc", .location none), ("rest", .locations .empty)]⟩
    let key := (Writing.ofAttributes raw.attributes).key raw.name
    let r' := stamp key ⟨none, ⟨1, 1, 1⟩, ⟨2, 1, 2⟩⟩ r
    Layout.ofDeclaration (.fields fs) = .ok layout ∧ r.WellTyped fs ∧ key = "type" ∧
      ¬IsClaimed fs key ∧ Locate.reserves (Record layout) key = false ∧
      r.tree.occurrences key = 1 ∧ r'.tree.occurrences key = 2 := by
  intro inside raw fs layout r key r'
  have hlayout : Layout.ofDeclaration (.fields fs) = .ok layout := by rfl
  have hreads := Layout.reads_of_ofDeclaration hlayout
  have hr : r.WellTyped fs := by
    refine .of_layout hreads rfl (by decide) ?_ ?_ ?_
    · rintro x hx
      cases List.mem_singleton.1 hx
      exact ⟨none, rfl⟩
    · rintro _ ⟨⟩
      exact ⟨.empty, rfl⟩
    · rintro _ ⟨⟩
  have hunclaimed : ¬IsClaimed fs key := by
    rw [← Layout.mem_claimed_iff hreads]
    decide
  exact ⟨hlayout, hr, by decide, hunclaimed, by decide, by decide, by decide⟩

end Record

end Locus
