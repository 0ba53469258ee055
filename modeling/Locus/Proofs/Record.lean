import Mathlib.Data.List.Nodup
import Locus.Proofs.Layout
import Locus.Record.Basic

/-!
# Records that carry locations

What a location that is attached to a record changes, told by the attributes of its fields. Main
statement: the location goes to the field that claims its property, or else to the field for all
others, and its range to the field for ranges; nothing else changes, and nothing at all if the
property is refused.
-/

namespace Locus.Record

variable {layout : Layout} {property : String} {l : Location} {r r' : Record layout}

/-! ## The contents of fields -/

theorem content?_modify (g : Content → Content) (field : String) (r : Record layout)
    (name : String) :
    (r.modify g field).content? name =
      if field = name then (r.content? name).map g else r.content? name := by
  obtain ⟨contents⟩ := r
  rw [content?, content?, modify]
  induction contents with
  | nil => simp
  | cons entry contents ih =>
    obtain ⟨k, c⟩ := entry
    by_cases hk : name = k
    · subst hk
      by_cases hfield : name = field
      · simp [hfield]
      · simp [hfield, Ne.symm hfield]
    · have hbeq : (name == k) = false := beq_eq_false_iff_ne.2 hk
      by_cases hfield : k = field
      · simpa [List.lookup_cons, hfield, hbeq, hfield ▸ hbeq] using ih
      · simpa [List.lookup_cons, hfield, hbeq] using ih

theorem names_modify (g : Content → Content) (field : String) (r : Record layout) :
    (r.modify g field).contents.map (·.1) = r.contents.map (·.1) := by
  rw [modify, List.map_map]
  refine List.map_congr_left fun entry _ => ?_
  obtain ⟨name, c⟩ := entry
  by_cases h : name = field
  · simp [h]
  · simp [h]

/-- The field that takes the location under a property. -/
def Layout.target? (layout : Layout) (property : String) : Option String :=
  (layout.named.lookup property).or layout.extra

/-- What becomes of the content of that field. -/
def Layout.fill (layout : Layout) (property : String) (l : Location) (c : Content) : Content :=
  if property ∈ layout.claimed then .location (some l) else c.insert property l

theorem Layout.isSome_lookup_named_iff :
    (layout.named.lookup property).isSome = true ↔ property ∈ layout.claimed := by
  rw [List.lookup_isSome_iff, Layout.claimed, List.mem_map]
  constructor
  · rintro ⟨entry, hmem, hname⟩
    exact ⟨entry, hmem, (beq_iff_eq.1 hname).symm⟩
  · rintro ⟨entry, hmem, rfl⟩
    exact ⟨entry, hmem, beq_self_eq_true _⟩

/-- Putting a location in its place changes one field, in one way. -/
theorem place?_eq (property : String) (l : Location) (r : Record layout) :
    r.place? property l =
      (layout.target? property).map fun field => r.modify (layout.fill property l) field := by
  rw [place?, Layout.target?]
  rcases hlookup : layout.named.lookup property with _ | field
  · have hfill : layout.fill property l = Content.insert property l := by
      funext c
      rw [Layout.fill, if_neg]
      rw [← Layout.isSome_lookup_named_iff, hlookup]
      exact Bool.false_ne_true
    rw [hfill]
    rfl
  · have hfill : layout.fill property l = fun _ => .location (some l) := by
      funext c
      rw [Layout.fill, if_pos]
      rw [← Layout.isSome_lookup_named_iff, hlookup]
      rfl
    rw [hfill]
    rfl

/-- A location is refused where its property is reserved or no field takes it. -/
theorem attach?_eq_none_iff :
    r.attach? property l = none ↔ property ∈ layout.reserved ∨ layout.target? property = none := by
  rw [attach?]
  by_cases hreserved : property ∈ layout.reserved
  · rw [if_pos hreserved]
    exact ⟨fun _ => .inl hreserved, fun _ => rfl⟩
  · rw [if_neg hreserved, place?_eq, Option.map_map, Option.map_eq_none_iff]
    exact ⟨.inr, fun h => h.elim (fun h => absurd h hreserved) id⟩

theorem content?_placeRange (range : Nat × Nat) (r : Record layout) (name : String) :
    (r.placeRange range).content? name =
      if layout.range = some name then (r.content? name).map fun _ => .range (some range)
      else r.content? name := by
  rw [placeRange]
  rcases layout.range with _ | field
  · rfl
  · simp only [content?_modify, Option.some.injEq]

/-- What the fields hold after a location has been attached. The range is put in its place last. -/
theorem content?_of_attach? (h : r.attach? property l = some r') (name : String) :
    r'.content? name =
      if layout.range = some name then (r.content? name).map fun _ => .range (some l.range)
      else if layout.target? property = some name then
        (r.content? name).map (layout.fill property l)
      else r.content? name := by
  rw [attach?] at h
  split at h
  · cases h
  · rw [place?_eq, Option.map_map] at h
    obtain ⟨field, htarget, rfl⟩ := Option.map_eq_some_iff.1 h
    simp only [Function.comp_apply, content?_placeRange, content?_modify, htarget,
      Option.some.injEq]
    split
    · split
      · rw [Option.map_map]
        rfl
      · rfl
    · rfl

theorem names_of_attach? (h : r.attach? property l = some r') :
    r'.contents.map (·.1) = r.contents.map (·.1) := by
  rw [attach?] at h
  split at h
  · cases h
  · rw [place?_eq, Option.map_map] at h
    obtain ⟨field, -, rfl⟩ := Option.map_eq_some_iff.1 h
    rw [Function.comp_apply, placeRange]
    rcases layout.range with _ | rangeField
    · exact names_modify _ _ _
    · exact (names_modify _ _ _).trans (names_modify _ _ _)

variable {fs : List Field}

theorem Layout.target?_eq_none_iff (hreads : Layout.Reads (Placed.ofFields fs) layout) :
    layout.target? property = none ↔
      ¬IsClaimed fs property ∧ ¬∃ f ∈ fs, f.IsPlace .extra := by
  rw [target?, Option.or_eq_none_iff, lookup_named_eq_none_iff hreads, extra_eq_none_iff hreads]

/-! ## Records that fit their declaration -/

/-- The record has the fields of the declaration, each once, and what they hold is what the places
that their attributes make of them are for. -/
structure WellTyped (fs : List Field) (r : Record layout) : Prop where
  names_eq : r.contents.map (·.1) = fs.map Field.name
  nodup : (fs.map Field.name).Nodup
  named : ∀ f ∈ fs, ∀ property, f.IsPlace (.named property) →
    ∃ l, r.content? f.name = some (.location l)
  extra : ∀ f ∈ fs, f.IsPlace .extra → ∃ m, r.content? f.name = some (.locations m)
  range : ∀ f ∈ fs, f.IsRange → ∃ ends, r.content? f.name = some (.range ends)

/-- A record fits its declaration if it has contents of the right sort in the places of its
layout. -/
theorem WellTyped.of_layout (hreads : Layout.Reads (Placed.ofFields fs) layout)
    (hnames : r.contents.map (·.1) = fs.map Field.name) (hnodup : (fs.map Field.name).Nodup)
    (hnamed : ∀ x ∈ layout.named, ∃ l, r.content? x.2 = some (.location l))
    (hextra : ∀ field ∈ layout.extra, ∃ m, r.content? field = some (.locations m))
    (hrange : ∀ field ∈ layout.range, ∃ ends, r.content? field = some (.range ends)) :
    r.WellTyped fs where
  names_eq := hnames
  nodup := hnodup
  named f hf p hs := hnamed (p, f.name) ((Layout.mem_named_iff hreads).2 ⟨f, hf, rfl, hs⟩)
  extra f hf hs := hextra f.name ((Layout.extra_eq_some_iff hreads).2 ⟨f, hf, rfl, hs⟩)
  range f hf hs := hrange f.name ((Layout.range_eq_some_iff hreads).2 ⟨f, hf, rfl, hs⟩)

namespace WellTyped

variable (h : r.WellTyped fs) (hreads : Layout.Reads (Placed.ofFields fs) layout)

include h in
/-- Fields that have one name are one field. -/
theorem eq_of_name_eq {f g : Field} (hf : f ∈ fs) (hg : g ∈ fs) (hname : f.name = g.name) :
    f = g :=
  List.inj_on_of_nodup_map h.nodup hf hg hname

include h in
/-- What is so of a field of some name is so of the field of that name. -/
theorem exists_name_eq_iff {f : Field} (hf : f ∈ fs) (P : Field → Prop) :
    (∃ g ∈ fs, g.name = f.name ∧ P g) ↔ P f := by
  constructor
  · rintro ⟨g, hg, hname, hP⟩
    exact h.eq_of_name_eq hg hf hname ▸ hP
  · exact fun hP => ⟨f, hf, rfl, hP⟩

include h in
/-- A field is no place of two sorts. -/
theorem not_isRange_of_isPlace {f : Field} (hf : f ∈ fs) {s : Slot} (hs : f.IsPlace s) :
    ¬f.IsRange := by
  intro hrange
  obtain ⟨ends, hends⟩ := h.range f hf hrange
  cases s with
  | named property =>
    obtain ⟨l, hl⟩ := h.named f hf property hs
    cases hl.symm.trans hends
  | extra =>
    obtain ⟨m, hm⟩ := h.extra f hf hs
    cases hm.symm.trans hends

include h in
theorem not_isPlace_extra {f : Field} (hf : f ∈ fs) (hs : f.IsPlace (.named property)) :
    ¬f.IsPlace .extra := by
  intro hextra
  obtain ⟨l, hl⟩ := h.named f hf property hs
  obtain ⟨m, hm⟩ := h.extra f hf hextra
  cases hl.symm.trans hm

include h hreads

theorem range_eq_some_iff {f : Field} (hf : f ∈ fs) : layout.range = some f.name ↔ f.IsRange := by
  rw [Layout.range_eq_some_iff hreads, h.exists_name_eq_iff hf]

/-- The field that takes a location claims its property, or else no field does and it takes all
others. -/
theorem target?_eq_some_iff {f : Field} (hf : f ∈ fs) :
    layout.target? property = some f.name ↔
      f.IsPlace (.named property) ∨ ¬IsClaimed fs property ∧ f.IsPlace .extra := by
  rw [Layout.target?, Option.or_eq_some_iff, Layout.lookup_named_eq_some_iff hreads,
    Layout.lookup_named_eq_none_iff hreads, Layout.extra_eq_some_iff hreads,
    h.exists_name_eq_iff hf, h.exists_name_eq_iff hf]

variable (h' : r.attach? property l = some r')

include h'

/-- The field that claims the property holds the location. -/
theorem content?_of_isPlace {f : Field} (hf : f ∈ fs) (hs : f.IsPlace (.named property)) :
    r'.content? f.name = some (.location (some l)) := by
  obtain ⟨l₀, hl₀⟩ := h.named f hf property hs
  have hrange : layout.range ≠ some f.name := fun hr =>
    h.not_isRange_of_isPlace hf hs ((h.range_eq_some_iff hreads hf).1 hr)
  have htarget := (h.target?_eq_some_iff hreads hf).2 (.inl hs)
  have hclaimed := (Layout.mem_claimed_iff hreads).2 ⟨f, hf, hs⟩
  rw [content?_of_attach? h', if_neg hrange, if_pos htarget, hl₀, Option.map_some, Layout.fill,
    if_pos hclaimed]

/-- If no field claims the property, the field for all others holds the location under it. -/
theorem content?_of_extra {f : Field} (hf : f ∈ fs) (hs : f.IsPlace .extra)
    (hunclaimed : ¬IsClaimed fs property) {m : KeyMap Location}
    (hm : r.content? f.name = some (.locations m)) :
    r'.content? f.name = some (.locations (m.insert property l)) := by
  have hrange : layout.range ≠ some f.name := fun hr =>
    h.not_isRange_of_isPlace hf hs ((h.range_eq_some_iff hreads hf).1 hr)
  have htarget := (h.target?_eq_some_iff hreads hf).2 (.inr ⟨hunclaimed, hs⟩)
  have hclaimed : property ∉ layout.claimed := fun hmem =>
    hunclaimed ((Layout.mem_claimed_iff hreads).1 hmem)
  rw [content?_of_attach? h', if_neg hrange, if_pos htarget, hm, Option.map_some, Layout.fill,
    if_neg hclaimed]
  rfl

/-- The field for ranges holds that of the location. -/
theorem content?_of_isRange {f : Field} (hf : f ∈ fs) (hs : f.IsRange) :
    r'.content? f.name = some (.range (some l.range)) := by
  obtain ⟨ends, hends⟩ := h.range f hf hs
  rw [content?_of_attach? h', if_pos ((h.range_eq_some_iff hreads hf).2 hs), hends]
  rfl

/-- All other fields hold what they held. -/
theorem content?_of_other {f : Field} (hf : f ∈ fs) (hnamed : ¬f.IsPlace (.named property))
    (hextra : ¬(¬IsClaimed fs property ∧ f.IsPlace .extra)) (hrange : ¬f.IsRange) :
    r'.content? f.name = r.content? f.name := by
  have htarget : layout.target? property ≠ some f.name := fun ht =>
    ((h.target?_eq_some_iff hreads hf).1 ht).elim hnamed hextra
  rw [content?_of_attach? h', if_neg fun hr => hrange ((h.range_eq_some_iff hreads hf).1 hr),
    if_neg htarget]

/-- The record still fits its declaration. -/
theorem of_attach? : r'.WellTyped fs where
  names_eq := by
    rw [← h.names_eq]
    exact names_of_attach? h'
  nodup := h.nodup
  named := by
    intro f hf p hs
    -- a field that claims several properties may have been given the location under another one
    by_cases hp : f.IsPlace (.named property)
    · exact ⟨_, h.content?_of_isPlace hreads h' hf hp⟩
    · rw [h.content?_of_other hreads h' hf hp (fun he => h.not_isPlace_extra hf hs he.2)
        (h.not_isRange_of_isPlace hf hs)]
      exact h.named f hf p hs
  extra := by
    intro f hf hs
    obtain ⟨m, hm⟩ := h.extra f hf hs
    by_cases hclaimed : IsClaimed fs property
    · rw [h.content?_of_other hreads h' hf (fun hp => h.not_isPlace_extra hf hp hs)
        (fun he => he.1 hclaimed) (h.not_isRange_of_isPlace hf hs)]
      exact ⟨m, hm⟩
    · exact ⟨_, h.content?_of_extra hreads h' hf hs hclaimed hm⟩
  range := fun f hf hs => ⟨_, h.content?_of_isRange hreads h' hf hs⟩

end WellTyped

/-! ## Attaching locations -/

/-- A location is attached, or the record stays as it is. -/
theorem stamp_cases (property : String) (l : Location) (r : Record layout) :
    r.attach? property l = some (stamp property l r) ∨
      r.attach? property l = none ∧ stamp property l r = r := by
  have hstamp : stamp property l r = (r.attach? property l).getD r := rfl
  rcases hattach : r.attach? property l with _ | r'
  · exact .inr ⟨rfl, by rw [hstamp, hattach]; rfl⟩
  · exact .inl (by rw [hstamp, hattach]; rfl)

theorem Layout.not_mem_reserved_of_isClaimed
    (hreads : Layout.Reads (Placed.ofFields fs) layout) (hp : IsClaimed fs property) :
    property ∉ layout.reserved :=
  not_mem_reserved_of_mem_claimed ((mem_claimed_iff hreads).2 hp)

/-- A property that is claimed is neither reserved nor without a place. -/
theorem attach?_of_isClaimed (hreads : Layout.Reads (Placed.ofFields fs) layout)
    (hp : IsClaimed fs property) (l : Location) (r : Record layout) :
    r.attach? property l = some (stamp property l r) := by
  rcases stamp_cases property l r with hsome | ⟨hnone, -⟩
  · exact hsome
  · rcases attach?_eq_none_iff.1 hnone with hreserved | htarget
    · exact absurd hreserved (Layout.not_mem_reserved_of_isClaimed hreads hp)
    · exact absurd hp ((Layout.target?_eq_none_iff hreads).1 htarget).1

theorem WellTyped.stamp (h : r.WellTyped fs)
    (hreads : Layout.Reads (Placed.ofFields fs) layout) (property : String) (l : Location) :
    (stamp property l r).WellTyped fs := by
  rcases stamp_cases property l r with hsome | ⟨-, hsame⟩
  · exact h.of_attach? hreads hsome
  · rw [hsame]
    exact h

/-- The record after locations have been attached under properties, in order. -/
def attachAll (steps : List (String × Location)) (r : Record layout) : Record layout :=
  steps.foldl (fun r step => stamp step.1 step.2 r) r

/-- A location that the field for all others takes comes under a property that is neither claimed
nor reserved. -/
theorem ne_of_attach? (hsome : r.attach? property l = some r') (hunclaimed : ¬IsClaimed fs property)
    {p : String} (hp : IsClaimed fs p ∨ p ∈ layout.reserved) : property ≠ p := by
  rintro rfl
  rcases hp with hp | hreserved
  · exact hunclaimed hp
  · cases (attach?_eq_none_of_mem_reserved l r hreserved).symm.trans hsome

/-- What the field for all other locations holds under a property that is claimed or reserved does
not change when a location is attached, whatever its property is. -/
theorem WellTyped.find?_stamp (h : r.WellTyped fs)
    (hreads : Layout.Reads (Placed.ofFields fs) layout) {p : String}
    (hp : IsClaimed fs p ∨ p ∈ layout.reserved) {f : Field} (hf : f ∈ fs) (hs : f.IsPlace .extra)
    {m : KeyMap Location} (hm : r.content? f.name = some (.locations m)) (property : String)
    (l : Location) :
    ∃ m', (Locus.stamp property l r).content? f.name = some (.locations m') ∧
      m'.find? p = m.find? p := by
  rcases stamp_cases property l r with hsome | ⟨-, hsame⟩
  · by_cases hclaimed : IsClaimed fs property
    · have hother := h.content?_of_other hreads hsome hf
        (fun hp => h.not_isPlace_extra hf hp hs) (fun he => he.1 hclaimed)
        (h.not_isRange_of_isPlace hf hs)
      exact ⟨m, hother.trans hm, rfl⟩
    · refine ⟨_, h.content?_of_extra hreads hsome hf hs hclaimed hm, ?_⟩
      rw [KeyMap.find?_insert, if_neg (ne_of_attach? hsome hclaimed hp)]
  · rw [hsame]
    exact ⟨m, hm, rfl⟩

/-- Nor does it change when any number of locations are attached, by induction on them. -/
theorem WellTyped.find?_attachAll_of_taken (h : r.WellTyped fs)
    (hreads : Layout.Reads (Placed.ofFields fs) layout) {p : String}
    (hp : IsClaimed fs p ∨ p ∈ layout.reserved) {f : Field} (hf : f ∈ fs) (hs : f.IsPlace .extra)
    {m : KeyMap Location} (hm : r.content? f.name = some (.locations m))
    (steps : List (String × Location)) :
    ∃ m', (attachAll steps r).content? f.name = some (.locations m') ∧
      m'.find? p = m.find? p := by
  induction steps generalizing r m with
  | nil => exact ⟨m, hm, rfl⟩
  | cons step steps ih =>
    obtain ⟨m', hm', hfind⟩ := h.find?_stamp hreads hp hf hs hm step.1 step.2
    obtain ⟨m'', hm'', hfind'⟩ := ih (h.stamp hreads step.1 step.2) hm'
    exact ⟨m'', hm'', hfind'.trans hfind⟩

theorem WellTyped.find?_attachAll (h : r.WellTyped fs)
    (hreads : Layout.Reads (Placed.ofFields fs) layout) {p : String} (hp : IsClaimed fs p)
    {f : Field} (hf : f ∈ fs) (hs : f.IsPlace .extra) {m : KeyMap Location}
    (hm : r.content? f.name = some (.locations m)) (steps : List (String × Location)) :
    ∃ m', (attachAll steps r).content? f.name = some (.locations m') ∧
      m'.find? p = m.find? p :=
  h.find?_attachAll_of_taken hreads (.inl hp) hf hs hm steps

/-- The record `r'` is `r` with the location in the place for its property, and its range in the
place for ranges. -/
structure Attached (fs : List Field) (property : String) (l : Location) (r r' : Record layout) :
    Prop where
  names_eq : r'.contents.map (·.1) = r.contents.map (·.1)
  named : ∀ f ∈ fs, f.IsPlace (.named property) →
    r'.content? f.name = some (.location (some l))
  extra : ¬IsClaimed fs property → ∀ f ∈ fs, f.IsPlace .extra →
    ∃ m m', r.content? f.name = some (.locations m) ∧ r'.content? f.name = some (.locations m') ∧
      m'.find? property = some l ∧ ∀ p, p ≠ property → m'.find? p = m.find? p
  range : ∀ f ∈ fs, f.IsRange → r'.content? f.name = some (.range (some l.range))
  other : ∀ f ∈ fs, ¬f.IsPlace (.named property) →
    ¬(¬IsClaimed fs property ∧ f.IsPlace .extra) → ¬f.IsRange →
    r'.content? f.name = r.content? f.name

theorem WellTyped.attached (h : r.WellTyped fs)
    (hreads : Layout.Reads (Placed.ofFields fs) layout) (h' : r.attach? property l = some r') :
    Attached fs property l r r' where
  names_eq := names_of_attach? h'
  named f hf hs := h.content?_of_isPlace hreads h' hf hs
  extra hunclaimed f hf hs := by
    obtain ⟨m, hm⟩ := h.extra f hf hs
    refine ⟨m, _, hm, h.content?_of_extra hreads h' hf hs hunclaimed hm, ?_, fun p hp => ?_⟩
    · rw [KeyMap.find?_insert, if_pos rfl]
    · rw [KeyMap.find?_insert, if_neg hp.symm]
  range f hf hs := h.content?_of_isRange hreads h' hf hs
  other f hf hnamed hextra hrange := h.content?_of_other hreads h' hf hnamed hextra hrange

/-- **How records carry locations.** A location is refused exactly if its property is reserved or no
field is a place for it, and then the record stays as it is. Otherwise it goes to the field that
claims its property or, if there is none, to the field for all others; its range goes to the field
for ranges; and nothing else changes. A property that a field claims is not reserved, no other field
claims it, that field takes the location under each of the properties that it claims, and the field
for all others never does. -/
theorem attach_contract (hlayout : Layout.ofDeclaration (.fields fs) = .ok layout)
    (hr : r.WellTyped fs) (property : String) (l : Location) :
    let taken := IsClaimed fs property ∨ ∃ f ∈ fs, f.IsPlace .extra
    let refused := Locate.reserves (Record layout) property = true ∨ ¬taken
    let attached := Locate.attach? property l r
    (attached = none ↔ refused) ∧
      (refused → stamp property l r = r) ∧
      (¬refused → attached = some (stamp property l r) ∧
        Attached fs property l r (stamp property l r)) ∧
      ∀ f ∈ fs, ∀ p, f.IsPlace (.named p) →
        Locate.reserves (Record layout) p = false ∧
        (∀ g ∈ fs, g.IsPlace (.named p) → g = f) ∧
        (∀ l, (stamp p l r).content? f.name = some (.location (some l))) ∧
        ∀ g ∈ fs, g.IsPlace .extra → ∀ steps, ∃ m m', r.content? g.name = some (.locations m) ∧
          (attachAll steps r).content? g.name = some (.locations m') ∧ m'.find? p = m.find? p := by
  intro taken refused attached
  have hreads := Layout.reads_of_ofDeclaration hlayout
  have hreserves : ∀ p, Locate.reserves (Record layout) p = true ↔ p ∈ layout.reserved :=
    fun p => decide_eq_true_iff
  have hrefused : attached = none ↔ refused := by
    have hnone : attached = none ↔ _ := attach?_eq_none_iff
    rw [hnone, Layout.target?_eq_none_iff hreads, ← hreserves]
    exact or_congr Iff.rfl not_or.symm
  refine ⟨hrefused, fun h => ?_, fun h => ?_, fun f hf p hs => ⟨?_, fun g hg hs' => ?_, ?_, ?_⟩⟩
  · have hnone : attached = none := hrefused.2 h
    have hstamp : stamp property l r = attached.getD r := rfl
    rw [hstamp, hnone]
    rfl
  · rcases stamp_cases property l r with hsome | ⟨hnone, -⟩
    · exact ⟨hsome, hr.attached hreads hsome⟩
    · exact absurd (hrefused.1 hnone) h
  · rw [Bool.eq_false_iff]
    exact fun h => Layout.not_mem_reserved_of_isClaimed hreads ⟨f, hf, hs⟩ ((hreserves p).1 h)
  · have hf' := (Layout.lookup_named_eq_some_iff hreads).2 ⟨f, hf, rfl, hs⟩
    have hg' := (Layout.lookup_named_eq_some_iff hreads).2 ⟨g, hg, rfl, hs'⟩
    exact hr.eq_of_name_eq hg hf (Option.some.inj (hg'.symm.trans hf'))
  · intro l
    exact hr.content?_of_isPlace hreads (attach?_of_isClaimed hreads ⟨f, hf, hs⟩ l r) hf hs
  · intro g hg hextra steps
    obtain ⟨m, hm⟩ := hr.extra g hg hextra
    obtain ⟨m', hm', hfind⟩ := hr.find?_attachAll hreads ⟨f, hf, hs⟩ hg hextra hm steps
    exact ⟨m, m', hm, hm', hfind⟩

/-- A field under two properties, one for all others, one for the range, and one that keeps its
name to itself. -/
theorem attach_contract_two_names :
    let inside (ts : List Atom) : Arguments := .list (ts.map .atom)
    let fs : List Field :=
      [⟨"at", [⟨slotPath, .absent⟩,
          ⟨slotPath, inside [.word "name", .sign '=' false, .text "spot"]⟩]⟩,
        ⟨"rest", [⟨.plain "serde", inside [.word "flatten"]⟩, ⟨slotPath, inside [.word "extra"]⟩]⟩,
        ⟨"span", [⟨rangePath, .absent⟩]⟩, ⟨"kind", []⟩]
    let layout : Layout :=
      ⟨[("at", "at"), ("spot", "at")], some "rest", some "span",
        fs.map fun f => (f.name, .ofAttributes f.attributes)⟩
    let r : Record layout :=
      ⟨[("at", .location none), ("rest", .locations .empty), ("span", .range none),
        ("kind", .value .null)]⟩
    let l : Location := ⟨none, ⟨1, 1, 1⟩, ⟨2, 1, 2⟩⟩
    Layout.ofDeclaration (.fields fs) = .ok layout ∧ r.WellTyped fs ∧
      Attached fs "x" l r (stamp "x" l r) ∧ stamp "kind" l r = r ∧
      (stamp "spot" l r).content? "at" = some (.location (some l)) := by
  intro inside fs layout r l
  have hlayout : Layout.ofDeclaration (.fields fs) = .ok layout := by rfl
  have hreads := Layout.reads_of_ofDeclaration hlayout
  have hr : r.WellTyped fs := by
    refine ⟨rfl, by decide, fun f hf p hs => ?_, fun f hf hs => ?_, fun f hf hs => ?_⟩
    · have hmem := (Layout.mem_named_iff hreads).2 ⟨f, hf, rfl, hs⟩
      have hname : f.name = "at" := by
        simp only [layout, List.mem_cons, Prod.mk.injEq, List.not_mem_nil, or_false] at hmem
        exact hmem.elim And.right And.right
      exact ⟨none, by rw [hname]; rfl⟩
    · have hname := Option.some.inj ((Layout.extra_eq_some_iff hreads).2 ⟨f, hf, rfl, hs⟩)
      exact ⟨.empty, by rw [← hname]; rfl⟩
    · have hname := Option.some.inj ((Layout.range_eq_some_iff hreads).2 ⟨f, hf, rfl, hs⟩)
      exact ⟨none, by rw [← hname]; rfl⟩
  obtain ⟨hother, -, hattached, -⟩ := attach_contract hlayout hr "x" l
  obtain ⟨-, hkept, -, hnames⟩ := attach_contract hlayout hr "kind" l
  have hother' : ¬_ := fun h => absurd (hother.2 h) (by decide)
  refine ⟨hlayout, hr, (hattached hother').2, hkept (.inl (by decide)), ?_⟩
  have hspot : (fs[0]).IsPlace (.named "spot") :=
    ⟨_, List.mem_cons_of_mem _ List.mem_cons_self, rfl, rfl⟩
  exact (hnames _ List.mem_cons_self _ hspot).2.2.1 l

end Locus.Record
