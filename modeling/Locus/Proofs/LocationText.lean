import Locus.Format.Location
import Locus.Locate
import Locus.Proofs.JsonText

/-!
# Positions and locations that are written and read

The numbers of a position are read only if they fit in 64 bits. Main statements: what is read fits,
and what fits is read back as it was written.
-/

namespace Locus

open Json

/-! ## Fields -/

theorem Json.Tree.natural?_ofNat {n : Nat} (h : n ≤ maxWord) :
    (Tree.ofNat n).natural? = some n := by
  rw [Tree.ofNat, Tree.natural?, Numeral.natural?, if_pos ⟨rfl, rfl, rfl, h⟩]
  rfl

theorem Json.Tree.le_of_natural? {t : Tree} {n : Nat} (h : t.natural? = some n) : n ≤ maxWord := by
  cases t with
  | number m =>
    rw [Tree.natural?, Numeral.natural?] at h
    split at h
    · next hm =>
      cases h
      exact hm.2.2.2
    · cases h
  | _ => cases h

namespace Position

/-- All numbers of a position fit in 64 bits. -/
structure Fits (p : Position) : Prop where
  index_le : p.index ≤ maxWord
  line_le : p.line ≤ maxWord
  column_le : p.column ≤ maxWord

theorem fields?_tree (p : Position) :
    p.tree.fields? ["index", "column", "line"] =
      some [some (.ofNat p.index), some (.ofNat p.column), some (.ofNat p.line)] := by
  simp [tree, Tree.record, Tree.fields?, Tree.field?]

/-- A record that has the fields of a position, in whatever order, is read as the position. -/
theorem ofTree?_of_fields {p : Position} {t : Tree} (h : p.Fits)
    (ht : t.fields? ["index", "column", "line"] =
      some [some (.ofNat p.index), some (.ofNat p.column), some (.ofNat p.line)]) :
    ofTree? t = some p := by
  rw [ofTree?, ht]
  simp [Tree.natural?_ofNat h.index_le, Tree.natural?_ofNat h.line_le,
    Tree.natural?_ofNat h.column_le]

theorem ofTree?_tree {p : Position} (h : p.Fits) : ofTree? p.tree = some p :=
  ofTree?_of_fields h (fields?_tree p)

theorem fits_of_ofTree? {t : Tree} {p : Position} (h : ofTree? t = some p) : p.Fits := by
  rw [ofTree?] at h
  obtain ⟨fields, -, hread⟩ := Option.bind_eq_some_iff.1 h
  split at hread
  · next index column line =>
    obtain ⟨i, hi, hread⟩ := Option.bind_eq_some_iff.1 hread
    obtain ⟨l, hl, hread⟩ := Option.bind_eq_some_iff.1 hread
    obtain ⟨c, hc, hread⟩ := Option.bind_eq_some_iff.1 hread
    cases hread
    exact ⟨Tree.le_of_natural? hi, Tree.le_of_natural? hl, Tree.le_of_natural? hc⟩
  · cases hread

theorem plain_tree (p : Position) : p.tree.Plain := by
  refine Tree.plain_record fun m hm => ?_
  simp only [List.mem_cons, List.not_mem_nil, or_false] at hm
  rcases hm with rfl | rfl | rfl
  all_goals exact Tree.plain_ofNat _

end Position

namespace Location

/-- Both ends of a location fit in 64 bits. -/
structure Fits (l : Location) : Prop where
  start_fits : l.start.Fits
  stop_fits : l.stop.Fits

theorem fields?_tree (l : Location) :
    l.tree.fields? ["source", "start", "end"] =
      some [l.source.map Tree.ofString, some l.start.tree, some l.stop.tree] := by
  rcases l with ⟨_ | label, start, stop⟩
  · simp [tree, Tree.record, Tree.fields?, Tree.field?]
  · simp [tree, Tree.record, Tree.fields?, Tree.field?]

/-- A record that has the fields of a location, in whatever order, is read as the location. -/
theorem ofTree?_of_fields {l : Location} {t start stop : Tree}
    (ht : t.fields? ["source", "start", "end"] =
      some [l.source.map Tree.ofString, some start, some stop])
    (hstart : Position.ofTree? start = some l.start)
    (hstop : Position.ofTree? stop = some l.stop) : ofTree? t = some l := by
  rw [ofTree?, ht]
  rcases l with ⟨_ | label, _, _⟩
  · simp [Tree.optional?, hstart, hstop]
  · simp [Tree.optional?, Tree.ofString, Tree.text?, hstart, hstop]

theorem ofTree?_tree {l : Location} (h : l.Fits) : ofTree? l.tree = some l :=
  ofTree?_of_fields (fields?_tree l) (Position.ofTree?_tree h.start_fits)
    (Position.ofTree?_tree h.stop_fits)

theorem fits_of_ofTree? {t : Tree} {l : Location} (h : ofTree? t = some l) : l.Fits := by
  rw [ofTree?] at h
  obtain ⟨fields, -, hread⟩ := Option.bind_eq_some_iff.1 h
  split at hread
  · next source start stop =>
    obtain ⟨label, -, hread⟩ := Option.bind_eq_some_iff.1 hread
    obtain ⟨p, hp, hread⟩ := Option.bind_eq_some_iff.1 hread
    obtain ⟨q, hq, hread⟩ := Option.bind_eq_some_iff.1 hread
    cases hread
    exact ⟨Position.fits_of_ofTree? hp, Position.fits_of_ofTree? hq⟩
  · cases hread

theorem plain_tree (l : Location) : l.tree.Plain := by
  refine Tree.plain_record fun m hm => ?_
  rcases List.mem_append.1 hm with hm | hm
  · rcases hsource : l.source with _ | label
    · rw [hsource] at hm
      cases hm
    · rw [hsource] at hm
      cases List.mem_singleton.1 hm
      exact Tree.plain_ofString label
  · simp only [List.mem_cons, List.not_mem_nil, or_false] at hm
    rcases hm with rfl | rfl
    all_goals exact Position.plain_tree _

end Location

/-! ## Locations as values -/

theorem Json.Value.ofTree?_ofNat {n : Nat} (h : n ≤ maxWord) :
    Value.ofTree? (.ofNat n) = some (.ofNat n) := by
  have hfits : Number.fits n = true := by
    rw [Number.fits, Bool.and_eq_true, decide_eq_true_eq, decide_eq_true_eq]
    omega
  have hnumber : Number.ofNumeral? (.ofNat n) = some (.integer n) := by
    rw [Number.ofNumeral?]
    exact if_pos ⟨rfl, rfl, hfits, fun hneg => Bool.false_ne_true hneg.1⟩
  rw [Tree.ofNat, Value.ofTree?, hnumber]
  rfl

theorem Position.ofTree?_value {p : Position} (h : p.Fits) :
    Value.ofTree? p.tree = some p.value := by
  simp only [tree, Tree.record, List.map_cons, List.map_nil, Value.ofTree?, Value.ofMembers?,
    Value.ofTree?_ofNat h.index_le, Value.ofTree?_ofNat h.line_le,
    Value.ofTree?_ofNat h.column_le]
  rfl

/-- What a location is written as means the location as a value. -/
theorem Location.ofTree?_value {l : Location} (h : l.Fits) :
    Value.ofTree? l.tree = some l.value := by
  have hstart := Position.ofTree?_value h.start_fits
  have hstop := Position.ofTree?_value h.stop_fits
  rcases l with ⟨_ | label, start, stop⟩
  · simp only [tree, Tree.record, List.nil_append, List.map_cons, List.map_nil, Value.ofTree?,
      Value.ofMembers?, hstart, hstop]
    rfl
  · simp only [tree, Tree.record, List.cons_append, List.nil_append, List.map_cons, List.map_nil,
      Value.ofTree?, Value.ofMembers?, Tree.ofString, hstart, hstop]
    rfl

end Locus
