import Locus.Proofs.Layout
import Locus.Proofs.Listings
import Mathlib.Data.List.Induction

/-!
# Which records have a layout

What it takes for a record to have a layout, told by the attributes of its fields, and what it is
refused for if it has none. Main statement: a declaration has a layout exactly if it is a record
whose attributes are sound; if they are not, it is refused for the first that is at fault.
-/

namespace Locus.Record

/-! ## Items -/

/-- The pieces of an item that asks for a place. -/
inductive Slot.IsItem : List TokenTree → Slot → Prop where
  | named (joined : Bool) (property : String) :
      IsItem [.atom (.word "name"), .atom (.sign '=' joined), .atom (.text property)]
        (.named property)
  | extra : IsItem [.atom (.word "extra")] .extra

namespace Part

theorem eq_of_firstName {p : Part} {ts rest : List TokenTree} {name : String}
    (h : p.firstName ts = .ok (name, rest)) : ts = .atom (.word name) :: rest := by
  rw [firstName.eq_def] at h
  split at h
  · cases h
    rfl
  · cases h
  · cases h

theorem eq_of_moreNames {p : Part} {ts rest : List TokenTree}
    (h : p.moreNames ts = .ok ([], rest)) : ts = rest := by
  rw [moreNames.eq_def] at h
  split at h
  · obtain ⟨⟨names, rest'⟩, -, h⟩ := bind_eq_ok_iff.1 h
    cases h
  · cases h
  · cases h
    rfl

/-- A name that nothing qualifies is read only where it stands. -/
theorem tokens_of_path {p : Part} {name : String} {rest : List TokenTree}
    (h : p.path = .ok (.plain name, rest)) : p.tokens = .atom (.word name) :: rest := by
  rw [path] at h
  split at h
  next rooted ts hts =>
  obtain ⟨⟨name', rest'⟩, hfirst, h⟩ := bind_eq_ok_iff.1 h
  obtain ⟨⟨names, rest''⟩, hmore, h⟩ := bind_eq_ok_iff.1 h
  cases h
  split at hts
  · cases hts
  · cases hts
    rw [eq_of_firstName hfirst, eq_of_moreNames hmore]

theorem eq_of_assigned {p : Part} {ts rest : List TokenTree} {value : String}
    (h : p.assigned ts = .ok (value, rest)) :
    ∃ joined, ts = .atom (.sign '=' joined) :: .atom (.text value) :: rest := by
  rw [assigned.eq_def] at h
  split at h
  · next t ts =>
    split at h
    · next hsign =>
      split at h
      · cases h
        obtain ⟨joined, rfl⟩ := TokenTree.isSign_iff.1 hsign
        exact ⟨joined, rfl⟩
      · cases h
    · cases h
  · cases h

theorem eq_nil_of_finished {ts : List TokenTree} (h : finished ts = .ok ()) : ts = [] := by
  rcases ts with _ | ⟨t, ts⟩
  · rfl
  · cases h

end Part

namespace Slot

/-- What is read as an item is an item. -/
theorem isItem_of_ofPart {p : Part} {s : Slot} (h : ofPart p = .ok s) : IsItem p.tokens s := by
  obtain ⟨⟨path, rest⟩, hpath, h⟩ := bind_eq_ok_iff.1 h
  dsimp only at h
  split at h
  · next hname =>
    obtain ⟨⟨property, rest'⟩, hassigned, h⟩ := bind_eq_ok_iff.1 h
    obtain ⟨⟨⟩, hfinished, h⟩ := bind_eq_ok_iff.1 h
    cases h
    obtain ⟨joined, hrest⟩ := Part.eq_of_assigned hassigned
    have hend : rest' = [] := Part.eq_nil_of_finished hfinished
    rw [Part.tokens_of_path (hname ▸ hpath), hrest, hend]
    exact .named joined property
  · split at h
    · next hextra =>
      obtain ⟨⟨⟩, hfinished, h⟩ := bind_eq_ok_iff.1 h
      cases h
      rw [Part.tokens_of_path (hextra ▸ hpath), Part.eq_nil_of_finished hfinished]
      exact .extra
    · cases h

theorem ofPart_eq_ok_iff {p : Part} {s : Slot} : ofPart p = .ok s ↔ IsItem p.tokens s := by
  refine ⟨isItem_of_ofPart, fun h => ?_⟩
  obtain ⟨tokens, followed⟩ := p
  cases h with
  | named joined property => rfl
  | extra => rfl

end Slot

/-- Arguments ask for a place: where there are none, for that of the property that has the name of
the field; of the items in a list the last decides. -/
inductive Arguments.Asks (field : String) : Arguments → Slot → Prop where
  | absent : Asks field .absent (.named field)
  | list {inside : List TokenTree} {before : List Slot} {s : Slot}
      (h : Listing Slot.IsItem inside (before ++ [s])) : Asks field (.list inside) s

/-- Arguments are refused: a value, a list of nothing, and a list of which a part is no item. It is
the first such part that counts. -/
inductive Arguments.Refused : Arguments → LayoutError → Prop where
  | value : Refused .value .valueForm
  | empty : Refused (.list []) .emptyList
  | item {inside : List TokenTree} {before after : List Part} {p : Part} {e : ItemError}
      (hparts : Part.ofList inside = before ++ p :: after)
      (first : ∀ q ∈ before, ∃ s, Slot.IsItem q.tokens s) (h : Slot.ofPart p = .error e) :
      Refused (.list inside) (.item e)

namespace Slot

theorem IsItem.commaFree {ts : List TokenTree} {s : Slot} (h : IsItem ts s) :
    ts ≠ [] ∧ CommaFree ts := by
  cases h with
  | named joined property => simp [CommaFree, TokenTree.isComma, TokenTree.isSign]
  | extra => simp [CommaFree, TokenTree.isComma, TokenTree.isSign]

/-- A list whose parts are read is a list of items. -/
theorem mapM_ofPart_eq_ok_iff {inside : List TokenTree} {slots : List Slot} :
    (Part.ofList inside).mapM ofPart = .ok slots ↔ Listing IsItem inside slots := by
  rw [mapM_eq_ok_iff, listing_iff IsItem.commaFree]
  simp only [ofPart_eq_ok_iff]

theorem ofArguments_eq_ok_iff {field : String} {args : Arguments} {s : Slot} :
    ofArguments field args = .ok s ↔ args.Asks field s := by
  constructor
  · intro h
    rw [ofArguments.eq_def] at h
    split at h
    · cases h
      exact .absent
    · split at h
      · cases h
      · next slots hslots =>
        split at h
        · next hlast =>
          cases h
          obtain ⟨before, rfl⟩ := List.getLast?_eq_some_iff.1 hlast
          exact .list (mapM_ofPart_eq_ok_iff.1 hslots)
        · cases h
    · cases h
  · rintro (_ | ⟨hlisting⟩)
    · rfl
    · rw [ofArguments, mapM_ofPart_eq_ok_iff.2 hlisting]
      simp

theorem ofArguments_eq_error_iff {field : String} {args : Arguments} {e : LayoutError} :
    ofArguments field args = .error e ↔ args.Refused e := by
  constructor
  · intro h
    rw [ofArguments.eq_def] at h
    split at h
    · cases h
    · split at h
      · next hslots =>
        cases h
        obtain ⟨before, p, after, hparts, hbefore, hp⟩ := mapM_eq_error_iff.1 hslots
        refine .item hparts (fun q hq => ?_) hp
        rcases hread : ofPart q with e | s
        · exact absurd hread (hbefore q hq e)
        · exact ⟨s, ofPart_eq_ok_iff.1 hread⟩
      · next slots hslots =>
        split at h
        · cases h
        · next hlast =>
          cases h
          cases List.getLast?_eq_none_iff.1 hlast
          cases mapM_ofPart_eq_ok_iff.1 hslots
          exact .empty
    · cases h
      exact .value
  · rintro (_ | _ | ⟨hparts, hfirst, hp⟩)
    · rfl
    · rfl
    · have hslots := mapM_eq_error_iff.2 ⟨_, _, _, hparts, fun q hq e he => ?_, hp⟩
      · rw [ofArguments, hslots]
      · obtain ⟨s, hs⟩ := hfirst q hq
        cases he.symm.trans (ofPart_eq_ok_iff.2 hs)

end Slot

theorem Arguments.Asks.not_refused {field : String} {args : Arguments} {s : Slot}
    (h : args.Asks field s) {e : LayoutError} : ¬args.Refused e := by
  intro hrefused
  cases (Slot.ofArguments_eq_ok_iff.2 h).symm.trans (Slot.ofArguments_eq_error_iff.2 hrefused)

/-! ## Attributes -/

/-- Whether an attribute is for a place. -/
def Attribute.isForPlace (a : Attribute) : Bool := a.path = slotPath ∨ a.path = rangePath

/-- The field without the attributes that are for no place. -/
def Field.onlyPlaces (f : Field) : Field :=
  { f with attributes := f.attributes.filter Attribute.isForPlace }

namespace Placed

/-- The attribute makes its field the place for locations. -/
def Asks (x : Placed) (s : Slot) : Prop := x.2.path = slotPath ∧ x.2.arguments.Asks x.1 s

/-- The attribute makes its field the place of the range. -/
def IsRange (x : Placed) : Prop := x.2.path = rangePath

theorem slot?_eq_some_iff_asks {x : Placed} {s : Slot} : x.slot? = some s ↔ x.Asks s := by
  rw [slot?_eq_some_iff, Slot.ofArguments_eq_ok_iff, Asks]

theorem Asks.unique {x : Placed} {s s' : Slot} (h : x.Asks s) (h' : x.Asks s') : s = s' := by
  rw [← slot?_eq_some_iff_asks] at h h'
  exact Option.some.inj (h.symm.trans h')

end Placed

/-- Every attribute that is for a place says which, and no place is asked for twice. -/
structure Sound (xs : List Placed) : Prop where
  asks : ∀ x ∈ xs, x.2.path = slotPath → ∃ s, x.Asks s
  range : xs.Pairwise fun x y => ¬(x.IsRange ∧ y.IsRange)
  named : xs.Pairwise fun x y => ∀ property, ¬(x.Asks (.named property) ∧ y.Asks (.named property))
  extra : xs.Pairwise fun x y => ¬(x.Asks .extra ∧ y.Asks .extra)

/-- What an attribute is at fault for behind others. -/
inductive Fault (before : List Placed) (x : Placed) : LayoutError → Prop where
  | secondRange {y : Placed} (hy : y ∈ before) (h : y.IsRange ∧ x.IsRange) :
      Fault before x .secondRange
  | refused {e : LayoutError} (hpath : x.2.path = slotPath) (h : x.2.arguments.Refused e) :
      Fault before x e
  | claimedTwice {y : Placed} {property : String} (hy : y ∈ before)
      (h : y.Asks (.named property) ∧ x.Asks (.named property)) :
      Fault before x (.claimedTwice property)
  | secondExtra {y : Placed} (hy : y ∈ before) (h : y.Asks .extra ∧ x.Asks .extra) :
      Fault before x .secondExtra

theorem sound_nil : Sound [] :=
  ⟨by simp, .nil, .nil, .nil⟩

theorem pairwise_snoc_iff {α : Type} {R : α → α → Prop} {as : List α} {a : α} :
    (as ++ [a]).Pairwise R ↔ as.Pairwise R ∧ ∀ b ∈ as, R b a := by
  simp [List.pairwise_append]

/-- One more attribute is sound behind others that are if it is not at fault. -/
theorem sound_snoc_iff {before : List Placed} {x : Placed} :
    Sound (before ++ [x]) ↔ Sound before ∧ ∀ e, ¬Fault before x e := by
  constructor
  · rintro ⟨hasks, hrange, hnamed, hextra⟩
    rw [List.forall_mem_append] at hasks
    rw [pairwise_snoc_iff] at hrange hnamed hextra
    refine ⟨⟨hasks.1, hrange.1, hnamed.1, hextra.1⟩, ?_⟩
    rintro e (⟨hy, hboth⟩ | ⟨hpath, hrefused⟩ | ⟨hy, hboth⟩ | ⟨hy, hboth⟩)
    · exact hrange.2 _ hy hboth
    · obtain ⟨s, -, hs⟩ := hasks.2 x (List.mem_singleton_self x) hpath
      exact hs.not_refused hrefused
    · exact hnamed.2 _ hy _ hboth
    · exact hextra.2 _ hy hboth
  · rintro ⟨⟨hasks, hrange, hnamed, hextra⟩, hx⟩
    have hlast : x.2.path = slotPath → ∃ s, x.Asks s := by
      intro hpath
      rcases hread : Slot.ofArguments x.1 x.2.arguments with e | s
      · exact absurd (.refused hpath (Slot.ofArguments_eq_error_iff.1 hread)) (hx e)
      · exact ⟨s, hpath, Slot.ofArguments_eq_ok_iff.1 hread⟩
    exact {
      asks := List.forall_mem_append.2 ⟨hasks, by simpa using hlast⟩
      range := pairwise_snoc_iff.2 ⟨hrange, fun y hy h => hx _ (.secondRange hy h)⟩
      named := pairwise_snoc_iff.2 ⟨hnamed, fun y hy _ h => hx _ (.claimedTwice hy h)⟩
      extra := pairwise_snoc_iff.2 ⟨hextra, fun y hy h => hx _ (.secondExtra hy h)⟩ }

namespace Layout

/-! ## Reading attributes -/

section Reads

variable {seen : List Placed} {l : Layout}

theorem Reads.isSome_range_iff (h : Reads seen l) :
    l.range.isSome = true ↔ ∃ y ∈ seen, y.IsRange := by
  rw [Option.isSome_iff_exists]
  constructor
  · rintro ⟨field, hrange⟩
    obtain ⟨y, hy, hpath, -⟩ := h.range_eq_some_iff.1 hrange
    exact ⟨y, hy, hpath⟩
  · rintro ⟨y, hy, hpath⟩
    exact ⟨y.1, h.range_eq_some_iff.2 ⟨y, hy, hpath, rfl⟩⟩

theorem Reads.isSome_extra_iff (h : Reads seen l) :
    l.extra.isSome = true ↔ ∃ y ∈ seen, y.Asks .extra := by
  rw [Option.isSome_iff_exists]
  constructor
  · rintro ⟨field, hextra⟩
    obtain ⟨y, hy, hslot, -⟩ := h.extra_eq_some_iff.1 hextra
    exact ⟨y, hy, Placed.slot?_eq_some_iff_asks.1 hslot⟩
  · rintro ⟨y, hy, hasks⟩
    exact ⟨y.1, h.extra_eq_some_iff.2 ⟨y, hy, Placed.slot?_eq_some_iff_asks.2 hasks, rfl⟩⟩

theorem Reads.mem_claimed_iff (h : Reads seen l) {property : String} :
    property ∈ l.claimed ↔ ∃ y ∈ seen, y.Asks (.named property) := by
  rw [claimed, List.mem_map]
  constructor
  · rintro ⟨⟨p, field⟩, hmem, rfl⟩
    obtain ⟨y, hy, hslot, -⟩ := h.mem_named_iff.1 hmem
    exact ⟨y, hy, Placed.slot?_eq_some_iff_asks.1 hslot⟩
  · rintro ⟨y, hy, hasks⟩
    have hslot := Placed.slot?_eq_some_iff_asks.2 hasks
    exact ⟨(property, y.1), h.mem_named_iff.2 ⟨y, hy, hslot, rfl⟩, rfl⟩

/-- A place is refused exactly if it was asked for before. -/
theorem Reads.claim_eq_error_iff (h : Reads seen l) {x : Placed} {s : Slot} (hx : x.Asks s)
    {e : LayoutError} : l.claim x.1 s = .error e ↔ Fault seen x e := by
  constructor
  · intro hclaim
    rw [Layout.claim.eq_def] at hclaim
    split at hclaim
    · split at hclaim
      · next hmem =>
        cases hclaim
        obtain ⟨y, hy, hasks⟩ := h.mem_claimed_iff.1 hmem
        exact .claimedTwice hy ⟨hasks, hx⟩
      · cases hclaim
    · split at hclaim
      · next hsome =>
        cases hclaim
        obtain ⟨y, hy, hasks⟩ := h.isSome_extra_iff.1 hsome
        exact .secondExtra hy ⟨hasks, hx⟩
      · cases hclaim
  · rintro (⟨-, -, hrange⟩ | ⟨-, hrefused⟩ | ⟨hy, hasks, hx'⟩ | ⟨hy, hasks, hx'⟩)
    · exact absurd (hx.1.symm.trans hrange) (by decide)
    · exact absurd hrefused hx.2.not_refused
    · cases hx.unique hx'
      exact if_pos (h.mem_claimed_iff.2 ⟨_, hy, hasks⟩)
    · cases hx.unique hx'
      exact if_pos (h.isSome_extra_iff.2 ⟨_, hy, hasks⟩)

/-- An attribute is refused exactly if it is at fault. -/
theorem Reads.readPlaced_eq_error_iff (h : Reads seen l) {x : Placed} {e : LayoutError} :
    l.readPlaced x = .error e ↔ Fault seen x e := by
  rw [readPlaced, Layout.readAttribute]
  split
  · next hpath =>
    have hother : x.2.path ≠ slotPath := by
      rw [hpath]
      decide
    constructor
    · intro hread
      split at hread
      · next hsome =>
        cases hread
        obtain ⟨y, hy, hyrange⟩ := h.isSome_range_iff.1 hsome
        exact .secondRange hy ⟨hyrange, hpath⟩
      · cases hread
    · rintro (⟨hy, hyrange, -⟩ | ⟨hslot, -⟩ | ⟨-, -, hslot, -⟩ | ⟨-, -, hslot, -⟩)
      · exact if_pos (h.isSome_range_iff.2 ⟨_, hy, hyrange⟩)
      · exact absurd hslot hother
      · exact absurd hslot hother
      · exact absurd hslot hother
  · next hother =>
    split
    · next hpath =>
      rcases hread : Slot.ofArguments x.1 x.2.arguments with e' | s
      · have hrefused := Slot.ofArguments_eq_error_iff.1 hread
        constructor
        · rintro ⟨⟩
          exact .refused hpath hrefused
        · rintro (⟨-, -, hrange⟩ | ⟨-, hrefused'⟩ | ⟨-, -, -, hasks⟩ | ⟨-, -, -, hasks⟩)
          · exact absurd hrange hother
          · cases hread.symm.trans (Slot.ofArguments_eq_error_iff.2 hrefused')
            rfl
          · exact absurd hrefused hasks.not_refused
          · exact absurd hrefused hasks.not_refused
      · exact h.claim_eq_error_iff ⟨hpath, Slot.ofArguments_eq_ok_iff.1 hread⟩
    · next hpath =>
      constructor
      · rintro ⟨⟩
      · rintro (⟨-, -, hrange⟩ | ⟨hslot, -⟩ | ⟨-, -, hslot, -⟩ | ⟨-, -, hslot, -⟩)
        · exact absurd hrange hother
        · exact absurd hslot hpath
        · exact absurd hslot hpath
        · exact absurd hslot hpath

/-- Sound attributes make no place for locations exactly if none of them is for one. -/
theorem Reads.no_slot_iff (h : Reads seen l) (hsound : Sound seen) :
    l.named = [] ∧ l.extra = none ↔ ∀ x ∈ seen, x.2.path ≠ slotPath := by
  constructor
  · rintro ⟨hnamed, hextra⟩ x hx hpath
    obtain ⟨s, hs⟩ := hsound.asks x hx hpath
    cases s with
    | named property =>
      have hmem : property ∈ l.claimed := h.mem_claimed_iff.2 ⟨x, hx, hs⟩
      rw [claimed, hnamed] at hmem
      cases hmem
    | extra =>
      have hsome : l.extra.isSome = true := h.isSome_extra_iff.2 ⟨x, hx, hs⟩
      rw [hextra] at hsome
      cases hsome
  · intro hnone
    constructor
    · refine List.eq_nil_iff_forall_not_mem.2 ?_
      rintro ⟨property, field⟩ hmem
      obtain ⟨x, hx, hslot, -⟩ := h.mem_named_iff.1 hmem
      exact hnone x hx (Placed.slot?_eq_some_iff.1 hslot).1
    · refine Option.eq_none_iff_forall_ne_some.2 fun field hextra => ?_
      obtain ⟨x, hx, hslot, -⟩ := h.extra_eq_some_iff.1 hextra
      exact hnone x hx (Placed.slot?_eq_some_iff.1 hslot).1

end Reads

/-- Attributes are read to their end exactly if they are sound. -/
theorem exists_foldlM_readPlaced_iff {xs : List Placed} :
    (∃ l, xs.foldlM readPlaced empty = .ok l) ↔ Sound xs := by
  induction xs using List.reverseRecOn with
  | nil => exact ⟨fun _ => sound_nil, fun _ => ⟨empty, rfl⟩⟩
  | append_singleton xs x ih =>
    rw [sound_snoc_iff, ← ih, List.foldlM_append]
    constructor
    · rintro ⟨l', hok⟩
      obtain ⟨l, hl, hx⟩ := bind_eq_ok_iff.1 hok
      refine ⟨⟨l, hl⟩, fun e hfault => ?_⟩
      rw [List.foldlM_cons, (reads_of_foldlM hl).readPlaced_eq_error_iff.2 hfault] at hx
      cases hx
    · rintro ⟨⟨l, hl⟩, hx⟩
      rw [hl]
      rcases hread : l.readPlaced x with e | l'
      · exact absurd ((reads_of_foldlM hl).readPlaced_eq_error_iff.1 hread) (hx e)
      · refine ⟨l', bind_eq_ok_iff.2 ⟨l, rfl, ?_⟩⟩
        rw [List.foldlM_cons, hread]
        rfl

/-- Attributes are refused for the first that is at fault behind sound ones. -/
theorem foldlM_readPlaced_eq_error_iff {xs : List Placed} {e : LayoutError} :
    xs.foldlM readPlaced empty = .error e ↔
      ∃ before x after, xs = before ++ x :: after ∧ Sound before ∧ Fault before x e := by
  rw [foldlM_eq_error_iff]
  constructor
  · rintro ⟨before, x, after, l, hxs, hl, hx⟩
    exact ⟨before, x, after, hxs, exists_foldlM_readPlaced_iff.1 ⟨l, hl⟩,
      (reads_of_foldlM hl).readPlaced_eq_error_iff.1 hx⟩
  · rintro ⟨before, x, after, hxs, hsound, hfault⟩
    obtain ⟨l, hl⟩ := exists_foldlM_readPlaced_iff.2 hsound
    exact ⟨before, x, after, l, hxs, hl, (reads_of_foldlM hl).readPlaced_eq_error_iff.2 hfault⟩

/-! ## Layouts of declarations -/

/-- The fields of a record make a layout: their attributes are sound, and at least one of these is
for a place for locations. -/
structure WellFormed (fs : List Field) : Prop where
  sound : Sound (Placed.ofFields fs)
  exists_slot : ∃ x ∈ Placed.ofFields fs, x.2.path = slotPath

/-- The layout, but for how fields are written, comes from the attributes one after another. -/
theorem ofDeclaration_map_places (fs : List Field) :
    (ofDeclaration (.fields fs)).map places =
      ((Placed.ofFields fs).foldlM readPlaced empty >>= fun l =>
        if l.named = [] ∧ l.extra = none then .error .noSlot else .ok l) := by
  rw [← foldlM_readField, ofDeclaration, ofFields]
  rcases fs.foldlM readField empty with e | l
  · rfl
  · change (if l.named = [] ∧ l.extra = none then Except.error _ else .ok l).map places =
      if l.named = [] ∧ l.extra = none then _ else _
    split <;> rfl

section Fields

variable {fs : List Field}

theorem ofDeclaration_eq_error_iff {e : LayoutError} :
    ofDeclaration (.fields fs) = .error e ↔
      (∃ before x after, Placed.ofFields fs = before ++ x :: after ∧ Sound before ∧
        Fault before x e) ∨
      Sound (Placed.ofFields fs) ∧ (∀ x ∈ Placed.ofFields fs, x.2.path ≠ slotPath) ∧
        e = .noSlot := by
  have hmap : ofDeclaration (.fields fs) = .error e ↔
      (ofDeclaration (.fields fs)).map places = .error e := by
    rcases ofDeclaration (.fields fs) with e' | l <;> simp [Except.map]
  rw [hmap, ofDeclaration_map_places, ← foldlM_readPlaced_eq_error_iff]
  rcases hrun : (Placed.ofFields fs).foldlM readPlaced empty with e' | l
  · have hunsound : ¬Sound (Placed.ofFields fs) := by
      rw [← exists_foldlM_readPlaced_iff]
      rintro ⟨l, hl⟩
      cases hrun.symm.trans hl
    constructor
    · exact .inl
    · rintro (h | ⟨hsound, -⟩)
      · exact h
      · exact absurd hsound hunsound
  · have hsound : Sound (Placed.ofFields fs) := exists_foldlM_readPlaced_iff.1 ⟨l, hrun⟩
    rw [← (reads_of_foldlM hrun).no_slot_iff hsound]
    change (if l.named = [] ∧ l.extra = none then _ else _) = Except.error e ↔ _
    constructor
    · intro h
      split at h
      · next hnone =>
        cases h
        exact .inr ⟨hsound, hnone, rfl⟩
      · cases h
    · rintro (h | ⟨-, hnone, rfl⟩)
      · cases h
      · exact if_pos hnone

theorem exists_ofDeclaration_iff :
    (∃ l, ofDeclaration (.fields fs) = .ok l) ↔ WellFormed fs := by
  constructor
  · rintro ⟨l, hl⟩
    have herror (e : LayoutError) : ofDeclaration (.fields fs) ≠ .error e := by
      intro he
      cases hl.symm.trans he
    have hsound : Sound (Placed.ofFields fs) := by
      rcases hrun : (Placed.ofFields fs).foldlM readPlaced empty with e | m
      · have hfault := foldlM_readPlaced_eq_error_iff.1 hrun
        exact absurd (ofDeclaration_eq_error_iff.2 (.inl hfault)) (herror e)
      · exact exists_foldlM_readPlaced_iff.1 ⟨m, hrun⟩
    refine ⟨hsound, ?_⟩
    by_contra hnone
    push Not at hnone
    exact herror .noSlot (ofDeclaration_eq_error_iff.2 (.inr ⟨hsound, hnone, rfl⟩))
  · rintro ⟨hsound, x, hx, hpath⟩
    rcases hread : ofDeclaration (.fields fs) with e | l
    · obtain hfault | ⟨-, hnone, -⟩ := ofDeclaration_eq_error_iff.1 hread
      · obtain ⟨m, hm⟩ := exists_foldlM_readPlaced_iff.2 hsound
        cases hm.symm.trans (foldlM_readPlaced_eq_error_iff.2 hfault)
      · exact absurd hpath (hnone x hx)
    · exact ⟨l, rfl⟩

end Fields

/-- Attributes that are for no place have no say in the places, nor in what is refused. -/
theorem ofDeclaration_onlyPlaces (fs : List Field) :
    (ofDeclaration (.fields (fs.map Field.onlyPlaces))).map places =
      (ofDeclaration (.fields fs)).map places := by
  have hflat : Placed.ofFields (fs.map Field.onlyPlaces) =
      (Placed.ofFields fs).filter fun x => x.2.isForPlace := by
    simp only [Placed.ofFields, List.flatMap_map, List.filter_flatMap, List.filter_map]
    rfl
  have hskip : (fun l (x : Placed) => if x.2.isForPlace then readPlaced l x else pure l) =
      readPlaced := by
    funext l x
    split
    · rfl
    · next hother =>
      simp only [Attribute.isForPlace, decide_eq_true_eq, not_or] at hother
      rw [readPlaced, readAttribute, if_neg hother.2, if_neg hother.1]
      rfl
  rw [ofDeclaration_map_places, ofDeclaration_map_places, hflat, List.foldlM_filter, hskip]

/-- **A declaration has a layout if it is well formed, and is refused for its first fault
otherwise.** It has one exactly if it is a record with named fields, all attributes that are for
places say which, no place is asked for twice, and at least one attribute is for a place for
locations. What a record is refused for is what the first attribute is at fault for, or if none is
that there is no such place. Other attributes have no say in either. -/
theorem ofDeclaration_refuses_first_fault :
    (∀ d, (∃ l, ofDeclaration d = .ok l) ↔ ∃ fs, d = .fields fs ∧ WellFormed fs) ∧
    (∀ fs e, ofDeclaration (.fields fs) = .error e ↔
      (∃ before x after, Placed.ofFields fs = before ++ x :: after ∧ Sound before ∧
        Fault before x e) ∨
      Sound (Placed.ofFields fs) ∧ (∀ x ∈ Placed.ofFields fs, x.2.path ≠ slotPath) ∧
        e = .noSlot) ∧
    ∀ fs, (ofDeclaration (.fields (fs.map Field.onlyPlaces))).map places =
      (ofDeclaration (.fields fs)).map places := by
  refine ⟨fun d => ?_, fun _ _ => ofDeclaration_eq_error_iff, ofDeclaration_onlyPlaces⟩
  cases d with
  | fields fs =>
    rw [exists_ofDeclaration_iff]
    constructor
    · intro h
      exact ⟨fs, rfl, h⟩
    · rintro ⟨_, ⟨⟩, h⟩
      exact h
  | unnamed =>
    constructor
    · rintro ⟨l, ⟨⟩⟩
    · rintro ⟨fs, ⟨⟩, -⟩
  | other =>
    constructor
    · rintro ⟨l, ⟨⟩⟩
    · rintro ⟨fs, ⟨⟩, -⟩

end Layout

end Locus.Record
