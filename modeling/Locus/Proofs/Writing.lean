import Locus.Proofs.Listings
import Locus.Record.Attribute

/-!
# What attributes say about writing

The attributes about writing are read item by item, up to the first item that makes no sense. Main
statement: if all items make sense, what is read is what the items say, in whatever order they stand
and however they are spread over attributes.
-/

namespace Locus.Record

/-- An item of an attribute about writing: a name and what follows it. -/
structure Item where
  name : String
  argument : List TokenTree

namespace Item

/-- The key that an item `rename = "key"` asks for. -/
def key? (i : Item) : Option String :=
  match i.argument with
  | [sign, .atom (.text key)] => if i.name = "rename" ∧ sign.isSign '=' then some key else none
  | _ => none

theorem key?_eq_some_iff {i : Item} {key : String} :
    i.key? = some key ↔ i.name = "rename" ∧
      ∃ sign, i.argument = [sign, .atom (.text key)] ∧ sign.isSign '=' = true := by
  constructor
  · intro h
    rw [key?] at h
    split at h
    · next sign key' hargument =>
      split at h
      · next hname =>
        cases h
        exact ⟨hname.1, sign, hargument, hname.2⟩
      · cases h
    · cases h
  · rintro ⟨hname, sign, hargument, hsign⟩
    rw [key?, hargument]
    exact if_pos ⟨hname, hsign⟩

/-- The names of the items that leave a field out. -/
def skipNames : List String := ["skip", "skip_serializing"]

/-- The item makes sense: a name alone, with a value or with a list. Those that say how a field is
written say it alone, but `rename` with a string. -/
structure WellFormed (i : Item) : Prop where
  shape : i.argument = [] ∨ (∃ joined value, i.argument = .atom (.sign '=' joined) :: value) ∨
    ∃ d inside, i.argument = [.group d inside]
  alone : i.name ∈ "flatten" :: skipNames → i.argument = []
  rename : i.name = "rename" → Part.startsEquals i.argument = true → i.key? ≠ none

end Item

namespace Writing

/-- What the items say about writing. -/
def ofItems (items : List Item) : Writing where
  rename := items.findSome? Item.key?
  flattened := items.any fun i => i.name = "flatten"
  skipped := items.any fun i => i.name ∈ Item.skipNames

/-- The attributes list the items, in order; those that are about something else list none. -/
inductive Spells : List Attribute → List Item → Prop where
  | nil : Spells [] []
  | other {a : Attribute} {as : List Attribute} {items : List Item}
      (hpath : a.path ≠ .plain "serde") (rest : Spells as items) : Spells (a :: as) items
  | list {a : Attribute} {inside : List TokenTree} {as : List Attribute} {items more : List Item}
      (hpath : a.path = .plain "serde") (hlist : a.arguments = .list inside)
      (hitems : List.Forall₂ (fun p i => p.tokens = .atom (.word i.name) :: i.argument ∧
        i.WellFormed) (Part.ofList inside) items)
      (rest : Spells as more) : Spells (a :: as) (items ++ more)

/-- What an item adds to what those before it said. -/
def note (w : Writing) (i : Item) : Writing where
  rename := i.key?.or w.rename
  flattened := w.flattened || i.name = "flatten"
  skipped := w.skipped || i.name ∈ Item.skipNames

theorem path_of_tokens {p : Part} {i : Item}
    (htokens : p.tokens = .atom (.word i.name) :: i.argument) (h : i.WellFormed) :
    p.path = .ok (.plain i.name, i.argument) := by
  have hmore : p.moreNames i.argument = .ok ([], i.argument) := by
    rcases h.shape with hnil | ⟨joined, value, hvalue⟩ | ⟨d, inside, hlist⟩
    · rw [hnil]
      rfl
    · rw [hvalue]
      simp [Part.moreNames]
    · rw [hlist]
      rfl
  rw [Part.path, htokens]
  simp [Part.firstName, hmore, Path.plain, bind, Except.bind]

/-- An item that makes sense is read, and so is what follows it. -/
theorem readPart_of_tokens {p : Part} {i : Item}
    (htokens : p.tokens = .atom (.word i.name) :: i.argument) (h : i.WellFormed) (w : Writing) :
    w.readPart p = (w.note i, true) := by
  have hplain : ∀ name, Path.plain i.name = .plain name ↔ i.name = name := by
    simp [Path.plain]
  rw [readPart, path_of_tokens htokens h]
  simp only [hplain]
  by_cases hrename : i.name = "rename" ∧ Part.startsEquals i.argument = true
  · obtain ⟨key, hkey⟩ := Option.ne_none_iff_exists'.1 (h.rename hrename.1 hrename.2)
    obtain ⟨hname, sign, hargument, hsign⟩ := Item.key?_eq_some_iff.1 hkey
    have hassigned : p.assigned i.argument = .ok (key, []) := by
      rw [hargument, Part.assigned, if_pos hsign]
    rw [if_pos hrename, hassigned, note, hkey, hname]
    simp [Item.skipNames]
  · -- a key is asked for only behind an equals sign
    have hkey : i.key? = none := by
      rw [Option.eq_none_iff_forall_ne_some]
      intro key hkey
      obtain ⟨hname, sign, hargument, hsign⟩ := Item.key?_eq_some_iff.1 hkey
      exact hrename ⟨hname, by rw [hargument]; exact hsign⟩
    rw [if_neg hrename, note, hkey]
    by_cases hflatten : i.name = "flatten"
    · have hargument := h.alone (by rw [hflatten]; exact List.mem_cons_self)
      rw [if_pos hflatten, hargument, hflatten]
      simp [Item.skipNames]
    · rw [if_neg hflatten]
      by_cases hskip : i.name ∈ Item.skipNames
      · have hargument := h.alone (List.mem_cons_of_mem _ hskip)
        rw [if_pos (by simpa [Item.skipNames] using hskip), hargument]
        simp [hflatten, hskip]
      · rw [if_neg (by simpa [Item.skipNames] using hskip)]
        simp [hflatten, hskip]

/-- Items that make sense are read one after another. -/
theorem readParts_of_forall₂ {parts : List Part} {items : List Item}
    (h : List.Forall₂ (fun p i => p.tokens = .atom (.word i.name) :: i.argument ∧ i.WellFormed)
      parts items) (w : Writing) : w.readParts parts = items.foldl note w := by
  induction h generalizing w with
  | nil => rfl
  | cons hpart rest ih =>
    rw [readParts, readPart_of_tokens hpart.1 hpart.2]
    exact ih _

/-- So are the items of several attributes. -/
theorem foldl_readAttribute_of_spells {attributes : List Attribute} {items : List Item}
    (h : Spells attributes items) (w : Writing) :
    attributes.foldl readAttribute w = items.foldl note w := by
  induction h generalizing w with
  | nil => rfl
  | @other a _ _ hpath rest ih =>
    have hkeep : w.readAttribute a = w := by
      rw [readAttribute]
      split
      · exact if_neg hpath
      · rfl
    rw [List.foldl_cons, hkeep]
    exact ih w
  | list hpath hlist hitems rest ih =>
    rw [List.foldl_cons, List.foldl_append, readAttribute, hlist]
    dsimp only
    rw [if_pos hpath, readParts_of_forall₂ hitems]
    exact ih _

theorem foldl_note (items : List Item) (w : Writing) :
    items.foldl note w = ⟨(items.filterMap Item.key?).getLast?.or w.rename,
      w.flattened || (ofItems items).flattened, w.skipped || (ofItems items).skipped⟩ := by
  induction items generalizing w with
  | nil => simp [ofItems]
  | cons i items ih =>
    rw [List.foldl_cons, ih, note]
    simp only [ofItems, List.any_cons, Writing.mk.injEq, Bool.or_assoc, and_self, and_true]
    rcases hkey : i.key? with _ | key
    · simp [hkey]
    · simp [hkey, List.getLast?_cons]

/-- What is read of attributes whose items all make sense is what the items say. -/
theorem ofAttributes_of_spells {attributes : List Attribute} {items : List Item}
    (h : Spells attributes items) (hone : (items.filterMap Item.key?).length ≤ 1) :
    ofAttributes attributes = ofItems items := by
  have hlast : (items.filterMap Item.key?).getLast? = items.findSome? Item.key? := by
    rw [← List.head?_filterMap]
    rcases hkeys : items.filterMap Item.key? with _ | ⟨key, _ | ⟨key', keys⟩⟩
    · rfl
    · rfl
    · rw [hkeys] at hone
      simp at hone
  rw [ofAttributes, foldl_readAttribute_of_spells h, foldl_note, hlast]
  simp [standard, ofItems]

/-! ## Arrangements -/

end Writing

namespace Item

/-- The item asks for the key. -/
def Renames (i : Item) (key : String) : Prop :=
  i.name = "rename" ∧ ∃ joined, i.argument = [.atom (.sign '=' joined), .atom (.text key)]

theorem key?_eq_some_iff_renames {i : Item} {key : String} :
    i.key? = some key ↔ i.Renames key := by
  rw [key?_eq_some_iff, Renames]
  refine and_congr_right fun _ => ⟨?_, ?_⟩
  · rintro ⟨sign, hargument, hsign⟩
    obtain ⟨joined, rfl⟩ := TokenTree.isSign_iff.1 hsign
    exact ⟨joined, hargument⟩
  · rintro ⟨joined, hargument⟩
    exact ⟨_, hargument, rfl⟩

/-- The pieces are those of the item, which makes sense and holds no comma outside of brackets. -/
structure Spelled (ts : List TokenTree) (i : Item) : Prop where
  tokens : ts = .atom (.word i.name) :: i.argument
  wellFormed : i.WellFormed
  commaFree : CommaFree i.argument

theorem Spelled.commaFree_tokens {ts : List TokenTree} {i : Item} (h : Spelled ts i) :
    ts ≠ [] ∧ CommaFree ts := by
  rw [h.tokens]
  exact ⟨List.cons_ne_nil _ _, List.forall_mem_cons.2 ⟨rfl, h.commaFree⟩⟩

end Item

namespace Writing

/-- The attributes list the items, in order, with attributes about something else between them. -/
inductive Lists : List Attribute → List Item → Prop where
  | nil : Lists [] []
  | other {a : Attribute} {as : List Attribute} {items : List Item}
      (hpath : a.path ≠ .plain "serde") (rest : Lists as items) : Lists (a :: as) items
  | list {a : Attribute} {inside : List TokenTree} {as : List Attribute} {items more : List Item}
      (hpath : a.path = .plain "serde") (hlist : a.arguments = .list inside)
      (hitems : Listing Item.Spelled inside items) (rest : Lists as more) :
      Lists (a :: as) (items ++ more)

theorem Lists.spells {attributes : List Attribute} {items : List Item}
    (h : Lists attributes items) : Spells attributes items := by
  induction h with
  | nil => exact .nil
  | other hpath rest ih => exact .other hpath ih
  | list hpath hlist hitems rest ih =>
    have hparts := (listing_iff Item.Spelled.commaFree_tokens).1 hitems
    exact .list hpath hlist (hparts.imp fun _ _ h => ⟨h.tokens, h.wellFormed⟩) ih

/-- Where two items do not both ask for a key, at most one key is asked for. -/
theorem length_keys_le_one {items : List Item}
    (hone : items.Pairwise fun i j => ¬((∃ key, i.Renames key) ∧ ∃ key, j.Renames key)) :
    (items.filterMap Item.key?).length ≤ 1 := by
  have hpair : (items.filterMap Item.key?).Pairwise fun _ _ => False := by
    refine List.pairwise_filterMap.2 (hone.imp fun hij key hi key' hj => hij ⟨?_, ?_⟩)
    · exact ⟨key, Item.key?_eq_some_iff_renames.1 hi⟩
    · exact ⟨key', Item.key?_eq_some_iff_renames.1 hj⟩
  rcases hkeys : items.filterMap Item.key? with _ | ⟨key, _ | ⟨key', keys⟩⟩
  · simp
  · simp
  · rw [hkeys] at hpair
    exact absurd (List.rel_of_pairwise_cons hpair List.mem_cons_self) id

theorem rename_ofItems_eq_some_iff {items : List Item}
    (hone : (items.filterMap Item.key?).length ≤ 1) {key : String} :
    (ofItems items).rename = some key ↔ ∃ i ∈ items, i.Renames key := by
  have hmem : key ∈ items.filterMap Item.key? ↔ ∃ i ∈ items, i.Renames key := by
    simp only [List.mem_filterMap, Item.key?_eq_some_iff_renames]
  change items.findSome? Item.key? = some key ↔ _
  rw [← hmem, ← List.head?_filterMap]
  rcases hkeys : items.filterMap Item.key? with _ | ⟨key', _ | ⟨key'', keys⟩⟩
  · simp
  · simp [eq_comm]
  · rw [hkeys] at hone
    simp at hone

theorem flattened_ofItems_iff {items : List Item} :
    (ofItems items).flattened = true ↔ ∃ i ∈ items, i.name = "flatten" := by
  simp [ofItems]

theorem skipped_ofItems_iff {items : List Item} :
    (ofItems items).skipped = true ↔
      ∃ i ∈ items, i.name = "skip" ∨ i.name = "skip_serializing" := by
  simp [ofItems, Item.skipNames]

/-- **How a field is written does not depend on the arrangement of the items.** However they are
ordered, spread over attributes and mixed with attributes about something else, the key is the one
that an item asks for, the members are written in the place of the field if an item says so, and
the field is left out if one says that. All other items have no say. -/
theorem ofAttributes_of_any_arrangement {attributes : List Attribute} {listed items : List Item}
    (hlists : Lists attributes listed) (horder : listed.Perm items)
    (hone : items.Pairwise fun i j => ¬((∃ key, i.Renames key) ∧ ∃ key, j.Renames key)) :
    (∀ key, (ofAttributes attributes).rename = some key ↔ ∃ i ∈ items, i.Renames key) ∧
    ((ofAttributes attributes).flattened = true ↔ ∃ i ∈ items, i.name = "flatten") ∧
    ((ofAttributes attributes).skipped = true ↔
      ∃ i ∈ items, i.name = "skip" ∨ i.name = "skip_serializing") := by
  have hkeys : (listed.filterMap Item.key?).length ≤ 1 := by
    rw [(horder.filterMap _).length_eq]
    exact length_keys_le_one hone
  rw [ofAttributes_of_spells hlists.spells hkeys]
  simp only [← horder.mem_iff]
  exact ⟨fun key => rename_ofItems_eq_some_iff hkeys, flattened_ofItems_iff, skipped_ofItems_iff⟩

/-- Two attributes with another between them, and items that have no say. -/
theorem ofAttributes_of_any_arrangement_spread :
    let comma : TokenTree := .atom (.sign ',' false)
    let value (text : String) : List TokenTree := [.atom (.sign '=' false), .atom (.text text)]
    let attributes : List Attribute := [
      ⟨.plain "serde", .list (.atom (.word "skip_serializing_if") :: value "f" ++
        comma :: .atom (.word "rename") :: value "key")⟩,
      ⟨.plain "doc", .value⟩,
      ⟨.plain "serde", .list ([.atom (.word "default")] ++
        comma :: ([.atom (.word "flatten")] ++ [comma]))⟩]
    let items : List Item := [⟨"flatten", []⟩, ⟨"default", []⟩, ⟨"rename", value "key"⟩,
      ⟨"skip_serializing_if", value "f"⟩]
    Lists attributes items.reverse ∧ (ofAttributes attributes).rename = some "key" ∧
      (ofAttributes attributes).flattened = true ∧ ¬(ofAttributes attributes).skipped = true := by
  intro comma value attributes items
  have hnone : CommaFree [] := by simp [CommaFree]
  have hvalue (text : String) : CommaFree (value text) := by
    simp [CommaFree, value, TokenTree.isComma, TokenTree.isSign]
  have hcondition : Item.WellFormed ⟨"skip_serializing_if", value "f"⟩ :=
    ⟨.inr (.inl ⟨false, _, rfl⟩), by simp [Item.skipNames], by simp⟩
  have hrename : Item.WellFormed ⟨"rename", value "key"⟩ :=
    ⟨.inr (.inl ⟨false, _, rfl⟩), by simp [Item.skipNames], fun _ _ => by decide⟩
  have hdefault : Item.WellFormed ⟨"default", []⟩ := ⟨.inl rfl, fun _ => rfl, by simp⟩
  have hflatten : Item.WellFormed ⟨"flatten", []⟩ := ⟨.inl rfl, fun _ => rfl, by simp⟩
  have hlists : Lists attributes ([⟨"skip_serializing_if", value "f"⟩, ⟨"rename", value "key"⟩] ++
      ([⟨"default", []⟩, ⟨"flatten", []⟩] ++ [])) := by
    refine .list rfl rfl ?_ (.other (by decide) (.list rfl rfl ?_ .nil))
    · exact .cons ⟨rfl, hcondition, hvalue "f"⟩ rfl (.last ⟨rfl, hrename, hvalue "key"⟩)
    · exact .cons ⟨rfl, hdefault, hnone⟩ rfl (.cons ⟨rfl, hflatten, hnone⟩ rfl .nil)
  have hone : items.Pairwise fun i j => ¬((∃ key, i.Renames key) ∧ ∃ key, j.Renames key) := by
    simp [items, Item.Renames]
  obtain ⟨hkey, hflattened, hskipped⟩ :=
    ofAttributes_of_any_arrangement hlists items.reverse_perm hone
  refine ⟨hlists, (hkey "key").2 ?_, hflattened.2 ?_, fun h => ?_⟩
  · exact ⟨⟨"rename", value "key"⟩, by simp [items], rfl, false, rfl⟩
  · exact ⟨⟨"flatten", []⟩, by simp [items], rfl⟩
  · have hskip := hskipped.1 h
    simp [items] at hskip

end Writing

end Locus.Record
