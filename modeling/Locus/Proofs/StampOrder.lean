import Locus.Proofs.ObjectAttachments
import Locus.Proofs.Record

/-!
# The order of stamps

One location is stamped on a token under two properties, which may be the same or be refused. Main
statements: for tokens, JSON objects and values, and records of any layout the order of the two
stamps does not matter, and a token that takes both holds the location under both.
-/

namespace Locus

open Json

/-! ## Keyed collections -/

namespace Keyed

variable {α : Type} {key key' : String} {value value' : α}

/-- Only the last value that is put under a key counts. -/
theorem insert_insert_self (entries : List (String × α)) :
    insert key value (insert key value' entries) = insert key value entries := by
  have hirrefl : ¬key < key := String.lt_irrefl key
  induction entries with
  | nil => simp only [insert, if_neg hirrefl, if_true]
  | cons entry entries ih =>
    obtain ⟨k, v⟩ := entry
    by_cases hlt : key < k
    · rw [insert, if_pos hlt, insert, if_neg hirrefl, if_pos rfl, insert, if_pos hlt]
    · by_cases heq : k = key
      · rw [insert, if_neg hlt, if_pos heq, insert, if_neg hirrefl, if_pos rfl, insert, if_neg hlt,
          if_pos heq]
      · rw [insert, if_neg hlt, if_neg heq, insert, if_neg hlt, if_neg heq, ih, insert, if_neg hlt,
          if_neg heq]

/-- Of two different keys the smaller one finds its place before the other, whether or not the keys
that are there ascend. -/
theorem insert_comm_of_lt (hkeys : key < key') (entries : List (String × α)) :
    insert key value (insert key' value' entries) =
      insert key' value' (insert key value entries) := by
  have hnlt : ¬key' < key := fun h => String.lt_irrefl _ (String.lt_trans hkeys h)
  have hne : key ≠ key' := fun h => String.lt_irrefl _ (h ▸ hkeys)
  induction entries with
  | nil => simp only [insert, if_pos hkeys, if_neg hnlt, if_neg hne]
  | cons entry entries ih =>
    obtain ⟨k, v⟩ := entry
    by_cases hlt : key < k
    · have hfirst : insert key value ((k, v) :: entries) = (key, value) :: (k, v) :: entries := by
        rw [insert, if_pos hlt]
      rw [hfirst, insert.eq_2 key' value' key, if_neg hnlt, if_neg hne]
      by_cases hlt' : key' < k
      · rw [insert, if_pos hlt', insert, if_pos hkeys]
      · by_cases heq' : k = key'
        · rw [insert, if_neg hlt', if_pos heq', insert, if_pos hkeys]
        · rw [insert, if_neg hlt', if_neg heq', insert, if_pos hlt]
    · by_cases heq : k = key
      · subst heq
        simp only [insert, if_neg hnlt, if_neg hne, if_neg hlt, if_true]
      · have hlt' : ¬key' < k := fun h => hlt (String.lt_trans hkeys h)
        by_cases heq' : k = key'
        · subst heq'
          exact absurd hkeys hlt
        · simp only [insert, if_neg hlt', if_neg heq', if_neg hlt, if_neg heq, ih]

theorem insert_comm (hne : key ≠ key') (entries : List (String × α)) :
    insert key value (insert key' value' entries) =
      insert key' value' (insert key value entries) := by
  by_cases hlt : key < key'
  · exact insert_comm_of_lt hlt entries
  · have hgt : key' < key := by
      by_contra hnlt
      exact hne (String.le_antisymm (String.not_lt.1 hnlt) (String.not_lt.1 hlt))
    exact (insert_comm_of_lt hgt entries).symm

end Keyed

theorem KeyMap.insert_comm {α : Type} {key key' : String} (hne : key ≠ key') (value value' : α)
    (m : KeyMap α) :
    (m.insert key' value').insert key value = (m.insert key value).insert key' value' :=
  ext_entries (Keyed.insert_comm hne m.entries)

/-! ## Laws of stamps -/

/-- The laws of tokens that take locations under several properties without regard to the order.
`proper` are the tokens that fit their type, and `holds` says that a token holds a location under a
property. -/
structure StampsFreely (τ : Type) [Locate τ] (proper : τ → Prop)
    (holds : τ → String → Location → Prop) : Prop where
  stamp_comm : ∀ p q l (t : τ), stamp p l (stamp q l t) = stamp q l (stamp p l t)
  /-- What a token takes does not depend on what it was given before. -/
  takes_stamp : ∀ p q l (t : τ),
    (Locate.attach? p l (stamp q l t)).isSome = (Locate.attach? p l t).isSome
  proper_stamp : ∀ p l t, proper t → proper (stamp p l t)
  holds_stamp : ∀ p l t, proper t → (Locate.attach? p l t).isSome → holds (stamp p l t) p l

/-- A token that takes a location under both of two properties holds it under both. -/
theorem StampsFreely.holds_both {τ : Type} [Locate τ] {proper : τ → Prop}
    {holds : τ → String → Location → Prop} (laws : StampsFreely τ proper holds) {p q : String}
    {l : Location} {t : τ} (ht : proper t) (hp : (Locate.attach? p l t).isSome)
    (hq : (Locate.attach? q l t).isSome) :
    holds (stamp q l (stamp p l t)) p l ∧ holds (stamp q l (stamp p l t)) q l := by
  constructor
  · rw [laws.stamp_comm]
    exact laws.holds_stamp p l _ (laws.proper_stamp q l t ht) (by rwa [laws.takes_stamp])
  · exact laws.holds_stamp q l _ (laws.proper_stamp p l t ht) (by rwa [laws.takes_stamp])

namespace Token

theorem stampsFreely :
    StampsFreely Token (fun _ => True) fun t p l => t.location? p = some l where
  stamp_comm p q l t := by
    by_cases hpq : p = q
    · rw [hpq]
    · simp only [stamp_eq]
      by_cases hp : p ∈ ownKeys
      · simp only [if_pos hp]
      · by_cases hq : q ∈ ownKeys
        · simp only [if_pos hq]
        · simp only [if_neg hp, if_neg hq]
          by_cases hpdefault : p = defaultProperty
          · have hqdefault : q ≠ defaultProperty := fun h => hpq (hpdefault.trans h.symm)
            simp only [if_pos hpdefault, if_neg hqdefault]
          · by_cases hqdefault : q = defaultProperty
            · simp only [if_neg hpdefault, if_pos hqdefault]
            · simp only [if_neg hpdefault, if_neg hqdefault, KeyMap.insert_comm hpq]
  takes_stamp p q l t := by rw [isSome_attach?, isSome_attach?]
  proper_stamp _ _ _ _ := trivial
  holds_stamp p l t _ htakes := by
    rw [isSome_attach?, takes_iff] at htakes
    rw [location?_stamp htakes, if_pos rfl]

end Token

namespace Json

/-- Where both of two properties are taken, both are written, and then the range of both. -/
theorem insert_range_comm {p q : String} (hp : p ≠ rangeKey) (hq : q ≠ rangeKey) (v range : Value)
    (members : List (String × Value)) :
    Keyed.insert rangeKey range
        (Keyed.insert p v (Keyed.insert rangeKey range (Keyed.insert q v members))) =
      Keyed.insert rangeKey range
        (Keyed.insert q v (Keyed.insert rangeKey range (Keyed.insert p v members))) := by
  have hfirst : ∀ {p q}, p ≠ rangeKey →
      Keyed.insert rangeKey range
          (Keyed.insert p v (Keyed.insert rangeKey range (Keyed.insert q v members))) =
        Keyed.insert rangeKey range (Keyed.insert p v (Keyed.insert q v members)) := by
    intro p q hp
    rw [Keyed.insert_comm hp, Keyed.insert_insert_self]
  rw [hfirst hp, hfirst hq]
  by_cases hpq : p = q
  · rw [hpq]
  · rw [Keyed.insert_comm hpq]

theorem Value.stampsFreely :
    StampsFreely Value (fun _ => True) fun v p l => v.member? p = some l.value where
  stamp_comm p q l v := by
    by_cases hp : v.takes p
    · by_cases hq : v.takes q
      · obtain ⟨hobject, hp'⟩ := takes_iff.1 hp
        obtain ⟨-, hq'⟩ := takes_iff.1 hq
        cases v with
        | object members =>
          rw [stamp_object hq', stamp_object hp', stamp_object hp', stamp_object hq']
          exact congrArg Value.object (insert_range_comm hp' hq' _ _ members)
        | _ => cases hobject
      · have hq' : ¬(stamp p l v).takes q := by rwa [takes_stamp]
        rw [stamp_of_not_takes hq, stamp_of_not_takes hq']
    · have hp' : ¬(stamp q l v).takes p := by rwa [takes_stamp]
      rw [stamp_of_not_takes hp, stamp_of_not_takes hp']
  takes_stamp p q l v := by rw [isSome_attach?, isSome_attach?, takes_stamp]
  proper_stamp _ _ _ _ := trivial
  holds_stamp p l v _ htakes := by
    rw [isSome_attach?] at htakes
    rw [member?_stamp, if_pos htakes, if_neg (Ne.symm (takes_iff.1 htakes).2), if_pos rfl]

/-- An object takes locations as it does where it is a value. -/
theorem Object.object_stamp (p : String) (l : Location) (o : Object) :
    Value.object (stamp p l o).members = stamp p l (Value.object o.members) := by
  have hattach : Locate.attach? p l (Value.object o.members) =
      (Locate.attach? p l o).map fun o => Value.object o.members := rfl
  rw [stamp, stamp, hattach]
  cases Locate.attach? p l o
  · rfl
  · rfl

theorem Object.isSome_attach? (p : String) (l : Location) (o : Object) :
    (Locate.attach? p l o).isSome = (Locate.attach? p l (Value.object o.members)).isSome :=
  Option.isSome_map.symm

theorem Object.stampsFreely :
    StampsFreely Object (fun _ => True) fun o p l => Keyed.find? p o.members = some l.value where
  stamp_comm p q l o := by
    have hvalue := Value.stampsFreely.stamp_comm p q l (Value.object o.members)
    rw [← object_stamp, ← object_stamp, ← object_stamp, ← object_stamp,
      Value.object.injEq] at hvalue
    exact congrArg Object.mk hvalue
  takes_stamp p q l o := by
    rw [isSome_attach?, isSome_attach?, object_stamp]
    exact Value.stampsFreely.takes_stamp p q l _
  proper_stamp _ _ _ _ := trivial
  holds_stamp p l o _ htakes := by
    rw [isSome_attach?] at htakes
    have hvalue := Value.stampsFreely.holds_stamp p l _ trivial htakes
    rwa [← object_stamp] at hvalue

end Json

/-! ## Records -/

namespace Record

variable {layout : Layout} {p q : String} {l : Location}

/-- What becomes of the content of any field when a location is taken. The range is put in its place
last. -/
def Layout.settle (layout : Layout) (p : String) (l : Location) (entry : String × Content) :
    String × Content :=
  (entry.1,
    if layout.range = some entry.1 then .range l.range
    else if layout.target? p = some entry.1 then layout.fill p l entry.2
    else entry.2)

theorem Layout.fill_comm (layout : Layout) (p q : String) (l : Location) (c : Content) :
    layout.fill p l (layout.fill q l c) = layout.fill q l (layout.fill p l c) := by
  by_cases hpq : p = q
  · rw [hpq]
  · by_cases hp : p ∈ layout.claimed
    · by_cases hq : q ∈ layout.claimed
      · simp only [fill, if_pos hp, if_pos hq]
      · simp only [fill, if_pos hp, if_neg hq, Content.insert]
    · by_cases hq : q ∈ layout.claimed
      · simp only [fill, if_neg hp, if_pos hq, Content.insert]
      · simp only [fill, if_neg hp, if_neg hq]
        cases c with
        | locations m => simp only [Content.insert, KeyMap.insert_comm hpq]
        | _ => rfl

theorem Layout.settle_comm (layout : Layout) (p q : String) (l : Location)
    (entry : String × Content) :
    layout.settle p l (layout.settle q l entry) = layout.settle q l (layout.settle p l entry) := by
  obtain ⟨name, c⟩ := entry
  by_cases hrange : layout.range = some name
  · simp only [settle, if_pos hrange]
  · by_cases hp : layout.target? p = some name
    · by_cases hq : layout.target? q = some name
      · simp only [settle, if_neg hrange, if_pos hp, if_pos hq, layout.fill_comm p q]
      · simp only [settle, if_neg hrange, if_pos hp, if_neg hq]
    · simp only [settle, if_neg hrange, if_neg hp]

theorem contents_modify (g : Content → Content) (field : String) (r : Record layout) :
    (r.modify g field).contents =
      r.contents.map fun entry => (entry.1, if entry.1 = field then g entry.2 else entry.2) := by
  rw [modify]
  refine List.map_congr_left fun entry _ => ?_
  by_cases h : entry.1 = field
  · simp only [if_pos h]
  · simp only [if_neg h]

theorem contents_of_attach? {r r' : Record layout} (h : r.attach? p l = some r') :
    r'.contents = r.contents.map (layout.settle p l) := by
  rw [attach?] at h
  split at h
  · cases h
  · rw [place?_eq, Option.map_map] at h
    obtain ⟨field, htarget, rfl⟩ := Option.map_eq_some_iff.1 h
    have hsettle : ∀ entry, layout.settle p l entry =
        (entry.1, if layout.range = some entry.1 then .range l.range
          else if entry.1 = field then layout.fill p l entry.2 else entry.2) := fun entry => by
      simp only [Layout.settle, htarget, Option.some.injEq, eq_comm (a := field)]
    rw [Function.comp_apply, placeRange]
    rcases hrange : layout.range with _ | rangeField
    · rw [contents_modify]
      refine List.map_congr_left fun entry _ => ?_
      rw [hsettle, hrange]
      rfl
    · rw [contents_modify, contents_modify, List.map_map]
      refine List.map_congr_left fun entry _ => ?_
      rw [hsettle, hrange, Function.comp_apply]
      simp only [Option.some.injEq, eq_comm (a := rangeField)]

/-- Whether a record takes a location is told by its layout. -/
theorem isSome_attach?_eq (p : String) (l : Location) (r r' : Record layout) :
    (Locate.attach? p l r).isSome = (Locate.attach? p l r').isSome := by
  have hnone : ∀ r : Record layout, Locate.attach? p l r = none ↔ _ := fun r => attach?_eq_none_iff
  rw [Bool.eq_iff_iff, Option.isSome_iff_ne_none, Option.isSome_iff_ne_none, ne_eq, ne_eq, hnone,
    hnone]

theorem stamp_of_refused {r : Record layout} (h : (Locate.attach? p l r).isSome = false) :
    stamp p l r = r := by
  rw [Option.isSome_eq_false_iff, Option.isNone_iff_eq_none] at h
  rw [stamp, h]
  rfl

theorem contents_stamp {r : Record layout} (h : (Locate.attach? p l r).isSome) :
    (stamp p l r).contents = r.contents.map (layout.settle p l) :=
  contents_of_attach? (attach?_eq_some_stamp h)

theorem stamp_comm (p q : String) (l : Location) (r : Record layout) :
    stamp p l (stamp q l r) = stamp q l (stamp p l r) := by
  have htakes : ∀ p (r' : Record layout),
      (Locate.attach? p l r').isSome = (Locate.attach? p l r).isSome :=
    fun p r' => isSome_attach?_eq p l r' r
  rcases hp : (Locate.attach? p l r).isSome with _ | _
  · rw [stamp_of_refused hp, stamp_of_refused ((htakes p _).trans hp)]
  · rcases hq : (Locate.attach? q l r).isSome with _ | _
    · rw [stamp_of_refused hq, stamp_of_refused ((htakes q _).trans hq)]
    · have hcontents : (stamp p l (stamp q l r)).contents = (stamp q l (stamp p l r)).contents := by
        rw [contents_stamp ((htakes p _).trans hp), contents_stamp hq,
          contents_stamp ((htakes q _).trans hq), contents_stamp hp, List.map_map, List.map_map]
        exact List.map_congr_left fun entry _ => layout.settle_comm p q l entry
      exact congrArg Record.mk hcontents

/-- A record holds a location under a property: in the field that claims the property or, if there
is none, in the field for all others. -/
def Holds (fs : List Field) (r : Record layout) (p : String) (l : Location) : Prop :=
  (∃ f ∈ fs, f.IsPlace (.named p) ∧ r.content? f.name = some (.location (some l))) ∨
    (¬IsClaimed fs p ∧ ∃ f ∈ fs, f.IsPlace .extra ∧
      ∃ m, r.content? f.name = some (.locations m) ∧ m.find? p = some l)

theorem stampsFreely {fs : List Field} (hlayout : Layout.ofDeclaration (.fields fs) = .ok layout) :
    StampsFreely (Record layout) (fun r => r.WellTyped fs) (Holds fs) where
  stamp_comm := stamp_comm
  takes_stamp p q l r := isSome_attach?_eq p l _ r
  proper_stamp p l r hr := hr.stamp (Layout.reads_of_ofDeclaration hlayout) p l
  holds_stamp p l r hr htakes := by
    have hreads := Layout.reads_of_ofDeclaration hlayout
    have hattach : r.attach? p l = some (stamp p l r) := attach?_eq_some_stamp htakes
    have hattached := hr.attached hreads hattach
    by_cases hclaimed : IsClaimed fs p
    · obtain ⟨f, hf, hplace⟩ := hclaimed
      exact .inl ⟨f, hf, hplace, hattached.named f hf hplace⟩
    · have htarget : ¬(layout.target? p = none) := fun hnone => by
        rw [attach?_eq_none_iff.2 (.inr hnone)] at hattach
        cases hattach
      rw [Layout.target?_eq_none_iff hreads, not_and, not_not] at htarget
      obtain ⟨f, hf, hplace⟩ := htarget hclaimed
      obtain ⟨-, m, -, hm, hfind, -⟩ := hattached.extra hclaimed f hf hplace
      exact .inr ⟨hclaimed, f, hf, hplace, m, hm, hfind⟩

end Record

end Locus
