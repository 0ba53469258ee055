import Locus.Format.Options
import Locus.Proofs.LocationText
import Locus.Proofs.Traversal
import Mathlib.Data.List.Forall2
import Mathlib.Data.List.Nodup

/-!
# Spellings

A record can be written by the keys of its fields, in any order and with other keys between them, or
by their places. Main statements: the readers of positions, of locations and of options accept
exactly the spellings of what they read, and what is left out is read as if its default were
written.
-/

namespace Locus

open Json

namespace Json.Tree

/-! ## Members -/

section Members

variable {members members' others : List (Option String × Tree)} {name : String}
  {fields : List (String × Option Tree)}

/-- What stands under a key, in the order of the members. -/
def given (members : List (Option String × Tree)) (key : String) : List Tree :=
  (members.filter fun m => m.1 = some key).map (·.2)

theorem given_append :
    given (members ++ others) name = given members name ++ given others name := by
  rw [given, List.filter_append, List.map_append, given, given]

theorem given_eq_nil (h : ∀ m ∈ members, m.1 ≠ some name) : given members name = [] := by
  rw [given, List.map_eq_nil_iff, List.filter_eq_nil_iff]
  exact fun m hm heq => h m hm (of_decide_eq_true heq)

theorem filter_eq_map_given (members : List (Option String × Tree)) (name : String) :
    (members.filter fun m => m.1 = some name) =
      (given members name).map fun t => (some name, t) := by
  rw [given, List.map_map]
  refine (List.map_id _).symm.trans (List.map_congr_left fun m hm => ?_)
  have hkey : m.1 = some name := of_decide_eq_true (List.mem_filter.1 hm).2
  exact Prod.ext hkey rfl

/-- A field that is given once at most is found, or found to be absent. -/
theorem field?_eq_some_iff {v : Option Tree} :
    field? members name = some v ↔ given members name = v.toList := by
  rw [field?, given]
  generalize members.filter (fun m => m.1 = some name) = found
  rcases found with _ | ⟨m, _ | ⟨m', found⟩⟩
  all_goals rcases v with _ | t
  all_goals simp

/-- The order of the members does not matter to a field that is given once at most. -/
theorem given_eq_of_perm {v : Option Tree} (h : members.Perm members')
    (hgiven : given members' name = v.toList) : given members name = v.toList := by
  have hperm : (given members name).Perm v.toList := hgiven ▸ (h.filter _).map _
  rcases v with _ | t
  · exact List.perm_nil.1 hperm
  · exact List.perm_singleton.1 hperm

/-- The members that give fields their values; a field without a value has none. -/
def present (fields : List (String × Option Tree)) : List (Option String × Tree) :=
  fields.flatMap fun field => field.2.toList.map fun t => (some field.1, t)

theorem exists_of_mem_present {m : Option String × Tree} (h : m ∈ present fields) :
    ∃ field ∈ fields, m.1 = some field.1 := by
  obtain ⟨field, hfield, hm⟩ := List.mem_flatMap.1 h
  obtain ⟨t, -, rfl⟩ := List.mem_map.1 hm
  exact ⟨field, hfield, rfl⟩

theorem given_present (hnodup : (fields.map (·.1)).Nodup) :
    ∀ field ∈ fields, given (present fields) field.1 = field.2.toList := by
  induction fields with
  | nil => simp
  | cons head fields ih =>
    obtain ⟨hhead, hnodup⟩ := List.nodup_cons.1 hnodup
    have hpresent : present (head :: fields) =
        (head.2.toList.map fun t => (some head.1, t)) ++ present fields := rfl
    intro field hfield
    rw [hpresent, given_append]
    rcases List.mem_cons.1 hfield with rfl | hfield
    · have hrest : given (present fields) field.1 = [] := given_eq_nil fun m hm heq => by
        obtain ⟨other, hother, hm⟩ := exists_of_mem_present hm
        have hkey : other.1 = field.1 := Option.some.inj (hm.symm.trans heq)
        exact hhead (List.mem_map.2 ⟨other, hother, hkey⟩)
      rw [hrest, List.append_nil]
      rcases field with ⟨name, _ | t⟩
      · rfl
      · simp [given]
    · have hfirst : given (head.2.toList.map fun t => (some head.1, t)) field.1 = [] :=
        given_eq_nil fun m hm heq => by
          obtain ⟨t, -, rfl⟩ := List.mem_map.1 hm
          exact hhead (List.mem_map.2 ⟨field, hfield, (Option.some.inj heq).symm⟩)
      rw [hfirst, List.nil_append]
      exact ih hnodup field hfield

/-- The members under the keys of the fields are those that give them their values, if every field
is given its value and nothing else. -/
theorem perm_present (hnodup : (fields.map (·.1)).Nodup)
    (h : ∀ field ∈ fields, given members field.1 = field.2.toList) :
    (members.filter fun m => m.1 ∈ fields.map fun field => some field.1).Perm (present fields) := by
  induction fields with
  | nil => simp [present]
  | cons head fields ih =>
    obtain ⟨hhead, hnodup⟩ := List.nodup_cons.1 hnodup
    have hrest := ih hnodup fun field hfield => h field (List.mem_cons_of_mem _ hfield)
    -- the members under the first key come first, then those under the others
    have hsplit := List.filter_append_perm (fun m : Option String × Tree => m.1 = some head.1)
      (members.filter fun m => m.1 ∈ (head :: fields).map fun field => some field.1)
    rw [List.filter_filter, List.filter_filter] at hsplit
    have hfirst : (members.filter fun m => decide (m.1 = some head.1) &&
        decide (m.1 ∈ (head :: fields).map fun field => some field.1)) =
        head.2.toList.map fun t => (some head.1, t) := by
      rw [← h head List.mem_cons_self, ← filter_eq_map_given]
      refine List.filter_congr fun m _ => ?_
      by_cases hm : m.1 = some head.1 <;> simp [hm]
    have hothers : (members.filter fun m => !decide (m.1 = some head.1) &&
        decide (m.1 ∈ (head :: fields).map fun field => some field.1)) =
        members.filter fun m => m.1 ∈ fields.map fun field => some field.1 := by
      refine List.filter_congr fun m _ => ?_
      by_cases hm : m.1 = some head.1
      · have hnotMem : m.1 ∉ fields.map fun field => some field.1 := fun hmem => by
          obtain ⟨field, hfield, heq⟩ := List.mem_map.1 hmem
          exact hhead (List.mem_map.2 ⟨field, hfield, Option.some.inj (heq.trans hm)⟩)
        simp only [hm] at hnotMem ⊢
        simp [hnotMem]
      · simp [hm]
    rw [hfirst, hothers] at hsplit
    exact hsplit.symm.trans (hrest.append_left _)

end Members

/-! ## Records -/

/-- A tree gives the fields of a record their values. -/
inductive Gives (names : List String) (values : List (Option Tree)) : Tree → Prop
  /-- It has the fields under their keys, in any order, and may have others. -/
  | keyed {members others : List (Option String × Tree)} (hlength : names.length = values.length)
    (hmembers : members.Perm (present (names.zip values) ++ others))
    (hothers : ∀ m ∈ others, ∃ key ∉ names, m.1 = some key) : Gives names values (.object members)
  /-- It has the fields in their order, and may leave out the last ones. -/
  | positional {items : List Tree} {left : Nat} (hlength : items.length + left = names.length)
    (hvalues : values = items.map some ++ List.replicate left none) :
    Gives names values (.array items)

variable {names : List String} {values : List (Option Tree)}

theorem fields?_object {members : List (Option String × Tree)} :
    (object members).fields? names = some values ↔
      (∀ m ∈ members, m.1.isSome) ∧ names.length = values.length ∧
        ∀ field ∈ names.zip values, given members field.1 = field.2.toList := by
  have hmapM : names.mapM (field? members) = some values ↔ names.length = values.length ∧
      ∀ field ∈ names.zip values, given members field.1 = field.2.toList := by
    rw [mapM_eq_some_iff, List.forall₂_iff_zip, Prod.forall]
    simp only [field?_eq_some_iff]
  rw [fields?, ← hmapM, ← List.all_eq_true]
  split
  · next h => simp [h]
  · next h => simp [h]

theorem fields?_array {items : List Tree} :
    (array items).fields? names = some values ↔
      ∃ left, items.length + left = names.length ∧
        values = items.map some ++ List.replicate left none := by
  rw [fields?]
  split
  · next hle =>
    rw [Option.some.injEq]
    constructor
    · rintro rfl
      exact ⟨_, by omega, rfl⟩
    · rintro ⟨left, hlength, rfl⟩
      rw [show names.length - items.length = left by omega]
  · next hgt =>
    constructor
    · rintro ⟨⟩
    · rintro ⟨left, hlength, -⟩
      omega

/-- Where every field is given once at most, the members are those that give the fields their values
and others, which are under keys that name no field. -/
theorem gives_object (hnodup : names.Nodup) {members : List (Option String × Tree)}
    (hkeys : ∀ m ∈ members, m.1.isSome) (hlength : names.length = values.length)
    (hgiven : ∀ field ∈ names.zip values, given members field.1 = field.2.toList) :
    Gives names values (.object members) := by
  have hnames : (names.zip values).map (·.1) = names := List.map_fst_zip hlength.le
  have hpresent := perm_present (by rwa [hnames]) hgiven
  refine .keyed hlength
    ((List.filter_append_perm _ members).symm.trans (hpresent.append_right _)) fun m hm => ?_
  obtain ⟨hmem, hnot⟩ := List.mem_filter.1 hm
  obtain ⟨key, hkey⟩ := Option.isSome_iff_exists.1 (hkeys m hmem)
  refine ⟨key, fun hname => ?_, hkey⟩
  obtain ⟨field, hfield, rfl⟩ := List.mem_map.1 (hnames.symm ▸ hname)
  simp only [hkey, Bool.not_eq_true', decide_eq_false_iff_not] at hnot
  exact hnot (List.mem_map.2 ⟨field, hfield, rfl⟩)

theorem fields?_of_perm (hnodup : names.Nodup) {members others : List (Option String × Tree)}
    (hlength : names.length = values.length)
    (hmembers : members.Perm (present (names.zip values) ++ others))
    (hothers : ∀ m ∈ others, ∃ key ∉ names, m.1 = some key) :
    (object members).fields? names = some values := by
  have hnames : (names.zip values).map (·.1) = names := List.map_fst_zip hlength.le
  refine fields?_object.2 ⟨fun m hm => ?_, hlength,
    fun field hfield => given_eq_of_perm hmembers ?_⟩
  · rcases List.mem_append.1 (hmembers.subset hm) with hm | hm
    · obtain ⟨field, -, hkey⟩ := exists_of_mem_present hm
      exact Option.isSome_iff_exists.2 ⟨_, hkey⟩
    · obtain ⟨key, -, hkey⟩ := hothers m hm
      exact Option.isSome_iff_exists.2 ⟨_, hkey⟩
  · have hnone : given others field.1 = [] := given_eq_nil fun m hm heq => by
      obtain ⟨key, hnot, hkey⟩ := hothers m hm
      have hname : field.1 ∈ names := (List.of_mem_zip hfield).1
      exact hnot (Option.some.inj (hkey.symm.trans heq) ▸ hname)
    rw [given_append, given_present (by rwa [hnames]) field hfield, hnone, List.append_nil]

/-- The readers of records accept the trees that give the fields their values. -/
theorem fields?_eq_some_iff (hnodup : names.Nodup) {t : Tree} :
    t.fields? names = some values ↔ Gives names values t := by
  constructor
  · intro h
    cases t with
    | object members =>
      obtain ⟨hkeys, hlength, hgiven⟩ := fields?_object.1 h
      exact gives_object hnodup hkeys hlength hgiven
    | array items =>
      obtain ⟨left, hlength, hvalues⟩ := fields?_array.1 h
      exact .positional hlength hvalues
    | _ => cases h
  · rintro (⟨hlength, hmembers, hothers⟩ | ⟨hlength, hvalues⟩)
    · exact fields?_of_perm hnodup hlength hmembers hothers
    · exact fields?_array.2 ⟨_, hlength, hvalues⟩

/-! ## What stands in a field -/

theorem natural?_eq_some_iff {t : Tree} {n : Nat} :
    t.natural? = some n ↔ t = .ofNat n ∧ n ≤ maxWord := by
  constructor
  · intro h
    refine ⟨?_, le_of_natural? h⟩
    cases t with
    | number m =>
      obtain ⟨negative, whole, decimals, exponent⟩ := m
      rw [natural?, Numeral.natural?] at h
      split at h
      · next hm =>
        obtain ⟨rfl, rfl, rfl, -⟩ := hm
        cases h
        rfl
      · cases h
    | _ => cases h
  · rintro ⟨rfl, hle⟩
    exact natural?_ofNat hle

theorem text?_eq_some_iff {t : Tree} {s : String} : t.text? = some s ↔ t = .ofString s := by
  cases t <;> simp [text?, ofString]

theorem bool?_eq_some_iff {t : Tree} {b : Bool} : t.bool? = some b ↔ t = .bool b := by
  cases t <;> simp [bool?]

/-- A value that may be absent: it is left out, or null stands for it, or it is spelled. -/
inductive Spelled? {α : Type} (spelled : α → Tree → Prop) : Option α → Option Tree → Prop
  | absent : Spelled? spelled none none
  | null : Spelled? spelled none (some .null)
  | given {a : α} {t : Tree} (h : spelled a t) : Spelled? spelled (some a) (some t)

theorem Spelled?.imp {α : Type} {spelled spelled' : α → Tree → Prop} {o : Option α}
    {v : Option Tree} (h : Spelled? spelled o v) (himp : ∀ a t, spelled a t → spelled' a t) :
    Spelled? spelled' o v := by
  rcases h with _ | _ | h
  · exact .absent
  · exact .null
  · exact .given (himp _ _ h)

theorem exists_spelled?_iff {α : Type} {spelled : α → Tree → Prop} {v : Option Tree} :
    (∃ o, Spelled? spelled o v) ↔ ∀ t ∈ v, t = .null ∨ ∃ a, spelled a t := by
  constructor
  · rintro ⟨o, _ | _ | h⟩ t ⟨⟩
    · exact .inl rfl
    · exact .inr ⟨_, h⟩
  · intro h
    rcases v with _ | t
    · exact ⟨none, .absent⟩
    · rcases h t rfl with rfl | ⟨a, ha⟩
      · exact ⟨none, .null⟩
      · exact ⟨some a, .given ha⟩

theorem optional?_eq_some_iff {α : Type} {read : Tree → Option α} {o : Option α} {v : Option Tree}
    (hnull : read .null = none) :
    (v.getD .null).optional? read = some o ↔ Spelled? (fun a t => read t = some a) o v := by
  constructor
  · intro h
    rcases v with _ | t
    · cases h
      exact .absent
    · rw [Option.getD_some, optional?.eq_def] at h
      split at h
      · cases h
        exact .null
      · obtain ⟨a, ha, rfl⟩ := Option.map_eq_some_iff.1 h
        exact .given ha
  · rintro (_ | _ | h)
    · rfl
    · rfl
    · next a t =>
      rw [Option.getD_some, optional?.eq_def]
      split
      · cases hnull.symm.trans h
      · rw [h]
        rfl

end Json.Tree

/-! ## Positions, locations and options -/

/-- The spellings of a position: its numbers under their keys, or the index, the column and the line
in this order. -/
def Position.Spelled (p : Position) (t : Tree) : Prop :=
  t.Gives ["index", "column", "line"]
    [some (.ofNat p.index), some (.ofNat p.column), some (.ofNat p.line)]

/-- The spellings of a label. -/
def LabelSpelled : Option String → Option Tree → Prop :=
  Tree.Spelled? fun label t => t = .ofString label

/-- The spellings of a location: its label and its ends under their keys, or the label, the start
and the end in this order, and its ends each in a spelling of their own. -/
def Location.Spelled (l : Location) (t : Tree) : Prop :=
  ∃ source start stop, LabelSpelled l.source source ∧ l.start.Spelled start ∧ l.stop.Spelled stop ∧
    t.Gives ["source", "start", "end"] [source, some start, some stop]

/-- The spellings of options: the fields under their keys or in their order. A field that is left
out has its value in the standard options. -/
def LexerOptions.Spelled (o : LexerOptions) (t : Tree) : Prop :=
  ∃ source events, LabelSpelled o.source source ∧
    events.getD (.bool standard.emitEvents) = .bool o.emitEvents ∧
    t.Gives ["source", "emitEvents"] [source, events]

theorem Position.ofTree?_eq_some_iff {t : Tree} {p : Position} :
    ofTree? t = some p ↔ p.Fits ∧ p.Spelled t := by
  rw [Spelled, ← Tree.fields?_eq_some_iff (by decide)]
  constructor
  · intro h
    refine ⟨fits_of_ofTree? h, ?_⟩
    rw [ofTree?] at h
    obtain ⟨fields, hfields, h⟩ := Option.bind_eq_some_iff.1 h
    split at h
    · next index column line =>
      simp only [Option.bind_eq_bind, Option.bind_eq_some_iff, Tree.natural?_eq_some_iff] at h
      obtain ⟨_, ⟨rfl, -⟩, _, ⟨rfl, -⟩, _, ⟨rfl, -⟩, h⟩ := h
      cases h
      exact hfields
    · cases h
  · rintro ⟨hfits, hfields⟩
    exact ofTree?_of_fields hfits hfields

theorem labelSpelled_iff {label : Option String} {source : Option Tree} :
    (source.getD .null).optional? Tree.text? = some label ↔ LabelSpelled label source := by
  rw [LabelSpelled, Tree.optional?_eq_some_iff rfl]
  simp only [Tree.text?_eq_some_iff]

theorem Location.ofTree?_eq_some_iff {t : Tree} {l : Location} :
    ofTree? t = some l ↔ l.Fits ∧ l.Spelled t := by
  constructor
  · intro h
    refine ⟨fits_of_ofTree? h, ?_⟩
    rw [ofTree?] at h
    obtain ⟨fields, hfields, h⟩ := Option.bind_eq_some_iff.1 h
    split at h
    · next source start stop =>
      simp only [Option.bind_eq_bind, Option.bind_eq_some_iff] at h
      obtain ⟨label, hlabel, p, hp, q, hq, h⟩ := h
      cases h
      exact ⟨source, start, stop, labelSpelled_iff.1 hlabel, (Position.ofTree?_eq_some_iff.1 hp).2,
        (Position.ofTree?_eq_some_iff.1 hq).2, (Tree.fields?_eq_some_iff (by decide)).1 hfields⟩
    · cases h
  · rintro ⟨hfits, source, start, stop, hlabel, hstart, hstop, hfields⟩
    rw [ofTree?, (Tree.fields?_eq_some_iff (by decide)).2 hfields]
    simp [labelSpelled_iff.2 hlabel, Position.ofTree?_eq_some_iff.2 ⟨hfits.start_fits, hstart⟩,
      Position.ofTree?_eq_some_iff.2 ⟨hfits.stop_fits, hstop⟩]

/-- A field that is left out is read as if its default were given. -/
theorem LexerOptions.ofTree?_of_fields {t : Tree} {source events : Option Tree}
    (h : t.fields? ["source", "emitEvents"] = some [source, events]) :
    ofTree? t =
      ((source.getD .null).optional? Tree.text?).bind fun label =>
        ((events.getD (.bool standard.emitEvents)).bool?).bind fun emitEvents =>
          some ⟨label, emitEvents⟩ := by
  rw [ofTree?, h]
  rcases source with _ | source
  all_goals rcases events with _ | events
  all_goals rfl

theorem LexerOptions.ofTree?_eq_some_iff {t : Tree} {o : LexerOptions} :
    ofTree? t = some o ↔ o.Spelled t := by
  constructor
  · intro h
    have hsome := h
    rw [ofTree?] at hsome
    obtain ⟨fields, hfields, hsome⟩ := Option.bind_eq_some_iff.1 hsome
    split at hsome
    · next source events =>
      rw [ofTree?_of_fields hfields] at h
      obtain ⟨label, hlabel, h⟩ := Option.bind_eq_some_iff.1 h
      obtain ⟨b, hb, h⟩ := Option.bind_eq_some_iff.1 h
      cases h
      exact ⟨source, events, labelSpelled_iff.1 hlabel, Tree.bool?_eq_some_iff.1 hb,
        (Tree.fields?_eq_some_iff (by decide)).1 hfields⟩
    · cases hsome
  · rintro ⟨source, events, hlabel, hevents, hfields⟩
    rw [ofTree?_of_fields ((Tree.fields?_eq_some_iff (by decide)).2 hfields),
      labelSpelled_iff.2 hlabel, hevents]
    rfl

/-! ## What is left out -/

namespace Json.Tree

/-- The second tree is the first, an object, with one more member under a key that it does not
have. -/
inductive Adds (key : String) (value : Tree) : Tree → Tree → Prop
  | intro {before after : List (Option String × Tree)}
    (h : ∀ m ∈ before ++ after, m.1 ≠ some key) :
    Adds key value (.object (before ++ after)) (.object (before ++ (some key, value) :: after))

variable {key : String} {value t t' : Tree}

theorem field?_insert {before after : List (Option String × Tree)}
    (h : ∀ m ∈ before ++ after, m.1 ≠ some key) (name : String) :
    field? (before ++ (some key, value) :: after) name =
      (field? (before ++ after) name).map fun v => if name = key then some value else v := by
  by_cases hname : name = key
  · subst hname
    have hnone : field? (before ++ after) name = some none :=
      field?_eq_some_iff.2 (given_eq_nil h)
    have hbefore : given before name = [] :=
      given_eq_nil fun m hm => h m (List.mem_append_left _ hm)
    have hafter : given after name = [] :=
      given_eq_nil fun m hm => h m (List.mem_append_right _ hm)
    rw [hnone, Option.map_some, if_pos rfl, field?_eq_some_iff, given_append, hbefore,
      ← List.singleton_append, given_append, hafter]
    simp [given]
  · have hkey : ¬key = name := fun heq => hname heq.symm
    simp only [if_neg hname, Option.map_id', field?, List.filter_append,
      List.filter_cons, Option.some.injEq, hkey, decide_false, Bool.false_eq_true, if_false]

theorem mapM_field?_insert {before after : List (Option String × Tree)}
    (h : ∀ m ∈ before ++ after, m.1 ≠ some key) (names : List String) :
    names.mapM (field? (before ++ (some key, value) :: after)) =
      (names.mapM (field? (before ++ after))).map
        (List.zipWith (fun name v => if name = key then some value else v) names) := by
  induction names with
  | nil => rfl
  | cons name names ih =>
    rw [List.mapM_cons, List.mapM_cons, ih, field?_insert h]
    rcases field? (before ++ after) name with _ | v
    · rfl
    · rcases names.mapM (field? (before ++ after)) with _ | values
      · rfl
      · rfl

/-- The new member is found, and so is what was found before. -/
theorem Adds.fields? (h : Adds key value t t') (names : List String) :
    t'.fields? names = (t.fields? names).map
      (List.zipWith (fun name v => if name = key then some value else v) names) := by
  obtain ⟨h⟩ := h
  next before after =>
  have hall : (before ++ (some key, value) :: after).all (fun m => m.1.isSome) =
      (before ++ after).all fun m => m.1.isSome := by
    simp
  rw [Tree.fields?, Tree.fields?, hall, mapM_field?_insert h]
  split
  · rfl
  · rfl

/-- A field that is not there has no value. -/
theorem Adds.eq_none (h : Adds key value t t') {names : List String} {values : List (Option Tree)}
    (hvalues : t.fields? names = some values) :
    names.length = values.length ∧ ∀ field ∈ names.zip values, field.1 = key → field.2 = none := by
  obtain ⟨h⟩ := h
  obtain ⟨-, hlength, hgiven⟩ := fields?_object.1 hvalues
  refine ⟨hlength, ?_⟩
  rintro ⟨name, v⟩ hfield rfl
  have hv := hgiven _ hfield
  rw [given_eq_nil h] at hv
  exact Option.toList_eq_nil_iff.1 hv.symm

end Json.Tree

/-- An absent label and one that is null are read alike. -/
theorem Location.ofTree?_of_adds {t t' : Tree} (h : Tree.Adds "source" .null t t') :
    ofTree? t' = ofTree? t := by
  rw [ofTree?, ofTree?, h.fields?]
  rcases hvalues : t.fields? ["source", "start", "end"] with _ | values
  · rfl
  · obtain ⟨hlength, hnone⟩ := h.eq_none hvalues
    obtain ⟨source, start, stop, rfl⟩ := List.length_eq_three.1 hlength.symm
    obtain rfl : source = none := hnone _ List.mem_cons_self rfl
    rcases start with _ | start
    · rfl
    · rcases stop with _ | stop
      · rfl
      · rfl

/-- Options that leave out a field are read as if its default were given. -/
theorem LexerOptions.ofTree?_of_adds {t t' : Tree} {key : String} {value : Tree}
    (h : Tree.Adds key value t t') (hdefault : key = "source" ∧ value = .null ∨
      key = "emitEvents" ∧ value = .bool standard.emitEvents) : ofTree? t' = ofTree? t := by
  rcases hvalues : t.fields? ["source", "emitEvents"] with _ | values
  · rw [ofTree?, ofTree?, h.fields?, hvalues]
    rfl
  · obtain ⟨hlength, hnone⟩ := h.eq_none hvalues
    obtain ⟨source, events, rfl⟩ := List.length_eq_two.1 hlength.symm
    have hvalues' := h.fields? ["source", "emitEvents"]
    rw [hvalues, Option.map_some] at hvalues'
    rw [ofTree?_of_fields hvalues, ofTree?_of_fields hvalues']
    rcases hdefault with ⟨rfl, rfl⟩ | ⟨rfl, rfl⟩
    · obtain rfl : source = none := hnone _ List.mem_cons_self rfl
      rfl
    · obtain rfl : events = none := hnone _ (List.mem_cons_of_mem _ List.mem_cons_self) rfl
      rfl

/-! ## Texts -/

theorem Position.ofText?_text {p : Position} (h : p.Fits) : ofText? p.text = some p := by
  rw [ofText?, text, Tree.ofText?_text p.plain_tree]
  exact ofTree?_tree h

theorem Location.ofText?_text {l : Location} (h : l.Fits) : ofText? l.text = some l := by
  rw [ofText?, text, Tree.ofText?_text l.plain_tree]
  exact ofTree?_tree h

theorem LexerOptions.plain_tree (o : LexerOptions) : o.tree.Plain := by
  refine Tree.plain_record fun m hm => ?_
  simp only [List.mem_cons, List.not_mem_nil, or_false] at hm
  rcases hm with rfl | rfl
  · rcases o.source with _ | label
    · exact Tree.plain_null
    · exact Tree.plain_ofString label
  · exact Tree.plain_bool _

theorem LexerOptions.ofTree?_tree (o : LexerOptions) : ofTree? o.tree = some o := by
  rcases o with ⟨_ | label, emitEvents⟩
  · rfl
  · rfl

theorem LexerOptions.ofText?_text (o : LexerOptions) : ofText? o.text = some o := by
  rw [ofText?, text, Tree.ofText?_text o.plain_tree]
  exact ofTree?_tree o

/-- Values with a text of their own and with other spellings: the text of a value that fits is read
back, and the texts that are read as a value are those whose tree is a spelling of it. -/
structure Codec {α : Type} (fits : α → Prop) (spelled : α → Tree → Prop) (text : α → List Char)
    (ofText? : List Char → Option α) : Prop where
  reads_text : ∀ a, fits a → ofText? (text a) = some a
  reads_iff : ∀ s a, ofText? s = some a ↔ ∃ t, Tree.ofText? s = some t ∧ fits a ∧ spelled a t

/-- **Every spelling is read alike.** Positions and locations whose numbers fit in 64 bits, and
options, with any labels: the text of each is read back, and so is every text that has its fields
under their keys, in any order and with other keys between them, or in their order, and its
positions likewise; nothing else is read. A label that is null is read as one that is absent, and
options that leave out a field as if its default were given. -/
theorem spellings_read_alike :
    Codec Position.Fits Position.Spelled Position.text Position.ofText? ∧
      Codec Location.Fits Location.Spelled Location.text Location.ofText? ∧
      Codec (fun _ => True) LexerOptions.Spelled LexerOptions.text LexerOptions.ofText? ∧
      ∀ (s s' : List Char) (t t' : Tree), Tree.ofText? s = some t → Tree.ofText? s' = some t' →
        (Tree.Adds "source" .null t t' → Location.ofText? s' = Location.ofText? s ∧
          LexerOptions.ofText? s' = LexerOptions.ofText? s) ∧
        (Tree.Adds "emitEvents" (.bool LexerOptions.standard.emitEvents) t t' →
          LexerOptions.ofText? s' = LexerOptions.ofText? s) := by
  refine ⟨⟨fun p => Position.ofText?_text, fun s p => ?_⟩,
    ⟨fun l => Location.ofText?_text, fun s l => ?_⟩,
    ⟨fun o _ => o.ofText?_text, fun s o => ?_⟩, fun s s' t t' hs hs' => ⟨fun h => ?_, fun h => ?_⟩⟩
  · simp only [Position.ofText?, Option.bind_eq_bind, Option.bind_eq_some_iff,
      Position.ofTree?_eq_some_iff]
  · simp only [Location.ofText?, Option.bind_eq_bind, Option.bind_eq_some_iff,
      Location.ofTree?_eq_some_iff]
  · simp only [LexerOptions.ofText?, Option.bind_eq_bind, Option.bind_eq_some_iff,
      LexerOptions.ofTree?_eq_some_iff, true_and]
  · simp only [Location.ofText?, LexerOptions.ofText?, hs, hs', Option.bind_eq_bind,
      Option.bind_some]
    exact ⟨Location.ofTree?_of_adds h, LexerOptions.ofTree?_of_adds h (.inl ⟨rfl, rfl⟩)⟩
  · simp only [LexerOptions.ofText?, hs, hs', Option.bind_eq_bind, Option.bind_some]
    exact LexerOptions.ofTree?_of_adds h (.inr ⟨rfl, rfl⟩)

/-- A location with its keys in another order and one of its ends in the order of its numbers, with
escapes in its label and another key before it all. Options that have nothing but a null label are
the standard ones. -/
theorem spellings_read_alike_mixed :
    let l : Location := ⟨some "é\n", ⟨6, 4, 5⟩, ⟨18446744073709551615, 3, 2⟩⟩
    let s := "\x7b\"x\":1e999, \"start\":[6,5,4], \"source\":\"\\u00e9\\n\"," ++
      "\"end\":\x7b\"line\":3,\"column\":2,\"index\":18446744073709551615\x7d\x7d"
    Location.ofText? l.text = some l ∧ Location.ofText? s.toList = some l ∧
      LexerOptions.ofText? "\x7b\"source\":null\x7d".toList = some .standard := by
  intro l s
  obtain ⟨-, ⟨htext, hlocation⟩, ⟨-, hoptions⟩, halike⟩ := spellings_read_alike
  have hfits : l.Fits := ⟨⟨by decide, by decide, by decide⟩, ⟨by decide, by decide, by decide⟩⟩
  let start := Tree.array [.ofNat 6, .ofNat 5, .ofNat 4]
  let stop := Tree.record
    [("line", .ofNat 3), ("column", .ofNat 2), ("index", .ofNat 18446744073709551615)]
  let t := Tree.record [("x", .number ⟨false, 1, none, some 999⟩), ("start", start),
    ("source", .ofString "é\n"), ("end", stop)]
  have hread : Tree.ofText? s.toList = some t := Tree.ofText?_of_lexemes (by decide +kernel)
  have hstart : l.start.Spelled start := .positional (Nat.add_zero 3) rfl
  have hturned : ∀ a b c : Option String × Tree, [c, b, a].Perm ([a, b, c] ++ []) :=
    fun a b c => List.reverse_perm [a, b, c]
  have hstop : l.stop.Spelled stop :=
    .keyed rfl (hturned _ _ _) fun m hm => absurd hm List.not_mem_nil
  have hmoved : ∀ a b c x : Option String × Tree, [x, b, a, c].Perm ([a, b, c] ++ [x]) :=
    fun a b c x => ((List.Perm.swap a b [c]).cons x).trans (List.perm_append_singleton x _).symm
  have hspelled : l.Spelled t := by
    refine ⟨some (.ofString "é\n"), start, stop, .given rfl, hstart, hstop,
      .keyed rfl (hmoved _ _ _ _) fun m hm => ?_⟩
    cases List.mem_singleton.1 hm
    exact ⟨"x", by decide, rfl⟩
  have hbare : Tree.ofText? "\x7b\x7d".toList = some (.object ([] ++ [])) :=
    Tree.ofText?_of_lexemes (by decide +kernel)
  have hnull : Tree.ofText? "\x7b\"source\":null\x7d".toList =
      some (.object ([] ++ [(some "source", .null)])) :=
    Tree.ofText?_of_lexemes (by decide +kernel)
  have hadds : Tree.Adds "source" .null (.object ([] ++ []))
      (.object ([] ++ [(some "source", .null)])) := .intro fun m hm => absurd hm List.not_mem_nil
  have hstandard : LexerOptions.standard.Spelled (.object []) :=
    ⟨none, none, .absent, rfl, .keyed rfl (.refl []) fun m hm => absurd hm List.not_mem_nil⟩
  have halike' := ((halike _ _ _ _ hbare hnull).1 hadds).2
  exact ⟨htext l hfits, (hlocation _ l).2 ⟨_, hread, hfits, hspelled⟩,
    halike'.trans ((hoptions _ _).2 ⟨_, hbare, trivial, hstandard⟩)⟩

end Locus
