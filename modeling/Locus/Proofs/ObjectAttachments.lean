import Locus.Proofs.Attachments

/-!
# Locations on loose objects

Any JSON object can stand for a token. Two of its members are written with each location, and the
name of the first may be that of any member it already has. Main statement: what each location does
to a JSON value, and what is left of the value and of the locations after any number of them.
-/

namespace Locus

open Json

/-! ## Values that spell locations -/

namespace Json.Value

theorem tree_ofNat (n : Nat) : (Value.ofNat n).tree = .ofNat n := by
  have hnumeral : Number.numeral (.integer n) = .ofNat n := by
    rw [Number.numeral, Numeral.ofNat, Int.natAbs_natCast]
    simp
  rw [Value.ofNat, tree, hnumeral]
  rfl

/-- Under each key that an object has stands one field, and it is what the object has there. -/
theorem field?_treeMembers {members : List (String × Value)} (h : Ascending members)
    (name : String) :
    Tree.field? (treeMembers members) name = some ((Keyed.find? name members).map tree) := by
  have hfilter : (treeMembers members).filter (fun m => m.1 = some name) =
      ((Keyed.find? name members).map fun v => (some name, v.tree)).toList := by
    induction members with
    | nil => rfl
    | cons member members ih =>
      obtain ⟨k, v⟩ := member
      obtain ⟨hlt, hmembers⟩ := List.pairwise_cons.1 h
      rw [treeMembers, Keyed.find?]
      by_cases hk : k = name
      · have hnone : Keyed.find? name members = none :=
          Keyed.find?_eq_none fun e he heq => String.lt_irrefl _ (heq ▸ hk ▸ hlt e he)
        rw [List.filter_cons_of_pos (by simp [hk]), if_pos hk, ih hmembers, hnone, hk]
        rfl
      · rw [List.filter_cons_of_neg (by simp [hk]), if_neg hk, ih hmembers]
  rw [Tree.field?, hfilter]
  cases Keyed.find? name members
  · rfl
  · rfl

theorem all_isSome_treeMembers (members : List (String × Value)) :
    (treeMembers members).all fun m => m.1.isSome := by
  induction members with
  | nil => rfl
  | cons member members ih => exact ih

/-- The fields of a record that is a value are found whatever their order is. -/
theorem fields?_record (entries : List (String × Value)) (names : List String) :
    (record entries).tree.fields? names =
      some (names.map fun name => (Keyed.find? name (Keyed.ofList entries)).map tree) := by
  have hfield := field?_treeMembers (Keyed.ascending_ofList entries)
  rw [record, tree, Tree.fields?, if_pos (all_isSome_treeMembers _)]
  induction names with
  | nil => rfl
  | cons name names ih =>
    rw [List.mapM_cons, hfield, ih]
    rfl

end Json.Value

theorem Position.fields?_tree_value (p : Position) :
    p.value.tree.fields? ["index", "column", "line"] =
      some [some (.ofNat p.index), some (.ofNat p.column), some (.ofNat p.line)] := by
  rw [value, Value.fields?_record]
  simp [Keyed.ofList, Keyed.find?_insert, Value.tree_ofNat]

namespace Location

theorem fields?_tree_value (l : Location) :
    l.value.tree.fields? ["source", "start", "end"] =
      some [l.source.map Tree.ofString, some l.start.value.tree, some l.stop.value.tree] := by
  rw [value, Value.fields?_record]
  rcases l with ⟨_ | label, start, stop⟩
  · simp [Keyed.ofList, Keyed.find?_insert]
  · simp [Keyed.ofList, Keyed.find?_insert, Value.tree, Tree.ofString]

/-- The location that a value spells. -/
def ofValue? (v : Value) : Option Location := ofTree? v.tree

end Location

/-- A value spells a location: the location is read from it, and it has a label if the location
has one. -/
structure Json.Value.Spells (v : Value) (l : Location) : Prop where
  reads : Location.ofValue? v = some l
  label : (v.member? "source").isSome = l.source.isSome

theorem Location.spells_value {l : Location} (h : l.Fits) : l.value.Spells l where
  reads := ofTree?_of_fields (fields?_tree_value l)
    (Position.ofTree?_of_fields h.start_fits (Position.fields?_tree_value l.start))
    (Position.ofTree?_of_fields h.stop_fits (Position.fields?_tree_value l.stop))
  label := by
    rcases l with ⟨_ | label, start, stop⟩
    all_goals simp [value, Value.record, Keyed.ofList, Keyed.find?_insert, Value.member?]

/-! ## One location -/

namespace Json.Value

/-- Whether a value is an object. -/
def isObject : Value → Bool
  | .object _ => true
  | _ => false

/-- Whether a location can be attached to a value under a property. -/
def takes (v : Value) (property : String) : Bool := v.isObject && property ≠ rangeKey

variable {v : Value} {property : String} {l : Location}

theorem takes_iff : v.takes property ↔ v.isObject ∧ property ≠ rangeKey := by
  rw [takes, Bool.and_eq_true, decide_eq_true_eq]

theorem takes_of_isObject (h : v.isObject) : v.takes = fun p => decide (p ≠ rangeKey) := by
  funext p
  rw [takes, h, Bool.true_and]

theorem attach?_object (members : List (String × Value)) :
    Locate.attach? property l (Value.object members) =
      if property = rangeKey then none
      else some (.object (Keyed.insert rangeKey (.array [.ofNat l.range.1, .ofNat l.range.2])
        (Keyed.insert property l.value members))) := by
  have hattach : Locate.attach? property l (Value.object members) =
      (Object.attach? property l ⟨members⟩).map fun o => .object o.members := rfl
  rw [hattach, Object.attach?]
  split
  · rfl
  · rfl

theorem isSome_attach? (property : String) (l : Location) (v : Value) :
    (Locate.attach? property l v).isSome = v.takes property := by
  cases v with
  | object members =>
    rw [attach?_object, takes]
    by_cases hproperty : property = rangeKey
    · simp [hproperty]
    · simp [hproperty, isObject]
  | _ => rfl

theorem stamp_of_not_takes (h : ¬ v.takes property) : stamp property l v = v := by
  rw [← isSome_attach? property l v, Option.not_isSome_iff_eq_none] at h
  rw [stamp, h]
  rfl

/-- A location that is taken writes the member under its property, and then the range. -/
theorem stamp_object {members : List (String × Value)} (h : property ≠ rangeKey) :
    stamp property l (Value.object members) =
      .object (Keyed.insert rangeKey (.array [.ofNat l.range.1, .ofNat l.range.2])
        (Keyed.insert property l.value members)) := by
  rw [stamp, attach?_object, if_neg h]
  rfl

/-- No location makes a value an object, or an object another value. -/
theorem isObject_stamp (property : String) (l : Location) (v : Value) :
    (stamp property l v).isObject = v.isObject := by
  by_cases htakes : v.takes property
  · obtain ⟨hobject, hproperty⟩ := takes_iff.1 htakes
    cases v with
    | object members => rw [stamp_object hproperty]; rfl
    | _ => cases hobject
  · rw [stamp_of_not_takes htakes]

theorem takes_stamp (property : String) (l : Location) (v : Value) :
    (stamp property l v).takes = v.takes := by
  funext p
  rw [takes, takes, isObject_stamp]

/-- A location changes the range and the member under its property, and no other. -/
theorem member?_stamp (property : String) (l : Location) (v : Value) (key : String) :
    (stamp property l v).member? key =
      if v.takes property then
        if rangeKey = key then some (.array [.ofNat l.range.1, .ofNat l.range.2])
        else if property = key then some l.value
        else v.member? key
      else v.member? key := by
  by_cases htakes : v.takes property
  · obtain ⟨hobject, hproperty⟩ := takes_iff.1 htakes
    cases v with
    | object members =>
      rw [if_pos htakes, stamp_object hproperty, member?, Keyed.find?_insert, Keyed.find?_insert]
      rfl
    | _ => cases hobject
  · rw [if_neg htakes, stamp_of_not_takes htakes]

/-! ## Any number of locations -/

section

variable (steps : List (String × Location))

theorem isObject_stampEach (v : Value) : (stampEach steps v).isObject = v.isObject :=
  kept_stampEach isObject isObject_stamp steps v

theorem stampEach_of_isObject_eq_false (h : v.isObject = false) : stampEach steps v = v := by
  have hrefused : ∀ step : String × Location, stamp step.1 step.2 v = v := fun step => by
    refine stamp_of_not_takes fun htakes => ?_
    rw [(takes_iff.1 htakes).1] at h
    cases h
  exact List.foldl_fixed' hrefused steps

/-- A member other than the range is as the last location under its key has written it. -/
theorem member?_stampEach {key : String} (hobject : v.isObject) (hkey : key ≠ rangeKey) :
    (stampEach steps v).member? key =
      ((Keyed.lastWhere? (fun p => p = key) steps).map Location.value).or (v.member? key) := by
  have hread : ∀ p l (v : Value), (stamp p l v).member? key =
      if v.takes p && p = key then some l.value else v.member? key := by
    intro p l v
    rw [member?_stamp, if_neg (Ne.symm hkey)]
    cases v.takes p
    · rfl
    · simp
  have hkept : ∀ p l (v : Value), (fun q => (stamp p l v).takes q && decide (q = key)) =
      fun q => v.takes q && decide (q = key) := fun p l v => by rw [takes_stamp]
  have hcounts : (fun p => v.takes p && decide (p = key)) = fun p => decide (p = key) := by
    funext p
    by_cases hp : p = key
    · rw [takes_iff.2 ⟨hobject, hp ▸ hkey⟩, Bool.true_and]
    · rw [decide_eq_false hp, Bool.and_false]
  have hrun :=
    read_stampEach (fun v : Value => v.member? key) Location.value hkept hread steps v
  rwa [hcounts] at hrun

theorem range_stampEach (hobject : v.isObject) :
    (stampEach steps v).member? rangeKey =
      ((Keyed.lastWhere? (fun p => p ≠ rangeKey) steps).map fun l =>
        .array [.ofNat l.range.1, .ofNat l.range.2]).or (v.member? rangeKey) := by
  have hread : ∀ p l (v : Value), (stamp p l v).member? rangeKey =
      if v.takes p then some (.array [.ofNat l.range.1, .ofNat l.range.2])
      else v.member? rangeKey := by
    intro p l v
    rw [member?_stamp, if_pos rfl]
  have hrun :=
    read_stampEach (fun v : Value => v.member? rangeKey) _ takes_stamp hread steps v
  rwa [takes_of_isObject hobject] at hrun

end

/-- **A location takes two members of an object and leaves the others.** A location, with numbers of
64 bits, is refused, and the value stays exactly as it is, if and only if the value is no object or
the property is the key of the range. Otherwise the value stays an object: its member under the
property spells the location, its range holds the indices of both ends, and all other members stay.
After any number of locations each property spells the one that was attached last under it, the
range is that of the last one that was taken, and the members under which none was attached are
still those of the value. -/
theorem stampEach_members (v : Value) :
    (∀ property l, l.Fits →
      (Locate.attach? property l v = none ∧ stamp property l v = v ↔
        v.isObject = false ∨ property = rangeKey) ∧
      (v.isObject → property ≠ rangeKey →
        let w := stamp property l v
        Locate.attach? property l v = some w ∧ w.isObject ∧
          (∃ u, w.member? property = some u ∧ u.Spells l) ∧
          w.member? rangeKey = some (.array [.ofNat l.start.index, .ofNat l.stop.index]) ∧
          ∀ key, key ≠ property → key ≠ rangeKey → w.member? key = v.member? key)) ∧
    ∀ steps : List (String × Location), (∀ step ∈ steps, step.2.Fits) →
      let w := stampEach steps v
      answers steps v = steps.map (fun step => v.isObject && step.1 ≠ rangeKey) ∧
        (v.isObject = false → w = v) ∧
        (v.isObject → w.isObject ∧
          (∀ key, key ≠ rangeKey →
            match Keyed.lastWhere? (fun p => p = key) steps with
            | some l => ∃ u, w.member? key = some u ∧ u.Spells l
            | none => w.member? key = v.member? key) ∧
          match Keyed.lastWhere? (fun p => p ≠ rangeKey) steps with
          | some l => w.member? rangeKey = some (.array [.ofNat l.start.index, .ofNat l.stop.index])
          | none => w.member? rangeKey = v.member? rangeKey) := by
  refine ⟨fun property l hl => ⟨?_, fun hobject hproperty => ?_⟩, fun steps hsteps => ?_⟩
  · have hrefused : v.isObject = false ∨ property = rangeKey ↔ ¬ v.takes property := by
      rw [takes_iff, not_and_or, not_ne_iff, Bool.not_eq_true]
    rw [hrefused, ← isSome_attach? property l v, Option.not_isSome_iff_eq_none]
    exact ⟨And.left, fun h => ⟨h, by rw [stamp, h]; rfl⟩⟩
  · intro w
    have htakes : v.takes property := takes_iff.2 ⟨hobject, hproperty⟩
    have hmember : ∀ key, w.member? key = _ := member?_stamp property l v
    refine ⟨attach?_eq_some_stamp ((isSome_attach? property l v).trans htakes),
      (isObject_stamp property l v).trans hobject, ⟨l.value, ?_, Location.spells_value hl⟩, ?_,
      fun key hne hrange => ?_⟩
    · rw [hmember, if_pos htakes, if_neg (Ne.symm hproperty), if_pos rfl]
    · rw [hmember, if_pos htakes, if_pos rfl]
      rfl
    · rw [hmember, if_pos htakes, if_neg (Ne.symm hrange), if_neg (Ne.symm hne)]
  · intro w
    refine ⟨answers_eq takes_stamp isSome_attach? steps v, stampEach_of_isObject_eq_false steps,
      fun hobject => ⟨(isObject_stampEach steps v).trans hobject, fun key hkey => ?_, ?_⟩⟩
    · have hmember : w.member? key = _ := member?_stampEach steps hobject hkey
      rcases hlast : Keyed.lastWhere? (fun p => decide (p = key)) steps with _ | l
      · rw [hlast] at hmember
        exact hmember
      · rw [hlast] at hmember
        obtain ⟨step, hstep, rfl⟩ := Keyed.exists_mem_of_lastWhere? hlast
        exact ⟨_, hmember, Location.spells_value (hsteps step hstep)⟩
    · have hmember : w.member? rangeKey = _ := range_stampEach steps hobject
      rcases hlast : Keyed.lastWhere? (fun p => decide (p ≠ rangeKey)) steps with _ | l
      · rw [hlast] at hmember
        exact hmember
      · rw [hlast] at hmember
        exact hmember

/-- An object that already has members under a property and under the key of the range, and one
under which nothing is attached. Two of the five locations are refused, and one is replaced. -/
theorem stampEach_members_of_object :
    let l : Location := ⟨some "a", ⟨0, 1, 0⟩, ⟨18446744073709551615, 2, 0⟩⟩
    let m : Location := ⟨none, ⟨3, 1, 3⟩, ⟨2, 1, 2⟩⟩
    let v : Value := .object [("kind", .bool true), ("range", .null), ("type", .string "t")]
    let steps := [("type", l), ("loc", l), ("range", l), ("type", m), ("range", l)]
    let w := stampEach steps v
    (∀ step ∈ steps, step.2.Fits) ∧
      answers steps v = [true, true, false, true, false] ∧
      (∃ u, w.member? "type" = some u ∧ u.Spells m) ∧
      (∃ u, w.member? "loc" = some u ∧ u.Spells l) ∧
      w.member? "kind" = some (.bool true) ∧
      w.member? "range" = some (.array [.ofNat 3, .ofNat 2]) ∧
      (∃ u, (stamp "kind" l v).member? "kind" = some u ∧ u.Spells l) := by
  intro l m v steps w
  have hl : l.Fits := ⟨⟨by decide, by decide, by decide⟩, ⟨by decide, by decide, by decide⟩⟩
  have hm : m.Fits := ⟨⟨by decide, by decide, by decide⟩, ⟨by decide, by decide, by decide⟩⟩
  have hsteps : ∀ step ∈ steps, step.2.Fits := by
    intro step hstep
    simp only [steps, List.mem_cons, List.not_mem_nil, or_false] at hstep
    rcases hstep with rfl | rfl | rfl | rfl | rfl
    all_goals assumption
  obtain ⟨hone, hmany⟩ := stampEach_members v
  obtain ⟨hanswers, -, hobject⟩ := hmany steps hsteps
  obtain ⟨-, hmember, hrange⟩ := hobject rfl
  obtain ⟨-, -, hkind, -⟩ := (hone "kind" l hl).2 rfl (by decide)
  exact ⟨hsteps, hanswers, hmember "type" (by decide), hmember "loc" (by decide),
    hmember "kind" (by decide), hrange, hkind⟩

end Json.Value

end Locus
