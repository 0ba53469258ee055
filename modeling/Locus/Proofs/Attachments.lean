import Locus.Proofs.TokenValue

/-!
# Histories of attached locations

Locations are attached to a token one after another, under names of any kind, and some of them are
refused. The reference here is the plain list of these steps: what is read of the token is what the
last step that counts for it has written. Main statement: so it is with all that is read of a token
that begins without locations. It follows which steps of a history could be left out or exchanged.
-/

namespace Locus

/-! ## The last step that counts -/

namespace Keyed

variable {α : Type} {counts accepts : String → Bool} {a b c : List (String × α)}
  {x y : String × α}

/-- A refused step never counts. -/
theorem lastWhere?_filter :
    lastWhere? counts (a.filter fun step => accepts step.1) =
      lastWhere? (fun property => counts property && accepts property) a := by
  rw [lastWhere?, List.filter_filter]
  rfl

/-- A step counts no more once there is another one under its property. -/
theorem lastWhere?_superseded (property : String) (l l' : α) :
    lastWhere? counts (a ++ (property, l) :: (b ++ (property, l') :: c)) =
      lastWhere? counts (a ++ (b ++ (property, l') :: c)) := by
  have hlater : (lastWhere? counts (b ++ (property, l') :: c)).or
      (if counts property then some l else none) =
        lastWhere? counts (b ++ (property, l') :: c) := by
    by_cases hcounts : counts property
    · rw [lastWhere?_append, lastWhere?_cons, if_pos hcounts, if_pos hcounts]
      cases lastWhere? counts c
      · rfl
      · rfl
    · rw [if_neg hcounts, Option.or_none]
  rw [lastWhere?_append, lastWhere?_cons, hlater, ← lastWhere?_append]

/-- Steps that never count both can be exchanged. -/
theorem lastWhere?_swap (h : counts x.1 → ¬ counts y.1) :
    lastWhere? counts (a ++ x :: y :: c) = lastWhere? counts (a ++ y :: x :: c) := by
  rw [lastWhere?_append, lastWhere?_append]
  congr 1
  rw [lastWhere?_cons, lastWhere?_cons, lastWhere?_cons, lastWhere?_cons, Option.or_assoc,
    Option.or_assoc]
  congr 1
  by_cases hx : counts x.1
  · rw [if_pos hx, if_neg (h hx)]
    rfl
  · rw [if_neg hx, Option.none_or, Option.or_none]

end Keyed

/-! ## Attaching in a row -/

section

variable {τ : Type} [Locate τ]

theorem attach?_eq_some_stamp {property : String} {l : Location} {t : τ}
    (h : (Locate.attach? property l t).isSome) :
    Locate.attach? property l t = some (stamp property l t) := by
  obtain ⟨t', ht⟩ := Option.isSome_iff_exists.1 h
  rw [stamp, ht]
  rfl

/-- The token after locations have been attached under properties, in order, where it has a place
for them. -/
def stampEach (steps : List (String × Location)) (t : τ) : τ :=
  steps.foldl (fun t step => stamp step.1 step.2 t) t

/-- Which of the locations are taken when they are attached in order. -/
def answers : List (String × Location) → τ → List Bool
  | [], _ => []
  | (property, l) :: steps, t =>
    (Locate.attach? property l t).isSome :: answers steps (stamp property l t)

/-- What no location changes stays as it is in a run. -/
theorem kept_stampEach {α : Type} (read : τ → α)
    (hkept : ∀ property l t, read (stamp property l t) = read t)
    (steps : List (String × Location)) (t : τ) : read (stampEach steps t) = read t := by
  induction steps generalizing t with
  | nil => rfl
  | cons step steps ih => exact (ih _).trans (hkept step.1 step.2 t)

variable {accepts : τ → String → Bool}

/-- The answers are told by the properties if no location changes what a token accepts. -/
theorem answers_eq (hkept : ∀ property l t, accepts (stamp property l t) = accepts t)
    (haccepts : ∀ property l t, (Locate.attach? property l t).isSome = accepts t property)
    (steps : List (String × Location)) (t : τ) :
    answers steps t = steps.map fun step => accepts t step.1 := by
  induction steps generalizing t with
  | nil => rfl
  | cons step steps ih => rw [answers, ih, hkept, haccepts, List.map_cons]

/-- A part of a token that each location changes if its property counts, and leaves otherwise, is
after a run as the last of those that count has left it. The induction is on the run, from its
first step on, with the token it begins with. -/
theorem read_stampEach {α : Type} (read : τ → Option α) (value : Location → α)
    {counts : τ → String → Bool}
    (hkept : ∀ property l t, counts (stamp property l t) = counts t)
    (hread : ∀ property l t,
      read (stamp property l t) = if counts t property then some (value l) else read t)
    (steps : List (String × Location)) (t : τ) :
    read (stampEach steps t) = ((Keyed.lastWhere? (counts t) steps).map value).or (read t) := by
  induction steps generalizing t with
  | nil => rfl
  | cons step steps ih =>
    have hrest : stampEach (step :: steps) t = stampEach steps (stamp step.1 step.2 t) := rfl
    rw [hrest, ih, hkept, hread, Keyed.lastWhere?_cons, Option.map_or, Option.or_assoc]
    congr 1
    by_cases hcounts : counts t step.1
    · rw [if_pos hcounts, if_pos hcounts]
      rfl
    · rw [if_neg hcounts, if_neg hcounts]
      rfl

end

/-! ## What is read of a token -/

/-- Maps that hold the same under every key are equal. -/
theorem KeyMap.ext_find? {α : Type} {m n : KeyMap α} (h : ∀ key, m.find? key = n.find? key) :
    m = n :=
  ext_entries (Keyed.ext_find? m.ascending n.ascending h)

namespace Token

/-- Whether a location can be attached under a property. -/
def takes (property : String) : Bool := property ∉ ownKeys

theorem takes_iff {property : String} : takes property ↔ property ∉ ownKeys := decide_eq_true_iff

theorem isSome_attach? (property : String) (l : Location) (t : Token) :
    (Locate.attach? property l t).isSome = takes property := by
  have hattach : Locate.attach? property l t = attach? property l t := rfl
  by_cases hproperty : property ∈ ownKeys
  · have htakes : takes property = false := decide_eq_false fun h => h hproperty
    rw [htakes, hattach, attach?, if_pos hproperty]
    rfl
  · rw [attach?_of_notMem_ownKeys hproperty, takes_iff.2 hproperty]
    rfl

theorem stamp_of_not_takes {property : String} (h : ¬ takes property) (l : Location) (t : Token) :
    stamp property l t = t := by
  rw [stamp_eq, if_pos (Classical.not_not.1 (mt takes_iff.2 h))]

variable (steps : List (String × Location)) (t : Token)

theorem kind_stampEach : (stampEach steps t).kind = t.kind :=
  kept_stampEach Token.kind (fun _ _ _ => kind_stamp) steps t

theorem value_stampEach : (stampEach steps t).value = t.value :=
  kept_stampEach Token.value (fun _ _ _ => value_stamp) steps t

theorem location?_stampEach (property : String) :
    (stampEach steps t).location? property =
      (Keyed.lastWhere? (fun p => p = property && takes p) steps).or (t.location? property) := by
  have hread : ∀ p l (t : Token), (stamp p l t).location? property =
      if p = property && takes p then some l else t.location? property := by
    intro p l t
    by_cases htakes : takes p
    · rw [location?_stamp (takes_iff.1 htakes), htakes]
      simp
    · rw [stamp_of_not_takes htakes, if_neg (by simp [htakes])]
  have hrun := read_stampEach (fun t => t.location? property) id (fun _ _ _ => rfl) hread steps t
  rwa [Option.map_id] at hrun

theorem range_stampEach :
    (stampEach steps t).range = ((Keyed.lastWhere? takes steps).map Location.range).or t.range := by
  have hread : ∀ p l (t : Token),
      (stamp p l t).range = if takes p then some l.range else t.range := by
    intro p l t
    by_cases htakes : takes p
    · rw [range_stamp (takes_iff.1 htakes), if_pos htakes]
    · rw [stamp_of_not_takes htakes, if_neg htakes]
  exact read_stampEach Token.range Location.range (fun _ _ _ => rfl) hread steps t

/-- No location is put among those under other names if its name is that of the default property. -/
theorem extra_default_stampEach :
    (stampEach steps t).extra.find? defaultProperty = t.extra.find? defaultProperty := by
  have hkept : ∀ property l (t : Token), (stamp property l t).extra.find? defaultProperty =
      t.extra.find? defaultProperty := by
    intro property l t
    rw [stamp_eq]
    split
    · rfl
    · split
      · rfl
      · next hne => rw [KeyMap.find?_insert, if_neg hne]
  exact kept_stampEach (fun t : Token => t.extra.find? defaultProperty) hkept steps t

variable {steps t}

/-- A token apart from its range. -/
def unranged (t : Token) : Token := { t with range := none }

theorem eq_of_unranged {s t : Token} (h : s.unranged = t.unranged) (hrange : s.range = t.range) :
    s = t := by
  cases s
  cases t
  simp_all [unranged]

/-- Two runs end in the same token, but for its range, if under every name the locations that they
attach last agree. -/
theorem unranged_stampEach {steps' : List (String × Location)}
    (h : ∀ property, Keyed.lastWhere? (fun p => p = property && takes p) steps =
      Keyed.lastWhere? (fun p => p = property && takes p) steps') :
    (stampEach steps t).unranged = (stampEach steps' t).unranged := by
  have hlocation : ∀ property,
      (stampEach steps t).location? property = (stampEach steps' t).location? property := by
    intro property
    rw [location?_stampEach, location?_stampEach, h]
  have hextra : (stampEach steps t).extra = (stampEach steps' t).extra := by
    refine KeyMap.ext_find? fun key => ?_
    by_cases hkey : key = defaultProperty
    · rw [hkey, extra_default_stampEach, extra_default_stampEach]
    · have hboth := hlocation key
      rwa [location?, location?, if_neg hkey, if_neg hkey] at hboth
  have hloc : (stampEach steps t).loc = (stampEach steps' t).loc := hlocation defaultProperty
  rw [unranged, unranged, kind_stampEach, kind_stampEach, value_stampEach, value_stampEach, hloc,
    hextra]

/-! ## The laws of attaching -/

/-- **A token shows the last location of every name.** Locations are attached to a token that has
none, in any number and under names of any kind. Those under the token's own keys are refused, and
all others are taken; the kind and the text stay. Under each name is found the location that was
taken last under it, and none if there was none; the range is that of the location that was taken
last under any name. So a location does away with everything that an earlier one under its name has
done, and of two neighbouring ones under different names only the range tells which came last. -/
theorem stampEach_ofKind (kind value : String) :
    let start := ofKind kind value
    (∀ steps : List (String × Location),
      let t := stampEach steps start
      let taken := steps.filter fun step => step.1 ∉ ownKeys
      answers steps start = steps.map (fun step => decide (step.1 ∉ ownKeys)) ∧
        t.kind = kind ∧ t.value = value ∧
        (∀ property, t.location? property = Keyed.lastWhere? (fun p => p = property) taken) ∧
        t.range = taken.getLast?.map fun step => step.2.range) ∧
      (∀ before between after property l l',
        stampEach (before ++ (property, l) :: (between ++ (property, l') :: after)) start =
          stampEach (before ++ (between ++ (property, l') :: after)) start) ∧
      ∀ before after property l property' l', property ≠ property' →
        (stampEach (before ++ (property, l) :: (property', l') :: after) start).unranged =
          (stampEach (before ++ (property', l') :: (property, l) :: after) start).unranged := by
  intro start
  refine ⟨fun steps => ?_, fun before between after property l l' => ?_,
    fun before after property l property' l' hne => ?_⟩
  · refine ⟨answers_eq (fun _ _ _ => rfl) isSome_attach? steps _, kind_stampEach _ _,
      value_stampEach _ _, fun property => ?_, ?_⟩
    · have hnone : start.location? property = none := by
        rw [location?]
        split
        · rfl
        · rfl
      rw [location?_stampEach, hnone, Option.or_none]
      exact Keyed.lastWhere?_filter.symm
    · have hnone : start.range = none := rfl
      rw [range_stampEach, hnone, Option.or_none]
      exact Option.map_map ..
  · refine eq_of_unranged (unranged_stampEach fun q => Keyed.lastWhere?_superseded property l l') ?_
    rw [range_stampEach, range_stampEach, Keyed.lastWhere?_superseded]
  · refine unranged_stampEach fun q => Keyed.lastWhere?_swap fun hq hq' => hne ?_
    obtain ⟨hq, -⟩ := Bool.and_eq_true_iff.1 hq
    obtain ⟨hq', -⟩ := Bool.and_eq_true_iff.1 hq'
    exact (of_decide_eq_true hq).trans (of_decide_eq_true hq').symm

/-- Two names are used twice, with locations between them that are refused. When the last two that
are taken change places, only the range shows it. -/
theorem stampEach_ofKind_with_refusals :
    let l : Location := ⟨some "é", ⟨3, 1, 3⟩, ⟨0, 1, 0⟩⟩
    let m : Location := ⟨none, ⟨5, 2, 1⟩, ⟨6, 2, 2⟩⟩
    let start := ofKind "text" "foo"
    let steps := [("loc", l), ("range", m), ("x", m), ("type", l), ("loc", m), ("x", l)]
    let exchanged := [("loc", l), ("range", m), ("x", m), ("type", l), ("x", l), ("loc", m)]
    let t := stampEach steps start
    answers steps start = [true, false, true, false, true, true] ∧
      t.location? "loc" = some m ∧ t.location? "x" = some l ∧ t.location? "type" = none ∧
      t.range = some (3, 0) ∧ (stampEach exchanged start).range = some (5, 6) ∧
      t = stampEach (steps.drop 1) start ∧
      t.unranged = (stampEach exchanged start).unranged := by
  intro l m start steps exchanged t
  obtain ⟨hreads, hsuperseded, hexchanged⟩ := stampEach_ofKind "text" "foo"
  obtain ⟨hanswers, -, -, hlocation, hrange⟩ := hreads steps
  obtain ⟨-, -, -, -, hrange'⟩ := hreads exchanged
  exact ⟨hanswers, hlocation "loc", hlocation "x", hlocation "type", hrange, hrange',
    hsuperseded [] [("range", m), ("x", m), ("type", l)] [("x", l)] "loc" l m,
    hexchanged [("loc", l), ("range", m), ("x", m), ("type", l)] [] "loc" m "x" l (by decide)⟩

end Token

end Locus
