import Mathlib.Data.List.Forall2
import Locus.Proofs.Preference
import Locus.Regex.Simplify

/-!
# What simplification keeps

Every step of simplification keeps the order of preference, with one exception: what alternatives
have in common may be taken out of them only if it can match in just one way. Main statements: if
that is so throughout an expression, simplification keeps its preference; and whether an expression
is simplified alone or inside an anchored group, the same is found at the start of a text.
-/

namespace Locus

/-- If a property of some character were true, it would be found. -/
theorem CharSet.eq_false_of_first?_eq_none {p : Char → Bool} (h : first? p = none) (c : Char) :
    p c = false := by
  have hlast (n : Nat) : firstOfLast? p n = none →
      ∀ m < n, p (Char.ofNat (0x110000 - (m + 1))) = false := by
    induction n with
    | zero => exact fun _ m hm => absurd hm (Nat.not_lt_zero m)
    | succ n ih =>
      intro hn m hm
      rw [firstOfLast?] at hn
      split at hn
      · cases hn
      · next hp =>
        rcases Nat.lt_succ_iff_lt_or_eq.1 hm with hm | rfl
        · exact ih hn m hm
        · exact Bool.eq_false_iff.2 hp
  have hvalid : c.toNat < 0x110000 := by
    rcases c.valid with h | h
    · exact Nat.lt_trans h (by decide)
    · exact h.2
  have hc := hlast 0x110000 h (0x110000 - (c.toNat + 1)) (by omega)
  have hcode : 0x110000 - (0x110000 - (c.toNat + 1) + 1) = c.toNat := by omega
  rwa [hcode, Char.ofNat_toNat] at hc

namespace Regex

/-! ## Rows and alternatives -/

theorem andThen_empty (r : Regex) : r.andThen .empty = r := by
  cases r with
  | empty => rfl
  | _ => rfl

theorem row_append (as bs : List Regex) : SameOrder (row (as ++ bs)) (.seq (row as) (row bs)) := by
  induction as with
  | nil => exact (SameOrder.empty_seq (row bs)).symm
  | cons a as ih =>
    have hleft : SameOrder (row (a :: as ++ bs)) (.seq a (.seq (row as) (row bs))) :=
      (SameOrder.andThen a _).trans (.seq (.refl a) ih)
    have hright : SameOrder (.seq (row (a :: as)) (row bs)) (.seq (.seq a (row as)) (row bs)) :=
      .seq (.andThen a _) (.refl _)
    exact hleft.trans ((SameOrder.seq_assoc a (row as) (row bs)).symm.trans hright.symm)

/-- An expression is the row of its parts. -/
theorem row_parts (r : Regex) : SameOrder (row r.parts) r := by
  induction r with
  | empty => exact .refl _
  | seq a b _ ihb => exact (SameOrder.andThen a _).trans (.seq (.refl a) ihb)
  | _ => exact .refl _

theorem alternatives_ne_nil (r : Regex) : r.alternatives ≠ [] := by
  cases r with
  | alt a b => exact List.cons_ne_nil _ _
  | _ => exact List.cons_ne_nil _ _

theorem choice_cons (r : Regex) {rs : List Regex} (h : rs ≠ []) :
    choice (r :: rs) = .alt r (choice rs) := by
  rw [choice]
  exact h

/-- An expression is the choice between its alternatives. -/
theorem choice_alternatives (r : Regex) : choice r.alternatives = r := by
  induction r with
  | alt a b _ ihb => rw [alternatives, choice_cons a b.alternatives_ne_nil, ihb]
  | _ => rfl

theorem choice_append {rs ss : List Regex} (hr : rs ≠ []) (hs : ss ≠ []) :
    SameOrder (choice (rs ++ ss)) (.alt (choice rs) (choice ss)) := by
  induction rs with
  | nil => exact absurd rfl hr
  | cons r rs ih =>
    by_cases hrs : rs = []
    · rw [hrs, List.singleton_append, choice_cons r hs]
      exact .refl _
    · rw [List.cons_append, choice_cons r (List.append_ne_nil_of_left_ne_nil hrs ss),
        choice_cons r hrs]
      exact (SameOrder.alt (.refl r) (ih hrs)).trans (SameOrder.alt_assoc r _ _).symm

theorem choice_congr {rs ss : List Regex} (h : List.Forall₂ SameOrder rs ss) :
    SameOrder (choice rs) (choice ss) := by
  induction h with
  | nil => exact .refl _
  | @cons r s rs ss hfirst hrest ih =>
    cases hrest with
    | nil => exact hfirst
    | cons => exact hfirst.alt ih

theorem flatMap_alternatives_ne_nil {rs : List Regex} (h : rs ≠ []) :
    rs.flatMap alternatives ≠ [] := by
  obtain ⟨r, hr⟩ := List.exists_mem_of_ne_nil rs h
  exact fun hnil => r.alternatives_ne_nil (List.flatMap_eq_nil_iff.1 hnil r hr)

/-- Alternatives may be replaced by their own alternatives. -/
theorem choice_flatMap_alternatives {rs : List Regex} (h : rs ≠ []) :
    SameOrder (choice (rs.flatMap alternatives)) (choice rs) := by
  induction rs with
  | nil => exact absurd rfl h
  | cons r rs ih =>
    rw [List.flatMap_cons]
    by_cases hrs : rs = []
    · rw [hrs, List.flatMap_nil, List.append_nil, choice_alternatives]
      exact .refl _
    · rw [choice_cons r hrs]
      refine (choice_append r.alternatives_ne_nil (flatMap_alternatives_ne_nil hrs)).trans ?_
      rw [choice_alternatives]
      exact .alt (.refl r) (ih hrs)

/-- What all alternatives begin with may be taken out of them if it can match in only one way. -/
theorem choice_seq {a : Regex} (h : a.oneWay = true) {rs : List Regex} (hrs : rs ≠ []) :
    SameOrder (choice (rs.map (.seq a))) (.seq a (choice rs)) := by
  induction rs with
  | nil => exact absurd rfl hrs
  | cons r rs ih =>
    by_cases hnil : rs = []
    · rw [hnil]
      exact .refl _
    · rw [List.map_cons, choice_cons _ (by simpa using hnil), choice_cons r hnil]
      exact (SameOrder.alt (.refl _) (ih hnil)).trans (.factor h r _)

/-! ## Sets -/

theorem choice_map_set {sets : List CharSet} (h : sets ≠ []) :
    SameOrder (choice (sets.map .set)) (.set (.unions sets)) := by
  induction sets with
  | nil => exact absurd rfl h
  | cons s sets ih =>
    rcases sets with _ | ⟨s', sets⟩
    · exact .refl _
    · exact (SameOrder.alt (.refl _) (ih (List.cons_ne_nil _ _))).trans (.alt_set s _)

theorem map_set_of_mapM {rs : List Regex} {sets : List CharSet} (h : rs.mapM set? = some sets) :
    sets.map .set = rs := by
  induction rs generalizing sets with
  | nil =>
    cases h
    rfl
  | cons r rs ih =>
    rw [List.mapM_cons] at h
    obtain ⟨s, hs, h⟩ := Option.bind_eq_some_iff.1 h
    obtain ⟨rest, hrest, h⟩ := Option.bind_eq_some_iff.1 h
    cases h
    cases r with
    | set =>
      cases hs
      rw [List.map_cons, ih hrest]
    | _ => cases hs

/-- Alternatives may be joined to one set. -/
theorem join_sameOrder {rs : List Regex} (h : rs ≠ []) : SameOrder (join rs) (choice rs) := by
  rw [join]
  split
  · next s hjoin =>
    obtain ⟨sets, hsets, hs⟩ := Option.bind_eq_some_iff.1 hjoin
    obtain rfl := map_set_of_mapM hsets
    have hjoined := choice_map_set (List.map_eq_nil_iff.not.1 h)
    split at hs
    · cases hs
      exact hjoined.symm
    · split at hs
      · cases hs
        have hbytes : SameOrder (.set (.bytes (.unions sets))) (.set (.unions sets)) :=
          .set fun _ => rfl
        exact hbytes.trans hjoined.symm
      · cases hs
  · exact .refl _

/-! ## The same parts -/

theorem contains_eq_of_same {s s' : CharSet} (h : s.same s' = true) (c : Char) :
    s.contains c = s'.contains c := by
  rw [CharSet.same, Bool.or_eq_true, Bool.and_eq_true, Option.isNone_iff_eq_none] at h
  rcases h with h | ⟨h, -⟩
  · rw [of_decide_eq_true h]
  · exact bne_eq_false_iff_eq.1 (CharSet.eq_false_of_first?_eq_none h c)

/-- What is the same and can match in only one way may be exchanged. -/
theorem sameOrder_of_same {r r' : Regex} (h : r.same r' = true) (hone : r.oneWay = true) :
    SameOrder r r' := by
  fun_induction same r r' with
  | case1 => exact .refl _
  | case2 l l' =>
    rw [of_decide_eq_true h]
    exact .refl _
  | case3 s s' => exact .set (contains_eq_of_same h)
  | case4 a b a' b' iha ihb =>
    rw [Bool.and_eq_true] at h
    rw [oneWay, Bool.and_eq_true] at hone
    exact (iha h.1 hone.1).seq (ihb h.2 hone.2)
  | case5 => cases hone
  | case6 greedy n more body greedy' n' more' body' ih =>
    simp only [Bool.and_eq_true, decide_eq_true_eq] at h
    rw [oneWay, Bool.and_eq_true, decide_eq_true_eq] at hone
    obtain ⟨⟨⟨rfl, rfl⟩, rfl⟩, h⟩ := h
    obtain ⟨rfl, hone⟩ := hone
    exact (ih h hone).loop_some greedy n 0
  | case7 => cases h

theorem row_congr {as bs : List Regex} (h : List.Forall₂ SameOrder as bs) :
    SameOrder (row as) (row bs) := by
  induction h with
  | nil => exact .refl _
  | cons hfirst _ ih =>
    exact (SameOrder.andThen _ _).trans ((hfirst.seq ih).trans (SameOrder.andThen _ _).symm)

theorem oneWay_row {rs : List Regex} (h : rs.all oneWay = true) : (row rs).oneWay = true := by
  induction rs with
  | nil => rfl
  | cons r rs ih =>
    rw [List.all_cons, Bool.and_eq_true] at h
    have hrow : row (r :: rs) = r.andThen (row rs) := rfl
    rw [hrow, andThen.eq_def]
    split
    · exact ih h.2
    · exact h.1
    · rw [oneWay, h.1, ih h.2]
      rfl

/-! ## Common parts -/

theorem flatten_chunks (rs : List Regex) : (chunks rs).flatten = rs := by
  fun_induction chunks rs with
  | case1 => rfl
  | case2 r rs s run rest hchunks hliteral ih =>
    rw [hchunks] at ih
    rw [← ih]
    rfl
  | case3 r rs s run rest hchunks hliteral ih =>
    rw [hchunks] at ih
    rw [← ih]
    rfl
  | case4 r rs hnot ih =>
    rw [List.flatten_cons, ih]
    rfl

theorem take_flatten {rs : List Regex} {common : List (List Regex)} (h : common <+: chunks rs) :
    rs.take common.flatten.length = common.flatten := by
  obtain ⟨left, hleft⟩ := h
  have hrs := congrArg List.flatten hleft
  rw [flatten_chunks, List.flatten_append] at hrs
  rw [← hrs, List.take_left]

/-- The second list begins with the same parts as are in the first. -/
def Begins (common row : List (List Regex)) : Prop :=
  ∃ head, head <+: row ∧ List.Forall₂ (List.Forall₂ fun a b => a.same b = true) common head

theorem Begins.mono {common common' row : List (List Regex)} (h : Begins common row)
    (hstart : common' <+: common) : Begins common' row := by
  obtain ⟨head, hhead, hsame⟩ := h
  have htaken : head.take common'.length <+: head := List.take_prefix _ _
  refine ⟨head.take common'.length, htaken.trans hhead, ?_⟩
  have htake := List.forall₂_take common'.length hsame
  rwa [← List.prefix_iff_eq_take.1 hstart] at htake

theorem forall₂_of_isEqv {as bs : List Regex} (h : as.isEqv bs same = true) :
    List.Forall₂ (fun a b => a.same b = true) as bs := by
  induction as generalizing bs with
  | nil =>
    cases bs with
    | nil => exact .nil
    | cons => cases h
  | cons a as ih =>
    cases bs with
    | nil => cases h
    | cons b bs =>
      rw [List.isEqv, Bool.and_eq_true] at h
      exact .cons h.1 (ih h.2)

theorem begins_commonBeginning (as bs : List (List Regex)) :
    commonBeginning as bs <+: as ∧ Begins (commonBeginning as bs) bs := by
  fun_induction commonBeginning as bs with
  | case1 a as b bs hsame ih =>
    obtain ⟨hstart, head, hhead, hrest⟩ := ih
    exact ⟨(List.prefix_cons_inj a).2 hstart, b :: head, (List.prefix_cons_inj b).2 hhead,
      .cons (forall₂_of_isEqv hsame) hrest⟩
  | case2 => exact ⟨⟨_, rfl⟩, [], ⟨_, rfl⟩, .nil⟩
  | case3 => exact ⟨⟨_, rfl⟩, [], ⟨_, rfl⟩, .nil⟩

theorem begins_foldl (rows : List (List (List Regex))) (first : List (List Regex)) :
    rows.foldl commonBeginning first <+: first ∧
      ∀ row ∈ rows, Begins (rows.foldl commonBeginning first) row := by
  induction rows generalizing first with
  | nil => exact ⟨List.prefix_refl first, nofun⟩
  | cons row rows ih =>
    obtain ⟨hstart, hbegins⟩ := begins_commonBeginning first row
    obtain ⟨hstart', hrows⟩ := ih (commonBeginning first row)
    exact ⟨hstart'.trans hstart, List.forall_mem_cons.2 ⟨hbegins.mono hstart', hrows⟩⟩

/-- All alternatives begin with as many parts that are the same. -/
theorem forall₂_take_commonLength (first : Regex) {rest : List Regex} {r : Regex} (h : r ∈ rest) :
    List.Forall₂ (fun a b => a.same b = true)
      (first.parts.take (commonLength (first :: rest)))
      (r.parts.take (commonLength (first :: rest))) := by
  obtain ⟨second, rest, rfl⟩ := List.exists_cons_of_ne_nil (List.ne_nil_of_mem h)
  rw [commonLength]
  simp only [List.map_cons]
  split
  · obtain ⟨hfirst, hrows⟩ := begins_foldl ((second :: rest).map fun r => chunks r.parts)
      (chunks first.parts)
    obtain ⟨head, hhead, hsame⟩ := hrows _ (List.mem_map_of_mem h)
    have hflat := List.rel_flatten hsame
    rw [List.map_cons] at hfirst hflat
    rw [take_flatten hfirst, hflat.length_eq, take_flatten hhead]
    exact hflat
  · rw [List.take_zero, List.take_zero]
    exact .nil

/-- What is taken out of alternatives. -/
def commonParts : List Regex → List Regex
  | [] => []
  | first :: rest => first.parts.take (commonLength (first :: rest))

theorem alternation_sameOrder {rs : List Regex} (h : rs ≠ [])
    (hone : (commonParts rs).all oneWay = true) : SameOrder (alternation rs) (choice rs) := by
  rw [alternation.eq_def]
  split
  · next n first rest hlength =>
    have hparts : commonParts (first :: rest) = first.parts.take (n + 1) := by
      rw [commonParts, hlength]
    rw [hparts] at hone
    -- every alternative is what is taken out of the first, and then what is left of it
    have hcommon : ∀ r ∈ first :: rest,
        SameOrder r (.seq (row (first.parts.take (n + 1))) (row (r.parts.drop (n + 1)))) := by
      intro r hr
      have hsame : List.Forall₂ SameOrder (first.parts.take (n + 1)) (r.parts.take (n + 1)) := by
        rcases List.mem_cons.1 hr with rfl | hr
        · exact List.forall₂_same.2 fun a _ => .refl a
        · have hall := forall₂_take_commonLength first hr
          rw [hlength] at hall
          refine List.forall₂_iff_get.2 ⟨hall.length_eq, fun i hi hi' => ?_⟩
          refine sameOrder_of_same (hall.get hi hi') ?_
          exact List.all_eq_true.1 hone _ (List.get_mem _ _)
      have hsplit := row_append (r.parts.take (n + 1)) (r.parts.drop (n + 1))
      rw [List.take_append_drop] at hsplit
      exact (row_parts r).symm.trans (hsplit.trans ((row_congr hsame).symm.seq (.refl _)))
    let left := (first :: rest).map fun r => row (r.parts.drop (n + 1))
    have hleft : left ≠ [] := List.cons_ne_nil _ _
    have hrows : SameOrder (choice (first :: rest))
        (.seq (row (first.parts.take (n + 1))) (choice left)) := by
      refine .trans (choice_congr ?_) (choice_seq (oneWay_row hone) hleft)
      rw [List.map_map, List.forall₂_map_right_iff]
      exact List.forall₂_same.2 hcommon
    have hjoin : SameOrder (join (left.flatMap alternatives)) (choice left) :=
      (join_sameOrder (flatMap_alternatives_ne_nil hleft)).trans
        (choice_flatMap_alternatives hleft)
    rw [← List.flatMap_map]
    refine (row_append _ _).trans (.trans (.seq (.refl _) ?_) hrows.symm)
    exact (row_parts _).trans hjoin
  · exact join_sameOrder h

/-! ## Repetitions -/

theorem Leaves.readsNothing_eq {r : Regex} {k : Rest} (h : r.Leaves k) :
    r.readsNothing = false := by
  induction h with
  | set => rfl
  | first _ b ih => rw [readsNothing, ih, Bool.false_and]
  | second a _ ih => rw [readsNothing, ih, Bool.and_false]
  | left _ b ih => rw [readsNothing, ih, Bool.false_and]
  | right a _ ih => rw [readsNothing, ih, Bool.and_false]
  | group captures _ ih => exact ih
  | turn _ n n' more more' ih => exact ih
  | later _ n more ih => exact ih
  | again greedy _ n ih => exact ih
  | anyNumber greedy _ ih => exact ih

/-- What can read nothing has no match but the empty one. -/
theorem eq_zero_of_mem_ends {r : Regex} (h : r.readsNothing = true) {before : Option Char}
    {text : List Char} {n : Nat} (hn : n ∈ ends before text r) : n = 0 := by
  have hleave := r.choices_leave ⟨before, text.head?⟩ .nothing
  have hnever {steps : List Step} (hsteps : ∀ step ∈ steps, r.Leaves step.2) : steps = [] := by
    refine List.eq_nil_iff_forall_not_mem.2 fun step hstep => ?_
    cases h.symm.trans (hsteps step hstep).readsNothing_eq
  cases text with
  | nil =>
    rw [ends, Choices.ends] at hn
    split at hn
    · exact List.mem_singleton.1 hn
    · cases hn
  | cons c cs =>
    rw [ends, Choices.ends, hnever hleave.before, hnever hleave.after] at hn
    split at hn
    · exact List.mem_singleton.1 hn
    · cases hn

theorem stop_orStop (greedy : Bool) (a : Choices) :
    (Choices.orStop greedy a).stop.isSome = true := by
  cases greedy with
  | true =>
    rw [Choices.orStop, if_pos rfl, Choices.orElse]
    split
    · assumption
    · rfl
  | false => rfl

/-- Where it is always possible to stop behind a part, the whole can stop if the part can. -/
theorem isSome_stop_andThen (a : Choices) {next : Passed → Choices}
    (h : ∀ m, (next m).stop.isSome = true) :
    (a.andThen next).stop.isSome = a.stop.isSome := by
  cases ha : a.stop with
  | none => rw [Choices.andThen_of_none ha]
  | some m =>
    obtain ⟨m', hm'⟩ := Option.isSome_iff_exists.1 (h m)
    rw [Choices.stop_andThen.2 ⟨m, ha, hm'⟩]
    rfl

/-- If what follows can stop whenever the first part can, the whole can stop if the first part
can. -/
theorem isSome_stop_followedBy (a : Choices) (r : Regex) {next : Unit → Choices}
    (h : (next ()).stop.isSome = true ∨ (next ()).stop.isSome = a.stop.isSome) :
    (a.followedBy r next).stop.isSome = a.stop.isSome := by
  cases ha : a.stop with
  | none => simp [Choices.followedBy, Choices.andThen, Choices.inside, ha]
  | some m =>
    rw [ha] at h
    obtain ⟨m', hm'⟩ := Option.isSome_iff_exists.1 (h.elim id id)
    rw [Choices.stop_followedBy.2 ⟨m, m', ha, hm', rfl⟩]
    rfl

/-- A repetition that need not be begun can stop, and any other can if its body can. -/
theorem stop_loop (p : Place) (greedy : Bool) (n : Nat) (more : Option Nat) (body : Regex) :
    ((loop greedy n more body).choices p .nothing).stop.isSome =
      (n = 0 || (body.choices p .nothing).stop.isSome) := by
  have hturn {n : Nat} {stops y : Bool} (h : stops = (decide (n = 0) || y)) :
      stops = true ∨ stops = y := by
    by_cases hn : n = 0
    · exact .inl (by simp [h, hn])
    · exact .inr (by simp [h, hn])
  cases more with
  | none =>
    induction n using Nat.strongRecOn with
    | ind n ih =>
      rcases n with _ | _ | n
      · rw [choices, Choices.atLeast, Choices.anyNumber]
        split
        · exact Option.isSome_map.trans (stop_orStop _ _)
        · exact congrArg Option.isSome (Choices.stop_further _ _ _ _)
      · refine (isSome_stop_andThen _ fun m => ?_).trans Option.isSome_map
        exact congrArg Option.isSome (Choices.stop_further _ _ _ _)
      · exact isSome_stop_followedBy _ _ (hturn (ih (n + 1) (Nat.lt_succ_self _)))
  | some more =>
    induction n with
    | zero =>
      cases more with
      | zero => rfl
      | succ more => exact Option.isSome_map.trans (stop_orStop _ _)
    | succ n ih => exact isSome_stop_followedBy _ _ (hturn ih)

theorem times_sameOrder (greedy : Bool) (least : Nat) (more : Option Nat) (body : Regex) :
    SameOrder (times greedy least (more.map (least + ·)) body) (.loop greedy least more body) := by
  rw [times]
  split
  · next hmost =>
    obtain ⟨more, rfl, hzero⟩ := Option.map_eq_some_iff.1 hmost
    obtain ⟨rfl, rfl⟩ := Nat.add_eq_zero_iff.1 hzero
    exact ⟨rfl, fun _ _ => .refl _⟩
  · split
    · next hone =>
      obtain ⟨rfl, hmost⟩ := hone
      obtain ⟨more, rfl, hzero⟩ := Option.map_eq_some_iff.1 hmost
      obtain rfl : more = 0 := by omega
      refine ⟨by simp [mayBeEmpty], fun before text => ?_⟩
      have hnone : follow before text (.loop greedy 0 (some 0) body) = fun n => [n] :=
        funext (follow_empty before text)
      rw [ends_loop_succ, hnone, List.flatMap_singleton']
      exact .refl _
    · cases more with
      | none => exact .refl _
      | some more =>
        rw [Option.map_some, Option.map_some, Nat.add_sub_cancel_left]
        exact .refl _

theorem mayBeEmpty_of_readsNothing {r : Regex} (h : r.readsNothing = true) :
    r.mayBeEmpty = true := by
  induction r with
  | empty => rfl
  | look => rfl
  | set => cases h
  | seq a b iha ihb =>
    rw [readsNothing, Bool.and_eq_true] at h
    rw [mayBeEmpty, iha h.1, ihb h.2, Bool.and_self]
  | alt a b iha ihb =>
    rw [readsNothing, Bool.and_eq_true] at h
    rw [mayBeEmpty, iha h.1, Bool.true_or]
  | loop greedy least more body ih => rw [mayBeEmpty, ih h, Bool.or_true]
  | group _ r ih => exact ih h

/-- What reads nothing is told by where it can stop. -/
theorem SameOrder.of_readsNothing {r r' : Regex} (h : r.readsNothing = true)
    (h' : r'.readsNothing = true)
    (hstop : ∀ p, (r.choices p .nothing).stop.isSome = (r'.choices p .nothing).stop.isSome) :
    SameOrder r r' where
  mayBeEmpty_eq := by rw [mayBeEmpty_of_readsNothing h, mayBeEmpty_of_readsNothing h']
  ends before text := by
    refine .of_forall_eq (fun _ => eq_zero_of_mem_ends h) (fun _ => eq_zero_of_mem_ends h') ?_
    rw [Regex.ends, Regex.ends, ← Choices.stop_isSome_iff, ← Choices.stop_isSome_iff, hstop]

theorem repetition_sameOrder (greedy : Bool) (least : Nat) (more : Option Nat) (body : Regex) :
    SameOrder (repetition greedy least more body) (.loop greedy least more body) := by
  rw [repetition]
  split
  · next hbody =>
    -- nothing is read, so all that counts is whether the repetition can stop
    rw [times]
    split
    · next hmost =>
      refine .of_readsNothing rfl hbody fun p => ?_
      have hleast : least = 0 := by
        cases more with
        | none => cases hmost
        | some more =>
          have hzero : min (least + more) 1 = 0 := Option.some.inj hmost
          omega
      rw [stop_loop, hleast]
      rfl
    · split
      · next hone =>
        refine .of_readsNothing hbody hbody fun p => ?_
        rw [stop_loop, decide_eq_false (by omega), Bool.false_or]
      · refine .of_readsNothing hbody hbody fun p => ?_
        have hleast : min least 1 = 0 ↔ least = 0 := by omega
        rw [stop_loop, stop_loop, decide_eq_decide.2 hleast]
  · exact times_sameOrder greedy least more body

/-! ## The whole expression -/

/-- Whether what is taken out of alternatives can always match in only one way. The alternatives of
an expression that is `listed` are put next to others, so nothing is taken out of them alone. The
body of a repetition without an upper bound must be simple as it is if it may be empty. -/
def sharesOneWay : Bool → Regex → Bool
  | _, .empty => true
  | _, .look _ => true
  | _, .set _ => true
  | _, .seq a b => a.sharesOneWay false && b.sharesOneWay false
  | listed, .alt a b =>
    a.sharesOneWay false && b.sharesOneWay true &&
      (listed || (commonParts (alt a b).simplify.alternatives).all oneWay)
  | _, .loop _ _ none body =>
    if body.mayBeEmpty then body.simplified = body else body.sharesOneWay false
  | _, .loop _ _ (some _) body => body.sharesOneWay false
  | _, .group _ r => r.sharesOneWay false

theorem simplify_closed {r s : Regex} {listed : Bool} (h : r.simplify = .closed s)
    (hs : SameOrder s r) :
    SameOrder (choice r.simplify.alternatives) r ∧ (listed = false → SameOrder r.simplified r) := by
  rw [simplified, h]
  refine ⟨?_, fun _ => hs⟩
  rw [Simplified.closed, choice_alternatives]
  exact hs

theorem simplify_alternatives_ne_nil (r : Regex) : r.simplify.alternatives ≠ [] := by
  cases r with
  | alt a b => exact List.append_ne_nil_of_left_ne_nil (alternatives_ne_nil _) _
  | group captures r =>
    cases captures with
    | false => exact alternatives_ne_nil _
    | true => exact alternatives_ne_nil _
  | _ => exact alternatives_ne_nil _

/-- **Simplification keeps the order.** By induction on the expression, together with the order of
its alternatives. -/
theorem simplify_sameOrder {listed : Bool} {r : Regex} (h : r.sharesOneWay listed = true) :
    SameOrder (choice r.simplify.alternatives) r ∧
      (listed = false → SameOrder r.simplified r) := by
  induction r generalizing listed with
  | empty => exact simplify_closed rfl (.refl _)
  | look => exact simplify_closed rfl (.refl _)
  | set => exact simplify_closed rfl (.refl _)
  | seq a b iha ihb =>
    rw [sharesOneWay, Bool.and_eq_true] at h
    refine simplify_closed rfl ((row_append _ _).trans ?_)
    exact ((row_parts _).trans ((iha h.1).2 rfl)).seq ((row_parts _).trans ((ihb h.2).2 rfl))
  | alt a b iha ihb =>
    rw [sharesOneWay, Bool.and_eq_true, Bool.and_eq_true] at h
    obtain ⟨⟨ha, hb⟩, hcommon⟩ := h
    have hlist : SameOrder (choice (alt a b).simplify.alternatives) (.alt a b) := by
      refine (choice_append (alternatives_ne_nil _) b.simplify_alternatives_ne_nil).trans ?_
      rw [choice_alternatives]
      exact .alt ((iha ha).2 rfl) (ihb hb).1
    refine ⟨hlist, fun hlisted => ?_⟩
    rw [hlisted, Bool.false_or] at hcommon
    exact (alternation_sameOrder (alt a b).simplify_alternatives_ne_nil hcommon).trans hlist
  | loop greedy least more body ih =>
    refine simplify_closed rfl ((repetition_sameOrder greedy least more _).trans ?_)
    cases more with
    | none =>
      rw [sharesOneWay] at h
      split at h
      -- behind a body that may be empty the forks count that have been passed in it
      · rw [← simplified, of_decide_eq_true h]
        exact .refl _
      · next hread =>
        have hbody := (ih h).2 rfl
        exact hbody.loop_none (hbody.mayBeEmpty_eq.trans (Bool.eq_false_iff.2 hread)) greedy least
    | some more => exact ((ih h).2 rfl).loop_some greedy least more
  | group captures r ih =>
    have hr := (ih h).2 rfl
    cases captures with
    | false => exact simplify_closed rfl (hr.trans (SameOrder.group false r).symm)
    | true =>
      exact simplify_closed rfl
        ((SameOrder.group true _).trans (hr.trans (SameOrder.group true r).symm))

/-- Simplification does not change which match is preferred at the start of a text. -/
def KeepsPreference (r : Regex) : Prop :=
  ∀ text, (ends none text r.simplified).head? = (ends none text r).head?

theorem KeepsPreference.of_sharesOneWay {r : Regex} (h : r.sharesOneWay false = true) :
    r.KeepsPreference :=
  fun text => (((simplify_sameOrder h).2 rfl).ends none text).head?_eq

/-! ## Anchored groups -/

/-- The anchored group of an expression. -/
def anchorGroup (r : Regex) : Regex := .seq (.look .textStart) (.group false r)

theorem simplified_anchorGroup (r : Regex) :
    r.anchorGroup.simplified = .andThen (.look .textStart) (row r.simplified.parts) :=
  rfl

theorem head?_ends_simplified_anchorGroup (text : List Char) (r : Regex) :
    (ends none text r.anchorGroup.simplified).head? = (ends none text r.simplified).head? := by
  rw [simplified_anchorGroup, ends_anchor_andThen, if_pos rfl]
  exact ((row_parts r.simplified).ends none text).head?_eq

/-- **Anchoring before simplification.** The anchored group of an expression finds at the start of a
text what the expression prefers there if it is simplified alone, and nothing elsewhere. -/
theorem find?_simplified_anchorGroup (text : List Char) (r : Regex) :
    r.anchorGroup.simplified.find? text =
      (ends none text r.simplified).head?.map fun n => (0, n) := by
  rw [simplified_anchorGroup, find?_anchor_andThen,
    ((row_parts r.simplified).ends none text).head?_eq]

end Regex

end Locus
