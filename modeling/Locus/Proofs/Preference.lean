import Locus.Proofs.Repetition

/-!
# Expressions with the same preference

Of the matches of an expression only the order counts in which they come up for the first time: a
match that comes up again is never taken, whatever is required of what follows. Main statements: an
expression may stand in place of another one that has the same order, and the laws by which
expressions with the same order are told.
-/

namespace Locus

/-- Every search that goes through the lists from the left finds the same in both. -/
def SameFirst (l l' : List Nat) : Prop :=
  ∀ wanted : Nat → Option Nat, l.findSome? wanted = l'.findSome? wanted

namespace SameFirst

variable {l l' l₁ l₂ : List Nat}

theorem refl (l : List Nat) : SameFirst l l := fun _ => rfl

theorem of_eq (h : l = l') : SameFirst l l' := fun _ => by rw [h]

theorem symm (h : SameFirst l l') : SameFirst l' l := fun wanted => (h wanted).symm

theorem trans (h : SameFirst l l') (h' : SameFirst l' l₁) : SameFirst l l₁ :=
  fun wanted => (h wanted).trans (h' wanted)

theorem head?_eq (h : SameFirst l l') : l.head? = l'.head? := by
  have hsome (l : List Nat) : l.findSome? some = l.head? := by
    cases l with
    | nil => rfl
    | cons n l => rfl
  rw [← hsome, h, hsome]

theorem append (h : SameFirst l l') (h' : SameFirst l₁ l₂) : SameFirst (l ++ l₁) (l' ++ l₂) := by
  intro wanted
  rw [List.findSome?_append, List.findSome?_append, h, h']

theorem cons (n : Nat) (h : SameFirst l l') : SameFirst (n :: l) (n :: l') :=
  append (refl [n]) h

theorem map (h : SameFirst l l') (f : Nat → Nat) : SameFirst (l.map f) (l'.map f) := by
  intro wanted
  rw [List.findSome?_map, List.findSome?_map, h]

theorem findSome?_flatMap (f : Nat → List Nat) (l : List Nat) (wanted : Nat → Option Nat) :
    (l.flatMap f).findSome? wanted = l.findSome? fun n => (f n).findSome? wanted := by
  induction l with
  | nil => rfl
  | cons n l ih =>
    rw [List.flatMap_cons, List.findSome?_append, List.findSome?_cons, ih]
    cases (f n).findSome? wanted with
    | none => rfl
    | some x => rfl

theorem flatMap_congr {f f' : Nat → List Nat} (h : ∀ n ∈ l, SameFirst (f n) (f' n)) :
    SameFirst (l.flatMap f) (l.flatMap f') := by
  intro wanted
  induction l with
  | nil => rfl
  | cons n l ih =>
    rw [List.flatMap_cons, List.flatMap_cons, List.findSome?_append, List.findSome?_append,
      h n (List.mem_cons_self ..), ih fun m hm => h m (List.mem_cons_of_mem n hm)]

theorem flatMap (h : SameFirst l l') (f : Nat → List Nat) :
    SameFirst (l.flatMap f) (l'.flatMap f) := by
  intro wanted
  rw [findSome?_flatMap, findSome?_flatMap, h]

/-- What comes up again counts for nothing. -/
theorem again {n : Nat} (h : n ∈ l) (l₁ l₂ : List Nat) :
    SameFirst (l ++ (l₁ ++ n :: l₂)) (l ++ (l₁ ++ l₂)) := by
  intro wanted
  simp only [List.findSome?_append, List.findSome?_cons]
  rcases hl : l.findSome? wanted with _ | x
  · rw [List.findSome?_eq_none_iff.1 hl n h]
  · rfl

/-- If only one number can come up, all that counts is whether it does. -/
theorem of_forall_eq {n : Nat} (h : ∀ m ∈ l, m = n) (h' : ∀ m ∈ l', m = n)
    (hn : n ∈ l ↔ n ∈ l') : SameFirst l l' := by
  intro wanted
  have hall {l : List Nat} (h : ∀ m ∈ l, m = n) :
      l.findSome? wanted = if n ∈ l then wanted n else none := by
    cases l with
    | nil => rfl
    | cons m l =>
      obtain rfl := h m (List.mem_cons_self ..)
      rw [List.findSome?_cons, if_pos (List.mem_cons_self ..)]
      cases hm : wanted m with
      | none =>
        refine List.findSome?_eq_none_iff.2 fun k hk => ?_
        rw [h k (List.mem_cons_of_mem m hk), hm]
      | some x => rfl
  rw [hall h, hall h']
  simp only [hn]

end SameFirst

/-! ## The matches of expressions, up to what comes up again -/

theorem Choices.ends_orElse_sameFirst (a : Choices) {b : Choices}
    (h : b.stop = none → b.after = []) (text : List Char) :
    SameFirst ((a.orElse b).ends text) (a.ends text ++ b.ends text) := by
  by_cases ha : a.stop.isSome = true
  · have hstop (l l₁ l₂ l₃ : List Nat) :
        SameFirst (l ++ 0 :: (l₁ ++ (l₂ ++ l₃))) (l ++ 0 :: (l₁ ++ (l₂ ++ 0 :: l₃))) := by
      have hagain := SameFirst.again (l := l ++ 0 :: l₁) (n := 0) (by simp) l₂ l₃
      simpa using hagain.symm
    cases text with
    | nil =>
      simp only [orElse, if_pos ha, ends]
      split
      · exact hstop [] [] [] []
      · exact .refl _
    | cons c cs =>
      simp only [orElse, if_pos ha, ends, endsOfSteps_append, List.append_assoc, List.cons_append]
      split
      · exact hstop _ _ _ _
      · next hb =>
        rw [Bool.not_eq_true, Option.isSome_eq_false_iff, Option.isNone_iff_eq_none] at hb
        rw [h hb]
        exact .refl _
  · rw [Bool.not_eq_true, Option.isSome_eq_false_iff, Option.isNone_iff_eq_none] at ha
    exact .of_eq (ends_orElse ha)

/-- What a repetition that may end prefers: to go on, if it is greedy, or else to end. -/
def endOr (greedy : Bool) (l : List Nat) : List Nat := if greedy then l ++ [0] else 0 :: l

theorem SameFirst.endOr {l l' : List Nat} (h : SameFirst l l') (greedy : Bool) :
    SameFirst (Locus.endOr greedy l) (Locus.endOr greedy l') := by
  cases greedy with
  | true => exact h.append (.refl [0])
  | false => exact h.cons 0

theorem Choices.ends_orStop (greedy : Bool) {a : Choices} (h : a.stop = none → a.after = [])
    (text : List Char) : SameFirst ((orStop greedy a).ends text) (endOr greedy (a.ends text)) := by
  cases greedy with
  | true =>
    refine (ends_orElse_sameFirst a (fun _ => rfl) text).trans (.of_eq ?_)
    rw [ends_done]
    rfl
  | false =>
    refine (ends_orElse_sameFirst done h text).trans (.of_eq ?_)
    rw [ends_done]
    rfl

namespace Regex

/-- The matches of the first alternative come before those of the second. -/
theorem ends_alt_sameFirst (before : Option Char) (text : List Char) (a b : Regex) :
    SameFirst (ends before text (.alt a b)) (ends before text a ++ ends before text b) := by
  rw [ends_alt_eq]
  refine (Choices.ends_orElse_sameFirst _ ?_ text).trans (.of_eq ?_)
  · exact ((choices_leave _ b .nothing).inside (Q := fun _ => True) (fun _ _ => trivial)
      _).after_eq_nil
  · rw [Choices.ends_onLeft, Choices.ends_onRight]
    rfl

/-- A repetition that may end either ends or is repeated once more. -/
theorem ends_loop_zero_succ (before : Option Char) (text : List Char) (greedy : Bool) (more : Nat)
    (body : Regex) :
    SameFirst (ends before text (.loop greedy 0 (some (more + 1)) body))
      (endOr greedy ((ends before text body).flatMap
        (follow before text (.loop greedy 0 (some more) body)))) := by
  refine (SameFirst.of_eq (Choices.ends_fork_nothing text _)).trans ?_
  refine (Choices.ends_orStop greedy Choices.after_andThen text).trans (.of_eq ?_)
  exact congrArg (endOr greedy)
    (Choices.ends_followedBy fun c cs _ k => Rest.ends_followed (some c) cs k _)

theorem ends_loop_zero {body : Regex} (h : body.mayBeEmpty = false) (before : Option Char)
    (text : List Char) (greedy : Bool) :
    ends before text (.loop greedy 0 none body) =
      endOr greedy (ends before text (.loop greedy 1 none body)) := by
  have hstop := stop_choices h ⟨before, text.head?⟩ .nothing
  have hafter := (choices_leave ⟨before, text.head?⟩ body .nothing).after_eq_nil hstop
  have hone : (loop greedy 1 none body).choices ⟨before, text.head?⟩ .nothing =
      ⟨Choices.extend (.again greedy · body) (body.choices ⟨before, text.head?⟩ .nothing).before,
        none, []⟩ :=
    Choices.andThen_of_none (Option.map_eq_none_iff.2 hstop) _
  rw [ends, ends, choices_anyNumber h, hone, Choices.further, hafter, List.append_nil]
  cases text with
  | nil => cases greedy <;> rfl
  | cons c cs =>
    cases greedy with
    | true => exact congrArg (· ++ [0]) (List.append_nil _).symm
    | false => exact congrArg (0 :: ·) (List.append_nil _).symm

theorem follow_add (before : Option Char) (text : List Char) (r : Regex) (n i : Nat) :
    follow before text r (n + i) =
      (follow (beforeAt before text n) (text.drop n) r i).map (n + ·) := by
  have hbefore : beforeAt before text (n + i) =
      beforeAt (beforeAt before text n) (text.drop n) i := by
    cases i with
    | zero => rfl
    | succ i => exact List.getElem?_drop.symm
  rw [follow, follow, hbefore, List.drop_drop, List.map_map]
  exact List.map_congr_left fun m _ => Nat.add_assoc n i m

theorem follow_seq (before : Option Char) (text : List Char) (a b : Regex) (n : Nat) :
    follow before text (.seq a b) n =
      (follow before text a n).flatMap (follow before text b) := by
  rw [follow, ends_seq, List.map_flatMap, follow, List.flatMap_map]
  exact List.flatMap_congr fun i _ => (follow_add before text b n i).symm

theorem zero_notMem_ends {r : Regex} (h : r.mayBeEmpty = false) (before : Option Char)
    (text : List Char) : 0 ∉ ends before text r := by
  rw [ends, ← Choices.stop_isSome_iff, stop_choices h]
  exact Bool.false_ne_true

theorem length_pos_of_mem_ends {r : Regex} {before : Option Char} {text : List Char} {n : Nat}
    (h : n ∈ ends before text r) (hn : n ≠ 0) : 0 < text.length := by
  cases text with
  | nil =>
    rw [ends, Choices.ends] at h
    split at h
    · exact absurd (List.mem_singleton.1 h) hn
    · cases h
  | cons c cs => exact Nat.succ_pos _

/-! ## Standing in for another expression -/

/-- The expressions have the same order of matches, wherever they stand, and look alike in whether
they always read something. -/
structure SameOrder (r r' : Regex) : Prop where
  mayBeEmpty_eq : r.mayBeEmpty = r'.mayBeEmpty
  ends : ∀ before text, SameFirst (ends before text r) (ends before text r')

namespace SameOrder

variable {r r' a a' b b' : Regex}

theorem refl (r : Regex) : r.SameOrder r := ⟨rfl, fun _ _ => .refl _⟩

theorem symm (h : r.SameOrder r') : r'.SameOrder r :=
  ⟨h.mayBeEmpty_eq.symm, fun before text => (h.ends before text).symm⟩

theorem trans {r'' : Regex} (h : r.SameOrder r') (h' : r'.SameOrder r'') : r.SameOrder r'' :=
  ⟨h.mayBeEmpty_eq.trans h'.mayBeEmpty_eq,
    fun before text => (h.ends before text).trans (h'.ends before text)⟩

theorem follow (h : r.SameOrder r') (before : Option Char) (text : List Char) (n : Nat) :
    SameFirst (r.follow before text n) (r'.follow before text n) :=
  (h.ends _ _).map (n + ·)

theorem flatMap_follow (ha : a.SameOrder a') (hb : b.SameOrder b') (before : Option Char)
    (text : List Char) :
    SameFirst ((Regex.ends before text a).flatMap (b.follow before text))
      ((Regex.ends before text a').flatMap (b'.follow before text)) :=
  (SameFirst.flatMap_congr fun n _ => hb.follow before text n).trans
    ((ha.ends before text).flatMap _)

theorem seq (ha : a.SameOrder a') (hb : b.SameOrder b') : SameOrder (.seq a b) (.seq a' b') where
  mayBeEmpty_eq := by rw [mayBeEmpty, mayBeEmpty, ha.mayBeEmpty_eq, hb.mayBeEmpty_eq]
  ends before text := by
    rw [ends_seq, ends_seq]
    exact ha.flatMap_follow hb before text

theorem alt (ha : a.SameOrder a') (hb : b.SameOrder b') : SameOrder (.alt a b) (.alt a' b') where
  mayBeEmpty_eq := by rw [mayBeEmpty, mayBeEmpty, ha.mayBeEmpty_eq, hb.mayBeEmpty_eq]
  ends before text :=
    ((ends_alt_sameFirst before text a b).trans ((ha.ends before text).append (hb.ends before
      text))).trans (ends_alt_sameFirst before text a' b').symm

theorem loop_zero (h : r.SameOrder r') (greedy : Bool) (more : Nat) :
    SameOrder (.loop greedy 0 (some more) r) (.loop greedy 0 (some more) r') := by
  induction more with
  | zero => exact ⟨rfl, fun _ _ => .refl _⟩
  | succ more ih =>
    refine ⟨rfl, fun before text => ?_⟩
    refine (ends_loop_zero_succ before text greedy more r).trans ?_
    refine .trans ?_ (ends_loop_zero_succ before text greedy more r').symm
    exact (h.flatMap_follow ih before text).endOr greedy

theorem loop_some (h : r.SameOrder r') (greedy : Bool) (n more : Nat) :
    SameOrder (.loop greedy n (some more) r) (.loop greedy n (some more) r') := by
  induction n with
  | zero => exact h.loop_zero greedy more
  | succ n ih =>
    refine ⟨?_, fun before text => ?_⟩
    · rw [mayBeEmpty, mayBeEmpty, h.mayBeEmpty_eq]
    · rw [ends_loop_succ, ends_loop_succ]
      exact h.flatMap_follow ih before text

/-- By induction on the text, of which every repetition reads something. -/
theorem loop_any (h : r.SameOrder r') (hr : r.mayBeEmpty = false) (greedy : Bool) :
    SameOrder (.loop greedy 0 none r) (.loop greedy 0 none r') := by
  refine ⟨rfl, fun before text => ?_⟩
  induction hlen : text.length using Nat.strongRecOn generalizing before text with
  | ind n ih =>
    subst hlen
    rw [ends_loop_zero hr, ends_loop_one hr, ends_loop_zero (h.mayBeEmpty_eq.symm.trans hr),
      ends_loop_one (h.mayBeEmpty_eq.symm.trans hr)]
    refine SameFirst.endOr (.trans (SameFirst.flatMap_congr fun n hn => ?_)
      ((h.ends before text).flatMap _)) greedy
    have hpos : n ≠ 0 := fun hzero => zero_notMem_ends hr before text (hzero ▸ hn)
    refine (ih _ ?_ _ _ rfl).map (n + ·)
    rw [List.length_drop]
    exact Nat.sub_lt (length_pos_of_mem_ends hn hpos) (Nat.pos_of_ne_zero hpos)

theorem loop_none (h : r.SameOrder r') (hr : r.mayBeEmpty = false) (greedy : Bool) (n : Nat) :
    SameOrder (.loop greedy n none r) (.loop greedy n none r') := by
  have hr' := h.mayBeEmpty_eq.symm.trans hr
  induction n using Nat.strongRecOn with
  | ind n ih =>
    refine ⟨by rw [mayBeEmpty, mayBeEmpty, h.mayBeEmpty_eq], fun before text => ?_⟩
    rcases n with _ | _ | n
    · exact (h.loop_any hr greedy).ends before text
    · rw [ends_loop_one hr, ends_loop_one hr']
      exact h.flatMap_follow (h.loop_any hr greedy) before text
    · rw [ends_loop_succ_succ, ends_loop_succ_succ]
      exact h.flatMap_follow (ih (n + 1) (Nat.lt_succ_self _)) before text

/-! ### Laws -/

theorem group (captures : Bool) (r : Regex) : SameOrder (.group captures r) r :=
  ⟨rfl, fun _ _ => .refl _⟩

theorem empty_seq (r : Regex) : SameOrder (.seq .empty r) r where
  mayBeEmpty_eq := by rw [mayBeEmpty, mayBeEmpty, Bool.true_and]
  ends before text := by
    rw [ends_seq, ends_empty, List.flatMap_singleton, follow_zero]
    exact .refl _

theorem seq_empty (r : Regex) : SameOrder (.seq r .empty) r where
  mayBeEmpty_eq := by rw [mayBeEmpty, mayBeEmpty, Bool.and_true]
  ends before text := by
    rw [ends_seq, funext (follow_empty before text), List.flatMap_singleton']
    exact .refl _

theorem andThen (a b : Regex) : SameOrder (a.andThen b) (.seq a b) := by
  rw [Regex.andThen.eq_def]
  split
  · exact (empty_seq b).symm
  · exact (seq_empty a).symm
  · exact .refl _

theorem seq_assoc (a b c : Regex) : SameOrder (.seq (.seq a b) c) (.seq a (.seq b c)) where
  mayBeEmpty_eq := by simp only [mayBeEmpty, Bool.and_assoc]
  ends before text := by
    simp only [ends_seq, List.flatMap_assoc]
    exact .of_eq (List.flatMap_congr fun n _ => (follow_seq before text b c n).symm)

theorem alt_assoc (a b c : Regex) : SameOrder (.alt (.alt a b) c) (.alt a (.alt b c)) where
  mayBeEmpty_eq := by simp only [mayBeEmpty, Bool.or_assoc]
  ends before text := by
    have hleft := (ends_alt_sameFirst before text (.alt a b) c).trans
      ((ends_alt_sameFirst before text a b).append (.refl _))
    have hright := (ends_alt_sameFirst before text a (.alt b c)).trans
      ((SameFirst.refl _).append (ends_alt_sameFirst before text b c))
    rw [List.append_assoc] at hleft
    exact hleft.trans hright.symm

end SameOrder

/-- The expression can match in at most one way, given where it begins. -/
def oneWay : Regex → Bool
  | .empty => true
  | .look _ => true
  | .set _ => true
  | .seq a b => a.oneWay && b.oneWay
  | .alt _ _ => false
  | .loop _ _ more body => more = some 0 && body.oneWay
  | .group _ r => r.oneWay

theorem length_flatMap_follow {l : List Nat} (hl : l.length ≤ 1) {r : Regex}
    (h : ∀ before text, (ends before text r).length ≤ 1) (before : Option Char)
    (text : List Char) : (l.flatMap (follow before text r)).length ≤ 1 := by
  rcases l with _ | ⟨n, _ | ⟨m, l⟩⟩
  · exact Nat.zero_le 1
  · rw [List.flatMap_singleton, follow, List.length_map]
    exact h _ _
  · exact absurd hl (by simp)

theorem length_ends {r : Regex} (h : r.oneWay = true) (before : Option Char) (text : List Char) :
    (ends before text r).length ≤ 1 := by
  induction r generalizing before text with
  | empty => exact Nat.le_of_eq (congrArg List.length (ends_empty before text))
  | look l =>
    rw [ends_look]
    split
    · exact Nat.le_refl 1
    · exact Nat.zero_le 1
  | set s =>
    cases text with
    | nil => exact Nat.zero_le 1
    | cons c cs =>
      rw [ends_set_cons]
      split
      · exact Nat.le_refl 1
      · exact Nat.zero_le 1
  | seq a b iha ihb =>
    rw [oneWay, Bool.and_eq_true] at h
    rw [ends_seq]
    exact length_flatMap_follow (iha h.1 before text) (ihb h.2) before text
  | alt => cases h
  | loop greedy least more body ih =>
    rw [oneWay, Bool.and_eq_true, decide_eq_true_eq] at h
    obtain ⟨rfl, h⟩ := h
    induction least generalizing before text with
    | zero => exact Nat.le_of_eq (congrArg List.length (ends_empty before text))
    | succ n ihn =>
      rw [ends_loop_succ]
      exact length_flatMap_follow (ih h before text) ihn before text
  | group _ r ih => exact ih h before text

/-- What can match in only one way may be taken out of alternatives that begin with it. -/
theorem SameOrder.factor {a : Regex} (h : a.oneWay = true) (b c : Regex) :
    SameOrder (.alt (.seq a b) (.seq a c)) (.seq a (.alt b c)) where
  mayBeEmpty_eq := by simp only [mayBeEmpty, Bool.and_or_distrib_left]
  ends before text := by
    refine (ends_alt_sameFirst before text _ _).trans ?_
    rw [ends_seq, ends_seq, ends_seq]
    have hone := length_ends h before text
    rcases hends : Regex.ends before text a with _ | ⟨n, _ | ⟨m, l⟩⟩
    · exact .refl _
    · simp only [List.flatMap_singleton, Regex.follow, ← List.map_append]
      exact (ends_alt_sameFirst _ _ b c).symm.map (n + ·)
    · rw [hends] at hone
      exact absurd hone (by simp)

/-! ### Sets -/

namespace SameOrder

theorem set {s s' : CharSet} (h : ∀ c, s.contains c = s'.contains c) :
    SameOrder (.set s) (.set s') where
  mayBeEmpty_eq := rfl
  ends before text := by
    cases text with
    | nil => exact .refl _
    | cons c cs =>
      rw [ends_set_cons, ends_set_cons, h]
      exact .refl _

theorem alt_set (s s' : CharSet) :
    SameOrder (.alt (.set s) (.set s')) (.set (.union s s')) where
  mayBeEmpty_eq := rfl
  ends before text := by
    refine (ends_alt_sameFirst before text _ _).trans ?_
    cases text with
    | nil => exact .refl _
    | cons c cs =>
      rw [ends_set_cons, ends_set_cons, ends_set_cons, CharSet.contains]
      cases hs : s.contains c <;> cases hs' : s'.contains c
      · exact .refl _
      · exact .refl _
      · exact .refl _
      · exact .again (List.mem_singleton_self 1) [] []

end SameOrder

end Regex

end Locus
