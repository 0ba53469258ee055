import Mathlib.Data.List.Basic
import Locus.Regex.Basic

/-!
# One way to match after another

Matching follows all ways at once and forgets a way that a preferred one has come to as well. The
reference here tries the ways one after another, in order of preference, each to its end. Main
statement: the match is the first that is found in this way. What follows is what the ways of a
sequence, of alternatives and of greedy repetitions are.
-/

namespace Locus

theorem CharSet.contains_single (a c : Char) : (single a).contains c = decide (c = a) := by
  rw [single, contains, ← Bool.decide_and, decide_eq_decide]
  exact ⟨fun h => Char.le_antisymm h.2 h.1, fun h => h ▸ ⟨Char.le_refl _, Char.le_refl _⟩⟩

/-! ## The lengths of the matches -/

/-- What is left of the ways to go on that read the character. -/
def reading (c : Char) (steps : List Step) : List Rest :=
  (steps.filter fun step => step.1.contains c).map (·.2)

/-- The lengths of all matches of what is left of an expression, at the start of a text, in order of
preference; a length occurs once for each way to come to it. -/
def Rest.ends (before : Option Char) : List Char → Rest → List Nat
  | [], k => if (k.choices ⟨before, none⟩).stop.isSome then [0] else []
  | c :: cs, k =>
    let a := k.choices ⟨before, some c⟩
    let goOn (steps : List Step) : List Nat :=
      ((reading c steps).flatMap (ends (some c) cs)).map (· + 1)
    goOn a.before ++ if a.stop.isSome then 0 :: goOn a.after else []

/-- The lengths of the matches that read the character `c` and go on in one of the ways. -/
def endsOfSteps (c : Char) (cs : List Char) (steps : List Step) : List Nat :=
  ((reading c steps).flatMap (Rest.ends (some c) cs)).map (· + 1)

/-- The lengths of the matches that begin with one of the choices. -/
def Choices.ends (a : Choices) : List Char → List Nat
  | [] => if a.stop.isSome then [0] else []
  | c :: cs =>
    endsOfSteps c cs a.before ++ if a.stop.isSome then 0 :: endsOfSteps c cs a.after else []

theorem Rest.ends_eq (before : Option Char) (text : List Char) (k : Rest) :
    k.ends before text = (k.choices ⟨before, text.head?⟩).ends text := by
  cases text with
  | nil => rfl
  | cons c cs => rfl

/-- The lengths of all matches of an expression at the start of a text, in order of preference. -/
def Regex.ends (before : Option Char) (text : List Char) (r : Regex) : List Nat :=
  (r.choices ⟨before, text.head?⟩ .nothing).ends text

theorem endsOfSteps_append (c : Char) (cs : List Char) (steps more : List Step) :
    endsOfSteps c cs (steps ++ more) = endsOfSteps c cs steps ++ endsOfSteps c cs more := by
  rw [endsOfSteps, reading, List.filter_append, List.map_append, List.flatMap_append,
    List.map_append]
  rfl

theorem zero_notMem_endsOfSteps (c : Char) (cs : List Char) (steps : List Step) :
    0 ∉ endsOfSteps c cs steps := by
  intro h
  obtain ⟨n, -, hn⟩ := List.mem_map.1 h
  exact Nat.succ_ne_zero n hn

theorem reading_extend (c : Char) (around : Rest → Rest) (steps : List Step) :
    reading c (Choices.extend around steps) = (reading c steps).map around := by
  rw [reading, Choices.extend, List.filter_map, List.map_map, reading, List.map_map]
  rfl

theorem endsOfSteps_singleton (c : Char) (cs : List Char) (s : CharSet) (k : Rest) :
    endsOfSteps c cs [(s, k)] =
      if s.contains c then (k.ends (some c) cs).map (· + 1) else [] := by
  rw [endsOfSteps, reading, List.filter_cons]
  split
  · simp
  · rfl

/-! ### What the choices are put together from -/

namespace Choices

variable {text : List Char} {a b : Choices}

@[simp]
theorem ends_done (text : List Char) : done.ends text = [0] := by
  cases text with
  | nil => rfl
  | cons c cs => rfl

@[simp]
theorem ends_never (text : List Char) : never.ends text = [] := by
  cases text with
  | nil => rfl
  | cons c cs => rfl

/-- It is possible to stop exactly if there is a match of the empty text. -/
theorem stop_isSome_iff : a.stop.isSome = true ↔ 0 ∈ a.ends text := by
  cases text with
  | nil => simp [ends]
  | cons c cs =>
    by_cases hstop : a.stop.isSome = true
    · simp [ends, hstop]
    · simp [ends, hstop, zero_notMem_endsOfSteps]

theorem stop_eq_none (h : 0 ∉ a.ends text) : a.stop = none :=
  Option.not_isSome_iff_eq_none.1 fun hstop => h (stop_isSome_iff.1 hstop)

/-- Where a part stands in an expression makes no difference to its matches, if none follows it. -/
theorem ends_inside {around : Rest → Rest} (passed : Passed → Passed)
    (h : ∀ c cs, text = c :: cs → ∀ k, (around k).ends (some c) cs = k.ends (some c) cs) :
    (a.inside around passed).ends text = a.ends text := by
  cases text with
  | nil => simp only [ends, inside, Option.isSome_map]
  | cons c cs =>
    have hextend : ∀ steps, endsOfSteps c cs (extend around steps) = endsOfSteps c cs steps := by
      intro steps
      rw [endsOfSteps, reading_extend, List.flatMap_map, funext (h c cs rfl), endsOfSteps]
    simp only [ends, inside, Option.isSome_map, hextend]

/-- The matches of the first come before those of the second. -/
theorem ends_orElse (h : a.stop = none) : (a.orElse b).ends text = a.ends text ++ b.ends text := by
  cases text with
  | nil => simp [ends, orElse, h]
  | cons c cs => simp [ends, orElse, h, endsOfSteps_append]

/-- In place of the first others may stand that begin the same matches. -/
theorem ends_orElse_congr {a' : Choices} (h : a'.ends text = a.ends text) :
    (a'.orElse b).ends text = (a.orElse b).ends text := by
  have hstop : a'.stop.isSome = a.stop.isSome := by
    rw [Bool.eq_iff_iff, stop_isSome_iff, stop_isSome_iff, h]
  by_cases ha : a.stop.isSome = true
  · cases text with
    | nil => simp [ends, orElse, hstop, ha]
    | cons c cs =>
      simp only [ends, hstop, if_pos ha] at h
      -- what is preferred to stopping, and what is not, can be told apart by the length of nothing
      obtain ⟨hbefore, -, hafter⟩ := (List.append_cons_inj_of_notMem
        (zero_notMem_endsOfSteps c cs _) (zero_notMem_endsOfSteps c cs _)).1 h
      simp only [orElse, ends, hstop, if_pos ha, endsOfSteps_append, hbefore, hafter]
  · rw [Bool.not_eq_true, Option.isSome_eq_false_iff, Option.isNone_iff_eq_none] at ha
    rw [ha, Option.isSome_none, Option.isSome_eq_false_iff, Option.isNone_iff_eq_none] at hstop
    rw [ends_orElse hstop, ends_orElse ha, h]

@[simp]
theorem ends_fork_nothing (text : List Char) (a : Choices) :
    (fork .nothing a).ends text = a.ends text := by
  have hfork : fork .nothing a = { a with stop := a.stop.map .mark } := rfl
  cases text with
  | nil => simp only [hfork, ends, Option.isSome_map]
  | cons c cs => simp only [hfork, ends, Option.isSome_map]

end Choices

/-- What stands in an expression at a place that nothing follows matches what it matches alone. -/
theorem Rest.ends_of_choices_eq {around : Rest → Rest} {passed : Passed → Passed}
    (h : ∀ p k, (around k).choices p = (k.choices p).inside around passed)
    (before : Option Char) (text : List Char) (k : Rest) :
    (around k).ends before text = k.ends before text := by
  induction text generalizing before k with
  | nil =>
    rw [ends_eq, ends_eq, h, Choices.ends_inside passed]
    nofun
  | cons c cs ih =>
    rw [ends_eq, ends_eq, h, Choices.ends_inside passed]
    rintro _ _ ⟨⟩ k
    exact ih (some c) k

theorem Rest.ends_left (before : Option Char) (text : List Char) (k : Rest) :
    (left k).ends before text = k.ends before text :=
  ends_of_choices_eq (fun _ _ => rfl) before text k

theorem Rest.ends_right (before : Option Char) (text : List Char) (k : Rest) :
    (right k).ends before text = k.ends before text :=
  ends_of_choices_eq (fun _ _ => rfl) before text k

@[simp]
theorem Choices.ends_onLeft (text : List Char) (a : Choices) : a.onLeft.ends text = a.ends text :=
  ends_inside _ fun c cs _ k => Rest.ends_left (some c) cs k

@[simp]
theorem Choices.ends_onRight (text : List Char) (m : Passed) (a : Choices) :
    (a.onRight m).ends text = a.ends text :=
  ends_inside _ fun c cs _ k => Rest.ends_right (some c) cs k

/-! ### Sequences -/

/-- The character before the place that is `n` characters further on. -/
def beforeAt (before : Option Char) (text : List Char) : Nat → Option Char
  | 0 => before
  | n + 1 => text[n]?

namespace Regex

/-- A match of a sequence is one of the first part followed by one of the second. What the first
part prefers comes first. -/
def follow (before : Option Char) (text : List Char) (b : Regex) (n : Nat) : List Nat :=
  (ends (beforeAt before text n) (text.drop n) b).map (n + ·)

theorem follow_zero (before : Option Char) (text : List Char) (b : Regex) :
    follow before text b 0 = ends before text b := by
  simp [follow, beforeAt]

theorem follow_succ (before : Option Char) (c : Char) (cs : List Char) (b : Regex) (n : Nat) :
    follow before (c :: cs) b (n + 1) = (follow (some c) cs b n).map (· + 1) := by
  have hbefore : beforeAt before (c :: cs) (n + 1) = beforeAt (some c) cs n := by
    cases n with
    | zero => rfl
    | succ n => rfl
  rw [follow, follow, hbefore, List.map_map, List.drop_succ_cons]
  congr 1
  funext m
  simp [Nat.add_right_comm]

end Regex

theorem endsOfSteps_extend (before : Option Char) {c : Char} {cs : List Char} {steps : List Step}
    {around : Rest → Rest} {b : Regex}
    (h : ∀ step ∈ steps, (around step.2).ends (some c) cs =
      (step.2.ends (some c) cs).flatMap (b.follow (some c) cs)) :
    endsOfSteps c cs (Choices.extend around steps) =
      (endsOfSteps c cs steps).flatMap (b.follow before (c :: cs)) := by
  have hreading : ∀ k ∈ reading c steps, (around k).ends (some c) cs =
      (k.ends (some c) cs).flatMap (b.follow (some c) cs) := by
    refine List.forall_mem_map.2 fun step hstep => h step ?_
    exact (List.mem_filter.1 hstep).1
  rw [endsOfSteps, reading_extend, endsOfSteps, List.flatMap_map, List.flatMap_map,
    List.flatMap_congr hreading]
  simp only [Regex.follow_succ]
  rw [← List.map_flatMap, List.flatMap_assoc]

/-- Where the first part could stop, what follows it begins. -/
theorem Choices.ends_inside_andThen {before : Option Char} {text : List Char} {a : Choices}
    {around : Rest → Rest} {next : Passed → Choices} {b : Regex}
    (hsteps : ∀ c cs, text = c :: cs → ∀ step ∈ a.before ++ a.after,
      (around step.2).ends (some c) cs = (step.2.ends (some c) cs).flatMap (b.follow (some c) cs))
    (hnext : ∀ m, a.stop = some m → (next m).ends text = b.ends before text) :
    ((a.inside around id).andThen next).ends text =
      (a.ends text).flatMap (b.follow before text) := by
  rcases a with ⟨aBefore, _ | m, aAfter⟩
  · cases text with
    | nil => rfl
    | cons c cs =>
      have hbefore := endsOfSteps_extend before fun step hstep =>
        hsteps c cs rfl step (List.mem_append_left _ hstep)
      simp [andThen, inside, ends, hbefore]
  · have hb := hnext m rfl
    rw [andThen, inside]
    dsimp only [Option.map_some, id]
    rcases hm : next m with ⟨bBefore, stop, bAfter⟩
    rw [hm] at hb
    cases text with
    | nil =>
      cases stop with
      | none => simp [ends, Regex.follow_zero, ← hb]
      | some m' => simp [ends, Regex.follow_zero, ← hb]
    | cons c cs =>
      have hbefore := endsOfSteps_extend before fun step hstep =>
        hsteps c cs rfl step (List.mem_append_left _ hstep)
      have hafter := endsOfSteps_extend before fun step hstep =>
        hsteps c cs rfl step (List.mem_append_right _ hstep)
      cases stop with
      | none => simp [ends, endsOfSteps_append, hbefore, hafter, Regex.follow_zero, ← hb]
      | some m' => simp [ends, endsOfSteps_append, hbefore, hafter, Regex.follow_zero, ← hb]

/-- Where the first part could stop, the second begins. -/
theorem Choices.ends_followedBy {before : Option Char} {text : List Char} {a : Choices} {b : Regex}
    (h : ∀ c cs, text = c :: cs → ∀ k, (Rest.followed k b).ends (some c) cs =
      (k.ends (some c) cs).flatMap (b.follow (some c) cs)) :
    (a.followedBy b fun _ => b.choices ⟨before, text.head?⟩ .nothing).ends text =
      (a.ends text).flatMap (b.follow before text) :=
  ends_inside_andThen (fun c cs hcs step _ => h c cs hcs step.2) fun m _ => ends_onRight text m _

theorem Rest.ends_followed (before : Option Char) (text : List Char) (k : Rest) (b : Regex) :
    (followed k b).ends before text = (k.ends before text).flatMap (b.follow before text) := by
  induction text generalizing before k with
  | nil =>
    rw [ends_eq, ends_eq, choices, Choices.ends_followedBy]
    nofun
  | cons c cs ih =>
    rw [ends_eq, ends_eq, choices, Choices.ends_followedBy]
    rintro _ _ ⟨⟩ k
    exact ih (some c) k

@[simp]
theorem Rest.ends_done (before : Option Char) (text : List Char) : done.ends before text = [0] := by
  rw [ends_eq, choices, Choices.ends_done]

/-- What is left of an expression of which nothing has been read is the expression. -/
theorem Rest.ends_ofRegex (before : Option Char) (text : List Char) (r : Regex) :
    (ofRegex r).ends before text = r.ends before text := by
  rw [ofRegex, ends_followed, ends_done, List.flatMap_singleton, Regex.follow_zero]

namespace Regex

/-! ## The first match -/

theorem flatMap_filter_ne {α β : Type} [DecidableEq α] {f : α → List β} {a : α}
    (ha : f a = []) (as : List α) :
    (as.filter fun b => !b == a).flatMap f = as.flatMap f := by
  induction as with
  | nil => rfl
  | cons b as ih =>
    by_cases hb : b = a
    · rw [List.filter_cons_of_neg (by simp [hb]), ih, List.flatMap_cons, hb, ha, List.nil_append]
    · rw [List.filter_cons_of_pos (by simp [hb]), List.flatMap_cons, ih, List.flatMap_cons]

/-- A way that has been tried need not be tried again to find the first match. -/
theorem head?_flatMap_eraseDups {α β : Type} [DecidableEq α] (f : α → List β) (as : List α) :
    (as.eraseDups.flatMap f).head? = (as.flatMap f).head? := by
  -- by induction on the length, since erasing takes the copies of the first one out of the tail
  induction hlen : as.length using Nat.strongRecOn generalizing as with
  | ind n ih =>
    subst hlen
    rcases as with _ | ⟨a, as⟩
    · rfl
    · rw [List.eraseDups_cons, List.flatMap_cons, List.flatMap_cons, List.head?_append,
        List.head?_append]
      rcases hf : f a with _ | ⟨b, bs⟩
      · have hlt : (as.filter fun b => !b == a).length < (a :: as).length :=
          Nat.lt_succ_of_le (List.length_filter_le _ _)
        rw [ih _ hlt _ rfl, flatMap_filter_ne hf]
      · rfl

/-- A survey of several expressions lists what they can do, one after another, up to the first place
to stop. -/
theorem flatMap_ends_cons (before : Option Char) (c : Char) (cs : List Char)
    (threads : List Rest) :
    ∃ rest, threads.flatMap (Rest.ends before (c :: cs)) =
      endsOfSteps c cs (survey ⟨before, some c⟩ threads).1 ++
        if (survey ⟨before, some c⟩ threads).2 then 0 :: rest else [] := by
  induction threads with
  | nil => exact ⟨[], rfl⟩
  | cons k threads ih =>
    obtain ⟨rest, ih⟩ := ih
    rw [List.flatMap_cons, Rest.ends_eq, Choices.ends, List.head?_cons, survey]
    by_cases hstops : (k.choices ⟨before, some c⟩).stop.isSome = true
    · refine ⟨endsOfSteps c cs (k.choices ⟨before, some c⟩).after ++
        threads.flatMap (Rest.ends before (c :: cs)), ?_⟩
      simp only [if_pos hstops, if_true, List.append_assoc, List.cons_append]
    · refine ⟨rest, ?_⟩
      simp only [if_neg hstops, List.append_nil, ih, endsOfSteps_append, List.append_assoc]

theorem head?_flatMap_ends_nil (before : Option Char) (threads : List Rest) :
    (threads.flatMap (Rest.ends before [])).head? =
      if (survey ⟨before, none⟩ threads).2 then some 0 else none := by
  induction threads with
  | nil => rfl
  | cons k threads ih =>
    rw [List.flatMap_cons, Rest.ends, survey]
    by_cases hstops : (k.choices ⟨before, none⟩).stop.isSome = true
    · simp only [if_pos hstops, if_true, List.cons_append, List.head?_cons]
    · simp only [if_neg hstops, List.nil_append, ih]

/-- Following all expressions at once finds the first match that they have one after another, by
induction on the text. -/
theorem run_eq (threads : List Rest) (before : Option Char) (count : Nat) (best : Option Nat)
    (text : List Char) :
    run threads before count best text =
      ((threads.flatMap (Rest.ends before text)).head?.map (· + count)).or best := by
  induction text generalizing threads before count best with
  | nil =>
    rw [run, head?_flatMap_ends_nil]
    split
    · simp
    · rfl
  | cons c cs ih =>
    obtain ⟨rest, hsplit⟩ := flatMap_ends_cons before c cs threads
    rw [run, hsplit]
    rcases survey ⟨before, some c⟩ threads with ⟨steps, stops⟩
    -- no match goes further than the ways that read `c`, unless one stops here
    have hnext : (if (reading c steps).isEmpty = true then
          if stops = true then some count else best
        else run (reading c steps).eraseDups (some c) (count + 1)
          (if stops = true then some count else best) cs) =
        (((reading c steps).flatMap (Rest.ends (some c) cs)).head?.map (· + (count + 1))).or
          (if stops = true then some count else best) := by
      split
      · next hempty =>
        rw [List.isEmpty_iff.1 hempty]
        rfl
      · rw [ih, head?_flatMap_eraseDups]
    refine hnext.trans ?_
    rw [endsOfSteps, List.head?_append, List.head?_map]
    rcases ((reading c steps).flatMap (Rest.ends (some c) cs)).head? with _ | n
    · cases stops with
      | true => simp
      | false => rfl
    · simp [Nat.add_assoc, Nat.add_comm 1]

/-- **The match is the first of all matches.** The one that is found by following all ways at once
is the one that trying them in order of preference comes to first. -/
theorem matchLength?_eq_head?_ends (r : Regex) (text : List Char) :
    r.matchLength? text = (ends none text r).head? := by
  rw [matchLength?, run_eq, List.flatMap_singleton, Rest.ends_ofRegex]
  simp

/-- To leave a repetition whose body has read nothing is preferred to what the body prefers less. -/
example :
    matchLength? (.loop true 0 none (.seq (.loop true 0 (some 1) (.set (.single 'a')))
      (.loop false 0 (some 1) (.set (.single 'b'))))) ['a', 'b'] = some 1 := by
  decide

/-! ## The matches of an expression, from those of its parts -/

@[simp]
theorem ends_empty (before : Option Char) (text : List Char) : ends before text .empty = [0] :=
  Choices.ends_done text

@[simp]
theorem ends_group (before : Option Char) (text : List Char) (captures : Bool) (r : Regex) :
    ends before text (.group captures r) = ends before text r :=
  rfl

theorem ends_set_cons (before : Option Char) (s : CharSet) (c : Char) (cs : List Char) :
    ends before (c :: cs) (.set s) = if s.contains c then [1] else [] := by
  rw [ends, choices, Choices.ends, endsOfSteps_singleton]
  simp

theorem follow_empty (before : Option Char) (text : List Char) (n : Nat) :
    follow before text .empty n = [n] := by
  simp [follow]

theorem ends_seq (before : Option Char) (text : List Char) (a b : Regex) :
    ends before text (.seq a b) = (ends before text a).flatMap (follow before text b) :=
  Choices.ends_followedBy fun c cs _ k => Rest.ends_followed (some c) cs k b

/-- What an expression matches is told by its choices at the place. -/
theorem ends_congr {before : Option Char} {text : List Char} {r r' : Regex}
    (h : r.choices ⟨before, text.head?⟩ .nothing = r'.choices ⟨before, text.head?⟩ .nothing) :
    ends before text r = ends before text r' := by
  rw [ends, ends, h]

theorem stop_eq_none {before : Option Char} {text : List Char} {r : Regex}
    (h : 0 ∉ ends before text r) : (r.choices ⟨before, text.head?⟩ .nothing).stop = none :=
  Choices.stop_eq_none h

theorem ends_alt_eq (before : Option Char) (text : List Char) (a b : Regex) :
    ends before text (.alt a b) =
      ((a.choices ⟨before, text.head?⟩ .nothing).onLeft.orElse
        ((b.choices ⟨before, text.head?⟩ .nothing).onRight .nothing)).ends text :=
  Choices.ends_fork_nothing text _

/-- The matches of the first alternative come before those of the second. -/
theorem ends_alt {before : Option Char} {text : List Char} {a b : Regex}
    (h : 0 ∉ ends before text a) :
    ends before text (.alt a b) = ends before text a ++ ends before text b := by
  rw [ends_alt_eq, Choices.ends_orElse, Choices.ends_onLeft, Choices.ends_onRight]
  · rfl
  · rw [Choices.onLeft, Choices.inside, stop_eq_none h, Option.map_none]

/-- In place of the first alternative another one may stand that matches the same. -/
theorem ends_alt_congr {before : Option Char} {text : List Char} {a a' : Regex} (b : Regex)
    (h : ends before text a' = ends before text a) :
    ends before text (.alt a' b) = ends before text (.alt a b) := by
  rw [ends_alt_eq, ends_alt_eq]
  refine Choices.ends_orElse_congr ?_
  rw [Choices.ends_onLeft, Choices.ends_onLeft]
  exact h

/-! ## Repetitions -/

theorem zero_notMem_ends_seq_set (before : Option Char) (text : List Char) (s : CharSet)
    (b : Regex) : 0 ∉ ends before text (.seq (.set s) b) := by
  rw [ends, ← Choices.stop_isSome_iff]
  exact Bool.false_ne_true

theorem ends_seq_set_cons (before : Option Char) (s : CharSet) (b : Regex) (c : Char)
    (cs : List Char) :
    ends before (c :: cs) (.seq (.set s) b) =
      if s.contains c then (ends (some c) cs b).map (· + 1) else [] := by
  rw [ends_seq, ends_set_cons]
  split
  · rw [List.flatMap_singleton, follow_succ, follow_zero]
  · rfl

end Regex

/-- What a repetition of the characters of a set leaves after one of them. -/
theorem Rest.ends_again_set (before : Option Char) (text : List Char) (s : CharSet) :
    (again true .done (.set s)).ends before text =
      (List.range ((text.takeWhile s.contains).length + 1)).reverse := by
  induction text generalizing before with
  | nil => rfl
  | cons c cs ih =>
    have hchoices : (again true .done (.set s)).choices ⟨before, some c⟩ =
        ⟨[(s, again true .done (.set s))], some (.node true .nothing .nothing), []⟩ := rfl
    rw [ends_eq, List.head?_cons, hchoices, Choices.ends, endsOfSteps_singleton, ih,
      List.takeWhile_cons]
    split
    · conv_rhs => rw [List.length_cons, List.range_succ_eq_map, List.reverse_cons]
      rw [List.map_reverse]
      rfl
    · rfl

namespace Regex

/-- Any number of characters of a set: as many as there are, or else one less, down to none. -/
theorem ends_any_set (before : Option Char) (text : List Char) (s : CharSet) :
    ends before text (.loop true 0 none (.set s)) =
      (List.range ((text.takeWhile s.contains).length + 1)).reverse := by
  rw [← Rest.ends_again_set before, Rest.ends_eq]
  rfl

/-- One or more characters of a set are one and then any number of them. -/
theorem ends_some_set_eq_seq (before : Option Char) (text : List Char) (s : CharSet) :
    ends before text (.loop true 1 none (.set s)) =
      ends before text (.seq (.set s) (.loop true 0 none (.set s))) := by
  cases text with
  | nil => rfl
  | cons c cs =>
    have hchoices : (loop true 1 none (.set s)).choices ⟨before, some c⟩ .nothing =
        ⟨[(s, .again true .done (.set s))], none, []⟩ := rfl
    rw [ends_seq_set_cons, ends_any_set, ends, List.head?_cons, hchoices, Choices.ends,
      endsOfSteps_singleton, Rest.ends_again_set]
    exact List.append_nil _

/-- One or more characters of a set: as many as there are, or else one less, down to one. -/
theorem ends_some_set (before : Option Char) (text : List Char) (s : CharSet) :
    ends before text (.loop true 1 none (.set s)) =
      ((List.range (text.takeWhile s.contains).length).map (· + 1)).reverse := by
  rw [ends_some_set_eq_seq]
  cases text with
  | nil => rfl
  | cons c cs =>
    rw [ends_seq_set_cons, ends_any_set, List.takeWhile_cons]
    split
    · rw [List.map_reverse]
      rfl
    · rfl

/-- What may be left out is left out only as the last resort. -/
theorem ends_optional {before : Option Char} {text : List Char} {r : Regex}
    (h : 0 ∉ ends before text r) :
    ends before text (.loop true 0 (some 1) r) = ends before text r ++ [0] := by
  have hfollow : follow before text (.loop true 0 (some 0) r) = fun n => [n] := by
    funext n
    exact follow_empty before text n
  -- the repetition that follows is none
  have hbody : Choices.ends ((r.choices ⟨before, text.head?⟩ .nothing).followedBy
      (.loop true 0 (some 0) r) fun _ => .done) text = ends before text r := by
    rw [← List.flatMap_singleton' (ends before text r), ← hfollow]
    exact Choices.ends_followedBy fun c cs _ k => Rest.ends_followed (some c) cs k _
  have hstop := Choices.stop_eq_none (by rw [hbody]; exact h)
  refine (Choices.ends_fork_nothing text _).trans ((Choices.ends_orElse hstop).trans ?_)
  exact congrArg₂ (· ++ ·) hbody (Choices.ends_done text)

/-! ## Lengths of matches -/

/-- A condition is matched by nothing, where it holds. -/
theorem ends_look (before : Option Char) (text : List Char) (l : Look) :
    ends before text (.look l) = if l.holds ⟨before, text.head?⟩ then [0] else [] := by
  rw [ends, choices]
  split
  · exact Choices.ends_done text
  · exact Choices.ends_never text

/-- A match of a sequence is divided into one of the first part and one of the second. -/
theorem mem_ends_seq {before : Option Char} {text : List Char} {a b : Regex} {n : Nat} :
    n ∈ ends before text (.seq a b) ↔ ∃ i ∈ ends before text a,
      ∃ j ∈ ends (beforeAt before text i) (text.drop i) b, i + j = n := by
  simp [ends_seq, follow]

/-- One character of a set, and then what follows it. -/
theorem mem_ends_seq_set {before : Option Char} {text : List Char} {s : CharSet} {b : Regex}
    {n : Nat} :
    n ∈ ends before text (.seq (.set s) b) ↔ ∃ c cs, text = c :: cs ∧ s.contains c = true ∧
      ∃ m ∈ ends (some c) cs b, m + 1 = n := by
  cases text with
  | nil =>
    have hnil : ends before [] (.seq (.set s) b) = [] := rfl
    simp [hnil]
  | cons c cs =>
    rw [ends_seq_set_cons]
    by_cases hc : s.contains c = true
    · simp [hc]
    · simp [hc]

/-- Any number of characters of a set may be read, as long as there are such. -/
theorem mem_ends_any_set {before : Option Char} {text : List Char} {s : CharSet} {n : Nat} :
    n ∈ ends before text (.loop true 0 none (.set s)) ↔
      ∃ run rest, run ++ rest = text ∧ (∀ c ∈ run, s.contains c = true) ∧ run.length = n := by
  rw [ends_any_set, List.mem_reverse, List.mem_range, Nat.lt_succ_iff]
  constructor
  · intro hn
    refine ⟨(text.takeWhile s.contains).take n,
      (text.takeWhile s.contains).drop n ++ text.dropWhile s.contains, ?_, fun c hc => ?_, ?_⟩
    · rw [← List.append_assoc, List.take_append_drop, List.takeWhile_append_dropWhile]
    · exact List.all_eq_true.1 List.all_takeWhile c (List.mem_of_mem_take hc)
    · rw [List.length_take, Nat.min_eq_left hn]
  · rintro ⟨run, rest, rfl, hrun, rfl⟩
    rw [List.takeWhile_append_of_pos hrun, List.length_append]
    exact Nat.le_add_right _ _

/-! ## Anchors -/

/-- At the start of the text an anchor does nothing. -/
theorem ends_anchored (text : List Char) (r : Regex) :
    ends none text (.seq (.look .textStart) r) = ends none text r := by
  have hanchor : ends none text (.look .textStart) = [0] := by
    rw [← ends_empty none text]
    exact ends_congr rfl
  rw [ends_seq, hanchor, List.flatMap_singleton, follow_zero]

theorem ends_andThen (before : Option Char) (text : List Char) (a b : Regex) :
    ends before text (a.andThen b) = (ends before text a).flatMap (follow before text b) := by
  rw [andThen.eq_def]
  split
  · rw [ends_empty, List.flatMap_singleton, follow_zero]
  · rw [funext (follow_empty before text), List.flatMap_singleton']
  · exact ends_seq before text _ _

/-- An anchored expression matches what the expression matches at the start of the text, and nothing
elsewhere. -/
theorem ends_anchor_andThen (before : Option Char) (text : List Char) (r : Regex) :
    ends before text (.andThen (.look .textStart) r) =
      if before = none then ends none text r else [] := by
  rw [ends_andThen]
  cases before with
  | none => rw [← ends_seq, ends_anchored, if_pos rfl]
  | some c =>
    have hnever : ends (some c) text (.look .textStart) = [] := by
      cases text with
      | nil => rfl
      | cons d cs => rfl
    rw [hnever, if_neg (Option.some_ne_none c), List.flatMap_nil]

/-! ## Searching -/

/-- The first place after `before` where there is a match, counted from there, and the length of the
match that is preferred at the place. -/
def findAfter? (r : Regex) (before : Option Char) : List Char → Option (Nat × Nat)
  | [] => (ends before [] r).head?.map fun n => (0, n)
  | c :: cs =>
    ((ends before (c :: cs) r).head?.map fun n => (0, n)).or
      ((findAfter? r (some c) cs).map fun found => (found.1 + 1, found.2))

/-- Where a text has its first match, and how long the preferred match is there. -/
def find? (r : Regex) (text : List Char) : Option (Nat × Nat) := r.findAfter? none text

/-- Wherever an anchored expression is searched for, it is found at the start or not at all. -/
theorem find?_anchor_andThen (r : Regex) (text : List Char) :
    find? (.andThen (.look .textStart) r) text =
      (ends none text r).head?.map fun n => (0, n) := by
  have hlater : ∀ (cs : List Char) (c : Char),
      findAfter? (.andThen (.look .textStart) r) (some c) cs = none := by
    intro cs
    induction cs with
    | nil =>
      intro c
      rw [findAfter?, ends_anchor_andThen, if_neg (Option.some_ne_none c)]
      rfl
    | cons d cs ih =>
      intro c
      rw [findAfter?, ends_anchor_andThen, if_neg (Option.some_ne_none c), ih d]
      rfl
  cases text with
  | nil => rw [find?, findAfter?, ends_anchor_andThen, if_pos rfl]
  | cons c cs =>
    rw [find?, findAfter?, ends_anchor_andThen, if_pos rfl, hlater cs c]
    exact Option.or_none

end Regex

end Locus
