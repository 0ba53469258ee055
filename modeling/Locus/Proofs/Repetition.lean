import Locus.Proofs.Regex

/-!
# One repetition after another

A repetition is its body and then what is left of the repetition. A repetition without an upper
bound is resumed from inside its body, where forks may have been passed since the last character; if
the body always reads something, no such fork comes before the next character. Main statement: then
this repetition, too, is its body and then the repetition again.
-/

namespace Locus

open Regex (follow)

/-! ## Bodies that always read something -/

namespace Choices

variable {a b : Choices}

theorem andThen_of_none (h : a.stop = none) (next : Passed → Choices) :
    a.andThen next = ⟨a.before, none, []⟩ := by
  rw [andThen, h]

/-- If a part cannot stop, all its ways are preferred. -/
theorem after_andThen {next : Passed → Choices} (h : (a.andThen next).stop = none) :
    (a.andThen next).after = [] := by
  rcases ha : a.stop with _ | m
  · rw [andThen_of_none ha]
  · rw [andThen, ha] at h ⊢
    dsimp only at h ⊢
    split
    · next hb =>
      rw [if_pos hb] at h
      dsimp only at h
      rw [h] at hb
      cases hb
    · rfl

theorem stop_andThen {next : Passed → Choices} {m : Passed} :
    (a.andThen next).stop = some m ↔ ∃ m', a.stop = some m' ∧ (next m').stop = some m := by
  rcases ha : a.stop with _ | m'
  · simp [andThen, ha]
  · rcases hb : (next m').stop with _ | m''
    · simp [andThen, ha, hb]
    · simp [andThen, ha, hb]

theorem stop_followedBy {r : Regex} {next : Unit → Choices} {m : Passed} :
    (a.followedBy r next).stop = some m ↔
      ∃ ma mb, a.stop = some ma ∧ (next ()).stop = some mb ∧ .node false ma mb = m := by
  simp [followedBy, stop_andThen, inside, onRight]

theorem stop_further (greedy : Bool) (body : Regex) (choices : Passed → Choices) (m : Passed) :
    (further greedy body choices m).stop = some (.node true m .nothing) := by
  rw [further]
  split
  · rfl
  · rfl

/-- What follows a part that cannot stop makes no difference. -/
theorem followedBy_of_none (h : a.stop = none) (r : Regex) (next next' : Unit → Choices) :
    a.followedBy r next = a.followedBy r next' := by
  have hstop : (a.inside (.followed · r) id).stop = none := by rw [inside, h, Option.map_none]
  rw [followedBy, followedBy, andThen_of_none hstop, andThen_of_none hstop]

end Choices

/-- An expression that always reads something cannot stop before it has read it. -/
theorem Regex.stop_choices {r : Regex} (h : r.mayBeEmpty = false) (p : Place) (m : Passed) :
    (r.choices p m).stop = none := by
  induction r generalizing m with
  | empty => cases h
  | look => cases h
  | set => rfl
  | seq a b iha ihb =>
    rw [Option.eq_none_iff_forall_ne_some]
    intro m' hm'
    obtain ⟨ma, mb, ha, hb, -⟩ := Choices.stop_followedBy.1 hm'
    rw [mayBeEmpty, Bool.and_eq_false_iff] at h
    rcases h with h | h
    · cases (iha h _).symm.trans ha
    · cases (ihb h _).symm.trans hb
  | alt a b iha ihb =>
    rw [mayBeEmpty, Bool.or_eq_false_iff] at h
    rw [choices, Choices.fork]
    split
    · rfl
    · simp [Choices.orElse, Choices.onLeft, Choices.onRight, Choices.inside, iha h.1, ihb h.2]
  | loop greedy least more body ih =>
    rw [mayBeEmpty, Bool.or_eq_false_iff, decide_eq_false_iff_not] at h
    obtain ⟨n, rfl⟩ := Nat.exists_eq_succ_of_ne_zero h.1
    have hturn {b : Regex} {next : Unit → Choices} :
        ((body.choices p m.left).followedBy b next).stop = none := by
      rw [Option.eq_none_iff_forall_ne_some]
      intro m' hm'
      obtain ⟨ma, -, ha, -⟩ := Choices.stop_followedBy.1 hm'
      cases (ih h.2 _).symm.trans ha
    rcases more with _ | more
    · rcases n with _ | n
      · rw [choices, Choices.atLeast, Choices.onceOrMore, Choices.andThen_of_none]
        rw [Choices.inside, ih h.2, Option.map_none]
      · exact hturn
    · exact hturn
  | group _ r ih => exact ih h m

/-! ## What is left of an expression -/

/-- What may be left of an expression of which a character has been read. -/
inductive Regex.Leaves : Regex → Rest → Prop where
  | set (s : CharSet) : Leaves (.set s) .done
  | first {a : Regex} {k : Rest} (h : a.Leaves k) (b : Regex) : Leaves (.seq a b) (.followed k b)
  | second (a : Regex) {b : Regex} {k : Rest} (h : b.Leaves k) : Leaves (.seq a b) (.right k)
  | left {a : Regex} {k : Rest} (h : a.Leaves k) (b : Regex) : Leaves (.alt a b) (.left k)
  | right (a : Regex) {b : Regex} {k : Rest} (h : b.Leaves k) : Leaves (.alt a b) (.right k)
  | group (captures : Bool) {r : Regex} {k : Rest} (h : r.Leaves k) : Leaves (.group captures r) k
  /-- The character was read in the first repetition, and others follow. -/
  | turn {greedy : Bool} {body : Regex} {k : Rest} (h : body.Leaves k) (n n' : Nat)
      (more more' : Option Nat) :
      Leaves (.loop greedy n more body) (.followed k (.loop greedy n' more' body))
  /-- The character was read in a later repetition. -/
  | later {greedy : Bool} {body : Regex} {k : Rest} {n' : Nat} {more' : Option Nat}
      (h : Leaves (.loop greedy n' more' body) k) (n : Nat) (more : Option Nat) :
      Leaves (.loop greedy n more body) (.right k)
  | again (greedy : Bool) {body : Regex} {k : Rest} (h : body.Leaves k) (n : Nat) :
      Leaves (.loop greedy n none body) (.again greedy k body)
  | anyNumber (greedy : Bool) {body : Regex} {k : Rest} (h : body.Leaves k) :
      Leaves (.loop greedy 0 none body) (.left (.again greedy k body))

namespace Choices

/-- All ways to go on leave something with the property, and if one cannot stop, no way is less
preferred than to stop. -/
structure Leave (P : Rest → Prop) (a : Choices) : Prop where
  before : ∀ step ∈ a.before, P step.2
  after : ∀ step ∈ a.after, P step.2
  after_eq_nil : a.stop = none → a.after = []

namespace Leave

variable {P Q R : Rest → Prop} {a b : Choices}

theorem step (ha : a.Leave P) {step : Step} (h : step ∈ a.before ++ a.after) : P step.2 :=
  (List.mem_append.1 h).elim (ha.before step) (ha.after step)

theorem mono (ha : a.Leave P) (h : ∀ k, P k → Q k) : a.Leave Q :=
  ⟨fun step hstep => h _ (ha.before step hstep), fun step hstep => h _ (ha.after step hstep),
    ha.after_eq_nil⟩

theorem done : done.Leave P := ⟨List.forall_mem_nil _, List.forall_mem_nil _, nofun⟩

theorem never : never.Leave P := ⟨List.forall_mem_nil _, List.forall_mem_nil _, fun _ => rfl⟩

theorem orElse (ha : a.Leave P) (hb : b.Leave P) : (a.orElse b).Leave P := by
  rw [Choices.orElse]
  split
  · next hstop =>
    refine ⟨ha.before, ?_, fun hnone => ?_⟩
    · simpa only [List.forall_mem_append] using ⟨⟨ha.after, hb.before⟩, hb.after⟩
    · dsimp only at hnone
      rw [hnone] at hstop
      cases hstop
  · exact ⟨by simpa only [List.forall_mem_append] using ⟨ha.before, hb.before⟩, hb.after,
      hb.after_eq_nil⟩

theorem inside (ha : a.Leave P) {around : Rest → Rest} (h : ∀ k, P k → Q (around k))
    (passed : Passed → Passed) : (a.inside around passed).Leave Q where
  before := List.forall_mem_map.2 fun step hstep => h _ (ha.before step hstep)
  after := List.forall_mem_map.2 fun step hstep => h _ (ha.after step hstep)
  after_eq_nil hstop := by
    rw [Choices.inside, ha.after_eq_nil (Option.map_eq_none_iff.1 hstop)]
    rfl

theorem andThen (ha : a.Leave P) {next : Passed → Choices} (h : ∀ m, (next m).Leave P) :
    (a.andThen next).Leave P := by
  have hways : (∀ step ∈ (a.andThen next).before, P step.2) ∧
      ∀ step ∈ (a.andThen next).after, P step.2 := by
    rw [Choices.andThen]
    split
    · exact ⟨ha.before, List.forall_mem_nil _⟩
    · next m hm =>
      dsimp only
      split
      · simpa only [List.forall_mem_append] using
          ⟨⟨ha.before, (h m).before⟩, (h m).after, ha.after⟩
      · simpa only [List.forall_mem_append] using
          And.intro ⟨⟨ha.before, (h m).before⟩, ha.after⟩ (List.forall_mem_nil _)
  exact ⟨hways.1, hways.2, after_andThen⟩

theorem followedBy (ha : a.Leave P) {r : Regex} {next : Unit → Choices} (hb : (next ()).Leave Q)
    (hfirst : ∀ k, P k → R (.followed k r)) (hsecond : ∀ k, Q k → R (.right k)) :
    (a.followedBy r next).Leave R :=
  (ha.inside hfirst id).andThen fun _ => hb.inside hsecond _

theorem fork (ha : a.Leave P) (m : Passed) : (Choices.fork m a).Leave P := by
  rw [Choices.fork]
  split
  · exact never
  · exact ⟨ha.before, ha.after, fun hstop => ha.after_eq_nil (Option.map_eq_none_iff.1 hstop)⟩

theorem orStop (ha : a.Leave P) (greedy : Bool) : (Choices.orStop greedy a).Leave P := by
  rw [Choices.orStop]
  split
  · exact ha.orElse done
  · exact done.orElse ha

variable {greedy : Bool} {body : Regex} {choices : Passed → Choices}

theorem upTo (h : ∀ m, (choices m).Leave body.Leaves) (n n' : Nat) (more : Option Nat)
    (m : Passed) :
    (Choices.upTo greedy body choices n m).Leave (Regex.Leaves (.loop greedy n' more body)) := by
  induction n generalizing n' more m with
  | zero => exact done
  | succ n ih =>
    refine (orStop ?_ greedy).fork m
    exact (h m.left).followedBy (ih 0 none m.right) (fun k hk => hk.turn n' 0 more (some n))
      (fun k hk => hk.later n' more)

theorem further (h : ∀ m, (choices m).Leave body.Leaves)
    (hagain : ∀ k, body.Leaves k → P (.again greedy k body)) (m : Passed) :
    (Choices.further greedy body choices m).Leave P := by
  have hmore : ∀ step ∈ extend (.again greedy · body) ((choices m).before ++ (choices m).after),
      P step.2 := by
    refine List.forall_mem_map.2 (List.forall_mem_append.2 ⟨?_, ?_⟩)
    · exact fun step hstep => hagain _ ((h m).before step hstep)
    · exact fun step hstep => hagain _ ((h m).after step hstep)
  rw [Choices.further]
  split
  · exact ⟨hmore, List.forall_mem_nil _, nofun⟩
  · exact ⟨List.forall_mem_nil _, hmore, nofun⟩

theorem onceOrMore (h : ∀ m, (choices m).Leave body.Leaves)
    (hagain : ∀ k, body.Leaves k → P (.again greedy k body)) (m : Passed) :
    (Choices.onceOrMore greedy body choices m).Leave P := by
  refine ((h m.left).inside hagain id).andThen fun m' => ?_
  split
  · exact never
  · exact further h hagain m'

theorem anyNumber (h : ∀ m, (choices m).Leave body.Leaves) (m : Passed) :
    (Choices.anyNumber greedy body choices m).Leave (Regex.Leaves (.loop greedy 0 none body)) := by
  rw [Choices.anyNumber]
  split
  · refine (orStop ?_ greedy).fork m
    exact (onceOrMore (P := fun k => Regex.Leaves _ (.left k)) h
      (fun k hk => hk.anyNumber greedy) m.left).inside (fun _ hk => hk) _
  · split
    · exact never
    · exact further h (fun k hk => hk.again greedy 0) m.left

theorem atLeast (h : ∀ m, (choices m).Leave body.Leaves) (n : Nat) (m : Passed) :
    (Choices.atLeast greedy body choices n m).Leave (Regex.Leaves (.loop greedy n none body)) := by
  induction n using Nat.strongRecOn generalizing m with
  | ind n ih =>
    rcases n with _ | _ | n
    · exact anyNumber h m
    · exact onceOrMore h (fun k hk => hk.again greedy 1) m
    · exact (h m.left).followedBy (ih (n + 1) (Nat.lt_succ_self _) m.right)
        (fun k hk => hk.turn (n + 2) (n + 1) none none) (fun k hk => hk.later (n + 2) none)

theorem between (h : ∀ m, (choices m).Leave body.Leaves) (more n : Nat) (m : Passed) :
    (Choices.between greedy body choices more n m).Leave
      (Regex.Leaves (.loop greedy n (some more) body)) := by
  induction n generalizing m with
  | zero => exact upTo h more 0 (some more) m
  | succ n ih =>
    exact (h m.left).followedBy (ih m.right)
      (fun k hk => hk.turn (n + 1) n (some more) (some more))
      (fun k hk => hk.later (n + 1) (some more))

end Leave

end Choices

theorem Regex.choices_leave (p : Place) (r : Regex) (m : Passed) :
    (r.choices p m).Leave r.Leaves := by
  induction r generalizing m with
  | empty => exact .done
  | look l =>
    rw [choices]
    split
    · exact .done
    · exact .never
  | set s => exact ⟨List.forall_mem_singleton.2 (.set s), List.forall_mem_nil _, fun _ => rfl⟩
  | seq a b iha ihb =>
    exact (iha m.left).followedBy (ihb m.right) (fun k hk => hk.first b) (fun k hk => hk.second a)
  | alt a b iha ihb =>
    exact (((iha m.left).inside (fun k hk => hk.left b) _).orElse
      ((ihb m.right).inside (fun k hk => hk.right a) _)).fork m
  | loop greedy least more body ih =>
    cases more with
    | none => exact .atLeast ih least m
    | some more => exact .between ih more least m
  | group captures r ih => exact (ih m).mono fun k hk => hk.group captures

/-- What is left of an expression after one more character is left of it, too. -/
theorem Regex.Leaves.choices_leave {r : Regex} {k : Rest} (h : r.Leaves k) (p : Place) :
    (k.choices p).Leave r.Leaves := by
  induction h with
  | set s => exact .done
  | first _ b ih =>
    exact ih.followedBy (Regex.choices_leave p b .nothing) (fun k hk => hk.first b)
      (fun k hk => hk.second _)
  | second a _ ih => exact ih.inside (fun k hk => hk.second a) _
  | left _ b ih => exact ih.inside (fun k hk => hk.left b) _
  | right a _ ih => exact ih.inside (fun k hk => hk.right a) _
  | group captures _ ih => exact ih.mono fun k hk => hk.group captures
  | turn _ n n' more more' ih =>
    exact ih.followedBy (Regex.choices_leave p _ .nothing)
      (fun k hk => hk.turn n n' more more') (fun k hk => hk.later n more)
  | later _ n more ih => exact ih.inside (fun k hk => hk.later n more) _
  | again greedy _ n ih =>
    refine (ih.inside (fun k hk => hk.again greedy n) id).andThen fun m => ?_
    exact .further (Regex.choices_leave p _) (fun k hk => hk.again greedy n) m
  | @anyNumber greedy body k _ ih =>
    let Q (k : Rest) : Prop := Leaves (.loop greedy 0 none body) (.left k)
    have hbody : ((k.choices p).inside (.again greedy · body) id).Leave Q :=
      .inside ih (Q := Q) (fun k hk => hk.anyNumber greedy) id
    have hwhole : ((Rest.again greedy k body).choices p).Leave Q :=
      hbody.andThen (.further (Regex.choices_leave p body) fun k hk => hk.anyNumber greedy)
    exact Choices.Leave.inside (Q := Leaves _) hwhole (fun _ hk => hk) _

/-! ## The forks behind the last character -/

/-- Of what has been passed in a repetition that always reads something, only what has been passed
in its first body counts. -/
theorem Regex.choices_loop {greedy : Bool} {n : Nat} {more : Option Nat} {body : Regex}
    (h : (loop greedy n more body).mayBeEmpty = false) {p : Place} {m : Passed}
    (hm : body.choices p m.left = body.choices p .nothing) :
    (loop greedy n more body).choices p m = (loop greedy n more body).choices p .nothing := by
  rw [mayBeEmpty, Bool.or_eq_false_iff, decide_eq_false_iff_not] at h
  obtain ⟨n, rfl⟩ := Nat.exists_eq_succ_of_ne_zero h.1
  have hstop := stop_choices h.2 p .nothing
  rcases more with _ | more
  · rcases n with _ | n
    · have hinside : ((body.choices p .nothing).inside (.again greedy · body) id).stop = none := by
        rw [Choices.inside, hstop, Option.map_none]
      simp only [choices, Choices.atLeast, Choices.onceOrMore, hm]
      rw [Choices.andThen_of_none hinside]
      exact (Choices.andThen_of_none hinside _).symm
    · simp only [choices, Choices.atLeast, hm]
      exact Choices.followedBy_of_none hstop _ _ _
  · simp only [choices, Choices.between, hm]
    exact Choices.followedBy_of_none hstop _ _ _

/-- **A fresh start.** If an expression always reads something, nothing that has been passed since
the last character stands in the way of reading it again. -/
theorem Regex.Leaves.choices_eq {r : Regex} {k : Rest} (h : r.Leaves k)
    (hr : r.mayBeEmpty = false) {p : Place} {m : Passed} (hm : (k.choices p).stop = some m) :
    r.choices p m = r.choices p .nothing := by
  induction h generalizing m with
  | set s => rfl
  | first _ b ih =>
    obtain ⟨ma, mb, hma, hmb, rfl⟩ := Choices.stop_followedBy.1 hm
    rw [mayBeEmpty, Bool.and_eq_false_iff] at hr
    rcases hr with ha | hb
    · simp only [choices, Passed.left, ih ha hma]
      exact Choices.followedBy_of_none (stop_choices ha p _) _ _ _
    · cases (stop_choices hb p .nothing).symm.trans hmb
  | second a _ ih =>
    obtain ⟨mb, hmb, rfl⟩ := Option.map_eq_some_iff.1 hm
    rw [mayBeEmpty, Bool.and_eq_false_iff] at hr
    rcases hr with ha | hb
    · exact Choices.followedBy_of_none (stop_choices ha p _) _ _ _
    · simp only [choices, Passed.left, Passed.right, ih hb hmb]
  | left _ b ih =>
    obtain ⟨ma, hma, rfl⟩ := Option.map_eq_some_iff.1 hm
    rw [mayBeEmpty, Bool.or_eq_false_iff] at hr
    simp only [choices, Passed.left, Passed.right, ih hr.1 hma]
    rfl
  | right a _ ih =>
    obtain ⟨mb, hmb, rfl⟩ := Option.map_eq_some_iff.1 hm
    rw [mayBeEmpty, Bool.or_eq_false_iff] at hr
    simp only [choices, Passed.left, Passed.right, ih hr.2 hmb]
    rfl
  | group captures _ ih => exact ih hr hm
  | turn _ n n' more more' ih =>
    obtain ⟨ma, mb, hma, -, rfl⟩ := Choices.stop_followedBy.1 hm
    refine choices_loop hr (ih ?_ hma)
    rw [mayBeEmpty, Bool.or_eq_false_iff] at hr
    exact hr.2
  | later _ n more ih =>
    obtain ⟨mb, -, rfl⟩ := Option.map_eq_some_iff.1 hm
    exact choices_loop hr rfl
  | again greedy _ n ih =>
    obtain ⟨ma, hma, hm⟩ := Choices.stop_andThen.1 hm
    rw [Choices.inside, Option.map_id_fun, id] at hma
    rw [Choices.stop_further] at hm
    cases hm
    refine choices_loop hr (ih ?_ hma)
    rw [mayBeEmpty, Bool.or_eq_false_iff] at hr
    exact hr.2
  | anyNumber greedy _ ih => cases hr

/-! ## The matches of repetitions -/

namespace Regex

variable {body : Regex}

/-- The first of several repetitions is followed by the others. -/
theorem ends_loop_succ (before : Option Char) (text : List Char) (greedy : Bool) (n more : Nat)
    (body : Regex) :
    ends before text (.loop greedy (n + 1) (some more) body) =
      (ends before text body).flatMap (follow before text (.loop greedy n (some more) body)) :=
  Choices.ends_followedBy fun c cs _ k => Rest.ends_followed (some c) cs k _

theorem ends_loop_succ_succ (before : Option Char) (text : List Char) (greedy : Bool) (n : Nat)
    (body : Regex) :
    ends before text (.loop greedy (n + 2) none body) =
      (ends before text body).flatMap (follow before text (.loop greedy (n + 1) none body)) :=
  Choices.ends_followedBy fun c cs _ k => Rest.ends_followed (some c) cs k _

theorem choices_anyNumber (h : body.mayBeEmpty = false) (greedy : Bool) (p : Place) :
    (loop greedy 0 none body).choices p .nothing =
      .further greedy body (body.choices p) .nothing := by
  simp only [choices, Choices.atLeast, Choices.anyNumber, h]
  rfl

end Regex

/-- Where a body that has read something could stop, the repetition goes on as from its start. -/
theorem Regex.Leaves.ends_further {body : Regex} {k : Rest} (h : body.Leaves k)
    (hbody : body.mayBeEmpty = false) {before : Option Char} {text : List Char} (greedy : Bool)
    {m : Passed} (hm : (k.choices ⟨before, text.head?⟩).stop = some m) :
    (Choices.further greedy body (body.choices ⟨before, text.head?⟩) m).ends text =
      ends before text (.loop greedy 0 none body) := by
  rw [ends, choices_anyNumber hbody, Choices.further, Choices.further, h.choices_eq hbody hm]
  cases text with
  | nil => cases greedy <;> rfl
  | cons c cs => cases greedy <;> rfl

theorem Rest.ends_again {body : Regex} {k : Rest} (h : body.Leaves k)
    (hbody : body.mayBeEmpty = false) (before : Option Char) (text : List Char) (greedy : Bool) :
    (again greedy k body).ends before text =
      (k.ends before text).flatMap (follow before text (.loop greedy 0 none body)) := by
  induction text generalizing before k with
  | nil =>
    rw [ends_eq, ends_eq]
    exact Choices.ends_inside_andThen nofun fun m hm => h.ends_further hbody greedy hm
  | cons c cs ih =>
    rw [ends_eq, ends_eq]
    refine Choices.ends_inside_andThen ?_ fun m hm => h.ends_further hbody greedy hm
    rintro _ _ ⟨⟩ step hstep
    exact ih ((h.choices_leave _).step hstep) (some c)

namespace Regex

variable {body : Regex}

/-- **One after another.** What a body that always reads something is repeated for at least once is
the body and then any number of repetitions. -/
theorem ends_loop_one (h : body.mayBeEmpty = false) (before : Option Char) (text : List Char)
    (greedy : Bool) :
    ends before text (.loop greedy 1 none body) =
      (ends before text body).flatMap (follow before text (.loop greedy 0 none body)) := by
  refine Choices.ends_inside_andThen ?_ fun m hm => ?_
  · rintro c cs - step hstep
    exact Rest.ends_again ((choices_leave _ body .nothing).step hstep) h (some c) cs greedy
  · cases (stop_choices h _ .nothing).symm.trans hm

end Regex

end Locus
