import Locus.Proofs.PatternElements
import Locus.Proofs.Simplify

/-!
# Patterns inside an anchored group

The reading of a pattern is followed in three other places: behind a circumflex, inside a group, and
behind a circumflex inside a group. Main statements: whatever is read from the pattern alone is read
in those places as well, with no more difference than the circumflex makes to the first
alternative; and a pattern whose group can be read comes to its end at the last parenthesis.
-/

namespace Locus.Pattern

variable {more : List Char}

/-- What a circumflex at the start of a pattern is read as. -/
def caret : Piece := ⟨.look .textStart, 0, true⟩

/-- The second piece is the first with a circumflex before it. -/
structure Leads (p q : Piece) : Prop where
  regex_eq : q.regex = caret.regex.andThen p.regex
  depth_le : q.depth ≤ p.depth + 1

/-- How what is read at the outermost level of a pattern differs if the pattern begins with a
circumflex, and how it does not if it has none. -/
inductive Frame.Carries : Bool → Frame → Frame → Prop where
  | same (f : Frame) : Carries false f f
  /-- The first alternative is still being read. -/
  | first (items : List Piece) (flags : Flags) (captures : Bool) :
      Carries true ⟨items, [], flags, captures⟩ ⟨items ++ [caret], [], flags, captures⟩
  | later {p q : Piece} (h : Leads p q) (items branches : List Piece) (flags : Flags)
      (captures : Bool) :
      Carries true ⟨items, branches ++ [p], flags, captures⟩
        ⟨items, branches ++ [q], flags, captures⟩

/-- The second state is the first one in another place: inside the groups `under`, and perhaps with
a circumflex at the start of the pattern. -/
inductive State.Mirrors (anchor : Bool) (under : List Frame) : State → State → Prop where
  | outer {f g : Frame} (h : f.Carries anchor g) (names : List (List Char)) :
      Mirrors anchor under ⟨f.items, f.branches, f.flags, [], names⟩
        ⟨g.items, g.branches, g.flags, under, names⟩
  | inner {f g : Frame} (h : f.Carries anchor g) (items branches : List Piece) (flags : Flags)
      (frames : List Frame) (names : List (List Char)) :
      Mirrors anchor under ⟨items, branches, flags, frames ++ [f], names⟩
        ⟨items, branches, flags, frames ++ g :: under, names⟩

/-! ## At the outermost level -/

theorem leads_sequence {s t : State} (h : t.items = s.items ++ [caret]) :
    Leads s.sequence t.sequence := by
  rw [State.sequence, State.sequence, h]
  rcases s.items with _ | ⟨p, _ | ⟨q, items⟩⟩
  · exact ⟨rfl, Nat.zero_le 1⟩
  · refine ⟨?_, ?_⟩
    · simp [Regex.andThen_empty]
    · simp [caret]
  · refine ⟨?_, ?_⟩
    · simp
    · simp [caret]

namespace Frame.Carries

variable {anchor : Bool} {f g : Frame}

theorem flags_eq (h : Carries anchor f g) : g.flags = f.flags := by
  cases h with
  | same => rfl
  | first => rfl
  | later => rfl

theorem captures_eq (h : Carries anchor f g) : g.captures = f.captures := by
  cases h with
  | same => rfl
  | first => rfl
  | later => rfl

theorem setFlags (h : Carries anchor f g) (flags : Flags) :
    Carries anchor { f with flags } { g with flags } := by
  cases h with
  | same => exact .same _
  | first items _ captures => exact .first items flags captures
  | later h items branches _ captures => exact .later h items branches flags captures

theorem setCaptures (h : Carries anchor f g) (captures : Bool) :
    Carries anchor { f with captures } { g with captures } := by
  cases h with
  | same => exact .same _
  | first items flags => exact .first items flags captures
  | later h items branches flags => exact .later h items branches flags captures

theorem push (h : Carries anchor f g) (p : Piece) :
    Carries anchor { f with items := p :: f.items } { g with items := p :: g.items } := by
  cases h with
  | same => exact .same _
  | first items flags captures => exact .first (p :: items) flags captures
  | later h items branches flags captures => exact .later h (p :: items) branches flags captures

/-- Nothing comes before the first piece but the circumflex, which is never the last piece. -/
theorem pop (h : Carries anchor f g) {p : Piece} {items : List Piece} (hf : f.items = p :: items) :
    ∃ items', g.items = p :: items' ∧
      Carries anchor { f with items } { g with items := items' } := by
  cases h with
  | same => exact ⟨items, hf, .same _⟩
  | first rest flags captures =>
    obtain rfl : rest = p :: items := hf
    exact ⟨items ++ [caret], rfl, .first items flags captures⟩
  | later h rest branches flags captures =>
    obtain rfl : rest = p :: items := hf
    exact ⟨items, rfl, .later h items branches flags captures⟩

theorem branch (h : Carries anchor f g) {s t : State} (hs : s.items = f.items)
    (ht : t.items = g.items) :
    Carries anchor ⟨[], s.sequence :: f.branches, f.flags, f.captures⟩
      ⟨[], t.sequence :: g.branches, g.flags, g.captures⟩ := by
  have heq (hst : s.items = t.items) : s.sequence = t.sequence := by
    rw [State.sequence, State.sequence, hst]
  cases h with
  | same =>
    rw [heq (hs.trans ht.symm)]
    exact .same _
  | first items flags captures =>
    exact .later (leads_sequence (ht.trans (congrArg (· ++ [caret]) hs.symm))) [] [] flags captures
  | later h items branches flags captures =>
    rw [heq (hs.trans ht.symm)]
    exact .later h [] (t.sequence :: branches) flags captures

end Frame.Carries

/-! ## Elements change both states alike -/

namespace State.Mirrors

variable {anchor : Bool} {under : List Frame} {s t : State}

theorem flags_eq (h : Mirrors anchor under s t) : t.flags = s.flags := by
  cases h with
  | outer h => exact h.flags_eq
  | inner => rfl

theorem names_eq (h : Mirrors anchor under s t) : t.names = s.names := by
  cases h with
  | outer => rfl
  | inner => rfl

theorem setFlags (h : Mirrors anchor under s t) (flags : Flags) :
    Mirrors anchor under { s with flags } { t with flags } := by
  cases h with
  | outer h names => exact outer (h.setFlags flags) names
  | inner h items branches _ frames names => exact inner h items branches flags frames names

theorem push (h : Mirrors anchor under s t) (p : Piece) :
    Mirrors anchor under (s.push p) (t.push p) := by
  cases h with
  | outer h names => exact outer (h.push p) names
  | inner h items branches flags frames names =>
    exact inner h (p :: items) branches flags frames names

theorem setNames (h : Mirrors anchor under s t) (names : List (List Char)) :
    Mirrors anchor under { s with names } { t with names } := by
  cases h with
  | outer h => exact outer h names
  | inner h items branches flags frames => exact inner h items branches flags frames names

theorem openGroup (h : Mirrors anchor under s t) (flags : Flags) (captures : Bool) :
    Mirrors anchor under (s.openGroup flags captures) (t.openGroup flags captures) := by
  cases h with
  | outer h names => exact inner (h.setCaptures captures) [] [] flags [] names
  | inner h items branches old frames names =>
    exact inner h [] [] flags (⟨items, branches, old, captures⟩ :: frames) names

theorem branch (h : Mirrors anchor under s t) : Mirrors anchor under s.branch t.branch := by
  cases h with
  | outer h names => exact outer (h.branch rfl rfl) names
  | inner h items branches flags frames names => exact inner h [] _ flags frames names

/-- A group that is opened in the pattern is closed in it: the groups around are not touched. -/
theorem closeGroup? (h : Mirrors anchor under s t) {s' : State} (hs : s.closeGroup? = some s') :
    ∃ t', t.closeGroup? = some t' ∧ Mirrors anchor under s' t' := by
  cases h with
  | outer h names => cases hs
  | inner h items branches flags frames names =>
    rcases frames with _ | ⟨f, frames⟩
    · cases hs
      refine ⟨_, rfl, ?_⟩
      dsimp only [List.nil_append]
      rw [h.captures_eq]
      exact outer (h.push _) names
    · cases hs
      exact ⟨_, rfl, inner h _ f.branches f.flags frames names⟩

theorem pop (h : Mirrors anchor under s t) {p : Piece} {items : List Piece}
    (hs : s.items = p :: items) :
    ∃ items', t.items = p :: items' ∧
      Mirrors anchor under { s with items } { t with items := items' } := by
  cases h with
  | outer h names =>
    obtain ⟨items', ht, hpop⟩ := h.pop hs
    exact ⟨items', ht, outer hpop names⟩
  | inner h _ branches flags frames names =>
    exact ⟨items, hs, inner h items branches flags frames names⟩

theorem repeatLast? (h : Mirrors anchor under s t) {least : Nat} {most : Option Nat} {mark : Bool}
    {s' : State} (hs : s.repeatLast? least most mark = some s') :
    ∃ t', t.repeatLast? least most mark = some t' ∧ Mirrors anchor under s' t' := by
  rw [State.repeatLast?] at hs
  split at hs
  · cases hs
  · next p items hitems =>
    split at hs
    · next hrepeat =>
      cases hs
      obtain ⟨items', ht, hpop⟩ := h.pop hitems
      refine ⟨_, ?_, hpop.push _⟩
      rw [State.repeatLast?, ht]
      simp only [if_pos hrepeat, h.flags_eq]
      rfl
    · cases hs

/-- Whatever an element does to the one state it does to the other. -/
theorem act? (h : Mirrors anchor under s t) {e : Element} {s' : State}
    (hs : e.act? s = some s') : ∃ t', e.act? t = some t' ∧ Mirrors anchor under s' t' := by
  cases e with
  | opening flags captures =>
    cases hs
    exact ⟨_, rfl, h.openGroup flags captures⟩
  | named name =>
    rw [Element.act?] at hs ⊢
    split at hs
    · cases hs
    · next hnew =>
      cases hs
      rw [h.names_eq, if_neg hnew, h.flags_eq]
      exact ⟨_, rfl, (h.openGroup s.flags true).setNames (name :: s.names)⟩
  | flags f =>
    cases hs
    exact ⟨_, rfl, (h.setFlags f).push _⟩
  | closing => exact h.closeGroup? hs
  | bar =>
    cases hs
    exact ⟨_, rfl, h.branch⟩
  | piece p =>
    cases hs
    exact ⟨_, rfl, h.push p⟩
  | repetition least most mark => exact h.repeatLast? hs

end State.Mirrors

/-! ## Whole patterns -/

theorem run?_of_nil {s : State} {cs : List Char} (h : skip s.flags.spaced cs = []) :
    run? s cs = some s := by
  rw [run?, h]

theorem run?_of_cons {s : State} {cs rest : List Char} {c : Char}
    (h : skip s.flags.spaced cs = c :: rest) :
    run? s cs =
      (readElement? s.flags c rest).bind fun x =>
        (x.1.act? s).bind fun t => if x.2.length < cs.length then run? t x.2 else none := by
  rw [run?, h]
  simp only [step?_eq]
  rcases readElement? s.flags c rest with _ | ⟨e, rest'⟩
  · rfl
  · simp only [Option.bind_some]
    cases e.act? s with
    | none => rfl
    | some t => rfl

theorem skip_of_suffix (hm : more <:+ [')']) (spaced : Bool) : skip spaced more = more := by
  cases spaced with
  | false => rfl
  | true =>
    rcases eq_nil_or_eq_of_suffix hm with rfl | rfl
    · rfl
    · simp [skip, dropSpace]

/-- What counts for nothing before the last parenthesis may be left out. -/
theorem run?_skip {s : State} {cs : List Char} (hm : more <:+ [')'])
    (h : skip s.flags.spaced cs = more) : run? s cs = run? s more := by
  rcases eq_nil_or_eq_of_suffix hm with rfl | rfl
  · rw [run?_of_nil h, run?_of_nil (skip_of_suffix hm _)]
  · have hpos : 0 < cs.length := by
      rcases cs with _ | ⟨c, cs⟩
      · cases hspaced : s.flags.spaced <;> simp [hspaced, skip, dropSpace] at h
      · exact Nat.succ_pos _
    have hclose : readElement? s.flags ')' [] = some (.closing, []) := rfl
    rw [run?_of_cons h, run?_of_cons (skip_of_suffix hm _), hclose]
    simp only [Option.bind_some, List.length_nil, hpos, List.length_singleton, Nat.one_pos]

/-- A pattern that is read to its end is read to its end in every other place, up to a parenthesis
that may be left. By induction on what is left of the pattern. -/
theorem run?_append (hm : more <:+ [')']) {s t : State} {cs : List Char} (h : run? s cs = some t) :
    ∃ m, m <:+ more ∧ ∀ {anchor : Bool} {under : List Frame} {s' : State},
      s.Mirrors anchor under s' →
        ∃ t', t.Mirrors anchor under t' ∧ run? s' (cs ++ more) = run? t' m := by
  induction hlen : cs.length using Nat.strongRecOn generalizing more s cs with
  | ind n ih =>
    subst hlen
    obtain ⟨m, hm', hskip⟩ := skip_append hm s.flags.spaced cs
    rcases hcs : skip s.flags.spaced cs with _ | ⟨c, rest⟩
    · rw [run?_of_nil hcs] at h
      cases h
      refine ⟨m, hm', fun {anchor under s'} hmirrors => ⟨s', hmirrors, ?_⟩⟩
      refine run?_skip (hm'.trans hm) ?_
      rw [hmirrors.flags_eq, hskip, hcs, List.nil_append]
    · rw [run?_of_cons hcs] at h
      obtain ⟨⟨e, rest'⟩, he, h⟩ := Option.bind_eq_some_iff.1 h
      obtain ⟨s₁, hs₁, h⟩ := Option.bind_eq_some_iff.1 h
      dsimp only at h
      split at h
      · next hlt =>
        obtain ⟨m₁, hm₁, he'⟩ := readElement?_append (hm'.trans hm) s.flags c rest e rest' he
        obtain ⟨m₂, hm₂, hrest⟩ := ih _ hlt ((hm₁.trans hm').trans hm) h rfl
        refine ⟨m₂, (hm₂.trans hm₁).trans hm', fun {anchor under s'} hmirrors => ?_⟩
        obtain ⟨s₁', hs₁', hmirrors₁⟩ := hmirrors.act? hs₁
        obtain ⟨t', ht', hrun⟩ := hrest hmirrors₁
        refine ⟨t', ht', ?_⟩
        have hskip' : skip s'.flags.spaced (cs ++ more) = c :: (rest ++ m) := by
          rw [hmirrors.flags_eq, hskip, hcs, List.cons_append]
        rw [run?_of_cons hskip', hmirrors.flags_eq, he', Option.bind_some, hs₁', Option.bind_some,
          if_pos (length_append_lt (hm₁.trans hm') hlt), hrun]
      · cases h

/-- The piece that a pattern is, if it is read to its end and leaves no group open. -/
def whole? (pattern : List Char) : Option Piece :=
  (run? .initial pattern).bind fun s => if s.frames.isEmpty then some s.value else none

theorem written?_eq (pattern : List Char) :
    Regex.written? pattern =
      (whole? pattern).bind fun p => if p.depth ≤ maxDepth then some p.regex else none := by
  rw [Regex.written?, whole?]
  cases run? .initial pattern with
  | none => rfl
  | some s =>
    simp only [Option.bind_eq_bind, Option.bind_some, Bool.and_eq_true, decide_eq_true_eq]
    by_cases hframes : s.frames.isEmpty = true
    · simp [hframes]
    · simp [hframes]

/-- What the second piece matches at the start of a text is what the first matches there, and its
notation is hardly deeper. -/
structure AlikeAtStart (p q : Piece) : Prop where
  ends_eq : ∀ text, Regex.ends none text q.regex = Regex.ends none text p.regex
  depth_le : q.depth ≤ p.depth + 1

theorem Leads.alikeAtStart {p q : Piece} (h : Leads p q) : AlikeAtStart p q where
  ends_eq text := by
    rw [h.regex_eq]
    exact (Regex.ends_anchor_andThen none text p.regex).trans (if_pos rfl)
  depth_le := h.depth_le

/-- The first alternative, which was read first, is the first of all. -/
theorem value_of_concat {s : State} {branches : List Piece} {p : Piece}
    (h : s.branches = branches ++ [p]) :
    s.value =
      ⟨.alt p.regex (branches.foldl (fun tail p => .alt p.regex tail) s.sequence.regex),
        max ((branches.map Piece.depth).foldl max s.sequence.depth) p.depth + 1, true⟩ := by
  rw [State.value, h]
  split
  · next hnil => exact absurd hnil (List.append_ne_nil_of_right_ne_nil _ (List.cons_ne_nil _ _))
  · simp

/-- What the pattern is read as if a circumflex stands before it. -/
def State.regexBehindCaret (s : State) : Regex :=
  match s.branches.getLast? with
  | none => caret.regex.andThen s.sequence.regex
  | some p =>
    .alt (caret.regex.andThen p.regex)
      (s.branches.dropLast.foldl (fun tail p => .alt p.regex tail) s.sequence.regex)

namespace State.Mirrors

variable {anchor : Bool} {under : List Frame} {s t : State}

theorem frames_eq (h : Mirrors anchor under s t) (hs : s.frames = []) : t.frames = under := by
  cases h with
  | outer => rfl
  | inner => exact absurd hs (List.append_ne_nil_of_right_ne_nil _ (List.cons_ne_nil _ _))

theorem value_eq (h : Mirrors false under s t) (hs : s.frames = []) : t.value = s.value := by
  cases h with
  | outer h names =>
    cases h with
    | same => rfl
  | inner => exact absurd hs (List.append_ne_nil_of_right_ne_nil _ (List.cons_ne_nil _ _))

theorem alikeAtStart_value (h : Mirrors true under s t) (hs : s.frames = []) :
    AlikeAtStart s.value t.value := by
  cases h with
  | outer h names =>
    cases h with
    | first items flags => exact (leads_sequence rfl).alikeAtStart
    | later h items branches flags =>
      rw [value_of_concat rfl, value_of_concat rfl]
      exact
        { ends_eq := fun text => Regex.ends_alt_congr _ (h.alikeAtStart.ends_eq text)
          depth_le := Nat.succ_le_succ <| max_le ((le_max_left _ _).trans (Nat.le_succ _))
            (h.depth_le.trans (Nat.succ_le_succ (le_max_right _ _))) }
  | inner => exact absurd hs (List.append_ne_nil_of_right_ne_nil _ (List.cons_ne_nil _ _))

/-- The circumflex belongs to the first alternative. -/
theorem regex_value (h : Mirrors true under s t) (hs : s.frames = []) :
    t.value.regex = s.regexBehindCaret := by
  cases h with
  | outer h names =>
    cases h with
    | first items flags => exact (leads_sequence rfl).regex_eq
    | later h items branches flags =>
      rw [value_of_concat rfl, State.regexBehindCaret, List.getLast?_concat, List.dropLast_concat,
        h.regex_eq]
      rfl
  | inner => exact absurd hs (List.append_ne_nil_of_right_ne_nil _ (List.cons_ne_nil _ _))

end State.Mirrors

/-- What stands around the group of an anchored pattern. -/
def anchorFrame : Frame := ⟨[caret], [], .initial, false⟩

/-- The state at the start of the group of an anchored pattern. -/
def grouped : State := ⟨[], [], .initial, [anchorFrame], []⟩

theorem mirrors_grouped : State.initial.Mirrors false [anchorFrame] grouped :=
  .outer (.same ⟨[], [], .initial, false⟩) []

theorem mirrors_caret : State.initial.Mirrors true [] (State.initial.push caret) :=
  .outer (.first [] .initial false) []

theorem mirrors_grouped_caret : State.initial.Mirrors true [anchorFrame] (grouped.push caret) :=
  .outer (.first [] .initial false) []

theorem run?_caret {s : State} (hs : s.flags = .initial) (cs : List Char) :
    run? s ('^' :: cs) = run? (s.push caret) cs := by
  have hskip : skip s.flags.spaced ('^' :: cs) = '^' :: cs := by rw [hs]; rfl
  have hread : readElement? s.flags '^' cs = some (.piece caret, cs) := by rw [hs]; rfl
  rw [run?_of_cons hskip, hread, Option.bind_some]
  exact if_pos (Nat.lt_succ_self _)

theorem run?_anchored (pattern : List Char) :
    run? .initial (Regex.anchored pattern) = run? grouped (pattern ++ [')']) := by
  have hanchored : Regex.anchored pattern = '^' :: '(' :: '?' :: ':' :: (pattern ++ [')']) := rfl
  have hread : readElement? (State.initial.push caret).flags '('
      ('?' :: ':' :: (pattern ++ [')'])) = some (.opening .initial false, pattern ++ [')']) := rfl
  rw [hanchored, run?_caret rfl, run?_of_cons rfl, hread, Option.bind_some]
  refine if_pos ?_
  simp only [List.length_cons]
  omega

theorem run?_paren (s : State) : run? s [')'] = s.closeGroup? := by
  have hread : readElement? s.flags ')' [] = some (.closing, []) := rfl
  rw [run?_of_cons (skip_of_suffix List.suffix_rfl _), hread]
  simp only [Option.bind_some, Element.act?]
  cases s.closeGroup? with
  | none => rfl
  | some t => exact run?_of_nil (skip_of_suffix List.nil_suffix _)

/-- The group and the circumflex before it, once the parenthesis has closed the group. -/
theorem whole?_of_paren {pattern : List Char} {t : State} (hframes : t.frames = [anchorFrame])
    (h : run? grouped (pattern ++ [')']) = run? t [')']) :
    whole? (Regex.anchored pattern) =
      some ⟨t.value.regex.anchorGroup, t.value.depth + 2, true⟩ := by
  rw [whole?, run?_anchored, h, run?_paren, State.closeGroup?, hframes]
  simp [anchorFrame, State.value, State.sequence, caret, Regex.andThen, Regex.anchorGroup]

/-- A group that no parenthesis has closed is no whole pattern. -/
theorem whole?_of_open {pattern : List Char} {t : State} (hframes : t.frames = [anchorFrame])
    (h : run? grouped (pattern ++ [')']) = run? t []) : whole? (Regex.anchored pattern) = none := by
  rw [whole?, run?_anchored, h, run?_of_nil (skip_of_suffix List.nil_suffix _)]
  simp [hframes]

/-- **A group is closed by its own parenthesis.** If a pattern and its anchored group can both be
read, the group is the pattern behind an anchor. Then the pattern with a circumflex before it, which
matches the same at the start of a text, and the group of that can be read as well. -/
theorem whole?_anchored {pattern : List Char} {p q : Piece} (hp : whole? pattern = some p)
    (hq : whole? (Regex.anchored pattern) = some q) :
    q = ⟨p.regex.anchorGroup, p.depth + 2, true⟩ ∧
      ∃ led depth, AlikeAtStart p led ∧ depth ≤ p.depth + 1 ∧
        whole? ('^' :: pattern) = some led ∧
        whole? (Regex.anchored ('^' :: pattern)) =
          some ⟨led.regex.anchorGroup, depth + 2, true⟩ := by
  obtain ⟨t, ht, hvalue⟩ := Option.bind_eq_some_iff.1 hp
  split at hvalue
  · next hempty =>
    cases hvalue
    have hframes : t.frames = [] := List.isEmpty_iff.1 hempty
    obtain ⟨m, hm, hplaces⟩ := run?_append List.suffix_rfl ht
    -- in the group: only if the parenthesis is left can it close the group
    obtain ⟨t₁, ht₁, hrun₁⟩ := hplaces mirrors_grouped
    have hm : m = [')'] := by
      refine (eq_nil_or_eq_of_suffix hm).resolve_left ?_
      rintro rfl
      rw [whole?_of_open (ht₁.frames_eq hframes) hrun₁] at hq
      cases hq
    subst hm
    rw [whole?_of_paren (ht₁.frames_eq hframes) hrun₁, ht₁.value_eq hframes] at hq
    cases hq
    -- behind a circumflex in the group
    obtain ⟨t₂, ht₂, hrun₂⟩ := hplaces mirrors_grouped_caret
    have hled : run? grouped ('^' :: pattern ++ [')']) = run? t₂ [')'] := by
      rw [List.cons_append, run?_caret rfl, hrun₂]
    -- behind a circumflex and with nothing behind
    obtain ⟨m, hm, hplaces⟩ := run?_append List.nil_suffix ht
    obtain ⟨t₃, ht₃, hrun₃⟩ := hplaces mirrors_caret
    have halone : whole? ('^' :: pattern) = some t₃.value := by
      rw [List.suffix_nil.1 hm, List.append_nil] at hrun₃
      rw [whole?, run?_caret rfl, hrun₃, run?_of_nil (skip_of_suffix List.nil_suffix _)]
      simp [ht₃.frames_eq hframes]
    have hregex : t₃.value.regex = t₂.value.regex :=
      (ht₃.regex_value hframes).trans (ht₂.regex_value hframes).symm
    refine ⟨rfl, t₃.value, t₂.value.depth, ht₃.alikeAtStart_value hframes,
      (ht₂.alikeAtStart_value hframes).depth_le, halone, ?_⟩
    rw [hregex]
    exact whole?_of_paren (ht₂.frames_eq hframes) hled
  · cases hvalue

end Locus.Pattern
