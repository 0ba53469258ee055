import Mathlib.Data.List.Infix
import Locus.Regex.Escape

/-!
# Patterns with a parenthesis behind them

The parts of a pattern are read from the front of a text, some of them with a look at what follows.
Here a text is compared with the same text and a closing parenthesis behind it. Main statements,
one for each kind of part: what can be read from the first is read from the second as well, and the
parenthesis is still there afterwards, unless it has become the end of a comment.
-/

namespace Locus.Pattern

/-- What the first reading gives the second gives as well, and its rest has a part of `more` behind
it. -/
def ReadsAlso {α : Type} (more : List Char) (o o' : Option (α × List Char)) : Prop :=
  ∀ x rest, o = some (x, rest) → ∃ m, m <:+ more ∧ o' = some (x, rest ++ m)

namespace ReadsAlso

variable {α β : Type} {more m : List Char} {o o' : Option (α × List Char)}

theorem none : ReadsAlso more none o' := fun _ _ h => nomatch h

theorem some (hm : m <:+ more) (x : α) (rest : List Char) :
    ReadsAlso more (some (x, rest)) (some (x, rest ++ m)) := by
  intro y rest' h
  cases h
  exact ⟨m, hm, rfl⟩

/-- Nothing more is read, but what has been read may make no sense. -/
theorem ofOption (hm : m <:+ more) (o : Option α) (g : α → β) (rest : List Char) :
    ReadsAlso more (o.map fun x => (g x, rest)) (o.map fun x => (g x, rest ++ m)) := by
  cases o with
  | none => exact none
  | some x => exact some hm (g x) rest

theorem weaken (h : ReadsAlso m o o') (hm : m <:+ more) : ReadsAlso more o o' := by
  intro x rest hx
  obtain ⟨m', hm', hx'⟩ := h x rest hx
  exact ⟨m', hm'.trans hm, hx'⟩

/-- One reading after another. -/
theorem bind {f f' : α × List Char → Option (β × List Char)} (h : ReadsAlso more o o')
    (hf : ∀ x rest m, m <:+ more → ReadsAlso m (f (x, rest)) (f' (x, rest ++ m))) :
    ReadsAlso more (o.bind f) (o'.bind f') := by
  intro y rest hy
  obtain ⟨⟨x, rest'⟩, hx, hfx⟩ := Option.bind_eq_some_iff.1 hy
  obtain ⟨m, hm, hx'⟩ := h x rest' hx
  obtain ⟨m', hm', hfx'⟩ := hf x rest' m hm y rest hfx
  exact ⟨m', hm'.trans hm, by rw [hx', Option.bind_some, hfx']⟩

/-- What is read is made into something else. -/
theorem map {f : α × List Char → β × List Char} (g : α → β) (h : ReadsAlso more o o')
    (hf : ∀ x rest, f (x, rest) = (g x, rest)) : ReadsAlso more (o.map f) (o'.map f) := by
  intro y rest hy
  obtain ⟨⟨x, rest'⟩, hx, hfx⟩ := Option.map_eq_some_iff.1 hy
  obtain ⟨m, hm, hx'⟩ := h x rest' hx
  rw [hf] at hfx
  cases hfx
  exact ⟨m, hm, by rw [hx', Option.map_some, hf]⟩

/-- What is read may turn out to make no sense. -/
theorem filterMap (h : ReadsAlso more o o') (g : α → Option β) :
    ReadsAlso more (o.bind fun x => (g x.1).map fun y => (y, x.2))
      (o'.bind fun x => (g x.1).map fun y => (y, x.2)) := by
  exact h.bind fun x rest m _ => ofOption List.suffix_rfl (g x) id rest

/-- What is left after the reading is cut at the front. -/
theorem mapRest {g : List Char → List Char} (h : ReadsAlso more o o')
    (hg : ∀ rest m, m <:+ more → ∃ m', m' <:+ m ∧ g (rest ++ m) = g rest ++ m') :
    ReadsAlso more (o.map fun x => (x.1, g x.2)) (o'.map fun x => (x.1, g x.2)) := by
  intro y rest hy
  obtain ⟨⟨x, rest'⟩, hx, heq⟩ := Option.map_eq_some_iff.1 hy
  cases heq
  obtain ⟨m, hm, hx'⟩ := h x rest' hx
  obtain ⟨m', hm', hcut⟩ := hg rest' m hm
  exact ⟨m', hm'.trans hm, by rw [hx', Option.map_some, hcut]⟩

theorem ite {p : Prop} [Decidable p] {o₂ o₂' : Option (α × List Char)} (h : ReadsAlso more o o')
    (h₂ : ReadsAlso more o₂ o₂') :
    ReadsAlso more (if p then o else o₂) (if p then o' else o₂') := by
  split
  · exact h
  · exact h₂

end ReadsAlso

variable {more : List Char}

/-- Nothing but a closing parenthesis, if anything. -/
theorem eq_nil_or_eq_of_suffix (hm : more <:+ [')']) : more = [] ∨ more = [')'] := by
  rcases List.suffix_cons_iff.1 hm with h | h
  · exact .inr h
  · exact .inl (List.suffix_nil.1 h)

theorem length_append_lt {rest cs m : List Char} (hm : m <:+ more) (h : rest.length < cs.length) :
    (rest ++ m).length < (cs ++ more).length := by
  rw [List.length_append, List.length_append]
  exact Nat.add_lt_add_of_lt_of_le h hm.length_le

/-! ## Blanks and comments -/

@[simp]
theorem isWhiteSpace_paren : Unicode.isWhiteSpace ')' = false := by decide

/-- A comment that does not end swallows the parenthesis; in any other case it stays. -/
theorem dropSpace_append (hm : more <:+ [')']) (inComment : Bool) (cs : List Char) :
    ∃ m, m <:+ more ∧ dropSpace inComment (cs ++ more) = dropSpace inComment cs ++ m := by
  induction cs generalizing inComment with
  | nil =>
    rcases eq_nil_or_eq_of_suffix hm with rfl | rfl
    · exact ⟨[], List.suffix_rfl, by simp [dropSpace]⟩
    · cases inComment with
      | true => exact ⟨[], List.nil_suffix, by simp [dropSpace]⟩
      | false => exact ⟨[')'], List.suffix_rfl, by simp [dropSpace]⟩
  | cons c cs ih =>
    rw [List.cons_append, dropSpace, dropSpace]
    split
    · exact ih _
    · split
      · exact ih _
      · split
        · exact ih _
        · exact ⟨more, List.suffix_rfl, rfl⟩

theorem skip_append (hm : more <:+ [')']) (spaced : Bool) (cs : List Char) :
    ∃ m, m <:+ more ∧ skip spaced (cs ++ more) = skip spaced cs ++ m := by
  cases spaced with
  | true => exact dropSpace_append hm false cs
  | false => exact ⟨more, List.suffix_rfl, rfl⟩

theorem takeSpaced_append {p : Char → Bool} (hp : p ')' = false) (hm : more <:+ [')'])
    (spaced inComment : Bool) (cs : List Char) :
    ∃ m, m <:+ more ∧ takeSpaced p spaced inComment (cs ++ more) =
      ((takeSpaced p spaced inComment cs).1, (takeSpaced p spaced inComment cs).2 ++ m) := by
  induction cs generalizing inComment with
  | nil =>
    rcases eq_nil_or_eq_of_suffix hm with rfl | rfl
    · exact ⟨[], List.suffix_rfl, by simp [takeSpaced]⟩
    · cases inComment with
      | true => exact ⟨[], List.nil_suffix, by simp [takeSpaced]⟩
      | false => exact ⟨[')'], List.suffix_rfl, by simp [takeSpaced, hp]⟩
  | cons c cs ih =>
    rw [List.cons_append, takeSpaced, takeSpaced]
    split
    · exact ih _
    · split
      · obtain ⟨m, hm', htake⟩ := ih false
        exact ⟨m, hm', by rw [htake]⟩
      · split
        · exact ih _
        · split
          · exact ih _
          · exact ⟨more, List.suffix_rfl, rfl⟩

/-- What is taken up to a character that stops it is not changed by what is behind that. -/
theorem takeSpaced_append_of_stopped (more : List Char) (p : Char → Bool) (spaced inComment : Bool)
    (cs : List Char) : (takeSpaced p spaced inComment cs).2 ≠ [] →
      takeSpaced p spaced inComment (cs ++ more) =
        ((takeSpaced p spaced inComment cs).1, (takeSpaced p spaced inComment cs).2 ++ more) := by
  induction cs generalizing inComment with
  | nil => exact fun h => absurd rfl h
  | cons c cs ih =>
    rw [List.cons_append, takeSpaced, takeSpaced]
    split
    · exact ih _
    · split
      · intro h
        rw [ih false h]
      · split
        · exact ih _
        · split
          · exact ih _
          · exact fun _ => rfl

theorem takeBraced?_append (more : List Char) (p : Char → Bool) (spaced : Bool) (cs : List Char) :
    ReadsAlso more (takeBraced? p spaced cs) (takeBraced? p spaced (cs ++ more)) := by
  rw [takeBraced?, takeBraced?]
  have htake := takeSpaced_append_of_stopped more p spaced false cs
  generalize takeSpaced p spaced false cs = stopped at htake ⊢
  rcases stopped with ⟨ds, _ | ⟨c, rest⟩⟩
  · exact .none
  · rw [htake (List.cons_ne_nil c rest)]
    exact .ite (.some List.suffix_rfl ds rest) .none

theorem ReadsAlso.skip {α : Type} {o o' : Option (α × List Char)} (h : ReadsAlso more o o')
    (hm : more <:+ [')']) (spaced : Bool) :
    ReadsAlso more (o.map fun x => (x.1, skip spaced x.2))
      (o'.map fun x => (x.1, skip spaced x.2)) :=
  h.mapRest fun rest _ hm' => skip_append (hm'.trans hm) spaced rest

/-! ## Single characters -/

theorem dropWhile_append_paren {p : Char → Bool} (hp : p ')' = false) (hm : more <:+ [')'])
    (cs : List Char) : (cs ++ more).dropWhile p = cs.dropWhile p ++ more := by
  induction cs with
  | nil =>
    rcases eq_nil_or_eq_of_suffix hm with rfl | rfl
    · rfl
    · simp [hp]
  | cons c cs ih =>
    rw [List.cons_append, List.dropWhile_cons, List.dropWhile_cons]
    split
    · exact ih
    · rfl

/-- Drops the character if it comes next. -/
def dropOne (d : Char) : List Char → Bool × List Char
  | [] => (false, [])
  | c :: cs => if c = d then (true, cs) else (false, c :: cs)

theorem dropOne_append {d : Char} (hd : d ≠ ')') (hm : more <:+ [')']) (cs : List Char) :
    dropOne d (cs ++ more) = ((dropOne d cs).1, (dropOne d cs).2 ++ more) := by
  rcases cs with _ | ⟨c, cs⟩
  · rcases eq_nil_or_eq_of_suffix hm with rfl | rfl
    · rfl
    · exact if_neg (Ne.symm hd)
  · rw [List.cons_append, dropOne, dropOne]
    split
    · rfl
    · rfl

theorem eq_cons_of_dropOne {d : Char} {cs : List Char} (h : (dropOne d cs).1 = true) :
    ∃ rest, cs = d :: rest := by
  rcases cs with _ | ⟨c, cs⟩
  · cases h
  · rw [dropOne] at h
    split at h
    · next hc => exact ⟨cs, by rw [hc]⟩
    · cases h

theorem dropOne_of_ne {d : Char} {cs : List Char} (h : ∀ rest, cs = d :: rest → False) :
    dropOne d cs = (false, cs) := by
  rcases cs with _ | ⟨c, cs⟩
  · rfl
  · rw [dropOne, if_neg]
    rintro rfl
    exact h cs rfl

/-- Takes what stands before the first place of the character, and drops that. -/
def cutAt? (d : Char) (cs : List Char) : Option (List Char × List Char) :=
  match cs.dropWhile (· ≠ d) with
  | [] => none
  | _ :: rest => some (cs.takeWhile (· ≠ d), rest)

theorem cutAt?_append {d : Char} (hd : d ≠ ')') (hm : more <:+ [')']) (cs : List Char) :
    cutAt? d (cs ++ more) = (cutAt? d cs).map fun x => (x.1, x.2 ++ more) := by
  rw [cutAt?, cutAt?, List.dropWhile_append]
  rcases hcs : cs.dropWhile (· ≠ d) with _ | ⟨e, rest⟩
  · rcases eq_nil_or_eq_of_suffix hm with rfl | rfl
    · rfl
    · simp [Ne.symm hd]
  · -- what is taken ends before the place, so it does not reach what is behind the text
    have hlength : (cs.takeWhile (· ≠ d)).length ≠ cs.length := by
      have hsplit := congrArg List.length (List.takeWhile_append_dropWhile (p := (· ≠ d)) (l := cs))
      rw [hcs, List.length_append, List.length_cons] at hsplit
      omega
    rw [List.takeWhile_append, if_neg hlength]
    rfl

theorem head_eq_of_dropWhile {d c : Char} {cs rest : List Char}
    (h : cs.dropWhile (· ≠ d) = c :: rest) : c = d := by
  have hhead := List.head?_dropWhile_not (· ≠ d) cs
  rw [h] at hhead
  simpa using hhead

/-! ## Escapes -/

theorem takeHex?_append (hm : more <:+ [')']) (spaced : Bool) (n : Nat) (cs : List Char) :
    ReadsAlso more (takeHex? spaced n cs) (takeHex? spaced n (cs ++ more)) := by
  induction n generalizing cs more with
  | zero => exact .some List.suffix_rfl [] cs
  | succ n ih =>
    rcases cs with _ | ⟨c, cs⟩
    · exact .none
    · rw [List.cons_append, takeHex?, takeHex?]
      split
      · obtain ⟨m, hm', hskip⟩ := skip_append hm spaced cs
        rw [hskip]
        exact ((ih (hm'.trans hm) _).map (c :: ·) fun _ _ => rfl).weaken hm'
      · exact .none

/-- The escape that hexadecimal digits spell. There must be some where any number may stand. -/
def ofHex? (braced byte : Bool) (ds : List Char) : Option Escape :=
  if braced && ds.isEmpty then none else (charOfHex? ds).map (.literal · byte)

theorem readHex?_cons {spaced : Bool} (n : Nat) {cs rest : List Char} {c : Char}
    (h : skip spaced cs = c :: rest) :
    readHex? spaced n cs =
      if c = '\x7b' then
        ((takeBraced? isHexDigit spaced rest).map fun x => (x.1, skip spaced x.2)).bind fun x =>
          (ofHex? true false x.1).map fun e => (e, x.2)
      else
        (takeHex? spaced n (c :: rest)).bind fun x =>
          (ofHex? false (n = 2) x.1).map fun e => (e, x.2) := by
  rw [readHex?, h]
  by_cases hc : c = '\x7b'
  · subst hc
    simp only [if_true]
    rcases takeBraced? isHexDigit spaced rest with _ | ⟨ds, rest⟩
    · rfl
    · simp only [Option.map_some, Option.bind_some, ofHex?, Bool.true_and]
      split
      · rfl
      · rw [Option.map_map]
        rfl
  · simp [hc, ofHex?, Option.map_eq_bind, Option.bind_assoc]

theorem readHex?_append (hm : more <:+ [')']) (spaced : Bool) (n : Nat) (cs : List Char) :
    ReadsAlso more (readHex? spaced n cs) (readHex? spaced n (cs ++ more)) := by
  obtain ⟨m, hm', hskip⟩ := skip_append hm spaced cs
  have hm'' := hm'.trans hm
  rcases hcs : skip spaced cs with _ | ⟨c, rest⟩
  · rw [readHex?, hcs]
    exact .none
  · rw [hcs, List.cons_append] at hskip
    rw [readHex?_cons n hcs, readHex?_cons n hskip]
    have hbraced := (takeBraced?_append m isHexDigit spaced rest).skip hm'' spaced
    have hdigits := takeHex?_append hm'' spaced n (c :: rest)
    exact .weaken (.ite (hbraced.filterMap _) (hdigits.filterMap _)) hm'

theorem readBoundary?_cons (f : Flags) (c : Char) (cs : List Char) :
    readBoundary? f (c :: cs) =
      if c = '\x7b' then
        match skip f.spaced cs with
        | [] => none
        | d :: rest =>
          if isBoundaryPart d then
            (takeBraced? isBoundaryPart f.spaced (d :: rest)).bind fun x =>
              (boundaryNamed? f x.1).map fun l => (l, x.2)
          else some (.wordBoundary f.word, c :: cs)
      else some (.wordBoundary f.word, c :: cs) := by
  by_cases hc : c = '\x7b'
  · subst hc
    exact (if_pos rfl).symm
  · rw [if_neg hc]
    simp [readBoundary?, hc]

theorem readBoundary?_append (hm : more <:+ [')']) (f : Flags) (cs : List Char) :
    ReadsAlso more (readBoundary? f cs) (readBoundary? f (cs ++ more)) := by
  rcases cs with _ | ⟨c, cs⟩
  · rcases eq_nil_or_eq_of_suffix hm with rfl | rfl
    · exact .some List.suffix_rfl _ _
    · exact .some List.suffix_rfl _ _
  · have hword : ReadsAlso more (some (Look.wordBoundary f.word, c :: cs))
        (some (Look.wordBoundary f.word, c :: cs ++ more)) := .some List.suffix_rfl _ _
    obtain ⟨m, hm', hskip⟩ := skip_append hm f.spaced cs
    rw [List.cons_append, readBoundary?_cons, readBoundary?_cons, hskip]
    refine .ite ?_ hword
    rcases skip f.spaced cs with _ | ⟨d, rest⟩
    · exact .none
    · refine .ite ?_ hword
      have hname := takeBraced?_append m isBoundaryPart f.spaced (d :: rest)
      exact (hname.filterMap (boundaryNamed? f)).weaken hm'

theorem readPropertyText?_cons {spaced : Bool} {cs rest : List Char} {c : Char}
    (h : skip spaced cs = c :: rest) :
    readPropertyText? spaced cs =
      if c = '\x7b' then takeBraced? (isPropertyPart spaced) spaced rest
      else if c = '\\' then none else some ([c], rest) := by
  rw [readPropertyText?, h]
  by_cases hc : c = '\x7b'
  · subst hc
    exact (if_pos rfl).symm
  · simp [hc]

theorem readPropertyText?_append (hm : more <:+ [')']) (spaced : Bool) (cs : List Char) :
    ReadsAlso more (readPropertyText? spaced cs) (readPropertyText? spaced (cs ++ more)) := by
  obtain ⟨m, hm', hskip⟩ := skip_append hm spaced cs
  rcases hcs : skip spaced cs with _ | ⟨c, rest⟩
  · rw [readPropertyText?, hcs]
    exact .none
  · rw [hcs, List.cons_append] at hskip
    rw [readPropertyText?_cons hcs, readPropertyText?_cons hskip]
    have hbraced := takeBraced?_append m (isPropertyPart spaced) spaced rest
    have hone := ReadsAlso.some (List.suffix_refl m) [c] rest
    exact .weaken (.ite hbraced (.ite .none hone)) hm'

theorem readProperty?_append (hm : more <:+ [')']) (f : Flags) (letter : Char) (cs : List Char) :
    ReadsAlso more (readProperty? f letter cs) (readProperty? f letter (cs ++ more)) :=
  (readPropertyText?_append hm f.spaced cs).filterMap (propertySet? f letter)

theorem readEscape?_append (hm : more <:+ [')']) (f : Flags) (cs : List Char) :
    ReadsAlso more (readEscape? f cs) (readEscape? f (cs ++ more)) := by
  rcases cs with _ | ⟨c, cs⟩
  · exact .none
  · have hone (e : Escape) : ReadsAlso more (some (e, cs)) (some (e, cs ++ more)) :=
      .some List.suffix_rfl e cs
    rw [List.cons_append, readEscape?, readEscape?]
    refine .ite (readHex?_append hm f.spaced 2 cs) ?_
    refine .ite (readHex?_append hm f.spaced 4 cs) ?_
    refine .ite (readHex?_append hm f.spaced 8 cs) ?_
    refine .ite ((readBoundary?_append hm f cs).map Escape.look fun _ _ => rfl) ?_
    refine .ite ((readProperty?_append hm f c cs).map Escape.set fun _ _ => rfl) ?_
    -- all others are one character long
    repeat' apply ReadsAlso.ite (hone _)
    exact .ofOption List.suffix_rfl (classSet? f c) Escape.set cs

end Locus.Pattern
