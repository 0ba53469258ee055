import Locus.Proofs.PatternText
import Locus.Regex.Bracket

/-!
# Bracketed sets with a parenthesis behind them

A set in brackets is read from a text, once alone and once with a closing parenthesis behind it.
A parenthesis is no part of the notation of sets, but it may be looked at where the reading looks
ahead. Main statement: a set that can be read alone is read in the same way with the parenthesis.
-/

namespace Locus.Pattern

variable {more : List Char}

/-- Reads the circumflex of a complement, if there is one. -/
def readNegation? (f : Flags) (cs : List Char) : Option (Bool × List Char) :=
  match skip f.spaced cs with
  | [] => none
  | c :: rest => if c = '^' then some (true, skip f.spaced rest) else some (false, c :: rest)

/-- Reads what may stand for itself only at the start of a set: dashes, or a closing bracket. -/
def readFirst? (f : Flags) (negated : Bool) (cs : List Char) : Option (Level × List Char) :=
  let (dashes, rest) := takeSpaced (· = '-') f.spaced false cs
  match rest with
  | [] => none
  | c :: rest =>
    if dashes.isEmpty && c = ']' then
      match skip f.spaced rest with
      | [] => none
      | rest => some (⟨negated, [⟨.single ']', 0⟩], none⟩, rest)
    else some (⟨negated, dashes.map fun c => ⟨.single c, 0⟩, none⟩, c :: rest)

theorem openLevel?_eq (f : Flags) (cs : List Char) :
    openLevel? f cs = (readNegation? f cs).bind fun x => readFirst? f x.1 x.2 := by
  rw [openLevel?, readNegation?]
  rcases skip f.spaced cs with _ | ⟨c, rest⟩
  · rfl
  · by_cases hc : c = '^'
    · subst hc
      rfl
    · simp only [if_neg hc, Option.bind_some]
      split
      · next h => cases h
      · next h => exact absurd (List.cons.inj h).1 hc
      · rfl

theorem openLevel?_append (hm : more <:+ [')']) (f : Flags) (cs : List Char) :
    ReadsAlso more (openLevel? f cs) (openLevel? f (cs ++ more)) := by
  rw [openLevel?_eq, openLevel?_eq]
  refine ReadsAlso.bind ?_ fun negated cs m hm' => ?_
  · obtain ⟨m, hm', hskip⟩ := skip_append hm f.spaced cs
    rw [readNegation?, readNegation?, hskip]
    refine ReadsAlso.weaken ?_ hm'
    rcases skip f.spaced cs with _ | ⟨c, rest⟩
    · exact .none
    · obtain ⟨m₂, hm₂, hskip₂⟩ := skip_append (hm'.trans hm) f.spaced rest
      rw [List.cons_append]
      simp only [hskip₂]
      exact .ite (.some hm₂ true _) (.some List.suffix_rfl false (c :: rest))
  · have hm := hm'.trans hm
    obtain ⟨m₂, hm₂, htake⟩ := takeSpaced_append (p := (· = '-')) rfl hm f.spaced false cs
    rw [readFirst?, readFirst?, htake]
    refine ReadsAlso.weaken ?_ hm₂
    rcases takeSpaced (· = '-') f.spaced false cs with ⟨dashes, _ | ⟨c, rest⟩⟩
    · exact .none
    · obtain ⟨m₃, hm₃, hskip₃⟩ := skip_append (hm₂.trans hm) f.spaced rest
      simp only [List.cons_append, hskip₃]
      refine .ite ?_ (.some List.suffix_rfl _ (c :: rest))
      refine ReadsAlso.weaken ?_ hm₃
      rcases skip f.spaced rest with _ | ⟨d, rest⟩
      · exact .none
      · exact .some List.suffix_rfl _ (d :: rest)

/-- Reads the name of a class up to the colon and the bracket that end it. -/
def readClass? (f : Flags) (negated : Bool) (cs : List Char) : Option (CharSet × List Char) :=
  match cs.dropWhile (· ≠ ':') with
  | ':' :: ']' :: more =>
    (CharSet.named? (cs.takeWhile (· ≠ ':'))).map fun s =>
      (if negated then .compl (foldSet f s) else foldSet f s, more)
  | _ => none

theorem readClass?_eq (f : Flags) (negated : Bool) (cs : List Char) :
    readClass? f negated cs =
      (cutAt? ':' cs).bind fun x =>
        if (dropOne ']' x.2).1 then
          (CharSet.named? x.1).map fun s =>
            (if negated then .compl (foldSet f s) else foldSet f s, (dropOne ']' x.2).2)
        else none := by
  rw [readClass?, cutAt?]
  rcases hcs : cs.dropWhile (· ≠ ':') with _ | ⟨c, _ | ⟨e, rest⟩⟩
  · rfl
  · simp [dropOne]
  · obtain rfl := head_eq_of_dropWhile hcs
    by_cases he : e = ']'
    · simp [dropOne, he]
    · simp [dropOne, he]

theorem readNamed?_cons (f : Flags) (c : Char) (cs : List Char) :
    readNamed? f (c :: cs) =
      if c = ':' then readClass? f (dropOne '^' cs).1 (dropOne '^' cs).2 else none := by
  by_cases hc : c = ':'
  · subst hc
    rcases cs with _ | ⟨d, cs⟩
    · rfl
    · by_cases hd : d = '^'
      · subst hd
        rfl
      · have hone : dropOne '^' (d :: cs) = (false, d :: cs) := if_neg hd
        rw [if_pos rfl, hone, readNamed?]
        · rfl
        · exact fun _ h => hd (List.cons.inj h).1
  · rw [if_neg hc]
    simp [readNamed?, hc]

theorem readNamed?_append (hm : more <:+ [')']) (f : Flags) (cs : List Char) :
    readNamed? f (cs ++ more) = (readNamed? f cs).map fun x => (x.1, x.2 ++ more) := by
  rcases cs with _ | ⟨c, cs⟩
  · rcases eq_nil_or_eq_of_suffix hm with rfl | rfl
    · rfl
    · rfl
  · rw [List.cons_append, readNamed?_cons, readNamed?_cons]
    split
    · rw [dropOne_append (by decide) hm, readClass?_eq, readClass?_eq,
        cutAt?_append (by decide) hm]
      rcases cutAt? ':' (dropOne '^' cs).2 with _ | ⟨name, rest⟩
      · rfl
      · simp only [Option.map_some, Option.bind_some, dropOne_append (d := ']') (by decide) hm]
        split
        · rw [Option.map_map]
          rfl
        · rfl
    · rfl

theorem peekSpaced_go_append (hm : more <:+ [')']) (inComment : Bool) (cs : List Char) :
    peekSpaced.go inComment (cs ++ more) = (peekSpaced.go inComment cs).or more.head? := by
  induction cs generalizing inComment with
  | nil =>
    rcases eq_nil_or_eq_of_suffix hm with rfl | rfl
    · rfl
    · simp [peekSpaced.go]
  | cons c cs ih =>
    rw [List.cons_append, peekSpaced.go, peekSpaced.go]
    split
    · exact ih _
    · split
      · exact ih _
      · rfl

theorem peekSpaced_eq_some_iff {cs : List Char} {c d : Char}
    (hblank : Unicode.isWhiteSpace d = false) (hsign : d ≠ '#') :
    peekSpaced true (c :: cs) = some d ↔ peekSpaced.go false cs = some d := by
  rw [peekSpaced]
  rcases cs with _ | ⟨e, cs⟩
  · rfl
  · rw [if_pos rfl, Option.or_eq_some_iff, List.head?_cons]
    refine or_iff_left ?_
    rintro ⟨hnone, hed⟩
    cases hed
    simp [peekSpaced.go, hblank, hsign] at hnone

/-- A parenthesis behind the text is never taken for another character. -/
theorem peekSpaced_append (hm : more <:+ [')']) (spaced : Bool) (cs : List Char) {d : Char}
    (hd : d ≠ ')') (hblank : Unicode.isWhiteSpace d = false) (hsign : d ≠ '#') :
    peekSpaced spaced (cs ++ more) = some d ↔ peekSpaced spaced cs = some d := by
  have hmore : more.head? ≠ some d := by
    rcases eq_nil_or_eq_of_suffix hm with rfl | rfl
    · exact Option.some_ne_none d ∘ Eq.symm
    · exact fun h => hd (Option.some.inj h).symm
  rcases cs with _ | ⟨c, cs⟩
  · rcases eq_nil_or_eq_of_suffix hm with rfl | rfl
    · rfl
    · cases spaced with
      | true => simp [peekSpaced, peekSpaced.go]
      | false => simp [peekSpaced]
  · cases spaced with
    | true =>
      rw [List.cons_append, peekSpaced_eq_some_iff hblank hsign,
        peekSpaced_eq_some_iff hblank hsign, peekSpaced_go_append hm, Option.or_eq_some_iff]
      exact or_iff_left fun h => hmore h.2
    | false =>
      have hhead : peekSpaced false (c :: (cs ++ more)) = cs.head?.or more.head? :=
        List.head?_append
      rw [List.cons_append, hhead, Option.or_eq_some_iff]
      exact or_iff_left fun h => hmore h.2

theorem readItem?_append (hm : more <:+ [')']) (f : Flags) (cs : List Char) :
    ReadsAlso more (readItem? f cs) (readItem? f (cs ++ more)) := by
  rcases cs with _ | ⟨c, cs⟩
  · exact .none
  · by_cases hc : c = '\\'
    · subst hc
      exact readEscape?_append hm f cs
    · have hlit : ∀ cs, readItem? f (c :: cs) = some (.literal c false, cs) := fun cs => by
        simp [readItem?]
      rw [List.cons_append, hlit, hlit]
      exact .some List.suffix_rfl _ cs

/-- The set of an item that is not the end of a range. -/
def itemSet? (f : Flags) : Escape → Option CharSet
  | .literal c _ => if mayStand f c then some (.single c) else none
  | .set s => some s
  | .look _ => none

/-- The set of a range. -/
def rangeSet? (f : Flags) : Escape → Escape → Option CharSet
  | .literal low _, .literal high _ =>
    if low ≤ high ∧ mayStand f low ∧ mayStand f high then some (.range low high) else none
  | _, _ => none

/-- Reads what follows an item of a set, if it makes a range of it. -/
def readRest? (f : Flags) (first : Escape) : List Char → Option (CharSet × List Char)
  | [] => none
  | c :: cs =>
    if c ≠ '-' ∨ peekSpaced f.spaced (c :: cs) = some ']' ∨
        peekSpaced f.spaced (c :: cs) = some '-' then
      (itemSet? f first).map fun s => (s, c :: cs)
    else
      (readItem? f (skip f.spaced cs)).bind fun x => (rangeSet? f first x.1).map fun s => (s, x.2)

theorem readRange?_eq (f : Flags) (cs : List Char) :
    readRange? f cs =
      ((readItem? f cs).map fun x => (x.1, skip f.spaced x.2)).bind fun x =>
        readRest? f x.1 x.2 := by
  rw [readRange?]
  rcases readItem? f cs with _ | ⟨first, rest⟩
  · rfl
  · simp only [Option.bind_eq_bind, Option.bind_some, Option.map_some]
    rcases skip f.spaced rest with _ | ⟨c, rest⟩
    · rfl
    · simp only [readRest?, List.head?_cons, Option.bind_some, List.drop_one, List.tail_cons]
      split
      · cases first with
        | literal c byte =>
          simp only [itemSet?]
          split
          · rfl
          · rfl
        | set s => rfl
        | look l => rfl
      · rcases readItem? f (skip f.spaced rest) with _ | ⟨last, rest⟩
        · rfl
        · rcases first with ⟨low, byte⟩ | s | l <;> rcases last with ⟨high, byte⟩ | s | l
          · simp only [Option.bind_some, rangeSet?]
            split
            · rfl
            · rfl
          all_goals rfl

theorem readRange?_append (hm : more <:+ [')']) (f : Flags) (cs : List Char) :
    ReadsAlso more (readRange? f cs) (readRange? f (cs ++ more)) := by
  rw [readRange?_eq, readRange?_eq]
  refine ((readItem?_append hm f cs).skip hm f.spaced).bind fun first cs m hm' => ?_
  have hm := hm'.trans hm
  rcases cs with _ | ⟨c, cs⟩
  · exact .none
  · have hbracket : peekSpaced f.spaced (c :: (cs ++ m)) = some ']' ↔ _ :=
      peekSpaced_append hm f.spaced (c :: cs) (by decide) (by decide) (by decide)
    have hdash : peekSpaced f.spaced (c :: (cs ++ m)) = some '-' ↔ _ :=
      peekSpaced_append hm f.spaced (c :: cs) (by decide) (by decide) (by decide)
    obtain ⟨m₂, hm₂, hskip⟩ := skip_append hm f.spaced cs
    rw [List.cons_append, readRest?, readRest?]
    simp only [hbracket, hdash, hskip]
    refine .ite ?_ ?_
    · exact .ofOption List.suffix_rfl (itemSet? f first) id (c :: cs)
    · exact ((readItem?_append (hm₂.trans hm) f _).filterMap _).weaken hm₂

/-- The set that is still open afterwards with those around it, or the one that is complete. -/
abbrev Reached := (Level × List Level) ⊕ SetPart

/-- What closing the innermost set leads to. -/
def closeLevel? (f : Flags) (level : Level) (outer : List Level) : Option Reached :=
  (finishSet? f level.negated (level.value f).set).map fun set =>
    match outer with
    | [] => .inr ⟨set, (level.value f).depth + 1⟩
    | l :: outer => .inl (l.push set ((level.value f).depth + 1), outer)

/-- The operation that the character stands for when it is written twice. -/
def opOf? (c : Char) : Option SetOp :=
  if c = '&' then some .inter
  else if c = '-' then some .diff
  else if c = '~' then some .symmDiff
  else none

/-- Reads one part of a set: a bracket, an operation, an item or a range. -/
def readPart? (f : Flags) (level : Level) (outer : List Level) :
    List Char → Option (Reached × List Char)
  | [] => none
  | c :: cs =>
    if c = '[' then
      match readNamed? f cs with
      | some (s, rest) =>
        if f.unicode || isAscii s then some (.inl (level.push s 0, outer), rest) else none
      | none => (openLevel? f cs).map fun x => (.inl (x.1, level :: outer), x.2)
    else if c = ']' then (closeLevel? f level outer).map fun r => (r, cs)
    else
      let range := (readRange? f (c :: cs)).map fun x => (.inl (level.push x.1 0, outer), x.2)
      match opOf? c with
      | none => range
      | some op =>
        if (dropOne c cs).1 then some (.inl (level.operate f op, outer), (dropOne c cs).2)
        else range

/-- A step as it is given by what it leads to. -/
def BracketStep.ofReached : Reached × List Char → BracketStep
  | (.inl (level, outer), rest) => .more level outer rest
  | (.inr set, rest) => .done set rest

theorem bracketStep?_operation {f : Flags} {level : Level} {outer : List Level} {c : Char}
    {op : SetOp} (hop : opOf? c = some op) (rest : List Char) :
    bracketStep? f level outer (c :: c :: rest) =
      some (.more (level.operate f op) outer rest) := by
  rw [opOf?] at hop
  split at hop
  · next hc =>
    cases hop
    subst hc
    rfl
  · split at hop
    · next hc =>
      cases hop
      subst hc
      rfl
    · split at hop
      · next hc =>
        cases hop
        subst hc
        rfl
      · cases hop

theorem bracketStep?_range {f : Flags} {level : Level} {outer : List Level} {c : Char}
    {cs : List Char} (hopen : c ≠ '[') (hclose : c ≠ ']')
    (hop : ∀ op rest, opOf? c = some op → cs ≠ c :: rest) :
    bracketStep? f level outer (c :: cs) =
      (readRange? f (c :: cs)).map fun x => .more (level.push x.1 0) outer x.2 := by
  rw [bracketStep?]
  · rcases readRange? f (c :: cs) with _ | ⟨s, rest⟩
    · rfl
    · rfl
  · intro h
    cases h
  · exact fun _ h => hopen (List.cons.inj h).1
  · exact fun _ h => hclose (List.cons.inj h).1
  all_goals
    rintro rest h
    cases h
    exact hop _ rest rfl rfl

theorem bracketStep?_eq (f : Flags) (level : Level) (outer : List Level) (cs : List Char) :
    bracketStep? f level outer cs = (readPart? f level outer cs).map .ofReached := by
  rcases cs with _ | ⟨c, cs⟩
  · rfl
  · rw [readPart?]
    by_cases hopen : c = '['
    · subst hopen
      simp only [if_true, bracketStep?]
      rcases readNamed? f cs with _ | ⟨s, rest⟩
      · rcases openLevel? f cs with _ | ⟨inner, rest⟩
        · rfl
        · rfl
      · simp only
        split
        · rfl
        · rfl
    · rw [if_neg hopen]
      by_cases hclose : c = ']'
      · subst hclose
        simp only [if_true, bracketStep?, closeLevel?]
        rcases finishSet? f level.negated (level.value f).set with _ | set
        · rfl
        · rcases outer with _ | ⟨l, outer⟩
          · rfl
          · rfl
      · rw [if_neg hclose]
        -- a character that stands for an operation is an item if it is not written twice
        have hrange (hop : ∀ op rest, opOf? c = some op → cs ≠ c :: rest) :
            bracketStep? f level outer (c :: cs) =
              ((readRange? f (c :: cs)).map fun x =>
                ((.inl (level.push x.1 0, outer) : Reached), x.2)).map .ofReached := by
          rw [bracketStep?_range hopen hclose hop, Option.map_map]
          rfl
        cases hop : opOf? c with
        | none =>
          refine hrange fun op rest hsome => ?_
          rw [hop] at hsome
          cases hsome
        | some op =>
          dsimp only
          split
          · next hone =>
            obtain ⟨rest, rfl⟩ := eq_cons_of_dropOne hone
            rw [bracketStep?_operation hop, dropOne, if_pos rfl]
            rfl
          · next hone =>
            refine hrange fun op' rest _ hcs => hone ?_
            rw [hcs, dropOne, if_pos rfl]

theorem readPart?_append (hm : more <:+ [')']) (f : Flags) (level : Level) (outer : List Level)
    (cs : List Char) :
    ReadsAlso more (readPart? f level outer cs) (readPart? f level outer (cs ++ more)) := by
  rcases cs with _ | ⟨c, cs⟩
  · exact .none
  · have hrange : ReadsAlso more
        ((readRange? f (c :: cs)).map fun x => ((.inl (level.push x.1 0, outer) : Reached), x.2))
        ((readRange? f (c :: (cs ++ more))).map fun x => (.inl (level.push x.1 0, outer), x.2)) :=
      (readRange?_append hm f (c :: cs)).map (fun s => .inl (level.push s 0, outer))
        fun _ _ => rfl
    rw [List.cons_append, readPart?, readPart?, readNamed?_append hm]
    refine .ite ?_ (.ite ?_ ?_)
    · rcases readNamed? f cs with _ | ⟨s, rest⟩
      · exact (openLevel?_append hm f cs).map (fun l => .inl (l, level :: outer)) fun _ _ => rfl
      · exact .ite (.some List.suffix_rfl _ rest) .none
    · exact .ofOption List.suffix_rfl (closeLevel? f level outer) id cs
    · cases hop : opOf? c with
      | none => exact hrange
      | some op =>
        have hc : c ≠ ')' := by
          rintro rfl
          cases hop
        simp only [dropOne_append hc hm]
        exact .ite (.some List.suffix_rfl _ _) hrange

theorem readLevels?_eq (f : Flags) (level : Level) (outer : List Level) (cs : List Char) :
    readLevels? f level outer cs =
      (readPart? f level outer (skip f.spaced cs)).bind fun x =>
        match x with
        | (.inl (level, outer), rest) =>
          if rest.length < cs.length then readLevels? f level outer rest else none
        | (.inr set, rest) => some (set, rest) := by
  rw [readLevels?, bracketStep?_eq]
  rcases readPart? f level outer (skip f.spaced cs) with _ | ⟨⟨level, outer⟩ | set, rest⟩
  · rfl
  · rfl
  · rfl

/-- By induction on what is left of the set: every part is read from it with the parenthesis as
well. -/
theorem readLevels?_append (hm : more <:+ [')']) (f : Flags) (level : Level) (outer : List Level)
    (cs : List Char) :
    ReadsAlso more (readLevels? f level outer cs) (readLevels? f level outer (cs ++ more)) := by
  induction hlen : cs.length using Nat.strongRecOn generalizing more level outer cs with
  | ind n ih =>
    subst hlen
    obtain ⟨m, hm', hskip⟩ := skip_append hm f.spaced cs
    rw [readLevels?_eq, readLevels?_eq f level outer (cs ++ more), hskip]
    refine ReadsAlso.bind ((readPart?_append (hm'.trans hm) f level outer _).weaken hm') ?_
    intro x rest m₂ hm₂
    rcases x with ⟨level, outer⟩ | set
    · by_cases hlt : rest.length < cs.length
      · simp only [if_pos hlt, if_pos (length_append_lt hm₂ hlt)]
        exact ih _ hlt (hm₂.trans hm) level outer rest rfl
      · simp only [if_neg hlt]
        exact .none
    · exact .some List.suffix_rfl set rest

theorem readBracket?_append (hm : more <:+ [')']) (f : Flags) (cs : List Char) :
    ReadsAlso more (readBracket? f cs) (readBracket? f (cs ++ more)) :=
  (openLevel?_append hm f cs).bind fun level rest _ hm' =>
    readLevels?_append (hm'.trans hm) f level [] rest

end Locus.Pattern
