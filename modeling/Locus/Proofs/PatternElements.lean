import Locus.Proofs.BracketText
import Locus.Regex.Pattern

/-!
# The elements of patterns

A step of reading a pattern does two things: it reads an element from the text, for which nothing
of the state counts but the flags, and it changes the state by that element, for which the text does
not count. Main statements: this is what a step is, and an element that is read from a text is read
from the text with a closing parenthesis behind it as well.
-/

namespace Locus.Pattern

variable {more : List Char}

/-! ## Groups and repetitions -/

theorem Flags.read?_append (more : List Char) (f : Flags) (off : Bool) (seen : List Char)
    (last : Char) (cs : List Char) :
    ReadsAlso more ((f.read? off seen last cs).map fun x => ((x.1, x.2.1, x.2.2.1), x.2.2.2))
      ((f.read? off seen last (cs ++ more)).map fun x => ((x.1, x.2.1, x.2.2.1), x.2.2.2)) := by
  induction cs generalizing f off seen last with
  | nil => exact .none
  | cons c cs ih =>
    rw [List.cons_append, Flags.read?, Flags.read?]
    split
    · split
      · exact .none
      · exact .some List.suffix_rfl _ cs
    · split
      · exact .none
      · split
        · exact ih _ _ _ _
        · cases f.set? c (!off) with
          | none => exact .none
          | some f => exact ih _ _ _ _

/-- The name of a group, if it is one. -/
def groupName? : List Char → Option (List Char)
  | [] => none
  | c :: name => if isNamePart true c && name.all (isNamePart false) then some (c :: name) else none

theorem readName?_eq (cs : List Char) :
    readName? cs = (cutAt? '>' cs).bind fun x => (groupName? x.1).map fun name => (name, x.2) := by
  rw [readName?, cutAt?]
  rcases hcs : cs.dropWhile (· ≠ '>') with _ | ⟨d, rest⟩
  · simp
  · obtain rfl := head_eq_of_dropWhile hcs
    rcases cs.takeWhile (· ≠ '>') with _ | ⟨c, name⟩
    · rfl
    · simp only [Option.bind_some, groupName?]
      split
      · rfl
      · rfl

theorem readName?_append (hm : more <:+ [')']) (cs : List Char) :
    ReadsAlso more (readName? cs) (readName? (cs ++ more)) := by
  rw [readName?_eq, readName?_eq, cutAt?_append (by decide) hm]
  refine ReadsAlso.filterMap ?_ groupName?
  rcases cutAt? '>' cs with _ | ⟨name, rest⟩
  · exact .none
  · exact .some List.suffix_rfl name rest

theorem readMark_eq (cs : List Char) : readMark cs = dropOne '?' cs := by
  rcases cs with _ | ⟨c, cs⟩
  · rfl
  · rw [dropOne]
    split
    · next hc =>
      rw [hc]
      rfl
    · next hc =>
      rw [readMark]
      exact fun _ h => hc (List.cons.inj h).1

theorem readMark_append (hm : more <:+ [')']) (cs : List Char) :
    readMark (cs ++ more) = ((readMark cs).1, (readMark cs).2 ++ more) := by
  rw [readMark_eq, readMark_eq, dropOne_append (by decide) hm]

theorem readCount?_append (hm : more <:+ [')']) (f : Flags) (cs : List Char) :
    ReadsAlso more (readCount? f cs) (readCount? f (cs ++ more)) := by
  obtain ⟨m, hm', htake⟩ := takeSpaced_append (p := Char.isDigit) rfl hm f.spaced false
    (cs.dropWhile Unicode.isWhiteSpace)
  rw [readCount?, readCount?, dropWhile_append_paren isWhiteSpace_paren hm, htake]
  rcases takeSpaced Char.isDigit f.spaced false (cs.dropWhile Unicode.isWhiteSpace) with ⟨ds, rest⟩
  obtain ⟨m₂, hm₂, hskip⟩ := skip_append (hm'.trans hm) f.spaced
    (rest.dropWhile Unicode.isWhiteSpace)
  simp only [dropWhile_append_paren isWhiteSpace_paren (hm'.trans hm), hskip]
  exact (ReadsAlso.ite .none (.some List.suffix_rfl _ _)).weaken (hm₂.trans hm')

/-- Reads the upper bound of a counted repetition and the closing brace after it. -/
def readUpper? (f : Flags) (least : Nat) (cs : List Char) :
    Option ((Nat × Option Nat) × List Char) :=
  (readCount? f cs).bind fun x =>
    if (dropOne '\x7d' x.2).1 then
      if least ≤ x.1 then
        some ((least, some (x.1 - least)), skip f.spaced (dropOne '\x7d' x.2).2)
      else none
    else none

/-- Reads the bounds of a counted repetition, after its opening brace. -/
def readRepeats? (f : Flags) (cs : List Char) : Option ((Nat × Option Nat) × List Char) :=
  (readCount? f (skip f.spaced cs)).bind fun x =>
    if (dropOne '\x7d' x.2).1 then
      some ((x.1, some 0), skip f.spaced (dropOne '\x7d' x.2).2)
    else if (dropOne ',' x.2).1 then
      let rest := skip f.spaced (dropOne ',' x.2).2
      if (dropOne '\x7d' rest).1 then
        some ((x.1, none), skip f.spaced (dropOne '\x7d' rest).2)
      else readUpper? f x.1 rest
    else none

theorem readUpper?_eq (f : Flags) (least : Nat) (cs : List Char) :
    (do
      let (most, rest) ← readCount? f cs
      match rest with
      | '\x7d' :: rest =>
        if least ≤ most then some (least, some (most - least), skip f.spaced rest) else none
      | _ => none) = (readUpper? f least cs).map fun x => (x.1.1, x.1.2, x.2) := by
  rw [readUpper?]
  rcases readCount? f cs with _ | ⟨most, _ | ⟨c, rest⟩⟩
  · rfl
  · rfl
  · by_cases hc : c = '\x7d'
    · subst hc
      simp only [Option.bind_eq_bind, Option.bind_some, dropOne, if_true]
      split
      · rfl
      · rfl
    · simp [dropOne, hc]

theorem readBounds?_eq (f : Flags) (cs : List Char) :
    readBounds? f cs = (readRepeats? f cs).map fun x => (x.1.1, x.1.2, x.2) := by
  rw [readBounds?, readRepeats?]
  rcases readCount? f (skip f.spaced cs) with _ | ⟨least, _ | ⟨c, rest⟩⟩
  · rfl
  · rfl
  · by_cases hclose : c = '\x7d'
    · simp [dropOne, hclose]
    · by_cases hcomma : c = ','
      · subst hcomma
        rcases hrest : skip f.spaced rest with _ | ⟨d, rest'⟩
        · simp only [Option.bind_eq_bind, Option.bind_some, hrest, dropOne, Char.reduceEq,
            if_false, if_true, Bool.false_eq_true]
          exact readUpper?_eq f least []
        · by_cases hd : d = '\x7d'
          · simp [dropOne, hrest, hd]
          · simp only [Option.bind_eq_bind, Option.bind_some, hrest, dropOne, Char.reduceEq,
              List.cons.injEq, hd, false_and, imp_self, implies_true, if_false, if_true,
              Bool.false_eq_true]
            exact readUpper?_eq f least (d :: rest')
      · simp [dropOne, hclose, hcomma]

theorem readRepeats?_append (hm : more <:+ [')']) (f : Flags) (cs : List Char) :
    ReadsAlso more (readRepeats? f cs) (readRepeats? f (cs ++ more)) := by
  have hbrace : ('\x7d' : Char) ≠ ')' := by decide
  -- a bound is complete with its brace, and what counts for nothing may follow
  have hclosed {α : Type} {m : List Char} (hm : m <:+ [')']) (x : α) (rest : List Char) :
      ReadsAlso m (some (x, skip f.spaced rest)) (some (x, skip f.spaced (rest ++ m))) :=
    (ReadsAlso.some List.suffix_rfl x rest).skip hm f.spaced
  obtain ⟨m, hm', hskip⟩ := skip_append hm f.spaced cs
  rw [readRepeats?, readRepeats?, hskip]
  refine ReadsAlso.weaken ?_ hm'
  refine (readCount?_append (hm'.trans hm) f _).bind fun least rest m₂ hm₂ => ?_
  have hm := (hm₂.trans hm').trans hm
  simp only [dropOne_append hbrace hm, dropOne_append (d := ',') (by decide) hm]
  refine .ite (hclosed hm _ _) (.ite ?_ .none)
  obtain ⟨m₃, hm₃, hskip₃⟩ := skip_append hm f.spaced (dropOne ',' rest).2
  simp only [hskip₃, readUpper?, dropOne_append hbrace (hm₃.trans hm)]
  refine (ReadsAlso.ite (hclosed (hm₃.trans hm) _ _) ?_).weaken hm₃
  refine (readCount?_append (hm₃.trans hm) f _).bind fun most rest m₄ hm₄ => ?_
  have hm := (hm₄.trans hm₃).trans hm
  simp only [dropOne_append hbrace hm]
  exact .ite (.ite (hclosed hm _ _) .none) .none

/-! ## Elements -/

/-- What is read in one step. -/
inductive Element where
  /-- The start of a group in which the flags are in force. -/
  | opening (flags : Flags) (captures : Bool)
  /-- The start of a group with a name. -/
  | named (name : List Char)
  /-- Flags for what follows in the group. -/
  | flags (flags : Flags)
  /-- The end of a group. -/
  | closing
  /-- The end of an alternative. -/
  | bar
  | piece (p : Piece)
  /-- A repetition of the piece before. -/
  | repetition (least : Nat) (more : Option Nat) (mark : Bool)

/-- A piece with flat notation. -/
def Element.flat (r : Regex) : Element := .piece ⟨r, 0, true⟩

/-- The state after an element. -/
def Element.act? : Element → State → Option State
  | .opening f captures, s => some (s.openGroup f captures)
  | .named name, s =>
    if s.names.contains name then none
    else some { s.openGroup s.flags true with names := name :: s.names }
  | .flags f, s => some ({ s with flags := f }.push ⟨.empty, 0, false⟩)
  | .closing, s => s.closeGroup?
  | .bar, s => some s.branch
  | .piece p, s => some (s.push p)
  | .repetition least more mark, s => s.repeatLast? least more mark

/-- Reads a group's flags up to a colon, or flags for what follows up to the parenthesis. -/
def readFlags? (f : Flags) (cs : List Char) : Option (Element × List Char) :=
  ((f.read? false [] ' ' cs).map fun x => ((x.1, x.2.1, x.2.2.1), x.2.2.2)).bind fun x =>
    (if x.1.2.1 = ':' then some (.opening x.1.1 false)
      else if x.1.2.2 then some (.flags x.1.1)
      else none).map fun e => (e, x.2)

/-- Reads the start of a group after its question mark. -/
def readKind? (f : Flags) : List Char → Option (Element × List Char)
  | [] => none
  | c :: cs =>
    if c = '=' ∨ c = '!' then none
    else if c = '<' then
      if (dropOne '=' cs).1 ∨ (dropOne '!' cs).1 then none
      else (readName? cs).map fun x => (.named x.1, x.2)
    else if c = 'P' ∧ (dropOne '<' cs).1 then
      (readName? (dropOne '<' cs).2).map fun x => (.named x.1, x.2)
    else readFlags? f (c :: cs)

/-- Reads the start of a group after its parenthesis. -/
def readOpening? (f : Flags) (cs : List Char) : Option (Element × List Char) :=
  if (dropOne '?' (skip f.spaced cs)).1 then readKind? f (dropOne '?' (skip f.spaced cs)).2
  else some (.opening f true, skip f.spaced cs)

/-- The expression of an escape. -/
def escapeRegex? (f : Flags) : Escape → Option Regex
  | .literal c byte => literal? f c byte
  | .set s => some (setRegex f s)
  | .look l => some (.look l)

/-- The expression of a character that is not part of a longer notation. -/
def flatRegex? (f : Flags) (c : Char) : Option Regex :=
  if c = '.' then dot? f
  else if c = '^' then some (.look (startLook f))
  else if c = '$' then some (.look (endLook f))
  else literal? f c false

/-- Reads an element that begins with the character. -/
def readElement? (f : Flags) (c : Char) (cs : List Char) : Option (Element × List Char) :=
  if c = '(' then readOpening? f cs
  else if c = ')' then some (.closing, cs)
  else if c = '|' then some (.bar, cs)
  else if c = '[' then
    (readBracket? f cs).map fun x => (.piece ⟨setRegex f x.1.set, x.1.depth, true⟩, x.2)
  else if c = '?' then some (.repetition 0 (some 1) (readMark cs).1, (readMark cs).2)
  else if c = '*' then some (.repetition 0 none (readMark cs).1, (readMark cs).2)
  else if c = '+' then some (.repetition 1 none (readMark cs).1, (readMark cs).2)
  else if c = '\x7b' then
    (readRepeats? f cs).bind fun x =>
      some (.repetition x.1.1 x.1.2 (readMark x.2).1, (readMark x.2).2)
  else if c = '\\' then
    (readEscape? f cs).bind fun x => (escapeRegex? f x.1).map fun r => (.flat r, x.2)
  else (flatRegex? f c).map fun r => (.flat r, cs)

/-! ## Steps are elements -/

theorem openNamed?_eq (s : State) (cs : List Char) :
    openNamed? s cs =
      ((readName? cs).map fun x => (Element.named x.1, x.2)).bind fun x =>
        (x.1.act? s).map fun t => (t, x.2) := by
  rw [openNamed?]
  rcases readName? cs with _ | ⟨name, rest⟩
  · rfl
  · simp only [Option.bind_eq_bind, Option.bind_some, Option.map_some, Element.act?]
    split
    · rfl
    · rfl

theorem readFlags?_eq (s : State) (cs : List Char) :
    (match s.flags.read? false [] ' ' cs with
      | none => none
      | some (flags, stop, any, rest) =>
        if stop = ':' then some (s.openGroup flags false, rest)
        else if any then some ({ s with flags }.push ⟨.empty, 0, false⟩, rest)
        else none) =
      (readFlags? s.flags cs).bind fun x => (x.1.act? s).map fun t => (t, x.2) := by
  rw [readFlags?]
  rcases s.flags.read? false [] ' ' cs with _ | ⟨flags, stop, any, rest⟩
  · rfl
  · simp only [Option.map_some, Option.bind_some]
    split
    · rfl
    · split
      · rfl
      · rfl

theorem readGroup?_eq (s : State) (cs : List Char) :
    readGroup? s cs =
      (readOpening? s.flags cs).bind fun x => (x.1.act? s).map fun t => (t, x.2) := by
  rw [readGroup?, readOpening?]
  split
  · next h => simp [h, dropOne, readKind?]
  · next h => simp [h, dropOne, readKind?]
  · next h => simp [h, dropOne, readKind?]
  · next h => simp [h, dropOne, readKind?]
  · next rest h =>
    rw [openNamed?_eq, h]
    rfl
  · next rest hlook hbehind h =>
    have hname : readKind? s.flags ('<' :: rest) =
        (readName? rest).map fun x => (.named x.1, x.2) := by
      rw [readKind?, dropOne_of_ne hlook, dropOne_of_ne hbehind]
      rfl
    rw [openNamed?_eq, h, dropOne, if_pos rfl, if_pos rfl, hname]
  · next rest hlook hnlook _ _ hnamedP hnamed h =>
    have hkind : readKind? s.flags rest = readFlags? s.flags rest := by
      rcases rest with _ | ⟨c, rest⟩
      · rfl
      · have hc : ¬(c = '=' ∨ c = '!') := by
          rintro (rfl | rfl)
          · exact hlook rest rfl
          · exact hnlook rest rfl
        have hangle : c ≠ '<' := by
          rintro rfl
          exact hnamed rest rfl
        have hP : ¬(c = 'P' ∧ (dropOne '<' rest).1 = true) := by
          rintro ⟨rfl, hone⟩
          obtain ⟨rest, rfl⟩ := eq_cons_of_dropOne hone
          exact hnamedP rest rfl
        rw [readKind?, if_neg hc, if_neg hangle, if_neg hP]
    rw [h, dropOne, if_pos rfl, if_pos rfl, hkind]
    exact readFlags?_eq s rest
  · next hother =>
    rw [dropOne_of_ne hother]
    rfl

theorem step?_eq (s : State) (c : Char) (cs : List Char) :
    step? s c cs =
      (readElement? s.flags c cs).bind fun x => (x.1.act? s).map fun t => (t, x.2) := by
  have hite {p : Prop} [Decidable p] {a b : Option (Element × List Char)}
      {a' b' : Option (State × List Char)}
      (ha : a' = a.bind fun x => (x.1.act? s).map fun t => (t, x.2))
      (hb : b' = b.bind fun x => (x.1.act? s).map fun t => (t, x.2)) :
      (if p then a' else b') =
        (if p then a else b).bind fun x => (x.1.act? s).map fun t => (t, x.2) := by
    split
    · exact ha
    · exact hb
  rw [step?, readElement?]
  refine hite (readGroup?_eq s cs) (hite rfl (hite rfl (hite ?_ (hite rfl (hite rfl (hite rfl
    (hite ?_ (hite ?_ ?_))))))))
  · cases readBracket? s.flags cs with
    | none => rfl
    | some x => rfl
  · rw [readBounds?_eq]
    cases readRepeats? s.flags cs with
    | none => rfl
    | some x => rfl
  · rcases readEscape? s.flags cs with _ | ⟨⟨c, byte⟩ | _ | _, rest⟩
    · rfl
    · simp only [Option.bind_eq_bind, Option.bind_some, escapeRegex?]
      cases literal? s.flags c byte with
      | none => rfl
      | some r => rfl
    · rfl
    · rfl
  · rw [flatRegex?]
    have hflat {o : Option Regex} : (o.map fun r => (s.pushFlat r, cs)) =
        (o.map fun r => (Element.flat r, cs)).bind fun x =>
          (x.1.act? s).map fun t => (t, x.2) := by
      cases o with
      | none => rfl
      | some r => rfl
    simp only [apply_ite (Option.map fun r => (Element.flat r, cs))]
    exact hite hflat (hite rfl (hite rfl hflat))

/-! ## With a parenthesis behind -/

theorem readFlags?_append (more : List Char) (f : Flags) (cs : List Char) :
    ReadsAlso more (readFlags? f cs) (readFlags? f (cs ++ more)) := by
  rw [readFlags?, readFlags?]
  exact (f.read?_append more false [] ' ' cs).filterMap fun x =>
    if x.2.1 = ':' then some (Element.opening x.1 false)
    else if x.2.2 then some (Element.flags x.1)
    else none

theorem readKind?_append (hm : more <:+ [')']) (f : Flags) (cs : List Char) :
    ReadsAlso more (readKind? f cs) (readKind? f (cs ++ more)) := by
  rcases cs with _ | ⟨c, cs⟩
  · exact .none
  · have hname (cs : List Char) : ReadsAlso more
        ((readName? cs).map fun x => (Element.named x.1, x.2))
        ((readName? (cs ++ more)).map fun x => (.named x.1, x.2)) :=
      (readName?_append hm cs).map .named fun _ _ => rfl
    rw [List.cons_append, readKind?, readKind?, dropOne_append (by decide) hm,
      dropOne_append (by decide) hm, dropOne_append (by decide) hm]
    exact .ite .none (.ite (.ite .none (hname cs)) (.ite (hname _) (readFlags?_append more f _)))

theorem readOpening?_append (hm : more <:+ [')']) (f : Flags) (cs : List Char) :
    ReadsAlso more (readOpening? f cs) (readOpening? f (cs ++ more)) := by
  obtain ⟨m, hm', hskip⟩ := skip_append hm f.spaced cs
  rw [readOpening?, readOpening?, hskip, dropOne_append (by decide) (hm'.trans hm)]
  exact .weaken (.ite (readKind?_append (hm'.trans hm) f _) (.some List.suffix_rfl _ _)) hm'

theorem readElement?_append (hm : more <:+ [')']) (f : Flags) (c : Char) (cs : List Char) :
    ReadsAlso more (readElement? f c cs) (readElement? f c (cs ++ more)) := by
  have hone (e : Element) : ReadsAlso more (some (e, cs)) (some (e, cs ++ more)) :=
    .some List.suffix_rfl e cs
  have hmark (least : Nat) (most : Option Nat) : ReadsAlso more
      (some (Element.repetition least most (readMark cs).1, (readMark cs).2))
      (some (.repetition least most (readMark (cs ++ more)).1, (readMark (cs ++ more)).2)) := by
    rw [readMark_append hm]
    exact .some List.suffix_rfl _ _
  rw [readElement?, readElement?]
  refine .ite (readOpening?_append hm f cs) (.ite (hone .closing) (.ite (hone .bar) (.ite ?_
    (.ite (hmark 0 (some 1)) (.ite (hmark 0 none) (.ite (hmark 1 none) (.ite ?_ (.ite ?_ ?_))))))))
  · exact (readBracket?_append hm f cs).map (fun p => .piece ⟨setRegex f p.set, p.depth, true⟩)
      fun _ _ => rfl
  · refine (readRepeats?_append hm f cs).bind fun bounds rest m hm' => ?_
    rw [readMark_append (hm'.trans hm)]
    exact .some List.suffix_rfl _ _
  · refine (readEscape?_append hm f cs).bind fun e rest m hm' => ?_
    exact .ofOption List.suffix_rfl (escapeRegex? f e) Element.flat rest
  · exact .ofOption List.suffix_rfl (flatRegex? f c) Element.flat cs

end Locus.Pattern
