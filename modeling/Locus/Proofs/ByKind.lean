import Locus.Proofs.Handlers
import Locus.Proofs.Requests

/-!
# Calls for whichever token, and calls for one kind

A call for one kind looks up the rule of that kind, a call for whichever token tries all rules in
order. Main statement: the second is the first for the first kind that gives a token, so a text
that has been cut into tokens is cut in the same way by asking for the kinds of these tokens, one
after another.
-/

namespace Locus.Lexer

variable {ι : Type}

/-! ## One call -/

/-- A call for the kind of a rule tries that rule. -/
theorem lex_kind_of_mem {l : Lexer ι} (hn : l.kinds.Nodup) {h : Handler} (hmem : h ∈ l.handlers) :
    l.lex h.kind =
      match l.tryHandler h with
      | some (t, l') => (.ok (some t), l')
      | none => (.ok none, l) := by
  have hfind : l.handlers.find? (fun g => g.kind = h.kind) = some h :=
    (find?_key_eq_some_iff hn).2 ⟨hmem, rfl⟩
  rewrite [lex, hfind]
  rfl

/-- What a call for the kind of a rule gives is what the rule gives. -/
theorem lex_kind_eq_some_iff {l : Lexer ι} (hn : l.kinds.Nodup) {h : Handler}
    (hmem : h ∈ l.handlers) {t : Token} {l' : Lexer ι} :
    l.lex h.kind = (.ok (some t), l') ↔ l.tryHandler h = some (t, l') := by
  rw [lex_kind_of_mem hn hmem]
  rcases l.tryHandler h with _ | ⟨t', l''⟩
  · simp
  · simp

/-- Rules give nothing if calls for their kinds give no token. -/
theorem findSome?_tryHandler_eq_none {l : Lexer ι} (hn : l.kinds.Nodup) {hs : List Handler}
    (hsub : ∀ h ∈ hs, h ∈ l.handlers)
    (hnone : ∀ k ∈ hs.map Handler.kind, ∀ t, (l.lex k).1 ≠ .ok (some t)) :
    hs.findSome? l.tryHandler = none := by
  rw [List.findSome?_eq_none_iff]
  intro h hh
  rcases htry : l.tryHandler h with _ | ⟨t, l'⟩
  · rfl
  · have hlex := (lex_kind_eq_some_iff hn (hsub h hh)).2 htry
    exact absurd (congrArg Prod.fst hlex) (hnone h.kind (List.mem_map_of_mem hh) t)

/-- The tokens of a rule are of its kind. -/
theorem kind_of_tryHandler {l l' : Lexer ι} {h : Handler} {t : Token}
    (htry : l.tryHandler h = some (t, l')) : t.kind = h.kind := by
  obtain ⟨n, -, htake⟩ := Option.map_eq_some_iff.1 htry
  cases htake
  rfl

/-- A call for whichever token is a call for the first kind that gives one. -/
theorem advance_of_first_kind {l : Lexer ι} (hn : l.kinds.Nodup) (hend : l.cursor.isAtEnd = false)
    {earlier later : List String} {k : String} (hkinds : l.kinds = earlier ++ k :: later)
    (hearlier : ∀ j ∈ earlier, ∀ t, (l.lex j).1 ≠ .ok (some t)) {t : Token} {l' : Lexer ι}
    (hk : l.lex k = (.ok (some t), l')) : l.advance = (.ok (some t), l') := by
  -- the rules divide as their kinds do
  obtain ⟨before, rest, hhandlers, rfl, hrest⟩ := List.map_eq_append_iff.1 hkinds
  obtain ⟨h, after, rfl, rfl, -⟩ := List.map_eq_cons_iff.1 hrest
  have hmem : ∀ g, g ∈ before ++ h :: after → g ∈ l.handlers := by
    intro g hg
    rw [hhandlers]
    exact hg
  have hbefore : before.findSome? l.tryHandler = none :=
    findSome?_tryHandler_eq_none hn (fun g hg => hmem g (List.mem_append_left _ hg)) hearlier
  have htry : l.tryHandler h = some (t, l') :=
    (lex_kind_eq_some_iff hn (hmem h (by simp))).1 hk
  have hfound : l.handlers.findSome? l.tryHandler = some (t, l') := by
    rw [hhandlers, List.findSome?_append, hbefore, List.findSome?_cons, htry]
    rfl
  rw [advance, hend, hfound]
  rfl

/-- A call for whichever token fails if no call for any kind gives one. -/
theorem advance_of_no_kind {l : Lexer ι} (hn : l.kinds.Nodup) (hend : l.cursor.isAtEnd = false)
    (hnone : ∀ k ∈ l.kinds, ∀ t, (l.lex k).1 ≠ .ok (some t)) :
    l.advance = (.error l.unmatched, l) := by
  have hfound : l.handlers.findSome? l.tryHandler = none :=
    findSome?_tryHandler_eq_none hn (fun _ hg => hg) hnone
  rw [advance, hend, hfound]
  rfl

/-! ## Calls one after another -/

/-- Where a call for whichever token gives one, a call for its kind comes to the same. -/
theorem call_lex_kind {l : Lexer ι} (hn : l.kinds.Nodup) {t : Token}
    (ht : l.advance.1 = .ok (some t)) : host.call (.lex t.kind) l = host.call .advance l := by
  have hlex : l.lex t.kind = l.advance := by
    rw [advance] at ht ⊢
    split at ht
    · cases ht
    · next hend =>
      rw [if_neg hend]
      split at ht
      · next t' l' hfound =>
        cases ht
        obtain ⟨h, hmem, htry⟩ := List.exists_of_findSome?_eq_some hfound
        rw [kind_of_tryHandler htry]
        exact (lex_kind_eq_some_iff hn hmem).2 htry
      · cases ht
  exact congrArg reply hlex

/-- Tokens that are given one after another are given again, from the same states to the same
states, when their kinds are asked for. By induction on the tokens. -/
theorem trace_lex_kinds {l l' : Lexer ι} {ts : List Token} (hl : l.Reachable)
    (g : host.Gives l ts l') :
    host.trace (ts.map fun t => .lex t.kind) l =
      host.trace (List.replicate ts.length .advance) l := by
  induction g with
  | nil l => rfl
  | @cons l l' t ts ht rest ih =>
    have hcall : host.call (.lex t.kind) l = host.call .advance l :=
      call_lex_kind hl.nodup_kinds ht
    have hrest := ih (hl.use (.call .advance))
    rw [List.map_cons, List.length_cons, List.replicate_succ, TokenHost.trace, TokenHost.trace,
      hcall]
    exact congrArg _ hrest

end Locus.Lexer

namespace Locus.TokenHost

variable {σ ι τ ε : Type}

/-- The state after calls is where the last of them went. -/
theorem after_eq_getLast?_trace (h : TokenHost σ ι τ ε) (calls : List Call) (s : σ) :
    h.after calls s = ((h.trace calls s).getLast?.map fun x => x.2.state).getD s := by
  induction calls generalizing s with
  | nil => rfl
  | cons c calls ih =>
    have hafter : h.after (c :: calls) s = h.after calls (h.call c s).state := rfl
    rw [hafter, ih, trace, List.getLast?_cons]
    rcases (h.trace calls (h.call c s).state).getLast? with _ | x
    · rfl
    · rfl

/-- Tokens that a host gives are the results of as many calls for whichever token. -/
theorem Gives.outcomes {h : TokenHost σ ι τ ε} {s s' : σ} {ts : List τ} (g : h.Gives s ts s') :
    (h.trace (List.replicate ts.length .advance) s).map (fun x => x.2.outcome) =
      ts.map fun t => .ok (some t) := by
  induction g with
  | nil s => rfl
  | cons ht rest ih => exact congrArg₂ List.cons ht ih

theorem Gives.after_advances {h : TokenHost σ ι τ ε} {s s' : σ} {ts : List τ}
    (g : h.Gives s ts s') : h.after (List.replicate ts.length .advance) s = s' := by
  induction g with
  | nil s => rfl
  | cons ht rest ih => exact ih

end Locus.TokenHost

namespace Locus.Lexer

variable {ι : Type}

theorem state_of_advance_none {l : Lexer ι} (hnone : (host.advance l).outcome = .ok none) :
    (host.advance l).state = l := by
  rcases call_cases .advance l with ⟨hstate, -⟩ | ⟨h, -, n, -, hr⟩
  · exact hstate
  · have hsome := congrArg Reply.outcome hr
    cases hsome.symm.trans hnone

/-- **A call for whichever token is the call for the first kind that gives one.** Before the end of
the text, it gives the token and leaves the state of the call for the first kind, in the order of
registration, that gives a token, and it fails if there is no such kind. So where all tokens can be
had, asking for the kinds of these tokens, one after another, goes through the states of asking for
whichever token, and has the same replies. -/
theorem advance_is_first_lex {l : Lexer ι} (hl : l.Reachable) :
    (l.cursor.isAtEnd = false →
      (∀ earlier k later t l', l.kinds = earlier ++ k :: later →
          (∀ j ∈ earlier, ∀ t, (l.lex j).1 ≠ .ok (some t)) →
          l.lex k = (.ok (some t), l') → l.advance = (.ok (some t), l')) ∧
        ((∀ k ∈ l.kinds, ∀ t, (l.lex k).1 ≠ .ok (some t)) →
          l.advance = (.error l.unmatched, l))) ∧
      ∀ tokens, (tokenizer.tokenize l).outcome = .ok tokens →
        let again := host.trace (tokens.map fun t => .lex t.kind) l
        again = host.trace (List.replicate tokens.length .advance) l ∧
          again.map (fun x => x.2.outcome) = tokens.map (fun t => .ok (some t)) ∧
          host.after (tokens.map fun t => .lex t.kind) l = (tokenizer.tokenize l).state := by
  have hn := hl.nodup_kinds
  refine ⟨fun hend => ⟨?_, advance_of_no_kind hn hend⟩, fun tokens hok => ?_⟩
  · intro earlier k later t l' hkinds hearlier hk
    exact advance_of_first_kind hn hend hkinds hearlier hk
  · obtain ⟨ts, l', g, hstate, ⟨hnone, hts⟩ | ⟨e, -, he⟩⟩ := host.drain_cases finite l
    · cases hts.symm.trans hok
      have hagain := trace_lex_kinds hl g
      have hend : (tokenizer.tokenize l).state = l' := hstate.trans (state_of_advance_none hnone)
      refine ⟨hagain, ?_, ?_⟩
      · rw [hagain]
        exact g.outcomes
      · rw [hend, TokenHost.after_eq_getLast?_trace, hagain, ← TokenHost.after_eq_getLast?_trace]
        exact g.after_advances
    · cases he.symm.trans hok

/-- The first of three rules matches nothing but the empty text, and the third matches first. -/
theorem advance_is_first_lex_two_words :
    let rules := [("blank", " *"), ("slash", "/"), ("word", "\\w+")]
    let l : Lexer Empty := (Use.captureAll rules).apply (.ofInput "é/b" .standard)
    let tokens := [.ofKind "word" "é", .ofKind "slash" "/", .ofKind "word" "b"]
    l.Reachable ∧ l.cursor.isAtEnd = false ∧ l.advance = (.ok (some (.ofKind "word" "é")),
        (l.lex "word").2) ∧
      (tokenizer.tokenize l).outcome = .ok tokens ∧
      (host.trace [.lex "word", .lex "slash", .lex "word"] l).map (fun x => x.2.outcome) =
        tokens.map fun t => .ok (some t) := by
  intro rules l tokens
  have hl : l.Reachable := .use _ (.ofInput _ _)
  have hend : l.cursor.isAtEnd = false := by decide +kernel
  have htokens : (tokenizer.tokenize l).outcome = .ok tokens := by decide +kernel
  obtain ⟨hfirst, hagain⟩ := advance_is_first_lex hl
  obtain ⟨-, houtcomes, -⟩ := hagain tokens htokens
  have hkinds : l.kinds = ["blank", "slash"] ++ "word" :: [] := by decide +kernel
  have hblank : (l.lex "blank").1 = .ok none := by decide +kernel
  have hslash : (l.lex "slash").1 = .ok none := by decide +kernel
  have hword : (l.lex "word").1 = .ok (some (.ofKind "word" "é")) := by decide +kernel
  refine ⟨hl, hend, (hfirst hend).1 _ _ _ _ _ hkinds ?_ (Prod.ext hword rfl), htokens, houtcomes⟩
  intro j hj t ht
  rcases List.mem_pair.1 hj with rfl | rfl
  · cases hblank.symm.trans ht
  · cases hslash.symm.trans ht

end Locus.Lexer
