import Locus.Proofs.Idle
import Locus.Proofs.Unmatched

/-!
# Asking for all tokens comes to an end

A host is asked for one token after another, and nothing in that loop says that it ends. Here the
loop is given an allowance of tokens, and nothing comes of it if there are more. Main statement: a
lexer, bare or under plugins, whatever its rules are, moves over at least one character with each
token, so an allowance of as many tokens as there are characters left is enough; the loop ends at
the end of the text, or with the error about a place where no rule matches.
-/

namespace Locus

variable {σ ι τ ε : Type}

namespace TokenHost

/-! ## Asking with an allowance -/

/-- Asks for one token after another, but for no more than `n` of them: nothing comes of it if the
host gives `n` tokens and then another one. -/
def collect? (h : TokenHost σ ι τ ε) (n : Nat) (s : σ) : Option (Reply σ ι τ (Except ε (List τ))) :=
  match (h.advance s).outcome with
  | .error e => some ⟨.error e, (h.advance s).state, (h.advance s).heard⟩
  | .ok none => some ⟨.ok [], (h.advance s).state, (h.advance s).heard⟩
  | .ok (some t) =>
    match n with
    | 0 => none
    | n + 1 =>
      (h.collect? n (h.advance s).state).map fun rest =>
        ⟨rest.outcome.map (t :: ·), rest.state, (h.advance s).heard ++ rest.heard⟩

variable {h : TokenHost σ ι τ ε} {fin : h.Finite} {s : σ}

/-- The loop goes beyond its allowance exactly if the host gives more tokens than that. -/
theorem collect?_eq_none_iff {n : Nat} :
    h.collect? n s = none ↔ ∃ ts s', h.Gives s ts s' ∧ ts.length = n + 1 := by
  fun_induction collect? h n s with
  | case1 n s e he =>
    refine iff_of_false (Option.some_ne_none _) ?_
    rintro ⟨ts, s', _ | ⟨ht, rest⟩, hlen⟩
    · cases hlen
    · cases he.symm.trans ht
  | case2 n s hnone =>
    refine iff_of_false (Option.some_ne_none _) ?_
    rintro ⟨ts, s', _ | ⟨ht, rest⟩, hlen⟩
    · cases hlen
    · cases hnone.symm.trans ht
  | case3 s t ht => exact iff_of_true rfl ⟨[t], _, .cons ht (.nil _), rfl⟩
  | case4 s t ht n ih =>
    rw [Option.map_eq_none_iff, ih]
    constructor
    · rintro ⟨ts, s', g, hlen⟩
      exact ⟨t :: ts, s', .cons ht g, congrArg Nat.succ hlen⟩
    · rintro ⟨ts, s', _ | ⟨ht', rest⟩, hlen⟩
      · cases hlen
      · exact ⟨_, s', rest, Nat.succ.inj hlen⟩

/-- What the loop comes to within its allowance is what it comes to. -/
theorem eq_drain_of_collect? {n : Nat} {r : Reply σ ι τ (Except ε (List τ))}
    (hr : h.collect? n s = some r) : r = h.drain fin s := by
  fun_induction collect? h n s generalizing r with
  | case1 n s e he =>
    cases hr
    exact (drain_of_error he).symm
  | case2 n s hnone =>
    cases hr
    exact (drain_of_none hnone).symm
  | case3 s t ht => cases hr
  | case4 s t ht n ih =>
    obtain ⟨rest, hrest, rfl⟩ := Option.map_eq_some_iff.1 hr
    rw [drain_of_some ht, ← ih hrest]

/-- A host gives no more tokens than the bound says that are still to come. -/
theorem Gives.length_add_left_le (fin : h.Finite) {s' : σ} {ts : List τ} (g : h.Gives s ts s') :
    ts.length + fin.left s' ≤ fin.left s := by
  induction g with
  | nil s => simp
  | cons ht rest ih =>
    have hlt := fin.left_advance_lt _ _ ht
    rw [List.length_cons]
    omega

/-- An allowance of as many tokens as there can be is enough. -/
theorem collect?_of_left_le {n : Nat} (hn : fin.left s ≤ n) :
    h.collect? n s = some (h.drain fin s) := by
  rcases hr : h.collect? n s with _ | r
  · obtain ⟨ts, s', g, hlen⟩ := collect?_eq_none_iff.1 hr
    have hle := g.length_add_left_le fin
    omega
  · rw [eq_drain_of_collect? hr]

end TokenHost

namespace Lexer

variable {ι : Type}

/-! ## Lexers under plugins -/

/-- Plugins change nothing about a call but the token. -/
theorem advance_under (plugins : List Plugin) (l : Lexer ι) :
    ((under plugins).advance l).state = l.advance.2 ∧
      (∀ e, ((under plugins).advance l).outcome = .error e ↔ l.advance.1 = .error e) ∧
      (((under plugins).advance l).outcome = .ok none ↔ l.advance.1 = .ok none) := by
  induction plugins with
  | nil => exact ⟨rfl, fun _ => Iff.rfl, Iff.rfl⟩
  | cons p plugins ih =>
    obtain ⟨hstate, herror, hnone⟩ := ih
    have hd := p.decorates_locateReply (under plugins).toHost l ((under plugins).advance l)
    exact ⟨hd.left.trans hstate, fun e => (hd.error_iff e).trans (herror e),
      hd.none_iff.trans hnone⟩

theorem left_under (plugins : List Plugin) (l : Lexer ι) :
    (under plugins).finite.left l = l.cursor.rest.length := by
  induction plugins with
  | nil => rfl
  | cons p plugins ih => exact ih

theorem tokenize_under (plugins : List Plugin) (l : Lexer ι) :
    (under plugins).tokenize l = (under plugins).drain (under plugins).finite l := by
  cases plugins <;> rfl

/-- Each token takes the cursor over at least one character. -/
theorem moves_of_advance {plugins : List Plugin} {l : Lexer ι} {t : Token}
    (ht : ((under plugins).advance l).outcome = .ok (some t)) :
    ∃ n, 0 < n ∧ n ≤ l.cursor.rest.length ∧
      ((under plugins).advance l).state = { l with cursor := .skip n l.cursor } := by
  obtain ⟨hstate, herror, hnone⟩ := advance_under plugins l
  rcases call_cases .advance l with ⟨-, hidle⟩ | ⟨rule, -, n, hmatch, hr⟩
  · rcases hout : l.advance.1 with e | _ | u
    · cases ht.symm.trans ((herror e).2 hout)
    · cases ht.symm.trans (hnone.2 hout)
    · exact absurd hout (hidle u)
  · obtain ⟨hpos, hle⟩ := matchLength?_bounds hmatch
    have hadvance : l.advance.2 = (l.takeToken rule.kind n).2 := congrArg Reply.state hr
    have hcursor : (l.takeToken rule.kind n).2.cursor = .skip n l.cursor := by
      rw [cursor_takeToken, Cursor.take, List.length_take, Nat.min_eq_left hle]
    refine ⟨n, hpos, hle, ?_⟩
    rw [hstate, hadvance, ← hcursor]
    rfl

/-- So any number of tokens take it over at least as many characters, by induction on the tokens. -/
theorem moves_of_gives {plugins : List Plugin} {l m : Lexer ι} {ts : List Token}
    (g : (under plugins).Gives l ts m) :
    ∃ n, ts.length ≤ n ∧ n ≤ l.cursor.rest.length ∧ m = { l with cursor := .skip n l.cursor } := by
  induction g with
  | nil l => exact ⟨0, Nat.le_refl _, Nat.zero_le _, rfl⟩
  | @cons l m t ts ht rest ih =>
    obtain ⟨n, hpos, hn, hstate⟩ := moves_of_advance ht
    obtain ⟨k, hlen, hk, hm⟩ := ih
    rw [hstate] at hk hm
    rw [Cursor.rest_skip, List.length_drop] at hk
    refine ⟨n + k, ?_, by omega, ?_⟩
    · rw [List.length_cons]
      omega
    · rw [hm, Cursor.skip_skip]

theorem isAtEnd_of_advance {l : Lexer ι} (hnone : l.advance.1 = .ok none) :
    l.cursor.isAtEnd = true := by
  rw [advance] at hnone
  split at hnone
  · next hend => exact hend
  · split at hnone
    · cases hnone
    · cases hnone

/-- All tokens of a lexer are given up to the end of the text or up to a place where it is stuck,
and there it is left. -/
theorem tokenize_under_cases (plugins : List Plugin) (l : Lexer ι) :
    let reply := (under plugins).tokenize l
    ∃ ts, (under plugins).Gives l ts reply.state ∧
      (reply.state.cursor.isAtEnd = true ∧ reply.outcome = .ok ts ∨
        reply.state.Stuck ∧ reply.outcome = .error reply.state.unmatched) := by
  intro reply
  obtain ⟨ts, m, g, hstate, hend⟩ := (under plugins).drain_cases (under plugins).finite l
  rw [← tokenize_under] at hstate hend
  obtain ⟨-, herrors, hnones⟩ := advance_under plugins m
  have hkeep : ((under plugins).advance m).IsIdle → reply.state = m := fun hidle =>
    hstate.trans (idleKeeps_under plugins .advance m hidle).1
  rcases hend with ⟨hnone, hok⟩ | ⟨e, he, herror⟩
  · rw [hkeep fun t ht => by cases hnone.symm.trans ht]
    exact ⟨ts, g, .inl ⟨isAtEnd_of_advance (hnones.1 hnone), hok⟩⟩
  · rw [hkeep fun t ht => by cases he.symm.trans ht]
    have hbare := (herrors e).1 he
    have hstuck := stuck_of_advance hbare
    rw [advance_of_stuck hstuck] at hbare
    cases hbare
    exact ⟨ts, g, .inr ⟨hstuck, herror⟩⟩

/-! ## The bound -/

/-- What is left of a text is what lies behind the cursor. -/
theorem length_rest_of_mem_reached {s : Cursor} {input : String} {label : Option String}
    {uses : List Cursor.Use} (hs : s ∈ Cursor.reached input label uses) :
    s.rest.length = input.toList.length - s.position.index := by
  obtain ⟨i, -, rfl⟩ := Cursor.exists_eq_atIndex_of_mem_reached hs
  exact List.length_drop

/-- **Asking a lexer for all tokens comes to an end.** Take any rules, also such as match the empty
text, any cursor that can be reached over a text, and any plugins around the lexer, or none. Each
call that gives a token takes the cursor over at least one character, and so a number of tokens
take it over at least that number. The loop needs no greater allowance than the number of characters
that are left: with it, it comes to what the lexer gives. Then the lexer is at the end of the text,
and all tokens are handed back, or it is stuck and fails with the error about that place. -/
theorem tokenize_ends (plugins : List Plugin) (l : Lexer ι) {input : String}
    {label : Option String} {uses : List Cursor.Use}
    (hs : l.cursor ∈ Cursor.reached input label uses) :
    let h := under plugins
    let left := input.toList.length - l.cursor.position.index
    (∀ t, (h.advance l).outcome = .ok (some t) →
        ∃ n, 0 < n ∧ n ≤ left ∧ (h.advance l).state = { l with cursor := .skip n l.cursor }) ∧
      (∀ ts m, h.Gives l ts m →
        ∃ n, ts.length ≤ n ∧ n ≤ left ∧ m = { l with cursor := .skip n l.cursor }) ∧
      (∀ n, left ≤ n → h.collect? n l = some (h.tokenize l)) ∧
      let reply := h.tokenize l
      ∃ ts, h.Gives l ts reply.state ∧
        (reply.state.cursor.isAtEnd = true ∧ reply.outcome = .ok ts ∨
          reply.state.Stuck ∧ reply.outcome = .error reply.state.unmatched) := by
  intro h left
  have hleft : l.cursor.rest.length = left := length_rest_of_mem_reached hs
  refine ⟨fun t ht => ?_, fun ts m g => ?_, fun n hn => ?_, tokenize_under_cases plugins l⟩
  · rw [← hleft]
    exact moves_of_advance ht
  · rw [← hleft]
    exact moves_of_gives g
  · have hbound : h.finite.left l ≤ n := by
      rw [left_under, hleft]
      exact hn
    rw [TokenHost.collect?_of_left_le hbound, tokenize_under]

/-- A located lexer whose first rules match the empty text at many places, and whose cursor has been
moved into the text: of the four characters that are left, the first token takes two, the second
one, and at the last no rule matches. -/
theorem tokenize_ends_among_empty_matches :
    let rules := [("maybe", "x*"), ("either", "|y"), ("word", "[a-z]")]
    let uses : List Cursor.Use := [.move 0 (.take 1)]
    let l : Lexer Empty :=
      { (Use.captureAll rules).apply (.ofInput "éxxy€" .standard) with
        cursor := .skip 1 (.ofString "éxxy€" none) }
    let h := under [.standard]
    l.cursor ∈ Cursor.reached "éxxy€" none uses ∧ h.collect? 4 l = some (h.tokenize l) ∧
      (h.collect? 1 l).isNone ∧
      ∃ ts n, ts.length ≤ n ∧ n ≤ 4 ∧ h.Gives l ts { l with cursor := .skip n l.cursor } := by
  intro rules uses l h
  have hs : l.cursor ∈ Cursor.reached "éxxy€" none uses := List.mem_singleton.2 rfl
  obtain ⟨-, hgives, henough, ts, g, -⟩ := tokenize_ends [.standard] l hs
  have hleft : "éxxy€".toList.length - l.cursor.position.index = 4 := by decide +kernel
  rw [hleft] at hgives henough
  obtain ⟨n, hlen, hn, hm⟩ := hgives ts _ g
  refine ⟨hs, henough 4 (Nat.le_refl _), by decide +kernel, ts, n, hlen, hn, ?_⟩
  rw [← hm]
  exact g

end Lexer

end Locus
