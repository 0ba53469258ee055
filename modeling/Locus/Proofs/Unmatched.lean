import Locus.Proofs.Lexer
import Locus.Proofs.Requests

/-!
# Where no rule matches

The error at a place where no rule matches names the place twice: by the position of the cursor,
which counts characters, and by a byte offset with a number of bytes. Main statement: the error
arises exactly where a lexer is stuck, both names are of the one character at the cursor, and a
lexer that is asked for all its tokens stays there, behind the tokens that are lost to the caller.
-/

namespace Locus

/-! ## Characters by their bytes -/

/-- The `length` bytes of a text from byte `offset` on are the character that stands at `i`. -/
structure Spans (text : List Char) (i offset length : Nat) : Prop where
  offset_eq : offset = Utf8.size (text.take i)
  one_le_length : 1 ≤ length
  exists_char : ∃ c, text[i]? = some c ∧ length = c.utf8Size ∧
    Utf8.between? offset (offset + length) text = some [c]

/-- A character takes the bytes between the characters before it and those after it. -/
theorem spans_of_getElem? {text : List Char} {i : Nat} {c : Char} (h : text[i]? = some c) :
    Spans text i (Utf8.size (text.take i)) c.utf8Size := by
  obtain ⟨hlt, rfl⟩ := List.getElem?_eq_some_iff.1 h
  have hpart : (text.take (i + 1)).drop i = [text[i]] := by
    rw [List.take_succ_eq_append_getElem hlt, List.drop_left' (by simp; omega)]
  refine ⟨rfl, Char.utf8Size_pos _, text[i], h, rfl, ?_⟩
  rw [← Utf8.size_take_succ hlt, Utf8.between?_size_take (Nat.le_succ i), hpart]

namespace Lexer

variable {ι : Type}

/-! ## Being stuck -/

/-- The text goes on, but no rule takes anything from it: each rule has no match at the cursor, or
only the empty one. -/
structure Stuck (l : Lexer ι) : Prop where
  isAtEnd_eq : l.cursor.isAtEnd = false
  eq_zero_of_match : ∀ h ∈ l.handlers, ∀ n, h.pattern.matchLength? l.cursor.rest = some n → n = 0

theorem advance_of_stuck {l : Lexer ι} (h : l.Stuck) : l.advance = (.error l.unmatched, l) := by
  have hnone : firstMatch? l.handlers l.cursor.rest = none :=
    firstMatch?_eq_none_iff.2 h.eq_zero_of_match
  rw [advance, h.isAtEnd_eq, findSome?_tryHandler, hnone]
  rfl

/-- A call for whichever token fails only where the lexer is stuck. -/
theorem stuck_of_advance {l : Lexer ι} {e : LexError} (he : l.advance.1 = .error e) : l.Stuck := by
  rw [advance] at he
  split at he
  · cases he
  · next hend =>
    split at he
    · cases he
    · next hnone =>
      rw [findSome?_tryHandler, Option.map_eq_none_iff] at hnone
      exact ⟨Bool.eq_false_iff.2 hend, firstMatch?_eq_none_iff.1 hnone⟩

/-- The error of a stuck lexer, told by the text. -/
theorem Stuck.spans {l : Lexer ι} (h : l.Stuck) (hs : l.cursor.Sound) :
    ∃ offset length,
      l.unmatched =
        .unmatched l.cursor.position (l.options.source.getD "input") offset length ∧
      Spans l.cursor.input l.cursor.position.index offset length := by
  obtain ⟨-, c, hc, herror⟩ := eq_unmatched_of_advance hs (congrArg Prod.fst (advance_of_stuck h))
  rw [← hs.position_eq] at herror
  exact ⟨_, _, herror, spans_of_getElem? hc⟩

/-- Asking a stuck lexer for all tokens is asking it for one. -/
theorem tokenize_of_stuck {l : Lexer ι} (h : l.Stuck) :
    tokenizer.tokenize l = ⟨.error l.unmatched, l, []⟩ := by
  have hadvance : host.advance l = ⟨.error l.unmatched, l, []⟩ :=
    congrArg reply (advance_of_stuck h)
  have hdrain : host.drain finite l = _ :=
    TokenHost.drain_of_error (congrArg Reply.outcome hadvance)
  rwa [hadvance] at hdrain

/-! ## All tokens up to the failure -/

/-- Tokens that a lexer gives one after another lie side by side in its text, and only its cursor
moves, by induction on the tokens. -/
theorem tiles_of_gives {l l' : Lexer ι} {ts : List Token} (hs : l.cursor.Sound)
    (g : host.Gives l ts l') :
    l' = { l with cursor := l'.cursor } ∧ l'.cursor.input = l.cursor.input ∧
      ∃ ps, ts = ps.map Prod.fst ∧
        Tiles l.cursor.input l.options.source l.cursor.position.index ps
          l'.cursor.position.index := by
  induction g with
  | nil l => exact ⟨rfl, rfl, [], rfl, .nil _⟩
  | @cons l l' t ts ht rest ih =>
    rcases call_of_sound .advance hs with ⟨-, hnone⟩ | ⟨kind, n, hpos, hle, hok, hstate⟩
    · exact absurd ht (hnone t)
    · cases hok.symm.trans ht
      have hleft : (host.advance l).state = _ := hstate
      rw [hleft] at ih
      obtain ⟨hl', hinput, ps, rfl, htiles⟩ := ih (Cursor.sound_atIndex _ hle)
      exact ⟨hl', hinput, _, rfl, .cons kind hpos hle htiles⟩

/-- If asking for all tokens fails, the lexer has given the tokens up to a place where it is stuck,
and there it is left. -/
theorem tokenize_stuck {l : Lexer ι} {e : LexError}
    (he : (tokenizer.tokenize l).outcome = .error e) :
    let m := (tokenizer.tokenize l).state
    host.Gives l (host.given finite l) m ∧ m.Stuck ∧ e = m.unmatched := by
  intro m
  obtain ⟨ts, l', g, hstate, ⟨-, hok⟩ | ⟨e', hend, he'⟩⟩ := host.drain_cases finite l
  · cases hok.symm.trans he
  · cases he'.symm.trans he
    have hstuck : l'.Stuck := stuck_of_advance hend
    have hadvance : host.advance l' = ⟨.error l'.unmatched, l', []⟩ :=
      congrArg reply (advance_of_stuck hstuck)
    have hm : m = l' := hstate.trans (congrArg Reply.state hadvance)
    rw [hadvance] at hend
    cases hend
    rw [hm, g.given_eq, TokenHost.given_of_error (congrArg Reply.outcome hadvance),
      List.append_nil]
    exact ⟨g, hstuck, rfl⟩

/-- **Errors about unmatched input are exact.** A call for whichever token fails in this way exactly
where the lexer is stuck. The error is about the character at the cursor, and both of its names for
it, the position and the bytes, are right. If asking for all tokens fails so, the lexer is left at
the position that the error reports, behind the tokens that it has given, and whatever is asked
again fails in the same way and moves nothing. -/
theorem unmatched_is_exact {l : Lexer ι} (hl : l.Reachable) :
    let text := l.cursor.input
    let i := l.cursor.position.index
    ((∃ p source offset length, l.advance.1 = .error (.unmatched p source offset length)) ↔
        l.Stuck) ∧
      (∀ p source offset length, l.advance.1 = .error (.unmatched p source offset length) →
        p = l.cursor.position ∧ source = l.options.source.getD "input" ∧
          Spans text p.index offset length ∧ l.advance.2 = l) ∧
      ∀ p source offset length,
        (tokenizer.tokenize l).outcome = .error (.unmatched p source offset length) →
        let m := (tokenizer.tokenize l).state
        let made := host.given finite l
        m = { l with cursor := m.cursor } ∧ m.cursor.input = text ∧ m.cursor.position = p ∧
          Spans text p.index offset length ∧
          host.Gives l made m ∧
          made.flatMap (fun t => t.value.toList) = (text.take p.index).drop i ∧
          host.advance m = ⟨.error (.unmatched p source offset length), m, []⟩ ∧
          tokenizer.tokenize m = ⟨.error (.unmatched p source offset length), m, []⟩ := by
  intro text i
  refine ⟨⟨?_, ?_⟩, ?_, ?_⟩
  · rintro ⟨p, source, offset, length, he⟩
    exact stuck_of_advance he
  · intro hstuck
    rw [advance_of_stuck hstuck]
    exact ⟨_, _, _, _, rfl⟩
  · intro p source offset length he
    have hstuck := stuck_of_advance he
    obtain ⟨offset', length', herror, hspans⟩ := hstuck.spans hl.sound
    rw [advance_of_stuck hstuck, herror] at he
    cases he
    exact ⟨rfl, rfl, hspans, congrArg Prod.snd (advance_of_stuck hstuck)⟩
  · intro p source offset length he m made
    obtain ⟨g, hstuck, hm⟩ := tokenize_stuck he
    obtain ⟨hcursor, hinput, ps, hps, htiles⟩ := tiles_of_gives hl.sound g
    have hsound : m.cursor.Sound := (hl.use .tokenize).sound
    obtain ⟨offset', length', herror, hspans⟩ := hstuck.spans hsound
    rw [herror] at hm
    cases hm
    rw [hinput] at hspans
    refine ⟨hcursor, hinput, rfl, hspans, g, ?_, ?_, ?_⟩
    · have hmade : made = ps.map Prod.fst := hps
      rw [hmade, List.flatMap_map]
      exact htiles.flatMap_value
    · rw [← herror]
      exact congrArg reply (advance_of_stuck hstuck)
    · rw [← herror]
      exact tokenize_of_stuck hstuck

/-- The third character of a text takes three bytes, begins a line, and is matched by no rule, one
of which matches the empty text there. -/
theorem unmatched_is_exact_behind_break :
    let rules := [("word", "\\w"), ("break", "\n"), ("maybe", "x*")]
    let l : Lexer Empty := (Use.captureAll rules).apply (.ofInput "é\n€b" .standard)
    let m := (tokenizer.tokenize l).state
    let e : LexError := .unmatched ⟨2, 2, 0⟩ "input" 3 3
    l.Reachable ∧ (tokenizer.tokenize l).outcome = .error e ∧
      m.cursor.position = ⟨2, 2, 0⟩ ∧ Spans ['é', '\n', '€', 'b'] 2 3 3 ∧
      (host.given finite l).flatMap (fun t => t.value.toList) = ['é', '\n'] ∧
      tokenizer.tokenize m = ⟨.error e, m, []⟩ := by
  intro rules l m e
  have hl : l.Reachable := .use _ (.ofInput _ _)
  have he : (tokenizer.tokenize l).outcome = .error e := by decide +kernel
  obtain ⟨-, -, hall⟩ := unmatched_is_exact hl
  obtain ⟨-, -, hposition, hspans, -, hvalues, -, hagain⟩ := hall _ _ _ _ he
  have htext : l.cursor.input = ['é', '\n', '€', 'b'] := by decide +kernel
  have hindex : l.cursor.position.index = 0 := by decide +kernel
  rw [htext] at hspans
  rw [htext, hindex] at hvalues
  exact ⟨hl, he, hposition, hspans, hvalues, hagain⟩

end Lexer

end Locus
