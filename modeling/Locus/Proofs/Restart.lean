import Locus.Proofs.Lexer
import Locus.Proofs.Located
import Locus.Proofs.Lockstep
import Locus.Proofs.Token

/-!
# Reading on in the middle of a text

A lexer knows of the text before its cursor only where the cursor is. So it is compared here with a
lexer that has the same rules and options and starts at the front of what is left. Main statement:
both give the same tokens and fail with the same errors, and all positions of the one are those of
the other, counted from where the first began.
-/

namespace Locus

/-! ## Counting from elsewhere -/

/-- A position of a text that begins at `origin`, counted from where `origin` is counted. Only in
its first line does the column of the origin matter. -/
def Position.shift (origin p : Position) : Position where
  index := p.index + origin.index
  line := p.line + (origin.line - 1)
  column := if p.line = 1 then p.column + origin.column else p.column

/-- A location, both ends counted from elsewhere. -/
def Location.shift (origin : Position) (l : Location) : Location :=
  ⟨l.source, origin.shift l.start, origin.shift l.stop⟩

/-- A map with every value changed. -/
def KeyMap.map {α β : Type} (f : α → β) (m : KeyMap α) : KeyMap β :=
  ⟨m.entries.map fun e => (e.1, f e.2), by
    rw [Ascending, List.pairwise_map]
    exact m.ascending⟩

/-- A token, all its locations counted from elsewhere. -/
def Token.shift (origin : Position) (t : Token) : Token where
  kind := t.kind
  value := t.value
  loc := t.loc.map (Location.shift origin)
  range := t.range.map fun r => (r.1 + origin.index, r.2 + origin.index)
  extra := t.extra.map (Location.shift origin)

/-- A cursor over what was left at `origin`, as a cursor over the text of `origin`. -/
def Cursor.shift (origin s : Cursor) : Cursor where
  input := origin.input
  rest := s.rest
  position := origin.position.shift s.position
  offset := s.offset + origin.offset
  label := origin.label

/-- An error, its position and its byte offset counted from elsewhere. -/
def LexError.shift (origin : Cursor) : LexError → LexError
  | .unmatched position source offset length =>
    .unmatched (origin.position.shift position) source (offset + origin.offset) length
  | e => e

/-- What begins where the text begins is at the origin. -/
theorem Position.shift_start {origin : Position} (h : 0 < origin.line) :
    origin.shift .start = origin := by
  obtain ⟨index, line, column⟩ := origin
  have hline : 1 + (line - 1) = line := Nat.add_sub_cancel' h
  simp [shift, start, hline]

/-- A character takes both positions on in the same way. -/
theorem Position.next_shift (origin : Position) {p : Position} (h : 0 < p.line) (c : Char)
    (rest : List Char) : (origin.shift p).next c rest = origin.shift (p.next c rest) := by
  rw [Position.next, Position.next]
  split
  · -- a break: the columns start again, whatever they were
    have hline : p.line + 1 ≠ 1 := by omega
    simp only [shift, if_neg hline, Position.mk.injEq]
    exact ⟨by omega, by omega, trivial⟩
  · simp only [shift, Position.mk.injEq]
    refine ⟨by omega, trivial, ?_⟩
    split
    · omega
    · rfl

theorem Position.line_pos_next {p : Position} (h : 0 < p.line) (c : Char) (rest : List Char) :
    0 < (p.next c rest).line := by
  rw [Position.next]
  split
  · exact Nat.succ_pos _
  · exact h

theorem Cursor.next_shift (origin : Cursor) {s : Cursor} (h : 0 < s.position.line) :
    (origin.shift s).next = origin.shift s.next := by
  rcases hrest : s.rest with _ | ⟨c, rest⟩
  · have hrest' : (origin.shift s).rest = [] := hrest
    rw [next_of_nil hrest, next_of_nil hrest']
  · have hrest' : (origin.shift s).rest = c :: rest := hrest
    rw [next_of_cons hrest, next_of_cons hrest', Cursor.shift, Cursor.shift]
    simp only [Position.next_shift _ h, Cursor.mk.injEq, true_and, and_true]
    omega

theorem Cursor.line_pos_next {s : Cursor} (h : 0 < s.position.line) : 0 < s.next.position.line := by
  rcases hrest : s.rest with _ | ⟨c, rest⟩
  · rw [next_of_nil hrest]
    exact h
  · rw [next_of_cons hrest]
    exact Position.line_pos_next h c rest

/-- So do any number of characters, by induction on it. -/
theorem Cursor.skip_shift (origin : Cursor) (n : Nat) {s : Cursor} (h : 0 < s.position.line) :
    Cursor.skip n (origin.shift s) = origin.shift (Cursor.skip n s) ∧
      0 < (Cursor.skip n s).position.line := by
  induction n generalizing s with
  | zero => exact ⟨rfl, h⟩
  | succ n ih =>
    rw [Cursor.skip, Cursor.skip, Cursor.next_shift origin h]
    exact ih (Cursor.line_pos_next h)

/-! ## Locations that are counted from elsewhere -/

theorem Keyed.insert_map {α β : Type} (f : α → β) (key : String) (value : α)
    (entries : List (String × α)) :
    insert key (f value) (entries.map fun e => (e.1, f e.2)) =
      (insert key value entries).map fun e => (e.1, f e.2) := by
  induction entries with
  | nil => rfl
  | cons e entries ih =>
    rw [List.map_cons, insert, insert, ih]
    split
    · rfl
    · split <;> rfl

namespace Token

theorem shift_ofKind (origin : Position) (kind value : String) :
    (ofKind kind value).shift origin = ofKind kind value := rfl

/-- Stamping a token and counting from elsewhere can change places. -/
theorem shift_stamp (origin : Position) (property : String) (l : Location) (t : Token) :
    (stamp property l t).shift origin = stamp property (l.shift origin) (t.shift origin) := by
  rw [stamp_eq, stamp_eq]
  split
  · rfl
  · split
    · rfl
    · have hextra : (t.extra.insert property l).map (Location.shift origin) =
          (t.extra.map (Location.shift origin)).insert property (l.shift origin) :=
        KeyMap.ext_entries (Keyed.insert_map _ _ _ _).symm
      rw [shift, hextra]
      rfl

end Token

namespace Lexer

variable {ι : Type}

/-- The lexer `l` reads on at `origin` as `m` reads what was left there. Who listens does not
matter. -/
structure Continues (origin : Cursor) (m l : Lexer ι) : Prop where
  handlers_eq : l.handlers = m.handlers
  options_eq : l.options = m.options
  cursor_eq : l.cursor = origin.shift m.cursor
  line_pos : 0 < m.cursor.position.line

variable {origin : Cursor} {m l : Lexer ι}

/-- Both take the same token and go on in the same way. -/
theorem Continues.takeToken (h : Continues origin m l) (kind : String) (n : Nat) :
    (l.takeToken kind n).1 = (m.takeToken kind n).1 ∧
      Continues origin (m.takeToken kind n).2 (l.takeToken kind n).2 := by
  have htake : l.cursor.take n = m.cursor.take n := by
    rw [h.cursor_eq]
    rfl
  refine ⟨by rw [Lexer.takeToken, htake]; rfl, h.handlers_eq, h.options_eq, ?_, ?_⟩
  · rw [cursor_takeToken, cursor_takeToken, htake, h.cursor_eq]
    exact (Cursor.skip_shift origin _ h.line_pos).1
  · rw [cursor_takeToken]
    exact (Cursor.skip_shift origin _ h.line_pos).2

theorem Continues.unmatched (h : Continues origin m l) :
    l.unmatched = m.unmatched.shift origin := by
  rw [Lexer.unmatched, Lexer.unmatched, h.options_eq, h.cursor_eq]
  rfl

/-- Both tokens are the same, and it carries no location yet. -/
def IsSame (t t' : Token) : Prop := t' = t ∧ ∃ kind value, t = .ofKind kind value

/-- Two lexers that read on alike answer single calls alike. -/
theorem inStep_host : (host (ι := ι)).InStep (Continues origin) (fun e e' => e' = e.shift origin)
    IsSame host := by
  intro c m l h
  have hrest : l.cursor.rest = m.cursor.rest := by
    rw [h.cursor_eq]
    rfl
  cases c with
  | lex kind =>
    have hcall : ∀ l : Lexer ι, host.call (.lex kind) l = reply (l.lex kind) := fun _ => rfl
    rw [hcall, hcall, lex, lex, h.handlers_eq]
    split
    · exact ⟨.error rfl, h⟩
    · next g _ =>
      have hmatch : l.matchLength? g = m.matchLength? g := by
        rw [matchLength?, matchLength?, hrest]
      rw [tryHandler, tryHandler, hmatch]
      rcases m.matchLength? g with _ | n
      · exact ⟨.ok .none, h⟩
      · obtain ⟨htoken, hleft⟩ := h.takeToken g.kind n
        exact ⟨.ok (.some ⟨htoken, _, _, rfl⟩), hleft⟩
  | advance =>
    have hcall : ∀ l : Lexer ι, host.call .advance l = reply l.advance := fun _ => rfl
    have hend : l.cursor.isAtEnd = m.cursor.isAtEnd := by rw [Cursor.isAtEnd, Cursor.isAtEnd, hrest]
    rw [hcall, hcall, advance, advance, hend, findSome?_tryHandler, findSome?_tryHandler, hrest,
      h.handlers_eq]
    split
    · exact ⟨.ok .none, h⟩
    · rcases firstMatch? m.handlers m.cursor.rest with _ | ⟨kind, n⟩
      · exact ⟨.error h.unmatched, h⟩
      · obtain ⟨htoken, hleft⟩ := h.takeToken kind n
        exact ⟨.ok (.some ⟨htoken, _, _, rfl⟩), hleft⟩

/-- So they do when they are located, but their locations are counted from different places. -/
theorem inStep_locate (p : Plugin) :
    (p.locate (host (ι := ι))).InStep (Continues origin) (fun e e' => e' = e.shift origin)
      (fun t t' => t' = t.shift origin.position) (p.locate host) := by
  intro c m l h
  obtain ⟨hout, hleft⟩ := inStep_host c m l h
  have hsource : host.source (host.call c l).state = host.source (host.call c m).state :=
    congrArg LexerOptions.source hleft.options_eq
  have hcursor : ∀ {m l : Lexer ι}, Continues origin m l →
      host.cursor l = origin.position.shift (host.cursor m) :=
    fun h => congrArg Cursor.position h.cursor_eq
  rw [Plugin.call_locate, Plugin.call_locate, Plugin.locateReply_state, Plugin.locateReply_state,
    Plugin.outcome_locateReply, Plugin.outcome_locateReply, hsource, hcursor h, hcursor hleft]
  refine ⟨hout.map fun o o' htoken => ?_, hleft⟩
  cases htoken with
  | none => exact .none
  | some htoken =>
    obtain ⟨rfl, kind, value, rfl⟩ := htoken
    refine .some ?_
    rw [Token.shift_stamp, Token.shift_ofKind]
    rfl

/-- A lexer reads on as one that starts at the front of what it has left. -/
theorem Reachable.continues (hl : l.Reachable) (events : Emitter ι) :
    Continues l.cursor { l.setInput (String.ofList l.cursor.rest) with events } l := by
  have hline : 0 < l.cursor.position.line := by
    rw [hl.sound.position_eq]
    exact Nat.succ_le_of_lt (Nat.lt_add_right _ Nat.one_pos)
  refine ⟨rfl, rfl, ?_, Nat.one_pos⟩
  have hfresh : (l.setInput (String.ofList l.cursor.rest)).cursor =
      Cursor.ofList l.cursor.rest l.options.source := by
    rw [setInput, Cursor.ofString, String.toList_ofList]
  have hshift : l.cursor.shift (Cursor.ofList l.cursor.rest l.options.source) = l.cursor := by
    rw [Cursor.shift, Cursor.ofList, Position.shift_start hline, Nat.zero_add]
  exact (congrArg l.cursor.shift hfresh).trans hshift |>.symm

/-- **A lexer reads on as if the rest were a text of its own.** At any point of its use, whatever is
asked of it from there on, it is compared with a lexer that has its rules and its options, any
listeners, and what is left as its text, so that a pattern sees the place as the start of a text.
Call by call both give the same tokens, or none, and fail with the same errors. Every position that
is reported, of a cursor, of a location or of an error, is that of the other lexer, counted from
where the first one was: indices and byte offsets begin there, lines as well, and the columns of the
first line. This holds also between a carriage return and its line feed. -/
theorem serve_continues (p : Plugin) {l : Lexer ι} (hl : l.Reachable) (events : Emitter ι)
    (requests : List Request) :
    let origin := l.cursor
    let fresh := { l.setInput (String.ofList l.cursor.rest) with events }
    let counted (e e' : LexError) := e' = e.shift origin
    List.Forall₂ (Exchange.Corresponds (Continues origin) counted IsSame)
        (tokenizer.serve requests fresh) (tokenizer.serve requests l) ∧
      List.Forall₂ (Exchange.Corresponds (Continues origin) counted
          fun t t' => t' = t.shift origin.position)
        ((p.install tokenizer).serve requests fresh) ((p.install tokenizer).serve requests l) := by
  intro origin fresh counted
  have hstart : Continues origin fresh l := hl.continues events
  exact ⟨inStep_host.serve requests hstart, (inStep_locate p).serve requests hstart⟩

/-- A lexer between a carriage return and its line feed, which goes on to a character that no rule
matches. -/
theorem serve_continues_inside_crlf :
    let rules := [("word", "\\b\\w"), ("return", "\r"), ("feed", "^\n")]
    let l : Lexer Empty := (Use.call .advance).apply <| (Use.call .advance).apply <|
      (Use.captureAll rules).apply (.ofInput "é\r\nb?" .standard)
    let fresh := l.setInput (String.ofList l.cursor.rest)
    let requests := [.call (.lex "feed"), .tokenize]
    let positions (l : Lexer Empty) :=
      (tokenizer.serve requests l).map fun x => x.reply.state.cursor.position
    l.Reachable ∧ l.cursor.position = ⟨2, 1, 2⟩ ∧ l.cursor.offset = 3 ∧
      positions fresh = [⟨1, 2, 0⟩, ⟨2, 2, 1⟩] ∧ positions l = [⟨3, 2, 0⟩, ⟨4, 2, 1⟩] := by
  intro rules l fresh requests positions
  have hl : l.Reachable := .use _ (.use _ (.use _ (.ofInput _ _)))
  have hfresh : positions fresh = [⟨1, 2, 0⟩, ⟨2, 2, 1⟩] := by decide +kernel
  obtain ⟨hbare, -⟩ := serve_continues .standard hl l.events requests
  have hshift : List.Forall₂ (fun p q => q = l.cursor.position.shift p) (positions fresh)
      (positions l) := by
    rw [List.forall₂_map_left_iff, List.forall₂_map_right_iff]
    exact hbare.imp fun x y h => congrArg Cursor.position h.left.cursor_eq
  have hposition : l.cursor.position = ⟨2, 1, 2⟩ := by decide +kernel
  refine ⟨hl, hposition, by decide +kernel, hfresh, ?_⟩
  rw [hfresh, hposition] at hshift
  obtain _ | ⟨hfirst, _ | ⟨hsecond, _ | _⟩⟩ := hshift
  exact congrArg₂ (fun p q => [p, q]) hfirst hsecond

end Lexer

end Locus
