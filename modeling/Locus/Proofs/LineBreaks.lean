import Locus.Proofs.AllTokens
import Locus.Proofs.LexFile
import Locus.Proofs.StandardRules

/-!
# Line breaks of the standard rules

The standard rules tell by patterns what a line break is, and a cursor tells it by the character
and the one behind it. Main statement: the two agree. A token of the kind for line breaks ends at
the start of the next line, and every other token ends in the line in which it starts.
-/

namespace Locus

/-! ## Positions along a text -/

namespace Position

variable {text : List Char} {i : Nat}

theorem ofIndex_succ_of_isBreak (hi : i < text.length) (h : isBreak text i = true) :
    ofIndex text (i + 1) = ⟨i + 1, (ofIndex text i).line + 1, 0⟩ := by
  rw [← next_ofIndex hi, next, breaksLine_drop hi, if_pos h]
  rfl

theorem ofIndex_succ_of_not_isBreak (hi : i < text.length) (h : isBreak text i = false) :
    ofIndex text (i + 1) = ⟨i + 1, (ofIndex text i).line, (ofIndex text i).column + 1⟩ := by
  rw [← next_ofIndex hi, next, breaksLine_drop hi, if_neg (by simp [h])]
  rfl

/-- Where no line ends, the line stays and the column grows with the index. -/
theorem ofIndex_add_of_not_isBreak {n : Nat} (hn : i + n ≤ text.length)
    (h : ∀ j < n, isBreak text (i + j) = false) :
    ofIndex text (i + n) = ⟨i + n, (ofIndex text i).line, (ofIndex text i).column + n⟩ := by
  induction n with
  | zero => rfl
  | succ n ih =>
    have hprev := ih (by omega) fun j hj => h j (by omega)
    have hstep := ofIndex_succ_of_not_isBreak (i := i + n) (by omega) (h n (by omega))
    rw [hprev] at hstep
    exact hstep

end Position

namespace Command

/-! ## Breaks as the scanner sees them -/

theorem isBreak_eq_false {text : List Char} {j : Nat} {c : Char} (hc : text[j]? = some c)
    (hends : Scan.endsLine c = false) : isBreak text j = false := by
  rw [isBreak, hc]
  rw [Scan.endsLine] at hends
  dsimp only
  rw [hends, Bool.false_and]

theorem isBreak_eq_true {text : List Char} {j : Nat} {c : Char} (hc : text[j]? = some c)
    (hends : Scan.endsLine c = true) (hpair : ¬ (c = '\r' ∧ text[j + 1]? = some '\n')) :
    isBreak text j = true := by
  rw [isBreak, hc]
  rw [Scan.endsLine] at hends
  dsimp only
  rw [hends, Bool.true_and, ← Bool.decide_and, decide_eq_false hpair]
  rfl

/-- What ends a line belongs to no number and no word. -/
theorem not_isWord_of_endsLine {c : Char} (hends : Scan.endsLine c = true) :
    Unicode.isDecimalDigit c = false ∧ Unicode.isWord c = false := by
  rw [Scan.endsLine, decide_eq_true_iff] at hends
  simp only [List.mem_cons, List.not_mem_nil, or_false] at hends
  rcases hends with rfl | rfl | rfl | rfl
  · decide +kernel
  · decide +kernel
  · decide +kernel
  · decide +kernel

theorem endsLine_eq_false_of_isDecimalDigit {c : Char} (h : Unicode.isDecimalDigit c = true) :
    Scan.endsLine c = false := by
  by_contra hends
  rw [(not_isWord_of_endsLine (by simpa using hends)).1] at h
  cases h

theorem endsLine_eq_false_of_isWord {c : Char} (h : Unicode.isWord c = true) :
    Scan.endsLine c = false := by
  by_contra hends
  rw [(not_isWord_of_endsLine (by simpa using hends)).2] at h
  cases h

theorem endsLine_eq_false_of_isSpace {c : Char} (h : Scan.isSpace c = true) :
    Scan.endsLine c = false := by
  rw [Scan.isSpace, Bool.and_eq_true] at h
  simpa using h.2

/-! ## Pieces that break no line -/

theorem take_length_takeWhile (p : Char → Bool) (cs : List Char) :
    cs.take (cs.takeWhile p).length = cs.takeWhile p :=
  (List.prefix_iff_eq_take.1 (List.takeWhile_prefix p)).symm

/-- A run of characters of a class ends no line if the class does not. -/
theorem endsLine_of_mem_take_run {p : Char → Bool}
    (hp : ∀ c, p c = true → Scan.endsLine c = false) {cs : List Char} :
    ∀ d ∈ cs.take (cs.takeWhile p).length, Scan.endsLine d = false := by
  intro d hd
  rw [take_length_takeWhile] at hd
  exact hp d (List.all_eq_true.1 List.all_takeWhile d hd)

theorem endsLine_of_mem_take_fraction {cs : List Char} :
    ∀ d ∈ cs.take (Scan.fraction cs), Scan.endsLine d = false := by
  intro d hd
  rw [Scan.fraction.eq_def] at hd
  split at hd
  · next e rest =>
    split at hd
    · next he =>
      rw [Nat.add_comm, List.take_succ_cons, List.take_succ_cons] at hd
      rcases List.mem_cons.1 hd with rfl | hd
      · decide
      · rcases List.mem_cons.1 hd with rfl | hd
        · exact endsLine_eq_false_of_isDecimalDigit he
        · exact endsLine_of_mem_take_run (fun c => endsLine_eq_false_of_isDecimalDigit) d hd
    · cases hd
  · cases hd

theorem endsLine_of_mem_take_numberTail {cs : List Char} :
    ∀ d ∈ cs.take (Scan.numberTail cs), Scan.endsLine d = false := by
  intro d hd
  rw [Scan.numberTail, List.take_add] at hd
  rcases List.mem_append.1 hd with hd | hd
  · exact endsLine_of_mem_take_run (fun c => endsLine_eq_false_of_isDecimalDigit) d hd
  · exact endsLine_of_mem_take_fraction d hd

/-- A piece that is no line break holds no character that ends a line. -/
theorem endsLine_of_mem_piece {c : Char} {cs : List Char} (hkind : (Scan.piece c cs).1 ≠ "newline") :
    ∀ d ∈ c :: cs.take (Scan.piece c cs).2, Scan.endsLine d = false := by
  rw [Scan.piece] at hkind ⊢
  by_cases hpair : c = '\r' ∧ cs.head? = some '\n'
  · simp [hpair] at hkind
  · by_cases hends : Scan.endsLine c = true
    · simp [hpair, hends] at hkind
    · -- the first character ends no line, so only those behind it are left
      rw [if_neg hpair, if_neg hends, List.forall_mem_cons]
      refine ⟨by simpa using hends, ?_⟩
      split
      · exact endsLine_of_mem_take_run fun c => endsLine_eq_false_of_isSpace
      · split
        · exact endsLine_of_mem_take_numberTail
        · split
          · exact endsLine_of_mem_take_run fun c => endsLine_eq_false_of_isWord
          · intro d hd
            cases hd

/-- A piece that is a line break is a carriage return with its line feed, or one character that
ends a line. -/
theorem piece_of_newline {c : Char} {cs : List Char} (hkind : (Scan.piece c cs).1 = "newline") :
    (c = '\r' ∧ cs.head? = some '\n' ∧ (Scan.piece c cs).2 = 1) ∨
      (Scan.endsLine c = true ∧ ¬ (c = '\r' ∧ cs.head? = some '\n') ∧
        (Scan.piece c cs).2 = 0) := by
  rw [Scan.piece] at hkind ⊢
  by_cases hpair : c = '\r' ∧ cs.head? = some '\n'
  · rw [if_pos hpair]
    exact .inl ⟨hpair.1, hpair.2, rfl⟩
  · by_cases hends : Scan.endsLine c = true
    · rw [if_neg hpair, if_pos hends]
      exact .inr ⟨hends, hpair, rfl⟩
    · -- all other pieces have other kinds
      exfalso
      rw [if_neg hpair, if_neg hends] at hkind
      split at hkind
      · simp at hkind
      · split at hkind
        · simp at hkind
        · split at hkind
          · simp at hkind
          · simp at hkind

/-! ## The lines of a piece -/

/-- The token goes on to the start of the next line if it is a line break, and else it stays in its
line. -/
def SpansLines (t : Token) (l : Location) : Prop :=
  if t.kind = "newline" then l.stop.line = l.start.line + 1 ∧ l.stop.column = 0
  else l.stop.line = l.start.line ∧ l.stop.column = l.start.column + t.value.length

section Piece

variable {text : List Char} {i : Nat} {c : Char} {cs : List Char}

theorem getElem?_of_drop (hrest : text.drop i = c :: cs) (j : Nat) :
    text[i + j]? = (c :: cs)[j]? := by
  rw [← hrest, List.getElem?_drop]

/-- Behind a piece that is no line break the cursor is in the same line. -/
theorem ofIndex_of_piece (hrest : text.drop i = c :: cs)
    (hkind : (Scan.piece c cs).1 ≠ "newline") (hn : i + ((Scan.piece c cs).2 + 1) ≤ text.length) :
    let n := (Scan.piece c cs).2 + 1
    Position.ofIndex text (i + n) =
      ⟨i + n, (Position.ofIndex text i).line, (Position.ofIndex text i).column + n⟩ := by
  intro n
  refine Position.ofIndex_add_of_not_isBreak hn fun j hj => ?_
  have hlt : i + j < text.length := by omega
  obtain ⟨d, hd⟩ : ∃ d, text[i + j]? = some d := ⟨_, List.getElem?_eq_getElem hlt⟩
  -- the character is one of the piece
  have hmem : d ∈ c :: cs.take (Scan.piece c cs).2 := by
    rw [← List.take_succ_cons]
    rw [getElem?_of_drop hrest, ← List.getElem?_take_of_lt hj] at hd
    exact List.mem_of_getElem? hd
  exact isBreak_eq_false hd (endsLine_of_mem_piece hkind d hmem)

/-- Behind a piece that is a line break the cursor is at the start of the next line. -/
theorem ofIndex_of_newline (hrest : text.drop i = c :: cs)
    (hkind : (Scan.piece c cs).1 = "newline") :
    let n := (Scan.piece c cs).2 + 1
    Position.ofIndex text (i + n) = ⟨i + n, (Position.ofIndex text i).line + 1, 0⟩ := by
  have hlength : text.length - i = cs.length + 1 := by
    rw [← List.length_drop, hrest, List.length_cons]
  have hc : text[i]? = some c := by
    have hzero := getElem?_of_drop hrest 0
    exact hzero
  have hnext : text[i + 1]? = cs.head? := by
    rw [getElem?_of_drop hrest, List.getElem?_cons_succ, List.head?_eq_getElem?]
  rcases piece_of_newline hkind with ⟨rfl, hhead, hn⟩ | ⟨hends, hpair, hn⟩
  · -- the carriage return of a pair does not count, only its line feed does
    obtain ⟨ds, rfl⟩ := List.head?_eq_some_iff.1 hhead
    rw [List.length_cons] at hlength
    have hreturn : isBreak text i = false := by
      rw [isBreak, hc, hnext]
      rfl
    have hfeed : isBreak text (i + 1) = true := by
      refine isBreak_eq_true (c := '\n') hnext rfl fun h => ?_
      cases h.1
    have hfirst := Position.ofIndex_succ_of_not_isBreak (by omega) hreturn
    have hsecond := Position.ofIndex_succ_of_isBreak (by omega) hfeed
    rw [hfirst] at hsecond
    rw [hn]
    exact hsecond
  · have hbreak : isBreak text i = true := by
      refine isBreak_eq_true hc hends ?_
      rw [hnext]
      exact hpair
    rw [hn]
    exact Position.ofIndex_succ_of_isBreak (by omega) hbreak

end Piece

/-- The match that the standard rules take is a piece of the scanner. -/
theorem exists_piece_of_firstMatch? {rest : List Char} {kind : String} {n : Nat}
    (h : Lexer.firstMatch? Standard.handlers rest = some (kind, n)) :
    ∃ c cs, rest = c :: cs ∧ kind = (Scan.piece c cs).1 ∧ n = (Scan.piece c cs).2 + 1 := by
  obtain ⟨hpos, hle⟩ := Lexer.firstMatch?_bounds h
  rcases rest with _ | ⟨c, cs⟩
  · rw [List.length_nil] at hle
    omega
  · rw [Standard.firstMatch?_handlers] at h
    cases h
    exact ⟨c, cs, rfl, rfl, rfl⟩

/-- One piece that the standard rules cut off, and the line behind it. -/
theorem spansLines_piece {text : List Char} (source : Option String) {i n : Nat} {kind : String}
    (hi : i ≤ text.length)
    (hmatch : Lexer.firstMatch? Standard.handlers (text.drop i) = some (kind, n)) :
    let p := piece text source kind i n
    SpansLines p.1 p.2 ∧
      p.2.stop.line = p.2.start.line + if p.1.kind = "newline" then 1 else 0 := by
  intro p
  have hle := (Lexer.firstMatch?_bounds hmatch).2
  rw [List.length_drop] at hle
  have hvalue : p.1.value.length = n := by
    have hlist : p.1.value = String.ofList ((text.drop i).take n) := rfl
    rw [hlist, String.length_ofList, List.length_take, List.length_drop, Nat.min_eq_left hle]
  obtain ⟨c, cs, hrest, rfl, rfl⟩ := exists_piece_of_firstMatch? hmatch
  have hkind : p.1.kind = (Scan.piece c cs).1 := rfl
  rw [SpansLines, hkind, hvalue]
  by_cases hnewline : (Scan.piece c cs).1 = "newline"
  · have hstop : p.2.stop = _ := ofIndex_of_newline hrest hnewline
    rw [if_pos hnewline, if_pos hnewline, hstop]
    exact ⟨⟨rfl, rfl⟩, rfl⟩
  · have hstop : p.2.stop = _ :=
      ofIndex_of_piece hrest hnewline (Nat.add_le_of_le_sub' hi hle)
    rw [if_neg hnewline, if_neg hnewline, hstop]
    exact ⟨⟨rfl, rfl⟩, rfl⟩

/-- The pieces into which the standard rules cut a text, and the line behind all of them. By
induction on the pieces. -/
theorem spansLines_of_cuts {text : List Char} {source : Option String} {i k : Nat}
    {ps : List (Token × Location)} (h : Cuts Standard.handlers text source i ps k)
    (hi : i ≤ text.length) :
    (∀ p ∈ ps, SpansLines p.1 p.2) ∧
      (Position.ofIndex text k).line =
        (Position.ofIndex text i).line + ps.countP fun p => p.1.kind = "newline" := by
  induction h with
  | nil i => exact ⟨by simp, rfl⟩
  | @cons i n k kind ps hmatch _ ih =>
    have hle := (Lexer.firstMatch?_bounds hmatch).2
    rw [List.length_drop] at hle
    obtain ⟨hspans, hline⟩ := spansLines_piece source hi hmatch
    obtain ⟨hrest, hlines⟩ := ih (Nat.add_le_of_le_sub' hi hle)
    refine ⟨List.forall_mem_cons.2 ⟨hspans, hrest⟩, ?_⟩
    have hstop : (Position.ofIndex text (i + n)).line = (Position.ofIndex text i).line + _ := hline
    rw [hlines, hstop, List.countP_cons, Nat.add_assoc, Nat.add_comm (List.countP _ ps)]
    simp only [decide_eq_true_eq]

/-! ## Located lexers with the standard rules -/

/-- A located lexer with the standard rules comes to the end of its text, and its tokens are the
stamped pieces. -/
theorem tokenize_install_standard {ι : Type} (p : Plugin) (input : String)
    (options : LexerOptions) :
    let l : Lexer ι := { Lexer.ofInput input options with handlers := Standard.handlers }
    let reply := (p.install Lexer.tokenizer).tokenize l
    let text := input.toList
    reply.state = { l with cursor := .atIndex text options.source text.length } ∧
      ∃ ps, Cuts Standard.handlers text options.source 0 ps text.length ∧
        reply.outcome = .ok (stampAll p.property ps) := by
  intro l reply text
  have hs : l.cursor.Sound := Cursor.sound_ofString input options.source
  have hstate : reply.state = (Lexer.host.drain Lexer.finite l).state :=
    (p.corresponds_tokenize_install Lexer.tokenizer l).2
  have hdrain : Lexer.host.drain Lexer.finite l = _ :=
    Standard.drain_of_standard (l := l) rfl options.source (Nat.zero_le text.length)
  refine ⟨by rw [hstate, hdrain], ?_⟩
  obtain ⟨ps, i, hcuts, ⟨hi, hok⟩ | ⟨hnone, ch, hch, -⟩⟩ := Lexer.tokenize_install_of_sound p hs
  · obtain rfl : i = text.length := hi
    exact ⟨ps, hcuts, hok⟩
  · -- some standard rule matches wherever there is a character
    obtain ⟨hlt, -⟩ := List.getElem?_eq_some_iff.1 hch
    rw [List.drop_eq_getElem_cons hlt] at hnone
    cases hnone.symm.trans (Standard.firstMatch?_handlers _ _)

/-- **The standard rules and the cursor agree on what a line break is.** On every text, located
tokens of the kind for line breaks end at the start of the line after the one in which they start,
and all others end in their line, as many columns on as they have characters. So the last line of
the text is one more than there are line breaks. -/
theorem standard_rules_break_lines {ι : Type} (p : Plugin) (input : String)
    (options : LexerOptions) :
    let rules := Rule.standard.map fun rule => (rule.name, rule.pattern)
    let registered := (Lexer.ofInput (ι := ι) input options).captureAll rules
    let reply := (p.install Lexer.tokenizer).tokenize registered.2
    let last := reply.state.cursor.position
    registered.1 = .ok () ∧ reply.state.cursor.isAtEnd = true ∧
      ∃ tokens, reply.outcome = .ok tokens ∧
        last.line = 1 + tokens.countP (fun t => t.kind = "newline") ∧
        (p.property ∉ Token.ownKeys →
          (∀ t ∈ tokens, ∃ l, t.location? p.property = some l ∧ SpansLines t l) ∧
            ∀ t ∈ tokens.getLast?, ∃ l, t.location? p.property = some l ∧ l.stop = last) := by
  intro rules registered reply last
  let l : Lexer ι := { Lexer.ofInput input options with handlers := Standard.handlers }
  have hregistered : registered = (.ok (), l) := Standard.captureAll_standard rfl
  have hreply : reply = (p.install Lexer.tokenizer).tokenize l :=
    congrArg (fun r => (p.install Lexer.tokenizer).tokenize r.2) hregistered
  obtain ⟨hstate, ps, hcuts, hok⟩ := tokenize_install_standard (ι := ι) p input options
  rw [← hreply] at hstate hok
  have hlast : last = Position.ofIndex input.toList input.toList.length :=
    congrArg (fun l : Lexer ι => l.cursor.position) hstate
  obtain ⟨hspans, hline⟩ := spansLines_of_cuts hcuts (Nat.zero_le _)
  refine ⟨by rw [hregistered], ?_, stampAll p.property ps, hok, ?_, fun hown => ⟨?_, ?_⟩⟩
  · rw [hstate]
    exact List.isEmpty_iff.2 List.drop_length
  · rw [hlast, hline, stampAll, List.countP_map]
    simp only [Function.comp_def, Token.kind_stamp]
    rfl
  · intro t ht
    obtain ⟨q, hq, rfl⟩ := List.mem_map.1 ht
    refine ⟨q.2, by rw [Token.location?_stamp hown, if_pos rfl], ?_⟩
    rw [SpansLines, Token.kind_stamp, Token.value_stamp]
    exact hspans q hq
  · intro t ht
    rw [stampAll, List.getLast?_map] at ht
    obtain ⟨q, hq, rfl⟩ := Option.map_eq_some_iff.1 ht
    refine ⟨q.2, by rw [Token.location?_stamp hown, if_pos rfl], ?_⟩
    rw [hlast]
    exact (hcuts.tiles (Nat.zero_le _)).stop_of_mem_getLast? hq

end Command

end Locus
