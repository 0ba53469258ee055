import Locus.Command.Rule
import Locus.Proofs.Lexer
import Locus.Proofs.Regex
import Locus.Proofs.Requests

/-!
# What the standard rules mean

A scanner that looks at the first characters of what is left and decides by classes of characters
alone, without patterns. Main statement: the standard rules cut every text to its end, into exactly
the pieces of this scanner.
-/

namespace Locus.Command

/-! ## The scanner -/

namespace Scan

/-- The characters that end a line, alone or as the second of the pair `\r\n`. -/
def endsLine (c : Char) : Bool := c ∈ ['\n', '\r', '\u2028', '\u2029']

/-- The blanks that do not end a line. -/
def isSpace (c : Char) : Bool := Unicode.isWhiteSpace c && !endsLine c

/-- How many characters of a point and digits there are, at least one of them a digit. -/
def fraction : List Char → Nat
  | '.' :: d :: cs =>
    if Unicode.isDecimalDigit d then 2 + (cs.takeWhile Unicode.isDecimalDigit).length else 0
  | _ => 0

/-- How many further characters a number has after its first digit. -/
def numberTail (cs : List Char) : Nat :=
  let n := (cs.takeWhile Unicode.isDecimalDigit).length
  n + fraction (cs.drop n)

/-- The kind of the piece that begins with `c`, and how many of the characters `cs` after it the
piece takes. -/
def piece (c : Char) (cs : List Char) : String × Nat :=
  if c = '\r' ∧ cs.head? = some '\n' then ("newline", 1)
  else if endsLine c then ("newline", 0)
  else if Unicode.isWhiteSpace c then ("space", (cs.takeWhile isSpace).length)
  else if Unicode.isDecimalDigit c then ("number", numberTail cs)
  else if Unicode.isWord c then ("text", (cs.takeWhile Unicode.isWord).length)
  else ("punct", 0)

end Scan

/-- The pieces of a text, each with its kind. -/
def scan : List Char → List (String × List Char)
  | [] => []
  | c :: cs =>
    ((Scan.piece c cs).1, c :: cs.take (Scan.piece c cs).2) :: scan (cs.drop (Scan.piece c cs).2)
termination_by text => text.length
decreasing_by
  rw [List.length_drop, List.length_cons]
  omega

/-- A piece as a token. -/
def tokenOfPiece (p : String × List Char) : Token := .ofKind p.1 (String.ofList p.2)

/-! ## The patterns -/

namespace Standard

/-- A pattern with an anchor of its own, inside the group that is anchored again. -/
def anchored (r : Regex) : Regex := .seq (.look .textStart) (.seq (.look .textStart) r)

/-- The two separators. -/
def separators : CharSet := .union (.single '\u2028') (.single '\u2029')

/-- A carriage return and a line feed, or one character that ends a line. -/
def newline : Regex :=
  .alt (.seq (.set (.single '\r')) (.set (.single '\n')))
    (.set (.union (.single '\n') (.union (.single '\r') separators)))

/-- Blanks that do not end a line. -/
def spaces : CharSet :=
  .compl (.union (.compl .blank) (.union (.single '\r') (.union (.single '\n') separators)))

/-- One or more characters of a set, as many as there are. -/
def run (s : CharSet) : Regex := .loop true 1 none (.set s)

/-- A point with digits, if there are any. -/
def fraction : Regex := .loop true 0 (some 1) (.seq (.set (.single '.')) (run .digit))

/-- Digits, and what comes after the point. -/
def number : Regex := .seq (run .digit) fraction

/-- What is neither a word character nor blank. -/
def others : CharSet := .compl (.union .word .blank)

/-- The standard rules, read. -/
def handlers : List Handler :=
  [⟨"newline", anchored newline⟩, ⟨"space", anchored (run spaces)⟩, ⟨"number", anchored number⟩,
    ⟨"text", anchored (run .word)⟩, ⟨"punct", anchored (.set others)⟩]

/-- The patterns of the standard rules make sense, and this is what they write down. -/
theorem compile?_standard :
    List.Forall₂ (fun rule h => Regex.compile? rule.2.toList = some h.pattern ∧ h.kind = rule.1)
      (Rule.standard.map fun rule => (rule.name, rule.pattern)) handlers := by
  decide +kernel

/-! ## What the patterns match -/

theorem contains_digit : CharSet.digit.contains = Unicode.isDecimalDigit := funext fun _ => rfl

theorem contains_word : CharSet.word.contains = Unicode.isWord := funext fun _ => rfl

theorem contains_spaces : spaces.contains = Scan.isSpace := by
  funext c
  rw [Bool.eq_iff_iff]
  simp [spaces, separators, Scan.isSpace, Scan.endsLine, CharSet.contains, CharSet.contains_single]
  exact fun _ => and_left_comm

theorem matchLength?_anchored (r : Regex) (text : List Char) :
    (anchored r).matchLength? text = (Regex.ends none text r).head? := by
  rw [Regex.matchLength?_eq_head?_ends, anchored, Regex.ends_anchored, Regex.ends_anchored]

variable (c : Char) (cs : List Char)

theorem matchLength?_newline :
    (anchored newline).matchLength? (c :: cs) =
      if c = '\r' ∧ cs.head? = some '\n' then some 2
      else if Scan.endsLine c then some 1 else none := by
  have hset : (CharSet.union (.single '\n') (.union (.single '\r') separators)).contains c =
      Scan.endsLine c := by
    simp [separators, Scan.endsLine, CharSet.contains, CharSet.contains_single]
  rw [matchLength?_anchored, newline, Regex.ends_alt (Regex.zero_notMem_ends_seq_set _ _ _ _),
    Regex.ends_seq_set_cons, Regex.ends_set_cons, hset, CharSet.contains_single, List.head?_append]
  by_cases hpair : c = '\r' ∧ cs.head? = some '\n'
  · obtain ⟨rfl, hcs⟩ := hpair
    obtain ⟨ds, rfl⟩ := List.head?_eq_some_iff.1 hcs
    rw [Regex.ends_set_cons]
    rfl
  · -- without the pair only the second alternative is left
    have hnone : (if decide (c = '\r') = true then
        (Regex.ends (some c) cs (.set (.single '\n'))).map (· + 1) else []) = [] := by
      split
      · next hc =>
        rcases cs with _ | ⟨d, ds⟩
        · rfl
        · have hd : d ≠ '\n' := fun hd => hpair ⟨of_decide_eq_true hc, by rw [hd]; rfl⟩
          rw [Regex.ends_set_cons, CharSet.contains_single, if_neg (by simp [hd])]
          rfl
      · rfl
    rw [hnone, if_neg hpair]
    split
    · rfl
    · rfl

/-- A run goes as far as there are characters of the set. -/
theorem head?_ends_run (before : Option Char) (s : CharSet) :
    (Regex.ends before (c :: cs) (run s)).head? =
      if s.contains c then some ((cs.takeWhile s.contains).length + 1) else none := by
  rw [run, Regex.ends_some_set, List.head?_reverse, List.getLast?_map, List.getLast?_range,
    List.takeWhile_cons]
  split
  · rfl
  · rfl

theorem matchLength?_run (s : CharSet) :
    (anchored (run s)).matchLength? (c :: cs) =
      if s.contains c then some ((cs.takeWhile s.contains).length + 1) else none := by
  rw [matchLength?_anchored, head?_ends_run]

theorem head?_ends_fraction (before : Option Char) (text : List Char) :
    (Regex.ends before text fraction).head? = some (Scan.fraction text) := by
  rw [fraction, Regex.ends_optional (Regex.zero_notMem_ends_seq_set _ _ _ _), List.head?_append]
  rcases text with _ | ⟨c, cs⟩
  · rfl
  · rw [Regex.ends_seq_set_cons, CharSet.contains_single]
    by_cases hc : c = '.'
    · subst hc
      rcases cs with _ | ⟨d, ds⟩
      · rfl
      · rw [if_pos (by decide), List.head?_map, head?_ends_run, contains_digit, Scan.fraction]
        by_cases hd : Unicode.isDecimalDigit d = true
        · rw [if_pos hd, if_pos hd, Nat.add_comm 2]
          rfl
        · rw [if_neg hd, if_neg hd]
          rfl
    · simp [Scan.fraction.eq_def, hc]

theorem matchLength?_number :
    (anchored number).matchLength? (c :: cs) =
      if Unicode.isDecimalDigit c then some (Scan.numberTail cs + 1) else none := by
  rw [matchLength?_anchored, number, Regex.ends_seq, run, Regex.ends_some_set, contains_digit,
    List.takeWhile_cons]
  by_cases hc : Unicode.isDecimalDigit c = true
  · -- the digits are read as far as they go, since something can always follow them
    rw [if_pos hc, if_pos hc, List.length_cons, List.range_succ, List.map_append,
      List.reverse_append, List.flatMap_append, List.map_singleton, List.reverse_singleton,
      List.flatMap_singleton, List.head?_append, Regex.follow, List.head?_map,
      head?_ends_fraction, List.drop_succ_cons, Option.map_some, Option.some_or, Scan.numberTail,
      Nat.add_right_comm]
  · rw [if_neg hc, if_neg hc]
    rfl

theorem matchLength?_others :
    (anchored (.set others)).matchLength? (c :: cs) =
      if !(Unicode.isWord c || Unicode.isWhiteSpace c) then some 1 else none := by
  rw [matchLength?_anchored, Regex.ends_set_cons]
  have hothers : others.contains c = !(Unicode.isWord c || Unicode.isWhiteSpace c) := rfl
  rw [hothers]
  split
  · rfl
  · rfl

/-- The standard rules take the piece that the scanner takes. -/
theorem firstMatch?_handlers :
    Lexer.firstMatch? handlers (c :: cs) =
      some ((Scan.piece c cs).1, (Scan.piece c cs).2 + 1) := by
  rw [Lexer.firstMatch?, handlers, Scan.piece]
  simp only [List.findSome?_cons, List.findSome?_nil, matchLength?_newline, matchLength?_run,
    matchLength?_number, matchLength?_others, contains_spaces, contains_word]
  -- the scanner asks in the order of the rules, which matters for digits alone: they are word
  -- characters as well
  by_cases hpair : c = '\r' ∧ cs.head? = some '\n'
  · simp [hpair]
  · by_cases hends : Scan.endsLine c
    · simp [hpair, hends]
    · by_cases hblank : Unicode.isWhiteSpace c
      · simp [hpair, hends, hblank, Scan.isSpace]
      · by_cases hdigit : Unicode.isDecimalDigit c
        · simp [hpair, hends, hblank, hdigit, Scan.isSpace]
        · by_cases hword : Unicode.isWord c
          · simp [hpair, hends, hblank, hdigit, hword, Scan.isSpace]
          · simp [hpair, hends, hblank, hdigit, hword, Scan.isSpace]

/-! ## Lexers with the standard rules -/

variable {ι : Type}

/-- A lexer without rules takes the standard ones. -/
theorem captureAll_standard {l : Lexer ι} (hnone : l.handlers = []) :
    l.captureAll (Rule.standard.map fun rule => (rule.name, rule.pattern)) =
      (.ok (), { l with handlers := handlers }) := by
  rw [Lexer.captureAll_of_compile compile?_standard, hnone]
  rfl

/-- One call cuts off the first of the pieces that are left. -/
theorem advance_of_standard {l : Lexer ι} (hrules : l.handlers = handlers) {text : List Char}
    (label : Option String) {i : Nat} {c : Char} {cs : List Char} (hrest : text.drop i = c :: cs) :
    let n := (Scan.piece c cs).2
    Lexer.host.advance { l with cursor := .atIndex text label i } =
      ⟨.ok (some (tokenOfPiece ((Scan.piece c cs).1, c :: cs.take n))),
        { l with cursor := .atIndex text label (i + (n + 1)) }, []⟩ := by
  intro n
  have hi : i < text.length := by
    rw [← Nat.sub_pos_iff_lt, ← List.length_drop, hrest]
    exact Nat.succ_pos _
  have hadvance := Lexer.advance_of_sound (l := { l with cursor := .atIndex text label i })
    (Cursor.sound_atIndex label (Nat.le_of_lt hi))
  have hindex : (Cursor.atIndex text label i).position.index = i := rfl
  have hinput : (Cursor.atIndex text label i).input = text := rfl
  have hmatch : Lexer.firstMatch? l.handlers (c :: cs) = _ :=
    hrules ▸ firstMatch?_handlers c cs
  dsimp only at hadvance
  rw [hindex, hinput, if_neg (Nat.ne_of_lt hi), hrest, hmatch] at hadvance
  exact congrArg Lexer.reply hadvance

/-- At the end of its text a lexer gives nothing. -/
theorem advance_at_length (l : Lexer ι) (text : List Char) (label : Option String) :
    let atEnd : Lexer ι := { l with cursor := .atIndex text label text.length }
    Lexer.host.advance atEnd = ⟨.ok none, atEnd, []⟩ := by
  intro atEnd
  have hend : atEnd.cursor.isAtEnd = true := List.isEmpty_iff.2 List.drop_length
  have hadvance : atEnd.advance = (.ok none, atEnd) := by rw [Lexer.advance, if_pos hend]
  exact congrArg Lexer.reply hadvance

/-- A lexer with the standard rules gives what is left of its text, piece by piece, to the end. -/
theorem drain_of_standard {l : Lexer ι} (hrules : l.handlers = handlers) {text : List Char}
    (label : Option String) {i : Nat} (hi : i ≤ text.length) :
    Lexer.host.drain Lexer.finite { l with cursor := .atIndex text label i } =
      ⟨.ok ((scan (text.drop i)).map tokenOfPiece),
        { l with cursor := .atIndex text label text.length }, []⟩ := by
  -- by induction on the pieces, each of which is cut off by one call
  generalize hrest : text.drop i = rest
  fun_induction scan rest generalizing i with
  | case1 =>
    obtain rfl : i = text.length := Nat.le_antisymm hi (List.drop_eq_nil_iff.1 hrest)
    have hadvance := advance_at_length l text label
    rw [TokenHost.drain_of_none (by rw [hadvance]), hadvance]
    rfl
  | case2 c cs ih =>
    have hadvance := advance_of_standard hrules label hrest
    have hi' : i + ((Scan.piece c cs).2 + 1) ≤ text.length := by
      have hle := (Lexer.firstMatch?_bounds (firstMatch?_handlers c cs)).2
      rw [← hrest, List.length_drop] at hle
      exact Nat.add_le_of_le_sub' hi hle
    have hrest' : text.drop (i + ((Scan.piece c cs).2 + 1)) = cs.drop (Scan.piece c cs).2 := by
      rw [← List.drop_drop, hrest, List.drop_succ_cons]
    rw [TokenHost.drain_of_some (by rw [hadvance]), hadvance, ih hi' hrest']
    rfl

end Standard

/-- **What the standard rules mean.** They make sense, and on every text they succeed: they cut it
to its end, into exactly the pieces of the scanner. -/
theorem standard_rules_scan {ι : Type} (input : String) (options : LexerOptions) :
    let rules := Rule.standard.map fun rule => (rule.name, rule.pattern)
    let registered := (Lexer.ofInput (ι := ι) input options).captureAll rules
    let reply := Lexer.tokenizer.tokenize registered.2
    registered.1 = .ok () ∧
      reply.outcome = .ok ((scan input.toList).map tokenOfPiece) ∧
      reply.state.cursor.isAtEnd = true := by
  intro rules registered reply
  let l : Lexer ι := { Lexer.ofInput input options with handlers := Standard.handlers }
  have hregistered : registered = (.ok (), l) := Standard.captureAll_standard rfl
  have hreply : reply = ⟨.ok ((scan input.toList).map tokenOfPiece),
      { l with cursor := .atIndex input.toList options.source input.toList.length }, []⟩ := by
    have hl : l = { l with cursor := .atIndex input.toList options.source 0 } := rfl
    have htokenize : reply = Lexer.host.drain Lexer.finite registered.2 := rfl
    rw [htokenize, hregistered, hl]
    exact Standard.drain_of_standard rfl options.source (Nat.zero_le _)
  rw [hreply, hregistered]
  exact ⟨rfl, rfl, List.isEmpty_iff.2 List.drop_length⟩

end Locus.Command
