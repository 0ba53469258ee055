import Locus.Regex.Bracket
import Locus.Regex.Simplify

/-!
# Patterns

Reading the notation of regular expressions: alternatives, groups, repetitions, anchors, sets and
flags. A pattern is usable if it can be read both alone and inside an anchored group; the latter,
simplified, is what runs.
-/

namespace Locus

namespace Pattern

/-- A piece of a pattern that has been read. -/
structure Piece where
  regex : Regex
  /-- How deeply its notation is nested. -/
  depth : Nat
  /-- Whether a repetition may follow. Only flags that stand alone cannot be repeated. -/
  repeatable : Bool

/-- A group that is still open: what was read around it, in reverse, and the flags to return to. -/
structure Frame where
  items : List Piece
  branches : List Piece
  flags : Flags
  /-- Whether the group captures what it matches. -/
  captures : Bool

/-- Where the reading of a pattern stands. -/
structure State where
  /-- The pieces of the current alternative, in reverse. -/
  items : List Piece
  /-- The alternatives before it, in reverse. -/
  branches : List Piece
  flags : Flags
  /-- The open groups, innermost first. -/
  frames : List Frame
  /-- The names of groups so far. -/
  names : List (List Char)

namespace State

/-- Nothing has been read. -/
def initial : State := ⟨[], [], .initial, [], []⟩

/-- The current alternative as one piece. -/
def sequence (s : State) : Piece :=
  match s.items with
  | [] => ⟨.empty, 0, true⟩
  | [p] => p
  | ps =>
    ⟨ps.foldl (fun tail p => p.regex.andThen tail) .empty, (ps.map Piece.depth).foldl max 0 + 1,
      true⟩

/-- All alternatives as one piece. -/
def value (s : State) : Piece :=
  match s.branches with
  | [] => s.sequence
  | bs =>
    let last := s.sequence
    ⟨bs.foldl (fun tail p => .alt p.regex tail) last.regex,
      (bs.map Piece.depth).foldl max last.depth + 1, true⟩

/-- Adds a piece to the current alternative. -/
def push (s : State) (p : Piece) : State := { s with items := p :: s.items }

/-- Adds an expression with flat notation. -/
def pushFlat (s : State) (r : Regex) : State := s.push ⟨r, 0, true⟩

/-- Begins a group in which the given flags are in force. -/
def openGroup (s : State) (flags : Flags) (captures : Bool) : State :=
  { s with
    items := [], branches := [], flags,
    frames := ⟨s.items, s.branches, s.flags, captures⟩ :: s.frames }

/-- Ends the innermost group. -/
def closeGroup? (s : State) : Option State :=
  match s.frames with
  | [] => none
  | f :: frames =>
    let p := s.value
    some ⟨⟨.group f.captures p.regex, p.depth + 1, true⟩ :: f.items, f.branches, f.flags, frames,
      s.names⟩

/-- Ends the current alternative. -/
def branch (s : State) : State :=
  { s with items := [], branches := s.sequence :: s.branches }

/-- Repeats the last piece. A question mark in the notation makes a greedy repetition lazy, and
the other way round if the flags swap them. -/
def repeatLast? (s : State) (least : Nat) (more : Option Nat) (mark : Bool) : Option State :=
  match s.items with
  | [] => none
  | p :: items =>
    if p.repeatable then
      let greedy := mark == s.flags.swapGreed
      some { s with items := ⟨.loop greedy least more p.regex, p.depth + 1, true⟩ :: items }
    else none

end State

/-! ## The parts of a pattern -/

/-- Whether the character may be part of a group's name, or begin it. -/
def isNamePart (first : Bool) (c : Char) : Bool :=
  if first then c = '_' || Unicode.isAlphabetic c
  else c = '_' || c = '.' || c = '[' || c = ']' || Unicode.isAlphanumeric c

/-- Reads the name of a group up to its closing angle bracket. -/
def readName? (cs : List Char) : Option (List Char × List Char) :=
  match cs.takeWhile (· ≠ '>'), cs.dropWhile (· ≠ '>') with
  | c :: name, '>' :: rest =>
    if isNamePart true c && name.all (isNamePart false) then some (c :: name, rest) else none
  | _, _ => none

/-- Begins a named group. No two groups may share a name. -/
def openNamed? (s : State) (cs : List Char) : Option (State × List Char) := do
  let (name, rest) ← readName? cs
  if s.names.contains name then none
  else some ({ s.openGroup s.flags true with names := name :: s.names }, rest)

/-- Reads what follows an opening parenthesis. Groups that look around are not supported. -/
def readGroup? (s : State) (cs : List Char) : Option (State × List Char) :=
  match skip s.flags.spaced cs with
  | '?' :: '=' :: _ => none
  | '?' :: '!' :: _ => none
  | '?' :: '<' :: '=' :: _ => none
  | '?' :: '<' :: '!' :: _ => none
  | '?' :: 'P' :: '<' :: rest => openNamed? s rest
  | '?' :: '<' :: rest => openNamed? s rest
  | '?' :: rest =>
    match s.flags.read? false [] ' ' rest with
    | none => none
    | some (flags, stop, any, rest) =>
      if stop = ':' then some (s.openGroup flags false, rest)
      else if any then some ({ s with flags }.push ⟨.empty, 0, false⟩, rest)
      else none
  | rest => some (s.openGroup s.flags true, rest)

/-- The greatest count of repetitions. -/
def maxCount : Nat := Nat.pow 2 32 - 1

/-- Reads a count of repetitions; blanks may surround it in any case. -/
def readCount? (f : Flags) (cs : List Char) : Option (Nat × List Char) :=
  let (ds, rest) :=
    takeSpaced Char.isDigit f.spaced false (cs.dropWhile Unicode.isWhiteSpace)
  let n := Nat.ofDigitChars 10 ds 0
  if ds.isEmpty ∨ maxCount < n then none
  else some (n, skip f.spaced (rest.dropWhile Unicode.isWhiteSpace))

/-- Whether a question mark follows a repetition, and the rest. -/
def readMark (cs : List Char) : Bool × List Char :=
  match cs with
  | '?' :: rest => (true, rest)
  | rest => (false, rest)

/-- Reads the bounds of a counted repetition, after the opening brace. -/
def readBounds? (f : Flags) (cs : List Char) : Option (Nat × Option Nat × List Char) := do
  let (least, rest) ← readCount? f (skip f.spaced cs)
  match rest with
  | '\x7d' :: rest => some (least, some 0, skip f.spaced rest)
  | ',' :: rest =>
    match skip f.spaced rest with
    | '\x7d' :: rest => some (least, none, skip f.spaced rest)
    | rest =>
      let (most, rest) ← readCount? f rest
      match rest with
      | '\x7d' :: rest =>
        if least ≤ most then some (least, some (most - least), skip f.spaced rest) else none
      | _ => none
  | _ => none

/-- The expression of a set. Without Unicode it is one of bytes. -/
def setRegex (f : Flags) (s : CharSet) : Regex := .set (if f.unicode then s else .bytes s)

/-- The expression of a single character. One given by two hexadecimal digits past ASCII is a byte
and not a character if Unicode is off, and the case of a character past ASCII is then unknown. -/
def literal? (f : Flags) (c : Char) (byte : Bool) : Option Regex :=
  if !f.unicode && c.toNat ≥ 0x80 && (byte || f.ignoreCase) then none
  else some (setRegex f (foldSet f (.single c)))

/-- The expression of the dot: any character, or any but those that end lines. -/
def dot? (f : Flags) : Option Regex :=
  if !f.unicode then none
  else if f.dotAll then some (.set .full)
  else if f.crlf then some (.set (.compl (.union (.single '\n') (.single '\r'))))
  else some (.set (.compl (.single '\n')))

/-- The condition of a circumflex. -/
def startLook (f : Flags) : Look :=
  if f.multiLine then (if f.crlf then .lineStartCrlf else .lineStart) else .textStart

/-- The condition of a dollar sign. -/
def endLook (f : Flags) : Look :=
  if f.multiLine then (if f.crlf then .lineEndCrlf else .lineEnd) else .textEnd

/-- One step of reading a pattern, at the character `c` with `cs` after it. -/
def step? (s : State) (c : Char) (cs : List Char) : Option (State × List Char) :=
  let f := s.flags
  if c = '(' then readGroup? s cs
  else if c = ')' then s.closeGroup?.map fun s => (s, cs)
  else if c = '|' then some (s.branch, cs)
  else if c = '[' then
    (readBracket? f cs).map fun (p, rest) => (s.push ⟨setRegex f p.set, p.depth, true⟩, rest)
  else if c = '?' then
    let (mark, rest) := readMark cs
    (s.repeatLast? 0 (some 1) mark).map fun s => (s, rest)
  else if c = '*' then
    let (mark, rest) := readMark cs
    (s.repeatLast? 0 none mark).map fun s => (s, rest)
  else if c = '+' then
    let (mark, rest) := readMark cs
    (s.repeatLast? 1 none mark).map fun s => (s, rest)
  else if c = '\x7b' then do
    let (least, more, rest) ← readBounds? f cs
    let (mark, rest) := readMark rest
    (s.repeatLast? least more mark).map fun s => (s, rest)
  else if c = '\\' then do
    let (e, rest) ← readEscape? f cs
    match e with
    | .literal c byte => (literal? f c byte).map fun r => (s.pushFlat r, rest)
    | .set set => some (s.pushFlat (setRegex f set), rest)
    | .look l => some (s.pushFlat (.look l), rest)
  else if c = '.' then (dot? f).map fun r => (s.pushFlat r, cs)
  else if c = '^' then some (s.pushFlat (.look (startLook f)), cs)
  else if c = '$' then some (s.pushFlat (.look (endLook f)), cs)
  else (literal? f c false).map fun r => (s.pushFlat r, cs)

/-- Reads a pattern to its end. Every step reads something, so the reading ends. -/
def run? (s : State) (cs : List Char) : Option State :=
  match skip s.flags.spaced cs with
  | [] => some s
  | c :: rest =>
    match step? s c rest with
    | none => none
    | some (s, rest) => if rest.length < cs.length then run? s rest else none
termination_by cs.length

/-- The greatest depth to which the notation may be nested. -/
def maxDepth : Nat := 250

end Pattern

namespace Regex

/-- The expression that a pattern writes down. -/
def written? (pattern : List Char) : Option Regex := do
  let s ← Pattern.run? .initial pattern
  if s.frames.isEmpty && s.value.depth ≤ Pattern.maxDepth then some s.value.regex else none

/-- The expression that is run for a pattern: the one it writes down, simplified. -/
def ofPattern? (pattern : List Char) : Option Regex := (written? pattern).map simplified

/-- The pattern inside a group that is anchored at the start. -/
def anchored (pattern : List Char) : List Char :=
  ['^', '(', '?', ':'] ++ pattern ++ [')']

/-- The expression that a rule with this pattern runs. The pattern must make sense on its own, so
that no parenthesis in it can end the group. -/
def compile? (pattern : List Char) : Option Regex := do
  let _ ← ofPattern? pattern
  ofPattern? (anchored pattern)

end Regex

end Locus
