import Locus.Regex.Escape

/-!
# Bracketed sets

The sets that patterns write in brackets: characters, ranges, classes and further bracketed sets
next to each other are joined, and `&&`, `--` and `~~` between such unions meet them, subtract
them, or take what is in exactly one of them.
-/

namespace Locus.Pattern

/-- A set together with how deeply its notation is nested. -/
structure SetPart where
  set : CharSet
  depth : Nat

/-- The operations between unions. -/
inductive SetOp where
  | inter
  | diff
  | symmDiff

/-- A set that is still being read. -/
structure Level where
  /-- Whether the complement is meant. -/
  negated : Bool
  /-- The parts of the union that is being read, in reverse. -/
  parts : List SetPart
  /-- What stands before the union, and the operation between. -/
  left : Option (SetPart × SetOp)

/-- Whether the set holds ASCII characters only. Without Unicode all sets are made of ASCII
characters and complements, so that characters past ASCII are in it together or not at all. -/
def isAscii (s : CharSet) : Bool := !s.contains '\x80'

/-- The set that brackets stand for: closed under case first, then complemented. Without Unicode
a set with characters past ASCII is refused. -/
def finishSet? (f : Flags) (negated : Bool) (s : CharSet) : Option CharSet :=
  let folded := foldSet f s
  let set := if negated then .compl folded else folded
  if f.unicode || isAscii set then some set else none

/-- The union of the parts that were read. -/
def Level.union (l : Level) : SetPart :=
  match l.parts with
  | [] => ⟨.empty, 0⟩
  | [p] => p
  | ps => ⟨CharSet.unions (ps.reverse.map SetPart.set), (ps.map SetPart.depth).foldl max 0 + 1⟩

/-- Everything that was read, the operation before the last union applied. -/
def Level.value (f : Flags) (l : Level) : SetPart :=
  let right := l.union
  match l.left with
  | none => right
  | some (left, op) =>
    let a := foldSet f left.set
    let b := foldSet f right.set
    let set :=
      match op with
      | .inter => .inter a b
      | .diff => a.diff b
      | .symmDiff => a.symmDiff b
    ⟨set, max left.depth right.depth + 1⟩

/-- Adds a part to the union. -/
def Level.push (l : Level) (set : CharSet) (depth : Nat) : Level :=
  { l with parts := ⟨set, depth⟩ :: l.parts }

/-- Ends the union with an operation. -/
def Level.operate (f : Flags) (l : Level) (op : SetOp) : Level :=
  { l with parts := [], left := some (l.value f, op) }

/-- Reads the start of a set, after its bracket: a circumflex for the complement, then dashes and,
if there are none, a closing bracket, which all stand for themselves. -/
def openLevel? (f : Flags) (cs : List Char) : Option (Level × List Char) := do
  let (negated, cs) ←
    match skip f.spaced cs with
    | [] => none
    | '^' :: rest => some (true, skip f.spaced rest)
    | cs => some (false, cs)
  let (dashes, rest) := takeSpaced (· = '-') f.spaced false cs
  let parts := dashes.map fun c => (⟨.single c, 0⟩ : SetPart)
  match rest with
  | [] => none
  | c :: rest =>
    if dashes.isEmpty && c = ']' then
      match skip f.spaced rest with
      | [] => none
      | rest => some (⟨negated, [⟨.single ']', 0⟩], none⟩, rest)
    else some (⟨negated, parts, none⟩, c :: rest)

/-- Reads a named class, after its opening bracket: a colon, a circumflex for the complement, the
name, a colon and a bracket. -/
def readNamed? (f : Flags) (cs : List Char) : Option (CharSet × List Char) :=
  match cs with
  | ':' :: rest =>
    let (negated, rest) :=
      match rest with
      | '^' :: rest => (true, rest)
      | rest => (false, rest)
    match rest.dropWhile (· ≠ ':') with
    | ':' :: ']' :: more =>
      (CharSet.named? (rest.takeWhile (· ≠ ':'))).map fun s =>
        let folded := foldSet f s
        (if negated then .compl folded else folded, more)
    | _ => none
  | _ => none

/-- Reads a character or an escape inside a set. -/
def readItem? (f : Flags) : List Char → Option (Escape × List Char)
  | [] => none
  | '\\' :: cs => readEscape? f cs
  | c :: cs => some (.literal c false, cs)

/-- Whether the character may stand in a set under the given flags. -/
def mayStand (f : Flags) (c : Char) : Bool := f.unicode || c.toNat < 0x80

/-- Reads an item of a set, or a range if a dash follows that neither ends the set nor begins an
operation. -/
def readRange? (f : Flags) (cs : List Char) : Option (CharSet × List Char) := do
  let (first, rest) ← readItem? f cs
  let rest := skip f.spaced rest
  let next ← rest.head?
  let ahead := peekSpaced f.spaced rest
  if next ≠ '-' ∨ ahead = some ']' ∨ ahead = some '-' then
    match first with
    | .literal c _ => if mayStand f c then some (.single c, rest) else none
    | .set s => some (s, rest)
    | .look _ => none
  else
    let (last, rest) ← readItem? f (skip f.spaced (rest.drop 1))
    match first, last with
    | .literal low _, .literal high _ =>
      if low ≤ high ∧ mayStand f low ∧ mayStand f high then some (.range low high, rest) else none
    | _, _ => none

/-- What one step of reading a set leads to: further reading, or the set and the rest. -/
inductive BracketStep where
  | more (level : Level) (outer : List Level) (rest : List Char)
  | done (set : SetPart) (rest : List Char)

/-- One step of reading a set that is open at `level` and inside the sets `outer`. The text does
not start with a blank that counts for nothing. -/
def bracketStep? (f : Flags) (level : Level) (outer : List Level) :
    List Char → Option BracketStep
  | [] => none
  | '[' :: cs =>
    match readNamed? f cs with
    | some (s, rest) =>
      if f.unicode || isAscii s then some (.more (level.push s 0) outer rest) else none
    | none => do
      let (inner, rest) ← openLevel? f cs
      some (.more inner (level :: outer) rest)
  | ']' :: rest => do
    let value := level.value f
    let set ← finishSet? f level.negated value.set
    match outer with
    | [] => some (.done ⟨set, value.depth + 1⟩ rest)
    | l :: outer => some (.more (l.push set (value.depth + 1)) outer rest)
  | '&' :: '&' :: rest => some (.more (level.operate f .inter) outer rest)
  | '-' :: '-' :: rest => some (.more (level.operate f .diff) outer rest)
  | '~' :: '~' :: rest => some (.more (level.operate f .symmDiff) outer rest)
  | cs => do
    let (s, rest) ← readRange? f cs
    some (.more (level.push s 0) outer rest)

/-- Reads a set up to its closing bracket. Every step reads something, so the reading ends. -/
def readLevels? (f : Flags) (level : Level) (outer : List Level) (cs : List Char) :
    Option (SetPart × List Char) :=
  match bracketStep? f level outer (skip f.spaced cs) with
  | none => none
  | some (.done set rest) => some (set, rest)
  | some (.more level outer rest) =>
    if rest.length < cs.length then readLevels? f level outer rest else none
termination_by cs.length

/-- Reads a set after its opening bracket. -/
def readBracket? (f : Flags) (cs : List Char) : Option (SetPart × List Char) := do
  let (level, rest) ← openLevel? f cs
  readLevels? f level [] rest

end Locus.Pattern
