import Locus.Regex.CharSet

/-!
# Regular expressions

Expressions with a preference among their matches: the left of two alternatives goes first, and a
repetition goes on before it stops, or stops before it goes on. The match of a text is the one
that these preferences, taken from the left, single out. It is found in one pass over the text, by
following all ways to match at once, in order of preference.

Wherever a preference decides, the expression has a fork. Between two characters no fork is passed
twice, so that no way goes round a repetition without reading anything.
-/

namespace Locus

/-- What holds at a place between two characters. -/
inductive Look where
  | textStart
  | textEnd
  | lineStart
  | lineEnd
  /-- A line may also end with a carriage return, and the pair with a line feed is one end. -/
  | lineStartCrlf
  | lineEndCrlf
  | wordBoundary (w : CharSet)
  | notWordBoundary (w : CharSet)
  | wordStart (w : CharSet)
  | wordEnd (w : CharSet)
  | wordStartHalf (w : CharSet)
  | wordEndHalf (w : CharSet)
deriving DecidableEq

/-- The characters on both sides of a place, as far as the text has them. -/
structure Place where
  before : Option Char
  after : Option Char

/-- Whether the neighbour is there and belongs to the set. -/
def CharSet.has (s : CharSet) (c : Option Char) : Bool :=
  match c with
  | some c => s.contains c
  | none => false

/-- Whether the condition holds at the place. -/
def Look.holds (l : Look) (p : Place) : Bool :=
  match l with
  | .textStart => p.before = none
  | .textEnd => p.after = none
  | .lineStart => p.before = none || p.before = some '\n'
  | .lineEnd => p.after = none || p.after = some '\n'
  | .lineStartCrlf =>
    p.before = none || p.before = some '\n' || (p.before = some '\r' && p.after ≠ some '\n')
  | .lineEndCrlf =>
    p.after = none || p.after = some '\r' || (p.after = some '\n' && p.before ≠ some '\r')
  | .wordBoundary w => w.has p.before != w.has p.after
  | .notWordBoundary w => w.has p.before == w.has p.after
  | .wordStart w => !w.has p.before && w.has p.after
  | .wordEnd w => w.has p.before && !w.has p.after
  | .wordStartHalf w => !w.has p.before
  | .wordEndHalf w => !w.has p.after

/-- A regular expression. -/
inductive Regex where
  /-- Matches the empty text. -/
  | empty
  /-- Matches the empty text where a condition holds. -/
  | look (l : Look)
  /-- Matches one character of a set. -/
  | set (s : CharSet)
  /-- Matches what the first matches, followed by what the second matches. -/
  | seq (a b : Regex)
  /-- Matches what either matches; the first is preferred. -/
  | alt (a b : Regex)
  /-- Matches `least` repetitions and then up to `more` further ones, or any number if there is no
  bound. A greedy one prefers to go on. -/
  | loop (greedy : Bool) (least : Nat) (more : Option Nat) (body : Regex)
  /-- Matches what the expression in the group matches. -/
  | group (captures : Bool) (r : Regex)
deriving DecidableEq

namespace Regex

/-- As `seq`, without needless empty parts. -/
def andThen : Regex → Regex → Regex
  | .empty, b => b
  | a, .empty => a
  | a, b => .seq a b

/-- Whether some way through the expression need not read a character. -/
def mayBeEmpty : Regex → Bool
  | .empty => true
  | .look _ => true
  | .set _ => false
  | .seq a b => a.mayBeEmpty && b.mayBeEmpty
  | .alt a b => a.mayBeEmpty || b.mayBeEmpty
  | .loop _ least _ body => least = 0 || body.mayBeEmpty
  | .group _ r => r.mayBeEmpty

end Regex

/-! ## Places inside an expression -/

/-- Which forks of an expression have been passed since the last character was read: its own, if it
is one, and those of its parts, the first of which is on the left. -/
inductive Passed where
  | nothing
  | node (here : Bool) (left right : Passed)

namespace Passed

/-- Whether the fork of the expression itself has been passed. -/
def here : Passed → Bool
  | .nothing => false
  | .node here _ _ => here

/-- What has been passed in the first part. -/
def left : Passed → Passed
  | .nothing => .nothing
  | .node _ left _ => left

/-- What has been passed in the second part. -/
def right : Passed → Passed
  | .nothing => .nothing
  | .node _ _ right => right

/-- The fork of the expression itself is passed as well. -/
def mark (m : Passed) : Passed := .node true m.left m.right

end Passed

/-- What is left of an expression of which a character has just been read. -/
inductive Rest where
  | done
  /-- The character was read in the first part, and nothing comes after it. -/
  | left (k : Rest)
  /-- The character was read in the second part. -/
  | right (k : Rest)
  /-- The character was read in the first part, and the second comes after it. -/
  | followed (k : Rest) (b : Regex)
  /-- The character was read in the body of a repetition that need not end after it. -/
  | again (greedy : Bool) (k : Rest) (body : Regex)
deriving DecidableEq

/-- Nothing of the expression has been read. -/
def Rest.ofRegex (r : Regex) : Rest := .followed .done r

/-! ## The ways to go on -/

/-- A way to go on: a character of the set is read, and the rest of the expression is left. -/
abbrev Step := CharSet × Rest

/-- What an expression can do at a place, in order of preference: go on in one of the ways of
`before`, or stop there with a match, after it has passed the forks of `stop`, or go on in one of
the ways of `after`. If it cannot stop, all ways are in `before`. -/
structure Choices where
  before : List Step
  stop : Option Passed
  after : List Step

namespace Choices

/-- Nothing can be done. -/
def never : Choices := ⟨[], none, []⟩

/-- The match is complete. -/
def done : Choices := ⟨[], some .nothing, []⟩

/-- The choices of the first, then those of the second. The first way to stop is the only one. -/
def orElse (a b : Choices) : Choices :=
  if a.stop.isSome then ⟨a.before, a.stop, a.after ++ b.before ++ b.after⟩
  else ⟨a.before ++ b.before, b.stop, b.after⟩

/-- The ways to go on, seen from the expression around. -/
def extend (around : Rest → Rest) (steps : List Step) : List Step :=
  steps.map fun step => (step.1, around step.2)

/-- The choices of a part, seen from the expression around. -/
def inside (around : Rest → Rest) (passed : Passed → Passed) (a : Choices) : Choices :=
  ⟨extend around a.before, a.stop.map passed, extend around a.after⟩

/-- The choices of a first part. -/
def onLeft (a : Choices) : Choices := a.inside .left (.node false · .nothing)

/-- The choices of a second part, where `m` has been passed in the first. -/
def onRight (m : Passed) (a : Choices) : Choices := a.inside .right (.node false m)

/-- Where the first could stop, the second begins; it is told what has been passed. -/
def andThen (a : Choices) (next : Passed → Choices) : Choices :=
  match a.stop with
  | none => ⟨a.before, none, []⟩
  | some m =>
    let b := next m
    if b.stop.isSome then ⟨a.before ++ b.before, b.stop, b.after ++ a.after⟩
    else ⟨a.before ++ b.before ++ a.after, none, []⟩

/-- The choices of a first part that `b` follows, where the choices of `b` itself are `next`. -/
def followedBy (a : Choices) (b : Regex) (next : Unit → Choices) : Choices :=
  (a.inside (.followed · b) id).andThen fun m => (next ()).onRight m

/-- Going on is preferred by a greedy repetition, stopping by the others. -/
def orStop (greedy : Bool) (a : Choices) : Choices :=
  if greedy then a.orElse done else done.orElse a

/-- The choices at a fork, unless it has been passed. -/
def fork (m : Passed) (a : Choices) : Choices :=
  if m.here then never else { a with stop := a.stop.map .mark }

/-! ### Repetitions

The choices of the body are given as a function of what has been passed in it. -/

section Repetitions

variable (greedy : Bool) (body : Regex) (choices : Passed → Choices)

/-- The choices of at most `n` repetitions. -/
def upTo : Nat → Passed → Choices
  | 0, _ => done
  | n + 1, m =>
    fork m (orStop greedy
      ((choices m.left).followedBy (.loop greedy 0 (some n) body) fun _ => upTo n m.right))

/-- The choices at the fork behind the body, where `m` has been passed in the body: a repetition
that reads something, or the end. A repetition that reads nothing would come to the fork again. -/
def further (m : Passed) : Choices :=
  let a := choices m
  let more := extend (.again greedy · body) (a.before ++ a.after)
  if greedy then ⟨more, some (.node true m .nothing), []⟩
  else ⟨[], some (.node true m .nothing), more⟩

/-- The choices of a repetition after which any number of further ones may follow. -/
def onceOrMore (m : Passed) : Choices :=
  ((choices m.left).inside (.again greedy · body) id).andThen fun n =>
    if m.here then never else further greedy body choices n

/-- The choices of any number of repetitions. Of a body that always reads something, the fork behind
it is the one before it as well. -/
def anyNumber (m : Passed) : Choices :=
  if body.mayBeEmpty then fork m (orStop greedy (onceOrMore greedy body choices m.left).onLeft)
  else if m.here then never else further greedy body choices m.left

/-- The choices of at least `n` repetitions, with no upper bound. -/
def atLeast : Nat → Passed → Choices
  | 0, m => anyNumber greedy body choices m
  | 1, m => onceOrMore greedy body choices m
  | n + 2, m =>
    (choices m.left).followedBy (.loop greedy (n + 1) none body) fun _ => atLeast (n + 1) m.right

/-- The choices of `n` repetitions, after which at most `more` further ones follow. -/
def between (more : Nat) : Nat → Passed → Choices
  | 0, m => upTo greedy body choices more m
  | n + 1, m =>
    (choices m.left).followedBy (.loop greedy n (some more) body) fun _ => between more n m.right

end Repetitions

end Choices

/-- What an expression can do at a place, where some of its forks have been passed. -/
def Regex.choices (p : Place) : Regex → Passed → Choices
  | .empty, _ => .done
  | .look l, _ => if l.holds p then .done else .never
  | .set s, _ => ⟨[(s, .done)], none, []⟩
  | .seq a b, m => (a.choices p m.left).followedBy b fun _ => b.choices p m.right
  | .alt a b, m =>
    .fork m ((a.choices p m.left).onLeft.orElse ((b.choices p m.right).onRight .nothing))
  | .loop greedy least none body, m => .atLeast greedy body (body.choices p) least m
  | .loop greedy least (some more) body, m => .between greedy body (body.choices p) more least m
  | .group _ r, m => r.choices p m

/-- What the rest of an expression can do at the place after the last character. -/
def Rest.choices (p : Place) : Rest → Choices
  | .done => .done
  | .left k => (k.choices p).onLeft
  | .right k => (k.choices p).onRight .nothing
  | .followed k b => (k.choices p).followedBy b fun _ => b.choices p .nothing
  | .again greedy k body =>
    ((k.choices p).inside (.again greedy · body) id).andThen (.further greedy body (body.choices p))

namespace Regex

/-! ## Matching -/

/-- What several expressions, in order of preference, can do at a place: the ways to go on that
are preferred to stopping there, and whether one can stop. -/
def survey (p : Place) : List Rest → List Step × Bool
  | [] => ([], false)
  | k :: rest =>
    let c := k.choices p
    if c.stop.isSome then (c.before, true)
    else
      let (steps, stops) := survey p rest
      (c.before ++ steps, stops)

/-- The length of the preferred match, where `count` characters have been read, the last of them
`before`, the expressions `threads` are left of the ways to match, in order of preference, and
`best` is the preferred of the matches that have been completed. -/
def run (threads : List Rest) (before : Option Char) (count : Nat) (best : Option Nat) :
    List Char → Option Nat
  | [] => if (survey ⟨before, none⟩ threads).2 then some count else best
  | c :: cs =>
    let (steps, stops) := survey ⟨before, some c⟩ threads
    let best := if stops then some count else best
    let next := (steps.filter fun step => step.1.contains c).map (·.2)
    if next.isEmpty then best else run next.eraseDups (some c) (count + 1) best cs

/-- The length of the preferred match at the start of a text, if there is a match there. The text
is all that conditions see. -/
def matchLength? (r : Regex) (text : List Char) : Option Nat :=
  run [.ofRegex r] none 0 none text

end Regex

end Locus
