import Locus.Regex.Basic

/-!
# Simplified expressions

What is made of an expression before it is run. Groups that capture nothing are dissolved, parts in
a row and alternatives are listed without nesting, alternatives that are single characters become
one set, and repetitions of nothing are cut short.

If all alternatives begin with the same parts, these come before the alternatives of what is left.
That keeps the matches, but not always the preference among them: if such a part can match in
several ways, all alternatives are now tried behind the first way, before the next one.
-/

namespace Locus

namespace Regex

/-! ## Rows and alternatives -/

/-- The parts of a row. -/
def parts : Regex → List Regex
  | .empty => []
  | .seq a b => a :: b.parts
  | r => [r]

/-- The row with the given parts. -/
def row (rs : List Regex) : Regex := rs.foldr andThen .empty

/-- The alternatives of an expression, which may be the only one. -/
def alternatives : Regex → List Regex
  | .alt a b => a :: b.alternatives
  | r => [r]

/-- The expression with the given alternatives. -/
def choice : List Regex → Regex
  | [] => .empty
  | [r] => r
  | r :: rs => .alt r (choice rs)

/-- Whether the expressions are the same. Groups that capture differ, since no group captures what
another one does. -/
def same : Regex → Regex → Bool
  | .empty, .empty => true
  | .look l, .look l' => l = l'
  | .set s, .set s' => s.same s'
  | .seq a b, .seq a' b' => a.same a' && b.same b'
  | .alt a b, .alt a' b' => a.same a' && b.same b'
  | .loop greedy least more body, .loop greedy' least' more' body' =>
    greedy = greedy' && least = least' && more = more' && body.same body'
  | _, _ => false

/-! ## Sets -/

/-- The set of an expression that is one. -/
def set? : Regex → Option CharSet
  | .set s => some s
  | _ => none

/-- One set for several alternatives: either all of them are characters and sets of characters, or
all of them are characters and sets of bytes. -/
def joinSets? (rs : List Regex) : Option CharSet := do
  let sets ← rs.mapM set?
  if sets.all fun s => !s.isBytes || s.only?.isSome then some (CharSet.unions sets)
  else if sets.all fun s => s.isBytes || s.only?.isSome then some (.bytes (CharSet.unions sets))
  else none

/-- Puts alternatives next to each other, as one set if possible. -/
def join (rs : List Regex) : Regex :=
  match joinSets? rs with
  | some s => .set s
  | none => choice rs

/-! ## Common parts -/

/-- Whether the expression matches one character and no other. -/
def isLiteral (r : Regex) : Bool := (r.set?.bind CharSet.only?).isSome

/-- The parts of a row, where characters next to each other are one part. -/
def chunks : List Regex → List (List Regex)
  | [] => []
  | r :: rs =>
    match chunks rs with
    | (s :: run) :: rest =>
      if r.isLiteral && s.isLiteral then (r :: s :: run) :: rest else [r] :: (s :: run) :: rest
    | rest => [r] :: rest

/-- How long the beginning is that two rows have in common. -/
def commonBeginning : List (List Regex) → List (List Regex) → List (List Regex)
  | a :: as, b :: bs => if a.isEqv b same then a :: commonBeginning as bs else []
  | _, _ => []

/-- How many parts are the same at the beginning of all alternatives. There are none if one of them
is not a row. -/
def commonLength (rs : List Regex) : Nat :=
  match rs.map fun r => chunks r.parts with
  | first :: second :: rest =>
    let rows := first :: second :: rest
    if rows.all fun row => 1 < row.length then
      ((second :: rest).foldl commonBeginning first).flatten.length
    else 0
  | _ => 0

/-- Puts alternatives next to each other, behind what they have in common at their beginning. -/
def alternation (rs : List Regex) : Regex :=
  match commonLength rs, rs with
  | n + 1, first :: _ =>
    let left := rs.flatMap fun r => (row (r.parts.drop (n + 1))).alternatives
    row (first.parts.take (n + 1) ++ (join left).parts)
  | _, _ => join rs

/-! ## Repetitions -/

/-- Whether the expression can read no character. -/
def readsNothing : Regex → Bool
  | .empty => true
  | .look _ => true
  | .set _ => false
  | .seq a b => a.readsNothing && b.readsNothing
  | .alt a b => a.readsNothing && b.readsNothing
  | .loop _ _ _ body => body.readsNothing
  | .group _ r => r.readsNothing

/-- A repetition with at least `least` and at most `most` times, or any number of times if there is
no bound. -/
def times (greedy : Bool) (least : Nat) (most : Option Nat) (body : Regex) : Regex :=
  if most = some 0 then .empty
  else if least = 1 ∧ most = some 1 then body
  else .loop greedy least (most.map (· - least)) body

/-- A repetition. What reads nothing need not be repeated more than once. -/
def repetition (greedy : Bool) (least : Nat) (more : Option Nat) (body : Regex) : Regex :=
  let most := more.map (least + ·)
  if body.readsNothing then times greedy (min least 1) (some ((most.getD 1).min 1)) body
  else times greedy least most body

end Regex

/-! ## The whole expression -/

/-- A simplified expression. -/
structure Simplified where
  whole : Regex
  /-- Its alternatives, for those that are put before them. -/
  alternatives : List Regex

/-- An expression that is no list of alternatives, or one whose list is closed. -/
def Simplified.closed (r : Regex) : Simplified := ⟨r, r.alternatives⟩

namespace Regex

/-- Simplifies an expression from the inside out. -/
def simplify : Regex → Simplified
  | .empty => .closed .empty
  | .look l => .closed (.look l)
  | .set s => .closed (.set s)
  | .seq a b => .closed (row (a.simplify.whole.parts ++ b.simplify.whole.parts))
  | .alt a b =>
    let rs := a.simplify.whole.alternatives ++ b.simplify.alternatives
    ⟨alternation rs, rs⟩
  | .loop greedy least more body => .closed (repetition greedy least more body.simplify.whole)
  | .group true r => .closed (.group true r.simplify.whole)
  | .group false r => .closed r.simplify.whole

/-- The expression that is run. -/
def simplified (r : Regex) : Regex := r.simplify.whole

end Regex

end Locus
