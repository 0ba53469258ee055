/-!
# Token trees

What the source text of a declaration consists of once brackets are matched: words, signs and
literals, and groups of them in brackets. The parts of a list of trees are what stands between its
commas. Main statement: the parts of a list, each with its comma, are the list.
-/

namespace Locus.Record

/-- A pair of brackets. -/
inductive Delimiter where
  | parentheses
  | brackets
  | braces
deriving DecidableEq

/-- A piece of source text that holds no others. -/
inductive Atom where
  /-- A name or a keyword. A raw name keeps the mark that makes it one. -/
  | word (name : String)
  /-- A character of an operator, and whether another one follows without a blank. -/
  | sign (c : Char) (joined : Bool)
  /-- A string, as the text that it spells. -/
  | text (value : String)
  /-- A literal of any other kind: a number, a character, a string of bytes. -/
  | literal (isNumber : Bool)
deriving DecidableEq

/-- A piece of source text. -/
inductive TokenTree where
  | atom (a : Atom)
  | group (d : Delimiter) (inside : List TokenTree)

namespace TokenTree

/-- The word, if this is one. -/
def word? : TokenTree → Option String
  | .atom (.word name) => some name
  | _ => none

/-- Whether this is the sign, whatever follows it. -/
def isSign (c : Char) : TokenTree → Bool
  | .atom (.sign c' _) => c' = c
  | _ => false

/-- Whether this is a comma. -/
def isComma (t : TokenTree) : Bool := t.isSign ','

/-- Whether this is a literal, strings included. -/
def isLiteral : TokenTree → Bool
  | .atom (.text _) => true
  | .atom (.literal _) => true
  | _ => false

/-- Whether this is the literal of a number. -/
def isNumber : TokenTree → Bool
  | .atom (.literal isNumber) => isNumber
  | _ => false

mutual

/-- How many pieces there are in a tree. -/
def size : TokenTree → Nat
  | .atom _ => 1
  | .group _ inside => 1 + sizeList inside

/-- How many pieces there are in a list of trees. -/
def sizeList : List TokenTree → Nat
  | [] => 0
  | t :: rest => t.size + sizeList rest

end

end TokenTree

/-! ## Parts -/

/-- What stands between two commas of a list. -/
structure Part where
  /-- The pieces. -/
  tokens : List TokenTree
  /-- Whether a comma follows; if not, the list ends here. -/
  followed : Bool

namespace Part

/-- The parts of a list. Nothing after a last comma is no part. -/
def ofList : List TokenTree → List Part
  | [] => []
  | t :: rest =>
    if t.isComma then ⟨[], true⟩ :: ofList rest
    else
      match ofList rest with
      | [] => [⟨[t], false⟩]
      | p :: ps => ⟨t :: p.tokens, p.followed⟩ :: ps

end Part

end Locus.Record
