import Locus.Unicode.Classes
import Locus.Unicode.Folding

/-!
# Sets of characters

The sets that a single place of a pattern can match, kept as they are put together: ranges, general
categories and the classes of digits, blanks and word characters, joined, met, complemented, and
closed under case.
-/

namespace Locus

/-- A set of characters. -/
inductive CharSet where
  | empty
  | full
  | range (low high : Char)
  | digit
  | blank
  | word
  /-- The characters of one general category. -/
  | category (k : Unicode.Category)
  /-- The characters in one of the ranges of code points, both ends included. -/
  | ranges (rs : List (Nat × Nat))
  | union (a b : CharSet)
  | inter (a b : CharSet)
  | compl (a : CharSet)
  /-- The characters that differ from one in the set by case only. -/
  | fold (a : CharSet)
  /-- As `fold`, for the case of ASCII letters alone. -/
  | asciiFold (a : CharSet)
  /-- The set as one of bytes. It has the same members, but is not taken for a set of characters. -/
  | bytes (a : CharSet)
deriving DecidableEq

namespace CharSet

/-- The other case of an ASCII letter; any other character stays. -/
def otherCase (c : Char) : Char :=
  if c.isLower then c.toUpper else c.toLower

/-- Whether a character is in the set. -/
def contains : CharSet → Char → Bool
  | .empty, _ => false
  | .full, _ => true
  | .range low high, c => low ≤ c && c ≤ high
  | .digit, c => Unicode.isDecimalDigit c
  | .blank, c => Unicode.isWhiteSpace c
  | .word, c => Unicode.isWord c
  | .category k, c => Unicode.category c = k
  | .ranges rs, c => Unicode.inRanges c.toNat rs
  | .union a b, c => a.contains c || b.contains c
  | .inter a b, c => a.contains c && b.contains c
  | .compl a, c => !a.contains c
  | .fold a, c => (Unicode.caseClass c.toNat).any fun n => a.contains (Char.ofNat n)
  | .asciiFold a, c => a.contains c || a.contains (otherCase c)
  | .bytes a, c => a.contains c

/-- The set with one member. -/
def single (c : Char) : CharSet := .range c c

/-- The union of several sets. -/
def unions : List CharSet → CharSet
  | [] => .empty
  | [a] => a
  | a :: rest => .union a (unions rest)

/-- The members of the first set that are not in the second. -/
def diff (a b : CharSet) : CharSet := .inter a (.compl b)

/-- The characters that are in exactly one of the sets. -/
def symmDiff (a b : CharSet) : CharSet := .union (a.diff b) (b.diff a)

/-- The decimal digits of ASCII. -/
def asciiDigit : CharSet := .range '0' '9'

/-- The letters of ASCII. -/
def asciiLetter : CharSet := .union (.range 'A' 'Z') (.range 'a' 'z')

/-- The blanks of ASCII. -/
def asciiBlank : CharSet := .union (.range '\t' '\r') (single ' ')

/-- The letters, digits and the underscore of ASCII. -/
def asciiWord : CharSet := unions [asciiDigit, asciiLetter, single '_']

/-! ## Comparing sets -/

/-- The first of the last `n` code points that has a property. -/
def firstOfLast? (p : Char → Bool) : Nat → Option Char
  | 0 => none
  | n + 1 =>
    let c := Char.ofNat (0x110000 - (n + 1))
    if p c then some c else firstOfLast? p n

/-- The first character with a property. -/
def first? (p : Char → Bool) : Option Char := firstOfLast? p 0x110000

/-- The only member of a set that has just one. -/
def only? : CharSet → Option Char
  | .range low high => if low = high then some low else none
  | .bytes a => a.only?
  | .fold a => a.only?.filter fun c => (Unicode.caseClass c.toNat).length = 1
  | .asciiFold a => a.only?.filter fun c => otherCase c = c
  | a =>
    (first? a.contains).filter fun c => (first? fun d => a.contains d && d ≠ c).isNone

/-- Whether it is known as a set of bytes. -/
def isBytes : CharSet → Bool
  | .bytes _ => true
  | _ => false

/-- Whether two sets are the same. Apart from single characters, sets of bytes and sets of
characters differ. -/
def same (a b : CharSet) : Bool :=
  a = b || ((first? fun c => a.contains c != b.contains c).isNone &&
    (a.isBytes = b.isBytes || a.only?.isSome))

/-! ## Sets with names -/

/-- The sets that can be named inside a bracketed set. -/
def named? (name : List Char) : Option CharSet :=
  match String.ofList name with
  | "alnum" => some (.union asciiDigit asciiLetter)
  | "alpha" => some asciiLetter
  | "ascii" => some (.range '\x00' '\x7f')
  | "blank" => some (.union (single '\t') (single ' '))
  | "cntrl" => some (.union (.range '\x00' '\x1f') (single '\x7f'))
  | "digit" => some asciiDigit
  | "graph" => some (.range '!' '~')
  | "lower" => some (.range 'a' 'z')
  | "print" => some (.range ' ' '~')
  | "punct" =>
    some (unions [.range '!' '/', .range ':' '@', .range '[' '\x60', .range '\x7b' '~'])
  | "space" => some asciiBlank
  | "upper" => some (.range 'A' 'Z')
  | "word" => some asciiWord
  | "xdigit" => some (unions [asciiDigit, .range 'A' 'F', .range 'a' 'f'])
  | _ => none

end CharSet

end Locus
