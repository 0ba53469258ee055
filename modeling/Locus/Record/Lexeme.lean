import Locus.Record.TokenTree
import Locus.Json.Lexeme
import Locus.Unicode.Classes

/-!
# The source text of declarations

The scanner that finds the words, signs, literals and brackets of a source text, and the matching
of its brackets. Blanks and comments separate pieces; a comment that documents what follows is an
attribute.
-/

namespace Locus.Record

/-- A piece of source text before brackets are matched. -/
inductive Lexeme where
  | opening (d : Delimiter)
  | closing (d : Delimiter)
  | atom (a : Atom)
deriving DecidableEq

namespace Lexeme

/-! ## Words -/

/-- Whether a word may start with the character. -/
def startsWord (c : Char) : Bool := c = '_' || Unicode.isIdentifierStart c

/-- The word at the front of a text, and what follows it. -/
def name? : List Char → Option (List Char × List Char)
  | c :: rest =>
    if startsWord c then
      some (c :: rest.takeWhile Unicode.isIdentifierPart, rest.dropWhile Unicode.isIdentifierPart)
    else none
  | [] => none

/-- A text without the word at its front, if it has one there. -/
def dropName (cs : List Char) : List Char :=
  match name? cs with
  | some (_, rest) => rest
  | none => cs

/-- The words that no mark makes a raw name. -/
def neverRaw : List String := ["_", "super", "self", "Self", "crate"]

/-- What starts a literal, so that it starts no word even where the literal is broken off. -/
def literalMarks : List String :=
  ["r\"", "r#\"", "r##", "b\"", "b'", "br\"", "br#", "c\"", "cr\"", "cr#"]

/-- The name or raw name at the front of a text, and what follows it. -/
def word? (cs : List Char) : Option (String × List Char) :=
  if literalMarks.any fun mark => mark.toList.isPrefixOf cs then none
  else
    match cs with
    | 'r' :: '#' :: rest => do
      let (name, rest) ← name? rest
      if String.ofList name ∈ neverRaw then none
      else some (String.ofList ('r' :: '#' :: name), rest)
    | _ => (name? cs).map fun (name, rest) => (String.ofList name, rest)

/-! ## Strings and characters -/

/-- Which escapes and characters a literal may hold. -/
inductive StringKind where
  /-- Text: codes below 128 in two digits, others in braces. -/
  | text
  /-- Bytes: all codes in two digits, none in braces, and plain characters below 128 only. -/
  | bytes
  /-- Text and bytes together. -/
  | mixed
deriving DecidableEq

/-- Where the scanner stands in a literal with escapes. -/
inductive Literal where
  | plain
  /-- After a carriage return, which only a line feed may follow. -/
  | carriage
  | escape
  /-- Before the first or the second digit of a code of two digits. -/
  | high
  | low (value : Nat)
  /-- Before the brace of a code in braces, and inside the braces. -/
  | brace
  | code (digits value : Nat)
  /-- After an escaped end of line: blanks count for nothing. -/
  | skip
  | skipCarriage
deriving DecidableEq

namespace Literal

/-- The character that a one-letter escape stands for. -/
def escaped? (c : Char) : Option Char :=
  if c = 'n' then some '\n'
  else if c = 'r' then some '\r'
  else if c = 't' then some '\t'
  else if c = '\\' then some '\\'
  else if c = '\'' then some '\''
  else if c = '"' then some '"'
  else if c = '0' then some '\x00'
  else none

/-- A plain character. -/
def plain? (kind : StringKind) (c : Char) : Option (Literal × List Char) :=
  if c = '\r' then some (.carriage, [])
  else if c = '\\' then some (.escape, [])
  else if kind = .bytes ∧ 128 ≤ c.toNat then none
  else some (.plain, [c])

/-- One character: where it leaves the scanner, and the characters that are complete. -/
def step? (kind : StringKind) : Literal → Char → Option (Literal × List Char)
  | .plain, c => plain? kind c
  | .carriage, c => if c = '\n' then some (.plain, ['\n']) else none
  | .escape, c =>
    if c = 'x' then some (.high, [])
    else if c = 'u' then if kind = .bytes then none else some (.brace, [])
    else if c = '\n' then some (.skip, [])
    else if c = '\r' then some (.skipCarriage, [])
    else (escaped? c).map fun e => (.plain, [e])
  | .high, c => do
    let d ← Json.hexValue? c
    if kind = .text ∧ 8 ≤ d then none else some (.low d, [])
  | .low value, c => do
    let d ← Json.hexValue? c
    some (.plain, [Char.ofNat (value * 16 + d)])
  | .brace, c => if c = '\x7b' then some (.code 0 0, []) else none
  | .code digits value, c =>
    if c = '\x7d' then
      if 0 < digits ∧ value.isValidChar then some (.plain, [Char.ofNat value]) else none
    else if c = '_' then if 0 < digits then some (.code digits value, []) else none
    else do
      let d ← Json.hexValue? c
      if digits < 6 then some (.code (digits + 1) (value * 16 + d), []) else none
  | .skip, c =>
    if c = '\r' then some (.skipCarriage, [])
    else if Unicode.isWhiteSpace c then some (.skip, [])
    else plain? kind c
  | .skipCarriage, c => if c = '\n' then some (.skip, []) else none

/-- Whether a closing quote ends the literal here. -/
def mayEnd : Literal → Bool
  | .plain => true
  | .skip => true
  | _ => false

/-- The text up to the closing quote, and what follows the quote. -/
def string? (kind : StringKind) : Literal → List Char → Option (List Char × List Char)
  | _, [] => none
  | s, c :: cs =>
    if c = '"' ∧ s.mayEnd then some ([], cs)
    else do
      let (s, out) ← s.step? kind c
      let (text, rest) ← string? kind s cs
      some (out ++ text, rest)

/-- What follows a single escape and the quote that ends a character. -/
def escapedCharacter? (kind : StringKind) : Literal → List Char → Option (List Char)
  | _, [] => none
  | s, c :: cs =>
    if s = .plain then if c = '\'' then some cs else none
    else do
      let (s, _) ← s.step? kind c
      if s.mayEnd ∧ s ≠ .plain then none else escapedCharacter? kind s cs

/-- What follows a character and its closing quote. -/
def character? (kind : StringKind) : List Char → Option (List Char)
  | '\\' :: rest => escapedCharacter? kind .escape rest
  | c :: '\'' :: rest => if kind = .bytes ∧ 128 ≤ c.toNat then none else some rest
  | _ => none

end Literal

/-- The text up to a quote that is followed by the given number of number signs, and what comes
after those. -/
def rawEnd? (marks : Nat) : List Char → Option (List Char × List Char)
  | [] => none
  | c :: cs =>
    if c = '"' ∧ (List.replicate marks '#').isPrefixOf cs then some ([], cs.drop marks)
    else (rawEnd? marks cs).map fun (text, rest) => (c :: text, rest)

/-- Whether every carriage return in a text is followed by a line feed. -/
def returnsPaired : List Char → Bool
  | [] => true
  | '\r' :: '\n' :: rest => returnsPaired rest
  | c :: rest => c ≠ '\r' && returnsPaired rest

/-- A string without escapes, from the number signs before its quote on. -/
def rawString? (cs : List Char) : Option (List Char × List Char) :=
  let marks := cs.takeWhile (· = '#')
  match cs.dropWhile (· = '#') with
  | '"' :: rest => do
    let (text, rest) ← rawEnd? marks.length rest
    if returnsPaired text ∧ marks.length < 256 then some (text, rest) else none
  | _ => none

/-! ## Numbers -/

/-- What follows the digits and letters at the front of a text. -/
def dropDigits (cs : List Char) : List Char := cs.dropWhile Unicode.isIdentifierPart

/-- What follows the exponent of a number that was read up to the letter that announces it. -/
def dropExponent (read rest : List Char) : List Char :=
  if (read.getLast? = some 'e' ∨ read.getLast? = some 'E') ∧ ¬ ['0', 'x'].isPrefixOf read then
    match rest with
    | '+' :: d :: rest => if d.isDigit then dropDigits (d :: rest) else '+' :: d :: rest
    | '-' :: d :: rest => if d.isDigit then dropDigits (d :: rest) else '-' :: d :: rest
    | _ => rest
  else rest

/-- What follows the number at the front of a text. A point belongs to it unless a word or another
point follows. -/
def number? (cs : List Char) : Option (List Char) :=
  match cs with
  | [] => none
  | c :: _ =>
    if c.isDigit then
      let read := cs.takeWhile Unicode.isIdentifierPart
      let rest := dropDigits cs
      let isWhole := read.all fun c => c.isDigit || c = '_'
      match rest with
      | '.' :: after =>
        if isWhole ∧ !(after.head?.any fun d => d = '.' || startsWord d) then
          some (dropExponent (after.takeWhile Unicode.isIdentifierPart) (dropDigits after))
        else some (dropExponent read rest)
      | _ => some (dropExponent read rest)
    else none

/-! ## Literals -/

/-- The literal at the front of a text and what follows it. A word that follows at once belongs to
the literal. -/
def literal? (cs : List Char) : Option (Atom × List Char) :=
  let text (r : List Char × List Char) : Atom × List Char :=
    (.text (String.ofList r.1), dropName r.2)
  let other (rest : List Char) : Atom × List Char := (.literal false, dropName rest)
  match cs with
  | '"' :: rest => (Literal.plain.string? .text rest).map text
  | 'r' :: '"' :: rest => (rawString? ('"' :: rest)).map text
  | 'r' :: '#' :: rest => (rawString? ('#' :: rest)).map text
  | 'b' :: '"' :: rest => (Literal.plain.string? .bytes rest).map fun r => other r.2
  | 'b' :: 'r' :: rest =>
    (rawString? rest).bind fun r => if r.1.all (·.toNat < 128) then some (other r.2) else none
  | 'c' :: '"' :: rest =>
    (Literal.plain.string? .mixed rest).bind fun r =>
      if '\x00' ∈ r.1 then none else some (other r.2)
  | 'c' :: 'r' :: rest =>
    (rawString? rest).bind fun r => if '\x00' ∈ r.1 then none else some (other r.2)
  | 'b' :: '\'' :: rest => (Literal.character? .bytes rest).map other
  | '\'' :: rest => (Literal.character? .text rest).map other
  | _ => (number? cs).map fun rest => (.literal true, rest)

/-! ## Comments -/

/-- The text of a comment up to its end, and what follows it. Comments in it have ends of their
own. -/
def blockEnd? : Nat → List Char → Option (List Char × List Char)
  | depth, '*' :: '/' :: rest =>
    match depth with
    | 0 => some ([], rest)
    | depth + 1 => (blockEnd? depth rest).map fun (text, rest) => ('*' :: '/' :: text, rest)
  | depth, '/' :: '*' :: rest =>
    (blockEnd? (depth + 1) rest).map fun (text, rest) => ('/' :: '*' :: text, rest)
  | depth, c :: rest => (blockEnd? depth rest).map fun (text, rest) => (c :: text, rest)
  | _, [] => none

/-- The attribute that a documenting comment stands for. -/
def documentation (isInner : Bool) (text : List Char) : List Lexeme :=
  .atom (.sign '#' isInner)
    :: (if isInner then [.atom (.sign '!' false)] else [])
    ++ [.opening .brackets, .atom (.word "doc"), .atom (.sign '=' false),
      .atom (.text (String.ofList text)), .closing .brackets]

/-- The comment at the front of a text, and what follows it. -/
def comment? : List Char → Option (List Lexeme × List Char)
  | '/' :: '/' :: rest =>
    let text := rest.takeWhile (· ≠ '\n')
    let after := rest.dropWhile (· ≠ '\n')
    match text with
    | '/' :: '/' :: _ => some ([], after)
    | '/' :: text => some (documentation false text, after)
    | '!' :: text => some (documentation true text, after)
    | _ => some ([], after)
  | '/' :: '*' :: rest =>
    match rest with
    | '*' :: '*' :: _ => (blockEnd? 0 rest).map fun (_, after) => ([], after)
    | '*' :: '/' :: after => some ([], after)
    | '*' :: inside =>
      (blockEnd? 0 inside).map fun (text, after) => (documentation false text, after)
    | '!' :: inside =>
      (blockEnd? 0 inside).map fun (text, after) => (documentation true text, after)
    | _ => (blockEnd? 0 rest).map fun (_, after) => ([], after)
  | _ => none

/-! ## Signs and brackets -/

/-- The characters that operators consist of. -/
def signs : List Char :=
  ['~', '!', '@', '#', '$', '%', '^', '&', '*', '-', '=', '+', '|', ';', ':', ',', '<', '.', '>',
    '/', '?', '\'']

/-- Whether a sign stands at the front of a text. -/
def startsSign : List Char → Bool
  | '/' :: '/' :: _ => false
  | '/' :: '*' :: _ => false
  | c :: _ => c ∈ signs
  | [] => false

/-- The sign at the front of a text and what follows it. A single quote must start a word there
that no second quote ends. -/
def sign? : List Char → Option (Atom × List Char)
  | '\'' :: rest => do
    let (_, after) ← word? rest
    match after with
    | '\'' :: _ => none
    | '#' :: _ => if ['r', '#'].isPrefixOf rest then some (.sign '\'' true, rest) else none
    | _ => some (.sign '\'' true, rest)
  | c :: rest => if c ∈ signs then some (.sign c (startsSign rest), rest) else none
  | [] => none

/-- The bracket that a character is. -/
def bracket? (c : Char) : Option Lexeme :=
  if c = '(' then some (.opening .parentheses)
  else if c = ')' then some (.closing .parentheses)
  else if c = '[' then some (.opening .brackets)
  else if c = ']' then some (.closing .brackets)
  else if c = '\x7b' then some (.opening .braces)
  else if c = '\x7d' then some (.closing .braces)
  else none

/-! ## Texts -/

/-- Whether a character separates pieces: white space, and the marks of direction. -/
def isBlank (c : Char) : Bool :=
  Unicode.isWhiteSpace c || c = '\u200e' || c = '\u200f'

/-- The pieces at the front of a text, none if it starts with a blank or a comment, and what
follows them. -/
def first? : List Char → Option (List Lexeme × List Char)
  | [] => none
  | c :: cs =>
    if isBlank c then some ([], cs)
    else if let some r := comment? (c :: cs) then some r
    else if let some b := bracket? c then some ([b], cs)
    else if let some (a, rest) := literal? (c :: cs) then some ([.atom a], rest)
    else if let some (a, rest) := sign? (c :: cs) then some ([.atom a], rest)
    else (word? (c :: cs)).map fun (name, rest) => ([.atom (.word name)], rest)

/-- The pieces of a text. -/
def ofText? (cs : List Char) : Option (List Lexeme) :=
  if cs = [] then some []
  else
    match first? cs with
    | none => none
    | some (ls, rest) =>
      if _h : rest.length < cs.length then (ofText? rest).map (ls ++ ·) else none
termination_by cs.length
decreasing_by exact _h

end Lexeme

namespace TokenTree

/-- The trees that a sequence of pieces spells, given the brackets that are still open, each with
the trees before it in reverse, and the trees after the last of them in reverse. -/
def ofLexemes? :
    List (Delimiter × List TokenTree) → List TokenTree → List Lexeme → Option (List TokenTree)
  | [], seen, [] => some seen.reverse
  | _ :: _, _, [] => none
  | stack, seen, .opening d :: rest => ofLexemes? ((d, seen) :: stack) [] rest
  | [], _, .closing _ :: _ => none
  | (d, outer) :: stack, seen, .closing d' :: rest =>
    if d = d' then ofLexemes? stack (.group d seen.reverse :: outer) rest else none
  | stack, seen, .atom a :: rest => ofLexemes? stack (.atom a :: seen) rest

/-- The trees that a text spells. -/
def ofText? (text : List Char) : Option (List TokenTree) := do
  ofLexemes? [] [] (← Lexeme.ofText? text)

end TokenTree

end Locus.Record
