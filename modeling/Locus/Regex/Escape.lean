import Locus.Regex.Basic
import Locus.Regex.Property

/-!
# Escapes and flags of patterns

The parts of the notation of patterns that outer forms and bracketed sets share: the flags in
force, blanks and comments that count for nothing, and the escapes after a backslash.
-/

namespace Locus.Pattern

/-- The flags in force at a place of a pattern. -/
structure Flags where
  /-- `i`: characters match in either case. -/
  ignoreCase : Bool
  /-- `m`: the anchors match at lines, too. -/
  multiLine : Bool
  /-- `s`: the dot matches line feeds, too. -/
  dotAll : Bool
  /-- `U`: repetitions are lazy unless a question mark makes them greedy. -/
  swapGreed : Bool
  /-- `u`: classes and case are those of Unicode, else those of ASCII. -/
  unicode : Bool
  /-- `R`: carriage returns end lines, too. -/
  crlf : Bool
  /-- `x`: blanks and comments count for nothing. -/
  spaced : Bool
deriving DecidableEq

namespace Flags

/-- The flags in force at the start. -/
def initial : Flags := ⟨false, false, false, false, true, false, false⟩

/-- Sets or clears the flag of the given letter, if there is one. -/
def set? (f : Flags) (letter : Char) (on : Bool) : Option Flags :=
  if letter = 'i' then some { f with ignoreCase := on }
  else if letter = 'm' then some { f with multiLine := on }
  else if letter = 's' then some { f with dotAll := on }
  else if letter = 'U' then some { f with swapGreed := on }
  else if letter = 'u' then some { f with unicode := on }
  else if letter = 'R' then some { f with crlf := on }
  else if letter = 'x' then some { f with spaced := on }
  else none

/-- Reads the letters of a group up to the colon or parenthesis that ends them. After a minus sign
flags are cleared. No letter and no minus sign may occur twice, and the minus sign must not come
last. Gives the flags, the character at the end, whether any letter was there, and the rest. -/
def read? (f : Flags) (off : Bool) (seen : List Char) (last : Char) :
    List Char → Option (Flags × Char × Bool × List Char)
  | [] => none
  | c :: cs =>
    if c = ':' ∨ c = ')' then
      if last = '-' then none else some (f, c, !seen.isEmpty, cs)
    else if seen.contains c then none
    else if c = '-' then read? f true (c :: seen) c cs
    else
      match f.set? c (!off) with
      | some f => read? f off (c :: seen) c cs
      | none => none

end Flags

/-! ## Blanks and comments -/

/-- Drops blanks and comments; a comment goes from a number sign to the end of its line. -/
def dropSpace (inComment : Bool) : List Char → List Char
  | [] => []
  | c :: cs =>
    if inComment then dropSpace (c ≠ '\n') cs
    else if Unicode.isWhiteSpace c then dropSpace false cs
    else if c = '#' then dropSpace true cs
    else c :: cs

/-- Drops blanks and comments if they count for nothing. -/
def skip (spaced : Bool) (cs : List Char) : List Char :=
  if spaced then dropSpace false cs else cs

/-- Takes characters while they satisfy `p`, and drops blanks and comments after each of them if
they count for nothing. -/
def takeSpaced (p : Char → Bool) (spaced inComment : Bool) :
    List Char → List Char × List Char
  | [] => ([], [])
  | c :: cs =>
    if inComment then takeSpaced p spaced (c ≠ '\n') cs
    else if p c then
      let (taken, rest) := takeSpaced p spaced false cs
      (c :: taken, rest)
    else if spaced && Unicode.isWhiteSpace c then takeSpaced p spaced false cs
    else if spaced && c = '#' then takeSpaced p spaced true cs
    else ([], c :: cs)

/-- Takes characters that satisfy `p`, and drops a closing brace after them. -/
def takeBraced? (p : Char → Bool) (spaced : Bool) (cs : List Char) :
    Option (List Char × List Char) :=
  match takeSpaced p spaced false cs with
  | (_, []) => none
  | (taken, c :: rest) => if c = '\x7d' then some (taken, rest) else none

/-- The character after the first one, past blanks if they count for nothing. A number sign is
passed over with them, but the comment after it is not. -/
def peekSpaced (spaced : Bool) (cs : List Char) : Option Char :=
  let rec go (inComment : Bool) : List Char → Option Char
    | [] => none
    | c :: cs =>
      if Unicode.isWhiteSpace c then go inComment cs
      else if !inComment && c = '#' then go true cs
      else some c
  match cs with
  | [] => none
  | _ :: rest => if spaced then (go false rest).or rest.head? else rest.head?

/-! ## Escapes -/

/-- What an escape stands for. -/
inductive Escape where
  /-- A character; `byte` if it is given by two hexadecimal digits. -/
  | literal (c : Char) (byte : Bool)
  | set (s : CharSet)
  | look (l : Look)

/-- Whether the character is a hexadecimal digit. -/
def isHexDigit (c : Char) : Bool :=
  c.isDigit || ('a' ≤ c && c ≤ 'f') || ('A' ≤ c && c ≤ 'F')

/-- The value of a hexadecimal digit. -/
def hexDigitValue (c : Char) : Nat :=
  if c.isDigit then c.toNat - '0'.toNat
  else if 'a' ≤ c then c.toNat - 'a'.toNat + 10
  else c.toNat - 'A'.toNat + 10

/-- The character with the code point that hexadecimal digits spell. -/
def charOfHex? (ds : List Char) : Option Char :=
  let n := ds.foldl (fun n d => n * 16 + hexDigitValue d) 0
  if n.isValidChar then some (Char.ofNat n) else none

/-- Takes exactly `n` hexadecimal digits. -/
def takeHex? (spaced : Bool) : Nat → List Char → Option (List Char × List Char)
  | 0, cs => some ([], cs)
  | _ + 1, [] => none
  | n + 1, c :: cs =>
    if isHexDigit c then
      (takeHex? spaced n (skip spaced cs)).map fun (ds, rest) => (c :: ds, rest)
    else none

/-- Reads a code point: `n` hexadecimal digits, or any number of them in braces. -/
def readHex? (spaced : Bool) (n : Nat) (cs : List Char) : Option (Escape × List Char) :=
  match skip spaced cs with
  | [] => none
  | '\x7b' :: rest =>
    (takeBraced? isHexDigit spaced rest).bind fun (ds, rest) =>
      if ds.isEmpty then none
      else (charOfHex? ds).map fun c => (.literal c false, skip spaced rest)
  | cs => do
    let (ds, rest) ← takeHex? spaced n cs
    let c ← charOfHex? ds
    some (.literal c (n = 2), rest)

/-- The word characters under the given flags. -/
def Flags.word (f : Flags) : CharSet :=
  if f.unicode then .word else .asciiWord

/-- The set that one of the letters `d`, `s` and `w` stands for; a capital stands for the
complement, which without Unicode would split characters and is refused. -/
def classSet? (f : Flags) (letter : Char) : Option CharSet := do
  let set ←
    if letter.toLower = 'd' then some (if f.unicode then .digit else .asciiDigit)
    else if letter.toLower = 's' then some (if f.unicode then .blank else .asciiBlank)
    else if letter.toLower = 'w' then some f.word
    else none
  if letter.isUpper then
    if f.unicode then some (.compl set) else none
  else some set

/-- Whether the character may be part of the name of a kind of word boundary. -/
def isBoundaryPart (c : Char) : Bool := c.isAlpha || c = '-'

/-- The kind of word boundary with a name. -/
def boundaryNamed? (f : Flags) (name : List Char) : Option Look :=
  match String.ofList name with
  | "start" => some (.wordStart f.word)
  | "end" => some (.wordEnd f.word)
  | "start-half" => some (.wordStartHalf f.word)
  | "end-half" => some (.wordEndHalf f.word)
  | _ => none

/-- Reads what may follow the escape for a word boundary: the name of one of its kinds in braces.
Braces around anything but letters are left for a repetition. -/
def readBoundary? (f : Flags) (cs : List Char) : Option (Look × List Char) :=
  match cs with
  | '\x7b' :: inner =>
    match skip f.spaced inner with
    | [] => none
    | c :: rest =>
      if isBoundaryPart c then
        (takeBraced? isBoundaryPart f.spaced (c :: rest)).bind fun (name, rest) =>
          (boundaryNamed? f name).map fun l => (l, rest)
      else some (.wordBoundary f.word, cs)
  | _ => some (.wordBoundary f.word, cs)

/-- Closes a set under case if case does not count. -/
def foldSet (f : Flags) (s : CharSet) : CharSet :=
  if f.ignoreCase then (if f.unicode then .fold s else .asciiFold s) else s

/-- Whether the character belongs to what names a property in braces. -/
def isPropertyPart (spaced : Bool) (c : Char) : Bool :=
  c ≠ '\x7d' && !(spaced && (Unicode.isWhiteSpace c || c = '#'))

/-- Reads what names a property: whatever stands in braces, or a single character. -/
def readPropertyText? (spaced : Bool) (cs : List Char) : Option (List Char × List Char) :=
  match skip spaced cs with
  | [] => none
  | '\x7b' :: inner => takeBraced? (isPropertyPart spaced) spaced inner
  | c :: rest => if c = '\\' then none else some ([c], rest)

/-- The set that a property stands for after the given letter: closed under case first, then
complemented if the letter is a capital. Only Unicode has properties. -/
def propertySet? (f : Flags) (letter : Char) (text : List Char) : Option CharSet :=
  if f.unicode then
    (Property.ofText? text).map fun s =>
      let folded := foldSet f s
      if letter.isUpper then .compl folded else folded
  else none

/-- Reads a set named by a property, after the given letter. -/
def readProperty? (f : Flags) (letter : Char) (cs : List Char) : Option (CharSet × List Char) := do
  let (text, rest) ← readPropertyText? f.spaced cs
  (propertySet? f letter text).map fun set => (set, rest)

/-- Whether the character stands for itself after a backslash: all of ASCII does but letters,
digits and angle brackets. -/
def isEscapable (c : Char) : Bool :=
  c.toNat < 0x80 && !c.isAlphanum && c ≠ '<' && c ≠ '>'

/-- Reads what follows a backslash. -/
def readEscape? (f : Flags) : List Char → Option (Escape × List Char)
  | [] => none
  | c :: cs =>
    if c = 'x' then readHex? f.spaced 2 cs
    else if c = 'u' then readHex? f.spaced 4 cs
    else if c = 'U' then readHex? f.spaced 8 cs
    else if c = 'b' then (readBoundary? f cs).map fun (l, rest) => (.look l, rest)
    else if c = 'p' ∨ c = 'P' then (readProperty? f c cs).map fun (s, rest) => (.set s, rest)
    else if c = 'B' then some (.look (.notWordBoundary f.word), cs)
    else if c = 'A' then some (.look .textStart, cs)
    else if c = 'z' then some (.look .textEnd, cs)
    else if c = '<' then some (.look (.wordStart f.word), cs)
    else if c = '>' then some (.look (.wordEnd f.word), cs)
    else if c = 'a' then some (.literal '\x07' false, cs)
    else if c = 'f' then some (.literal '\x0c' false, cs)
    else if c = 't' then some (.literal '\t' false, cs)
    else if c = 'n' then some (.literal '\n' false, cs)
    else if c = 'r' then some (.literal '\r' false, cs)
    else if c = 'v' then some (.literal '\x0b' false, cs)
    else if isEscapable c then some (.literal c false, cs)
    else (classSet? f c).map fun s => (.set s, cs)

end Locus.Pattern
