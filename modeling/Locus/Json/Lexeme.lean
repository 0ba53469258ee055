import Locus.Json.Numeral

/-!
# The lexemes of JSON

The brackets, signs, words, numbers and strings that a JSON text consists of, with their texts and
the scanner that finds them. The scanner reads one character at a time and is a machine of a few
states, so it ends by going over the text once.
-/

namespace Locus.Json

/-- A piece of a JSON text. -/
inductive Lexeme where
  | beginObject
  | endObject
  | beginArray
  | endArray
  | colon
  | comma
  | null
  | bool (b : Bool)
  | number (n : Numeral)
  /-- A string; none where an escaped surrogate has no partner. -/
  | string (text : Option String)
deriving DecidableEq

/-! ## Strings -/

/-- The value of a hexadecimal digit. -/
def hexValue? (c : Char) : Option Nat :=
  if '0' ≤ c ∧ c ≤ '9' then some (c.toNat - '0'.toNat)
  else if 'a' ≤ c ∧ c ≤ 'f' then some (c.toNat - 'a'.toNat + 10)
  else if 'A' ≤ c ∧ c ≤ 'F' then some (c.toNat - 'A'.toNat + 10)
  else none

/-- Whether a code is the first half of a surrogate pair. -/
def isLeading (u : Nat) : Bool := 0xD800 ≤ u && u < 0xDC00

/-- Whether a code is the second half of a surrogate pair. -/
def isTrailing (u : Nat) : Bool := 0xDC00 ≤ u && u < 0xE000

/-- The characters that a sequence of codes spells: a surrogate pair is one character, and a
surrogate without its partner spells nothing. -/
def ofCodes? : List Nat → Option (List Char)
  | [] => some []
  | u :: rest =>
    if isLeading u then
      match rest with
      | [] => none
      | v :: more =>
        if isTrailing v then
          (ofCodes? more).map (Char.ofNat (0x10000 + (u - 0xD800) * 0x400 + (v - 0xDC00)) :: ·)
        else none
    else if isTrailing u then none
    else (ofCodes? rest).map (Char.ofNat u :: ·)

/-- The character that a one-letter escape stands for. -/
def escaped? (c : Char) : Option Char :=
  if c = '"' then some '"'
  else if c = '\\' then some '\\'
  else if c = '/' then some '/'
  else if c = 'b' then some '\x08'
  else if c = 'f' then some '\x0c'
  else if c = 'n' then some '\n'
  else if c = 'r' then some '\r'
  else if c = 't' then some '\t'
  else none

/-- The lower-case hexadecimal digit of a value below sixteen. -/
def hexDigit (n : Nat) : Char := Nat.digitChar (n % 16)

/-- A character inside a string: quotes, backslashes and the controls below the blank are escaped,
and everything else stands for itself. -/
def escape (c : Char) : List Char :=
  if c = '"' then ['\\', '"']
  else if c = '\\' then ['\\', '\\']
  else if c = '\x08' then ['\\', 'b']
  else if c = '\x0c' then ['\\', 'f']
  else if c = '\n' then ['\\', 'n']
  else if c = '\r' then ['\\', 'r']
  else if c = '\t' then ['\\', 't']
  else if c.toNat < 0x20 then ['\\', 'u', '0', '0', hexDigit (c.toNat / 16), hexDigit c.toNat]
  else [c]

/-- A string with its quotes. -/
def quoted (cs : List Char) : List Char :=
  '"' :: cs.flatMap escape ++ ['"']

/-! ## Texts -/

/-- The text of a lexeme. -/
def Lexeme.text : Lexeme → List Char
  | .beginObject => ['\x7b']
  | .endObject => ['\x7d']
  | .beginArray => ['[']
  | .endArray => [']']
  | .colon => [':']
  | .comma => [',']
  | .null => ['n', 'u', 'l', 'l']
  | .bool true => ['t', 'r', 'u', 'e']
  | .bool false => ['f', 'a', 'l', 's', 'e']
  | .number n => n.text
  | .string none => ['"', '"']
  | .string (some s) => quoted s.toList

/-! ## The scanner -/

/-- Where the scanner stands. What has been read of a lexeme is kept in reverse. -/
inductive Scan where
  | between
  | word (seen : List Char)
  | number (seen : List Char)
  | string (codes : List Nat)
  | escape (codes : List Nat)
  | hex (codes : List Nat) (digits value : Nat)

namespace Scan

/-- The blanks between lexemes. -/
def isBlank (c : Char) : Bool :=
  c = ' ' || c = '\t' || c = '\n' || c = '\r'

/-- The lexeme that a bare word is. -/
def word? (seen : List Char) : Option Lexeme :=
  if seen.reverse = ['n', 'u', 'l', 'l'] then some .null
  else if seen.reverse = ['t', 'r', 'u', 'e'] then some (.bool true)
  else if seen.reverse = ['f', 'a', 'l', 's', 'e'] then some (.bool false)
  else none

/-- The lexeme that a run of numeral characters is. -/
def number? (seen : List Char) : Option Lexeme :=
  (Numeral.ofList? seen.reverse).map .number

/-- The lexeme that the codes of a string are. -/
def ofCodes (codes : List Nat) : Lexeme :=
  .string ((ofCodes? codes.reverse).map String.ofList)

/-- A character that begins something: the lexeme it completes, if any, and where that leaves the
scanner. -/
def begin? (c : Char) : Option (List Lexeme × Scan) :=
  if isBlank c then some ([], .between)
  else if c = '\x7b' then some ([.beginObject], .between)
  else if c = '\x7d' then some ([.endObject], .between)
  else if c = '[' then some ([.beginArray], .between)
  else if c = ']' then some ([.endArray], .between)
  else if c = ':' then some ([.colon], .between)
  else if c = ',' then some ([.comma], .between)
  else if c = '"' then some ([], .string [])
  else if c.isDigit ∨ c = '-' then some ([], .number [c])
  else if c.isLower then some ([], .word [c])
  else none

/-- One character: the lexemes it completes and where the scanner stands after it. -/
def step? : Scan → Char → Option (List Lexeme × Scan)
  | .between, c => begin? c
  | .word seen, c =>
    if c.isLower then some ([], .word (c :: seen))
    else do
      let l ← word? seen
      let (ls, s) ← begin? c
      some (l :: ls, s)
  | .number seen, c =>
    if Numeral.isPart c then some ([], .number (c :: seen))
    else do
      let l ← number? seen
      let (ls, s) ← begin? c
      some (l :: ls, s)
  | .string codes, c =>
    if c = '"' then some ([ofCodes codes], .between)
    else if c = '\\' then some ([], .escape codes)
    else if c.toNat < 0x20 then none
    else some ([], .string (c.toNat :: codes))
  | .escape codes, c =>
    if c = 'u' then some ([], .hex codes 0 0)
    else (escaped? c).map fun e => ([], .string (e.toNat :: codes))
  | .hex codes digits value, c => do
    let d ← hexValue? c
    if digits = 3 then some ([], .string ((value * 16 + d) :: codes))
    else some ([], .hex codes (digits + 1) (value * 16 + d))

/-- The lexemes that are complete when the text ends. -/
def finish? : Scan → Option (List Lexeme)
  | .between => some []
  | .word seen => (word? seen).map fun l => [l]
  | .number seen => (number? seen).map fun l => [l]
  | _ => none

/-- The lexemes of a text, from a given state of the scanner on. -/
def run? : Scan → List Char → Option (List Lexeme)
  | s, [] => s.finish?
  | s, c :: cs => do
    let (ls, s') ← s.step? c
    let rest ← run? s' cs
    some (ls ++ rest)

end Scan

/-- The lexemes of a text. -/
def lexemes? (text : List Char) : Option (List Lexeme) :=
  Scan.between.run? text

end Locus.Json
