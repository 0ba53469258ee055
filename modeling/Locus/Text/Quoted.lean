import Locus.Unicode.Classes

/-!
# Quoted texts

A text in double quotes, in which every character shows: quotes, backslashes and the common
controls have escapes of one letter, and whatever would not show by itself is written as the
hexadecimal number of its code point in braces.
-/

namespace Locus.Quoted

/-- A code point in hexadecimal, in braces. -/
def codePoint (c : Char) : List Char :=
  ['\\', 'u', '\x7b'] ++ Nat.toDigits 16 c.toNat ++ ['\x7d']

/-- A character inside the quotes. -/
def escape (c : Char) : List Char :=
  if c = '\x00' then ['\\', '0']
  else if c = '\t' then ['\\', 't']
  else if c = '\r' then ['\\', 'r']
  else if c = '\n' then ['\\', 'n']
  else if c = '\\' then ['\\', '\\']
  else if c = '"' then ['\\', '"']
  else if Unicode.extendsGrapheme c then codePoint c
  else if Unicode.isPrinted c then [c]
  else codePoint c

/-- A text with its quotes. -/
def quote (cs : List Char) : List Char :=
  '"' :: cs.flatMap escape ++ ['"']

/-- A text with its quotes. -/
def quoteString (s : String) : String :=
  String.ofList (quote s.toList)

end Locus.Quoted
