import Locus.Json.Lexeme
import Locus.Json.Tree

/-!
# Reading and writing JSON

The reader takes the lexemes of a text one by one and keeps the arrays and objects that are still
open on a stack. The writer gives the lexemes of a tree without blanks, or its text with one item
or member to a line.
-/

namespace Locus.Json

/-! ## Reading -/

/-- An array or object that is still open, with what it holds so far in reverse. -/
inductive Frame where
  | array (items : List Tree)
  | object (members : List (Option String × Tree)) (key : Option String)

/-- What the reader waits for. -/
inductive Reader where
  /-- A value. -/
  | value (stack : List Frame)
  /-- The first item of an array, or its end. -/
  | firstItem (stack : List Frame)
  /-- The first key of an object, or its end. -/
  | firstKey (stack : List Frame)
  /-- A further key of an object. -/
  | furtherKey (members : List (Option String × Tree)) (stack : List Frame)
  /-- The colon after a key. -/
  | colon (members : List (Option String × Tree)) (key : Option String) (stack : List Frame)
  /-- What follows a value that is complete. -/
  | after (t : Tree) (stack : List Frame)

namespace Reader

/-- A lexeme at which a value starts. -/
def begin? (stack : List Frame) : Lexeme → Option Reader
  | .null => some (.after .null stack)
  | .bool b => some (.after (.bool b) stack)
  | .number n => some (.after (.number n) stack)
  | .string s => some (.after (.string s) stack)
  | .beginArray => some (.firstItem stack)
  | .beginObject => some (.firstKey stack)
  | _ => none

/-- One lexeme. -/
def step? : Reader → Lexeme → Option Reader
  | .value stack, l => begin? stack l
  | .firstItem stack, l =>
    if l = .endArray then some (.after (.array []) stack) else begin? (.array [] :: stack) l
  | .firstKey stack, .endObject => some (.after (.object []) stack)
  | .firstKey stack, .string key => some (.colon [] key stack)
  | .furtherKey members stack, .string key => some (.colon members key stack)
  | .colon members key stack, .colon => some (.value (.object members key :: stack))
  | .after t (.array items :: stack), .comma => some (.value (.array (t :: items) :: stack))
  | .after t (.array items :: stack), .endArray =>
    some (.after (.array (t :: items).reverse) stack)
  | .after t (.object members key :: stack), .comma =>
    some (.furtherKey ((key, t) :: members) stack)
  | .after t (.object members key :: stack), .endObject =>
    some (.after (.object ((key, t) :: members).reverse) stack)
  | _, _ => none

/-- The reader after a sequence of lexemes. -/
def run? : Reader → List Lexeme → Option Reader
  | r, [] => some r
  | r, l :: ls => do run? (← r.step? l) ls

end Reader

/-- The tree that a sequence of lexemes spells. -/
def Tree.ofLexemes? (ls : List Lexeme) : Option Tree :=
  match (Reader.value []).run? ls with
  | some (.after t []) => some t
  | _ => none

/-- The tree that a text spells; nothing but blanks may surround it. -/
def Tree.ofText? (text : List Char) : Option Tree := do
  Tree.ofLexemes? (← lexemes? text)

/-! ## Writing -/

namespace Tree

mutual

/-- The lexemes of a tree. -/
def lexemes : Tree → List Lexeme
  | .null => [.null]
  | .bool b => [.bool b]
  | .number n => [.number n]
  | .string s => [.string s]
  | .array [] => [.beginArray, .endArray]
  | .array (t :: rest) => .beginArray :: (t.lexemes ++ itemLexemes rest)
  | .object [] => [.beginObject, .endObject]
  | .object ((k, t) :: rest) =>
    .beginObject :: .string k :: .colon :: (t.lexemes ++ memberLexemes rest)

/-- The lexemes after an item of an array: the further items and the end. -/
def itemLexemes : List Tree → List Lexeme
  | [] => [.endArray]
  | t :: rest => .comma :: (t.lexemes ++ itemLexemes rest)

/-- The lexemes after a member of an object: the further members and the end. -/
def memberLexemes : List (Option String × Tree) → List Lexeme
  | [] => [.endObject]
  | (k, t) :: rest => .comma :: .string k :: .colon :: (t.lexemes ++ memberLexemes rest)

end

/-- The text of a tree without blanks. -/
def text (t : Tree) : List Char :=
  t.lexemes.flatMap Lexeme.text

/-- The start of a line, two blanks deeper for each level. -/
def newline (level : Nat) : List Char :=
  '\n' :: List.replicate (2 * level) ' '

mutual

/-- The text of a tree with one item or member to a line, as part of a text at the given level.
What is empty stays on its line. -/
def pretty (level : Nat) : Tree → List Char
  | .array [] => ['[', ']']
  | .array (t :: rest) =>
    '[' :: newline (level + 1) ++ t.pretty (level + 1) ++ prettyItems level rest
  | .object [] => ['\x7b', '\x7d']
  | .object ((k, t) :: rest) =>
    '\x7b' :: newline (level + 1) ++ (Lexeme.string k).text ++ [':', ' ']
      ++ t.pretty (level + 1) ++ prettyMembers level rest
  | .null => Lexeme.null.text
  | .bool b => (Lexeme.bool b).text
  | .number n => (Lexeme.number n).text
  | .string s => (Lexeme.string s).text

/-- The further items of an array at the given level, and its end. -/
def prettyItems (level : Nat) : List Tree → List Char
  | [] => newline level ++ [']']
  | t :: rest => ',' :: newline (level + 1) ++ t.pretty (level + 1) ++ prettyItems level rest

/-- The further members of an object at the given level, and its end. -/
def prettyMembers (level : Nat) : List (Option String × Tree) → List Char
  | [] => newline level ++ ['\x7d']
  | (k, t) :: rest =>
    ',' :: newline (level + 1) ++ (Lexeme.string k).text ++ [':', ' ']
      ++ t.pretty (level + 1) ++ prettyMembers level rest

end

end Tree

end Locus.Json
