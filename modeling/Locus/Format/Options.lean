import Locus.Json.Reader
import Locus.Lexer.Basic

/-!
# Options and kinds of hosts in JSON

The options of a lexer are a record whose fields may all be absent. A kind of host is its word, or
an object with that word as its one key and null under it.
-/

namespace Locus

open Json

/-- Options as they are written, both fields always. -/
def LexerOptions.tree (o : LexerOptions) : Tree :=
  .record
    [("source", match o.source with | some label => Tree.ofString label | none => .null),
     ("emitEvents", .bool o.emitEvents)]

/-- Reads options; what is absent is as in the standard ones. -/
def LexerOptions.ofTree? (t : Tree) : Option LexerOptions := do
  match ← t.fields? ["source", "emitEvents"] with
  | [source, emitEvents] =>
    let label ←
      match source with
      | some t => t.optional? Tree.text?
      | none => some LexerOptions.standard.source
    let events ←
      match emitEvents with
      | some t => t.bool?
      | none => some LexerOptions.standard.emitEvents
    some ⟨label, events⟩
  | _ => none

/-- The text of options. -/
def LexerOptions.text (o : LexerOptions) : List Char := o.tree.text

/-- The options that a text spells. -/
def LexerOptions.ofText? (text : List Char) : Option LexerOptions := do
  ofTree? (← Tree.ofText? text)

/-- The kind of host that a word names. -/
def HostKind.ofWord? (word : String) : Option HostKind :=
  [HostKind.lexer, .tokenizer, .other].find? fun kind => kind.display = word

/-- A kind of host as it is written. -/
def HostKind.tree (kind : HostKind) : Tree := Tree.ofString kind.display

/-- Reads a kind of host. -/
def HostKind.ofTree? : Tree → Option HostKind
  | .string (some word) => ofWord? word
  | .object [(some word, .null)] => ofWord? word
  | _ => none

end Locus
