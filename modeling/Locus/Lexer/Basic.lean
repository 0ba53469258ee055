import Locus.Cursor
import Locus.Host
import Locus.Lexer.Error
import Locus.Regex.Pattern
import Locus.Token

/-!
# Lexers

A lexer holds rules, each a kind of token and a pattern, and a cursor. Rules are tried in the order
in which their kinds were registered, each at the cursor only, and a match must not be empty.
Main statement: every token takes at least one character from the text, so tokens come to an end.
-/

namespace Locus

/-- How a lexer is set up. -/
structure LexerOptions where
  /-- The label of the source. -/
  source : Option String
  /-- Whether listeners hear of locations. -/
  emitEvents : Bool
deriving DecidableEq

/-- No label, and listeners hear of locations. -/
def LexerOptions.standard : LexerOptions := ⟨none, true⟩

/-- A rule: text that matches the pattern is a token of the kind. -/
structure Handler where
  kind : String
  pattern : Regex
deriving DecidableEq

/-- A lexer with listeners `ι`. -/
structure Lexer (ι : Type) where
  cursor : Cursor
  options : LexerOptions
  /-- The rules in the order in which their kinds were registered, one for each kind. -/
  handlers : List Handler
  events : Emitter ι

namespace Lexer

variable {ι : Type}

/-- A lexer without rules, at the start of a text. -/
def ofInput (input : String) (options : LexerOptions) : Lexer ι :=
  ⟨Cursor.ofString input options.source, options, [], .empty⟩

/-- The text that is read. -/
def input (l : Lexer ι) : String := String.ofList l.cursor.input

/-- Goes to the start of another text. Rules and listeners stay. -/
def setInput (l : Lexer ι) (input : String) : Lexer ι :=
  { l with cursor := Cursor.ofString input l.options.source }

/-- Registers a listener. It hears nothing if the options say so. -/
def on (l : Lexer ι) (event : String) (id : ι) : Lexer ι :=
  { l with events := l.events.on event id }

/-- The kinds of tokens, in the order of their registration. -/
def kinds (l : Lexer ι) : List String := l.handlers.map Handler.kind

/-! ## Rules -/

/-- Puts a rule in the place of the one of its kind, or at the end if there is none. -/
def putHandler (h : Handler) : List Handler → List Handler
  | [] => [h]
  | g :: rest => if g.kind = h.kind then h :: rest else g :: putHandler h rest

/-- Registers a rule. -/
def capture (l : Lexer ι) (kind pattern : String) : Except LexError (Lexer ι) :=
  match Regex.compile? pattern.toList with
  | some r => .ok { l with handlers := putHandler ⟨kind, r⟩ l.handlers }
  | none => .error (.invalidPattern kind)

/-- Registers rules in order, up to the first that makes no sense; those before it stay. -/
def captureAll (l : Lexer ι) : List (String × String) → Except LexError Unit × Lexer ι
  | [] => (.ok (), l)
  | (kind, pattern) :: rest =>
    match l.capture kind pattern with
    | .ok l => captureAll l rest
    | .error e => (.error e, l)

/-! ## Tokens -/

/-- The length of the match of a rule at the cursor, if there is one that is not empty. -/
def matchLength? (l : Lexer ι) (h : Handler) : Option Nat :=
  match h.pattern.matchLength? l.cursor.rest with
  | some (n + 1) => some (n + 1)
  | _ => none

/-- The token of `n` characters at the cursor, and the lexer after it. The cursor moves by the
bytes of the match. -/
def takeToken (l : Lexer ι) (kind : String) (n : Nat) : Token × Lexer ι :=
  let value := l.cursor.take n
  (Token.ofKind kind (String.ofList value),
    { l with cursor := l.cursor.skipBytes (Utf8.size value) })

/-- Tries one rule at the cursor. -/
def tryHandler (l : Lexer ι) (h : Handler) : Option (Token × Lexer ι) :=
  (l.matchLength? h).map fun n => l.takeToken h.kind n

/-- The error at a place where no rule matches. -/
def unmatched (l : Lexer ι) : LexError :=
  .unmatched l.cursor.position (l.options.source.getD "input") l.cursor.offset
    ((l.cursor.peek?.map Char.utf8Size).getD 0)

/-- Asks for a token of one kind at the cursor. -/
def lex (l : Lexer ι) (kind : String) : Except LexError (Option Token) × Lexer ι :=
  match l.handlers.find? fun h => h.kind = kind with
  | none => (.error (.unknownKind kind), l)
  | some h =>
    match l.tryHandler h with
    | some (t, l) => (.ok (some t), l)
    | none => (.ok none, l)

/-- Asks for the token of the first rule that matches at the cursor. -/
def advance (l : Lexer ι) : Except LexError (Option Token) × Lexer ι :=
  if l.cursor.isAtEnd then (.ok none, l)
  else
    match l.handlers.findSome? l.tryHandler with
    | some (t, l) => (.ok (some t), l)
    | none => (.error l.unmatched, l)

/-! ## Lexers as hosts -/

/-- The reply to a call that listeners do not hear of. -/
def reply {α : Type} (r : α × Lexer ι) : Reply (Lexer ι) ι Token α := ⟨r.1, r.2, []⟩

/-- Lexers as hosts. -/
def host : TokenHost (Lexer ι) ι Token LexError where
  name := "lexer"
  kind _ := .lexer
  cursor l := l.cursor.position
  source l := l.options.source
  emitter l := if l.options.emitEvents then some l.events else none
  lex kind l := reply (l.lex kind)
  advance l := reply l.advance

end Lexer

/-! ## Tokens come to an end -/

namespace Lexer

variable {ι : Type}

/-- The bytes of a match take the cursor over exactly the characters of the match. -/
theorem cursor_takeToken (l : Lexer ι) (kind : String) (n : Nat) :
    (l.takeToken kind n).2.cursor = Cursor.skip (l.cursor.take n).length l.cursor :=
  Cursor.skipBytes_size (List.take_append_drop n l.cursor.rest).symm

theorem rest_takeToken (l : Lexer ι) (kind : String) (n : Nat) :
    (l.takeToken kind n).2.cursor.rest = l.cursor.rest.drop n := by
  rw [cursor_takeToken, Cursor.rest_skip, Cursor.take, List.length_take]
  rcases Nat.le_total n l.cursor.rest.length with hn | hn
  · rw [Nat.min_eq_left hn]
  · rw [Nat.min_eq_right hn, List.drop_length, List.drop_eq_nil_of_le hn]

/-- A token takes something from what is left of the text, unless nothing is left. -/
theorem length_rest_of_tryHandler {l : Lexer ι} {h : Handler} {t : Token} {l' : Lexer ι}
    (hne : l.cursor.rest ≠ []) (ht : l.tryHandler h = some (t, l')) :
    l'.cursor.rest.length < l.cursor.rest.length := by
  obtain ⟨n, hn, heq⟩ := Option.map_eq_some_iff.1 ht
  have hpos : 0 < n := by
    rw [matchLength?] at hn
    split at hn
    · cases hn
      omega
    · cases hn
  have hl' : l' = (l.takeToken h.kind n).2 := by rw [heq]
  have hlen : 0 < l.cursor.rest.length := List.length_pos_iff.2 hne
  rw [hl', rest_takeToken, List.length_drop]
  omega

/-- Every token that `advance` gives takes something from what is left of the text. -/
theorem length_rest_of_advance {l : Lexer ι} {t : Token}
    (ht : l.advance.1 = .ok (some t)) :
    l.advance.2.cursor.rest.length < l.cursor.rest.length := by
  rw [advance] at ht ⊢
  split at ht
  · cases ht
  · next hend =>
    have hne : l.cursor.rest ≠ [] := by simpa [Cursor.isAtEnd] using hend
    rw [if_neg hend]
    split at ht
    · next t' l' hfound =>
      obtain ⟨h, _, hh⟩ := List.exists_of_findSome?_eq_some hfound
      exact length_rest_of_tryHandler hne hh
    · cases ht

/-- The tokens of a lexer come to an end. -/
def finite : (host (ι := ι)).Finite where
  left l := l.cursor.rest.length
  left_advance_lt _ _ ht := length_rest_of_advance ht

/-- Lexers as hosts that give all tokens one by one. -/
def tokenizer : Tokenizer (Lexer ι) ι Token LexError := host.tokenizer finite

end Lexer

end Locus
