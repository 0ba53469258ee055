import Locus.Diagnostic
import Locus.Position

/-!
# Errors of lexers

Why a lexer refuses a rule or stops, with the sentence that says so and the details for a report.
-/

namespace Locus

/-- An error of a lexer. -/
inductive LexError where
  /-- The pattern of a rule makes no sense. -/
  | invalidPattern (kind : String)
  /-- No rule has the kind that was asked for. -/
  | unknownKind (kind : String)
  /-- No rule matches at a position, where `length` bytes at byte `offset` of the source called
  `source` are the next character. -/
  | unmatched (position : Position) (source : String) (offset length : Nat)
deriving DecidableEq

namespace LexError

/-- The sentence that reports the error. -/
def message : LexError → String
  | .invalidPattern kind => "invalid pattern for `" ++ kind ++ "`"
  | .unknownKind kind => "no handler is registered for `" ++ kind ++ "`"
  | .unmatched position _ _ _ => "SyntaxError: unmatched input at " ++ position.display

/-- The messages of the error and of what lies behind it, outermost first. What is wrong with a
pattern has no wording of its own, only a phrase that stands for it. -/
def chain (e : LexError) : List String :=
  e.message ::
    match e with
    | .invalidPattern _ => ["<regex error>"]
    | _ => []

/-- The details of the error. -/
def diagnostic : LexError → Diagnostic
  | .invalidPattern _ => ⟨some "lexloc::invalid_pattern", none, none⟩
  | .unknownKind _ =>
    ⟨some "lexloc::unknown_kind", some "register one with `Lexer::capture` first", none⟩
  | .unmatched _ _ offset length =>
    ⟨some "lexloc::unmatched_input", none, some [("no handler matches here", offset, length)]⟩

end LexError

end Locus
