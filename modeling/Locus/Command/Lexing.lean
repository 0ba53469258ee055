import Locus.Command.Config
import Locus.Lexer.Basic
import Locus.Plugin
import Locus.Text.Quoted

/-!
# Lexing one file

The tokens of a text, located under the property and with the rules that the configuration gives,
and the lines that show them.
-/

namespace Locus.Command

/-- The rules that a run uses. -/
def Config.usedRules (c : Config) : List Rule :=
  if c.rules = [] then Rule.standard else c.rules

/-- How the lexer of a file is set up. -/
def Config.lexerOptions (c : Config) (path : String) : LexerOptions :=
  { LexerOptions.standard with source := some (c.source.getD path) }

/-- The lexer of a file before any rules. Nobody listens to it. -/
def Config.bareLexer (c : Config) (path text : String) : Lexer Empty :=
  .ofInput text (c.lexerOptions path)

/-- The lexer of a file with its rules, registered up to the first whose pattern makes no sense. -/
def Config.lexer (c : Config) (path text : String) : Except LexError Unit × Lexer Empty :=
  (c.bareLexer path text).captureAll (c.usedRules.map fun rule => (rule.name, rule.pattern))

/-- The host that locates the tokens of a file. -/
def Config.host (c : Config) : Tokenizer (Lexer Empty) Empty Token LexError :=
  (Plugin.mk c.property).install Lexer.tokenizer

/-- The located tokens of a file. -/
def Config.lexFile (c : Config) (path text : String) : Except LexError (List Token) :=
  match c.lexer path text with
  | (.ok (), l) => (c.host.tokenize l).outcome
  | (.error e, _) => .error e

/-- The line that shows a token with its location under a property, if it has one. -/
def line? (property : String) (t : Token) : Option String :=
  (t.location? property).map fun l =>
    l.display ++ "\t" ++ t.kind ++ "\t" ++ Quoted.quoteString t.value

/-- The lines that show tokens. -/
def lines (property : String) (tokens : List Token) : List String :=
  tokens.filterMap (line? property)

end Locus.Command
