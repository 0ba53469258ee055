import Locus.Cursor
import Locus.Emitter

/-!
# Hosts

What locations are computed against: anything with a cursor that can be read, and, if it gives
tokens, the calls that ask for them. A host is a collection of functions over a type of states, so
that it can be wrapped without knowing what it is. What listeners hear during a call is part of
the reply to it.
-/

namespace Locus

/-- What kind of host something declares itself to be. -/
inductive HostKind where
  | lexer
  | tokenizer
  | other
deriving DecidableEq

/-- The word for a kind of host. -/
def HostKind.display : HostKind → String
  | .lexer => "lexer"
  | .tokenizer => "tokenizer"
  | .other => "other"

/-- Whether the tokens of such a host can be located as it gives them. -/
def HostKind.acceptsPlugin : HostKind → Bool
  | .lexer => true
  | .tokenizer => true
  | .other => false

/-- Something with a cursor, over states `σ`, with listeners `ι`. -/
structure Host (σ ι : Type) where
  /-- What it is called where it is refused. -/
  name : String
  kind : σ → HostKind
  /-- Where the cursor is. -/
  cursor : σ → Position
  /-- The label of the source. -/
  source : σ → Option String
  /-- Where events go; a host without an emitter has none. -/
  emitter : σ → Option (Emitter ι)

/-- A host of a fixed kind that is nothing but its cursor. -/
def Host.bare {ι : Type} (kind : HostKind) : Host Position ι where
  name := "bare"
  kind _ := kind
  cursor p := p
  source _ := none
  emitter _ := none

/-- A cursor is a host, but it gives no tokens, so plugins refuse it. -/
def Cursor.host {ι : Type} : Host Cursor ι where
  name := "lexloc::lexer::code_iter::CodeIter"
  kind _ := .other
  cursor := Cursor.position
  source := Cursor.label
  emitter _ := none

/-- The reply to a call: what comes of it, the state of the host afterwards, and who heard which
token meanwhile, in order. -/
structure Reply (σ ι τ α : Type) where
  outcome : α
  state : σ
  heard : List (ι × τ)

/-- A host that gives tokens `τ` one at a time and fails with errors `ε`. -/
structure TokenHost (σ ι τ ε : Type) extends Host σ ι where
  /-- Asks for a token of one kind at the cursor. -/
  lex : String → σ → Reply σ ι τ (Except ε (Option τ))
  /-- Asks for the next token of whichever kind. -/
  advance : σ → Reply σ ι τ (Except ε (Option τ))

variable {σ ι τ ε : Type}

/-- The tokens of a host come to an end: some number falls with every token. -/
structure TokenHost.Finite (h : TokenHost σ ι τ ε) where
  /-- A bound on the number of tokens still to come. -/
  left : σ → Nat
  left_advance_lt : ∀ s t, (h.advance s).outcome = .ok (some t) → left (h.advance s).state < left s

/-- Asks for tokens until there are none. If a call fails, the tokens before it are lost, but not
what was heard of them. -/
def TokenHost.drain (h : TokenHost σ ι τ ε) (fin : h.Finite) (s : σ) :
    Reply σ ι τ (Except ε (List τ)) :=
  match _h : (h.advance s).outcome with
  | .error e => ⟨.error e, (h.advance s).state, (h.advance s).heard⟩
  | .ok none => ⟨.ok [], (h.advance s).state, (h.advance s).heard⟩
  | .ok (some t) =>
    let rest := drain h fin (h.advance s).state
    ⟨rest.outcome.map (t :: ·), rest.state, (h.advance s).heard ++ rest.heard⟩
termination_by fin.left s
decreasing_by exact fin.left_advance_lt s t _h

/-- A host that can also be asked for all its tokens at once, in whatever way it does that. -/
structure Tokenizer (σ ι τ ε : Type) extends TokenHost σ ι τ ε where
  finite : toTokenHost.Finite
  tokenize : σ → Reply σ ι τ (Except ε (List τ))

/-- The host that gives all tokens by giving them one by one. -/
def TokenHost.tokenizer (h : TokenHost σ ι τ ε) (fin : h.Finite) : Tokenizer σ ι τ ε :=
  { h with finite := fin, tokenize := h.drain fin }

end Locus
