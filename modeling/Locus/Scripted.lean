import Locus.Host

/-!
# Scripted hosts

A host that plays back what it is told: a list of moves of its cursor, tokens and failures. It can
also hold a batch of tokens that it gives only when it is asked for all of them.
-/

namespace Locus

/-- What comes of an item of a script. -/
inductive Scripted.Outcome (τ : Type) where
  | fail (text : String)
  | give (t : τ)
  | nothing

/-- An item of a script. -/
structure Scripted.Item (τ : Type) where
  /-- The kind of token that it answers to. -/
  kind : String
  /-- Where the cursor goes first, if it moves. -/
  move : Option Position
  outcome : Scripted.Outcome τ

/-- The error that a script tells the host to fail with. -/
inductive ScriptError where
  | scripted (text : String)
deriving DecidableEq

/-- A host that plays back a script. -/
structure Scripted (ι τ : Type) where
  kind : HostKind
  cursor : Position
  source : Option String
  emitter : Option (Emitter ι)
  script : List (Scripted.Item τ)
  /-- Tokens that are given all at once. -/
  batch : Option (List τ)

namespace Scripted

variable {ι τ : Type}

/-- Plays the first item of the script. -/
def play (h : Scripted ι τ) : Reply (Scripted ι τ) ι τ (Except ScriptError (Option τ)) :=
  match h.script with
  | [] => ⟨.ok none, h, []⟩
  | item :: script =>
    let after := { h with script, cursor := item.move.getD h.cursor }
    match item.outcome with
    | .fail text => ⟨.error (.scripted text), after, []⟩
    | .give t => ⟨.ok (some t), after, []⟩
    | .nothing => ⟨.ok none, after, []⟩

/-- Plays the first item of the script if it answers to the kind. -/
def playKind (kind : String) (h : Scripted ι τ) :
    Reply (Scripted ι τ) ι τ (Except ScriptError (Option τ)) :=
  match h.script with
  | [] => ⟨.ok none, h, []⟩
  | item :: _ => if item.kind = kind then h.play else ⟨.ok none, h, []⟩

/-- Scripted hosts as hosts. -/
def host : TokenHost (Scripted ι τ) ι τ ScriptError where
  name := "scripted"
  kind := Scripted.kind
  cursor := Scripted.cursor
  source := Scripted.source
  emitter := Scripted.emitter
  lex := playKind
  advance := play

/-- A script comes to an end. -/
def finite : (host (ι := ι) (τ := τ)).Finite where
  left h := h.script.length
  left_advance_lt h t ht := by
    simp only [host, play] at ht ⊢
    split at ht
    · cases ht
    · next item script hs =>
      simp only [hs] at ht ⊢
      split at ht <;> simp_all

/-- Gives the batch, if there is one, and otherwise plays the script until nothing comes of it. -/
def tokenize (h : Scripted ι τ) : Reply (Scripted ι τ) ι τ (Except ScriptError (List τ)) :=
  match h.batch with
  | some ts => ⟨.ok ts, { h with batch := none }, []⟩
  | none => host.drain finite h

/-- Scripted hosts as hosts that give a batch all at once. -/
def tokenizer : Tokenizer (Scripted ι τ) ι τ ScriptError :=
  { host with finite, tokenize }

end Scripted

end Locus
