import Locus.Capture
import Locus.Diagnostic

/-!
# Plugins

A plugin locates every token that a host gives: it arms a capture before each call and fires it on
the token that comes back. Calls that give no token or fail leave nothing behind. The located host
is a host again, so plugins can be nested.
-/

namespace Locus

/-- A plugin that gives locations under one property. -/
structure Plugin where
  property : String
deriving DecidableEq

/-- Why a plugin cannot be installed. -/
inductive PluginError where
  /-- The host, called `name`, is neither a lexer nor a tokenizer. -/
  | invalidHost (name : String) (kind : HostKind)
deriving DecidableEq

/-- The sentence that reports the error. -/
def PluginError.message : PluginError → String
  | .invalidHost name kind =>
    "expected a lexer or tokenizer instance, got " ++ kind.display ++ " host `" ++ name ++ "`"

/-- The details of the error. -/
def PluginError.diagnostic : PluginError → Diagnostic
  | .invalidHost _ _ =>
    ⟨some "lexloc::invalid_host",
      some "only hosts whose kind is `lexer` or `tokenizer` can be located", none⟩

namespace Plugin

variable {σ ι τ ε : Type}

/-- The plugin under the default property. -/
def standard : Plugin := ⟨defaultProperty⟩

/-- Whether the host in this state takes plugins, and why not. -/
def check (h : Host σ ι) (s : σ) : Except PluginError Unit :=
  if (h.kind s).acceptsPlugin then .ok () else .error (.invalidHost h.name (h.kind s))

/-- The reply to a call on a host, with the token located from where the host was in state `s` to
where it is after the call. -/
def locateReply [Locate τ] (p : Plugin) (h : Host σ ι) (s : σ)
    (r : Reply σ ι τ (Except ε (Option τ))) : Reply σ ι τ (Except ε (Option τ)) :=
  match r.outcome with
  | .ok (some t) =>
    let c := Capture.arm h p.property s
    ⟨.ok (some (c.stamped h r.state t)), r.state, r.heard ++ c.heard h r.state t⟩
  | _ => r

/-- The host with every token located. -/
def locate [Locate τ] (p : Plugin) (h : TokenHost σ ι τ ε) : TokenHost σ ι τ ε :=
  { h with
    lex := fun kind s => p.locateReply h.toHost s (h.lex kind s)
    advance := fun s => p.locateReply h.toHost s (h.advance s) }

/-- Locating changes neither the states that a host goes through nor whether there is a token. -/
theorem locateReply_state [Locate τ] (p : Plugin) (h : Host σ ι) (s : σ)
    (r : Reply σ ι τ (Except ε (Option τ))) : (p.locateReply h s r).state = r.state := by
  unfold locateReply
  split <;> rfl

/-- A located call gives a token only if the call itself does. -/
theorem exists_of_locateReply_eq_some [Locate τ] {p : Plugin} {h : Host σ ι} {s : σ}
    {r : Reply σ ι τ (Except ε (Option τ))} {t : τ}
    (ht : (p.locateReply h s r).outcome = .ok (some t)) : ∃ t', r.outcome = .ok (some t') := by
  unfold locateReply at ht
  split at ht
  · next t' h' => exact ⟨t', h'⟩
  · exact ⟨t, ht⟩

/-- A host whose tokens come to an end still does so when they are located. -/
def finite [Locate τ] (p : Plugin) {h : TokenHost σ ι τ ε} (fin : h.Finite) :
    (p.locate h).Finite where
  left := fin.left
  left_advance_lt s t ht := by
    obtain ⟨t', ht'⟩ := exists_of_locateReply_eq_some ht
    have hstate : ((p.locate h).advance s).state = (h.advance s).state :=
      locateReply_state p h.toHost s (h.advance s)
    rw [hstate]
    exact fin.left_advance_lt s t' ht'

/-- The host with every token located. It gives all its tokens by giving them one by one, in
whatever way the host itself would give them. -/
def install [Locate τ] (p : Plugin) (h : Tokenizer σ ι τ ε) : Tokenizer σ ι τ ε :=
  (p.locate h.toTokenHost).tokenizer (p.finite h.finite)

end Plugin

end Locus
