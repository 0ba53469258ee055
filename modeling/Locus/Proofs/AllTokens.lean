import Locus.Proofs.Located
import Locus.Proofs.Lockstep
import Locus.Scripted
import Locus.Token

/-!
# All tokens of a located host

A located host gives all its tokens by locating one after another. It does not ask the host itself
for all of them at once, so where that has a way of its own to do so the two can differ. Main
statements: a located host gives what comes of the single calls of the host, which is what the host
gives if it has no such way; and a host that holds all its tokens back until it is asked for all of
them loses them when it is located.
-/

namespace Locus.Plugin

variable {σ ι τ ε : Type} [Locate τ]

/-- The host gives the token `t` on some call, and `t'` is `t` with the location from where the
host was before that call to where it was after it, or as it is if it refuses that. -/
def Locates (p : Plugin) (h : TokenHost σ ι τ ε) (t t' : τ) : Prop :=
  ∃ s, (h.advance s).outcome = .ok (some t) ∧
    t' = stamp p.property
      ⟨h.source (h.advance s).state, h.cursor s, h.cursor (h.advance s).state⟩ t

/-- A located call for the next token is in step with the call itself. -/
theorem corresponds_advance_locate (p : Plugin) (h : TokenHost σ ι τ ε) (s : σ) :
    Corresponds Eq (Option.Rel (p.Locates h)) (h.advance s).outcome
        ((p.locate h).advance s).outcome ∧
      ((p.locate h).advance s).state = (h.advance s).state := by
  refine ⟨?_, locateReply_state p h.toHost s _⟩
  have hlocate : ((p.locate h).advance s).outcome = _ :=
    outcome_locateReply p h.toHost s (h.advance s)
  rw [hlocate]
  rcases hout : (h.advance s).outcome with e | _ | t
  · exact .error rfl
  · exact .ok .none
  · exact .ok (.some ⟨s, hout, rfl⟩)

/-- A located host gives the tokens that come of the single calls of the host, located. -/
theorem corresponds_tokenize_install (p : Plugin) (h : Tokenizer σ ι τ ε) (s : σ) :
    Corresponds Eq (List.Forall₂ (p.Locates h.toTokenHost)) (h.drain h.finite s).outcome
        ((p.install h).tokenize s).outcome ∧
      ((p.install h).tokenize s).state = (h.drain h.finite s).state :=
  TokenHost.drain_corresponds (R := fun s s' => s' = s)
    (fun s _ hs => hs ▸ corresponds_advance_locate p h.toTokenHost s) s s rfl

/-- **A located host gives the tokens of the host.** Where a host that is asked for all its tokens
gives what comes of its single calls, it fails once it is located with the same errors as before,
and otherwise gives as many tokens, each of them the token of the host with a location that begins
where the call for it found the host and ends where it left it. -/
theorem tokenize_install_locates (p : Plugin) (h : Tokenizer σ ι τ ε) (s : σ)
    (hown : (h.tokenize s).outcome = (h.drain h.finite s).outcome) :
    let own := (h.tokenize s).outcome
    let located := ((p.install h).tokenize s).outcome
    (∀ e, located = .error e ↔ own = .error e) ∧
      ∀ ts, own = .ok ts →
        ∃ ts', located = .ok ts' ∧ List.Forall₂ (p.Locates h.toTokenHost) ts ts' := by
  intro own located
  have hall := (corresponds_tokenize_install p h s).1
  rw [← hown] at hall
  refine ⟨hall.error_iff, fun ts hts => ?_⟩
  have hts' : (h.tokenize s).outcome = .ok ts := hts
  rw [hts'] at hall
  exact hall.exists_of_ok

/-- A script of two tokens, one that takes its location and one that has no place for it. -/
theorem tokenize_install_locates_script :
    let script : List (Scripted.Item Json.Value) :=
      [⟨"", some ⟨2, 1, 2⟩, .give (.object [])⟩, ⟨"", none, .give .null⟩]
    let s : Scripted Unit Json.Value :=
      ⟨.tokenizer, Position.start, some "a", none, script, none⟩
    (Scripted.tokenizer.tokenize s).outcome = .ok [.object [], .null] ∧
      ∃ ts, ((Plugin.standard.install Scripted.tokenizer).tokenize s).outcome = .ok ts ∧
        List.Forall₂ (Plugin.standard.Locates (Scripted.host : TokenHost _ Unit _ _))
          [.object [], .null] ts := by
  intro script s
  have hdrain : Scripted.tokenizer.tokenize s = Scripted.host.drain Scripted.finite s := rfl
  have hown : (Scripted.tokenizer.tokenize s).outcome = .ok [.object [], .null] := by
    rw [hdrain, TokenHost.drain_of_some (t := .object []) rfl,
      TokenHost.drain_of_some (t := .null) rfl, TokenHost.drain_of_none rfl]
    rfl
  obtain ⟨-, hok⟩ := tokenize_install_locates .standard Scripted.tokenizer s (by rw [hdrain]; rfl)
  exact ⟨hown, hok _ hown⟩

/-- A host that holds a token back until it is asked for all of them gives it then, but it gives
none once it is located. -/
theorem tokenize_install_of_batch :
    let t := Token.ofKind "batch" "all"
    let s : Scripted Unit Token := ⟨.tokenizer, Position.start, none, none, [], some [t]⟩
    (Scripted.tokenizer.tokenize s).outcome = .ok [t] ∧
      ((Plugin.standard.install Scripted.tokenizer).tokenize s).outcome = .ok [] := by
  intro t s
  have hnone : ((Plugin.standard.locate Scripted.host).advance s).outcome = .ok none := rfl
  exact ⟨rfl, congrArg Reply.outcome (TokenHost.drain_of_none hnone)⟩

end Locus.Plugin
