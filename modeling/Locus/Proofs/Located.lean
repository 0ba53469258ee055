import Mathlib.Data.List.Forall2
import Locus.Plugin
import Locus.Proofs.Calls

/-!
# Located hosts

What a plugin changes about a host, for hosts of any kind: cursors may move backwards, labels may
change, and calls may give nothing or fail. Main statement: a located host goes through the states
of the host itself, and its replies are those of the host but for the location of the token.
-/

namespace Locus.Plugin

variable {σ ι τ ε : Type} [Locate τ]

/-- How a located call relates to the call itself. Both are given with the state that they found. -/
structure Decorates (p : Plugin) (h : Host σ ι)
    (bare located : σ × Reply σ ι τ (Except ε (Option τ))) : Prop where
  /-- Both found the same state. -/
  found : located.1 = bare.1
  /-- Both leave the same state. -/
  left : located.2.state = bare.2.state
  error_iff : ∀ e, located.2.outcome = .error e ↔ bare.2.outcome = .error e
  none_iff : located.2.outcome = .ok none ↔ bare.2.outcome = .ok none
  /-- A token that takes the location has it from where the cursor was to where it is, in the source
  as it is called after the call. -/
  attached : ∀ t t', bare.2.outcome = .ok (some t) →
    Locate.attach? p.property
      ⟨h.source bare.2.state, h.cursor bare.1, h.cursor bare.2.state⟩ t = some t' →
    located.2.outcome = .ok (some t')
  /-- A token that refuses the location is given as it is. -/
  refused : ∀ t, bare.2.outcome = .ok (some t) →
    Locate.attach? p.property
      ⟨h.source bare.2.state, h.cursor bare.1, h.cursor bare.2.state⟩ t = none →
    located.2.outcome = .ok (some t)

/-- Firing a capture on a token is stamping it from the place where the capture was armed. -/
theorem locateReply_of_some (p : Plugin) (h : Host σ ι) (s : σ)
    {r : Reply σ ι τ (Except ε (Option τ))} {t : τ} (ht : r.outcome = .ok (some t)) :
    (p.locateReply h s r).outcome =
      .ok (some (stamp p.property ⟨h.source r.state, h.cursor s, h.cursor r.state⟩ t)) := by
  rw [locateReply, ht]
  rfl

/-- Without a token there is nothing to fire a capture on. -/
theorem locateReply_of_no_token (p : Plugin) (h : Host σ ι) (s : σ)
    {r : Reply σ ι τ (Except ε (Option τ))} (hr : ∀ t, r.outcome ≠ .ok (some t)) :
    p.locateReply h s r = r := by
  rw [locateReply]
  split
  · next t ht => exact absurd ht (hr t)
  · rfl

/-- Locating stamps the token, if there is one. -/
theorem outcome_locateReply (p : Plugin) (h : Host σ ι) (s : σ)
    (r : Reply σ ι τ (Except ε (Option τ))) :
    (p.locateReply h s r).outcome =
      r.outcome.map (Option.map
        (stamp p.property ⟨h.source r.state, h.cursor s, h.cursor r.state⟩)) := by
  rcases r with ⟨_ | _ | t, s', heard⟩
  · rfl
  · rfl
  · rfl

/-- The call of a located host is the call of the host, located. -/
theorem call_locate (p : Plugin) (h : TokenHost σ ι τ ε) (c : Call) (s : σ) :
    (p.locate h).call c s = p.locateReply h.toHost s (h.call c s) := by
  cases c <;> rfl

theorem call_locate_state (p : Plugin) (h : TokenHost σ ι τ ε) (c : Call) (s : σ) :
    ((p.locate h).call c s).state = (h.call c s).state := by
  rw [call_locate, locateReply_state]

/-- One located call, whatever the host does on it. -/
theorem decorates_locateReply (p : Plugin) (h : Host σ ι) (s : σ)
    (r : Reply σ ι τ (Except ε (Option τ))) :
    p.Decorates h (s, r) (s, p.locateReply h s r) := by
  by_cases htoken : ∃ t, r.outcome = .ok (some t)
  · obtain ⟨t, ht⟩ := htoken
    have hlocated := locateReply_of_some p h s ht
    refine ⟨rfl, locateReply_state p h s r, fun e => ?_, ?_, fun u u' hu hattach => ?_,
      fun u hu hrefused => ?_⟩
    · rw [hlocated, ht]
      constructor <;> intro he <;> cases he
    · rw [hlocated, ht]
      constructor <;> intro hnone <;> cases hnone
    · cases ht.symm.trans hu
      dsimp only at hattach ⊢
      rw [hlocated, stamp, hattach]
      rfl
    · cases ht.symm.trans hu
      dsimp only at hrefused ⊢
      rw [hlocated, stamp, hrefused]
      rfl
  · -- errors and the end of the tokens are handed on as they are
    have hnone : ∀ t, r.outcome ≠ .ok (some t) := fun t ht => htoken ⟨t, ht⟩
    rw [locateReply_of_no_token p h s hnone]
    refine ⟨rfl, rfl, fun _ => Iff.rfl, Iff.rfl, fun t _ ht _ => ?_, fun _ ht _ => ht⟩
    exact absurd ht (hnone t)

theorem after_locate (p : Plugin) (h : TokenHost σ ι τ ε) (calls : List Call) (s : σ) :
    (p.locate h).after calls s = h.after calls s := by
  induction calls generalizing s with
  | nil => rfl
  | cons c calls ih =>
    rw [TokenHost.after, List.foldl_cons, call_locate_state]
    exact ih _

/-- The replies of a located host, call by call. -/
theorem forall₂_decorates_trace (p : Plugin) (h : TokenHost σ ι τ ε) (calls : List Call) (s : σ) :
    List.Forall₂ (p.Decorates h.toHost) (h.trace calls s) ((p.locate h).trace calls s) := by
  induction calls generalizing s with
  | nil => exact .nil
  | cons c calls ih =>
    rw [TokenHost.trace, TokenHost.trace, call_locate_state, call_locate]
    exact .cons (decorates_locateReply p h.toHost s (h.call c s)) (ih _)

/-- **A located host decorates the host.** Under any sequence of calls it goes through the states of
the host, fails where the host fails, gives nothing where the host gives nothing, and otherwise
gives the token of the host with its location, or as it is if it refuses the location. What it
replies to later calls depends on the earlier ones only through the state of the host. -/
theorem locate_decorates (p : Plugin) (h : TokenHost σ ι τ ε) (calls : List Call) (s : σ) :
    List.Forall₂ (p.Decorates h.toHost) (h.trace calls s) ((p.locate h).trace calls s) ∧
      (p.locate h).after calls s = h.after calls s ∧
      ∀ more, (p.locate h).trace (calls ++ more) s =
        (p.locate h).trace calls s ++ (p.locate h).trace more (h.after calls s) := by
  refine ⟨forall₂_decorates_trace p h calls s, after_locate p h calls s, fun more => ?_⟩
  rw [TokenHost.trace_append, after_locate]

end Locus.Plugin
