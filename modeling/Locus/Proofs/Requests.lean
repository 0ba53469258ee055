import Locus.Proofs.Calls

/-!
# Requests

A host that can also be asked for all its tokens at once, under a sequence of requests. If asking
for all of them fails, the tokens that came before the failure are lost to the caller, but the host
has given them. Main statement: what a request comes to is told by the single calls that it
consists of.
-/

namespace Locus

variable {σ ι τ ε : Type}

/-- What can be asked of a host: one call for a token, or all tokens that are left. -/
inductive Request where
  | call (c : Call)
  | tokenize
deriving DecidableEq

/-- What a request is answered with. -/
inductive Answer (τ ε : Type) where
  | one (result : Except ε (Option τ))
  | all (result : Except ε (List τ))

/-- The tokens that are handed back. A failure hands back none. -/
def Answer.handedBack : Answer τ ε → List τ
  | .one (.ok t) => t.toList
  | .all (.ok ts) => ts
  | _ => []

/-- A request, the state that it found and the reply to it. -/
structure Exchange (σ ι τ ε : Type) where
  request : Request
  found : σ
  reply : Reply σ ι τ (Answer τ ε)

namespace Tokenizer

/-- The reply to a request. -/
def answer (h : Tokenizer σ ι τ ε) : Request → σ → Reply σ ι τ (Answer τ ε)
  | .call c, s =>
    let r := h.call c s
    ⟨.one r.outcome, r.state, r.heard⟩
  | .tokenize, s =>
    let r := h.tokenize s
    ⟨.all r.outcome, r.state, r.heard⟩

/-- The exchanges that come of a sequence of requests. -/
def serve (h : Tokenizer σ ι τ ε) : List Request → σ → List (Exchange σ ι τ ε)
  | [], _ => []
  | q :: qs, s => ⟨q, s, h.answer q s⟩ :: h.serve qs (h.answer q s).state

theorem reply_eq_of_mem_serve {h : Tokenizer σ ι τ ε} {requests : List Request} {s : σ}
    {x : Exchange σ ι τ ε} (hx : x ∈ h.serve requests s) :
    x.reply = h.answer x.request x.found := by
  induction requests generalizing s with
  | nil => cases hx
  | cons q requests ih =>
    rcases List.mem_cons.1 hx with rfl | hx
    · rfl
    · exact ih hx

end Tokenizer

namespace TokenHost

/-- The tokens that the host gives one after another, up to the first call that gives none. -/
def given (h : TokenHost σ ι τ ε) (fin : h.Finite) (s : σ) : List τ :=
  match _h : (h.advance s).outcome with
  | .ok (some t) => t :: given h fin (h.advance s).state
  | _ => []
termination_by fin.left s
decreasing_by exact fin.left_advance_lt s t _h

/-- The tokens of those calls of an exchange that succeeded: the ones that are handed back, or,
where asking for all tokens failed, the ones that were given before the failure. -/
def made (h : TokenHost σ ι τ ε) (fin : h.Finite) (x : Exchange σ ι τ ε) : List τ :=
  match x.reply.outcome with
  | .all (.error _) => h.given fin x.found
  | a => a.handedBack

variable {h : TokenHost σ ι τ ε} {fin : h.Finite}

theorem given_of_some {s : σ} {t : τ} (ht : (h.advance s).outcome = .ok (some t)) :
    h.given fin s = t :: h.given fin (h.advance s).state := by
  rw [given]
  split
  · next t' ht' =>
    cases ht.symm.trans ht'
    rfl
  · next hne => exact absurd ht (hne t)

theorem given_of_ne_some {s : σ} (hne : ∀ t, (h.advance s).outcome ≠ .ok (some t)) :
    h.given fin s = [] := by
  rw [given]
  split
  · next t ht => exact absurd ht (hne t)
  · rfl

theorem given_of_none {s : σ} (hnone : (h.advance s).outcome = .ok none) : h.given fin s = [] :=
  given_of_ne_some fun t ht => by cases hnone.symm.trans ht

theorem given_of_error {s : σ} {e : ε} (he : (h.advance s).outcome = .error e) :
    h.given fin s = [] :=
  given_of_ne_some fun t ht => by cases he.symm.trans ht

theorem drain_of_some {s : σ} {t : τ} (ht : (h.advance s).outcome = .ok (some t)) :
    h.drain fin s =
      let rest := h.drain fin (h.advance s).state
      ⟨rest.outcome.map (t :: ·), rest.state, (h.advance s).heard ++ rest.heard⟩ := by
  rw [drain]
  split
  · next e he => cases ht.symm.trans he
  · next hnone => cases ht.symm.trans hnone
  · next t' ht' =>
    cases ht.symm.trans ht'
    rfl

theorem drain_of_none {s : σ} (hnone : (h.advance s).outcome = .ok none) :
    h.drain fin s = ⟨.ok [], (h.advance s).state, (h.advance s).heard⟩ := by
  rw [drain]
  split
  · next e he => cases hnone.symm.trans he
  · rfl
  · next t ht => cases hnone.symm.trans ht

theorem drain_of_error {s : σ} {e : ε} (he : (h.advance s).outcome = .error e) :
    h.drain fin s = ⟨.error e, (h.advance s).state, (h.advance s).heard⟩ := by
  rw [drain]
  split
  · next e' he' =>
    cases he.symm.trans he'
    rfl
  · next hnone => cases he.symm.trans hnone
  · next t ht => cases he.symm.trans ht

theorem Gives.given_eq {s s' : σ} {ts : List τ} (g : h.Gives s ts s') :
    h.given fin s = ts ++ h.given fin s' := by
  induction g with
  | nil s => rfl
  | cons ht rest ih => rw [given_of_some ht, ih, List.cons_append]

/-- If asking for all tokens succeeds, the tokens that are handed back are those that are given. -/
theorem given_eq_of_drain {s : σ} {ts : List τ} (hok : (h.drain fin s).outcome = .ok ts) :
    h.given fin s = ts := by
  obtain ⟨us, s', g, -, ⟨hnone, hus⟩ | ⟨e, -, he⟩⟩ := h.drain_cases fin s
  · cases hus.symm.trans hok
    rw [g.given_eq, given_of_none hnone, List.append_nil]
  · cases he.symm.trans hok

/-- If asking for all tokens fails, it is after the last of the tokens that are given. -/
theorem gives_given_of_drain {s : σ} {e : ε} (he : (h.drain fin s).outcome = .error e) :
    ∃ s', h.Gives s (h.given fin s) s' ∧ (h.advance s').outcome = .error e := by
  obtain ⟨ts, s', g, -, ⟨-, hok⟩ | ⟨e', hend, he'⟩⟩ := h.drain_cases fin s
  · cases he.symm.trans hok
  · cases he.symm.trans he'
    refine ⟨s', ?_, hend⟩
    rw [g.given_eq, given_of_error hend, List.append_nil]
    exact g

/-- Where asking for all tokens failed, the tokens of the exchange are those of single calls, up to
the call that fails. -/
theorem gives_made_of_mem_serve {requests : List Request} {s : σ} {x : Exchange σ ι τ ε} {e : ε}
    (hx : x ∈ (h.tokenizer fin).serve requests s) (he : x.reply.outcome = .all (.error e)) :
    ∃ s', h.Gives x.found (h.made fin x) s' ∧ (h.advance s').outcome = .error e := by
  have hmade : h.made fin x = h.given fin x.found := by rw [made, he]
  rw [Tokenizer.reply_eq_of_mem_serve hx] at he
  rcases hq : x.request with c | _
  · -- a single call is not answered in this way
    rw [hq] at he
    cases he
  · rw [hq] at he
    rw [hmade]
    exact gives_given_of_drain (Answer.all.inj he)

end TokenHost

end Locus
