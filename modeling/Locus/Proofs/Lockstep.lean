import Mathlib.Data.List.Forall2
import Locus.Proofs.Requests

/-!
# Hosts in lockstep

Two hosts whose single calls correspond, asked the same things one after another. Main statement: if
calls that find corresponding states are answered alike and leave corresponding states, then so it
is with all tokens at once, and with any sequence of requests.
-/

namespace Locus

variable {σ σ' ι τ τ' ε ε' : Type}

/-- Two results correspond: both are errors that do, or both are values that do. -/
inductive Corresponds {α α' : Type} (E : ε → ε' → Prop) (A : α → α' → Prop) :
    Except ε α → Except ε' α' → Prop where
  | error {e : ε} {e' : ε'} (h : E e e') : Corresponds E A (.error e) (.error e')
  | ok {a : α} {a' : α'} (h : A a a') : Corresponds E A (.ok a) (.ok a')

namespace Corresponds

variable {α α' : Type} {E : ε → ε' → Prop} {A : α → α' → Prop} {r : Except ε α}
  {r' : Except ε' α'}

theorem map {β β' : Type} {B : β → β' → Prop} (h : Corresponds E A r r') {f : α → β} {f' : α' → β'}
    (hf : ∀ a a', A a a' → B (f a) (f' a')) : Corresponds E B (r.map f) (r'.map f') := by
  cases h with
  | error h => exact .error h
  | ok h => exact .ok (hf _ _ h)

/-- A result corresponds to itself. -/
theorem of_refl {A : α → α → Prop} (hA : ∀ a, A a a) (r : Except ε α) : Corresponds Eq A r r := by
  cases r with
  | error e => exact .error rfl
  | ok a => exact .ok (hA a)

theorem eq {A : α → α → Prop} {r r' : Except ε α} (h : Corresponds Eq A r r')
    (hA : ∀ a a', A a a' → a' = a) : r' = r := by
  cases h with
  | error h => rw [h]
  | ok h => rw [hA _ _ h]

theorem exists_of_error {e : ε} (h : Corresponds E A (.error e) r') :
    ∃ e', r' = .error e' ∧ E e e' := by
  cases h with
  | error h => exact ⟨_, rfl, h⟩

theorem exists_of_ok {a : α} (h : Corresponds E A (.ok a) r') : ∃ a', r' = .ok a' ∧ A a a' := by
  cases h with
  | ok h => exact ⟨_, rfl, h⟩

/-- Results whose errors do not differ fail together. -/
theorem error_iff {r' : Except ε α'} (h : Corresponds Eq A r r') (e : ε) :
    r' = .error e ↔ r = .error e := by
  cases h with
  | error h =>
    rw [h, Except.error.injEq, Except.error.injEq]
  | ok h => constructor <;> intro he <;> cases he

end Corresponds

/-- Two answers correspond: both are about one token or both about all. -/
inductive Answer.Corresponds (E : ε → ε' → Prop) (T : τ → τ' → Prop) :
    Answer τ ε → Answer τ' ε' → Prop where
  | one {r : Except ε (Option τ)} {r' : Except ε' (Option τ')}
      (h : Locus.Corresponds E (Option.Rel T) r r') : Corresponds E T (.one r) (.one r')
  | all {r : Except ε (List τ)} {r' : Except ε' (List τ')}
      (h : Locus.Corresponds E (List.Forall₂ T) r r') : Corresponds E T (.all r) (.all r')

/-- Answers that do not differ in anything are the same. -/
theorem Answer.Corresponds.eq {a a' : Answer τ ε} (h : Answer.Corresponds Eq Eq a a') : a' = a := by
  cases h with
  | one h =>
    have htokens : ∀ t t' : Option τ, Option.Rel Eq t t' → t' = t := by
      intro t t' ht
      cases ht with
      | some h => rw [h]
      | none => rfl
    rw [h.eq htokens]
  | all h =>
    rw [h.eq fun ts ts' hts => (List.forall₂_eq_eq_eq ▸ hts : ts = ts').symm]

/-- Two exchanges correspond: the same is asked, the answers correspond, and so do the states that
the requests leave. -/
structure Exchange.Corresponds (R : σ → σ' → Prop) (E : ε → ε' → Prop) (T : τ → τ' → Prop)
    (x : Exchange σ ι τ ε) (y : Exchange σ' ι τ' ε') : Prop where
  request_eq : y.request = x.request
  answers : Answer.Corresponds E T x.reply.outcome y.reply.outcome
  left : R x.reply.state y.reply.state

/-- Calls that find corresponding states are answered alike and leave corresponding states. -/
def TokenHost.InStep (R : σ → σ' → Prop) (E : ε → ε' → Prop) (T : τ → τ' → Prop)
    (h : TokenHost σ ι τ ε) (h' : TokenHost σ' ι τ' ε') : Prop :=
  ∀ c s s', R s s' →
    Corresponds E (Option.Rel T) (h.call c s).outcome (h'.call c s').outcome ∧
      R (h.call c s).state (h'.call c s').state

variable {R : σ → σ' → Prop} {E : ε → ε' → Prop} {T : τ → τ' → Prop}

namespace TokenHost

variable {h : TokenHost σ ι τ ε} {h' : TokenHost σ' ι τ' ε'} {fin : h.Finite} {fin' : h'.Finite}

/-- Where calls for the next token are in step, so are all tokens at once, by induction on the calls
of the first host. -/
theorem drain_corresponds
    (hadvance : ∀ s s', R s s' →
      Corresponds E (Option.Rel T) (h.advance s).outcome (h'.advance s').outcome ∧
        R (h.advance s).state (h'.advance s').state) (s : σ) :
    ∀ s', R s s' →
      Corresponds E (List.Forall₂ T) (h.drain fin s).outcome (h'.drain fin' s').outcome ∧
        R (h.drain fin s).state (h'.drain fin' s').state := by
  fun_induction TokenHost.drain h fin s with
  | case1 s e he =>
    intro s' hs
    obtain ⟨hout, hleft⟩ := hadvance _ _ hs
    rw [he] at hout
    obtain ⟨e', he', herror⟩ := hout.exists_of_error
    rw [drain_of_error he']
    exact ⟨.error herror, hleft⟩
  | case2 s hnone =>
    intro s' hs
    obtain ⟨hout, hleft⟩ := hadvance _ _ hs
    rw [hnone] at hout
    obtain ⟨_ | t', hnone', htoken⟩ := hout.exists_of_ok
    · rw [drain_of_none hnone']
      exact ⟨.ok .nil, hleft⟩
    · cases htoken
  | case3 s t ht rest ih =>
    intro s' hs
    obtain ⟨hout, hleft⟩ := hadvance _ _ hs
    rw [ht] at hout
    obtain ⟨_ | t', ht', htoken⟩ := hout.exists_of_ok
    · cases htoken
    · cases htoken with
      | some htoken =>
        obtain ⟨hrest, hend⟩ := ih _ hleft
        rw [drain_of_some ht']
        exact ⟨hrest.map fun _ _ htokens => .cons htoken htokens, hend⟩

/-- One request to hosts in step. -/
theorem InStep.answer (hstep : InStep R E T h h') (q : Request) {s : σ} {s' : σ'} (hs : R s s') :
    Exchange.Corresponds R E T ⟨q, s, (h.tokenizer fin).answer q s⟩
      ⟨q, s', (h'.tokenizer fin').answer q s'⟩ := by
  cases q with
  | call c =>
    obtain ⟨hout, hleft⟩ := hstep c s s' hs
    exact ⟨rfl, .one hout, hleft⟩
  | tokenize =>
    obtain ⟨hout, hleft⟩ := drain_corresponds (hstep .advance) s s' hs
    exact ⟨rfl, .all hout, hleft⟩

/-- Any requests to hosts in step, by induction on them. -/
theorem InStep.serve (hstep : InStep R E T h h') (requests : List Request) {s : σ} {s' : σ'}
    (hs : R s s') :
    List.Forall₂ (Exchange.Corresponds R E T) ((h.tokenizer fin).serve requests s)
      ((h'.tokenizer fin').serve requests s') := by
  induction requests generalizing s s' with
  | nil => exact .nil
  | cons q requests ih =>
    have hone : Exchange.Corresponds R E T ⟨q, s, (h.tokenizer fin).answer q s⟩
        ⟨q, s', (h'.tokenizer fin').answer q s'⟩ := hstep.answer q hs
    exact .cons hone (ih hone.left)

end TokenHost

end Locus
