import Locus.Host

/-!
# Calls

A host under a sequence of calls for tokens, each of which finds the host as the call before it
left it. Main statement: asking a host for all its tokens is asking for one after another, up to the
first call that gives none.
-/

namespace Locus

/-- A call for a token: of one kind, or of whichever kind. -/
inductive Call where
  | lex (kind : String)
  | advance
deriving DecidableEq

namespace TokenHost

variable {σ ι τ ε : Type}

/-- The reply to a call. -/
def call (h : TokenHost σ ι τ ε) : Call → σ → Reply σ ι τ (Except ε (Option τ))
  | .lex kind, s => h.lex kind s
  | .advance, s => h.advance s

/-- The state after calls. -/
def after (h : TokenHost σ ι τ ε) (calls : List Call) (s : σ) : σ :=
  calls.foldl (fun s c => (h.call c s).state) s

/-- The replies to calls, each with the state that the call found. -/
def trace (h : TokenHost σ ι τ ε) :
    List Call → σ → List (σ × Reply σ ι τ (Except ε (Option τ)))
  | [], _ => []
  | c :: calls, s => (s, h.call c s) :: h.trace calls (h.call c s).state

/-- A trace depends on the calls before it only through the state that they leave. -/
theorem trace_append (h : TokenHost σ ι τ ε) (calls more : List Call) (s : σ) :
    h.trace (calls ++ more) s = h.trace calls s ++ h.trace more (h.after calls s) := by
  induction calls generalizing s with
  | nil => rfl
  | cons c calls ih =>
    rw [List.cons_append, trace, ih, trace, List.cons_append]
    rfl

/-- Asked for one token after another, the host gives `ts` and is then in state `s'`. -/
inductive Gives (h : TokenHost σ ι τ ε) : σ → List τ → σ → Prop where
  | nil (s : σ) : Gives h s [] s
  | cons {s s' : σ} {t : τ} {ts : List τ} (ht : (h.advance s).outcome = .ok (some t))
      (rest : Gives h (h.advance s).state ts s') : Gives h s (t :: ts) s'

/-- What one call for a token keeps is kept while tokens are given. -/
theorem Gives.keeps {h : TokenHost σ ι τ ε} {P : σ → Prop}
    (hstep : ∀ s, P s → P (h.advance s).state) {s s' : σ} {ts : List τ}
    (g : h.Gives s ts s') (hs : P s) : P s' := by
  induction g with
  | nil s => exact hs
  | cons ht rest ih => exact ih (hstep _ hs)

/-- All tokens of a host are those that it gives one after another until a call gives none. If that
call fails, so does the whole, and the tokens are lost. -/
theorem drain_cases (h : TokenHost σ ι τ ε) (fin : h.Finite) (s : σ) :
    ∃ ts s', h.Gives s ts s' ∧ (h.drain fin s).state = (h.advance s').state ∧
      ((h.advance s').outcome = .ok none ∧ (h.drain fin s).outcome = .ok ts ∨
        ∃ e, (h.advance s').outcome = .error e ∧ (h.drain fin s).outcome = .error e) := by
  fun_induction drain h fin s with
  | case1 s e he => exact ⟨[], s, .nil s, rfl, .inr ⟨e, he, rfl⟩⟩
  | case2 s hnone => exact ⟨[], s, .nil s, rfl, .inl ⟨hnone, rfl⟩⟩
  | case3 s t ht rest ih =>
    obtain ⟨ts, s', g, hstate, hend⟩ := ih
    refine ⟨t :: ts, s', .cons ht g, hstate, ?_⟩
    rcases hend with ⟨hnone, hok⟩ | ⟨e, he, herror⟩
    · exact .inl ⟨hnone, by rw [hok]; rfl⟩
    · exact .inr ⟨e, he, by rw [herror]; rfl⟩

end TokenHost

end Locus
