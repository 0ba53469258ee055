import Mathlib.Data.List.Forall2

/-!
# Steps that may fail

Going through a list one member after another, up to the first step that fails. Main statements: a
traversal fails with the first failure that is met, and what every step keeps true is true at the
end of one that does not fail.
-/

namespace Locus

variable {α β γ ε : Type}

/-- One step after another succeeds if both do. -/
theorem bind_eq_ok_iff {x : Except ε α} {f : α → Except ε β} {b : β} :
    (x >>= f) = .ok b ↔ ∃ a, x = .ok a ∧ f a = .ok b := by
  rcases x with e | a <;> simp [bind, Except.bind]

/-! ## One result for every member -/

section MapM

variable {f : α → Except ε β}

/-- Mapping one after another succeeds item by item. -/
theorem mapM_eq_ok_iff {as : List α} {bs : List β} :
    as.mapM f = .ok bs ↔ List.Forall₂ (fun a b => f a = .ok b) as bs := by
  induction as generalizing bs with
  | nil => cases bs <;> simp [pure, Except.pure]
  | cons a as ih =>
    rw [List.mapM_cons]
    rcases ha : f a with e | b
    · cases bs <;> simp [bind, Except.bind, ha]
    · rcases has : as.mapM f with e | bs'
      · cases bs <;> simp [bind, Except.bind, ← ih, has, ha]
      · cases bs <;> simp [bind, Except.bind, pure, Except.pure, ← ih, has, ha]

theorem mapM_eq_some_iff {f : α → Option β} {as : List α} {bs : List β} :
    as.mapM f = some bs ↔ List.Forall₂ (fun a b => f a = some b) as bs := by
  induction as generalizing bs with
  | nil => cases bs <;> simp
  | cons a as ih =>
    rw [List.mapM_cons]
    rcases ha : f a with _ | b
    · cases bs <;> simp [ha]
    · rcases has : as.mapM f with _ | bs'
      · cases bs <;> simp [← ih, has]
      · cases bs <;> simp [← ih, has, ha]

/-- Mapping one after another fails with the first failure that is met. -/
theorem mapM_eq_error_iff {as : List α} {e : ε} :
    as.mapM f = .error e ↔ ∃ before a after, as = before ++ a :: after ∧
      (∀ b ∈ before, ∀ e, f b ≠ .error e) ∧ f a = .error e := by
  induction as with
  | nil => simp [pure, Except.pure]
  | cons a as ih =>
    rw [List.mapM_cons]
    rcases ha : f a with e' | b
    · constructor
      · rintro ⟨⟩
        exact ⟨[], a, as, rfl, by simp, ha⟩
      · rintro ⟨_ | ⟨b, before⟩, a', after, hsplit, hbefore, ha'⟩
        · cases hsplit
          cases ha.symm.trans ha'
          rfl
        · cases hsplit
          exact absurd ha (hbefore a List.mem_cons_self e')
    · have hrest : (do let b ← Except.ok b; let bs ← as.mapM f; pure (b :: bs)) = .error e ↔
          as.mapM f = .error e := by
        rcases as.mapM f with e' | bs <;> simp [bind, Except.bind, pure, Except.pure]
      rw [hrest, ih]
      constructor
      · rintro ⟨before, a', after, rfl, hbefore, ha'⟩
        refine ⟨a :: before, a', after, rfl, List.forall_mem_cons.2 ⟨?_, hbefore⟩, ha'⟩
        rintro e' he'
        cases ha.symm.trans he'
      · rintro ⟨_ | ⟨b, before⟩, a', after, hsplit, hbefore, ha'⟩
        · cases hsplit
          cases ha.symm.trans ha'
        · cases hsplit
          exact ⟨before, a', after, rfl, (List.forall_mem_cons.1 hbefore).2, ha'⟩

end MapM

/-! ## One state that is carried along -/

section FoldlM

variable {step : β → α → Except ε β}

/-- What every step of a fold that may stop keeps true of the steps so far is true at its end. -/
theorem foldlM_induction {P : List α → β → Prop}
    (hstep : ∀ {past b a b'}, P past b → step b a = .ok b' → P (past ++ [a]) b') {b b' : β}
    (h : P [] b) {as : List α} (hok : as.foldlM step b = .ok b') : P as b' := by
  have hrun : ∀ as past b, P past b → as.foldlM step b = .ok b' → P (past ++ as) b' := by
    intro as
    induction as with
    | nil =>
      intro past b h hok
      cases hok
      rwa [List.append_nil]
    | cons a as ih =>
      intro past b h hok
      rw [List.foldlM_cons] at hok
      rcases hnext : step b a with e | c
      · rw [hnext] at hok
        cases hok
      · rw [hnext] at hok
        have hrest := ih (past ++ [a]) c (hstep h hnext) hok
        rwa [List.append_assoc] at hrest
  exact hrun as [] b h hok

/-- A fold that may stop does so at the first step that fails after those before it. -/
theorem foldlM_eq_error_iff {b : β} {as : List α} {e : ε} :
    as.foldlM step b = .error e ↔ ∃ before a after c, as = before ++ a :: after ∧
      before.foldlM step b = .ok c ∧ step c a = .error e := by
  induction as generalizing b with
  | nil => simp [pure, Except.pure]
  | cons a as ih =>
    rw [List.foldlM_cons]
    rcases hnext : step b a with e' | c
    · constructor
      · rintro ⟨⟩
        exact ⟨[], a, as, b, rfl, rfl, hnext⟩
      · rintro ⟨_ | ⟨a', before⟩, x, after, c, hsplit, hbefore, hx⟩
        · cases hsplit
          cases hbefore
          exact hnext.symm.trans hx
        · cases hsplit
          rw [List.foldlM_cons, hnext] at hbefore
          cases hbefore
    · refine (ih (b := c)).trans ⟨?_, ?_⟩
      · rintro ⟨before, x, after, d, rfl, hbefore, hx⟩
        refine ⟨a :: before, x, after, d, rfl, ?_, hx⟩
        rwa [List.foldlM_cons, hnext]
      · rintro ⟨_ | ⟨a', before⟩, x, after, d, hsplit, hbefore, hx⟩
        · cases hsplit
          cases hbefore
          cases hnext.symm.trans hx
        · cases hsplit
          rw [List.foldlM_cons, hnext] at hbefore
          exact ⟨before, x, after, d, rfl, hbefore, hx⟩

/-- What the steps do not look at can be left out of the state from the start. -/
theorem foldlM_map_state {step' : γ → α → Except ε γ} {g : β → γ}
    (hstep : ∀ b a, step' (g b) a = (step b a).map g) (b : β) (as : List α) :
    as.foldlM step' (g b) = (as.foldlM step b).map g := by
  induction as generalizing b with
  | nil => rfl
  | cons a as ih =>
    rw [List.foldlM_cons, List.foldlM_cons, hstep]
    rcases step b a with e | c
    · rfl
    · exact ih c

/-- Steps that go through lists go through one list after another. -/
theorem foldlM_flatMap (f : γ → List α) (b : β) (cs : List γ) :
    (cs.flatMap f).foldlM step b = cs.foldlM (fun b c => (f c).foldlM step b) b := by
  induction cs generalizing b with
  | nil => rfl
  | cons c cs ih =>
    rw [List.flatMap_cons, List.foldlM_append, List.foldlM_cons]
    exact bind_congr ih

end FoldlM

end Locus
