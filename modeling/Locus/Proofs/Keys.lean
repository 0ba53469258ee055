import Mathlib.Data.List.Nodup

/-!
# Lists in which no key occurs twice

Looking for a key in a list whose members have different keys. Main statement: a key is found with
the one member that has it.
-/

namespace Locus

variable {α κ : Type} [DecidableEq κ] {key : α → κ} {as : List α}

/-- Where no key occurs twice, a key determines its member. -/
theorem find?_key_eq_some_iff (hn : (as.map key).Nodup) {k : κ} {a : α} :
    as.find? (fun b => key b = k) = some a ↔ a ∈ as ∧ key a = k := by
  constructor
  · intro hfind
    exact ⟨List.mem_of_find?_eq_some hfind, by simpa using List.find?_some hfind⟩
  · rintro ⟨hmem, rfl⟩
    have hsome : (as.find? fun b => key b = key a).isSome :=
      List.find?_isSome.2 ⟨a, hmem, by simp⟩
    obtain ⟨b, hb⟩ := Option.isSome_iff_exists.1 hsome
    have hkey : key b = key a := by simpa using List.find?_some hb
    rw [hb, List.inj_on_of_nodup_map hn (List.mem_of_find?_eq_some hb) hmem hkey]

/-- The members with a key are the one that is found, if there is one. -/
theorem filter_key_eq (hn : (as.map key).Nodup) (k : κ) :
    as.filter (fun b => key b = k) = (as.find? fun b => key b = k).toList := by
  induction as with
  | nil => rfl
  | cons a as ih =>
    rw [List.map_cons, List.nodup_cons] at hn
    by_cases ha : key a = k
    · have hrest : as.filter (fun b => key b = k) = [] := by
        rw [List.filter_eq_nil_iff]
        intro b hb hbk
        exact hn.1 (List.mem_map.2 ⟨b, hb, (of_decide_eq_true hbk).trans ha.symm⟩)
      rw [List.filter_cons_of_pos (by simpa using ha), List.find?_cons_of_pos (by simpa using ha),
        hrest]
      rfl
    · rw [List.filter_cons_of_neg (by simpa using ha), List.find?_cons_of_neg (by simpa using ha),
        ih hn.2]

/-- Where no key occurs twice, every pair is found by its key. -/
theorem lookup_eq_some_iff_mem {pairs : List (String × α)} (hn : (pairs.map (·.1)).Nodup)
    {k : String} {a : α} : pairs.lookup k = some a ↔ (k, a) ∈ pairs := by
  induction pairs with
  | nil => simp
  | cons pair pairs ih =>
    obtain ⟨k', b⟩ := pair
    rw [List.map_cons, List.nodup_cons] at hn
    rw [List.lookup_cons, List.mem_cons, Prod.mk.injEq]
    by_cases hkey : k = k'
    · have hrest : (k, a) ∉ pairs := fun hmem =>
        hn.1 (hkey ▸ List.mem_map_of_mem (f := (·.1)) hmem)
      rw [beq_iff_eq.2 hkey]
      exact ⟨fun h => .inl ⟨hkey, (Option.some.inj h).symm⟩,
        fun h => h.elim (fun h => congrArg some h.2.symm) fun h => absurd h hrest⟩
    · rw [beq_eq_false_iff_ne.2 hkey]
      exact (ih hn.2).trans ⟨.inr, fun h => h.elim (fun h => absurd h.1 hkey) id⟩

end Locus
