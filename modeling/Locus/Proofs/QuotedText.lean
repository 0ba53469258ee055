import Mathlib.Logic.Function.Basic
import Locus.Text.Quoted

/-!
# Quoted texts tell what they quote

Each character of a quoted text is written in a way that neither begins nor continues what another
one is written as, so the characters are told apart from left to right. Main statements: different
texts are quoted differently, and no quoted text holds a tab.
-/

namespace Locus

/-- A sign that stands in neither of two texts parts them from what follows it. -/
theorem append_cons_inj_of_notMem {α : Type} {x y a b : List α} {sign : α} (hx : sign ∉ x)
    (hy : sign ∉ y) (h : x ++ sign :: a = y ++ sign :: b) : x = y ∧ a = b := by
  induction x generalizing y with
  | nil =>
    cases y with
    | nil => exact ⟨rfl, (List.cons.inj h).2⟩
    | cons d y => exact absurd ((List.cons.inj h).1 ▸ List.mem_cons_self) hy
  | cons c x ih =>
    cases y with
    | nil => exact absurd ((List.cons.inj h).1 ▸ List.mem_cons_self) hx
    | cons d y =>
      obtain ⟨rfl, htail⟩ := List.cons.inj h
      obtain ⟨rfl, rfl⟩ := ih (fun hmem => hx (List.mem_cons_of_mem c hmem))
        (fun hmem => hy (List.mem_cons_of_mem c hmem)) htail
      exact ⟨rfl, rfl⟩

namespace Quoted

/-! ## Hexadecimal numbers -/

/-- The digits of a hexadecimal number are those of values below sixteen. -/
theorem exists_digitChar_of_mem_toDigits {n : Nat} {c : Char} (hc : c ∈ Nat.toDigits 16 n) :
    ∃ d < 16, c = Nat.digitChar d := by
  induction n using Nat.strongRecOn with
  | ind n ih =>
    rw [Nat.toDigits_eq_if (by decide)] at hc
    split at hc
    · next hlt => exact ⟨n, hlt, List.mem_singleton.1 hc⟩
    · next hge =>
      rcases List.mem_append.1 hc with hc | hc
      · exact ih (n / 16) (by omega) hc
      · exact ⟨n % 16, Nat.mod_lt n (by decide), List.mem_singleton.1 hc⟩

/-- Different numbers have different digits. -/
theorem toDigits_sixteen_injective : Function.Injective (Nat.toDigits 16) := by
  have hdigit : ∀ d < 16, ∀ e < 16, Nat.digitChar d = Nat.digitChar e → d = e := by decide
  intro m n
  induction m using Nat.strongRecOn generalizing n with
  | ind m ih =>
    intro h
    rw [Nat.toDigits_eq_if (by decide), Nat.toDigits_eq_if (n := n) (by decide)] at h
    by_cases hm : m < 16
    · by_cases hn : n < 16
      · rw [if_pos hm, if_pos hn] at h
        exact hdigit m hm n hn (List.singleton_inj.1 h)
      · rw [if_pos hm, if_neg hn] at h
        exact absurd (List.append_eq_singleton_iff.1 h.symm) (by simp [Nat.toDigits_ne_nil])
    · by_cases hn : n < 16
      · rw [if_neg hm, if_pos hn] at h
        exact absurd (List.append_eq_singleton_iff.1 h) (by simp [Nat.toDigits_ne_nil])
      · rw [if_neg hm, if_neg hn] at h
        obtain ⟨hfront, hlast⟩ := List.append_inj' h rfl
        have hdiv := ih (m / 16) (by omega) hfront
        have hmod := hdigit _ (Nat.mod_lt m (by decide)) _ (Nat.mod_lt n (by decide))
          (List.singleton_inj.1 hlast)
        omega

/-! ## Escapes -/

/-- The character that a letter behind a backslash stands for. -/
def named? (letter : Char) : Option Char :=
  if letter = '0' then some '\x00'
  else if letter = 't' then some '\t'
  else if letter = 'r' then some '\r'
  else if letter = 'n' then some '\n'
  else if letter = '\\' then some '\\'
  else if letter = '"' then some '"'
  else none

/-- A character is escaped by a letter or by its code point, or it stands for itself. -/
theorem escape_cases (c : Char) :
    (∃ letter, escape c = ['\\', letter] ∧ named? letter = some c) ∨ escape c = codePoint c ∨
      (escape c = [c] ∧ c ≠ '\\' ∧ c ≠ '\t') := by
  by_cases hletter : c ∈ ['\x00', '\t', '\r', '\n', '\\', '"']
  · left
    simp only [List.mem_cons, List.not_mem_nil, or_false] at hletter
    rcases hletter with rfl | rfl | rfl | rfl | rfl | rfl
    all_goals exact ⟨_, rfl, rfl⟩
  · right
    simp only [List.mem_cons, List.not_mem_nil, or_false, not_or] at hletter
    obtain ⟨h0, ht, hr, hn, hbackslash, hquote⟩ := hletter
    rw [escape, if_neg h0, if_neg ht, if_neg hr, if_neg hn, if_neg hbackslash, if_neg hquote]
    split
    · exact .inl rfl
    · split
      · exact .inr ⟨rfl, hbackslash, ht⟩
      · exact .inl rfl

theorem notMem_toDigits {c : Char} (h : ∀ d < 16, c ≠ Nat.digitChar d) (n : Nat) :
    c ∉ Nat.toDigits 16 n := by
  intro hc
  obtain ⟨d, hd, hcd⟩ := exists_digitChar_of_mem_toDigits hc
  exact h d hd hcd

theorem codePoint_append (c : Char) (a : List Char) :
    codePoint c ++ a = '\\' :: 'u' :: '\x7b' :: (Nat.toDigits 16 c.toNat ++ '\x7d' :: a) := by
  simp [codePoint]

/-- What a character is written as tells the character, and where it ends. -/
theorem escape_append_inj {c d : Char} {a b : List Char} (h : escape c ++ a = escape d ++ b) :
    c = d ∧ a = b := by
  -- after a backslash, the letter of a code point stands for no character
  have hu : ∀ letter x, named? letter = some x → letter ≠ 'u' := by
    rintro _ x hx rfl
    cases hx
  rcases escape_cases c with ⟨i, hc, hi⟩ | hc | ⟨hc, hc', -⟩
  · rcases escape_cases d with ⟨j, hd, hj⟩ | hd | ⟨hd, hd', -⟩
    · rw [hc, hd] at h
      simp only [List.cons_append, List.nil_append, List.cons.injEq, true_and] at h
      obtain ⟨rfl, rfl⟩ := h
      exact ⟨Option.some.inj (hi.symm.trans hj), rfl⟩
    · rw [hc, hd, codePoint_append] at h
      exact absurd (List.cons.inj (List.cons.inj h).2).1 (hu i c hi)
    · rw [hc, hd] at h
      exact absurd (List.cons.inj h).1.symm hd'
  · rcases escape_cases d with ⟨j, hd, hj⟩ | hd | ⟨hd, hd', -⟩
    · rw [hc, hd, codePoint_append] at h
      exact absurd (List.cons.inj (List.cons.inj h).2).1.symm (hu j d hj)
    · rw [hc, hd, codePoint_append, codePoint_append] at h
      simp only [List.cons.injEq, true_and] at h
      have hbrace : ∀ n, '\x7d' ∉ Nat.toDigits 16 n := notMem_toDigits (by decide)
      obtain ⟨hdigits, hrest⟩ := append_cons_inj_of_notMem (hbrace _) (hbrace _) h
      exact ⟨Char.toNat_inj.1 (toDigits_sixteen_injective hdigits), hrest⟩
    · rw [hc, hd, codePoint_append] at h
      exact absurd (List.cons.inj h).1.symm hd'
  · rcases escape_cases d with ⟨j, hd, hj⟩ | hd | ⟨hd, -⟩
    · rw [hc, hd] at h
      exact absurd (List.cons.inj h).1 hc'
    · rw [hc, hd, codePoint_append] at h
      exact absurd (List.cons.inj h).1 hc'
    · rw [hc, hd] at h
      exact List.cons.inj h

theorem escape_ne_nil (c : Char) : escape c ≠ [] := by
  rcases escape_cases c with ⟨letter, hc, -⟩ | hc | ⟨hc, -⟩
  all_goals simp [hc, codePoint]

theorem tab_notMem_escape (c : Char) : '\t' ∉ escape c := by
  rcases escape_cases c with ⟨letter, hc, hletter⟩ | hc | ⟨hc, -, htab⟩
  · have hne : letter ≠ '\t' := by
      rintro rfl
      cases hletter
    simp [hc, Ne.symm hne]
  · have hdigits := notMem_toDigits (c := '\t') (by decide) c.toNat
    simp [hc, codePoint, hdigits]
  · simp [hc, Ne.symm htab]

/-! ## Texts -/

/-- The characters are told apart from left to right. -/
theorem flatMap_escape_injective : Function.Injective (List.flatMap escape) := by
  intro cs ds h
  induction cs generalizing ds with
  | nil =>
    cases ds with
    | nil => rfl
    | cons d ds => exact absurd (List.append_eq_nil_iff.1 h.symm).1 (escape_ne_nil d)
  | cons c cs ih =>
    cases ds with
    | nil => exact absurd (List.append_eq_nil_iff.1 h).1 (escape_ne_nil c)
    | cons d ds =>
      obtain ⟨rfl, hrest⟩ := escape_append_inj h
      rw [ih hrest]

theorem quote_injective : Function.Injective quote := by
  intro cs ds h
  exact flatMap_escape_injective (List.append_cancel_right (List.cons.inj h).2)

theorem tab_notMem_quote (cs : List Char) : '\t' ∉ quote cs := by
  have hescaped : '\t' ∉ cs.flatMap escape := by
    intro h
    obtain ⟨c, -, hc⟩ := List.mem_flatMap.1 h
    exact tab_notMem_escape c hc
  simp [quote, hescaped]

end Quoted

end Locus
