import Locus.Proofs.Keys
import Locus.Proofs.Lexer

/-!
# The rules that a lexer holds

A lexer holds one rule for each kind, in the order in which the kinds were registered first; a rule
of a kind that is already there takes the place of the older one. Main statements: the kinds of a
lexer are distinct, whatever has been done with it, and rules that do not contradict each other are
tried as if each had a place of its own.
-/

namespace Locus.Lexer

variable {ι : Type}

/-! ## Registering one rule -/

theorem mem_of_mem_putHandler {g h : Handler} {hs : List Handler} (hg : g ∈ putHandler h hs) :
    g = h ∨ g ∈ hs := by
  induction hs with
  | nil => exact .inl (List.mem_singleton.1 hg)
  | cons f rest ih =>
    rw [putHandler] at hg
    split at hg
    · rcases List.mem_cons.1 hg with rfl | hg
      · exact .inl rfl
      · exact .inr (List.mem_cons_of_mem _ hg)
    · rcases List.mem_cons.1 hg with rfl | hg
      · exact .inr List.mem_cons_self
      · rcases ih hg with rfl | hg
        · exact .inl rfl
        · exact .inr (List.mem_cons_of_mem _ hg)

/-- A rule of a new kind comes last. -/
theorem putHandler_of_notMem {h : Handler} {hs : List Handler}
    (hnew : h.kind ∉ hs.map Handler.kind) : putHandler h hs = hs ++ [h] := by
  induction hs with
  | nil => rfl
  | cons f rest ih =>
    obtain ⟨hne, hrest⟩ := not_or.1 (mt List.mem_cons.2 hnew)
    rw [putHandler, if_neg (Ne.symm hne), ih hrest]
    rfl

/-- A rule that is there already changes nothing. -/
theorem putHandler_of_mem {h : Handler} {hs : List Handler} (hmem : h ∈ hs)
    (hsame : ∀ g ∈ hs, g.kind = h.kind → g = h) : putHandler h hs = hs := by
  induction hs with
  | nil => cases hmem
  | cons f rest ih =>
    obtain ⟨hf, hrest⟩ := List.forall_mem_cons.1 hsame
    rw [putHandler]
    by_cases hkind : f.kind = h.kind
    · rw [if_pos hkind, hf hkind]
    · rw [if_neg hkind]
      have hmem' : h ∈ rest := by
        rcases List.mem_cons.1 hmem with rfl | hmem'
        · exact absurd rfl hkind
        · exact hmem'
      rw [ih hmem' hrest]

/-- A new kind comes last among the kinds, and one that is there keeps its place. -/
theorem map_kind_putHandler (h : Handler) (hs : List Handler) :
    (putHandler h hs).map Handler.kind =
      if h.kind ∈ hs.map Handler.kind then hs.map Handler.kind
      else hs.map Handler.kind ++ [h.kind] := by
  induction hs with
  | nil => rfl
  | cons f rest ih =>
    rw [putHandler]
    by_cases hkind : f.kind = h.kind
    · simp [hkind]
    · have hmem : h.kind ∈ f.kind :: rest.map Handler.kind ↔ h.kind ∈ rest.map Handler.kind := by
        rw [List.mem_cons]
        exact or_iff_right (Ne.symm hkind)
      rw [if_neg hkind, List.map_cons, List.map_cons, ih]
      by_cases hold : h.kind ∈ rest.map Handler.kind
      · rw [if_pos hold, if_pos (hmem.2 hold)]
      · rw [if_neg hold, if_neg (mt hmem.1 hold), List.cons_append]

theorem nodup_putHandler {h : Handler} {hs : List Handler} (hn : (hs.map Handler.kind).Nodup) :
    ((putHandler h hs).map Handler.kind).Nodup := by
  rw [map_kind_putHandler]
  split
  · exact hn
  · next hnew =>
    rw [← List.concat_eq_append]
    exact hn.concat hnew

/-! ## The kinds of a lexer -/

theorem nodup_kinds_capture {l l' : Lexer ι} {kind pattern : String} (hn : l.kinds.Nodup)
    (h : l.capture kind pattern = .ok l') : l'.kinds.Nodup := by
  rw [capture] at h
  split at h
  · cases h
    exact nodup_putHandler hn
  · cases h

/-- A call leaves the rules as they are. -/
theorem handlers_call (c : Call) (l : Lexer ι) : (host.call c l).state.handlers = l.handlers := by
  rcases call_cases c l with ⟨hstate, -⟩ | ⟨h, -, n, -, hr⟩
  · rw [hstate]
  · rw [hr]
    rfl

/-- Whatever has been done with a lexer, it has no two rules of one kind. -/
theorem Reachable.nodup_kinds {l : Lexer ι} (h : l.Reachable) : l.kinds.Nodup := by
  induction h with
  | ofInput input options => exact List.nodup_nil
  | use u _ ih =>
    refine u.keeps (P := fun l : Lexer ι => l.kinds.Nodup) ?_ ?_ ?_ ?_ ih
    · intro l l' kind pattern hn hl'
      exact nodup_kinds_capture hn hl'
    · intro l events hn
      exact hn
    · intro l input hn
      exact hn
    · intro c l hn
      rw [kinds, handlers_call]
      exact hn

/-! ## Rules that do not contradict each other -/

/-- No kind has two different rules. -/
def Agree (hs : List Handler) : Prop := ∀ g ∈ hs, ∀ h ∈ hs, g.kind = h.kind → g = h

theorem Agree.of_subset {hs gs : List Handler} (h : Agree hs) (hsub : ∀ g ∈ gs, g ∈ hs) :
    Agree gs :=
  fun f hf g hg => h f (hsub f hf) g (hsub g hg)

/-- Trying a rule once more, behind the others, changes nothing. -/
theorem firstMatch?_or_of_mem {h : Handler} {hs : List Handler} (hmem : h ∈ hs) (rest : List Char) :
    (firstMatch? hs rest).or (firstMatch? [h] rest) = firstMatch? hs rest := by
  rcases hmatch : firstMatch? hs rest with _ | m
  · rw [Option.none_or, firstMatch?_eq_none_iff]
    intro g hg
    rw [List.mem_singleton.1 hg]
    exact firstMatch?_eq_none_iff.1 hmatch h hmem
  · rfl

/-- A rule that agrees with the others is tried behind them. -/
theorem firstMatch?_putHandler {h : Handler} {hs : List Handler} (hagree : Agree (h :: hs))
    (rest : List Char) :
    firstMatch? (putHandler h hs) rest = (firstMatch? hs rest).or (firstMatch? [h] rest) := by
  have hsame : ∀ g ∈ hs, g.kind = h.kind → g = h := by
    intro g hg
    exact hagree g (List.mem_cons_of_mem _ hg) h List.mem_cons_self
  by_cases hkind : h.kind ∈ hs.map Handler.kind
  · obtain ⟨g, hg, hgh⟩ := List.mem_map.1 hkind
    obtain rfl := hsame g hg hgh
    rw [putHandler_of_mem hg hsame, firstMatch?_or_of_mem hg]
  · rw [putHandler_of_notMem hkind]
    exact List.findSome?_append

/-- Rules that agree are tried in the order in which they are registered, behind those that are
there before. -/
theorem firstMatch?_foldl_putHandler {given hs : List Handler} (hagree : Agree (hs ++ given))
    (rest : List Char) :
    firstMatch? (given.foldl (fun hs h => putHandler h hs) hs) rest =
      (firstMatch? hs rest).or (firstMatch? given rest) := by
  induction given generalizing hs with
  | nil =>
    rw [List.foldl_nil]
    exact Option.or_none.symm
  | cons h given ih =>
    have hput : Agree (putHandler h hs ++ given) := by
      refine hagree.of_subset fun g hg => ?_
      rcases List.mem_append.1 hg with hg | hg
      · rcases mem_of_mem_putHandler hg with rfl | hg
        · simp
        · simp [hg]
      · simp [hg]
    have hfirst : Agree (h :: hs) := by
      refine hagree.of_subset fun g hg => ?_
      rcases List.mem_cons.1 hg with rfl | hg
      · simp
      · simp [hg]
    have hcons : firstMatch? (h :: given) rest =
        (firstMatch? [h] rest).or (firstMatch? given rest) := by
      rw [← List.singleton_append]
      exact List.findSome?_append
    rw [List.foldl_cons, ih hput, firstMatch?_putHandler hfirst, Option.or_assoc, hcons]

end Locus.Lexer
