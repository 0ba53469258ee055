import Locus.Record.TokenTree
import Mathlib.Data.List.Forall2

/-!
# Lists with commas

What it means that source text lists items, against the parts that it is cut into. Main statement:
text lists items exactly if its parts are the items one by one.
-/

namespace Locus.Record

theorem TokenTree.isSign_iff {c : Char} {t : TokenTree} :
    t.isSign c = true ↔ ∃ joined, t = .atom (.sign c joined) := by
  constructor
  · intro h
    rw [isSign.eq_def] at h
    split at h
    · next joined =>
      cases of_decide_eq_true h
      exact ⟨joined, rfl⟩
    · cases h
  · rintro ⟨joined, rfl⟩
    exact decide_eq_true rfl

/-- The pieces hold no comma, but perhaps inside of brackets. -/
def CommaFree (ts : List TokenTree) : Prop := ∀ t ∈ ts, t.isComma = false

/-- Items with commas between them. There may be one more comma behind the last. -/
inductive Listing {α : Type} (IsItem : List TokenTree → α → Prop) :
    List TokenTree → List α → Prop where
  | nil : Listing IsItem [] []
  | last {ts : List TokenTree} {a : α} (item : IsItem ts a) : Listing IsItem ts [a]
  | cons {ts rest : List TokenTree} {comma : TokenTree} {a : α} {as : List α} (item : IsItem ts a)
      (hcomma : comma.isComma = true) (more : Listing IsItem rest as) :
      Listing IsItem (ts ++ comma :: rest) (a :: as)

/-- A list holds no comma, or it can be cut at its first one. -/
theorem commaFree_or_cut (ts : List TokenTree) :
    CommaFree ts ∨ ∃ us comma rest, ts = us ++ comma :: rest ∧ CommaFree us ∧
      comma.isComma = true := by
  rcases hfind : ts.find? TokenTree.isComma with _ | comma
  · exact .inl fun t ht => Bool.eq_false_iff.2 (List.find?_eq_none.1 hfind t ht)
  · obtain ⟨hcomma, us, rest, hts, hus⟩ := List.find?_eq_some_iff_append.1 hfind
    exact .inr ⟨us, comma, rest, hts, fun t ht => by simpa using hus t ht, hcomma⟩

namespace Part

theorem ofList_of_commaFree {ts : List TokenTree} (hne : ts ≠ []) (h : CommaFree ts) :
    ofList ts = [⟨ts, false⟩] := by
  induction ts with
  | nil => exact absurd rfl hne
  | cons t rest ih =>
    have ht : ¬t.isComma = true := Bool.eq_false_iff.1 (h t List.mem_cons_self)
    rw [ofList, if_neg ht]
    rcases rest with _ | ⟨u, rest⟩
    · rfl
    · rw [ih (List.cons_ne_nil u rest) fun v hv => h v (List.mem_cons_of_mem t hv)]

theorem ofList_of_cut {us rest : List TokenTree} {comma : TokenTree} (h : CommaFree us)
    (hcomma : comma.isComma = true) :
    ofList (us ++ comma :: rest) = ⟨us, true⟩ :: ofList rest := by
  induction us with
  | nil => rw [List.nil_append, ofList, if_pos hcomma]
  | cons u us ih =>
    have hu : ¬u.isComma = true := Bool.eq_false_iff.1 (h u List.mem_cons_self)
    rw [List.cons_append, ofList, if_neg hu, ih fun v hv => h v (List.mem_cons_of_mem u hv)]

end Part

/-- Text lists items exactly if its parts are the items one by one. -/
theorem listing_iff {α : Type} {IsItem : List TokenTree → α → Prop}
    (hitem : ∀ {ts a}, IsItem ts a → ts ≠ [] ∧ CommaFree ts) {ts : List TokenTree} {as : List α} :
    Listing IsItem ts as ↔ List.Forall₂ (fun p a => IsItem p.tokens a) (Part.ofList ts) as := by
  constructor
  · intro h
    induction h with
    | nil => exact .nil
    | last item =>
      rw [Part.ofList_of_commaFree (hitem item).1 (hitem item).2]
      exact .cons item .nil
    | cons item hcomma more ih =>
      rw [Part.ofList_of_cut (hitem item).2 hcomma]
      exact .cons item ih
  · intro h
    -- on the text that is left behind each comma
    induction hlength : ts.length using Nat.strongRecOn generalizing ts as with
    | ind n ih =>
      obtain hfree | ⟨us, comma, rest, rfl, hus, hcomma⟩ := commaFree_or_cut ts
      · rcases ts with _ | ⟨t, ts⟩
        · cases h
          exact .nil
        · rw [Part.ofList_of_commaFree (List.cons_ne_nil t ts) hfree] at h
          obtain - | ⟨item, hnil⟩ := h
          cases hnil
          exact .last item
      · rw [Part.ofList_of_cut hus hcomma] at h
        obtain - | ⟨item, hmore⟩ := h
        have hlt : rest.length < n := by
          rw [← hlength, List.length_append, List.length_cons]
          omega
        exact .cons item hcomma (ih rest.length hlt hmore rfl)

end Locus.Record
