import Locus.Token

/-!
# Stamped tokens

What a token shows after it has been given a location. Main statement: a location is found under its
own property and under no other, unless the token keeps that name for itself; then the token stays
as it is.
-/

namespace Locus.Token

variable {property : String} {l : Location} {t : Token}

/-- All locations that a token carries, with their properties. -/
def stored (t : Token) : List (String × Location) :=
  (t.loc.map fun l => (defaultProperty, l)).toList ++ t.extra.entries

theorem stamp_eq (property : String) (l : Location) (t : Token) :
    stamp property l t =
      if property ∈ ownKeys then t
      else if property = defaultProperty then { t with loc := some l, range := some l.range }
      else { t with extra := t.extra.insert property l, range := some l.range } := by
  have hattach : Locate.attach? property l t = attach? property l t := rfl
  rw [stamp, hattach, attach?]
  by_cases hown : property ∈ ownKeys
  · rw [if_pos hown, if_pos hown]
    rfl
  · rw [if_neg hown, if_neg hown]
    by_cases hdefault : property = defaultProperty
    · rw [if_pos hdefault, if_pos hdefault]
      rfl
    · rw [if_neg hdefault, if_neg hdefault]
      rfl

/-- The new location is seen under its property, and nothing changes under any other. -/
theorem location?_stamp (h : property ∉ ownKeys) (property' : String) :
    (stamp property l t).location? property' =
      if property = property' then some l else t.location? property' := by
  rw [stamp_eq, if_neg h]
  by_cases hdefault : property = defaultProperty
  · rw [if_pos hdefault, location?, location?, hdefault]
    by_cases heq : property' = defaultProperty
    · rw [if_pos heq, if_pos heq.symm]
    · rw [if_neg heq, if_neg (Ne.symm heq), if_neg heq]
  · rw [if_neg hdefault, location?, location?, KeyMap.find?_insert]
    by_cases heq : property' = defaultProperty
    · -- the default property is looked up apart from the others
      have hne : property ≠ property' := fun h => hdefault (h.trans heq)
      rw [if_pos heq, if_neg hne, if_pos heq]
    · rw [if_neg heq, if_neg heq]

theorem range_stamp (h : property ∉ ownKeys) : (stamp property l t).range = some l.range := by
  rw [stamp_eq, if_neg h]
  split
  · rfl
  · rfl

@[simp] theorem kind_stamp : (stamp property l t).kind = t.kind := by
  rw [stamp_eq]
  split
  · rfl
  · split
    · rfl
    · rfl

@[simp] theorem value_stamp : (stamp property l t).value = t.value := by
  rw [stamp_eq]
  split
  · rfl
  · split
    · rfl
    · rfl

/-- A new token that is stamped carries that location and no other. -/
theorem stored_stamp_ofKind (h : property ∉ ownKeys) (kind value : String) :
    (stamp property l (ofKind kind value)).stored = [(property, l)] := by
  rw [stamp_eq, if_neg h]
  by_cases hdefault : property = defaultProperty
  · rw [if_pos hdefault, hdefault]
    rfl
  · rw [if_neg hdefault]
    rfl

end Locus.Token
