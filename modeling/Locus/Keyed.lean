/-!
# Keyed collections

Lists of pairs in the order of their keys, each key at most once. Keys are compared character by
character, by code point, which is also the order of their UTF-8 bytes. Main statements: what
`find?` sees after `insert`, and that `insert` keeps the order. Pairs that come in any order, with
keys that occur again, are asked for the last of them that counts.
-/

namespace Locus

/-- Whether the keys of a list of pairs ascend, so that none occurs twice. -/
def Ascending {α : Type} (entries : List (String × α)) : Prop :=
  entries.Pairwise (·.1 < ·.1)

namespace Keyed

variable {α : Type}

/-- The value under a key. -/
def find? (key : String) : List (String × α) → Option α
  | [] => none
  | (k, v) :: rest => if k = key then some v else find? key rest

/-- Puts a value under a key, in place of the one that was there. -/
def insert (key : String) (value : α) : List (String × α) → List (String × α)
  | [] => [(key, value)]
  | (k, v) :: rest =>
    if key < k then (key, value) :: (k, v) :: rest
    else if k = key then (key, value) :: rest
    else (k, v) :: insert key value rest

/-- The pairs of a list in the order of their keys; of two with one key the later counts. -/
def ofList (entries : List (String × α)) : List (String × α) :=
  entries.foldl (fun sorted entry => insert entry.1 entry.2 sorted) []

@[simp] theorem find?_nil (key : String) : find? key ([] : List (String × α)) = none := rfl

/-- After `insert` the key has its new value, and every other key the value it had. -/
theorem find?_insert (key key' : String) (value : α) (entries : List (String × α)) :
    find? key' (insert key value entries) =
      if key = key' then some value else find? key' entries := by
  induction entries with
  | nil => simp [insert, find?]
  | cons entry rest ih =>
    obtain ⟨k, v⟩ := entry
    unfold insert
    split
    · rfl
    · split
      · next hk =>
        subst hk
        unfold find?
        split <;> rfl
      · next hk =>
        unfold find?
        split
        · next heq =>
          subst heq
          simp [Ne.symm hk]
        · exact ih

/-- A key that `insert` leaves in the list is the new one or was there before. -/
theorem mem_insert {key : String} {value : α} {entries : List (String × α)} {e : String × α}
    (h : e ∈ insert key value entries) : e = (key, value) ∨ e ∈ entries := by
  induction entries with
  | nil => simpa [insert] using h
  | cons entry rest ih =>
    obtain ⟨k, v⟩ := entry
    unfold insert at h
    split at h
    · simpa using h
    · split at h
      · rcases List.mem_cons.1 h with h | h
        · exact Or.inl h
        · exact Or.inr (List.mem_cons_of_mem _ h)
      · rcases List.mem_cons.1 h with h | h
        · exact Or.inr (h ▸ List.mem_cons_self)
        · rcases ih h with h | h
          · exact Or.inl h
          · exact Or.inr (List.mem_cons_of_mem _ h)

/-- `insert` keeps keys ascending. -/
theorem ascending_insert (key : String) (value : α) {entries : List (String × α)}
    (h : Ascending entries) : Ascending (insert key value entries) := by
  induction entries with
  | nil => simp [insert, Ascending]
  | cons entry rest ih =>
    obtain ⟨k, v⟩ := entry
    have hrest : Ascending rest := (List.pairwise_cons.1 h).2
    have hk : ∀ e ∈ rest, k < e.1 := (List.pairwise_cons.1 h).1
    unfold insert
    split
    · next hlt =>
      refine List.pairwise_cons.2 ⟨fun e he => ?_, h⟩
      rcases List.mem_cons.1 he with rfl | he
      · exact hlt
      · exact String.lt_trans hlt (hk e he)
    · next hnlt =>
      split
      · next heq =>
        subst heq
        exact List.pairwise_cons.2 ⟨hk, hrest⟩
      · next hne =>
        have hlt : k < key := by
          rcases Decidable.em (k < key) with h' | h'
          · exact h'
          · exact absurd (String.le_antisymm (String.not_lt.1 hnlt) (String.not_lt.1 h')) hne
        refine List.pairwise_cons.2 ⟨fun e he => ?_, ih hrest⟩
        rcases mem_insert he with rfl | he
        · exact hlt
        · exact hk e he

/-! ## Pairs as they come -/

/-- The last value under a key that counts, among pairs in any order. -/
def lastWhere? (counts : String → Bool) (entries : List (String × α)) : Option α :=
  (entries.filter fun entry => counts entry.1).getLast?.map Prod.snd

variable {counts : String → Bool} {entries later : List (String × α)} {e : String × α}

theorem lastWhere?_append :
    lastWhere? counts (entries ++ later) =
      (lastWhere? counts later).or (lastWhere? counts entries) := by
  rw [lastWhere?, List.filter_append, List.getLast?_append, Option.map_or]
  rfl

theorem lastWhere?_singleton :
    lastWhere? counts [e] = if counts e.1 then some e.2 else none := by
  rw [lastWhere?, List.filter_cons]
  split
  · rfl
  · rfl

theorem lastWhere?_cons :
    lastWhere? counts (e :: later) =
      (lastWhere? counts later).or (if counts e.1 then some e.2 else none) := by
  rw [← List.singleton_append, lastWhere?_append, lastWhere?_singleton]

/-- The last value is one of those that there are. -/
theorem exists_mem_of_lastWhere? {value : α} (h : lastWhere? counts entries = some value) :
    ∃ e ∈ entries, e.2 = value := by
  obtain ⟨e, hlast, rfl⟩ := Option.map_eq_some_iff.1 h
  exact ⟨e, (List.mem_filter.1 (List.mem_of_getLast? hlast)).1, rfl⟩

end Keyed

/-- A finite map from names to values, as a list of pairs in the order of their names. -/
structure KeyMap (α : Type) where
  /-- The pairs. -/
  entries : List (String × α)
  /-- No key comes before a smaller one, and none comes twice. -/
  ascending : Ascending entries

namespace KeyMap

variable {α : Type}

/-- The map without entries. -/
def empty : KeyMap α := ⟨[], List.Pairwise.nil⟩

instance : Inhabited (KeyMap α) := ⟨empty⟩

/-- Two maps are equal when their entries are. -/
theorem ext_entries {m n : KeyMap α} (h : m.entries = n.entries) : m = n := by
  cases m
  cases n
  simp_all

instance [DecidableEq α] : DecidableEq (KeyMap α) := fun m n =>
  if h : m.entries = n.entries then isTrue (ext_entries h)
  else isFalse fun heq => h (heq ▸ rfl)

/-- The value under a key. -/
def find? (m : KeyMap α) (key : String) : Option α :=
  Keyed.find? key m.entries

/-- Puts a value under a key, in place of the one that was there. -/
def insert (m : KeyMap α) (key : String) (value : α) : KeyMap α :=
  ⟨Keyed.insert key value m.entries, Keyed.ascending_insert key value m.ascending⟩

/-- After `insert` the key has its new value, and every other key the value it had. -/
theorem find?_insert (m : KeyMap α) (key key' : String) (value : α) :
    (m.insert key value).find? key' = if key = key' then some value else m.find? key' :=
  Keyed.find?_insert key key' value m.entries

end KeyMap

end Locus
