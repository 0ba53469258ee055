import Locus.Proofs.Spellings
import Locus.Proofs.TokenText

/-!
# The members of a token

A token shares one object with locations under any other keys. These are read as whole values before
it is known what they are, so even what a location ignores must make sense in them. Main statements:
exactly the objects of this form are read, and the token has what their members tell; the location
of a token and its other locations are not read alike.
-/

namespace Locus

open Json

/-! ## Trees that make sense as values -/

/-- A tree that is a value: its strings are texts, and its numbers are not too great. -/
inductive Json.Tree.Sensible : Tree → Prop
  | null : Sensible .null
  | bool (b : Bool) : Sensible (.bool b)
  | number {n : Numeral} {k : Number} (h : Number.ofNumeral? n = some k) : Sensible (.number n)
  | string (s : String) : Sensible (.string (some s))
  | array {items : List Tree} (h : ∀ t ∈ items, Sensible t) : Sensible (.array items)
  | object {members : List (Option String × Tree)} (hkeys : ∀ m ∈ members, m.1.isSome)
    (h : ∀ m ∈ members, Sensible m.2) : Sensible (.object members)

namespace Json.Value

mutual

theorem isSome_ofTree?_iff : ∀ t : Tree, (ofTree? t).isSome ↔ t.Sensible
  | .null => ⟨fun _ => .null, fun _ => rfl⟩
  | .bool b => ⟨fun _ => .bool b, fun _ => rfl⟩
  | .number n => by
    rw [ofTree?, Option.isSome_map, Option.isSome_iff_exists]
    exact ⟨fun ⟨_, h⟩ => .number h, fun | .number h => ⟨_, h⟩⟩
  | .string none => ⟨fun h => (by cases h), fun h => (by cases h)⟩
  | .string (some s) => ⟨fun _ => .string s, fun _ => rfl⟩
  | .array items => by
    rw [ofTree?, Option.isSome_map, isSome_ofItems?_iff items]
    exact ⟨.array, fun | .array h => h⟩
  | .object members => by
    rw [ofTree?, Option.isSome_map, isSome_ofMembers?_iff members]
    exact ⟨fun h => .object (fun m hm => (h m hm).1) fun m hm => (h m hm).2,
      fun | .object hkeys h => fun m hm => ⟨hkeys m hm, h m hm⟩⟩

theorem isSome_ofItems?_iff : ∀ items : List Tree,
    (ofItems? items).isSome ↔ ∀ t ∈ items, t.Sensible
  | [] => by simp [ofItems?]
  | t :: rest => by
    rw [ofItems?, List.forall_mem_cons, ← isSome_ofTree?_iff t, ← isSome_ofItems?_iff rest]
    rcases ofTree? t with _ | v <;> rcases ofItems? rest with _ | vs <;> simp

theorem isSome_ofMembers?_iff : ∀ members : List (Option String × Tree),
    (ofMembers? members).isSome ↔ ∀ m ∈ members, m.1.isSome ∧ m.2.Sensible
  | [] => by simp [ofMembers?]
  | (key, t) :: rest => by
    rw [ofMembers?, List.forall_mem_cons, ← isSome_ofTree?_iff t, ← isSome_ofMembers?_iff rest]
    rcases key with _ | k <;> rcases ofTree? t with _ | v <;>
      rcases ofMembers? rest with _ | vs <;> simp

end

end Json.Value

/-- A tree that spells a location. -/
def Json.Tree.IsLocation (t : Tree) : Prop := ∃ l : Location, l.Fits ∧ l.Spelled t

theorem Json.Tree.isLocation_iff {t : Tree} :
    t.IsLocation ↔ ∃ l, Location.ofTree? t = some l := by
  simp only [IsLocation, Location.ofTree?_eq_some_iff]

namespace Token

/-! ## The members that are not the token's own -/

section Extra

variable {members : List (Option String × Tree)} {extra extra' : KeyMap Location} {key : String}

theorem mem_given {t : Tree} : t ∈ Tree.given members key ↔ (some key, t) ∈ members := by
  simp [Tree.given]

theorem given_cons (k : String) (t : Tree) (rest : List (Option String × Tree)) (key : String) :
    Tree.given ((some k, t) :: rest) key =
      if k = key then t :: Tree.given rest key else Tree.given rest key := by
  by_cases hkey : k = key
  · simp [Tree.given, hkey]
  · simp [Tree.given, hkey]

theorem forall_extra_cons {P : Tree → Prop} {k : String} {t : Tree}
    {rest : List (Option String × Tree)} :
    (∀ key ∉ memberKeys, ∀ u ∈ Tree.given ((some k, t) :: rest) key, P u) ↔
      (k ∉ memberKeys → P t) ∧ ∀ key ∉ memberKeys, ∀ u ∈ Tree.given rest key, P u := by
  simp only [mem_given, List.mem_cons, Prod.mk.injEq, Option.some.injEq]
  constructor
  · exact fun h => ⟨fun hk => h k hk t (.inl ⟨rfl, rfl⟩),
      fun key hkey u hu => h key hkey u (.inr hu)⟩
  · rintro ⟨ht, hrest⟩ key hkey u (⟨rfl, rfl⟩ | hu)
    · exact ht hkey
    · exact hrest key hkey u hu

/-- The members are read if every one that is not the token's own is a location. -/
theorem exists_readExtra?_iff :
    (∃ extra', readExtra? members extra = some extra') ↔ (∀ m ∈ members, m.1.isSome) ∧
      ∀ key ∉ memberKeys, ∀ t ∈ Tree.given members key, (extraLocation? t).isSome := by
  fun_induction readExtra? members extra with
  | case1 extra => simp [Tree.given]
  | case2 => simp
  | case3 k t rest extra hk ih => simp [ih, forall_extra_cons, hk]
  | case4 k t rest extra hk l hl ih => simp [ih, forall_extra_cons, hk, hl]
  | case5 k t rest extra hk hnone => simp [forall_extra_cons, hk, hnone]

/-- What is read goes under the keys that are not the token's own, the last under each counting. -/
theorem find?_readExtra? (h : readExtra? members extra = some extra') (key : String) :
    extra'.find? key = if key ∈ memberKeys then extra.find? key
      else ((Tree.given members key).getLast?.map extraLocation?).getD (extra.find? key) := by
  fun_induction readExtra? members extra with
  | case1 extra =>
    cases h
    simp [Tree.given]
  | case2 => cases h
  | case3 k t rest extra hk ih =>
    have hne : key ∉ memberKeys → k ≠ key := fun hkey heq => hkey (heq ▸ hk)
    rw [ih h, given_cons]
    split
    · rfl
    · next hkey => rw [if_neg (hne hkey)]
  | case4 k t rest extra hk l hl ih =>
    rw [ih h, given_cons, KeyMap.find?_insert]
    by_cases heq : k = key
    · subst heq
      -- a later member under the same key hides this one
      rw [if_neg hk, if_neg hk, if_pos rfl, if_pos rfl, List.getLast?_cons]
      rcases (Tree.given rest k).getLast? with _ | u
      · exact hl.symm
      · rfl
    · rw [if_neg heq, if_neg heq]
  | case5 => cases h

end Extra

/-! ## The format of tokens -/

/-- A tree that is a range: two indices. -/
def IsRange (t : Tree) : Prop := ∃ a ≤ maxWord, ∃ b ≤ maxWord, t = .array [.ofNat a, .ofNat b]

/-- Other members than the token's own are locations in which even what counts for nothing is a
value, and which are not nested too deeply. -/
def OtherMember (t : Tree) : Prop := t.IsLocation ∧ t.Sensible ∧ t.depth < maxDepth

theorem isSome_extraLocation?_iff {t : Tree} : (extraLocation? t).isSome ↔ OtherMember t := by
  rw [extraLocation?, OtherMember, ← Value.isSome_ofTree?_iff, Tree.isLocation_iff,
    ← Option.isSome_iff_exists]
  split
  · next h => exact ⟨fun hl => ⟨hl, h⟩, fun hl => hl.1⟩
  · next h => exact ⟨fun hl => (by cases hl), fun hl => absurd hl.2 h⟩

theorem location_of_extraLocation? {t : Tree} {l : Location} (h : extraLocation? t = some l) :
    l.Spelled t := by
  rw [extraLocation?] at h
  split at h
  · exact (Location.ofTree?_eq_some_iff.1 h).2
  · cases h

theorem range?_eq_some_iff {t : Tree} {r : Nat × Nat} :
    range? t = some r ↔ t = rangeTree r ∧ r.1 ≤ maxWord ∧ r.2 ≤ maxWord := by
  constructor
  · intro h
    refine ⟨?_, range?_le h⟩
    rw [range?.eq_def] at h
    split at h
    · next a b =>
      simp only [Option.bind_eq_bind, Option.bind_eq_some_iff, Tree.natural?_eq_some_iff] at h
      obtain ⟨_, ⟨rfl, -⟩, _, ⟨rfl, -⟩, h⟩ := h
      cases h
      rfl
    · cases h
  · rintro ⟨rfl, hle⟩
    exact range?_rangeTree hle

theorem isRange_iff {t : Tree} : IsRange t ↔ ∃ r, range? t = some r := by
  simp only [range?_eq_some_iff, IsRange, rangeTree, Prod.exists]
  constructor
  · rintro ⟨a, ha, b, hb, ht⟩
    exact ⟨a, b, ht, ha, hb⟩
  · rintro ⟨a, b, ht, ha, hb⟩
    exact ⟨a, ha, b, hb, ht⟩

/-- The members of an object that is a token, where `other` says what members may be that are not
the token's own. -/
structure Formed (other : Tree → Prop) (members : List (Option String × Tree)) : Prop where
  keys : ∀ m ∈ members, m.1.isSome
  kind : ∃ s, Tree.given members "type" = [.ofString s]
  value : ∃ s, Tree.given members "value" = [.ofString s]
  loc : ∃ v : Option Tree, Tree.given members "loc" = v.toList ∧ ∀ t ∈ v, t = .null ∨ t.IsLocation
  range : ∃ v : Option Tree, Tree.given members "range" = v.toList ∧
    ∀ t ∈ v, t = .null ∨ IsRange t
  extra : ∀ key ∉ memberKeys, ∀ t ∈ Tree.given members key, other t

/-- The token has what the members tell of it: its own fields, of which null is as good as absent,
and under each other key the last that is given. -/
structure ToldBy (members : List (Option String × Tree)) (t : Token) : Prop where
  kind : Tree.given members "type" = [.ofString t.kind]
  value : Tree.given members "value" = [.ofString t.value]
  loc : ∃ v : Option Tree, Tree.given members "loc" = v.toList ∧
    Tree.Spelled? Location.Spelled t.loc v
  range : ∃ v : Option Tree, Tree.given members "range" = v.toList ∧
    Tree.Spelled? (fun r u => u = rangeTree r) t.range v
  extra : ∀ key ∉ memberKeys,
    Option.Rel Location.Spelled (t.extra.find? key) (Tree.given members key).getLast?
  own : ∀ key ∈ memberKeys, t.extra.find? key = none

/-- Reading a token member by member. -/
theorem ofTree?_object_iff {members : List (Option String × Tree)} {t : Token} :
    ofTree? (.object members) = some t ↔
      Tree.given members "type" = [.ofString t.kind] ∧
      Tree.given members "value" = [.ofString t.value] ∧
      (∃ v : Option Tree, Tree.given members "loc" = v.toList ∧
        Tree.Spelled? (fun l u => Location.ofTree? u = some l) t.loc v) ∧
      (∃ v : Option Tree, Tree.given members "range" = v.toList ∧
        Tree.Spelled? (fun r u => range? u = some r) t.range v) ∧
      readExtra? members .empty = some t.extra := by
  have hlocation : Location.ofTree? .null = none := rfl
  have hrange : range? .null = none := rfl
  simp only [ofTree?, Option.bind_eq_bind, Option.bind_eq_some_iff, Tree.field?_eq_some_iff,
    Tree.optional?_eq_some_iff hlocation, Tree.optional?_eq_some_iff hrange, Tree.text?_eq_some_iff]
  constructor
  · rintro ⟨_, htype, _, rfl, kind, rfl, _, hvalue, _, rfl, value, rfl, v, hv, loc, hloc, w, hw,
      range, hrange, extra, hextra, ht⟩
    cases ht
    exact ⟨htype, hvalue, ⟨v, hv, hloc⟩, ⟨w, hw, hrange⟩, hextra⟩
  · rintro ⟨htype, hvalue, ⟨v, hv, hloc⟩, ⟨w, hw, hrange⟩, hextra⟩
    exact ⟨some _, htype, _, rfl, _, rfl, some _, hvalue, _, rfl, _, rfl, v, hv, _, hloc, w, hw, _,
      hrange, _, hextra, rfl⟩

/-- Exactly the objects of the format are tokens. -/
theorem exists_ofTree?_iff {members : List (Option String × Tree)} :
    (∃ t, ofTree? (.object members) = some t) ↔ Formed OtherMember members := by
  constructor
  · rintro ⟨t, ht⟩
    obtain ⟨htype, hvalue, ⟨v, hv, hloc⟩, ⟨w, hw, hrange⟩, hextra⟩ := ofTree?_object_iff.1 ht
    obtain ⟨hkeys, hothers⟩ := exists_readExtra?_iff.1 ⟨_, hextra⟩
    have hloc' := Tree.exists_spelled?_iff.1 ⟨_, hloc⟩
    have hrange' := Tree.exists_spelled?_iff.1 ⟨_, hrange⟩
    simp only [← Tree.isLocation_iff] at hloc'
    simp only [← isRange_iff] at hrange'
    exact ⟨hkeys, ⟨_, htype⟩, ⟨_, hvalue⟩, ⟨v, hv, hloc'⟩, ⟨w, hw, hrange'⟩,
      fun key hkey u hu => isSome_extraLocation?_iff.1 (hothers key hkey u hu)⟩
  · rintro ⟨hkeys, ⟨kind, hkind⟩, ⟨value, hvalue⟩, ⟨v, hv, hloc⟩, ⟨w, hw, hrange⟩, hothers⟩
    simp only [Tree.isLocation_iff] at hloc
    simp only [isRange_iff] at hrange
    obtain ⟨loc, hloc⟩ := Tree.exists_spelled?_iff.2 hloc
    obtain ⟨range, hrange⟩ := Tree.exists_spelled?_iff.2 hrange
    simp only [← isSome_extraLocation?_iff] at hothers
    obtain ⟨extra, hextra⟩ := exists_readExtra?_iff.2 ⟨hkeys, hothers⟩
    exact ⟨⟨kind, value, loc, range, extra⟩,
      ofTree?_object_iff.2 ⟨hkind, hvalue, ⟨v, hv, hloc⟩, ⟨w, hw, hrange⟩, hextra⟩⟩

/-- A token that is read has what its members tell. -/
theorem toldBy_of_ofTree? {members : List (Option String × Tree)} {t : Token}
    (h : ofTree? (.object members) = some t) : t.ToldBy members := by
  obtain ⟨hkind, hvalue, ⟨v, hv, hloc⟩, ⟨w, hw, hrange⟩, hextra⟩ := ofTree?_object_iff.1 h
  have hothers := (exists_readExtra?_iff.1 ⟨_, hextra⟩).2
  refine ⟨hkind, hvalue, ⟨v, hv, hloc.imp fun l u hl => (Location.ofTree?_eq_some_iff.1 hl).2⟩,
    ⟨w, hw, hrange.imp fun r u hr => (range?_eq_some_iff.1 hr).1⟩, fun key hkey => ?_,
    fun key hkey => ?_⟩
  · rw [find?_readExtra? hextra, if_neg hkey]
    rcases hlast : (Tree.given members key).getLast? with _ | u
    · exact .none
    · obtain ⟨l, hl⟩ := Option.isSome_iff_exists.1 (hothers key hkey u (List.mem_of_getLast? hlast))
      rw [Option.map_some, Option.getD_some, hl]
      exact .some (location_of_extraLocation? hl)
  · rw [find?_readExtra? hextra, if_pos hkey]
    rfl

/-- **Tokens are objects of one format.** A text is read as a token exactly if it is an object with
a kind and a value, each once and a string; a location and a range at most once, or null; and
nothing else but locations, any number of them under any other keys, in which also what counts for
nothing makes sense. The token has what is given, and under every other key the last location that
is given under it. -/
theorem ofText?_follows_format :
    (∀ s, (∃ t, ofText? s = some t) ↔
      ∃ members, Tree.ofText? s = some (.object members) ∧ Formed OtherMember members) ∧
      ∀ s t, ofText? s = some t →
        ∃ members, Tree.ofText? s = some (.object members) ∧ t.ToldBy members := by
  have hobject : ∀ s t, ofText? s = some t → ∃ members,
      Tree.ofText? s = some (.object members) ∧ ofTree? (.object members) = some t := by
    intro s t h
    obtain ⟨tree, htree, ht⟩ := Option.bind_eq_some_iff.1 h
    cases tree with
    | object members => exact ⟨members, htree, ht⟩
    | _ => cases ht
  refine ⟨fun s => ⟨?_, ?_⟩, fun s t h => ?_⟩
  · rintro ⟨t, h⟩
    obtain ⟨members, htree, ht⟩ := hobject s t h
    exact ⟨members, htree, exists_ofTree?_iff.1 ⟨t, ht⟩⟩
  · rintro ⟨members, htree, hformed⟩
    obtain ⟨t, ht⟩ := exists_ofTree?_iff.2 hformed
    exact ⟨t, Option.bind_eq_some_iff.2 ⟨_, htree, ht⟩⟩
  · obtain ⟨members, htree, ht⟩ := hobject s t h
    exact ⟨members, htree, toldBy_of_ofTree? ht⟩

/-- A token whose members come in no order, with a null location and two locations under another
key. -/
theorem ofText?_follows_format_key_twice :
    let s := "\x7b\"x\":[null,[0,0,1],[1,1,1]], \"value\":\"b\", \"loc\":null," ++
      "\"x\":[null,[2,2,1],[3,3,1]], \"type\":\"a\"\x7d"
    let t : Token := ⟨"a", "b", none, none,
      KeyMap.empty.insert "x" ⟨none, ⟨2, 1, 2⟩, ⟨3, 1, 3⟩⟩⟩
    ofText? s.toList = some t ∧
      (∃ members, Tree.ofText? s.toList = some (.object members) ∧ Formed OtherMember members) ∧
      ∃ members, Tree.ofText? s.toList = some (.object members) ∧ t.ToldBy members := by
  intro s t
  have ht : ofText? s.toList = some t := by decide +kernel
  obtain ⟨haccepts, htold⟩ := ofText?_follows_format
  exact ⟨ht, (haccepts _).1 ⟨t, ht⟩, htold _ t ht⟩

/-- A location with a member that it ignores, a number that is too great: it is read as the location
of a token, but under another key it is refused. -/
theorem ignored_number_refused :
    let location := "\x7b\"start\":[0,0,1],\"end\":[0,0,1],\"y\":1e999\x7d"
    let s (key : String) :=
      "\x7b\"type\":\"a\",\"value\":\"b\",\"" ++ key ++ "\":" ++ location ++ "\x7d"
    (∃ members, Tree.ofText? (s "x").toList = some (.object members) ∧
        Formed Tree.IsLocation members) ∧
      ofText? (s "x").toList = none ∧
      ofText? (s "loc").toList =
        some ⟨"a", "b", some ⟨none, Position.start, Position.start⟩, none, .empty⟩ := by
  intro location s
  let ends := Tree.array [.ofNat 0, .ofNat 0, .ofNat 1]
  let x := Tree.record [("start", ends), ("end", ends), ("y", .number ⟨false, 1, none, some 999⟩)]
  have hread : Tree.ofText? (s "x").toList =
      some (.record [("type", .ofString "a"), ("value", .ofString "b"), ("x", x)]) :=
    Tree.ofText?_of_lexemes (by decide +kernel)
  refine ⟨⟨_, hread, ?_⟩, by decide +kernel, by decide +kernel⟩
  have hx : x.IsLocation := Tree.isLocation_iff.2 ⟨⟨none, Position.start, Position.start⟩, rfl⟩
  refine ⟨by simp, ⟨"a", rfl⟩, ⟨"b", rfl⟩, ⟨none, rfl, by simp⟩, ⟨none, rfl, by simp⟩, ?_⟩
  intro key hkey t ht
  simp only [mem_given, List.map_cons, List.map_nil, List.mem_cons, List.not_mem_nil, or_false,
    Prod.mk.injEq, Option.some.injEq] at ht
  rcases ht with ⟨rfl, -⟩ | ⟨rfl, -⟩ | ⟨-, rfl⟩
  · exact absurd (by decide) hkey
  · exact absurd (by decide) hkey
  · exact hx

end Token

end Locus
