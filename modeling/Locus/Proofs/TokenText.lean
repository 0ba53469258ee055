import Locus.Format.Token
import Locus.Proofs.LocationText
import Locus.Proofs.Token

/-!
# Tokens that are written and read

A token's other locations share one object with its own members, so the text of a token is read back
only because no property is ever one of the token's own keys. Main statements: however a token comes
about, none of its other locations stands under such a key, and it is read back from its text.
-/

namespace Locus

open Json

/-! ## Keyed collections -/

namespace Keyed

variable {α : Type}

theorem insert_of_lt {key : String} {value : α} {entries : List (String × α)}
    (h : ∀ e ∈ entries, e.1 < key) : insert key value entries = entries ++ [(key, value)] := by
  induction entries with
  | nil => rfl
  | cons e entries ih =>
    have hlt : e.1 < key := h e List.mem_cons_self
    have hnlt : ¬key < e.1 := fun hgt => String.lt_irrefl _ (String.lt_trans hlt hgt)
    have hne : e.1 ≠ key := fun heq => String.lt_irrefl _ (heq ▸ hlt)
    rw [insert, if_neg hnlt, if_neg hne, ih fun e he => h e (List.mem_cons_of_mem _ he)]
    rfl

theorem find?_eq_none {key : String} {entries : List (String × α)}
    (h : ∀ e ∈ entries, e.1 ≠ key) : find? key entries = none := by
  induction entries with
  | nil => rfl
  | cons e entries ih =>
    rw [find?, if_neg (h e List.mem_cons_self)]
    exact ih fun d hd => h d (List.mem_cons_of_mem e hd)

/-- Entries that are in order stay as they are. -/
theorem foldl_insert_of_ascending {front entries : List (String × α)}
    (h : Ascending (front ++ entries)) :
    entries.foldl (fun sorted e => insert e.1 e.2 sorted) front = front ++ entries := by
  induction entries generalizing front with
  | nil => rw [List.append_nil]; rfl
  | cons e entries ih =>
    have hlt : ∀ d ∈ front, d.1 < e.1 := fun d hd =>
      (List.pairwise_append.1 h).2.2 d hd e List.mem_cons_self
    have hfront : front ++ e :: entries = front ++ [e] ++ entries := by
      rw [List.append_assoc]
      rfl
    rw [List.foldl_cons, insert_of_lt hlt, hfront]
    exact ih (hfront ▸ h)

end Keyed

namespace Token

/-! ## Tokens that can be read back -/

/-- A token whose locations and range fit in 64 bits and whose other locations stand under none of
the keys of its own members. -/
structure Sound (t : Token) : Prop where
  loc_fits : ∀ l ∈ t.loc, l.Fits
  range_le : ∀ r ∈ t.range, r.1 ≤ maxWord ∧ r.2 ≤ maxWord
  extra_fits : ∀ e ∈ t.extra.entries, e.1 ∉ memberKeys ∧ e.2.Fits

theorem sound_ofKind (kind value : String) : (ofKind kind value).Sound where
  loc_fits _ hl := by cases hl
  range_le _ hr := by cases hr
  extra_fits _ he := by cases he

/-- A location is stored as one of the token's own or under a name that is not. -/
theorem Sound.stamp {t : Token} (h : t.Sound) (property : String) {l : Location} (hl : l.Fits) :
    (stamp property l t).Sound := by
  have hrange : ∀ r ∈ some l.range, r.1 ≤ maxWord ∧ r.2 ≤ maxWord := by
    rintro r ⟨⟩
    exact ⟨hl.start_fits.index_le, hl.stop_fits.index_le⟩
  rw [stamp_eq]
  by_cases hown : property ∈ ownKeys
  · rw [if_pos hown]
    exact h
  · rw [if_neg hown]
    by_cases hdefault : property = defaultProperty
    · rw [if_pos hdefault]
      refine ⟨?_, hrange, h.extra_fits⟩
      rintro l' ⟨⟩
      exact hl
    · rw [if_neg hdefault]
      refine ⟨h.loc_fits, hrange, fun e he => ?_⟩
      rcases Keyed.mem_insert he with rfl | he
      · -- the members' keys are those that are refused and the one of the token's own location
        refine ⟨fun hmem => ?_, hl⟩
        simp only [memberKeys, ownKeys, defaultProperty, List.mem_cons, List.not_mem_nil] at *
        tauto
      · exact h.extra_fits e he

/-- What is read of the members that are not the token's own is stored under other keys. -/
theorem readExtra?_fits {members : List (Option String × Tree)} {extra extra' : KeyMap Location}
    (h : readExtra? members extra = some extra')
    (hextra : ∀ e ∈ extra.entries, e.1 ∉ memberKeys ∧ e.2.Fits) :
    ∀ e ∈ extra'.entries, e.1 ∉ memberKeys ∧ e.2.Fits := by
  fun_induction readExtra? members extra with
  | case1 extra =>
    cases h
    exact hextra
  | case2 => cases h
  | case3 extra key t rest hkey ih => exact ih h hextra
  | case4 extra key t rest hkey l hl ih =>
    refine ih h fun e he => ?_
    rcases Keyed.mem_insert he with rfl | he
    · rw [extraLocation?] at hl
      split at hl
      · exact ⟨hkey, Location.fits_of_ofTree? hl⟩
      · cases hl
    · exact hextra e he
  | case5 => cases h

theorem range?_le {t : Tree} {r : Nat × Nat} (h : range? t = some r) :
    r.1 ≤ maxWord ∧ r.2 ≤ maxWord := by
  rw [range?.eq_def] at h
  split at h
  · next a b =>
    obtain ⟨m, hm, h⟩ := Option.bind_eq_some_iff.1 h
    obtain ⟨n, hn, h⟩ := Option.bind_eq_some_iff.1 h
    cases h
    exact ⟨Tree.le_of_natural? hm, Tree.le_of_natural? hn⟩
  · cases h

/-- A member that may be null holds what is read of it. -/
theorem exists_of_optional? {α : Type} {read : Tree → Option α} {t : Tree} {o : Option α} {a : α}
    (h : t.optional? read = some o) (ha : a ∈ o) : ∃ t, read t = some a := by
  rw [Tree.optional?.eq_def] at h
  split at h
  · cases h
    cases ha
  · obtain ⟨b, hb, rfl⟩ := Option.map_eq_some_iff.1 h
    cases ha
    exact ⟨_, hb⟩

theorem sound_of_ofTree? {tree : Tree} {t : Token} (h : ofTree? tree = some t) : t.Sound := by
  rw [ofTree?.eq_def] at h
  split at h
  · next members =>
    simp only [Option.bind_eq_bind, Option.bind_eq_some_iff] at h
    obtain ⟨_, -, _, -, kind, -, _, -, _, -, value, -, _, -, loc, hloc, _, -, range, hrange,
      extra, hextra, ht⟩ := h
    cases ht
    refine ⟨fun l hl => ?_, fun r hr => ?_, readExtra?_fits hextra fun e he => by cases he⟩
    · obtain ⟨tree, htree⟩ := exists_of_optional? hloc hl
      exact Location.fits_of_ofTree? htree
    · obtain ⟨tree, htree⟩ := exists_of_optional? hrange hr
      exact range?_le htree
  · cases h

/-! ## Reading a token back -/

/-- The members of a token's own, as they are written. -/
def ownMembers (t : Token) : List (String × Tree) :=
  [("type", Tree.ofString t.kind), ("value", Tree.ofString t.value)]
    ++ (match t.loc with | some l => [("loc", l.tree)] | none => [])
    ++ (match t.range with | some r => [("range", rangeTree r)] | none => [])

/-- The members of a token's other locations. -/
def extraMembers (t : Token) : List (String × Tree) :=
  t.extra.entries.map fun e => (e.1, e.2.tree)

theorem tree_eq (t : Token) : t.tree = .record (t.ownMembers ++ t.extraMembers) := rfl

theorem mem_memberKeys_of_mem_ownMembers {t : Token} : ∀ m ∈ t.ownMembers, m.1 ∈ memberKeys := by
  rcases t with ⟨kind, value, _ | l, _ | r, extra⟩
  all_goals simp [ownMembers, memberKeys]

/-- The token's own members are found, whatever its other locations are. -/
theorem field?_members {t : Token} (h : t.Sound) :
    let members := (t.ownMembers ++ t.extraMembers).map fun m => (some m.1, m.2)
    Tree.field? members "type" = some (some (.ofString t.kind)) ∧
      Tree.field? members "value" = some (some (.ofString t.value)) ∧
      Tree.field? members "loc" = some (t.loc.map Location.tree) ∧
      Tree.field? members "range" = some (t.range.map rangeTree) := by
  intro members
  have hown : ∀ name ∈ memberKeys,
      Tree.field? members name = Tree.field? (t.ownMembers.map fun m => (some m.1, m.2)) name := by
    intro name hname
    -- no other location stands under this key, so it is found once at most
    have hextra : (t.extraMembers.map fun m => (some m.1, m.2)).filter
        (fun m => m.1 = some name) = [] := by
      rw [List.filter_eq_nil_iff]
      intro m hm hkey
      obtain ⟨n, hn, rfl⟩ := List.mem_map.1 hm
      obtain ⟨e, he, rfl⟩ := List.mem_map.1 hn
      have hname' : e.1 = name := Option.some.inj (of_decide_eq_true hkey)
      exact (h.extra_fits e he).1 (hname' ▸ hname)
    have hmembers : members = _ ++ _ := List.map_append
    rw [Tree.field?, Tree.field?, hmembers, List.filter_append, hextra, List.append_nil]
  rw [hown _ (by decide), hown _ (by decide), hown _ (by decide), hown _ (by decide)]
  rcases t with ⟨kind, value, _ | l, _ | r, extra⟩
  all_goals simp [ownMembers, Tree.field?]

theorem readExtra?_ownMembers {members : List (String × Tree)}
    (h : ∀ m ∈ members, m.1 ∈ memberKeys) (rest : List (Option String × Tree))
    (extra : KeyMap Location) :
    readExtra? (members.map (fun m => (some m.1, m.2)) ++ rest) extra = readExtra? rest extra := by
  induction members with
  | nil => rfl
  | cons m members ih =>
    rw [List.map_cons, List.cons_append, readExtra?, if_pos (h m List.mem_cons_self)]
    exact ih fun n hn => h n (List.mem_cons_of_mem m hn)

/-- What a location is written as makes sense as a value, and it is not nested deeply. -/
theorem extraLocation?_tree {l : Location} (h : l.Fits) : extraLocation? l.tree = some l := by
  have hvalue : (Value.ofTree? l.tree).isSome = true := by
    rw [Location.ofTree?_value h]
    rfl
  have hdepth : l.tree.depth < maxDepth := by
    rcases l with ⟨_ | label, start, stop⟩
    · exact (by decide : 2 < maxDepth)
    · exact (by decide : 2 < maxDepth)
  rw [extraLocation?, if_pos ⟨hvalue, hdepth⟩, Location.ofTree?_tree h]

/-- The other locations are read one after another, by induction on them. -/
theorem readExtra?_extraMembers {entries : List (String × Location)}
    (h : ∀ e ∈ entries, e.1 ∉ memberKeys ∧ e.2.Fits) (extra : KeyMap Location) :
    readExtra? (entries.map fun e => (some e.1, e.2.tree)) extra =
      some (entries.foldl (fun m e => m.insert e.1 e.2) extra) := by
  induction entries generalizing extra with
  | nil => rfl
  | cons e entries ih =>
    obtain ⟨hkey, hfits⟩ := h e List.mem_cons_self
    rw [List.map_cons, readExtra?, if_neg hkey, extraLocation?_tree hfits]
    exact ih (fun d hd => h d (List.mem_cons_of_mem e hd)) _

/-- Putting the entries of a map into an empty one gives the map. -/
theorem foldl_insert_empty (m : KeyMap Location) :
    m.entries.foldl (fun m e => m.insert e.1 e.2) KeyMap.empty = m := by
  have hentries : ∀ (es : List (String × Location)) (m : KeyMap Location),
      (es.foldl (fun m e => m.insert e.1 e.2) m).entries =
        es.foldl (fun sorted e => Keyed.insert e.1 e.2 sorted) m.entries := by
    intro es
    induction es with
    | nil => exact fun m => rfl
    | cons e es ih => exact fun m => ih _
  refine KeyMap.ext_entries ?_
  rw [hentries]
  exact Keyed.foldl_insert_of_ascending m.ascending

/-- What may be absent is read back, unless it is written as null itself. -/
theorem optional?_getD {α : Type} {read : Tree → Option α} {write : α → Tree} {o : Option α}
    (hread : ∀ a ∈ o, read (write a) = some a) (hnull : ∀ a, write a ≠ .null) :
    ((o.map write).getD .null).optional? read = some o := by
  rcases o with _ | a
  · rfl
  · rw [Option.map_some, Option.getD_some, Tree.optional?.eq_def]
    split
    · next hwrite => exact absurd hwrite (hnull a)
    · rw [hread a rfl]
      rfl

theorem range?_rangeTree {r : Nat × Nat} (h : r.1 ≤ maxWord ∧ r.2 ≤ maxWord) :
    range? (rangeTree r) = some r := by
  rw [rangeTree, range?, Tree.natural?_ofNat h.1, Tree.natural?_ofNat h.2]
  rfl

theorem ofTree?_tree {t : Token} (h : t.Sound) : ofTree? t.tree = some t := by
  obtain ⟨htype, hvalue, hloc, hrange⟩ := field?_members h
  have hextra : readExtra? ((t.ownMembers ++ t.extraMembers).map fun m => (some m.1, m.2)) .empty =
      some t.extra := by
    rw [List.map_append, readExtra?_ownMembers mem_memberKeys_of_mem_ownMembers, extraMembers,
      List.map_map]
    exact (readExtra?_extraMembers h.extra_fits _).trans (congrArg some (foldl_insert_empty _))
  have hloc' := optional?_getD (fun l hl => Location.ofTree?_tree (h.loc_fits l hl))
    fun l => Tree.noConfusion
  have hrange' := optional?_getD (fun r hr => range?_rangeTree (h.range_le r hr))
    fun r => Tree.noConfusion
  rw [tree_eq, Tree.record, ofTree?, htype, hvalue, hloc, hrange, hextra]
  simp [hloc', hrange', Tree.ofString, Tree.text?]

theorem plain_tree (t : Token) : t.tree.Plain := by
  have hrange : ∀ r, (rangeTree r).Plain := by
    intro r
    refine Tree.plain_array fun u hu => ?_
    simp only [List.mem_cons, List.not_mem_nil, or_false] at hu
    rcases hu with rfl | rfl
    all_goals exact Tree.plain_ofNat _
  have hown : ∀ m ∈ t.ownMembers, m.2.Plain := by
    rcases t with ⟨kind, value, _ | l, _ | r, extra⟩
    all_goals simp [ownMembers, Tree.plain_ofString, Location.plain_tree, hrange]
  refine Tree.plain_record fun m hm => ?_
  rcases List.mem_append.1 hm with hm | hm
  · exact hown m hm
  · obtain ⟨e, -, rfl⟩ := List.mem_map.1 hm
    exact Location.plain_tree e.2

/-- A token is read back from its text. -/
theorem ofText?_text {t : Token} (h : t.Sound) : ofText? t.text = some t := by
  rw [ofText?, text, Tree.ofText?_text t.plain_tree]
  exact ofTree?_tree h

theorem sound_of_ofText? {text : List Char} {t : Token} (h : ofText? text = some t) :
    t.Sound := by
  obtain ⟨tree, -, htree⟩ := Option.bind_eq_some_iff.1 h
  exact sound_of_ofTree? htree

/-! ## All tokens there are -/

/-- The tokens that come about: new ones, those that are read, and those that are given a location
whose numbers fit in 64 bits. -/
inductive Made : Token → Prop where
  | new (kind value : String) : Made (ofKind kind value)
  | read {text : List Char} {t : Token} (h : ofText? text = some t) : Made t
  | stamped {t : Token} (h : Made t) (property : String) {l : Location} (hl : l.Fits) :
    Made (stamp property l t)

theorem Made.sound {t : Token} (h : t.Made) : t.Sound := by
  induction h with
  | new kind value => exact sound_ofKind kind value
  | read h => exact sound_of_ofText? h
  | stamped h property hl ih => exact ih.stamp property hl

/-- **Tokens go through their text.** None of a token's other locations stands under a key of its
own members, and it is read back from its text; so what is read, written and read again is what was
read first, and what is written, read and written again is what was written first. -/
theorem text_roundtrip :
    (∀ t : Token, t.Made →
      (∀ key ∈ ["type", "value", "loc", "range"], t.extra.find? key = none) ∧
        ofText? t.text = some t ∧
        (ofText? t.text).map text = some t.text) ∧
      ∀ (s : List Char) (t : Token), ofText? s = some t → ofText? t.text = ofText? s := by
  refine ⟨fun t ht => ⟨fun key hkey => ?_, ?_, ?_⟩, fun s t hs => ?_⟩
  · refine Keyed.find?_eq_none fun e he heq => ?_
    exact (ht.sound.extra_fits e he).1 (heq ▸ hkey)
  · exact ofText?_text ht.sound
  · rw [ofText?_text ht.sound]
    rfl
  · rw [ofText?_text (sound_of_ofText? hs), hs]

/-- A token with two locations that reach as far as 64 bits do, one of them under a name beyond
ASCII, and with characters that are escaped; it is read, and then it is given another location. -/
theorem text_roundtrip_two_locations :
    let l : Location := ⟨some "a\"\\", ⟨0, 1, 0⟩, ⟨18446744073709551615, 2, 18446744073709551615⟩⟩
    let t := stamp "é\n" l (stamp "loc" l (ofKind "type" "\x01\u2028"))
    let u := stamp "value" l (stamp "z" l t)
    t.Made ∧ u.Made ∧ ofText? t.text = some t ∧ ofText? u.text = some u ∧
      u.extra.find? "z" = some l ∧ u.extra.find? "value" = none := by
  intro l t u
  have hl : l.Fits := ⟨⟨by decide, by decide, by decide⟩, ⟨by decide, by decide, by decide⟩⟩
  have ht : t.Made := ((Made.new _ _).stamped _ hl).stamped _ hl
  have htext := (text_roundtrip.1 t ht).2.1
  have hread : ofText? t.text = some t := (text_roundtrip.2 t.text t htext).trans htext
  have hu : u.Made := ((Made.read hread).stamped _ hl).stamped _ hl
  exact ⟨ht, hu, htext, (text_roundtrip.1 u hu).2.1, by decide,
    (text_roundtrip.1 u hu).1 "value" (by decide)⟩

end Token

end Locus
