import Locus.Proofs.TokenText

/-!
# Tokens as JSON values

A token can be given its locations before it becomes a JSON value or afterwards, when it is an
object like any other. Main statement: both give the same value. The members of the object are
looked up here, since two objects with the same members are one.
-/

namespace Locus

open Json

namespace Keyed

variable {α : Type}

theorem ascending_ofList (entries : List (String × α)) : Ascending (ofList entries) := by
  have hfold : ∀ es sorted : List (String × α), Ascending sorted →
      Ascending (es.foldl (fun sorted e => insert e.1 e.2 sorted) sorted) := by
    intro es
    induction es with
    | nil => exact fun _ h => h
    | cons e es ih => exact fun _ h => ih _ (ascending_insert e.1 e.2 h)
  exact hfold entries [] List.Pairwise.nil

theorem find?_eq_some_iff {entries : List (String × α)} (h : Ascending entries) {key : String}
    {value : α} : find? key entries = some value ↔ (key, value) ∈ entries := by
  induction entries with
  | nil => simp
  | cons e entries ih =>
    obtain ⟨k, v⟩ := e
    obtain ⟨hlt, hentries⟩ := List.pairwise_cons.1 h
    rw [find?, List.mem_cons, Prod.mk.injEq]
    by_cases hkey : k = key
    · have hrest : (key, value) ∉ entries := fun hmem =>
        String.lt_irrefl _ (hkey ▸ hlt _ hmem)
      rw [if_pos hkey, Option.some.injEq]
      exact ⟨fun hv => .inl ⟨hkey.symm, hv.symm⟩, fun h => h.elim (fun h => h.2.symm)
        fun hmem => absurd hmem hrest⟩
    · rw [if_neg hkey, ih hentries]
      exact ⟨.inr, fun h => h.elim (fun h => absurd h.1.symm hkey) id⟩

theorem nodup_of_ascending {entries : List (String × α)} (h : Ascending entries) :
    entries.Nodup := by
  refine List.Pairwise.imp (fun {d e} hlt heq => ?_) h
  rw [heq] at hlt
  exact String.lt_irrefl _ hlt

/-- Collections in order that hold the same under every key are equal. -/
theorem ext_find? {a b : List (String × α)} (ha : Ascending a) (hb : Ascending b)
    (h : ∀ key, find? key a = find? key b) : a = b := by
  have hmem : ∀ e, e ∈ a ↔ e ∈ b := fun e => by
    rw [← find?_eq_some_iff ha, ← find?_eq_some_iff hb, h]
  have hperm : a.Perm b :=
    (List.perm_ext_iff_of_nodup (nodup_of_ascending ha) (nodup_of_ascending hb)).2 hmem
  exact hperm.eq_of_pairwise
    (fun d e _ _ hde hed => absurd (String.lt_trans hde hed) (String.lt_irrefl _)) ha hb

/-- Entries in order that are put into a collection one after another hide what it held. -/
theorem find?_foldl_insert {entries : List (String × α)} (h : Ascending entries) (key : String)
    (sorted : List (String × α)) :
    find? key (entries.foldl (fun sorted e => insert e.1 e.2 sorted) sorted) =
      (find? key entries).or (find? key sorted) := by
  induction entries generalizing sorted with
  | nil => rfl
  | cons e entries ih =>
    obtain ⟨hlt, hentries⟩ := List.pairwise_cons.1 h
    rw [List.foldl_cons, ih hentries, find?_insert, find?]
    by_cases hkey : e.1 = key
    · have hnone : find? key entries = none :=
        find?_eq_none fun d hd heq => String.lt_irrefl _ (heq ▸ hkey ▸ hlt d hd)
      rw [if_pos hkey, if_pos hkey, hnone]
      rfl
    · rw [if_neg hkey, if_neg hkey]

end Keyed

namespace Token

/-! ## The members of a token -/

/-- The indices of a range as a JSON value. -/
def rangeValue (r : Nat × Nat) : Value := .array [.ofNat r.1, .ofNat r.2]

/-- The members of a token's own, as JSON values. -/
def ownValues (t : Token) : List (String × Value) :=
  [("type", .string t.kind), ("value", .string t.value)]
    ++ (match t.loc with | some l => [("loc", l.value)] | none => [])
    ++ (match t.range with | some r => [("range", rangeValue r)] | none => [])

/-- The members of a token's other locations, as JSON values. -/
def extraValues (t : Token) : List (String × Value) :=
  t.extra.entries.map fun e => (e.1, e.2.value)

/-- A token as a JSON value. -/
def toValue (t : Token) : Value := .record (t.ownValues ++ t.extraValues)

/-- What a token that is an object has under a key. -/
def member? (t : Token) (key : String) : Option Value :=
  if key = "type" then some (.string t.kind)
  else if key = "value" then some (.string t.value)
  else if key = "range" then t.range.map rangeValue
  else (t.location? key).map Location.value

/-- An object means what its members mean. -/
theorem ofTree?_record {members : List (String × Tree)} {values : List (String × Value)}
    (h : List.Forall₂ (fun m v => m.1 = v.1 ∧ Value.ofTree? m.2 = some v.2) members values) :
    Value.ofTree? (.record members) = some (.record values) := by
  have hmembers : Value.ofMembers? (members.map fun m => (some m.1, m.2)) = some values := by
    induction h with
    | nil => rfl
    | cons hm rest ih =>
      rw [List.map_cons, Value.ofMembers?, hm.2, ih, hm.1]
      rfl
  rw [Tree.record, Value.ofTree?, hmembers]
  rfl

/-- What a token is written as means the token as a value. -/
theorem ofTree?_toValue {t : Token} (h : t.Sound) : Value.ofTree? t.tree = some t.toValue := by
  have hrange : ∀ r ∈ t.range, Value.ofTree? (rangeTree r) = some (rangeValue r) := by
    intro r hr
    have hle := h.range_le r hr
    simp [rangeTree, rangeValue, Value.ofTree?, Value.ofItems?, Value.ofTree?_ofNat hle.1,
      Value.ofTree?_ofNat hle.2]
  have hown : List.Forall₂ (fun m v => m.1 = v.1 ∧ Value.ofTree? m.2 = some v.2)
      t.ownMembers t.ownValues := by
    have hloc := fun l hl => Location.ofTree?_value (h.loc_fits l hl)
    rcases t with ⟨kind, value, _ | l, _ | r, extra⟩
    all_goals simp_all [ownMembers, ownValues, Tree.ofString, Value.ofTree?]
  rw [tree_eq]
  refine ofTree?_record (List.rel_append hown ?_)
  rw [extraMembers, extraValues, List.forall₂_map_left_iff, List.forall₂_map_right_iff,
    List.forall₂_same]
  exact fun e he => ⟨rfl, Location.ofTree?_value (h.extra_fits e he).2⟩

/-- The members of a token that is an object. -/
def values (t : Token) : List (String × Value) := Keyed.ofList (t.ownValues ++ t.extraValues)

/-- Under the keys of the token's own members stands what it has of them, and nothing else. -/
theorem find?_ownValues (t : Token) (key : String) :
    Keyed.find? key (Keyed.ofList t.ownValues) =
      if key = "type" then some (.string t.kind)
      else if key = "value" then some (.string t.value)
      else if key = "range" then t.range.map rangeValue
      else if key = defaultProperty then t.loc.map Location.value
      else none := by
  rcases t with ⟨kind, value, _ | l, _ | r, extra⟩
  all_goals
    simp only [ownValues, Keyed.ofList, List.cons_append, List.nil_append, List.foldl_cons,
      List.foldl_nil, Keyed.find?_insert, Keyed.find?_nil, defaultProperty]
    grind

theorem find?_extraValues (t : Token) (key : String) :
    Keyed.find? key t.extraValues = (t.extra.find? key).map Location.value := by
  rw [extraValues, KeyMap.find?]
  induction t.extra.entries with
  | nil => rfl
  | cons e entries ih =>
    rw [List.map_cons, Keyed.find?, Keyed.find?, ih]
    split <;> rfl

/-- The members of a token that is an object are its own and its other locations, which do not hide
one another. -/
theorem find?_values {t : Token} (h : t.Sound) (key : String) :
    Keyed.find? key t.values = t.member? key := by
  have hascending : Ascending t.extraValues := List.pairwise_map.2 t.extra.ascending
  have hfind := Keyed.find?_foldl_insert hascending key (Keyed.ofList t.ownValues)
  rw [values, Keyed.ofList, List.foldl_append]
  refine hfind.trans ?_
  rw [find?_ownValues, find?_extraValues, member?, location?]
  by_cases hkey : key ∈ memberKeys
  · have hnone : t.extra.find? key = none :=
      Keyed.find?_eq_none fun e he heq => (h.extra_fits e he).1 (heq ▸ hkey)
    rw [hnone]
    grind [memberKeys, defaultProperty]
  · grind [memberKeys, defaultProperty]

/-! ## Attaching locations -/

variable {property : String} {l : Location} {t : Token}

/-- A location changes the member under its property and the range. -/
theorem member?_stamp (hproperty : property ∉ ownKeys) (key : String) :
    (stamp property l t).member? key =
      if rangeKey = key then some (rangeValue l.range)
      else if property = key then some l.value
      else t.member? key := by
  rw [member?, member?, kind_stamp, value_stamp, range_stamp hproperty, location?_stamp hproperty]
  grind [ownKeys, rangeKey]

/-- The object takes the location where the token does. -/
theorem values_stamp (ht : t.Sound) (hl : l.Fits) (hproperty : property ∉ ownKeys) :
    (stamp property l t).values =
      Keyed.insert rangeKey (rangeValue l.range) (Keyed.insert property l.value t.values) := by
  have hvalues : Ascending t.values := Keyed.ascending_ofList _
  refine Keyed.ext_find? (Keyed.ascending_ofList _)
    (Keyed.ascending_insert _ _ (Keyed.ascending_insert _ _ hvalues)) fun key => ?_
  rw [find?_values (ht.stamp property hl), Keyed.find?_insert, Keyed.find?_insert,
    find?_values ht, member?_stamp hproperty]

theorem attach?_of_notMem_ownKeys (hproperty : property ∉ ownKeys) :
    Locate.attach? property l t = some (stamp property l t) := by
  have hattach : Locate.attach? property l t = attach? property l t := rfl
  rw [stamp, hattach, attach?, if_neg hproperty]
  split <;> rfl

theorem attach?_toValue (ht : t.Sound) (hl : l.Fits) (hproperty : property ∉ ownKeys) :
    Locate.attach? property l t.toValue = some (stamp property l t).toValue := by
  have hrange : property ≠ rangeKey := fun heq => hproperty (heq ▸ by decide)
  have hattach : Locate.attach? property l t.toValue =
      (Object.attach? property l ⟨t.values⟩).map fun o => .object o.members := rfl
  have hstamp : (stamp property l t).toValue = .object (stamp property l t).values := rfl
  rw [hattach, Object.attach?, if_neg hrange, hstamp, values_stamp ht hl hproperty]
  rfl

end Token

/-- The token after locations have been attached under properties, in order, if it has a place for
all of them. -/
def attachEach? {τ : Type} [Locate τ] (steps : List (String × Location)) (t : τ) : Option τ :=
  steps.foldlM (fun t step => Locate.attach? step.1 step.2 t) t

namespace Token

/-- **Tokens and JSON objects carry locations alike.** A token becomes a JSON value and is given
locations, or it is given the locations first: under properties that it does not keep for itself,
both succeed and give the same value. -/
theorem attachEach?_toValue {t : Token} (ht : t.Sound) {steps : List (String × Location)}
    (hsteps : ∀ step ∈ steps, Locate.reserves Token step.1 = false ∧ step.2.Fits) :
    ∃ v t' v', Value.ofTree? t.tree = some v ∧ attachEach? steps t = some t' ∧
      attachEach? steps v = some v' ∧ Value.ofTree? t'.tree = some v' := by
  induction steps generalizing t with
  | nil => exact ⟨_, t, _, ofTree?_toValue ht, rfl, rfl, ofTree?_toValue ht⟩
  | cons step steps ih =>
    obtain ⟨hreserved, hl⟩ := hsteps step List.mem_cons_self
    have hproperty : step.1 ∉ ownKeys := of_decide_eq_false hreserved
    obtain ⟨v, t', v', hv, ht', hv', hvalue⟩ := ih (ht.stamp step.1 hl)
      fun later hmem => hsteps later (List.mem_cons_of_mem step hmem)
    -- the induction begins with the value of the token that has the first location
    obtain rfl : (stamp step.1 step.2 t).toValue = v :=
      Option.some.inj ((ofTree?_toValue (ht.stamp step.1 hl)).symm.trans hv)
    refine ⟨t.toValue, t', v', ofTree?_toValue ht, ?_, ?_, hvalue⟩
    · rw [attachEach?, List.foldlM_cons, attach?_of_notMem_ownKeys hproperty]
      exact ht'
    · rw [attachEach?, List.foldlM_cons, attach?_toValue ht hl hproperty]
      exact hv'

/-- A token with a location and another one, both of which are replaced, the second by one that ends
before it starts. -/
theorem attachEach?_toValue_replaces :
    let l : Location := ⟨some "a\"", ⟨0, 1, 0⟩, ⟨18446744073709551615, 2, 0⟩⟩
    let m : Location := ⟨none, ⟨3, 1, 3⟩, ⟨2, 1, 2⟩⟩
    let t : Token := ⟨"type", "é", some l, some (5, 6), KeyMap.empty.insert "z" l⟩
    let steps := [("z", m), ("loc", m), ("é", l)]
    t.Sound ∧ (∀ step ∈ steps, Locate.reserves Token step.1 = false ∧ step.2.Fits) ∧
      ∃ v t' v', Value.ofTree? t.tree = some v ∧ attachEach? steps t = some t' ∧
        attachEach? steps v = some v' ∧ Value.ofTree? t'.tree = some v' := by
  intro l m t steps
  have hl : l.Fits := ⟨⟨by decide, by decide, by decide⟩, ⟨by decide, by decide, by decide⟩⟩
  have hm : m.Fits := ⟨⟨by decide, by decide, by decide⟩, ⟨by decide, by decide, by decide⟩⟩
  have ht : t.Sound := by
    refine ⟨?_, ?_, fun e he => ?_⟩
    · rintro l' ⟨⟩
      exact hl
    · rintro r ⟨⟩
      decide
    · cases List.mem_singleton.1 he
      exact ⟨by decide, hl⟩
  have hsteps : ∀ step ∈ steps, Locate.reserves Token step.1 = false ∧ step.2.Fits := by
    intro step hstep
    simp only [steps, List.mem_cons, List.not_mem_nil, or_false] at hstep
    rcases hstep with rfl | rfl | rfl
    · exact ⟨by decide, hm⟩
    · exact ⟨by decide, hm⟩
    · exact ⟨by decide, hl⟩
  exact ⟨ht, hsteps, attachEach?_toValue ht hsteps⟩

end Token

end Locus
