import Mathlib.Data.List.Induction
import Locus.Emitter
import Locus.Proofs.Keys

/-!
# Who hears an event

An emitter against the history of what was done to it. Main statements: an event is heard by the
listeners that were registered for it since it was last cleared, in the order of their
registration, whatever was done about other events in between; and all that an emitter answers and
shows is told by its history in this way.
-/

namespace Locus.Emitter

variable {ι : Type}

/-- What can be done to an emitter. -/
inductive Change (ι : Type) where
  | on (event : String) (id : ι)
  | off (event : String)

/-- The emitter after a change. -/
def Change.apply (e : Emitter ι) : Change ι → Emitter ι
  | .on event id => e.on event id
  | .off event => e.off event

/-- The emitter that comes of a history of changes. -/
def ofChanges (changes : List (Change ι)) : Emitter ι := changes.foldl Change.apply .empty

/-- The listeners of an event after a change, where `ids` are those before it. -/
def Change.register (event : String) (ids : List ι) : Change ι → List ι
  | .on name id => if name = event then ids ++ [id] else ids
  | .off name => if name = event then [] else ids

/-- The listeners that a history registers for an event since it was last cleared, in order. -/
def registered (event : String) (changes : List (Change ι)) : List ι :=
  changes.foldl (Change.register event) []

/-- A new listener is the last of its event, and no other event has it. -/
theorem heardBy_on (e : Emitter ι) (event event' : String) (id : ι) :
    (e.on event id).heardBy event' =
      if event = event' then e.heardBy event' ++ [id] else e.heardBy event' := by
  obtain ⟨entries⟩ := e
  rw [on]
  induction entries with
  | nil =>
    rw [addListener, heardBy, heardBy, List.find?_cons]
    by_cases h : event = event'
    · simp [h]
    · simp [h]
  | cons entry rest ih =>
    obtain ⟨name, ids⟩ := entry
    rw [addListener]
    rw [heardBy, heardBy] at ih ⊢
    dsimp only at ih ⊢
    by_cases hname : name = event
    · subst hname
      rw [if_pos rfl, List.find?_cons, List.find?_cons]
      by_cases h : name = event'
      · simp [h]
      · simp [h]
    · rw [if_neg hname, List.find?_cons, List.find?_cons]
      by_cases h : name = event'
      · -- the first entry is that of `event'`, so `event` is another one
        subst h
        simp [Ne.symm hname]
      · simpa [h] using ih

/-- A cleared event has no listeners, and all other events keep theirs. -/
theorem heardBy_off (e : Emitter ι) (event event' : String) :
    (e.off event).heardBy event' = if event = event' then [] else e.heardBy event' := by
  rw [off, heardBy, List.find?_filter]
  by_cases h : event = event'
  · subst h
    have hnone : (e.listeners.find? fun _ => false) = none := by simp [List.find?_eq_none]
    simp [hnone]
  · -- an entry of `event'` is not one of `event`, so it is still there
    have hsame : (fun entry : String × List ι =>
        decide (decide (entry.1 ≠ event) = true ∧ decide (entry.1 = event') = true)) =
          fun entry => decide (entry.1 = event') := by
      funext entry
      by_cases h' : entry.1 = event'
      · simp [h', Ne.symm h]
      · simp [h']
    rw [hsame, if_neg h]
    rfl

/-- One change, as the listeners of an event see it. -/
theorem heardBy_apply (e : Emitter ι) (c : Change ι) (event : String) :
    (c.apply e).heardBy event = c.register event (e.heardBy event) := by
  cases c with
  | on name id => exact heardBy_on e name event id
  | off name => exact heardBy_off e name event

/-- **Who hears an event is read off the history.** -/
theorem heardBy_ofChanges (changes : List (Change ι)) (event : String) :
    (ofChanges changes).heardBy event = registered event changes := by
  -- from any emitter on, so that the history can be taken apart at its front
  have hfold : ∀ e : Emitter ι, (changes.foldl Change.apply e).heardBy event =
      changes.foldl (Change.register event) (e.heardBy event) := by
    induction changes with
    | nil => exact fun e => rfl
    | cons c changes ih =>
      intro e
      rw [List.foldl_cons, List.foldl_cons, ih, heardBy_apply]
  exact hfold .empty

/-! ## Since an event was last cleared -/

/-- Whether a change clears the event. -/
def Change.clears (event : String) : Change ι → Bool
  | .on _ _ => false
  | .off name => name = event

/-- The listener that a change adds to the event. -/
def Change.added? (event : String) : Change ι → Option ι
  | .on name id => if name = event then some id else none
  | .off _ => none

/-- The changes since the event was last cleared, or since the start. -/
def sinceCleared (event : String) (changes : List (Change ι)) : List (Change ι) :=
  (changes.reverse.takeWhile fun c => !c.clears event).reverse

/-- What a history registers are the listeners that were added since the event was last cleared. -/
theorem registered_eq (event : String) (changes : List (Change ι)) :
    registered event changes = (sinceCleared event changes).filterMap (Change.added? event) := by
  induction changes using List.reverseRecOn with
  | nil => rfl
  | append_singleton changes c ih =>
    have hfold :
        registered event (changes ++ [c]) = c.register event (registered event changes) := by
      rw [registered, List.foldl_concat]
      rfl
    rw [hfold, ih, sinceCleared, sinceCleared, List.reverse_append, List.reverse_singleton,
      List.singleton_append, List.takeWhile_cons]
    cases c with
    | on name id =>
      by_cases hname : name = event
      · simp [Change.register, Change.clears, Change.added?, hname]
      · simp [Change.register, Change.clears, Change.added?, hname]
    | off name =>
      by_cases hname : name = event
      · simp [Change.register, Change.clears, hname]
      · simp [Change.register, Change.clears, Change.added?, hname]

/-! ## Entries -/

/-- Every event has one entry at most, and an event without listeners has none. -/
structure Tidy (e : Emitter ι) : Prop where
  nodup : (e.listeners.map (·.1)).Nodup
  nonempty : ∀ entry ∈ e.listeners, entry.2 ≠ []

theorem tidy_empty : (empty : Emitter ι).Tidy := ⟨List.nodup_nil, by simp [empty]⟩

theorem Tidy.off {e : Emitter ι} (h : e.Tidy) (event : String) : (e.off event).Tidy where
  nodup := h.nodup.sublist (List.filter_sublist.map _)
  nonempty entry hentry := h.nonempty entry (List.mem_filter.1 hentry).1

theorem names_addListener (event : String) (id : ι) (entries : List (String × List ι)) :
    (addListener event id entries).map (·.1) =
      if event ∈ entries.map (·.1) then entries.map (·.1) else entries.map (·.1) ++ [event] := by
  induction entries with
  | nil => simp [addListener]
  | cons entry rest ih =>
    obtain ⟨name, ids⟩ := entry
    rw [addListener]
    by_cases hname : name = event
    · simp [hname]
    · rw [if_neg hname, List.map_cons, ih]
      by_cases hrest : event ∈ rest.map (·.1)
      · simp [hrest]
      · simp [hrest, Ne.symm hname]

theorem ne_nil_of_mem_addListener {event : String} {id : ι} {entries : List (String × List ι)}
    (h : ∀ entry ∈ entries, entry.2 ≠ []) :
    ∀ entry ∈ addListener event id entries, entry.2 ≠ [] := by
  induction entries with
  | nil => simp [addListener]
  | cons entry rest ih =>
    obtain ⟨name, ids⟩ := entry
    rw [List.forall_mem_cons] at h
    rw [addListener]
    split
    · exact List.forall_mem_cons.2 ⟨by simp, h.2⟩
    · exact List.forall_mem_cons.2 ⟨h.1, ih h.2⟩

theorem Tidy.on {e : Emitter ι} (h : e.Tidy) (event : String) (id : ι) : (e.on event id).Tidy where
  nodup := by
    have hnames := names_addListener event id e.listeners
    rw [Emitter.on, hnames]
    split
    · exact h.nodup
    · next hnew => simpa using h.nodup.concat hnew
  nonempty := ne_nil_of_mem_addListener h.nonempty

/-- So it is after any history. -/
theorem tidy_ofChanges (changes : List (Change ι)) : (ofChanges changes).Tidy := by
  refine List.foldlRecOn changes Change.apply tidy_empty fun e h c _ => ?_
  cases c with
  | on event id => exact h.on event id
  | off event => exact h.off event

/-- An event has its entry exactly if it has listeners, and then the entry holds them. -/
theorem Tidy.mem_listeners_iff {e : Emitter ι} (h : e.Tidy) {event : String} {ids : List ι} :
    (event, ids) ∈ e.listeners ↔ e.heardBy event = ids ∧ ids ≠ [] := by
  rw [heardBy]
  constructor
  · intro hmem
    have hfind : e.listeners.find? (fun entry => entry.1 = event) = some (event, ids) :=
      (find?_key_eq_some_iff h.nodup).2 ⟨hmem, rfl⟩
    rw [hfind]
    exact ⟨rfl, h.nonempty _ hmem⟩
  · rintro ⟨hids, hne⟩
    split at hids
    · next entry hfind =>
      obtain ⟨hmem, rfl⟩ := (find?_key_eq_some_iff h.nodup).1 hfind
      rwa [← hids]
    · exact absurd hids.symm hne

/-- When an event is cleared, as many listeners are removed as it has. -/
theorem Tidy.removed_eq {e : Emitter ι} (h : e.Tidy) (event : String) :
    e.removed event = e.count event := by
  rw [removed, filter_key_eq h.nodup, count, heardBy]
  split
  · next entry hfind => rw [hfind]; simp
  · next hfind => rw [hfind]; rfl

/-! ## Emitters over time -/

variable {τ : Type}

/-- What can be done with an emitter: listeners come and go, and events are emitted. -/
inductive Act (ι τ : Type) where
  | change (c : Change ι)
  | emit (event : String) (payload : τ)

/-- What comes of an act: who hears what, in order, and the number that is handed back. -/
structure Outcome (ι τ : Type) where
  heard : List (ι × τ)
  number : Option Nat

namespace Act

/-- The emitter after an act. -/
def apply (e : Emitter ι) : Act ι τ → Emitter ι
  | .change c => c.apply e
  | .emit _ _ => e

/-- What comes of an act. -/
def outcome (e : Emitter ι) : Act ι τ → Outcome ι τ
  | .change (.on _ _) => ⟨[], none⟩
  | .change (.off event) => ⟨[], some (e.removed event)⟩
  | .emit event payload =>
    let heard := e.emit event payload
    ⟨heard, some heard.length⟩

/-- The change that an act makes, if it makes one. -/
def change? : Act ι τ → Option (Change ι)
  | .change c => some c
  | .emit _ _ => none

end Act

/-- What comes of several acts, one after another. -/
def outcomes (e : Emitter ι) : List (Act ι τ) → List (Outcome ι τ)
  | [] => []
  | a :: as => a.outcome e :: outcomes (a.apply e) as

/-- The listeners that were registered for an event since it was last cleared, or since the start,
in the order of their registration. -/
def listening (event : String) (past : List (Act ι τ)) : List ι :=
  (sinceCleared event (past.filterMap Act.change?)).filterMap (Change.added? event)

/-- What is to come of an act, by what was done before it. -/
def Act.expected (past : List (Act ι τ)) : Act ι τ → Outcome ι τ
  | .change (.on _ _) => ⟨[], none⟩
  | .change (.off event) => ⟨[], some (listening event past).length⟩
  | .emit event payload =>
    ⟨(listening event past).map fun id => (id, payload), some (listening event past).length⟩

/-- Emitting changes nothing, so that the changes alone tell the emitter. -/
theorem foldl_apply_eq (acts : List (Act ι τ)) (e : Emitter ι) :
    acts.foldl Act.apply e = (acts.filterMap Act.change?).foldl Change.apply e := by
  induction acts generalizing e with
  | nil => rfl
  | cons a acts ih =>
    rw [List.foldl_cons, ih]
    cases a with
    | change c => rfl
    | emit event payload => rfl

theorem heardBy_foldl_apply (acts : List (Act ι τ)) (event : String) :
    (acts.foldl Act.apply empty).heardBy event = listening event acts := by
  rw [foldl_apply_eq, listening, ← registered_eq]
  exact heardBy_ofChanges _ event

theorem tidy_foldl_apply (acts : List (Act ι τ)) :
    (acts.foldl Act.apply (empty : Emitter ι)).Tidy := by
  rw [foldl_apply_eq]
  exact tidy_ofChanges _

/-- What comes of one act after others. -/
theorem outcome_eq_expected (past : List (Act ι τ)) (a : Act ι τ) :
    a.outcome (past.foldl Act.apply empty) = a.expected past := by
  have hheard := heardBy_foldl_apply past
  cases a with
  | change c =>
    cases c with
    | on event id => rfl
    | off event => rw [Act.outcome, (tidy_foldl_apply past).removed_eq, count, hheard, Act.expected]
  | emit event payload => simp [Act.outcome, Act.expected, Emitter.emit, hheard]

/-- What comes of further acts, by induction on them. -/
theorem outcomes_foldl_apply (past acts : List (Act ι τ)) :
    outcomes (past.foldl Act.apply empty) acts =
      acts.mapIdx fun i a => a.expected (past ++ acts.take i) := by
  induction acts generalizing past with
  | nil => rfl
  | cons a acts ih =>
    have hnext := ih (past ++ [a])
    rw [List.foldl_concat] at hnext
    rw [outcomes, hnext, outcome_eq_expected, List.mapIdx_cons]
    simp

/-- The text that shows events with their numbers of listeners, in any order. -/
def countsText (counts : List (String × Nat)) : String :=
  "Emitter \x7b listeners: \x7b" ++
    String.intercalate ", " (counts.map fun c => Quoted.quoteString c.1 ++ ": " ++ toString c.2) ++
    "\x7d \x7d"

/-- What an emitter shows are the events that have listeners. -/
theorem Tidy.display_eq {e : Emitter ι} (h : e.Tidy) :
    ∃ counts, e.display = countsText counts ∧ (counts.map (·.1)).Nodup ∧
      ∀ event n, (event, n) ∈ counts ↔ n = e.count event ∧ 0 < n := by
  refine ⟨e.listeners.map fun entry => (entry.1, entry.2.length), ?_, ?_, fun event n => ?_⟩
  · unfold display countsText
    rw [List.map_map]
    rfl
  · rw [List.map_map]
    exact h.nodup
  · rw [List.mem_map]
    constructor
    · rintro ⟨⟨name, ids⟩, hmem, heq⟩
      cases heq
      obtain ⟨hheard, hne⟩ := h.mem_listeners_iff.1 hmem
      rw [count, hheard]
      exact ⟨rfl, List.length_pos_iff.2 hne⟩
    · rintro ⟨rfl, hpos⟩
      exact ⟨(event, e.heardBy event), h.mem_listeners_iff.2 ⟨rfl, List.length_pos_iff.1 hpos⟩, rfl⟩

/-- **An emitter is told by its history.** Whatever is done, in any order and about any events: what
comes of each act is what was to come of it after those before it. Afterwards each event is heard by
the listeners that were registered for it since it was last cleared, which is how many it counts;
clearing an event takes its listeners and no others; and what is shown are exactly the events that
have listeners, each once and with their number. -/
theorem acts_told_by_history (acts : List (Act ι τ)) :
    let e := acts.foldl Act.apply empty
    outcomes empty acts = acts.mapIdx (fun i a => a.expected (acts.take i)) ∧
      (∀ event, e.heardBy event = listening event acts ∧
        e.count event = (listening event acts).length ∧
        e.hasListeners event = decide (0 < (listening event acts).length)) ∧
      (∀ event event', (e.off event).heardBy event' =
        if event = event' then [] else listening event' acts) ∧
      ∃ counts, e.display = countsText counts ∧ (counts.map (·.1)).Nodup ∧
        ∀ event n, (event, n) ∈ counts ↔ n = (listening event acts).length ∧ 0 < n := by
  intro e
  have hheard : ∀ event, e.heardBy event = listening event acts := heardBy_foldl_apply acts
  have hcount : ∀ event, e.count event = (listening event acts).length := fun event =>
    congrArg List.length (hheard event)
  have houtcomes := outcomes_foldl_apply (ι := ι) [] acts
  simp only [List.foldl_nil, List.nil_append] at houtcomes
  refine ⟨houtcomes, fun event => ⟨hheard event, hcount event, ?_⟩, fun event event' => ?_, ?_⟩
  · rw [hasListeners, hcount]
  · rw [heardBy_off, hheard]
  · obtain ⟨counts, htext, hnodup, hmem⟩ := (tidy_foldl_apply acts).display_eq
    refine ⟨counts, htext, hnodup, fun event n => ?_⟩
    rw [hmem, hcount]

end Locus.Emitter
