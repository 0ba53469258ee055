import Mathlib.Data.List.Induction
import Locus.Proofs.Handlers

/-!
# The rules after any history

Rules are registered one by one or in rows, and some of them make no sense. The reference here is
the plain list of the registrations that have succeeded, in order. Main statement: a lexer holds
the kinds of that list, each where it occurs first, and for each kind the rule that occurs last; a
rule that makes no sense is refused by its kind and changes nothing, and a row is registered up to
the first of these.
-/

namespace Locus.Lexer

variable {ι : Type}

/-! ## Registrations that succeed -/

/-- Whether the pattern of a rule, given as a kind and a pattern, makes sense. -/
def makesSense (rule : String × String) : Bool := (Regex.compile? rule.2.toList).isSome

/-- The rules after a registration. -/
def register (hs : List Handler) (rule : String × String) : List Handler :=
  match Regex.compile? rule.2.toList with
  | some r => putHandler ⟨rule.1, r⟩ hs
  | none => hs

/-- The rules that are registered by what is done with a lexer: one that makes sense, or those of a
row before the first that does not. -/
def Use.registers : Use ι → List (String × String)
  | .capture kind pattern => [(kind, pattern)].filter makesSense
  | .captureAll rules => rules.takeWhile makesSense
  | _ => []

/-- The pattern that was registered last for a kind. -/
def lastPattern? (kind : String) (rules : List (String × String)) : Option String :=
  (rules.filter fun rule => rule.1 = kind).getLast?.map Prod.snd

theorem lastPattern?_concat (kind : String) (rules : List (String × String))
    (rule : String × String) :
    lastPattern? kind (rules ++ [rule]) =
      if rule.1 = kind then some rule.2 else lastPattern? kind rules := by
  have hlast : ∀ rules, lastPattern? kind rules = Keyed.lastWhere? (fun k => k = kind) rules :=
    fun _ => rfl
  rw [hlast, hlast, Keyed.lastWhere?_append, Keyed.lastWhere?_singleton]
  by_cases h : rule.1 = kind
  · rw [if_pos (decide_eq_true h), if_pos h]
    rfl
  · rw [if_neg (mt of_decide_eq_true h), if_neg h]
    rfl

/-! ## What is held after registrations -/

/-- A rule that is held after one has been put is that one, or an older one of another kind. -/
theorem mem_putHandler {g h : Handler} {hs : List Handler} (hn : (hs.map Handler.kind).Nodup)
    (hg : g ∈ putHandler h hs) : g = h ∨ g ∈ hs ∧ h.kind ≠ g.kind := by
  induction hs with
  | nil => exact .inl (List.mem_singleton.1 hg)
  | cons f rest ih =>
    obtain ⟨hfirst, hrest⟩ := List.nodup_cons.1 hn
    rw [putHandler] at hg
    split at hg
    · next hkind =>
      rcases List.mem_cons.1 hg with rfl | hg
      · exact .inl rfl
      · -- `f` was the only rule of its kind
        refine .inr ⟨List.mem_cons_of_mem _ hg, fun hsame => hfirst ?_⟩
        rw [hkind, hsame]
        exact List.mem_map_of_mem hg
    · next hkind =>
      rcases List.mem_cons.1 hg with rfl | hg
      · exact .inr ⟨List.mem_cons_self, Ne.symm hkind⟩
      · exact (ih hrest hg).imp_right fun h => ⟨List.mem_cons_of_mem _ h.1, h.2⟩

/-- The rules that are held, told by the registrations: induction on these, from the last one
backwards, since it is the last one of a kind that counts. -/
theorem foldl_register {rules : List (String × String)} (hrules : ∀ r ∈ rules, makesSense r) :
    let hs := rules.foldl register []
    hs.map Handler.kind = (rules.map Prod.fst).eraseDups ∧ (hs.map Handler.kind).Nodup ∧
      ∀ h ∈ hs, ∃ pattern, lastPattern? h.kind rules = some pattern ∧
        Regex.compile? pattern.toList = some h.pattern := by
  intro hs
  induction rules using List.reverseRecOn with
  | nil => exact ⟨rfl, List.nodup_nil, fun h hh => absurd hh List.not_mem_nil⟩
  | append_singleton rules rule ih =>
    obtain ⟨hkinds, hn, hpatterns⟩ := ih fun r hr => hrules r (List.mem_append_left _ hr)
    obtain ⟨r, hr⟩ := Option.isSome_iff_exists.1 (hrules rule (by simp))
    have hput : hs = putHandler ⟨rule.1, r⟩ (rules.foldl register []) := by
      have hfold : hs = register (rules.foldl register []) rule := List.foldl_concat ..
      rw [hfold, register, hr]
    rw [hput]
    refine ⟨?_, nodup_putHandler hn, fun h hh => ?_⟩
    · rw [map_kind_putHandler, hkinds, List.map_append, List.map_singleton,
        List.eraseDups_append, List.removeAll]
      by_cases hold : rule.1 ∈ rules.map Prod.fst
      · simp [hold]
      · simp [hold, List.eraseDups_cons]
    · rcases mem_putHandler hn hh with rfl | ⟨hold, hne⟩
      · exact ⟨rule.2, by rw [lastPattern?_concat, if_pos rfl], hr⟩
      · obtain ⟨pattern, hlast, hcompile⟩ := hpatterns h hold
        exact ⟨pattern, by rw [lastPattern?_concat, if_neg hne, hlast], hcompile⟩

/-! ## What is done with a lexer -/

/-- A row registers its rules one after another, up to the first that makes no sense. -/
theorem captureAll_eq_foldl (rules : List (String × String)) (l : Lexer ι) :
    (l.captureAll rules).2 = (rules.takeWhile makesSense).foldl
      (fun l rule => (Use.capture rule.1 rule.2).apply l) l := by
  induction rules generalizing l with
  | nil => rfl
  | cons rule rules ih =>
    rw [captureAll, capture, List.takeWhile_cons, makesSense]
    rcases hcompile : Regex.compile? rule.2.toList with _ | r
    · rfl
    · have hone : (Use.capture rule.1 rule.2).apply l =
          { l with handlers := putHandler ⟨rule.1, r⟩ l.handlers } := by
        rw [Use.apply, capture, hcompile]
      rw [Option.isSome_some, if_pos rfl, List.foldl_cons, hone]
      exact ih _

theorem handlers_capture (kind pattern : String) (l : Lexer ι) :
    ((Use.capture kind pattern).apply l).handlers = register l.handlers (kind, pattern) := by
  rw [Use.apply, capture, register]
  rcases Regex.compile? pattern.toList with _ | r
  · rfl
  · rfl

/-- One use of a lexer registers the rules that it should and no others. -/
theorem Use.handlers_apply (u : Use ι) (l : Lexer ι) :
    (u.apply l).handlers = u.registers.foldl register l.handlers := by
  cases u with
  | capture kind pattern =>
    rw [handlers_capture, registers]
    rcases hcompile : Regex.compile? pattern.toList with _ | r
    · simp [makesSense, register, hcompile]
    · simp [makesSense, hcompile]
  | captureAll rules =>
    rw [apply, captureAll_eq_foldl, registers]
    generalize rules.takeWhile makesSense = rules
    induction rules generalizing l with
    | nil => rfl
    | cons rule rules ih => rw [List.foldl_cons, List.foldl_cons, ih, handlers_capture]
  | on event id => rfl
  | off event =>
    rw [apply]
    split <;> rfl
  | setInput input => rfl
  | call c => exact handlers_call c l
  | tokenize =>
    obtain ⟨ts, l', g, hstate, -⟩ := host.drain_cases finite l
    have hkept : l'.handlers = l.handlers :=
      g.keeps (P := fun m : Lexer ι => m.handlers = l.handlers)
        (fun m hm => (handlers_call .advance m).trans hm) rfl
    have hlast : (host.advance l').state.handlers = l'.handlers := handlers_call .advance l'
    exact (congrArg handlers hstate).trans (hlast.trans hkept)

/-- So does a history of uses, by induction on it. -/
theorem handlers_foldl_apply (uses : List (Use ι)) (l : Lexer ι) :
    (uses.foldl (fun l u => u.apply l) l).handlers =
      (uses.flatMap Use.registers).foldl register l.handlers := by
  induction uses generalizing l with
  | nil => rfl
  | cons u uses ih =>
    rw [List.foldl_cons, ih, u.handlers_apply, List.flatMap_cons, List.foldl_append]

theorem makesSense_of_mem_registers {u : Use ι} {rule : String × String} (h : rule ∈ u.registers) :
    makesSense rule := by
  cases u with
  | capture kind pattern => exact (List.mem_filter.1 h).2
  | captureAll rules => exact List.all_eq_true.1 List.all_takeWhile rule h
  | _ => cases h

/-- **The rules of a lexer are read off its history.** Whatever has been done with a lexer, its
kinds are those for which a rule has been registered with success, each once, in the order of the
first success, and the pattern of each is that of the last success. A rule is refused exactly if its
pattern makes no sense; the error names its kind, and the lexer stays as it is. Of a row the rules
before the first that makes no sense are registered as if one by one, and none from there on, and
the error, if there is one, is about that rule. -/
theorem rules_told_by_history (input : String) (options : LexerOptions) (uses : List (Use ι)) :
    let l := uses.foldl (fun l u => u.apply l) (ofInput input options)
    let registered := uses.flatMap Use.registers
    l.kinds = (registered.map Prod.fst).eraseDups ∧ l.kinds.Nodup ∧
      (∀ h ∈ l.handlers, ∃ pattern, lastPattern? h.kind registered = some pattern ∧
        Regex.compile? pattern.toList = some h.pattern) ∧
      (∀ kind pattern, (∃ e, l.capture kind pattern = .error e) ↔ ¬ makesSense (kind, pattern)) ∧
      (∀ kind pattern e, l.capture kind pattern = .error e →
        e = .invalidPattern kind ∧ (Use.capture kind pattern).apply l = l) ∧
      ∀ rules,
        (l.captureAll rules).2 = (rules.takeWhile makesSense).foldl
            (fun l rule => (Use.capture rule.1 rule.2).apply l) l ∧
          (l.captureAll rules).1 =
            match rules.find? fun rule => !makesSense rule with
            | none => .ok ()
            | some rule => .error (.invalidPattern rule.1) := by
  intro l registered
  have hsense : ∀ r ∈ registered, makesSense r := by
    intro r hr
    obtain ⟨u, -, hu⟩ := List.mem_flatMap.1 hr
    exact makesSense_of_mem_registers hu
  have hhandlers : l.handlers = registered.foldl register [] := handlers_foldl_apply uses _
  obtain ⟨hkinds, hn, hpatterns⟩ := foldl_register hsense
  rw [← hhandlers] at hkinds hn hpatterns
  refine ⟨hkinds, hn, hpatterns, fun kind pattern => ?_, fun kind pattern e he => ?_,
    fun rules => ⟨captureAll_eq_foldl rules l, ?_⟩⟩
  · rw [capture, makesSense]
    rcases Regex.compile? pattern.toList with _ | r
    · simp
    · simp
  · rw [Use.apply, he]
    rw [capture] at he
    split at he
    · cases he
    · cases he
      exact ⟨rfl, rfl⟩
  · rw [captureAll_outcome]
    have hsame : (fun rule : String × String => (Regex.compile? rule.2.toList).isNone) =
        fun rule => !makesSense rule := by
      funext rule
      rw [makesSense, Option.not_isSome]
    exact hsame ▸ rfl

/-- A kind is registered again inside a row whose third rule makes no sense, and another rule that
makes no sense is refused later. -/
theorem rules_told_by_history_with_refusals :
    let uses : List (Use Empty) :=
      [.capture "a" "x", .captureAll [("b", "[xy]"), ("a", "y+"), ("c", "(z"), ("d", "z")],
        .call .advance, .capture "b" "z)|(x"]
    let l := uses.foldl (fun l u => u.apply l) (ofInput "yx" .standard)
    l.kinds = ["a", "b"] ∧
      l.capture "b" "z)|(x" = .error (.invalidPattern "b") ∧
      (Use.capture "b" "z)|(x").apply l = l := by
  intro uses l
  obtain ⟨hkinds, -, -, hrefused, hstays, -⟩ := rules_told_by_history "yx" .standard uses
  have hlist : ((uses.flatMap Use.registers).map Prod.fst).eraseDups = ["a", "b"] := by
    decide +kernel
  have hsense : ¬ makesSense ("b", "z)|(x") := by decide +kernel
  obtain ⟨e, he⟩ := (hrefused "b" "z)|(x").2 hsense
  obtain ⟨rfl, hstay⟩ := hstays _ _ _ he
  exact ⟨hkinds.trans hlist, he, hstay⟩

end Locus.Lexer
