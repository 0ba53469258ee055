import Locus.Proofs.Handlers
import Locus.Proofs.LexFile

/-!
# The order of rules

The rules of a run, tried in the order in which they are given, against the rules that its lexer
holds. Main statements: a file is cut by the first of the rules given that matches, as long as no
two different rules share a name; and if they do, a later rule can be tried before an earlier one.
-/

namespace Locus.Command

/-! ## The rules as they are given -/

/-- How many characters the rule takes from what is left, if its pattern matches there and the
match is not empty. -/
def Rule.take? (rule : Rule) (rest : List Char) : Option Nat :=
  ((Regex.compile? rule.pattern.toList).bind fun r => r.matchLength? rest).filter (0 < ·)

/-- The first of the rules that takes something, and how many characters it takes. -/
def firstRule? (rules : List Rule) (rest : List Char) : Option (Rule × Nat) :=
  rules.findSome? fun rule => (rule.take? rest).map fun n => (rule, n)

/-- The rules, tried in the order given, cut the text from index `i` to index `k` into the pieces. -/
inductive CutsInOrder (rules : List Rule) (text : List Char) (source : Option String) :
    Nat → List (Token × Location) → Nat → Prop where
  | nil (i : Nat) : CutsInOrder rules text source i [] i
  | cons {i n k : Nat} {rule : Rule} {ps : List (Token × Location)}
      (hfirst : firstRule? rules (text.drop i) = some (rule, n))
      (rest : CutsInOrder rules text source (i + n) ps k) :
      CutsInOrder rules text source i (piece text source rule.name i n :: ps) k

theorem firstRule?_eq_none_iff {rules : List Rule} {rest : List Char} :
    firstRule? rules rest = none ↔ ∀ rule ∈ rules, rule.take? rest = none := by
  simp [firstRule?]

/-! ## The rules as a lexer holds them -/

/-- The rule as a lexer holds it, if its pattern makes sense. -/
def Rule.handler? (rule : Rule) : Option Handler :=
  (Regex.compile? rule.pattern.toList).map fun r => ⟨rule.name, r⟩

/-- If the rules are held one by one, the match that is taken is that of the first rule. -/
theorem firstMatch?_handlers_of_rules (rules : List Rule) (rest : List Char) :
    Lexer.firstMatch? (rules.filterMap Rule.handler?) rest =
      (firstRule? rules rest).map fun m => (m.1.name, m.2) := by
  rw [Lexer.firstMatch?, firstRule?, ← List.head?_filterMap, List.filterMap_filterMap,
    List.head?_filterMap, List.map_findSome?]
  congr 1
  funext rule
  rw [Rule.handler?, Function.comp_apply, Rule.take?]
  rcases Regex.compile? rule.pattern.toList with _ | r
  · rfl
  · rw [Option.map_some, Option.bind_some, Option.bind_some]
    dsimp only
    rcases r.matchLength? rest with _ | _ | n
    · rfl
    · rfl
    · rfl

/-- Rules that all make sense are registered in the order given. -/
theorem captureAll_rules {ι : Type} {rules : List Rule}
    (hsense : ∀ rule ∈ rules, rule.handler?.isSome) (l : Lexer ι) :
    l.captureAll (rules.map fun rule => (rule.name, rule.pattern)) =
      (.ok (), { l with
        handlers := (rules.filterMap Rule.handler?).foldl (fun hs h => Lexer.putHandler h hs)
          l.handlers }) := by
  induction rules generalizing l with
  | nil => rfl
  | cons rule rules ih =>
    obtain ⟨hrule, hrules⟩ := List.forall_mem_cons.1 hsense
    rw [Rule.handler?, Option.isSome_map] at hrule
    obtain ⟨r, hr⟩ := Option.isSome_iff_exists.1 hrule
    have hhandler : rule.handler? = some ⟨rule.name, r⟩ := by rw [Rule.handler?, hr]; rfl
    rw [List.map_cons, Lexer.captureAll, Lexer.capture, hr, List.filterMap_cons_some hhandler]
    exact ih hrules _

/-- Rules of which no two different ones share a name do not contradict each other. -/
theorem agree_of_names {rules : List Rule}
    (hnames : ∀ r ∈ rules, ∀ r' ∈ rules, r.name = r'.name → r = r') :
    Lexer.Agree (rules.filterMap Rule.handler?) := by
  intro g hg h hh hkind
  obtain ⟨r, hr, hgr⟩ := List.mem_filterMap.1 hg
  obtain ⟨r', hr', hhr⟩ := List.mem_filterMap.1 hh
  have hgname : g.kind = r.name := by
    obtain ⟨_, -, rfl⟩ := Option.map_eq_some_iff.1 hgr
    rfl
  have hhname : h.kind = r'.name := by
    obtain ⟨_, -, rfl⟩ := Option.map_eq_some_iff.1 hhr
    rfl
  obtain rfl := hnames r hr r' hr' (by rw [← hgname, ← hhname, hkind])
  exact Option.some.inj (hgr.symm.trans hhr)

/-- The lexer of a file takes the match of the first rule given. -/
theorem firstMatch?_lexer {c : Config} (hgiven : c.rules ≠ [])
    (hsense : ∀ rule ∈ c.rules, rule.handler?.isSome)
    (hnames : ∀ r ∈ c.rules, ∀ r' ∈ c.rules, r.name = r'.name → r = r')
    (path text : String) (rest : List Char) :
    Lexer.firstMatch? (c.lexer path text).2.handlers rest =
      (firstRule? c.rules rest).map fun m => (m.1.name, m.2) := by
  have hused : c.usedRules = c.rules := if_neg hgiven
  have hempty : (c.bareLexer path text).handlers = [] := rfl
  have hagree : Lexer.Agree ([] ++ c.rules.filterMap Rule.handler?) := agree_of_names hnames
  rw [Config.lexer, hused, captureAll_rules hsense, hempty,
    Lexer.firstMatch?_foldl_putHandler hagree, firstMatch?_handlers_of_rules]
  rfl

/-- What cuts by the rules of the lexer cuts by the rules given, in order. -/
theorem cutsInOrder_of_cuts {rules : List Rule} {handlers : List Handler}
    (hfirst : ∀ rest, Lexer.firstMatch? handlers rest =
      (firstRule? rules rest).map fun m => (m.1.name, m.2))
    {text : List Char} {source : Option String} {i k : Nat} {ps : List (Token × Location)}
    (h : Cuts handlers text source i ps k) : CutsInOrder rules text source i ps k := by
  induction h with
  | nil i => exact .nil i
  | cons hmatch _ ih =>
    rw [hfirst] at hmatch
    obtain ⟨⟨rule, n⟩, hrule, heq⟩ := Option.map_eq_some_iff.1 hmatch
    cases heq
    exact .cons hrule ih

/-! ## The order that is promised, and where it is not kept -/

/-- **Rules are tried in the order given.** Of rules that all make sense, and no two different ones
of which share a name, every token of a file is cut off by the first one given that takes something
there. If that does not come to the end of the text, it fails at a place where none of the rules
given takes anything. -/
theorem rules_tried_in_order (c : Config) (hgiven : c.rules ≠ [])
    (hsense : ∀ rule ∈ c.rules, (Regex.compile? rule.pattern.toList).isSome)
    (hnames : ∀ r ∈ c.rules, ∀ r' ∈ c.rules, r.name = r'.name → r = r') (path text : String) :
    let chars := text.toList
    ∃ ps i, CutsInOrder c.rules chars (some (c.label path)) 0 ps i ∧
      (i = chars.length ∧ c.lexFile path text = .ok (stampAll c.property ps) ∨
        (∀ rule ∈ c.rules, rule.take? (chars.drop i) = none) ∧ ∃ ch, chars[i]? = some ch ∧
          c.lexFile path text = .error (.unmatched (Position.ofIndex chars i) (c.label path)
            (Utf8.size (chars.take i)) ch.utf8Size)) := by
  intro chars
  have hsense' : ∀ rule ∈ c.rules, rule.handler?.isSome := by
    intro rule hrule
    rw [Rule.handler?, Option.isSome_map]
    exact hsense rule hrule
  have hbad : c.badRule? = none := by
    have hused : c.usedRules = c.rules := if_neg hgiven
    rw [Config.badRule?, hused, List.find?_eq_none]
    intro rule hrule
    have hsome := hsense rule hrule
    rw [Option.isSome_iff_ne_none] at hsome
    simpa using hsome
  have hfirst := firstMatch?_lexer hgiven hsense' hnames path text
  have hcases := lexFile_cases c path text
  rw [hbad] at hcases
  obtain ⟨ps, i, hcuts, hend⟩ := hcases
  refine ⟨ps, i, cutsInOrder_of_cuts hfirst hcuts, ?_⟩
  rcases hend with hall | ⟨hnone, hfail⟩
  · exact .inl hall
  · rw [hfirst, Option.map_eq_none_iff, firstRule?_eq_none_iff] at hnone
    exact .inr ⟨hnone, hfail⟩

/-- The first rule matches nothing but blanks, the second and third overlap, and the last is the
second once more. -/
theorem rules_tried_in_order_overlapping :
    let c : Config :=
      ⟨["p"], [⟨"blank", " *"⟩, ⟨"word", "[a-z]+"⟩, ⟨"any", "."⟩, ⟨"word", "[a-z]+"⟩], "at", none,
        .text⟩
    (∀ rule ∈ c.rules, (Regex.compile? rule.pattern.toList).isSome) ∧
      (∀ r ∈ c.rules, ∀ r' ∈ c.rules, r.name = r'.name → r = r') ∧
      ∃ ps, CutsInOrder c.rules ['a', 'b', '1'] (some "p") 0 ps 3 ∧
        c.lexFile "p" "ab1" = .ok (stampAll "at" ps) := by
  intro c
  have hsense : ∀ rule ∈ c.rules, (Regex.compile? rule.pattern.toList).isSome := by decide +kernel
  have hnames : ∀ r ∈ c.rules, ∀ r' ∈ c.rules, r.name = r'.name → r = r' := by decide +kernel
  refine ⟨hsense, hnames, ?_⟩
  obtain ⟨ps, i, hcuts, ⟨rfl, hok⟩ | ⟨-, ch, -, herror⟩⟩ :=
    rules_tried_in_order c (List.cons_ne_nil _ _) hsense hnames "p" "ab1"
  · exact ⟨ps, hcuts, hok⟩
  · have hsome : (c.lexFile "p" "ab1").toOption.isSome = true := by decide +kernel
    rw [herror] at hsome
    cases hsome

/-- A name that is given again is tried where it was given first, but with its last pattern. So the
second of these rules is tried where the first one should be, and the third before the second. -/
theorem repeated_name_tried_out_of_order :
    let c : Config :=
      ⟨["f"], [⟨"a", "x"⟩, ⟨"b", "[xy]"⟩, ⟨"a", "y"⟩], defaultProperty, none, .json⟩
    ["a=x", "b=[xy]", "a=y"].map Rule.ofText? = c.rules.map some ∧
      (∀ rule ∈ c.rules, (Regex.compile? rule.pattern.toList).isSome) ∧
      firstRule? c.rules ['x', 'y'] = some (⟨"a", "x"⟩, 1) ∧
      firstRule? c.rules ['y'] = some (⟨"b", "[xy]"⟩, 1) ∧
      (c.lexFile "f" "xy").map (List.map Token.kind) = .ok ["b", "a"] ∧
      ¬ ∃ ps, CutsInOrder c.rules ['x', 'y'] (some "f") 0 ps 2 ∧
        c.lexFile "f" "xy" = .ok (stampAll c.property ps) := by
  intro c
  have hfirst : firstRule? c.rules ['x', 'y'] = some (⟨"a", "x"⟩, 1) := by decide +kernel
  have hkinds : (c.lexFile "f" "xy").map (List.map Token.kind) = .ok ["b", "a"] := by
    decide +kernel
  refine ⟨by decide +kernel, by decide +kernel, hfirst, by decide +kernel, hkinds, ?_⟩
  rintro ⟨ps, hcuts, hlex⟩
  cases hcuts with
  | @cons _ n _ rule ps hrule rest =>
    -- the first piece would have to be of the first rule
    rw [List.drop_zero, hfirst] at hrule
    cases hrule
    rw [hlex] at hkinds
    simp [Except.map, stampAll, piece, Token.ofKind] at hkinds

end Locus.Command
