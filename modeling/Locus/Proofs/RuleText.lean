import Locus.Command.Rule
import Locus.Proofs.Regex
import Locus.Regex.Pattern

/-!
# What a rule looks like

The form of rules as a pattern, matched like any other pattern, against the reader that cuts an
argument at its first equals sign. Main statements: an argument is read exactly if the form matches
it, and what is read is a name and a pattern on one line; and a pattern with a line feed in it is
refused.
-/

namespace Locus.Command.Rule

/-- A letter of ASCII. -/
def IsLetter (c : Char) : Prop := ('A' ≤ c ∧ c ≤ 'Z') ∨ ('a' ≤ c ∧ c ≤ 'z')

/-- A letter or an underscore, and then letters, digits, underscores and dashes. -/
def Named (name : String) : Prop :=
  ∃ c cs, name.toList = c :: cs ∧ (IsLetter c ∨ c = '_') ∧
    ∀ d ∈ cs, IsLetter d ∨ ('0' ≤ d ∧ d ≤ '9') ∨ d = '_' ∨ d = '-'

/-- The form of a rule, as a pattern. -/
def form : String := "^([A-Za-z_][A-Za-z0-9_-]*)=(.+)$"

namespace Form

/-- The letters. -/
def letters (more : CharSet) : CharSet := .union (.range 'A' 'Z') (.union (.range 'a' 'z') more)

/-- The characters that a name may start with. -/
def first : CharSet := letters (.single '_')

/-- The characters that a name may go on with. -/
def further : CharSet := letters (.union (.range '0' '9') (.union (.single '_') (.single '-')))

/-- The characters that the dot stands for. -/
def inLine : CharSet := .compl (.single '\n')

/-- The first group of the form. -/
def name : Regex := .group true (.seq (.set first) (.loop true 0 none (.set further)))

/-- The second group of the form, and the anchor behind it. -/
def pattern : Regex := .seq (.group true (.loop true 1 none (.set inLine))) (.look .textEnd)

/-- What the form writes down after its first anchor. -/
def regex : Regex := .seq name (.seq (.set (.single '=')) pattern)

theorem ofPattern?_form :
    Regex.ofPattern? form.toList = some (.andThen (.look .textStart) regex) := by
  decide +kernel

theorem isAlpha_iff {c : Char} : c.isAlpha = true ↔ IsLetter c := by
  delta Char.isAlpha Char.isUpper Char.isLower
  simp only [Bool.or_eq_true, Bool.and_eq_true, decide_eq_true_eq]
  exact Iff.rfl

theorem isDigit_iff {c : Char} : c.isDigit = true ↔ '0' ≤ c ∧ c ≤ '9' := by
  delta Char.isDigit
  simp only [Bool.and_eq_true, decide_eq_true_eq]
  exact Iff.rfl

theorem startsName_iff {c : Char} : startsName c = true ↔ IsLetter c ∨ c = '_' := by
  simp only [startsName, Bool.or_eq_true, isAlpha_iff, decide_eq_true_eq]

theorem isNamePart_iff {c : Char} : isNamePart c = true ↔
    IsLetter c ∨ ('0' ≤ c ∧ c ≤ '9') ∨ c = '_' ∨ c = '-' := by
  simp only [isNamePart, Char.isAlphanum, Bool.or_eq_true, isAlpha_iff, isDigit_iff,
    decide_eq_true_eq, or_assoc]

/-- A name is what the reader takes for one. -/
theorem named_iff {name : String} : Named name ↔ isName name.toList = true := by
  rcases hname : name.toList with _ | ⟨c, cs⟩
  · simp [Named, isName, hname]
  · simp [Named, isName, hname, startsName_iff, isNamePart_iff]

theorem contains_first {c : Char} : first.contains c = true ↔ startsName c = true := by
  rw [startsName_iff]
  simp [first, letters, CharSet.contains, CharSet.contains_single, IsLetter, or_assoc]

theorem contains_further {c : Char} : further.contains c = true ↔ isNamePart c = true := by
  rw [isNamePart_iff]
  simp [further, letters, CharSet.contains, CharSet.contains_single, IsLetter, or_assoc]

theorem contains_inLine {c : Char} : inLine.contains c = true ↔ c ≠ '\n' := by
  simp [inLine, CharSet.contains, CharSet.contains_single]

/-- The first group of the form matches names. -/
theorem mem_ends_name {text : List Char} {n : Nat} :
    n ∈ Regex.ends none text name ↔
      ∃ name rest, name ++ rest = text ∧ isName name = true ∧ name.length = n := by
  rw [name, Regex.ends_group, Regex.mem_ends_seq_set]
  constructor
  · rintro ⟨c, cs, rfl, hc, m, hm, rfl⟩
    rw [Regex.mem_ends_any_set] at hm
    obtain ⟨run, rest, rfl, hrun, rfl⟩ := hm
    refine ⟨c :: run, rest, rfl, ?_, rfl⟩
    rw [isName, Bool.and_eq_true, List.all_eq_true]
    exact ⟨contains_first.1 hc, fun d hd => contains_further.1 (hrun d hd)⟩
  · rintro ⟨name, rest, rfl, hname, rfl⟩
    rcases name with _ | ⟨c, cs⟩
    · cases hname
    · rw [isName, Bool.and_eq_true, List.all_eq_true] at hname
      refine ⟨c, cs ++ rest, rfl, contains_first.2 hname.1, cs.length, ?_, rfl⟩
      rw [Regex.mem_ends_any_set]
      exact ⟨cs, rest, rfl, fun d hd => contains_further.2 (hname.2 d hd), rfl⟩

theorem isPattern_iff {text : List Char} : isPattern text = true ↔
    ∃ c cs, text = c :: cs ∧ c ≠ '\n' ∧ ∀ d ∈ cs, d ≠ '\n' := by
  cases text with
  | nil => simp [isPattern]
  | cons c cs => simp [isPattern]

/-- The second group with the anchor behind it matches all that is left, if it is a pattern. -/
theorem mem_ends_pattern {before : Option Char} {text : List Char} {n : Nat} :
    n ∈ Regex.ends before text pattern ↔
      isPattern text = true ∧ n = text.length := by
  rw [pattern, Regex.mem_ends_seq, Regex.ends_group, Regex.ends_some_set_eq_seq, isPattern_iff]
  constructor
  · rintro ⟨i, hi, j, hj, rfl⟩
    obtain ⟨c, cs, rfl, hc, m, hm, rfl⟩ := Regex.mem_ends_seq_set.1 hi
    obtain ⟨run, rest, rfl, hrun, rfl⟩ := Regex.mem_ends_any_set.1 hm
    rw [List.drop_succ_cons, List.drop_left, Regex.ends_look] at hj
    -- the anchor holds only where nothing is left
    rcases rest with _ | ⟨d, rest⟩
    · obtain rfl : j = 0 := List.mem_singleton.1 hj
      rw [List.append_nil]
      exact ⟨⟨c, run, rfl, contains_inLine.1 hc, fun d hd => contains_inLine.1 (hrun d hd)⟩, rfl⟩
    · cases hj
  · rintro ⟨⟨c, cs, rfl, hc, hcs⟩, rfl⟩
    refine ⟨cs.length + 1, ?_, 0, ?_, rfl⟩
    · exact Regex.mem_ends_seq_set.2 ⟨c, cs, rfl, contains_inLine.2 hc, cs.length,
        Regex.mem_ends_any_set.2 ⟨cs, [], List.append_nil cs,
          fun d hd => contains_inLine.2 (hcs d hd), rfl⟩, rfl⟩
    · rw [List.drop_succ_cons, List.drop_length, Regex.ends_look]
      exact List.mem_singleton_self 0

/-- The form matches all of a text that is read as a rule, and nothing of any other. -/
theorem mem_ends_regex {text : List Char} {n : Nat} :
    n ∈ Regex.ends none text regex ↔ (ofList? text).isSome = true ∧ n = text.length := by
  rw [regex, Regex.mem_ends_seq, Option.isSome_iff_exists, Prod.exists]
  simp only [mem_ends_name, Regex.mem_ends_seq_set, mem_ends_pattern, ofList?_eq_some_iff,
    CharSet.contains_single, decide_eq_true_eq]
  constructor
  · rintro ⟨i, ⟨name, rest, rfl, hname, rfl⟩, j, ⟨c, cs, hrest, rfl, m, ⟨hcs, rfl⟩, rfl⟩, rfl⟩
    rw [List.drop_left] at hrest
    subst hrest
    exact ⟨⟨name, cs, rfl, hname, hcs⟩, by simp⟩
  · rintro ⟨⟨name, cs, rfl, hname, hcs⟩, rfl⟩
    refine ⟨name.length, ⟨name, '=' :: cs, rfl, hname, rfl⟩, cs.length + 1, ?_, by simp⟩
    exact ⟨'=', cs, List.drop_left, rfl, cs.length, ⟨hcs, rfl⟩, rfl⟩

/-- Where the form is searched for, it is found at the start of a rule, and matches all of it. -/
theorem find?_form (text : List Char) :
    Regex.find? (.andThen (.look .textStart) regex) text =
      (ofList? text).map fun _ => (0, text.length) := by
  rw [Regex.find?_anchor_andThen]
  rcases hread : ofList? text with _ | rule
  · have hnone : Regex.ends none text regex = [] :=
      List.eq_nil_iff_forall_not_mem.2 fun n hn => by
        have hsome := (mem_ends_regex.1 hn).1
        rw [hread] at hsome
        cases hsome
    rw [hnone]
    rfl
  · have hsome : (ofList? text).isSome = true := by rw [hread]; rfl
    have hmem := mem_ends_regex.2 ⟨hsome, rfl⟩
    rcases hends : Regex.ends none text regex with _ | ⟨n, more⟩
    · rw [hends] at hmem
      cases hmem
    · have hn : n = text.length := (mem_ends_regex.1 (by rw [hends]; exact List.mem_cons_self)).2
      rw [hn]
      rfl

end Form

theorem toList_spelling (name pattern : String) :
    (name ++ "=" ++ pattern).toList = name.toList ++ '=' :: pattern.toList := by
  simp

/-- What is read are a name and a pattern on one line, and an equals sign parts them. -/
theorem ofText?_eq_some_iff {arg : String} {rule : Rule} :
    ofText? arg = some rule ↔ arg = rule.name ++ "=" ++ rule.pattern ∧ Named rule.name ∧
      rule.pattern ≠ "" ∧ '\n' ∉ rule.pattern.toList := by
  obtain ⟨name, pattern⟩ := rule
  have hpattern : isPattern pattern.toList = true ↔ pattern ≠ "" ∧ '\n' ∉ pattern.toList := by
    simp [isPattern, List.forall_mem_ne']
  have harg : arg = name ++ "=" ++ pattern ↔ arg.toList = name.toList ++ '=' :: pattern.toList := by
    rw [← String.toList_inj, toList_spelling]
  rw [Form.named_iff, harg, ← hpattern, ← ofList?_eq_some_iff, ofText?, Option.map_eq_some_iff]
  constructor
  · rintro ⟨⟨n, p⟩, hread, heq⟩
    cases heq
    simpa using hread
  · intro hread
    refine ⟨_, hread, ?_⟩
    simp

/-- **What a rule looks like.** The form is a pattern that makes sense. An argument is read as a
rule exactly if the form matches it, and then the form matches all of it. What is read is a name and
what follows the first equals sign, which must not be empty and must be on one line; and every name
with every such pattern is read as they are. -/
theorem ofText?_follows_form (arg : String) :
    (∃ r, Regex.ofPattern? form.toList = some r ∧
      r.find? arg.toList = (ofText? arg).map fun _ => (0, arg.length)) ∧
    (∀ rule : Rule, ofText? arg = some rule ↔
      arg = rule.name ++ "=" ++ rule.pattern ∧ Named rule.name ∧ rule.pattern ≠ "" ∧
        '\n' ∉ rule.pattern.toList) ∧
    (∀ rule : Rule, ofText? arg = some rule →
      rule.name.toList = arg.toList.takeWhile (· ≠ '=') ∧
        rule.pattern.toList = (arg.toList.dropWhile (· ≠ '=')).tail) ∧
    ∀ name pattern : String, arg = name ++ "=" ++ pattern → Named name → pattern ≠ "" →
      '\n' ∉ pattern.toList → ofText? arg = some ⟨name, pattern⟩ := by
  refine ⟨⟨_, Form.ofPattern?_form, ?_⟩, fun rule => ofText?_eq_some_iff, fun rule hread => ?_,
    fun name pattern harg hname hpattern hline => ?_⟩
  · rw [Form.find?_form, ofText?, Option.map_map, String.length_toList]
    rfl
  · obtain ⟨rfl, hname, -⟩ := ofText?_eq_some_iff.1 hread
    have hall := ne_equals_of_mem (Form.named_iff.1 hname)
    rw [toList_spelling, List.takeWhile_append_of_pos hall, List.dropWhile_append_of_pos hall]
    simp
  · exact ofText?_eq_some_iff.2 ⟨harg, hname, hpattern, hline⟩

/-- A pattern may hold equals signs, blanks and characters of any alphabet. -/
theorem ofText?_follows_form_past_equals :
    ofText? ("a-1" ++ "=" ++ "=é =") = some ⟨"a-1", "=é ="⟩ :=
  (ofText?_follows_form _).2.2.2 "a-1" "=é =" rfl (Form.named_iff.2 rfl) (by decide) (by decide)

/-- A pattern with a line feed in it is refused behind a name, although it is a pattern that makes
sense. -/
theorem line_feed_refused :
    Named "a" ∧ (Regex.compile? "x\n".toList).isSome = true ∧
      ofText? ("a" ++ "=" ++ "x\n") = none :=
  ⟨Form.named_iff.2 rfl, by decide +kernel, by decide +kernel⟩

end Locus.Command.Rule
