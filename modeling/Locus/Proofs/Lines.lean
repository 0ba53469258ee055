import Locus.Command.Lexing
import Locus.Proofs.QuotedText
import Locus.Proofs.RuleText

/-!
# Lines that show tokens

The label of a source is shown as it is, whatever it holds, and it may be missing, so a line is
taken apart from its end. Main statement: a location is shown like no other one with another label, line
or column, and a line like no other one of another token.
-/

namespace Locus

/-! ## Numbers -/

theorem Position.toList_display (p : Position) :
    p.display.toList = Nat.toDigits 10 p.line ++ ':' :: Nat.toDigits 10 p.column := by
  simp [display]

theorem toDigits_ten_injective : Function.Injective (Nat.toDigits 10) := by
  intro m n h
  rw [← Nat.ofDigitChars_ten_toDigits (n := m), h, Nat.ofDigitChars_ten_toDigits]

theorem notMem_toDigits_ten {sign : Char} (h : sign.isDigit = false) (n : Nat) :
    sign ∉ Nat.toDigits 10 n := by
  intro hmem
  rw [Nat.isDigit_of_mem_toDigits (by decide) (by decide) hmem] at h
  cases h

/-- A sign that stands in neither of two texts parts them from what precedes it. -/
theorem append_cons_inj_of_notMem_right {α : Type} {x y a b : List α} {sign : α} (ha : sign ∉ a)
    (hb : sign ∉ b) (h : x ++ sign :: a = y ++ sign :: b) : x = y ∧ a = b := by
  have hreverse := congrArg List.reverse h
  simp only [List.reverse_append, List.reverse_cons, List.append_assoc, List.singleton_append]
    at hreverse
  obtain ⟨hab, hxy⟩ := append_cons_inj_of_notMem (by simpa using ha) (by simpa using hb) hreverse
  exact ⟨List.reverse_injective hxy, List.reverse_injective hab⟩

/-! ## Locations -/

namespace Location

/-- Two locations with one label, or both without, from one line and column to another. -/
structure Alike (l l' : Location) : Prop where
  source : l.source = l'.source
  start_line : l.start.line = l'.start.line
  start_column : l.start.column = l'.start.column
  stop_line : l.stop.line = l'.stop.line
  stop_column : l.stop.column = l'.stop.column

/-- What is shown before the first column: the label, if there is one, and the first line. -/
def opening (l : Location) : List Char :=
  match l.source with
  | some label => label.toList ++ ':' :: Nat.toDigits 10 l.start.line
  | none => Nat.toDigits 10 l.start.line

theorem toList_display (l : Location) :
    l.display.toList =
      l.opening ++ ':' :: Nat.toDigits 10 l.start.column ++ '-' :: Nat.toDigits 10 l.stop.line
        ++ ':' :: Nat.toDigits 10 l.stop.column := by
  rcases l with ⟨_ | label, start, stop⟩
  · simp [display, opening, Position.toList_display]
  · simp [display, opening, Position.toList_display]

theorem opening_inj {l l' : Location} (h : l.opening = l'.opening) :
    l.source = l'.source ∧ l.start.line = l'.start.line := by
  have hcolon : ∀ n, ':' ∉ Nat.toDigits 10 n := notMem_toDigits_ten (by decide)
  rcases l with ⟨_ | label, start, stop⟩
  · rcases l' with ⟨_ | label', start', stop'⟩
    · exact ⟨rfl, toDigits_ten_injective h⟩
    · -- a label leaves its colon behind, even where it looks like a line
      have hline : Nat.toDigits 10 start.line =
          label'.toList ++ ':' :: Nat.toDigits 10 start'.line := h
      exact absurd (hline ▸ List.mem_append_right _ List.mem_cons_self) (hcolon start.line)
  · rcases l' with ⟨_ | label', start', stop'⟩
    · have hline : label.toList ++ ':' :: Nat.toDigits 10 start.line =
          Nat.toDigits 10 start'.line := h
      exact absurd (hline ▸ List.mem_append_right _ List.mem_cons_self) (hcolon start'.line)
    · obtain ⟨hlabel, hline⟩ := append_cons_inj_of_notMem_right (hcolon _) (hcolon _) h
      exact ⟨congrArg some (String.toList_inj.1 hlabel), toDigits_ten_injective hline⟩

/-- A location is taken apart from its last column to its label. -/
theorem display_eq_iff {l l' : Location} : l.display = l'.display ↔ l.Alike l' := by
  have hcolon : ∀ n, ':' ∉ Nat.toDigits 10 n := notMem_toDigits_ten (by decide)
  have hdash : ∀ n, '-' ∉ Nat.toDigits 10 n := notMem_toDigits_ten (by decide)
  rw [← String.toList_inj, toList_display, toList_display]
  constructor
  · intro h
    obtain ⟨h, hstopColumn⟩ := append_cons_inj_of_notMem_right (hcolon _) (hcolon _) h
    obtain ⟨h, hstopLine⟩ := append_cons_inj_of_notMem_right (hdash _) (hdash _) h
    obtain ⟨h, hstartColumn⟩ := append_cons_inj_of_notMem_right (hcolon _) (hcolon _) h
    obtain ⟨hsource, hstartLine⟩ := opening_inj h
    exact ⟨hsource, hstartLine, toDigits_ten_injective hstartColumn,
      toDigits_ten_injective hstopLine, toDigits_ten_injective hstopColumn⟩
  · rintro ⟨hsource, hstartLine, hstartColumn, hstopLine, hstopColumn⟩
    rw [opening, opening, hsource, hstartLine, hstartColumn, hstopLine, hstopColumn]

end Location

/-! ## Lines -/

namespace Command

/-- A kind that tokens of a run may have: the name of a rule that is given or of a standard one. -/
def NamesKind (kind : String) : Prop :=
  (∃ arg rule, Rule.ofText? arg = some rule ∧ rule.name = kind) ∨
    ∃ rule ∈ Rule.standard, rule.name = kind

theorem NamesKind.tab_notMem {kind : String} (h : NamesKind kind) : '\t' ∉ kind.toList := by
  rcases h with ⟨arg, rule, hread, rfl⟩ | ⟨rule, hrule, rfl⟩
  · obtain ⟨-, hname, -⟩ := Rule.ofText?_eq_some_iff.1 hread
    rw [Rule.Form.named_iff] at hname
    rcases hcs : rule.name.toList with _ | ⟨c, cs⟩
    · simp
    · rw [hcs, Rule.isName, Bool.and_eq_true, List.all_eq_true] at hname
      intro htab
      rcases List.mem_cons.1 htab with rfl | htab
      · exact absurd hname.1 (by decide)
      · exact absurd (hname.2 _ htab) (by decide)
  · have hstandard : ∀ rule ∈ Rule.standard, '\t' ∉ rule.name.toList := by decide
    exact hstandard rule hrule

/-- Two tokens that show the same kind and text, and locations that are alike, each under a
property. -/
def ShownAlike (p p' : String) (t t' : Token) : Prop :=
  t.kind = t'.kind ∧ t.value = t'.value ∧
    ∃ l l', t.location? p = some l ∧ t'.location? p' = some l' ∧ l.Alike l'

/-- A token that is shown under a property: it has a location there and a kind of a run. -/
structure Shown (p : String) (t : Token) : Prop where
  kind : NamesKind t.kind
  located : ∃ l, t.location? p = some l

variable {p p' : String}

theorem toList_line?_eq_some_iff {t : Token} {l : Location} (hl : t.location? p = some l) :
    ∃ line, line? p t = some line ∧ line.toList =
      l.display.toList ++ '\t' :: t.kind.toList ++ '\t' :: Quoted.quote t.value.toList := by
  refine ⟨_, by rw [line?, hl]; rfl, ?_⟩
  simp [Quoted.quoteString]

/-- Only the label may hold a tab, and it comes first. -/
theorem line?_eq_iff {t t' : Token} (h : Shown p t) (h' : Shown p' t') :
    line? p t = line? p' t' ↔ ShownAlike p p' t t' := by
  obtain ⟨l, hl⟩ := h.located
  obtain ⟨l', hl'⟩ := h'.located
  obtain ⟨line, hline, htext⟩ := toList_line?_eq_some_iff hl
  obtain ⟨line', hline', htext'⟩ := toList_line?_eq_some_iff hl'
  rw [hline, hline', Option.some.injEq, ← String.toList_inj, htext, htext']
  constructor
  · intro heq
    obtain ⟨heq, hvalue⟩ := append_cons_inj_of_notMem_right (Quoted.tab_notMem_quote _)
      (Quoted.tab_notMem_quote _) heq
    obtain ⟨heq, hkind⟩ := append_cons_inj_of_notMem_right h.kind.tab_notMem h'.kind.tab_notMem heq
    exact ⟨String.toList_inj.1 hkind, String.toList_inj.1 (Quoted.quote_injective hvalue),
      l, l', hl, hl', Location.display_eq_iff.1 (String.toList_inj.1 heq)⟩
  · rintro ⟨hkind, hvalue, m, m', hm, hm', halike⟩
    obtain rfl := Option.some.inj (hl.symm.trans hm)
    obtain rfl := Option.some.inj (hl'.symm.trans hm')
    rw [hkind, hvalue, Location.display_eq_iff.2 halike]

/-- A list of lines tells all of its tokens, by induction on them. -/
theorem lines_eq_iff {ts ts' : List Token} (h : ∀ t ∈ ts, Shown p t) (h' : ∀ t ∈ ts', Shown p' t) :
    lines p ts = lines p' ts' ↔ List.Forall₂ (ShownAlike p p') ts ts' := by
  have hline : ∀ {p t} {ts : List Token}, Shown p t →
      ∃ line, line? p t = some line ∧ lines p (t :: ts) = line :: lines p ts := by
    intro p t ts ht
    obtain ⟨l, hl⟩ := ht.located
    obtain ⟨line, hline, -⟩ := toList_line?_eq_some_iff hl
    exact ⟨line, hline, List.filterMap_cons_some hline⟩
  induction ts generalizing ts' with
  | nil =>
    cases ts' with
    | nil => exact ⟨fun _ => .nil, fun _ => rfl⟩
    | cons t' ts' =>
      obtain ⟨line', -, hlines'⟩ := hline (h' t' List.mem_cons_self)
      rw [hlines']
      exact ⟨fun heq => (nomatch heq), fun halike => (nomatch halike)⟩
  | cons t ts ih =>
    obtain ⟨ht, hts⟩ := List.forall_mem_cons.1 h
    obtain ⟨line, hone, hlines⟩ := hline ht
    cases ts' with
    | nil =>
      rw [hlines]
      exact ⟨fun heq => (nomatch heq), fun halike => (nomatch halike)⟩
    | cons t' ts' =>
      obtain ⟨ht', hts'⟩ := List.forall_mem_cons.1 h'
      obtain ⟨line', hone', hlines'⟩ := hline ht'
      have hrest := ih hts hts'
      rw [hlines, hlines', List.cons.injEq, List.forall₂_cons, ← line?_eq_iff ht ht', hone, hone',
        Option.some.injEq]
      exact and_congr Iff.rfl hrest

/-- **Lines are unambiguous.** Two locations are shown alike exactly if both have the same label, or
none, and the same lines and columns, whatever characters the labels hold. Two tokens with locations
and with kinds of a run are shown in the same line, each under a property, exactly if their kinds
and texts are the same too; and two lists of such tokens are shown in the same lines exactly if so
are all of them, one after another. -/
theorem lines_unambiguous :
    (∀ l l' : Location, l.display = l'.display ↔ l.Alike l') ∧
      (∀ p p' t t', Shown p t → Shown p' t' →
        (line? p t = line? p' t' ↔ ShownAlike p p' t t')) ∧
      ∀ p p' ts ts', (∀ t ∈ ts, Shown p t) → (∀ t ∈ ts', Shown p' t) →
        (lines p ts = lines p' ts' ↔ List.Forall₂ (ShownAlike p p') ts ts') :=
  ⟨fun _ _ => Location.display_eq_iff, fun _ _ _ _ => line?_eq_iff, fun _ _ _ _ => lines_eq_iff⟩

/-- The label of one location reads like another location with a kind behind it, and a location
without a label begins as one with a label that is a number does. -/
theorem lines_unambiguous_confusing_labels :
    let l : Location := ⟨some "1:0-1:1\tx-1\t\"\"\n2", ⟨0, 1, 0⟩, ⟨1, 1, 1⟩⟩
    let m : Location := ⟨some "2", ⟨0, 1, 0⟩, ⟨1, 1, 1⟩⟩
    let n : Location := ⟨none, ⟨0, 2, 1⟩, ⟨1, 0, 1⟩⟩
    let t := stamp "loc" l (Token.ofKind "x-1" "\t")
    let u := stamp "é" m (Token.ofKind "text" "\t")
    l.display ≠ m.display ∧ m.display ≠ n.display ∧ Shown "loc" t ∧ Shown "é" u ∧
      line? "loc" t ≠ line? "é" u ∧ lines "loc" [t, t] ≠ lines "é" [u] := by
  intro l m n t u
  obtain ⟨hdisplay, hline, hlines⟩ := lines_unambiguous
  have ht : Shown "loc" t := ⟨.inl ⟨"x-1=y", ⟨"x-1", "y"⟩, by decide, rfl⟩, l, by decide⟩
  have hu : Shown "é" u := ⟨.inr ⟨⟨"text", "^\\w+"⟩, by decide, rfl⟩, m, by decide⟩
  refine ⟨fun h => ?_, fun h => ?_, ht, hu, fun h => ?_, fun h => ?_⟩
  · exact absurd ((hdisplay l m).1 h).source (by decide)
  · exact absurd ((hdisplay m n).1 h).source (by decide)
  · exact absurd ((hline _ _ t u ht hu).1 h).1 (by decide)
  · have halike := (hlines _ _ [t, t] [u] (by simp [ht]) (by simp [hu])).1 h
    cases halike with
    | cons _ hrest => cases hrest

end Command

end Locus
