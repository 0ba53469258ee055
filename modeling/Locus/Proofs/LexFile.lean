import Locus.Command.Lexing
import Locus.Proofs.Lexer
import Locus.Proofs.Located
import Locus.Proofs.Token

/-!
# Lexing one file, from end to end

The rules cut a text from its start, at every place by the first rule that matches there, until the
text ends or no rule matches. Main statements: what lexing a file gives in each of the cases, and
that its tokens cover the text and are shown without a gap.
-/

namespace Locus

/-! ## Cutting a text by rules -/

/-- The rules cut the text from index `i` to index `k` into the pieces. -/
inductive Cuts (handlers : List Handler) (text : List Char) (source : Option String) :
    Nat → List (Token × Location) → Nat → Prop where
  | nil (i : Nat) : Cuts handlers text source i [] i
  | cons {i n k : Nat} {kind : String} {ps : List (Token × Location)}
      (hmatch : Lexer.firstMatch? handlers (text.drop i) = some (kind, n))
      (rest : Cuts handlers text source (i + n) ps k) :
      Cuts handlers text source i (piece text source kind i n :: ps) k

namespace Cuts

variable {handlers : List Handler} {text : List Char} {source : Option String} {i k : Nat}
  {ps : List (Token × Location)}

/-- Matches are neither empty nor longer than what is left, so they lie side by side. -/
theorem tiles (h : Cuts handlers text source i ps k) (hi : i ≤ text.length) :
    Tiles text source i ps k := by
  induction h with
  | nil i => exact .nil i
  | cons hmatch rest ih =>
    obtain ⟨hpos, hle⟩ := Lexer.firstMatch?_bounds hmatch
    rw [List.length_drop] at hle
    have hn := Nat.add_le_of_le_sub' hi hle
    exact .cons _ hpos hn (ih hn)

end Cuts

/-- The tokens of the pieces, each with its location under the property. -/
def stampAll (property : String) (ps : List (Token × Location)) : List Token :=
  ps.map fun p => stamp property p.2 p.1

/-! ## Located lexers -/

namespace Lexer

variable {ι : Type}

/-- A located lexer cuts off the next piece and stamps it. -/
theorem firstMatch?_of_locate {p : Plugin} {l : Lexer ι} (hs : l.cursor.Sound) {t : Token}
    (ht : ((p.locate host).advance l).outcome = .ok (some t)) :
    let i := l.cursor.position.index
    let text := l.cursor.input
    ∃ kind n, firstMatch? l.handlers (text.drop i) = some (kind, n) ∧ i + n ≤ text.length ∧
      ((p.locate host).advance l).state =
        { l with cursor := .atIndex text l.cursor.label (i + n) } ∧
      t = stamp p.property (piece text l.options.source kind i n).2
        (piece text l.options.source kind i n).1 := by
  intro i text
  have hreply : (p.locate host).advance l = p.locateReply host.toHost l (reply l.advance) := rfl
  rw [hreply] at ht ⊢
  obtain ⟨t', ht'⟩ := Plugin.exists_of_locateReply_eq_some ht
  obtain ⟨kind, n, hmatch, rfl, hstate⟩ := firstMatch?_of_advance hs ht'
  have hle := (firstMatch?_bounds hmatch).2
  rw [List.length_drop] at hle
  refine ⟨kind, n, hmatch, Nat.add_le_of_le_sub' hs.1 hle, ?_, ?_⟩
  · rw [Plugin.locateReply_state]
    exact hstate
  · rw [Plugin.locateReply_of_some p host.toHost l ht'] at ht
    cases ht
    have hreplied : (reply l.advance).state = l.advance.2 := rfl
    rw [hreplied, hstate, ← location_of_sound hs p.property kind n]
    rfl

/-- The tokens that a located lexer gives one after another are cut off by its rules and stamped,
by induction on the tokens. -/
theorem cuts_of_gives {p : Plugin} {l l' : Lexer ι} {ts : List Token} (hs : l.cursor.Sound)
    (g : (p.locate host).Gives l ts l') :
    let i := l'.cursor.position.index
    i ≤ l.cursor.input.length ∧
      l' = { l with cursor := .atIndex l.cursor.input l.cursor.label i } ∧
      ∃ ps, Cuts l.handlers l.cursor.input l.options.source l.cursor.position.index ps i ∧
        ts = stampAll p.property ps := by
  -- the state changes in its cursor only, so the rules that cut the rest are the same
  induction g with
  | nil l => exact ⟨hs.1, congrArg (fun s => { l with cursor := s }) hs.2, [], .nil _, rfl⟩
  | cons ht rest ih =>
    obtain ⟨kind, n, hmatch, hle, hstate, rfl⟩ := firstMatch?_of_locate hs ht
    rw [hstate] at ih
    obtain ⟨hle', hl', ps, hcuts, rfl⟩ := ih (Cursor.sound_atIndex _ hle)
    exact ⟨hle', hl', _, .cons hmatch hcuts, rfl⟩

/-- All tokens of a located lexer are the pieces into which its rules cut what is left of the text,
stamped. There are none if the rules get stuck before the end. -/
theorem tokenize_install_of_sound (p : Plugin) {l : Lexer ι} (hs : l.cursor.Sound) :
    let text := l.cursor.input
    let tokens := ((p.install tokenizer).tokenize l).outcome
    ∃ ps i, Cuts l.handlers text l.options.source l.cursor.position.index ps i ∧
      (i = text.length ∧ tokens = .ok (stampAll p.property ps) ∨
        firstMatch? l.handlers (text.drop i) = none ∧ ∃ c, text[i]? = some c ∧
          tokens = .error (.unmatched (Position.ofIndex text i) (l.options.source.getD "input")
            (Utf8.size (text.take i)) c.utf8Size)) := by
  intro text tokens
  obtain ⟨ts, l', g, -, hend⟩ := (p.locate host).drain_cases (p.finite finite) l
  obtain ⟨hle, hl', ps, hcuts, rfl⟩ := cuts_of_gives hs g
  -- the rules and the text are still those of `l`, only the cursor has moved
  have hs' : l'.cursor.Sound := by
    rw [hl']
    exact Cursor.sound_atIndex _ hle
  have hinput : l'.cursor.input = text := by rw [hl']; rfl
  have hhandlers : l'.handlers = l.handlers := by rw [hl']
  have hoptions : l'.options = l.options := by rw [hl']
  have hdecorates := Plugin.decorates_locateReply p host.toHost l' (reply l'.advance)
  refine ⟨ps, l'.cursor.position.index, hcuts, ?_⟩
  rcases hend with ⟨hnone, hok⟩ | ⟨e, he, herror⟩
  · left
    refine ⟨?_, hok⟩
    rw [index_eq_length_of_advance hs' (hdecorates.none_iff.1 hnone), hinput]
  · right
    obtain ⟨hmatch, c, hc, rfl⟩ := eq_unmatched_of_advance hs' ((hdecorates.error_iff e).1 he)
    rw [hinput, hhandlers] at hmatch
    rw [hinput] at hc
    refine ⟨hmatch, c, hc, ?_⟩
    rw [← hoptions, ← hinput]
    exact herror

end Lexer

namespace Command

/-! ## The cases -/

/-- The first rule of a run whose pattern makes no sense. -/
def Config.badRule? (c : Config) : Option Rule :=
  c.usedRules.find? fun rule => (Regex.compile? rule.pattern.toList).isNone

/-- The label of the locations of a file. -/
def Config.label (c : Config) (path : String) : String := c.source.getD path

/-- The rules of a file are refused for the first that makes no sense. -/
theorem lexer_outcome (c : Config) (path text : String) :
    (c.lexer path text).1 =
      match c.badRule? with
      | none => .ok ()
      | some rule => .error (.invalidPattern rule.name) := by
  rw [Config.lexer, Lexer.captureAll_outcome, List.find?_map, Config.badRule?]
  have hcomp : (fun rule : String × String => (Regex.compile? rule.2.toList).isNone) ∘
      (fun rule : Rule => (rule.name, rule.pattern)) =
      fun rule : Rule => (Regex.compile? rule.pattern.toList).isNone := rfl
  rw [hcomp]
  rcases c.usedRules.find? _ with _ | rule
  · rfl
  · rfl

theorem cursor_lexer (c : Config) (path text : String) :
    (c.lexer path text).2.cursor = .atIndex text.toList (some (c.label path)) 0 :=
  Lexer.cursor_captureAll _ _

theorem source_lexer (c : Config) (path text : String) :
    (c.lexer path text).2.options.source = some (c.label path) := by
  rw [Config.lexer, Lexer.options_captureAll]
  rfl

theorem lexFile_eq (c : Config) (path text : String) :
    c.lexFile path text =
      match (c.lexer path text).1 with
      | .ok () => (c.host.tokenize (c.lexer path text).2).outcome
      | .error e => .error e := by
  rw [Config.lexFile]
  rcases c.lexer path text with ⟨_ | _, l⟩
  · rfl
  · rfl

/-- What lexing a file gives: the complaint about the first rule that makes no sense, or else the
pieces into which the rules cut the text, or the complaint about the place where they cannot. -/
theorem lexFile_cases (c : Config) (path text : String) :
    let chars := text.toList
    let handlers := (c.lexer path text).2.handlers
    match c.badRule? with
    | some rule => c.lexFile path text = .error (.invalidPattern rule.name)
    | none =>
      ∃ ps i, Cuts handlers chars (some (c.label path)) 0 ps i ∧
        (i = chars.length ∧
            c.lexFile path text = .ok (stampAll c.property ps) ∨
          Lexer.firstMatch? handlers (chars.drop i) = none ∧
            ∃ ch, chars[i]? = some ch ∧
              c.lexFile path text = .error (.unmatched (Position.ofIndex chars i) (c.label path)
                (Utf8.size (chars.take i)) ch.utf8Size)) := by
  intro chars handlers
  have houtcome := lexer_outcome c path text
  rw [lexFile_eq]
  rcases hbad : c.badRule? with _ | rule
  · rw [hbad] at houtcome
    have hcursor := cursor_lexer c path text
    have hs : (c.lexer path text).2.cursor.Sound := by
      rw [hcursor]
      exact Cursor.sound_atIndex _ (Nat.zero_le _)
    have htokens := Lexer.tokenize_install_of_sound ⟨c.property⟩ hs
    rw [source_lexer, hcursor] at htokens
    rw [houtcome]
    exact htokens
  · rw [hbad] at houtcome
    rw [houtcome]

/-! ## What is shown -/

/-- A property that can be asked for is not one that tokens keep for themselves. -/
theorem not_mem_ownKeys_of_readProperty {arg property : String}
    (h : readProperty arg = .ok property) : property ∉ Token.ownKeys := by
  rw [readProperty] at h
  split at h
  · cases h
  · split at h
    · cases h
    · next hreserves =>
      cases h
      intro hmem
      exact hreserves (decide_eq_true hmem)

/-- The line that shows a token with a location. -/
def shownLine (t : Token) (l : Location) : String :=
  l.display ++ "\t" ++ t.kind ++ "\t" ++ Quoted.quoteString t.value

/-- Tokens that have their location under the property are shown on one line each. -/
theorem lines_eq_zipWith {property : String} {tokens : List Token} {ls : List Location}
    (h : List.Forall₂ (fun t l => t.location? property = some l) tokens ls) :
    lines property tokens = List.zipWith shownLine tokens ls := by
  induction h with
  | nil => rfl
  | @cons t l tokens ls hl rest ih =>
    have hline : line? property t = some (shownLine t l) := by
      rw [line?, hl, Option.map_some, shownLine]
    rw [lines, List.filterMap_cons_some hline, List.zipWith_cons_cons, ← ih]
    rfl

/-- A token of a file and its location. -/
structure Shows (property label : String) (text : List Char) (t : Token) (l : Location) :
    Prop where
  value_ne_empty : t.value ≠ ""
  location_eq : t.location? property = some l
  /-- There is no location under any other property. -/
  stored_eq : t.stored = [(property, l)]
  source_eq : l.source = some label
  slice_eq : l.slice? text = some t.value.toList
  range_eq : t.range = some l.range

/-- The tokens of a file and their locations, which lie side by side from the start of the text to
its end and are shown on one line each. -/
structure Covers (property label : String) (text : List Char) (tokens : List Token)
    (ls : List Location) : Prop where
  values : tokens.flatMap (fun t => t.value.toList) = text
  shows : List.Forall₂ (Shows property label text) tokens ls
  first : ∀ l ∈ ls.head?, l.start = Position.start
  adjacent : ls.IsChain fun l l' => l.stop = l'.start
  last : ∀ l ∈ ls.getLast?, l.stop.index = text.length
  lines_eq : lines property tokens = List.zipWith shownLine tokens ls

/-- Pieces that cover a text, once they are stamped. -/
theorem covers_of_tiles {property label : String} (hown : property ∉ Token.ownKeys)
    {text : List Char} {ps : List (Token × Location)}
    (h : Tiles text (some label) 0 ps text.length) :
    Covers property label text (stampAll property ps) (ps.map Prod.snd) := by
  have hshows : List.Forall₂ (Shows property label text)
      (stampAll property ps) (ps.map Prod.snd) := by
    rw [stampAll, List.forall₂_map_left_iff, List.forall₂_map_right_iff, List.forall₂_same]
    intro q hq
    obtain ⟨hslice, hvalue⟩ := h.slice?_of_mem hq
    refine ⟨?_, ?_, ?_, h.source_of_mem hq, ?_, Token.range_stamp hown⟩
    · rw [Token.value_stamp]
      exact hvalue
    · rw [Token.location?_stamp hown, if_pos rfl]
    · rw [h.eq_ofKind_of_mem hq]
      exact Token.stored_stamp_ofKind hown _ _
    · rw [Token.value_stamp]
      exact hslice
  refine ⟨?_, hshows, ?_, ?_, ?_, lines_eq_zipWith (hshows.imp fun t l hl => hl.location_eq)⟩
  · have hvalues := h.flatMap_value
    rw [List.take_length, List.drop_zero] at hvalues
    rw [stampAll, List.flatMap_map]
    simpa using hvalues
  · intro l hl
    rw [List.head?_map] at hl
    obtain ⟨q, hq, rfl⟩ := Option.map_eq_some_iff.1 hl
    exact h.start_of_mem_head? hq
  · rw [List.isChain_map]
    exact h.isChain
  · intro l hl
    rw [List.getLast?_map] at hl
    obtain ⟨q, hq, rfl⟩ := Option.map_eq_some_iff.1 hl
    rw [h.stop_of_mem_getLast? hq]
    rfl

/-- **Lexing a file, from end to end.** If it succeeds, the tokens cover the text. If not, either
some rule makes no sense, and then the complaint is about the first of them, whatever the text is;
or the rules cut the text up to a place where none of them matches, and the complaint is about that
place. -/
theorem lexFile_end_to_end (c : Config) {arg : String}
    (hproperty : readProperty arg = .ok c.property) (path text : String) :
    let chars := text.toList
    let handlers := (c.lexer path text).2.handlers
    (∀ tokens, c.lexFile path text = .ok tokens →
        ∃ ls, Covers c.property (c.label path) chars tokens ls) ∧
      (∀ rule, c.badRule? = some rule →
        c.lexFile path text = .error (.invalidPattern rule.name)) ∧
      (c.badRule? = none → ∀ e, c.lexFile path text = .error e →
        ∃ ps i, Cuts handlers chars (some (c.label path)) 0 ps i ∧
          (∀ h ∈ handlers, ∀ n, h.pattern.matchLength? (chars.drop i) = some n → n = 0) ∧
          ∃ ch, chars[i]? = some ch ∧
            e = .unmatched (Position.ofIndex chars i) (c.label path)
              (Utf8.size (chars.take i)) ch.utf8Size) := by
  intro chars handlers
  have hown := not_mem_ownKeys_of_readProperty hproperty
  have hcases := lexFile_cases c path text
  rcases hbad : c.badRule? with _ | rule
  · rw [hbad] at hcases
    obtain ⟨ps, i, hcuts, ⟨rfl, hok⟩ | ⟨hmatch, ch, hch, herror⟩⟩ := hcases
    · refine ⟨fun tokens htokens => ?_, fun rule hrule => (by cases hrule), fun _ e he => ?_⟩
      · cases hok.symm.trans htokens
        exact ⟨_, covers_of_tiles hown (hcuts.tiles (Nat.zero_le _))⟩
      · cases hok.symm.trans he
    · refine ⟨fun tokens htokens => ?_, fun rule hrule => (by cases hrule), fun _ e he => ?_⟩
      · cases herror.symm.trans htokens
      · cases herror.symm.trans he
        exact ⟨ps, i, hcuts, Lexer.firstMatch?_eq_none_iff.1 hmatch, ch, hch, rfl⟩
  · rw [hbad] at hcases
    refine ⟨fun tokens htokens => ?_, fun rule' hrule => ?_, fun hnone => (by cases hnone)⟩
    · cases hcases.symm.trans htokens
    · cases hrule
      exact hcases

/-- A file of three tokens, one of which is the two characters that end a line. -/
theorem lexFile_end_to_end_two_lines :
    let c : Config := ⟨["p"], [⟨"word", "[aé]+"⟩, ⟨"break", "\\r\\n"⟩], "at", none, .text⟩
    readProperty "at" = .ok c.property ∧
      ∃ tokens ls, c.lexFile "p" "é\r\naa" = .ok tokens ∧
        Covers "at" "p" ['é', '\r', '\n', 'a', 'a'] tokens ls := by
  intro c
  have hproperty : readProperty "at" = .ok c.property := by decide
  have hspec := lexFile_end_to_end c hproperty "p" "é\r\naa"
  have hsome : (c.lexFile "p" "é\r\naa").toOption.isSome = true := by decide +kernel
  rcases hlex : c.lexFile "p" "é\r\naa" with e | tokens
  · rw [hlex] at hsome
    cases hsome
  · obtain ⟨ls, hcovers⟩ := hspec.1 tokens hlex
    exact ⟨hproperty, tokens, ls, rfl, hcovers⟩

end Command

end Locus
