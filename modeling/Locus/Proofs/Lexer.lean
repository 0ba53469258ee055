import Locus.Capture
import Locus.Lexer.Basic
import Locus.Proofs.Calls
import Locus.Proofs.Tiles

/-!
# What calls do to a lexer

A call for a token either leaves a lexer as it is or moves it over the match of one rule, and that
match is neither empty nor longer than what is left. Main statements: what one call can do, that
the cursor of every lexer in use is where its text says, and that the drain of a host is a series
of calls.
-/

namespace Locus

/-! ## Matches -/

namespace Regex

/-- A match reaches no further than the text. -/
theorem run_le {threads : List Rest} {before : Option Char} {count n : Nat} {best : Option Nat}
    {text : List Char} (hbest : ∀ m, best = some m → m ≤ count)
    (h : run threads before count best text = some n) : n ≤ count + text.length := by
  induction text generalizing threads before count best with
  | nil =>
    rw [run] at h
    split at h
    · cases h
      exact Nat.le_refl _
    · exact hbest n h
  | cons c cs ih =>
    rw [run] at h
    -- the preferred match so far still ends before the next character
    have hbest' : ∀ m, (if (survey ⟨before, some c⟩ threads).2 then some count else best) = some m →
        m ≤ count := by
      intro m hm
      split at hm
      · cases hm
        exact Nat.le_refl _
      · exact hbest m hm
    dsimp only at h
    split at h
    · exact Nat.le_trans (hbest' n h) (Nat.le_add_right _ _)
    · have hle := ih (fun m hm => Nat.le_trans (hbest' m hm) (Nat.le_succ _)) h
      rw [List.length_cons]
      omega

theorem matchLength?_le {r : Regex} {text : List Char} {n : Nat}
    (h : r.matchLength? text = some n) : n ≤ text.length := by
  have hnone : ∀ m, (none : Option Nat) = some m → m ≤ 0 := fun m hm => nomatch hm
  have hle := run_le hnone h
  rwa [Nat.zero_add] at hle

end Regex

namespace Lexer

variable {ι : Type}

/-- A match that counts is not empty, and the text goes as far as the match. -/
theorem matchLength?_bounds {l : Lexer ι} {h : Handler} {n : Nat}
    (hn : l.matchLength? h = some n) : 0 < n ∧ n ≤ l.cursor.rest.length := by
  rw [matchLength?] at hn
  split at hn
  · next m hm =>
    cases hn
    exact ⟨Nat.succ_pos m, Regex.matchLength?_le hm⟩
  · cases hn

/-! ## Calls -/

/-- A call that gives no token leaves the lexer as it is; one that gives a token takes the match of
a rule. -/
theorem call_cases (c : Call) (l : Lexer ι) :
    ((host.call c l).state = l ∧ ∀ t, (host.call c l).outcome ≠ .ok (some t)) ∨
      ∃ h ∈ l.handlers, ∃ n, l.matchLength? h = some n ∧
        host.call c l = ⟨.ok (some (l.takeToken h.kind n).1), (l.takeToken h.kind n).2, []⟩ := by
  cases c with
  | lex kind =>
    have hcall : host.call (.lex kind) l = reply (l.lex kind) := rfl
    rw [hcall, lex]
    split
    · exact .inl ⟨rfl, fun t ht => by cases ht⟩
    · next h hfind =>
      split
      · next t l' htry =>
        obtain ⟨n, hn, htake⟩ := Option.map_eq_some_iff.1 htry
        exact .inr ⟨h, List.mem_of_find?_eq_some hfind, n, hn, by rw [htake]; rfl⟩
      · exact .inl ⟨rfl, fun t ht => by cases ht⟩
  | advance =>
    have hcall : host.call .advance l = reply l.advance := rfl
    rw [hcall, advance]
    split
    · exact .inl ⟨rfl, fun t ht => by cases ht⟩
    · split
      · next t l' hfound =>
        obtain ⟨h, hmem, htry⟩ := List.exists_of_findSome?_eq_some hfound
        obtain ⟨n, hn, htake⟩ := Option.map_eq_some_iff.1 htry
        exact .inr ⟨h, hmem, n, hn, by rw [htake]; rfl⟩
      · exact .inl ⟨rfl, fun t ht => by cases ht⟩

/-- The token that a match makes of the text at the cursor, and where the cursor is then. -/
theorem takeToken_of_sound {l : Lexer ι} (hs : l.cursor.Sound) (kind : String) {n : Nat}
    (hn : n ≤ l.cursor.rest.length) :
    let i := l.cursor.position.index
    l.takeToken kind n =
      (Token.ofKind kind (String.ofList ((l.cursor.input.drop i).take n)),
        { l with cursor := Cursor.atIndex l.cursor.input l.cursor.label (i + n) }) := by
  intro i
  have hrest : l.cursor.rest = l.cursor.input.drop i := hs.rest_eq
  have hlen : (l.cursor.take n).length = n := by
    rw [Cursor.take, List.length_take, Nat.min_eq_left hn]
  have hbound : i + n ≤ l.cursor.input.length := by
    have hle := hs.1
    rw [hrest, List.length_drop] at hn
    omega
  -- the cursor moves by bytes, and those of the match end where the match does
  have hcursor : (l.takeToken kind n).2.cursor
      = Cursor.atIndex l.cursor.input l.cursor.label (i + n) := by
    rw [cursor_takeToken, hlen]
    conv => lhs; rw [hs.2]
    rw [Cursor.skip_atIndex _ _ hs.1, Nat.min_eq_left hbound]
  refine Prod.ext ?_ ?_
  · rw [takeToken, Cursor.take, hrest]
  · rw [← hcursor]
    rfl

/-- The location from one place of a lexer to another is that of the piece between them. -/
theorem location_of_sound {l : Lexer ι} (hs : l.cursor.Sound) (property kind : String) (n : Nat) :
    let i := l.cursor.position.index
    let text := l.cursor.input
    (Capture.arm host.toHost property l).location host.toHost
        { l with cursor := Cursor.atIndex text l.cursor.label (i + n) } =
      (piece text l.options.source kind i n).2 := by
  intro i text
  have hstart : l.cursor.position = Position.ofIndex text i := hs.position_eq
  rw [piece, ← hstart]
  rfl

/-- One call, told by the text: nothing happens, or the next characters become a token and the
cursor goes over them. -/
theorem call_of_sound (c : Call) {l : Lexer ι} (hs : l.cursor.Sound) :
    let i := l.cursor.position.index
    let text := l.cursor.input
    let r := host.call c l
    (r.state = l ∧ ∀ t, r.outcome ≠ .ok (some t)) ∨
      ∃ kind n, 0 < n ∧ i + n ≤ text.length ∧
        r.outcome = .ok (some (piece text l.options.source kind i n).1) ∧
        r.state = { l with cursor := Cursor.atIndex text l.cursor.label (i + n) } := by
  intro i text r
  rcases call_cases c l with hnone | ⟨h, -, n, hn, hr⟩
  · exact .inl hnone
  · obtain ⟨hpos, hle⟩ := matchLength?_bounds hn
    have hlen : l.cursor.rest.length = text.length - i := by
      rw [hs.rest_eq, List.length_drop]
    have hi : i ≤ text.length := hs.1
    have hr' : r = _ := hr
    rw [takeToken_of_sound hs h.kind hle] at hr'
    exact .inr ⟨h.kind, n, hpos, by omega, by rw [hr', piece], by rw [hr']⟩

theorem sound_call (c : Call) {l : Lexer ι} (hs : l.cursor.Sound) :
    (host.call c l).state.cursor.Sound := by
  rcases call_of_sound c hs with ⟨hstate, -⟩ | ⟨kind, n, -, hle, -, hstate⟩
  · rw [hstate]
    exact hs
  · rw [hstate]
    exact Cursor.sound_atIndex _ hle

/-! ## The first match -/

/-- The match that is taken where `rest` is left: of the first rule that has one which is not empty,
the kind and the length. -/
def firstMatch? (handlers : List Handler) (rest : List Char) : Option (String × Nat) :=
  handlers.findSome? fun h =>
    match h.pattern.matchLength? rest with
    | some (n + 1) => some (h.kind, n + 1)
    | _ => none

theorem firstMatch?_eq_none_iff {handlers : List Handler} {rest : List Char} :
    firstMatch? handlers rest = none ↔
      ∀ h ∈ handlers, ∀ n, h.pattern.matchLength? rest = some n → n = 0 := by
  rw [firstMatch?, List.findSome?_eq_none_iff]
  refine forall₂_congr fun h hmem => ?_
  rcases h.pattern.matchLength? rest with _ | _ | n
  · simp
  · simp
  · simp

theorem firstMatch?_bounds {handlers : List Handler} {rest : List Char} {kind : String} {n : Nat}
    (h : firstMatch? handlers rest = some (kind, n)) : 0 < n ∧ n ≤ rest.length := by
  obtain ⟨handler, -, hmatch⟩ := List.exists_of_findSome?_eq_some h
  split at hmatch
  · next m hm =>
    cases hmatch
    exact ⟨Nat.succ_pos m, Regex.matchLength?_le hm⟩
  · cases hmatch

theorem findSome?_tryHandler (l : Lexer ι) :
    l.handlers.findSome? l.tryHandler =
      (firstMatch? l.handlers l.cursor.rest).map fun m => l.takeToken m.1 m.2 := by
  rw [firstMatch?, List.map_findSome?]
  congr 1
  funext h
  rw [tryHandler, matchLength?, Function.comp_apply]
  rcases h.pattern.matchLength? l.cursor.rest with _ | _ | n
  · rfl
  · rfl
  · rfl

/-- A call for whichever token, told by the text and the rules. -/
theorem advance_of_sound {l : Lexer ι} (hs : l.cursor.Sound) :
    let i := l.cursor.position.index
    let text := l.cursor.input
    l.advance =
      if i = text.length then (.ok none, l)
      else
        match firstMatch? l.handlers (text.drop i) with
        | some (kind, n) =>
          (.ok (some (Token.ofKind kind (String.ofList ((text.drop i).take n)))),
            { l with cursor := Cursor.atIndex text l.cursor.label (i + n) })
        | none => (.error l.unmatched, l) := by
  intro i text
  have hrest : l.cursor.rest = text.drop i := hs.rest_eq
  have hend : l.cursor.isAtEnd = true ↔ i = text.length := by
    rw [Cursor.isAtEnd, hrest, List.isEmpty_iff, List.drop_eq_nil_iff]
    exact ⟨fun h => Nat.le_antisymm hs.1 h, fun h => Nat.le_of_eq h.symm⟩
  rw [advance]
  by_cases hi : i = text.length
  · rw [if_pos (hend.2 hi), if_pos hi]
  · rw [if_neg (fun h => hi (hend.1 h)), if_neg hi, findSome?_tryHandler, hrest]
    rcases hmatch : firstMatch? l.handlers (text.drop i) with _ | ⟨kind, n⟩
    · rfl
    · -- a match lies inside the text
      have hle : n ≤ l.cursor.rest.length := by
        rw [hrest]
        exact (firstMatch?_bounds hmatch).2
      rw [Option.map_some, takeToken_of_sound hs kind hle]

theorem firstMatch?_of_advance {l : Lexer ι} (hs : l.cursor.Sound) {t : Token}
    (ht : l.advance.1 = .ok (some t)) :
    let i := l.cursor.position.index
    let text := l.cursor.input
    ∃ kind n, firstMatch? l.handlers (text.drop i) = some (kind, n) ∧
      t = (piece text l.options.source kind i n).1 ∧
      l.advance.2 = { l with cursor := Cursor.atIndex text l.cursor.label (i + n) } := by
  intro i text
  rw [advance_of_sound hs] at ht ⊢
  split at ht
  · cases ht
  · next hi =>
    rw [if_neg hi]
    split at ht
    · next kind n hmatch =>
      cases ht
      exact ⟨kind, n, hmatch, rfl, rfl⟩
    · cases ht

theorem index_eq_length_of_advance {l : Lexer ι} (hs : l.cursor.Sound)
    (hnone : l.advance.1 = .ok none) : l.cursor.position.index = l.cursor.input.length := by
  rw [advance_of_sound hs] at hnone
  split at hnone
  · next hi => exact hi
  · split at hnone
    · cases hnone
    · cases hnone

/-- A call for whichever token fails where there is a character that no rule matches, and the error
tells all about that place. -/
theorem eq_unmatched_of_advance {l : Lexer ι} (hs : l.cursor.Sound) {e : LexError}
    (he : l.advance.1 = .error e) :
    let i := l.cursor.position.index
    let text := l.cursor.input
    firstMatch? l.handlers (text.drop i) = none ∧
      ∃ c, text[i]? = some c ∧
        e = .unmatched (Position.ofIndex text i) (l.options.source.getD "input")
          (Utf8.size (text.take i)) c.utf8Size := by
  intro i text
  rw [advance_of_sound hs] at he
  split at he
  · cases he
  · next hi =>
    split at he
    · cases he
    · next hmatch =>
      cases he
      have hlt : i < text.length := Nat.lt_of_le_of_ne hs.1 hi
      have hoffset : l.cursor.offset = Utf8.size (text.take i) := congrArg Cursor.offset hs.2
      have hpeek : l.cursor.peek? = some text[i] := by
        rw [Cursor.peek?, hs.rest_eq, List.head?_drop, List.getElem?_eq_getElem hlt]
      refine ⟨hmatch, text[i], List.getElem?_eq_getElem hlt, ?_⟩
      rw [unmatched, hpeek, hoffset, ← hs.position_eq]
      rfl

/-! ## Rules -/

/-- Rules are refused for the first of them whose pattern makes no sense, whatever the text is. -/
theorem captureAll_outcome (rules : List (String × String)) (l : Lexer ι) :
    (l.captureAll rules).1 =
      match rules.find? fun rule => (Regex.compile? rule.2.toList).isNone with
      | none => .ok ()
      | some rule => .error (.invalidPattern rule.1) := by
  induction rules generalizing l with
  | nil => rfl
  | cons rule rules ih =>
    rw [captureAll, capture, List.find?_cons]
    rcases Regex.compile? rule.2.toList with _ | r
    · rfl
    · exact ih _

/-- Rules that all make sense are registered one after another. -/
theorem captureAll_of_compile {rules : List (String × String)} {handlers : List Handler}
    (hcompile : List.Forall₂
      (fun rule h => Regex.compile? rule.2.toList = some h.pattern ∧ h.kind = rule.1)
      rules handlers) (l : Lexer ι) :
    l.captureAll rules =
      (.ok (), { l with handlers := handlers.foldl (fun hs h => putHandler h hs) l.handlers }) := by
  induction hcompile generalizing l with
  | nil => rfl
  | cons hrule rest ih =>
    rw [captureAll, capture, hrule.1, ← hrule.2]
    exact ih _

theorem options_captureAll (rules : List (String × String)) (l : Lexer ι) :
    (l.captureAll rules).2.options = l.options := by
  induction rules generalizing l with
  | nil => rfl
  | cons rule rules ih =>
    rw [captureAll, capture]
    rcases Regex.compile? rule.2.toList with _ | r
    · rfl
    · exact ih _

/-! ## Lexers in use -/

theorem cursor_capture {l l' : Lexer ι} {kind pattern : String}
    (h : l.capture kind pattern = .ok l') : l'.cursor = l.cursor := by
  rw [capture] at h
  split at h
  · cases h
    rfl
  · cases h

/-- Registering rules does not move the cursor. -/
theorem cursor_captureAll (rules : List (String × String)) (l : Lexer ι) :
    (l.captureAll rules).2.cursor = l.cursor := by
  induction rules generalizing l with
  | nil => rfl
  | cons rule rules ih =>
    rw [captureAll]
    split
    · next l' h => rw [ih, cursor_capture h]
    · rfl

/-- What can be done with a lexer. -/
inductive Use (ι : Type) where
  | capture (kind pattern : String)
  | captureAll (rules : List (String × String))
  | on (event : String) (id : ι)
  | off (event : String)
  | setInput (input : String)
  | call (c : Call)
  | tokenize

/-- The lexer afterwards. Its listeners can be removed only where it lets them be reached. -/
def Use.apply : Use ι → Lexer ι → Lexer ι
  | .capture kind pattern, l =>
    match l.capture kind pattern with
    | .ok l => l
    | .error _ => l
  | .captureAll rules, l => (l.captureAll rules).2
  | .on event id, l => l.on event id
  | .off event, l => if l.options.emitEvents then { l with events := l.events.off event } else l
  | .setInput input, l => l.setInput input
  | .call c, l => (host.call c l).state
  | .tokenize, l => (tokenizer.tokenize l).state

/-- The lexers that come of a new one, whatever is done with it. -/
inductive Reachable : Lexer ι → Prop where
  | ofInput (input : String) (options : LexerOptions) : Reachable (.ofInput input options)
  | use {l : Lexer ι} (u : Use ι) (h : Reachable l) : Reachable (u.apply l)

/-- Registering rules keeps what registering one rule keeps. -/
theorem captureAll_keeps {P : Lexer ι → Prop}
    (hcapture : ∀ l l' kind pattern, P l → l.capture kind pattern = .ok l' → P l')
    (rules : List (String × String)) {l : Lexer ι} (hl : P l) : P (l.captureAll rules).2 := by
  induction rules generalizing l with
  | nil => exact hl
  | cons rule rules ih =>
    rw [captureAll]
    split
    · next l' h => exact ih (hcapture _ _ _ _ hl h)
    · exact hl

/-- A use keeps what registering a rule, changing the listeners, another text and a single call
keep. -/
theorem Use.keeps {P : Lexer ι → Prop}
    (hcapture : ∀ l l' kind pattern, P l → l.capture kind pattern = .ok l' → P l')
    (hevents : ∀ l events, P l → P { l with events := events })
    (hinput : ∀ l input, P l → P (l.setInput input))
    (hcall : ∀ c l, P l → P (host.call c l).state) (u : Use ι) {l : Lexer ι} (hl : P l) :
    P (u.apply l) := by
  cases u with
  | capture kind pattern =>
    rw [Use.apply]
    split
    · next l' h => exact hcapture _ _ _ _ hl h
    · exact hl
  | captureAll rules => exact captureAll_keeps hcapture rules hl
  | on event id => exact hevents _ _ hl
  | off event =>
    rw [Use.apply]
    split
    · exact hevents _ _ hl
    · exact hl
  | setInput input => exact hinput _ _ hl
  | call c => exact hcall c _ hl
  | tokenize =>
    -- all tokens are given by single calls, and one more that gives none
    obtain ⟨ts, l', g, hstate, -⟩ := host.drain_cases finite l
    have hl' : P l' := g.keeps (fun l h => hcall .advance l h) hl
    have hstate' : Use.apply .tokenize l = (host.call .advance l').state := hstate
    rw [hstate']
    exact hcall .advance l' hl'

/-- One use leaves the cursor where its text says. -/
theorem Use.sound_apply (u : Use ι) {l : Lexer ι} (hs : l.cursor.Sound) :
    (u.apply l).cursor.Sound := by
  refine u.keeps (P := fun l : Lexer ι => l.cursor.Sound) ?_ ?_ ?_ ?_ hs
  · intro l l' kind pattern hs h
    rw [cursor_capture h]
    exact hs
  · intro l events hs
    exact hs
  · intro l input _
    exact Cursor.sound_ofString input _
  · intro c l hs
    exact sound_call c hs

theorem Reachable.sound {l : Lexer ι} (h : l.Reachable) : l.cursor.Sound := by
  induction h with
  | ofInput input options => exact Cursor.sound_ofString input _
  | use u h ih => exact u.sound_apply ih

end Lexer

end Locus
