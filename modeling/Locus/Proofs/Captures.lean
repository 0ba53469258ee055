import Locus.Proofs.Lexer
import Locus.Proofs.Token

/-!
# Captures over a lexer

A lexer that is asked for tokens while captures are armed and fired, in any order and any number.
Main statement: a capture that is armed before a run of calls and fired after it gives the location
of exactly the characters of the tokens that the calls have given.
-/

namespace Locus

/-- A lexer that is read, with what has come of it so far. -/
structure Session (ι : Type) where
  lexer : Lexer ι
  /-- The tokens, each with its own location: from where the lexer was before the call to where it
  was after it. -/
  pieces : List (Token × Location)
  /-- The captures that have been armed. -/
  captures : List Capture
  /-- The tokens on which captures have been fired. -/
  stamped : List Token

namespace Session

variable {ι : Type}

/-- What can happen in a session. -/
inductive Step where
  | call (c : Call)
  | arm (property : String)
  /-- The capture that was armed as number `k` is fired on some token. -/
  | fire (k : Nat) (t : Token)

/-- The session before anything has happened. -/
def start (l : Lexer ι) : Session ι := ⟨l, [], [], []⟩

/-- Asks for a token. What it gives is put down with its location. -/
def call (s : Session ι) (c : Call) : Session ι :=
  let r := Lexer.host.call c s.lexer
  match r.outcome with
  | .ok (some t) =>
    let c := Capture.arm Lexer.host.toHost defaultProperty s.lexer
    { s with
      lexer := r.state
      pieces := s.pieces ++ [(t, c.location Lexer.host.toHost r.state)] }
  | _ => { s with lexer := r.state }

/-- The session afterwards. Firing a capture that has not been armed does nothing. -/
def step (s : Session ι) : Step → Session ι
  | .call c => s.call c
  | .arm property => { s with captures := s.captures ++ [.arm Lexer.host.toHost property s.lexer] }
  | .fire k t =>
    match s.captures[k]? with
    | some c => { s with stamped := s.stamped ++ [c.stamped Lexer.host.toHost s.lexer t] }
    | none => s

/-- The session after several steps. -/
def run (s : Session ι) (steps : List Step) : Session ι := steps.foldl step s

/-- The text that the lexer reads. -/
def text (s : Session ι) : List Char := s.lexer.cursor.input

/-- How many characters the lexer has read. -/
def index (s : Session ι) : Nat := s.lexer.cursor.position.index

/-! ## What steps do -/

/-- A session that has gone on from another one: the same text is read, no capture is forgotten,
and the new tokens cover what has been read since. -/
structure Extends (s s' : Session ι) : Prop where
  sound : s'.lexer.cursor.Sound
  text_eq : s'.text = s.text
  options_eq : s'.lexer.options = s.lexer.options
  captures_kept : s.captures <+: s'.captures
  exists_tiles : ∃ ps, s'.pieces = s.pieces ++ ps ∧
    Tiles s.text s.lexer.options.source s.index ps s'.index

/-- A step that reads nothing. -/
theorem Extends.of_lexer_eq {s s' : Session ι} (hs : s.lexer.cursor.Sound)
    (hlexer : s'.lexer = s.lexer) (hpieces : s'.pieces = s.pieces)
    (hcaptures : s.captures <+: s'.captures) : s.Extends s' := by
  have hindex : s'.index = s.index := by rw [index, hlexer, index]
  refine ⟨?_, by rw [text, hlexer, text], by rw [hlexer], hcaptures, [], ?_, ?_⟩
  · rw [hlexer]
    exact hs
  · rw [hpieces, List.append_nil]
  · rw [hindex]
    exact .nil _

theorem Extends.refl {s : Session ι} (hs : s.lexer.cursor.Sound) : s.Extends s :=
  .of_lexer_eq hs rfl rfl (List.prefix_refl _)

theorem Extends.trans {s s' s'' : Session ι} (h : s.Extends s') (h' : s'.Extends s'') :
    s.Extends s'' := by
  obtain ⟨ps, hps, htiles⟩ := h.exists_tiles
  obtain ⟨qs, hqs, htiles'⟩ := h'.exists_tiles
  refine ⟨h'.sound, h'.text_eq.trans h.text_eq, h'.options_eq.trans h.options_eq,
    h.captures_kept.trans h'.captures_kept, ps ++ qs, ?_, ?_⟩
  · rw [hqs, hps, List.append_assoc]
  · rw [h.text_eq, h.options_eq] at htiles'
    exact htiles.append htiles'

/-- A call that gives a token extends the tokens by one, any other call leaves them. -/
theorem extends_call {s : Session ι} (hs : s.lexer.cursor.Sound) (c : Call) :
    s.Extends (s.call c) := by
  rcases Lexer.call_of_sound c hs with ⟨hstate, hnone⟩ | ⟨kind, n, hpos, hle, hok, hstate⟩
  · -- nothing has been read
    have hcall : s.call c = { s with lexer := s.lexer } := by
      rw [call]
      split
      · next t ht => exact absurd ht (hnone t)
      · rw [hstate]
    rw [hcall]
    exact .refl hs
  · -- the next piece has been read
    have hcall : s.call c =
        { s with
          lexer := { s.lexer with cursor := .atIndex s.text s.lexer.cursor.label (s.index + n) }
          pieces := s.pieces ++ [piece s.text s.lexer.options.source kind s.index n] } := by
      rw [call, hok]
      dsimp only
      rw [hstate, Lexer.location_of_sound hs defaultProperty kind n]
      rfl
    rw [hcall]
    refine ⟨Cursor.sound_atIndex _ hle, rfl, rfl, List.prefix_refl _, _, rfl, ?_⟩
    exact .cons kind hpos hle (.nil _)

theorem extends_step {s : Session ι} (hs : s.lexer.cursor.Sound) (step : Step) :
    s.Extends (s.step step) := by
  cases step with
  | call c => exact extends_call hs c
  | arm property => exact .of_lexer_eq hs rfl rfl (List.prefix_append _ _)
  | fire k t =>
    rw [Session.step]
    split
    · exact .of_lexer_eq hs rfl rfl (List.prefix_refl _)
    · exact .refl hs

theorem extends_run {s : Session ι} (hs : s.lexer.cursor.Sound) (steps : List Step) :
    s.Extends (s.run steps) := by
  induction steps generalizing s with
  | nil => exact .refl hs
  | cons step steps ih =>
    have hstep := extends_step hs step
    exact hstep.trans (ih hstep.sound)

/-! ## Captures -/

/-- A capture that has been armed is there from then on, as it was. -/
theorem getElem?_captures_of_arm {s : Session ι} (hs : s.lexer.cursor.Sound) (property : String)
    (steps : List Step) :
    (s.run (.arm property :: steps)).captures[s.captures.length]? =
      some ⟨s.lexer.cursor.position, property⟩ := by
  have harm : (s.step (.arm property)).captures =
      s.captures ++ [⟨s.lexer.cursor.position, property⟩] := rfl
  -- it is the last one when it is armed, and later ones come behind it
  have hnow : (s.step (.arm property)).captures[s.captures.length]? =
      some ⟨s.lexer.cursor.position, property⟩ := by
    rw [harm, List.getElem?_concat_length]
  have hlater := (extends_run (extends_step hs (.arm property)).sound steps).captures_kept
  obtain ⟨hlt, hval⟩ := List.getElem?_eq_some_iff.1 hnow
  have hget := hlater.getElem hlt
  exact List.getElem?_eq_some_iff.2 ⟨Nat.lt_of_lt_of_le hlt hlater.length_le, hget ▸ hval⟩

/-- A location from the one place of a session to the other picks out the new tokens. -/
theorem Extends.slice?_eq {s s' : Session ι} (hs : s.lexer.cursor.Sound) (h : s.Extends s')
    {ps : List (Token × Location)} (hps : s'.pieces = s.pieces ++ ps) {l : Location}
    (hstart : l.start.index = s.index) (hstop : l.stop.index = s'.index) :
    l.start.index ≤ l.stop.index ∧
      l.slice? s.text = some (ps.flatMap fun p => p.1.value.toList) := by
  obtain ⟨qs, hqs, htiles⟩ := h.exists_tiles
  obtain rfl : qs = ps := List.append_cancel_left (hqs.symm.trans hps)
  have horder : l.start.index ≤ l.stop.index ∧ l.stop.index ≤ s.text.length := by
    rw [hstart, hstop]
    exact ⟨htiles.le, htiles.le_length hs.1⟩
  refine ⟨horder.1, ?_⟩
  rw [Location.slice?_eq, if_pos horder, hstart, hstop, htiles.flatMap_value]

/-- **Captures cut the text where tokens were read.** A capture is armed at some point `a` of a
session and fired at some later point `b`, with any calls and any other captures before and between.
Its location goes from where the lexer was at `a` to where it is at `b`, and picks out the values of
the tokens between them. So do the locations of the tokens themselves, none of which is empty, and
each of which starts where the one before it ends. -/
theorem captures_cut_the_text {l : Lexer ι} (hl : l.Reachable) (before between : List Step)
    (property : String) (t : Token) :
    let host : Host (Lexer ι) ι := Lexer.host.toHost
    let text := l.cursor.input
    let a := (start l).run before
    let b := a.run (.arm property :: between)
    ∃ c ps, b.captures[a.captures.length]? = some c ∧ b.pieces = a.pieces ++ ps ∧
      let loc := c.location host b.lexer
      loc.source = l.options.source ∧
      loc.start = host.cursor a.lexer ∧
      loc.stop = host.cursor b.lexer ∧
      loc.start.index ≤ loc.stop.index ∧
      loc.slice? text = some (ps.flatMap fun p => p.1.value.toList) ∧
      (b.step (.fire a.captures.length t)).stamped = b.stamped ++ [stamp property loc t] ∧
      (property ∉ Token.ownKeys → (stamp property loc t).location? property = some loc) ∧
      (∀ p ∈ b.pieces, p.2.slice? text = some p.1.value.toList ∧ p.1.value ≠ "") ∧
      b.pieces.IsChain fun p q => p.2.stop = q.2.start := by
  intro host text a b
  have hfirst : (start l).Extends a := extends_run hl.sound before
  have hlater : a.Extends b := extends_run hfirst.sound (.arm property :: between)
  -- the tokens since the start are tiled as a whole, those since `a` are the last of them
  obtain ⟨all, hall, htiles⟩ := (hfirst.trans hlater).exists_tiles
  obtain ⟨ps, hps, -⟩ := hlater.exists_tiles
  have hget : b.captures[a.captures.length]? = some ⟨a.lexer.cursor.position, property⟩ :=
    getElem?_captures_of_arm hfirst.sound property between
  have hpieces : b.pieces = all := hall
  have hsource : b.lexer.options.source = l.options.source := by
    rw [(hfirst.trans hlater).options_eq]
    rfl
  obtain ⟨horder, hslice⟩ := hlater.slice?_eq hfirst.sound hps
    (l := Capture.location ⟨a.lexer.cursor.position, property⟩ host b.lexer) rfl rfl
  rw [hfirst.text_eq] at hslice
  refine ⟨_, ps, hget, hps, hsource, rfl, rfl, horder, hslice, ?_, fun hown => ?_,
    fun p hp => ?_, ?_⟩
  · rw [step, hget]
    rfl
  · rw [Token.location?_stamp hown, if_pos rfl]
  · rw [hpieces] at hp
    exact htiles.slice?_of_mem hp
  · rw [hpieces]
    exact htiles.isChain

/-- Two calls, of which the first asks for a kind that has no rule, between a capture and the end of
a line that takes two characters. -/
theorem captures_cut_the_text_across_crlf :
    let l : Lexer Empty :=
      (Lexer.Use.captureAll [("word", "[aé]+"), ("break", "\r\n")]).apply
        (.ofInput "éa\r\na" .standard)
    let a := (start l).run [.call .advance]
    let b := a.run [.arm "here", .call (.lex "number"), .call .advance]
    l.Reachable ∧ ∃ c, b.captures[0]? = some c ∧
      (c.location Lexer.host.toHost b.lexer).slice? l.cursor.input = some ['\r', '\n'] := by
  intro l a b
  have hl : l.Reachable := .use _ (.ofInput _ _)
  obtain ⟨c, ps, hc, hps, -, -, -, -, hslice, -⟩ :=
    captures_cut_the_text hl [.call .advance] [.call (.lex "number"), .call .advance] "here"
      (.ofKind "word" "a")
  have hc' : b.captures[a.captures.length]? = some c := hc
  have hlength : a.captures.length = 0 := by decide +kernel
  rw [hlength] at hc'
  have hvalues : (b.pieces.drop a.pieces.length).flatMap (fun p => p.1.value.toList)
      = ['\r', '\n'] := by decide +kernel
  have hps' : b.pieces = a.pieces ++ ps := hps
  rw [hps', List.drop_left] at hvalues
  refine ⟨hl, c, hc', ?_⟩
  rw [← hvalues]
  exact hslice

end Session

end Locus
