import Locus.Proofs.Emitter
import Locus.Proofs.Lexer
import Locus.Proofs.Located
import Locus.Proofs.Requests

/-!
# Who hears of located tokens

A located lexer tells its listeners of every token that it gives. What it gives does not depend on
who listens, so a lexer is compared here with itself under other listeners. Main statement: each
listener that is registered for locations hears of every token once, in order and as it is handed
back, also of those that are lost to the caller; nobody hears of anything else.
-/

namespace Locus

variable {ι : Type}

/-- Listeners hear of tokens, all of them of one token before the next. -/
def announce {τ : Type} (ids : List ι) (ts : List τ) : List (ι × τ) :=
  ts.flatMap fun t => ids.map fun id => (id, t)

/-- What one listener hears. -/
def heardAs {τ : Type} [DecidableEq ι] (id : ι) (heard : List (ι × τ)) : List τ :=
  heard.filterMap fun m => if m.1 = id then some m.2 else none

theorem announce_append {τ : Type} (ids : List ι) (ts us : List τ) :
    announce ids (ts ++ us) = announce ids ts ++ announce ids us :=
  List.flatMap_append

/-- Every token is heard as often as the listener is registered. -/
theorem heardAs_announce {τ : Type} [DecidableEq ι] (id : ι) (ids : List ι) (ts : List τ) :
    heardAs id (announce ids ts) = ts.flatMap fun t => List.replicate (ids.count id) t := by
  have hone : ∀ t : τ,
      heardAs id (ids.map fun id => (id, t)) = List.replicate (ids.count id) t := by
    intro t
    induction ids with
    | nil => rfl
    | cons id' ids ih =>
      rw [heardAs, List.map_cons, List.filterMap_cons]
      rw [heardAs] at ih
      by_cases h : id' = id
      · simp [h, ih, List.replicate_succ]
      · simp [h, ih]
  induction ts with
  | nil => rfl
  | cons t ts ih =>
    rw [announce, List.flatMap_cons, List.flatMap_cons, heardAs, List.filterMap_append]
    exact congrArg₂ (· ++ ·) (hone t) ih

namespace Lexer

/-- The lexer with other listeners, who are heard of or not. -/
def wired (l : Lexer ι) (on : Bool) (events : Emitter ι) : Lexer ι :=
  { l with events, options := { l.options with emitEvents := on } }

variable (l : Lexer ι) (on : Bool) (events : Emitter ι)

/-- What a rule makes of the text does not depend on the listeners. -/
theorem tryHandler_wired (h : Handler) :
    (l.wired on events).tryHandler h =
      (l.tryHandler h).map fun r => (r.1, r.2.wired on events) := by
  rw [tryHandler, tryHandler, Option.map_map]
  rfl

/-- Neither does a call. -/
theorem call_wired (c : Call) :
    host.call c (l.wired on events) =
      ⟨(host.call c l).outcome, (host.call c l).state.wired on events, []⟩ := by
  cases c with
  | lex kind =>
    have hcall : ∀ m : Lexer ι, host.call (.lex kind) m = reply (m.lex kind) := fun _ => rfl
    rw [hcall, hcall, lex, lex]
    have hhandlers : (l.wired on events).handlers = l.handlers := rfl
    rw [hhandlers]
    split
    · rfl
    · next h _ =>
      rw [tryHandler_wired]
      rcases l.tryHandler h with _ | ⟨t, l'⟩
      · rfl
      · rfl
  | advance =>
    have hcall : ∀ m : Lexer ι, host.call .advance m = reply m.advance := fun _ => rfl
    have hend : (l.wired on events).cursor.isAtEnd = l.cursor.isAtEnd := rfl
    have hfound : (l.wired on events).handlers.findSome? (l.wired on events).tryHandler =
        (l.handlers.findSome? l.tryHandler).map fun r => (r.1, r.2.wired on events) := by
      rw [List.map_findSome?]
      congr 1
      funext h
      exact l.tryHandler_wired on events h
    rw [hcall, hcall, advance, advance, hend, hfound]
    split
    · rfl
    · rcases l.handlers.findSome? l.tryHandler with _ | ⟨t, l'⟩
      · rfl
      · rfl

/-! ## Located lexers -/

variable (p : Plugin)

/-- What listeners hear of tokens, if they are heard of. -/
def announced (on : Bool) (events : Emitter ι) (ts : List Token) : List (ι × Token) :=
  if on then announce (events.heardBy locationEvent) ts else []

/-- A located call tells of its token once it is stamped, and of nothing else. -/
theorem call_locate_wired (c : Call) :
    let r := (p.locate host).call c l
    (p.locate host).call c (l.wired on events) =
      ⟨r.outcome, r.state.wired on events,
        announced on events (Answer.one r.outcome).handedBack⟩ := by
  intro r
  have hr : r = p.locateReply host.toHost l (host.call c l) := Plugin.call_locate p host c l
  rw [Plugin.call_locate, call_wired, hr]
  rcases host.call c l with ⟨e | _ | t, l', heard⟩
  · cases on <;> rfl
  · cases on <;> rfl
  · -- the label and the cursor of the location are those of `l'`, whoever listens
    cases on
    · rfl
    · have hemit : ∀ t : Token,
          events.emit locationEvent t = announce (events.heardBy locationEvent) [t] :=
        fun t => (List.append_nil _).symm
      exact congrArg (Reply.mk _ _) (hemit _)

theorem announced_append (ts us : List Token) :
    announced on events (ts ++ us) = announced on events ts ++ announced on events us := by
  cases on
  · rfl
  · exact announce_append _ ts us

/-- Asking for all tokens tells of those that are given, even if they are lost to a failure. -/
theorem drain_locate_wired :
    let h := p.locate (host (ι := ι))
    let fin := p.finite finite
    h.given fin (l.wired on events) = h.given fin l ∧
      h.drain fin (l.wired on events) =
        ⟨(h.drain fin l).outcome, (h.drain fin l).state.wired on events,
          announced on events (h.given fin l)⟩ := by
  intro h fin
  have hadvance : ∀ l : Lexer ι, h.advance (l.wired on events) =
      ⟨(h.advance l).outcome, (h.advance l).state.wired on events,
        announced on events (Answer.one (h.advance l).outcome).handedBack⟩ :=
    fun l => call_locate_wired l on events p .advance
  -- the other lexer makes the same calls, and after each of them only the listeners are others
  fun_induction TokenHost.drain h fin l with
  | case1 l e he =>
    have he' : (h.advance (l.wired on events)).outcome = .error e := by rw [hadvance, he]
    rw [TokenHost.drain_of_error he', TokenHost.given_of_error he, TokenHost.given_of_error he',
      hadvance, he]
    exact ⟨rfl, rfl⟩
  | case2 l hnone =>
    have hnone' : (h.advance (l.wired on events)).outcome = .ok none := by rw [hadvance, hnone]
    rw [TokenHost.drain_of_none hnone', TokenHost.given_of_none hnone,
      TokenHost.given_of_none hnone', hadvance, hnone]
    exact ⟨rfl, rfl⟩
  | case3 l t ht rest ih =>
    have ht' : (h.advance (l.wired on events)).outcome = .ok (some t) := by rw [hadvance, ht]
    obtain ⟨hgiven, hdrain⟩ := ih
    rw [TokenHost.drain_of_some ht', TokenHost.given_of_some ht, TokenHost.given_of_some ht',
      hadvance, hgiven, hdrain, ht]
    refine ⟨rfl, ?_⟩
    dsimp only
    rw [← announced_append]
    rfl

/-! ## Runs of a located lexer -/

/-- An exchange with the lexer under other listeners: only what is heard differs, and that is the
tokens that the lexer gives. -/
def rewired (x : Exchange (Lexer ι) ι Token LexError) : Exchange (Lexer ι) ι Token LexError :=
  ⟨x.request, x.found.wired on events,
    ⟨x.reply.outcome, x.reply.state.wired on events,
      announced on events ((p.locate host).made (p.finite finite) x)⟩⟩

theorem answer_wired (q : Request) :
    (⟨q, l.wired on events, (p.install tokenizer).answer q (l.wired on events)⟩ : Exchange ..) =
      rewired on events p ⟨q, l, (p.install tokenizer).answer q l⟩ := by
  cases q with
  | call c =>
    have hcall : (p.install tokenizer).call c (l.wired on events) = _ :=
      call_locate_wired l on events p c
    rw [Tokenizer.answer, hcall]
    rfl
  | tokenize =>
    have htokenize : ∀ l : Lexer ι, (p.install tokenizer).tokenize l =
        (p.locate host).drain (p.finite finite) l := fun _ => rfl
    rw [Tokenizer.answer, Tokenizer.answer, htokenize, htokenize, (drain_locate_wired ..).2,
      rewired, TokenHost.made]
    -- the tokens that are given are those that are handed back, unless they are lost
    rcases hout : ((p.locate host).drain (p.finite finite) l).outcome with e | ts
    · rfl
    · rw [TokenHost.given_eq_of_drain hout]
      rfl

/-- A run under other listeners, by induction on the requests. -/
theorem serve_wired (requests : List Request) :
    (p.install tokenizer).serve requests (l.wired on events) =
      ((p.install tokenizer).serve requests l).map (rewired on events p) := by
  induction requests generalizing l with
  | nil => rfl
  | cons q requests ih =>
    have hanswer := answer_wired l on events p q
    have hstate : ((p.install tokenizer).answer q (l.wired on events)).state =
        ((p.install tokenizer).answer q l).state.wired on events :=
      congrArg (fun x => x.reply.state) hanswer
    rw [Tokenizer.serve, Tokenizer.serve, List.map_cons, hanswer, hstate, ih]

/-- Neither the tokens of an exchange nor what is handed back depends on the listeners. -/
theorem made_rewired (x : Exchange (Lexer ι) ι Token LexError) :
    (p.locate host).made (p.finite finite) (rewired on events p x) =
      (p.locate host).made (p.finite finite) x := by
  have hgiven := (drain_locate_wired x.found on events p).1
  rw [TokenHost.made, TokenHost.made]
  rcases x with ⟨q, l, ⟨_ | (e | ts), l', heard⟩⟩
  · rfl
  · exact hgiven
  · rfl

/-- Two exchanges that the caller of a lexer cannot tell from each other. -/
structure Agrees (x y : Exchange (Lexer ι) ι Token LexError) : Prop where
  request_eq : y.request = x.request
  outcome_eq : y.reply.outcome = x.reply.outcome
  cursor_eq : y.reply.state.cursor = x.reply.state.cursor

/-- **Listeners hear of every token once.** A located lexer with any listeners, told by the history
of their registration, is asked for tokens. On each request every listener for locations hears, in
the order of registration, of each token that the request has made the lexer give, as it is handed
back; if asking for all tokens fails, these are the ones that single calls give before one of them
fails. A listener that is registered once hears exactly these tokens, and one that is not registered
for locations hears nothing. Nobody hears anything if events are off, and whoever listens, the
caller gets the same answers and the cursor goes the same way. -/
theorem heard_once_per_token [DecidableEq ι] (p : Plugin) (l : Lexer ι)
    (changes : List (Emitter.Change ι)) (requests : List Request) :
    let host := p.install tokenizer
    let run (on : Bool) (events : Emitter ι) := host.serve requests (l.wired on events)
    let made := host.made host.finite
    let loud := run true (.ofChanges changes)
    let ids := Emitter.registered locationEvent changes
    (∀ x ∈ loud, x.reply.heard = announce ids (made x)) ∧
      (∀ x ∈ loud, ∀ e, x.reply.outcome = .all (.error e) →
        ∃ m, host.Gives x.found (made x) m ∧ (host.advance m).outcome = .error e) ∧
      (∀ id, heardAs id (loud.flatMap fun x => x.reply.heard) =
        (loud.flatMap made).flatMap fun t => List.replicate (ids.count id) t) ∧
      (∀ events, ∀ x ∈ run false events, x.reply.heard = []) ∧
      ∀ on events, List.Forall₂ Agrees loud (run on events) := by
  intro host run made loud ids
  have hrun : ∀ on events, run on events = (host.serve requests l).map (rewired on events p) :=
    fun on events => serve_wired l on events p requests
  have hheard : ∀ x ∈ loud, x.reply.heard = announce ids (made x) := by
    intro x hx
    have hloud : loud = _ := hrun true _
    rw [hloud] at hx
    obtain ⟨y, -, rfl⟩ := List.mem_map.1 hx
    have hmade : made (rewired true (.ofChanges changes) p y) = made y := made_rewired _ _ p y
    have hids : (Emitter.ofChanges changes).heardBy locationEvent = ids :=
      Emitter.heardBy_ofChanges changes locationEvent
    rw [hmade, ← hids]
    rfl
  refine ⟨hheard, fun x hx e he => TokenHost.gives_made_of_mem_serve hx he, ?_, ?_, ?_⟩
  · intro id
    have hall : (loud.flatMap fun x => x.reply.heard) = announce ids (loud.flatMap made) := by
      rw [announce, List.flatMap_assoc]
      exact List.flatMap_congr hheard
    rw [hall, heardAs_announce]
  · intro events x hx
    rw [hrun] at hx
    obtain ⟨y, -, rfl⟩ := List.mem_map.1 hx
    rfl
  · intro on events
    have hloud : loud = _ := hrun true _
    rw [hloud, hrun, List.forall₂_map_left_iff, List.forall₂_map_right_iff, List.forall₂_same]
    exact fun x _ => ⟨rfl, rfl, rfl⟩

end Lexer

end Locus
