import Locus.Proofs.Lexer
import Locus.Proofs.Located
import Locus.Proofs.Requests

/-!
# Calls that give nothing

A lexer that has no token for a call, for whatever reason, has tried some of its rules in vain, and
none of these tries may leave a trace, nor may a plugin around it. Main statement: such a call
leaves the lexer as it is and nobody hears of it, so any number of them can be put anywhere into a
run without changing anything else about the run.
-/

namespace Locus

variable {σ ι τ ε : Type}

/-! ## Hosts that are left alone by idle calls -/

/-- The reply brings no token: it says that there is none, or it is an error. -/
def Reply.IsIdle {α : Type} (r : Reply σ ι τ (Except ε (Option α))) : Prop :=
  ∀ t, r.outcome ≠ .ok (some t)

/-- Calls without a token leave the host as it is, and nobody hears of them. -/
def TokenHost.IdleKeeps (h : TokenHost σ ι τ ε) : Prop :=
  ∀ c s, (h.call c s).IsIdle → (h.call c s).state = s ∧ (h.call c s).heard = []

/-- A plugin adds nothing to calls without a token. -/
theorem Plugin.idleKeeps_locate [Locate τ] (p : Plugin) {h : TokenHost σ ι τ ε}
    (hidle : h.IdleKeeps) : (p.locate h).IdleKeeps := by
  intro c s hnone
  have hbare : (h.call c s).IsIdle := by
    intro t ht
    have hlocated := locateReply_of_some p h.toHost s ht
    rw [← call_locate] at hlocated
    exact hnone _ hlocated
  rw [call_locate, locateReply_of_no_token p h.toHost s hbare]
  exact hidle c s hbare

namespace Lexer

theorem idleKeeps_host : (host (ι := ι)).IdleKeeps := by
  intro c l hnone
  have hheard : (host.call c l).heard = [] := by cases c <;> rfl
  rcases call_cases c l with ⟨hstate, -⟩ | ⟨h, -, n, -, hr⟩
  · exact ⟨hstate, hheard⟩
  · exact absurd (congrArg Reply.outcome hr) (hnone _)

end Lexer

/-! ## Idle calls within a run -/

/-- A part of a run: something that is asked for, or a call that is put in between. -/
inductive RunPart where
  | asked (q : Request)
  | between (c : Call)

namespace RunPart

/-- What is requested. -/
def request : RunPart → Request
  | .asked q => q
  | .between c => .call c

/-- What is asked for, if it is not put in between. -/
def asked? : RunPart → Option Request
  | .asked q => some q
  | .between _ => none

end RunPart

/-- The answer brings no token. -/
def Answer.IsIdle : Answer τ ε → Prop
  | .one r => ∀ t, r ≠ .ok (some t)
  | .all _ => False

instance (a : Answer τ ε) : Decidable a.IsIdle :=
  match a with
  | .one (.ok (some t)) => .isFalse fun h => h t rfl
  | .one (.ok none) => .isTrue fun _ ht => by cases ht
  | .one (.error _) => .isTrue fun _ ht => by cases ht
  | .all _ => .isFalse id

/-- **Idle calls can be put anywhere into a run.** By induction on the run: the host is the same
after such a call, so whatever comes later finds it as it would without the call. -/
theorem Tokenizer.serve_without_idle {h : Tokenizer σ ι τ ε} (hidle : h.IdleKeeps)
    (run : List RunPart) (s : σ)
    (hrun : ∀ x ∈ run.zip (h.serve (run.map RunPart.request) s), x.1.asked? = none →
      x.2.reply.outcome.IsIdle) :
    ((run.zip (h.serve (run.map RunPart.request) s)).filter fun x => x.1.asked?.isSome).map
        Prod.snd = h.serve (run.filterMap RunPart.asked?) s := by
  induction run generalizing s with
  | nil => rfl
  | cons part run ih =>
    rw [List.map_cons, serve, List.zip_cons_cons] at hrun ⊢
    obtain ⟨hpart, hrest⟩ := List.forall_mem_cons.1 hrun
    have hlater := ih _ hrest
    cases part with
    | asked q =>
      have hkeep : (RunPart.asked q).asked? = some q := rfl
      rw [List.filter_cons_of_pos rfl, List.map_cons, hlater, List.filterMap_cons_some hkeep, serve]
      rfl
    | between c =>
      -- the call finds the host as it leaves it
      have hstate : (h.answer (RunPart.between c).request s).state = s :=
        (hidle c s (hpart rfl)).1
      rw [List.filter_cons_of_neg Bool.false_ne_true, hlater, List.filterMap_cons_none rfl, hstate]

/-! ## Lexers -/

namespace Lexer

variable {ι : Type}

/-- A lexer under plugins, the first of which is the outermost. -/
def under (plugins : List Plugin) : Tokenizer (Lexer ι) ι Token LexError :=
  plugins.foldr Plugin.install tokenizer

theorem idleKeeps_under (plugins : List Plugin) : (under (ι := ι) plugins).IdleKeeps := by
  induction plugins with
  | nil => exact idleKeeps_host
  | cons p plugins ih => exact p.idleKeeps_locate ih

/-- **A call without a token leaves a lexer exactly as it was**, bare or under any plugins: whether
no rule has the kind, or the rule does not match, or only the empty text, or no rule matches, or
the text has come to its end. The cursor, the text, the rules in their order, the options and the
listeners are the same afterwards, and nobody has heard anything. So wherever and however often such
calls are put into a run, all other requests of the run find the same lexer as without them, and get
the same replies, those to listeners among them. -/
theorem idle_calls_leave_no_trace (plugins : List Plugin) (l : Lexer ι) :
    let h := under plugins
    (∀ c, (h.call c l).IsIdle → (h.call c l).state = l ∧ (h.call c l).heard = []) ∧
      ∀ run : List RunPart,
        let exchanges := run.zip (h.serve (run.map RunPart.request) l)
        (∀ x ∈ exchanges, x.1.asked? = none → x.2.reply.outcome.IsIdle) →
          (exchanges.filter fun x => x.1.asked?.isSome).map Prod.snd =
            h.serve (run.filterMap RunPart.asked?) l := by
  intro h
  have hidle : h.IdleKeeps := idleKeeps_under plugins
  exact ⟨fun c => hidle c l, fun run => Tokenizer.serve_without_idle hidle run l⟩

/-- A located lexer with a listener, asked between its two tokens for a kind that it does not know,
for one that matches the empty text only, for one that does not match, and for whichever token where
no rule matches. -/
theorem idle_calls_leave_no_trace_between_tokens :
    let l : Lexer Nat := (Use.on locationEvent 0).apply <|
      (Use.captureAll [("word", "[a-zé]+"), ("maybe", "x*"), ("mark", "!")]).apply
        (.ofInput "é?" .standard)
    let h := under [.standard]
    let run : List RunPart :=
      [.between (.lex "number"), .between (.lex "maybe"), .between (.lex "mark"),
        .asked (.call (.lex "word")), .between .advance, .between (.lex "word"), .asked .tokenize]
    let exchanges := run.zip (h.serve (run.map RunPart.request) l)
    (h.call (.lex "number") l).state = l ∧
      (exchanges.map fun x => x.2.reply.heard.length) = [0, 0, 0, 1, 0, 0, 0] ∧
      (exchanges.filter fun x => x.1.asked?.isSome).map Prod.snd =
        h.serve [.call (.lex "word"), .tokenize] l := by
  intro l h run exchanges
  obtain ⟨hcall, hrun⟩ := idle_calls_leave_no_trace [.standard] l
  have hunknown : (Answer.one (h.call (.lex "number") l).outcome).IsIdle := by decide +kernel
  have hidle : ∀ x ∈ exchanges, x.1.asked? = none → x.2.reply.outcome.IsIdle := by decide +kernel
  exact ⟨(hcall _ hunknown).1, by decide +kernel, hrun run hidle⟩

end Lexer

end Locus
