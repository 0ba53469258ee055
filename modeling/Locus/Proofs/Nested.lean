import Locus.Proofs.Located
import Locus.Proofs.StampOrder
import Locus.Scripted
import Locus.Trail

/-!
# Plugins inside plugins

A located host is located once more, under a second property. Both plugins see the same start, the
same end and the same label, although the inner one has told its listeners of the token before the
outer one stamps it. Main statement: the two plugins can change places, and all that shows it is the
first of the two tokens that listeners hear of.
-/

namespace Locus.Plugin

variable {σ ι τ ε : Type}

/-- The location of the token that a call gives: from where the host was to where it is. -/
def stretch (h : Host σ ι) (found left : σ) : Location :=
  ⟨h.source left, h.cursor found, h.cursor left⟩

/-- Who hears of a token, through the emitter that the host has. -/
def told (h : Host σ ι) (s : σ) (t : τ) : List (ι × τ) :=
  match h.emitter s with
  | some e => e.emit locationEvent t
  | none => []

variable [Locate τ]

/-- The reply to a call that gives a token, once it is located. -/
theorem locateReply_token (p : Plugin) (h : Host σ ι) (s s' : σ) (t : τ) (heard : List (ι × τ)) :
    p.locateReply (ε := ε) h s ⟨.ok (some t), s', heard⟩ =
      ⟨.ok (some (stamp p.property (stretch h s s') t)), s',
        heard ++ told h s' (stamp p.property (stretch h s s') t)⟩ := rfl

theorem call_locate_locate (p q : Plugin) (h : TokenHost σ ι τ ε) (c : Call) (s : σ) :
    (q.locate (p.locate h)).call c s =
      q.locateReply h.toHost s (p.locateReply h.toHost s (h.call c s)) := by
  rw [call_locate, call_locate]
  rfl

/-- How a call of a host with plugin `p` inside plugin `q` relates to the call itself. Both are
given with the state that they found. -/
structure Nests (p q : Plugin) (h : Host σ ι) (proper : τ → Prop)
    (holds : τ → String → Location → Prop)
    (bare nested : σ × Reply σ ι τ (Except ε (Option τ))) : Prop where
  found : nested.1 = bare.1
  left : nested.2.state = bare.2.state
  idle : (∀ t, bare.2.outcome ≠ .ok (some t)) → nested.2 = bare.2
  /-- Listeners hear of a token twice: as the inner plugin alone stamps it, and as it is handed
  back. -/
  told_twice : ∀ t, bare.2.outcome = .ok (some t) → ∃ inner outer,
    (p.locateReply h bare.1 bare.2).outcome = .ok (some inner) ∧
      nested.2.outcome = .ok (some outer) ∧
      nested.2.heard = bare.2.heard ++ (told h bare.2.state inner ++ told h bare.2.state outer)
  /-- A token that takes the location under both properties holds it under both. -/
  holds_both : ∀ t t', bare.2.outcome = .ok (some t) → nested.2.outcome = .ok (some t') →
    proper t →
    (Locate.attach? p.property (stretch h bare.1 bare.2.state) t).isSome →
    (Locate.attach? q.property (stretch h bare.1 bare.2.state) t).isSome →
    holds t' p.property (stretch h bare.1 bare.2.state) ∧
      holds t' q.property (stretch h bare.1 bare.2.state)

/-- Whatever the host is, and whatever it is asked for, plugin `p` inside plugin `q` replies as `q`
inside `p` does, with the same tokens. -/
def Commute (τ : Type) [Locate τ] (proper : τ → Prop) (holds : τ → String → Location → Prop) :
    Prop :=
  ∀ {σ ι ε : Type} (h : TokenHost σ ι τ ε) (p q : Plugin) (calls : List Call) (s : σ),
    let inside (p q : Plugin) := (q.locate (p.locate h)).trace calls s
    (inside p q).map (fun x => (x.1, x.2.outcome, x.2.state)) =
        (inside q p).map (fun x => (x.1, x.2.outcome, x.2.state)) ∧
      List.Forall₂ (Nests p q h.toHost proper holds) (h.trace calls s) (inside p q)

section

variable {proper : τ → Prop} {holds : τ → String → Location → Prop}
  (laws : StampsFreely τ proper holds) (p q : Plugin)

include laws

/-- One call of a host that is located twice. -/
theorem nests_locateReply (h : Host σ ι) (s : σ) (r : Reply σ ι τ (Except ε (Option τ))) :
    Nests p q h proper holds (s, r) (s, q.locateReply h s (p.locateReply h s r)) := by
  refine ⟨rfl, ?_, fun hr => ?_, fun t ht => ?_, fun t t' ht ht' hproper hp hq => ?_⟩
  · rw [locateReply_state, locateReply_state]
  · rw [locateReply_of_no_token p h s hr, locateReply_of_no_token q h s hr]
  · obtain ⟨outcome, s', heard⟩ := r
    cases ht
    rw [locateReply_token, locateReply_token]
    exact ⟨_, _, rfl, rfl, List.append_assoc ..⟩
  · obtain ⟨outcome, s', heard⟩ := r
    cases ht
    rw [locateReply_token, locateReply_token] at ht'
    cases ht'
    exact laws.holds_both hproper hp hq

/-- The two stamps of one call can be exchanged, since both are of the same location. -/
theorem outcome_locateReply_comm (h : Host σ ι) (s : σ) (r : Reply σ ι τ (Except ε (Option τ))) :
    (q.locateReply h s (p.locateReply h s r)).outcome =
      (p.locateReply h s (q.locateReply h s r)).outcome := by
  obtain ⟨_ | _ | t, s', heard⟩ := r
  · rfl
  · rfl
  · rw [locateReply_token, locateReply_token, locateReply_token, locateReply_token,
      laws.stamp_comm]

/-- All calls, one after another: each finds the state that the call of the host itself would. -/
theorem commute_of_stampsFreely : Commute τ proper holds := by
  intro σ ι ε h p q calls s inside
  have hstate : ∀ (p q : Plugin) c s,
      ((q.locate (p.locate h)).call c s).state = (h.call c s).state :=
    fun p q c s => by rw [call_locate_state, call_locate_state]
  constructor
  · induction calls generalizing s with
    | nil => rfl
    | cons c calls ih =>
      have houtcome : ((q.locate (p.locate h)).call c s).outcome =
          ((p.locate (q.locate h)).call c s).outcome := by
        rw [call_locate_locate, call_locate_locate]
        exact outcome_locateReply_comm laws p q h.toHost s (h.call c s)
      have hrest := ih (h.call c s).state
      simp only [inside, TokenHost.trace, List.map_cons, hstate, houtcome] at hrest ⊢
      rw [hrest]
  · induction calls generalizing s with
    | nil => exact .nil
    | cons c calls ih =>
      have hrest := ih (h.call c s).state
      simp only [inside, TokenHost.trace, hstate] at hrest ⊢
      rw [call_locate_locate]
      exact .cons (nests_locateReply laws p q h.toHost s (h.call c s)) hrest

end

/-- **Nested plugins commute.** A host of any kind is located under two properties, one plugin
inside the other, and asked for tokens any number of times; its tokens are tokens, JSON objects or
values, or records of any declaration. It goes through the same states and replies the same, equal
tokens included, whichever plugin is the inner one, also where the properties are equal or refused.
A token that takes its location under both properties holds it under both. If the host has an
emitter, listeners hear of each token twice, first as the inner plugin alone stamps it and then as
it is handed back, and calls that give no token are answered as by the host itself. -/
theorem nested_plugins_commute :
    Commute Token (fun _ => True) (fun t p l => t.location? p = some l) ∧
      Commute Json.Object (fun _ => True)
        (fun o p l => Keyed.find? p o.members = some l.value) ∧
      Commute Json.Value (fun _ => True) (fun v p l => v.member? p = some l.value) ∧
      ∀ (layout : Record.Layout) (fs : List Record.Field),
        Record.Layout.ofDeclaration (.fields fs) = .ok layout →
        Commute (Record layout) (fun r => r.WellTyped fs) (Record.Holds fs) :=
  ⟨commute_of_stampsFreely Token.stampsFreely, commute_of_stampsFreely Json.Object.stampsFreely,
    commute_of_stampsFreely Json.Value.stampsFreely,
    fun _ _ hlayout => commute_of_stampsFreely (Record.stampsFreely hlayout)⟩

/-- A record with one location under the names `at` and `spot` takes `spot` and `x` in either
order, and a listener hears of it twice. -/
theorem nested_plugins_commute_two_names :
    let inside (ts : List Record.Atom) : Record.Arguments := .list (ts.map .atom)
    let fs : List Record.Field :=
      [⟨"at", [⟨Record.slotPath, .absent⟩,
          ⟨Record.slotPath, inside [.word "name", .sign '=' false, .text "spot"]⟩]⟩,
        ⟨"rest", [⟨.plain "serde", inside [.word "flatten"]⟩,
          ⟨Record.slotPath, inside [.word "extra"]⟩]⟩]
    let layout : Record.Layout :=
      ⟨[("at", "at"), ("spot", "at")], some "rest", none,
        fs.map fun f => (f.name, .ofAttributes f.attributes)⟩
    let r : Record layout := ⟨[("at", .location none), ("rest", .locations .empty)]⟩
    let l : Location := ⟨some "a", Position.start, ⟨1, 1, 1⟩⟩
    let s : Scripted Unit (Record layout) :=
      ⟨.lexer, Position.start, some "a", some (Emitter.empty.on locationEvent ()),
        [⟨"k", some ⟨1, 1, 1⟩, .give r⟩], none⟩
    let nested (p q : String) : TokenHost (Scripted Unit (Record layout)) Unit (Record layout) _ :=
      (mk q).locate ((mk p).locate Scripted.host)
    Record.Layout.ofDeclaration (.fields fs) = .ok layout ∧ r.WellTyped fs ∧
      ((nested "spot" "x").advance s).outcome = ((nested "x" "spot").advance s).outcome ∧
      ∃ inner outer, ((nested "spot" "x").advance s).outcome = .ok (some outer) ∧
        ((nested "spot" "x").advance s).heard = [((), inner), ((), outer)] ∧
        Record.Holds fs outer "spot" l ∧ Record.Holds fs outer "x" l := by
  intro inside fs layout r l s nested
  have hlayout : Record.Layout.ofDeclaration (.fields fs) = .ok layout := by rfl
  have hr : r.WellTyped fs := by
    refine .of_layout (Record.Layout.reads_of_ofDeclaration hlayout) rfl (by decide) ?_ ?_ ?_
    · intro x hx
      have hat : x.2 = "at" := by
        simp only [layout, List.mem_cons, List.not_mem_nil, or_false] at hx
        rcases hx with rfl | rfl <;> rfl
      exact ⟨none, by rw [hat]; rfl⟩
    · rintro field ⟨⟩
      exact ⟨.empty, rfl⟩
    · rintro field ⟨⟩
  obtain ⟨hsame, hnests⟩ :=
    nested_plugins_commute.2.2.2 layout fs hlayout Scripted.host ⟨"spot"⟩ ⟨"x"⟩ [.advance] s
  have hadvance := (List.forall₂_cons.1 hnests).1
  have hsame' : ((nested "spot" "x").advance s).outcome = ((nested "x" "spot").advance s).outcome :=
    congrArg (fun x => x.2.1) (List.cons.inj hsame).1
  obtain ⟨inner, outer, -, houter, hheard⟩ := hadvance.told_twice r rfl
  obtain ⟨hspot, hx⟩ := hadvance.holds_both r outer rfl houter hr rfl rfl
  exact ⟨hlayout, hr, hsame', inner, outer, houter, hheard, hspot, hx⟩

/-- Trails remember in which order they took locations, so plugins around them do not commute. -/
example : ¬Commute Trail (fun _ => True) (fun t p l => (p, l) ∈ t.seen) := by
  intro hcommute
  let s : Scripted Unit Trail :=
    ⟨.lexer, Position.start, none, none, [⟨"k", none, .give ⟨[]⟩⟩], none⟩
  have hfirst := (List.cons.inj (hcommute Scripted.host ⟨"p"⟩ ⟨"q"⟩ [.advance] s).1).1
  have htrails := Option.some.inj (Except.ok.inj (congrArg (fun x => x.2.1) hfirst))
  exact absurd (congrArg (fun t => t.seen.map (·.1)) htrails) (by decide)

end Locus.Plugin
