import Locus.Text.Quoted

/-!
# Emitters

Named events and who listens to them. Emitting an event runs its listeners in the order in which
they were registered; what they do is not part of the emitter, which only says who hears what.
-/

namespace Locus

/-- The event that is emitted for every token that is given a location. -/
def locationEvent : String := "location"

/-- Who listens to which event. Every event with listeners has one entry, in the order in which
the events got their first listener. -/
structure Emitter (ι : Type) where
  listeners : List (String × List ι)

namespace Emitter

variable {ι : Type}

/-- No listeners at all. -/
def empty : Emitter ι := ⟨[]⟩

instance : Inhabited (Emitter ι) := ⟨empty⟩

/-- The listeners of an event, in the order of their registration. -/
def heardBy (e : Emitter ι) (event : String) : List ι :=
  match e.listeners.find? fun entry => entry.1 = event with
  | some entry => entry.2
  | none => []

/-- Adds a listener at the end of an entry, or a new entry. -/
def addListener (event : String) (id : ι) : List (String × List ι) → List (String × List ι)
  | [] => [(event, [id])]
  | (name, ids) :: rest =>
    if name = event then (name, ids ++ [id]) :: rest
    else (name, ids) :: addListener event id rest

/-- Registers a listener for an event. One that is registered twice is run twice. -/
def on (e : Emitter ι) (event : String) (id : ι) : Emitter ι :=
  ⟨addListener event id e.listeners⟩

/-- Removes all listeners of an event. -/
def off (e : Emitter ι) (event : String) : Emitter ι :=
  ⟨e.listeners.filter fun entry => entry.1 ≠ event⟩

/-- How many listeners are removed when an event is cleared: those of the entries that go. -/
def removed (e : Emitter ι) (event : String) : Nat :=
  ((e.listeners.filter fun entry => entry.1 = event).flatMap (·.2)).length

/-- How many listeners an event has. -/
def count (e : Emitter ι) (event : String) : Nat :=
  (e.heardBy event).length

/-- Whether an event has listeners. -/
def hasListeners (e : Emitter ι) (event : String) : Bool :=
  0 < e.count event

/-- Who hears an event, in order, and with what. -/
def emit {τ : Type} (e : Emitter ι) (event : String) (payload : τ) : List (ι × τ) :=
  (e.heardBy event).map fun id => (id, payload)

/-- How many listeners each event has, as a text. -/
def display (e : Emitter ι) : String :=
  let counts :=
    e.listeners.map fun (name, ids) => Quoted.quoteString name ++ ": " ++ toString ids.length
  "Emitter \x7b listeners: \x7b" ++ String.intercalate ", " counts ++ "\x7d \x7d"

end Emitter

end Locus
