import Locus.Host
import Locus.Locate

/-!
# Captures

The start of a location that still waits for its end. A capture is armed before a host reads a
token and fired afterwards. It holds the start itself, so any number of captures can wait on one
host, and one capture can be fired again and again.
-/

namespace Locus

/-- The start of a location, and the property under which the location will be given. -/
structure Capture where
  start : Position
  property : String
deriving DecidableEq

namespace Capture

variable {σ ι τ : Type}

/-- A capture that starts where the host is now. -/
def arm (h : Host σ ι) (property : String) (s : σ) : Capture := ⟨h.cursor s, property⟩

/-- The location from the start of the capture to where the host is now. -/
def location (c : Capture) (h : Host σ ι) (s : σ) : Location :=
  ⟨h.source s, c.start, h.cursor s⟩

/-- The token with the location that ends where the host is now. -/
def stamped [Locate τ] (c : Capture) (h : Host σ ι) (s : σ) (t : τ) : τ :=
  stamp c.property (c.location h s) t

/-- Who hears of the token once it is stamped, whether or not it took the location. -/
def heard [Locate τ] (c : Capture) (h : Host σ ι) (s : σ) (t : τ) : List (ι × τ) :=
  match h.emitter s with
  | some e => e.emit locationEvent (c.stamped h s t)
  | none => []

end Capture

end Locus
