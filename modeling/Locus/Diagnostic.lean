/-!
# Diagnostics

The details that a report of an error gives besides its message.
-/

namespace Locus

/-- What a report adds to an error's message. -/
structure Diagnostic where
  /-- The name of the kind of error. -/
  code : Option String
  /-- What to do about it. -/
  help : Option String
  /-- Places in the source: what is wrong there, the byte offset, and how many bytes are meant. -/
  labels : Option (List (String × Nat × Nat))
deriving DecidableEq

end Locus
