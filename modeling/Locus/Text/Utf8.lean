/-!
# UTF-8

The length of a text in UTF-8, the parts of a text between byte offsets, and the reading of bytes as
text. A byte sequence that is not UTF-8 is refused with the place of the first fault: how many bytes
before it are well formed, and how many bytes the faulty character spans, unless the bytes end
inside a character.
-/

namespace Locus.Utf8

/-- The number of bytes that a text takes in UTF-8. -/
def size : List Char → Nat
  | [] => 0
  | c :: cs => c.utf8Size + size cs

/-- The byte offsets at which the characters of a text begin, where the text begins at byte `n`,
and last the one at which it ends. -/
def offsets (n : Nat) : List Char → List Nat
  | [] => [n]
  | c :: cs => n :: offsets (n + c.utf8Size) cs

/-- What stands before and after byte `n` of a text. None if that byte is inside a character or past
the end. -/
def split? : Nat → List Char → Option (List Char × List Char)
  | 0, cs => some ([], cs)
  | _ + 1, [] => none
  | n + 1, c :: cs =>
    if c.utf8Size ≤ n + 1 then
      (split? (n + 1 - c.utf8Size) cs).map fun (before, after) => (c :: before, after)
    else none

/-- The text from one byte offset to another. None if they are the wrong way round or one of them
is no place between two characters. -/
def between? (start stop : Nat) (cs : List Char) : Option (List Char) :=
  if start ≤ stop then do
    let (_, after) ← split? start cs
    let (part, _) ← split? (stop - start) after
    some part
  else none

/-- The first place at which a byte sequence is not UTF-8. -/
structure Fault where
  /-- How many bytes before the fault are well formed. -/
  index : Nat
  /-- How many bytes the faulty character spans; none if the bytes end inside it. -/
  span : Option Nat
deriving DecidableEq

/-- The sentence that reports a fault. -/
def Fault.message (fault : Fault) : String :=
  match fault.span with
  | some n =>
    "invalid utf-8 sequence of " ++ toString n ++ " bytes from index " ++ toString fault.index
  | none => "incomplete utf-8 byte sequence from index " ++ toString fault.index

/-- A character of which some bytes have been read. -/
structure Opened where
  /-- Where its first byte stands. -/
  start : Nat
  /-- How many of its bytes have been read. -/
  taken : Nat
  /-- How many bytes after the next one it still needs. -/
  owed : Nat
  /-- The least value that its next byte may have. -/
  low : Nat
  /-- The greatest value that its next byte may have. -/
  high : Nat
  /-- The bits read so far. -/
  value : Nat

/-- What a byte at the start of a character opens, if it can stand there. The bounds of the second
byte keep out overlong forms, surrogates and values past the last code point. -/
def Opened.ofLead? (start b : Nat) : Option Opened :=
  if 0xC2 ≤ b ∧ b ≤ 0xDF then some ⟨start, 1, 0, 0x80, 0xBF, b % 0x20⟩
  else if b = 0xE0 then some ⟨start, 1, 1, 0xA0, 0xBF, b % 0x10⟩
  else if b = 0xED then some ⟨start, 1, 1, 0x80, 0x9F, b % 0x10⟩
  else if 0xE1 ≤ b ∧ b ≤ 0xEF then some ⟨start, 1, 1, 0x80, 0xBF, b % 0x10⟩
  else if b = 0xF0 then some ⟨start, 1, 2, 0x90, 0xBF, b % 0x08⟩
  else if b = 0xF4 then some ⟨start, 1, 2, 0x80, 0x8F, b % 0x08⟩
  else if 0xF1 ≤ b ∧ b ≤ 0xF3 then some ⟨start, 1, 2, 0x80, 0xBF, b % 0x08⟩
  else none

/-- Reads bytes from position `index` on, inside the character `opened` if there is one. -/
def decodeFrom (index : Nat) (opened : Option Opened) : List UInt8 → Except Fault (List Char)
  | [] =>
    match opened with
    | none => .ok []
    | some o => .error ⟨o.start, none⟩
  | byte :: bytes =>
    let b := byte.toNat
    match opened with
    | none =>
      if b < 0x80 then (decodeFrom (index + 1) none bytes).map (Char.ofNat b :: ·)
      else
        match Opened.ofLead? index b with
        | none => .error ⟨index, some 1⟩
        | some o => decodeFrom (index + 1) (some o) bytes
    | some o =>
      if o.low ≤ b ∧ b ≤ o.high then
        let value := o.value * 0x40 + b % 0x40
        match o.owed with
        | 0 => (decodeFrom (index + 1) none bytes).map (Char.ofNat value :: ·)
        | n + 1 => decodeFrom (index + 1) (some ⟨o.start, o.taken + 1, n, 0x80, 0xBF, value⟩) bytes
      else .error ⟨o.start, some o.taken⟩

/-- The text that the bytes spell, or the first fault in them. -/
def decode (bytes : List UInt8) : Except Fault (List Char) :=
  decodeFrom 0 none bytes

@[simp] theorem size_nil : size [] = 0 := rfl

@[simp] theorem size_cons (c : Char) (cs : List Char) : size (c :: cs) = c.utf8Size + size cs := rfl

@[simp] theorem size_append (cs ds : List Char) : size (cs ++ ds) = size cs + size ds := by
  induction cs with
  | nil => simp
  | cons c cs ih => simp [ih, Nat.add_assoc]

end Locus.Utf8
