/-!
# Globs

Patterns for paths, as they stand in ignore files: `?` and `*` stand for bytes of one name, `**`
for any number of names, brackets for a choice of bytes and braces for a choice of globs. They are
matched against the bytes of a path.
-/

namespace Locus.Files

/-- A piece of a glob. -/
inductive GlobToken where
  | literal (c : Char)
  /-- Any byte but a slash. -/
  | any
  /-- Any number of bytes but slashes. -/
  | star
  /-- Any number of names at the start of a path. -/
  | leading
  /-- A slash, or any number of names between slashes. -/
  | between
  /-- A slash and anything after it. -/
  | trailing
  /-- One of the bytes in the ranges, or none of them. -/
  | set (negated : Bool) (ranges : List (Char × Char))
  /-- One of several globs. -/
  | choice (globs : List (List GlobToken))

/-- A pattern for paths. -/
structure Glob where
  tokens : List GlobToken

namespace Glob

/-! ## Sets -/

/-- What reading a set may come to. -/
inductive SetReading where
  /-- The set, and what follows its closing bracket. -/
  | set (t : GlobToken) (rest : List Char)
  | unclosed
  /-- A range is the wrong way round. -/
  | badRange

/-- Reads the ranges of a set up to its closing bracket. A bracket or a dash at the start stands
for itself, and so does a dash at the end. -/
def readRanges (negated first inRange : Bool) (ranges : List (Char × Char)) :
    List Char → SetReading
  | [] => .unclosed
  | c :: cs =>
    if c = ']' ∧ !first then
      .set (.set negated (if inRange then ranges ++ [('-', '-')] else ranges)) cs
    else if c = '-' ∧ !first ∧ !inRange then readRanges negated false true ranges cs
    else if inRange then
      match ranges.getLast? with
      | none => .badRange
      | some (low, _) =>
        if c < low then .badRange
        else readRanges negated false false (ranges.dropLast ++ [(low, c)]) cs
    else readRanges negated false false (ranges ++ [(c, c)]) cs

/-- Reads a set from after its opening bracket on. -/
def readSet : List Char → SetReading
  | '!' :: cs => readRanges true true false [] cs
  | '^' :: cs => readRanges true true false [] cs
  | cs => readRanges false true false [] cs

/-! ## Reading -/

/-- A choice that is still open. -/
structure OpenChoice where
  /-- The tokens of the glob that is being read, in reverse. -/
  tokens : List GlobToken
  /-- The globs before it, in reverse. -/
  done : List (List GlobToken)

/-- What has been read of a glob. -/
structure Reader where
  /-- The choices that are open, innermost first. -/
  opened : List OpenChoice
  /-- The tokens outside of all choices, in reverse. -/
  outer : List GlobToken

namespace Reader

/-- The tokens of the innermost glob, in reverse. -/
def tokens (r : Reader) : List GlobToken :=
  match r.opened with
  | o :: _ => o.tokens
  | [] => r.outer

/-- The reader with other tokens in the innermost glob. -/
def setTokens (r : Reader) (ts : List GlobToken) : Reader :=
  match r.opened with
  | o :: rest => { r with opened := { o with tokens := ts } :: rest }
  | [] => { r with outer := ts }

/-- Adds a token. -/
def push (t : GlobToken) (r : Reader) : Reader := r.setTokens (t :: r.tokens)

/-- Opens a choice. -/
def openChoice (r : Reader) : Reader := { r with opened := ⟨[], []⟩ :: r.opened }

/-- Ends a glob of a choice and begins the next one. Outside of choices a comma stands for
itself. -/
def comma (r : Reader) : Reader :=
  match r.opened with
  | o :: rest => { r with opened := ⟨[], o.tokens.reverse :: o.done⟩ :: rest }
  | [] => r.push (.literal ',')

/-- Closes a choice. Empty globs do not count in it unless it has no others. -/
def closeChoice? (r : Reader) : Option Reader :=
  match r.opened with
  | [] => none
  | o :: rest =>
    let globs := (o.tokens.reverse :: o.done).reverse.filter fun g => !g.isEmpty
    let r := { r with opened := rest }
    some (r.push (.choice (if globs.isEmpty then [[]] else globs)))

/-- Puts a token for any number of names in the place of the slash before it. One that is there
already is enough at the start and at the end of a path. -/
def pushNames (t : GlobToken) (r : Reader) : Reader :=
  match r.tokens with
  | .leading :: _ => r
  | .trailing :: _ => r
  | _ :: ts => r.setTokens (t :: ts)
  | [] => r.push t

/-- Reads two stars, given the character before them, and says what follows. They stand for any
number of names if they have slashes or ends on both sides; a slash behind them belongs to them.
Otherwise they are as good as one. -/
def readStars (r : Reader) (before : Option Char) (cs : List Char) : Reader × List Char :=
  let inChoice := !r.opened.isEmpty
  let plain := (r.push .star, cs)
  if r.tokens.isEmpty then
    match cs with
    | [] => (r.push .leading, [])
    | '/' :: rest => (r.push .leading, rest)
    | _ => plain
  else if before = some '/' ∨ (inChoice ∧ (before = some ',' ∨ before = some '\x7b')) then
    match cs with
    | [] => (r.pushNames .trailing, [])
    | '/' :: rest => (r.pushNames .between, rest)
    | c :: _ => if inChoice ∧ (c = ',' ∨ c = '\x7d') then (r.pushNames .trailing, cs) else plain
  else plain

/-- Reads what starts with the character `c`, given the character before it, and says what
follows. A backslash makes the next character stand for itself, and so does a bracket that is
never closed. -/
def step? (r : Reader) (before : Option Char) (c : Char) (cs : List Char) :
    Option (Reader × List Char) :=
  if c = '?' then some (r.push .any, cs)
  else if c = '*' then
    match cs with
    | '*' :: rest => some (r.readStars before rest)
    | _ => some (r.push .star, cs)
  else if c = '[' then
    match readSet cs with
    | .set t rest => some (r.push t, rest)
    | .unclosed => some (r.push (.literal '['), cs)
    | .badRange => none
  else if c = '\x7b' then some (r.openChoice, cs)
  else if c = '\x7d' then r.closeChoice?.map fun r => (r, cs)
  else if c = ',' then some (r.comma, cs)
  else if c = '\\' then
    match cs with
    | [] => none
    | d :: rest => some (r.push (.literal d), rest)
  else some (r.push (.literal c), cs)

/-- Reads a glob to its end, given the character before what is left of it. -/
def read? (r : Reader) (before : Option Char) (cs : List Char) : Option Reader :=
  match cs with
  | [] => some r
  | c :: cs =>
    match r.step? before c cs with
    | none => none
    | some (r, rest) =>
      if _h : rest.length < (c :: cs).length then r.read? (c :: cs)[cs.length - rest.length]? rest
      else none
termination_by cs.length
decreasing_by exact _h

end Reader

/-- The glob that a text spells. Every brace must have its partner. -/
def ofList? (text : List Char) : Option Glob :=
  match Reader.read? ⟨[], []⟩ none text with
  | some ⟨[], tokens⟩ => some ⟨tokens.reverse⟩
  | _ => none

/-! ## Matching -/

/-- The bytes of a character. -/
def bytes (c : Char) : List UInt8 := (String.singleton c).toUTF8.toList

/-- Whether a byte is in a range of characters: in the range itself if both ends are single bytes,
and otherwise one of the bytes at its ends or between the two that meet. -/
def inRange (b : UInt8) (range : Char × Char) : Bool :=
  let low := bytes range.1
  let high := bytes range.2
  low.contains b || high.contains b ||
    (range.1 ≠ range.2 && low.getLast?.any (· ≤ b) && high.head?.any (b ≤ ·))

/-- What is left of a path after each number of bytes that are no slashes. -/
def afterBytes : List UInt8 → List (List UInt8)
  | [] => [[]]
  | b :: bs => (b :: bs) :: if b = 0x2F then [] else afterBytes bs

/-- What is left of a path after each of its slashes. -/
def afterSlashes : List UInt8 → List (List UInt8)
  | [] => []
  | b :: bs => if b = 0x2F then bs :: afterSlashes bs else afterSlashes bs

/-- What is left of a path after one slash at its start. -/
def afterSlash : List UInt8 → List (List UInt8)
  | [] => []
  | b :: bs => if b = 0x2F then [bs] else []

/-- Everything that may be left of a path after some of its bytes. -/
def suffixes : List UInt8 → List (List UInt8)
  | [] => [[]]
  | b :: bs => (b :: bs) :: suffixes bs

mutual

/-- What may be left of a path after a token has matched its start. -/
def rests : GlobToken → List UInt8 → List (List UInt8)
  | .literal c, bs => if (bytes c).isPrefixOf bs then [bs.drop (bytes c).length] else []
  | .any, bs =>
    match bs with
    | [] => []
    | b :: bs => if b = 0x2F then [] else [bs]
  | .star, bs => afterBytes bs
  | .leading, bs => bs :: afterSlashes bs
  | .between, bs => (afterSlash bs).flatMap fun rest => rest :: afterSlashes rest
  | .trailing, bs => (afterSlash bs).flatMap suffixes
  | .set negated ranges, bs =>
    match bs with
    | [] => []
    | b :: bs => if (ranges.any fun r => inRange b r) ≠ negated then [bs] else []
  | .choice globs, bs => restsChoice globs bs

/-- What may be left of a path after a sequence of tokens has matched its start. -/
def restsAll : List GlobToken → List UInt8 → List (List UInt8)
  | [], bs => [bs]
  | t :: ts, bs => (rests t bs).flatMap fun rest => restsAll ts rest

/-- What may be left of a path after one of several globs has matched its start. -/
def restsChoice : List (List GlobToken) → List UInt8 → List (List UInt8)
  | [], _ => []
  | g :: gs, bs => restsAll g bs ++ restsChoice gs bs

end

/-- Whether a glob matches a whole path. Two stars alone match anything. -/
def isMatch (g : Glob) (path : List UInt8) : Bool :=
  match g.tokens with
  | [.leading] => true
  | tokens => (restsAll tokens path).any List.isEmpty

end Glob

end Locus.Files
