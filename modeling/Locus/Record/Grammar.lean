import Locus.Record.TokenTree

/-!
# Types and expressions

The recognizers for the types of fields and for the values of attributes. Nothing is kept of what
they recognize; they say where it ends. Each takes a bound on how deep it may go, for which the
number of pieces is enough.
-/

namespace Locus.Record

/-- The words that are no names. -/
def keywords : List String :=
  ["_", "abstract", "as", "async", "await", "become", "box", "break", "const", "continue", "crate",
   "do", "dyn", "else", "enum", "extern", "false", "final", "fn", "for", "if", "impl", "in", "let",
   "loop", "macro", "match", "mod", "move", "mut", "override", "priv", "pub", "ref", "return",
   "Self", "self", "static", "struct", "super", "trait", "true", "try", "type", "typeof", "unsafe",
   "unsized", "use", "virtual", "where", "while", "yield"]

/-- The keywords that may stand in a path. -/
def pathKeywords : List String := ["super", "self", "Self", "crate"]

namespace Grammar

/-- The name at the front, which must be no keyword, and what follows it. -/
def name? : List TokenTree → Option (String × List TokenTree)
  | .atom (.word name) :: rest => if name ∈ keywords then none else some (name, rest)
  | _ => none

/-- The name at the front, which may be a keyword of paths, and what follows it. -/
def pathName? : List TokenTree → Option (String × List TokenTree)
  | .atom (.word name) :: rest =>
    if name ∈ keywords ∧ name ∉ pathKeywords then none else some (name, rest)
  | _ => none

/-- What follows the given word. -/
def keyword? (word : String) : List TokenTree → Option (List TokenTree)
  | .atom (.word name) :: rest => if name = word then some rest else none
  | _ => none

/-- What follows the given sign. -/
def sign? (c : Char) : List TokenTree → Option (List TokenTree)
  | t :: rest => if t.isSign c then some rest else none
  | [] => none

/-- What follows two signs without a blank between them. -/
def signs? (c d : Char) : List TokenTree → Option (List TokenTree)
  | .atom (.sign c' true) :: t :: rest => if c' = c ∧ t.isSign d then some rest else none
  | _ => none

/-- What follows a lifetime. -/
def lifetime? (ts : List TokenTree) : Option (List TokenTree) := do
  match ← sign? '\'' ts with
  | .atom (.word _) :: rest => some rest
  | _ => none

/-- What follows a literal, with its sign if it is a number. -/
def literal? : List TokenTree → Option (List TokenTree)
  | .atom (.word name) :: rest => if name = "true" ∨ name = "false" then some rest else none
  | t :: rest =>
    if t.isLiteral then some rest
    else
      match rest with
      | u :: rest => if t.isSign '-' ∧ u.isNumber then some rest else none
      | [] => none
  | [] => none

/-- The rest of a list, unless it is empty: something that stands for itself. -/
def anything? : List TokenTree → Option Unit
  | [] => none
  | _ :: _ => some ()

mutual

/-- What follows a type. -/
def type? : Nat → List TokenTree → Option (List TokenTree)
  | 0, _ => none
  | _ + 1, [] => none
  | n + 1, .group .parentheses inside :: rest => do types? n inside; some rest
  | n + 1, .group .brackets inside :: rest => do
    match ← type? n inside with
    | [] => some rest
    | after => anything? (← sign? ';' after); some rest
  | n + 1, t :: rest =>
    if t.isSign '!' then some rest
    else if t.word? = some "_" then some rest
    else if t.isSign '&' then
      let rest := (lifetime? rest).getD rest
      type? n ((keyword? "mut" rest).getD rest)
    else if t.isSign '*' then do type? n (← (keyword? "const" rest).or (keyword? "mut" rest))
    else if t.word? = some "dyn" ∨ t.word? = some "impl" then bounds? n rest
    else if t.word? = some "fn" then
      match rest with
      | .group .parentheses inside :: rest => do types? n inside; result? n rest
      | _ => none
    else
      match path? n (t :: rest) with
      | some (u :: .group d inside :: rest) =>
        if u.isSign '!' then some rest else some (u :: .group d inside :: rest)
      | rest => rest

/-- Whether types fill a list, with commas between them. -/
def types? : Nat → List TokenTree → Option Unit
  | 0, _ => none
  | _ + 1, [] => some ()
  | n + 1, ts => do
    match ← type? n ts with
    | [] => some ()
    | rest => types? n (← sign? ',' rest)

/-- What follows the type of a result, if there is one. -/
def result? : Nat → List TokenTree → Option (List TokenTree)
  | 0, _ => none
  | n + 1, ts =>
    match signs? '-' '>' ts with
    | some rest => type? n rest
    | none => some ts

/-- What follows a path, whose names may have arguments. -/
def path? : Nat → List TokenTree → Option (List TokenTree)
  | 0, _ => none
  | n + 1, ts =>
    match sign? '<' ts with
    | some rest => do
      let rest ← type? n rest
      let rest ←
        match keyword? "as" rest with
        | some rest => path? n rest
        | none => some rest
      names? n (← signs? ':' ':' (← sign? '>' rest))
    | none => names? n ((signs? ':' ':' ts).getD ts)

/-- What follows the names of a path. -/
def names? : Nat → List TokenTree → Option (List TokenTree)
  | 0, _ => none
  | n + 1, ts => do
    let (_, rest) ← pathName? ts
    let rest ←
      match (sign? '<' rest).or ((signs? ':' ':' rest).bind (sign? '<')), rest with
      | some inside, _ => arguments? n inside
      | none, .group .parentheses inside :: rest => do types? n inside; result? n rest
      | none, _ => some rest
    match signs? ':' ':' rest with
    | some rest => names? n rest
    | none => some rest

/-- What follows the arguments of a name, from after the opening bracket on. -/
def arguments? : Nat → List TokenTree → Option (List TokenTree)
  | 0, _ => none
  | n + 1, ts =>
    match sign? '>' ts with
    | some rest => some rest
    | none => do
      let rest ← argument? n ts
      match sign? '>' rest with
      | some rest => some rest
      | none => arguments? n (← sign? ',' rest)

/-- What follows an argument of a name. -/
def argument? : Nat → List TokenTree → Option (List TokenTree)
  | 0, _ => none
  | n + 1, ts =>
    if let some rest := lifetime? ts then some rest
    else if let some rest := literal? ts then some rest
    else if let .group .braces _ :: rest := ts then some rest
    else do
      let rest ← type? n ts
      if let some rest := sign? '=' rest then type? n rest
      else if let some rest := sign? ':' rest then bounds? n rest
      else some rest

/-- What follows the bounds of a type. -/
def bounds? : Nat → List TokenTree → Option (List TokenTree)
  | 0, _ => none
  | n + 1, ts => do
    let rest ←
      match lifetime? ts with
      | some rest => some rest
      | none => path? n ((sign? '?' ts).getD ts)
    match sign? '+' rest with
    | some rest => bounds? n rest
    | none => some rest

end

/-- The signs that join two operands. -/
def operators : List (List Char) :=
  [['&', '&'], ['|', '|'], ['<', '<'], ['>', '>'], ['=', '='], ['!', '='], ['<', '='], ['>', '='],
    ['+'], ['-'], ['*'], ['/'], ['%'], ['&'], ['|'], ['^'], ['<'], ['>']]

/-- What follows an operator. -/
def operator? (ts : List TokenTree) : Option (List TokenTree) :=
  operators.findSome? fun
    | [c] => sign? c ts
    | [c, d] => signs? c d ts
    | _ => none

mutual

/-- What follows an expression. -/
def expression? : Nat → List TokenTree → Option (List TokenTree)
  | 0, _ => none
  | n + 1, ts => do
    let rest ← operand? n ts
    match operator? rest with
    | some rest => expression? n rest
    | none => some rest

/-- What follows an operand. -/
def operand? : Nat → List TokenTree → Option (List TokenTree)
  | 0, _ => none
  | n + 1, ts =>
    if let some rest := (sign? '-' ts).or ((sign? '!' ts).or (sign? '*' ts)) then operand? n rest
    else if let some rest := sign? '&' ts then operand? n ((keyword? "mut" rest).getD rest)
    else if let some rest := literal? ts then some (access n rest)
    else if let .group .braces _ :: _ := ts then none
    else if let .group _ _ :: rest := ts then some (access n rest)
    else do
      let rest ← names? n ((signs? ':' ':' ts).getD ts)
      match sign? '!' rest with
      | some (.group _ _ :: rest) => some (access n rest)
      | _ => some (access n rest)

/-- What follows the calls and accesses after an operand. -/
def access : Nat → List TokenTree → List TokenTree
  | 0, ts => ts
  | n + 1, .group .parentheses _ :: rest => access n rest
  | n + 1, .group .brackets _ :: rest => access n rest
  | n + 1, .atom (.sign '.' _) :: .atom (.word _) :: rest => access n rest
  | n + 1, .atom (.sign '.' _) :: .atom (.literal true) :: rest => access n rest
  | n + 1, .atom (.sign '?' _) :: rest => access n rest
  | _ + 1, ts => ts

end

end Grammar

end Locus.Record
