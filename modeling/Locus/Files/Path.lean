/-!
# Paths

Paths as people write them, with slashes between their names. What a path means is its list of
names; empty names and single dots in it count for nothing.
-/

namespace Locus.Files

/-- The first piece of a list that is divided by every item that is a mark, and the other pieces.
There is one piece more than there are marks. -/
def divide {α : Type} (isMark : α → Bool) : List α → List α × List (List α)
  | [] => ([], [])
  | a :: rest =>
    let (first, others) := divide isMark rest
    if isMark a then ([], first :: others) else (a :: first, others)

namespace Path

/-- The names in a path, in order. -/
def names (path : String) : List String :=
  let (first, others) := divide (· = '/') path.toList
  (first :: others).filterMap fun piece =>
    if piece = [] ∨ piece = ['.'] then none else some (String.ofList piece)

/-- Whether a path can only name a directory: it ends in a slash or in a single dot. -/
def isDirectoryForm (path : String) : Bool :=
  let (first, others) := divide (· = '/') path.toList
  let last := others.getLast?.getD first
  last = [] || last = ['.']

/-- The path of an entry of a directory. -/
def join (directory name : String) : String :=
  match directory.toList.getLast? with
  | none => name
  | some '/' => directory ++ name
  | some _ => directory ++ "/" ++ name

/-- Whether one list of names comes before another, or is the same: the names are compared one by
one, and a list comes before what goes on from it. -/
def namesLe : List String → List String → Bool
  | [], _ => true
  | _ :: _, [] => false
  | a :: as, b :: bs => a < b || (a = b && namesLe as bs)

/-- Whether one path comes before another, or has the same names. -/
def le (p q : String) : Bool := namesLe (names p) (names q)

/-- Whether a name belongs to a hidden entry. -/
def isHidden (name : String) : Bool := name.toList.head? = some '.'

end Path

end Locus.Files
