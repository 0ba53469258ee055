/-!
# Rules

A rule as it is written on the command line, `NAME=PATTERN`, and the rules that are used when none
are given. Main statement: reading accepts exactly a name, an equals sign and a pattern, and gives
back that name and that pattern.
-/

namespace Locus.Command

/-- A rule: text that matches the pattern is a token of the kind called `name`. -/
structure Rule where
  name : String
  pattern : String
deriving DecidableEq

namespace Rule

/-- Whether a name may start with the character. -/
def startsName (c : Char) : Bool := c.isAlpha || c = '_'

/-- Whether a name may go on with the character. -/
def isNamePart (c : Char) : Bool := c.isAlphanum || c = '_' || c = '-'

/-- Whether the characters are a name. -/
def isName : List Char → Bool
  | [] => false
  | c :: cs => startsName c && cs.all isNamePart

/-- Whether the characters are a pattern: there is one at least, and all are on one line. -/
def isPattern (cs : List Char) : Bool := !cs.isEmpty && cs.all (· ≠ '\n')

/-- The name and the pattern in the characters of a rule; the first equals sign parts them. -/
def ofList? (cs : List Char) : Option (List Char × List Char) :=
  let name := cs.takeWhile (· ≠ '=')
  match cs.dropWhile (· ≠ '=') with
  | _ :: pattern => if isName name && isPattern pattern then some (name, pattern) else none
  | [] => none

/-- The rule that an argument spells. -/
def ofText? (arg : String) : Option Rule :=
  (ofList? arg.toList).map fun (name, pattern) => ⟨String.ofList name, String.ofList pattern⟩

/-- The rules that are used when none are given: line breaks, other blanks, numbers, words, and
single characters of all other kinds. -/
def standard : List Rule :=
  [⟨"newline", "^(?:\\r\\n|[\\n\\r\\u\x7b2028\x7d\\u\x7b2029\x7d])"⟩,
   ⟨"space", "^[^\\S\\r\\n\\u\x7b2028\x7d\\u\x7b2029\x7d]+"⟩,
   ⟨"number", "^\\d+(?:\\.\\d+)?"⟩,
   ⟨"text", "^\\w+"⟩,
   ⟨"punct", "^[^\\w\\s]"⟩]

theorem ne_equals_of_isNamePart {c : Char} (h : isNamePart c = true) : c ≠ '=' := by
  rintro rfl
  exact absurd h (by decide)

theorem ne_equals_of_startsName {c : Char} (h : startsName c = true) : c ≠ '=' := by
  rintro rfl
  exact absurd h (by decide)

/-- A name holds no equals sign. -/
theorem ne_equals_of_mem {name : List Char} (h : isName name = true) :
    ∀ c ∈ name, (decide (c ≠ '=')) = true := by
  cases name with
  | nil => simp
  | cons c cs =>
    simp only [isName, Bool.and_eq_true, List.all_eq_true] at h
    intro d hd
    rcases List.mem_cons.1 hd with rfl | hd
    · simpa using ne_equals_of_startsName h.1
    · simpa using ne_equals_of_isNamePart (h.2 d hd)

/-- Reading accepts exactly a name, an equals sign and a pattern. -/
theorem ofList?_eq_some_iff {cs name pattern : List Char} :
    ofList? cs = some (name, pattern) ↔
      cs = name ++ '=' :: pattern ∧ isName name = true ∧ isPattern pattern = true := by
  constructor
  · intro h
    unfold ofList? at h
    split at h
    · next c rest heq =>
      dsimp only at h
      split at h
      · next hok =>
        have hc : c = '=' := by
          have := List.head?_dropWhile_not (fun c : Char => decide (c ≠ '=')) cs
          rw [heq] at this
          simpa using this
        simp only [Option.some.injEq, Prod.mk.injEq] at h
        obtain ⟨rfl, rfl⟩ := h
        refine ⟨?_, by simpa using hok⟩
        have := List.takeWhile_append_dropWhile (p := fun c : Char => decide (c ≠ '=')) (l := cs)
        rw [heq, hc] at this
        exact this.symm
      · cases h
    · cases h
  · rintro ⟨rfl, hname, hpattern⟩
    have hall := ne_equals_of_mem hname
    unfold ofList?
    rw [List.takeWhile_append_of_pos hall, List.dropWhile_append_of_pos hall]
    simp [hname, hpattern]

end Rule

end Locus.Command
