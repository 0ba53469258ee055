import Mathlib.Data.List.Chain
import Mathlib.Data.List.TakeWhile
import Locus.Json.Reader

/-!
# Reading what was written

The text of a tree is its lexemes without blanks between them, so what has to be seen is that no
lexeme runs into the next one and that the reader takes them as they were meant. Main statement: a
tree whose strings are texts and whose numbers are natural is read back from its text.
-/

namespace Locus.Json

/-! ## Numbers -/

namespace Numeral

/-- Digits do not begin with a zero, unless that is all. -/
theorem head?_toDigits_ne_zero {n : Nat} (h : n ≠ 0) : (Nat.toDigits 10 n).head? ≠ some '0' := by
  induction n using Nat.strongRecOn with
  | ind n ih =>
    rw [Nat.toDigits_eq_if (by decide)]
    split
    · next hlt =>
      have hdigit : ∀ d < 10, d ≠ 0 → Nat.digitChar d ≠ '0' := by decide
      exact fun hzero => hdigit n hlt h (Option.some.inj hzero)
    · next hge =>
      have hhead := ih (n / 10) (Nat.div_lt_self (by omega) (by decide)) (by omega)
      rcases hds : Nat.toDigits 10 (n / 10) with _ | ⟨d, ds⟩
      · exact absurd hds Nat.toDigits_ne_nil
      · rw [hds] at hhead
        exact hhead

theorem isDigit_of_mem_toDigits {n : Nat} : ∀ c ∈ Nat.toDigits 10 n, c.isDigit = true :=
  fun _ hc => Nat.isDigit_of_mem_toDigits (by decide) (by decide) hc

theorem text_ofNat (n : Nat) : (ofNat n).text = Nat.toDigits 10 n := by
  simp [text, ofNat]

theorem wholeDigits?_toDigits (n : Nat) : wholeDigits? (Nat.toDigits 10 n) = some n := by
  have hvalue : digitsValue (Nat.toDigits 10 n) = n :=
    Nat.ofDigitChars_toDigits (by decide) (by decide)
  rcases hds : Nat.toDigits 10 n with _ | ⟨d, rest⟩
  · exact absurd hds Nat.toDigits_ne_nil
  · rw [hds] at hvalue
    have hzero : ¬(d = '0' ∧ rest ≠ []) := by
      rintro ⟨rfl, hrest⟩
      rcases Nat.eq_zero_or_pos n with rfl | hpos
      · cases hds
        exact hrest rfl
      · exact head?_toDigits_ne_zero (Nat.ne_of_gt hpos) (by rw [hds]; rfl)
    rw [wholeDigits?, if_neg hzero, hvalue]

/-- A natural number is read back. -/
theorem ofList?_text_ofNat (n : Nat) : ofList? (ofNat n).text = some (ofNat n) := by
  rw [text_ofNat]
  have hunsigned : unsigned? false (Nat.toDigits 10 n) = some (ofNat n) := by
    have htake := List.takeWhile_eq_self_iff.2 (isDigit_of_mem_toDigits (n := n))
    have hdrop := List.dropWhile_eq_nil_iff.2 (isDigit_of_mem_toDigits (n := n))
    rw [unsigned?, htake, hdrop, wholeDigits?_toDigits]
    rfl
  rw [ofList?.eq_def]
  split
  · next rest hminus =>
    have hdigit := isDigit_of_mem_toDigits (n := n) '-' (by rw [hminus]; exact List.mem_cons_self)
    exact absurd hdigit (by decide)
  · exact hunsigned

end Numeral

/-! ## Strings -/

/-- A character is no half of a surrogate pair. -/
theorem not_surrogate (c : Char) : isLeading c.toNat = false ∧ isTrailing c.toNat = false := by
  have hvalid : c.toNat < 0xD800 ∨ 0xDFFF < c.toNat ∧ c.toNat < 0x110000 := c.valid
  rw [isLeading, isTrailing, ← Bool.decide_and, ← Bool.decide_and, decide_eq_false_iff_not,
    decide_eq_false_iff_not]
  omega

/-- The codes of characters spell these characters. -/
theorem ofCodes?_map_toNat (cs : List Char) : ofCodes? (cs.map Char.toNat) = some cs := by
  induction cs with
  | nil => rfl
  | cons c cs ih =>
    obtain ⟨hleading, htrailing⟩ := not_surrogate c
    rw [List.map_cons, ofCodes?.eq_def]
    simp [hleading, htrailing, ih, Char.ofNat_toNat]

/-- A character in a string is escaped by one letter or by its code, or it stands for itself. -/
theorem escape_cases (c : Char) :
    (∃ e, escape c = ['\\', e] ∧ e ≠ 'u' ∧ escaped? e = some c) ∨
      (c.toNat < 0x20 ∧
        escape c = ['\\', 'u', '0', '0', hexDigit (c.toNat / 16), hexDigit c.toNat]) ∨
      (escape c = [c] ∧ c ≠ '"' ∧ c ≠ '\\' ∧ ¬c.toNat < 0x20) := by
  by_cases hletter : c ∈ ['"', '\\', '\x08', '\x0c', '\n', '\r', '\t']
  · left
    simp only [List.mem_cons, List.not_mem_nil, or_false] at hletter
    rcases hletter with rfl | rfl | rfl | rfl | rfl | rfl | rfl
    all_goals exact ⟨_, rfl, by decide, rfl⟩
  · right
    simp only [List.mem_cons, List.not_mem_nil, or_false, not_or] at hletter
    by_cases hcontrol : c.toNat < 0x20
    · exact .inl ⟨hcontrol, by simp [escape, hletter, hcontrol]⟩
    · exact .inr ⟨by simp [escape, hletter, hcontrol], hletter.1, hletter.2.1, hcontrol⟩

theorem hexValue?_hexDigit (n : Nat) : hexValue? (hexDigit n) = some (n % 16) := by
  have hdigit : ∀ d < 16, hexValue? (Nat.digitChar d) = some d := by decide
  exact hdigit _ (Nat.mod_lt n (by decide))

namespace Scan

/-! ## The scanner -/

/-- One step of the scanner, and the rest of the text from there. -/
theorem run?_cons {s s' : Scan} {c : Char} {ls : List Lexeme} (h : s.step? c = some (ls, s'))
    (cs : List Char) : s.run? (c :: cs) = (s'.run? cs).map (ls ++ ·) := by
  rw [run?, h]
  change (s'.run? cs).bind _ = _
  rcases s'.run? cs with _ | rest
  · rfl
  · rfl

theorem run?_cons_nil {s s' : Scan} {c : Char} (h : s.step? c = some ([], s'))
    (cs : List Char) : s.run? (c :: cs) = s'.run? cs := by
  rw [run?_cons h]
  exact Option.map_id'

/-- Inside a string, a character is read back from its escaped form. -/
theorem run?_escape (codes : List Nat) (c : Char) (rest : List Char) :
    Scan.run? (.string codes) (Json.escape c ++ rest) =
      Scan.run? (.string (c.toNat :: codes)) rest := by
  have hbackslash : (Scan.string codes).step? '\\' = some ([], .escape codes) := rfl
  rcases escape_cases c with ⟨e, hc, hu, he⟩ | ⟨hlt, hc⟩ | ⟨hc, hquote, hback, hge⟩
  · have hletter : (Scan.escape codes).step? e = some ([], .string (c.toNat :: codes)) := by
      rw [step?, if_neg hu, he]
      rfl
    rw [hc]
    exact (run?_cons_nil hbackslash _).trans (run?_cons_nil hletter _)
  · -- the code has four hexadecimal digits, the first two of which are zero
    have hthird : (Scan.hex codes 2 0).step? (hexDigit (c.toNat / 16)) =
        some ([], .hex codes 3 (c.toNat / 16)) := by
      simp [step?, hexValue?_hexDigit]
      omega
    have hfourth : (Scan.hex codes 3 (c.toNat / 16)).step? (hexDigit c.toNat) =
        some ([], .string (c.toNat :: codes)) := by
      simp [step?, hexValue?_hexDigit]
      omega
    rw [hc]
    calc Scan.run? (.string codes) _
        = Scan.run? (.escape codes) _ := run?_cons_nil hbackslash _
      _ = Scan.run? (.hex codes 0 0) _ := run?_cons_nil rfl _
      _ = Scan.run? (.hex codes 1 0) _ := run?_cons_nil rfl _
      _ = Scan.run? (.hex codes 2 0) _ := run?_cons_nil rfl _
      _ = Scan.run? (.hex codes 3 (c.toNat / 16)) _ := run?_cons_nil hthird _
      _ = Scan.run? (.string (c.toNat :: codes)) rest := run?_cons_nil hfourth _
  · have hself : (Scan.string codes).step? c = some ([], .string (c.toNat :: codes)) := by
      rw [step?, if_neg hquote, if_neg hback, if_neg hge]
    rw [hc]
    exact run?_cons_nil hself _

/-- A string is read to its end, by induction on the characters. -/
theorem run?_string (seen cs rest : List Char) :
    Scan.run? (.string (seen.map Char.toNat).reverse) (cs.flatMap Json.escape ++ '"' :: rest) =
      (Scan.run? .between rest).map (.string (some (String.ofList (seen ++ cs))) :: ·) := by
  induction cs generalizing seen with
  | nil =>
    have hend : (Scan.string (seen.map Char.toNat).reverse).step? '"' =
        some ([.string (some (String.ofList seen))], .between) := by
      rw [step?, if_pos rfl, ofCodes, List.reverse_reverse, ofCodes?_map_toNat]
      rfl
    rw [List.append_nil]
    exact run?_cons hend rest
  | cons c cs ih =>
    have hseen : c.toNat :: (seen.map Char.toNat).reverse =
        ((seen ++ [c]).map Char.toNat).reverse := by
      simp
    rw [List.flatMap_cons, List.append_assoc, run?_escape, hseen, ih, List.append_assoc]
    rfl

end Scan

/-! ## Lexemes side by side -/

namespace Lexeme

/-- Lexemes that are read back as they are: their numbers are natural, and their strings are
texts. -/
def Plain : Lexeme → Prop
  | .number n => ∃ k, n = .ofNat k
  | .string text => text.isSome
  | _ => True

/-- Words and numbers have no end of their own; they go on as long as letters or digits follow. -/
def isBare : Lexeme → Bool
  | .null | .bool _ | .number _ => true
  | _ => false

/-- Of two lexemes side by side, one has an end or a beginning of its own. -/
def Apart (l m : Lexeme) : Prop := l.isBare = false ∨ m.isBare = false

/-- A lexeme that is not bare begins with a character that neither a word nor a number can hold. -/
theorem exists_text_eq_cons {l : Lexeme} (h : l.isBare = false) :
    ∃ c cs, l.text = c :: cs ∧ Numeral.isPart c = false ∧ c.isLower = false := by
  cases l with
  | beginObject => exact ⟨_, _, rfl, by decide, by decide⟩
  | endObject => exact ⟨_, _, rfl, by decide, by decide⟩
  | beginArray => exact ⟨_, _, rfl, by decide, by decide⟩
  | endArray => exact ⟨_, _, rfl, by decide, by decide⟩
  | colon => exact ⟨_, _, rfl, by decide, by decide⟩
  | comma => exact ⟨_, _, rfl, by decide, by decide⟩
  | null => cases h
  | bool b => cases h
  | number n => cases h
  | string text =>
    cases text with
    | none => exact ⟨_, _, rfl, by decide, by decide⟩
    | some text => exact ⟨_, _, rfl, by decide, by decide⟩

end Lexeme

namespace Scan

/-- What does not go on with a word or a number. -/
def Ends (rest : List Char) : Prop :=
  ∀ c ∈ rest.head?, Numeral.isPart c = false ∧ c.isLower = false

/-- A word or a number is read to its end, by induction on its characters. Reading is told here by
the characters that go on with it and by what becomes of it then. -/
theorem run?_bare {state : List Char → Scan} {goesOn : Char → Bool}
    {read? : List Char → Option Lexeme}
    (hstep : ∀ seen c, (state seen).step? c =
      if goesOn c then some ([], state (c :: seen))
      else do
        let l ← read? seen
        let (ls, s) ← begin? c
        some (l :: ls, s))
    (hfinish : ∀ seen, (state seen).finish? = (read? seen).map fun l => [l])
    {seen cs rest : List Char} {l : Lexeme} (hcs : ∀ c ∈ cs, goesOn c = true)
    (hl : read? (cs.reverse ++ seen) = some l) (hrest : ∀ c ∈ rest.head?, goesOn c = false) :
    (state seen).run? (cs ++ rest) = (Scan.run? .between rest).map (l :: ·) := by
  induction cs generalizing seen with
  | nil =>
    rw [List.reverse_nil, List.nil_append] at hl
    rcases rest with _ | ⟨c, cs⟩
    · rw [List.append_nil, run?, hfinish, hl]
      rfl
    · -- the character that does not go on begins something, as it does between lexemes
      have hbetween : Scan.between.step? c = begin? c := rfl
      have hc := hstep seen c
      rw [hrest c rfl, if_neg Bool.false_ne_true, hl] at hc
      rw [List.nil_append]
      rcases hbegin : begin? c with _ | ⟨ls, s⟩
      · rw [hbegin] at hbetween hc
        rw [run?, run?, hbetween, hc]
        rfl
      · rw [hbegin] at hbetween hc
        rw [run?_cons hbetween, run?_cons hc, Option.map_map]
        rfl
  | cons c cs ih =>
    have hc := hstep seen c
    rw [hcs c List.mem_cons_self, if_pos rfl] at hc
    rw [List.cons_append, run?_cons_nil hc]
    refine ih (fun d hd => hcs d (List.mem_cons_of_mem c hd)) ?_
    rw [← hl, List.reverse_cons, List.append_assoc]
    rfl

theorem run?_word {c : Char} {cs rest : List Char} {l : Lexeme}
    (hc : begin? c = some ([], .word [c])) (hcs : cs.all Char.isLower = true)
    (hl : word? (c :: cs).reverse = some l) (hrest : Ends rest) :
    Scan.run? .between (c :: cs ++ rest) = (Scan.run? .between rest).map (l :: ·) := by
  have hbegin : Scan.between.step? c = some ([], .word [c]) := hc
  rw [List.reverse_cons] at hl
  rw [List.cons_append, run?_cons_nil hbegin]
  exact run?_bare (fun _ _ => rfl) (fun _ => rfl) (List.all_eq_true.1 hcs) hl
    fun c hc => (hrest c hc).2

theorem begin?_digit {d : Char} (h : d.isDigit = true) : begin? d = some ([], .number [d]) := by
  have hne : ∀ c : Char, c.isDigit = false → d ≠ c := by
    rintro c hc rfl
    exact Bool.false_ne_true (hc.symm.trans h)
  simp [begin?, isBlank, h, hne ' ' rfl, hne '\t' rfl, hne '\n' rfl, hne '\r' rfl, hne '\x7b' rfl,
    hne '\x7d' rfl, hne '[' rfl, hne ']' rfl, hne ':' rfl, hne ',' rfl, hne '"' rfl]

theorem run?_number (k : Nat) {rest : List Char} (hrest : Ends rest) :
    Scan.run? .between ((Numeral.ofNat k).text ++ rest) =
      (Scan.run? .between rest).map (.number (.ofNat k) :: ·) := by
  have hread := Numeral.ofList?_text_ofNat k
  have hdigit : ∀ c ∈ (Numeral.ofNat k).text, c.isDigit = true := by
    rw [Numeral.text_ofNat]
    exact Numeral.isDigit_of_mem_toDigits
  rcases htext : (Numeral.ofNat k).text with _ | ⟨d, ds⟩
  · rw [Numeral.text_ofNat] at htext
    exact absurd htext Nat.toDigits_ne_nil
  · rw [htext] at hread hdigit
    have hd : Scan.between.step? d = some ([], .number [d]) :=
      begin?_digit (hdigit d List.mem_cons_self)
    have hds : ∀ c ∈ ds, Numeral.isPart c = true := by
      intro c hc
      simp [Numeral.isPart, hdigit c (List.mem_cons_of_mem d hc)]
    rw [List.cons_append, run?_cons_nil hd]
    refine run?_bare (fun _ _ => rfl) (fun _ => rfl) hds ?_ fun c hc => (hrest c hc).1
    rw [number?, List.reverse_append, List.reverse_reverse]
    exact congrArg (Option.map Lexeme.number) hread

/-- A lexeme is read back, unless it runs into what follows it. -/
theorem run?_text {l : Lexeme} (h : l.Plain) {rest : List Char}
    (hrest : l.isBare = true → Ends rest) :
    Scan.run? .between (l.text ++ rest) = (Scan.run? .between rest).map (l :: ·) := by
  have hmark : ∀ {c : Char} {l : Lexeme}, begin? c = some ([l], .between) →
      Scan.run? .between (c :: rest) = (Scan.run? .between rest).map (l :: ·) :=
    fun hc => run?_cons (s := .between) hc rest
  cases l with
  | beginObject => exact hmark (by rfl)
  | endObject => exact hmark (by rfl)
  | beginArray => exact hmark (by rfl)
  | endArray => exact hmark (by rfl)
  | colon => exact hmark (by rfl)
  | comma => exact hmark (by rfl)
  | null => exact run?_word rfl rfl rfl (hrest rfl)
  | bool b =>
    cases b with
    | false => exact run?_word rfl rfl rfl (hrest rfl)
    | true => exact run?_word rfl rfl rfl (hrest rfl)
  | number n =>
    obtain ⟨k, rfl⟩ := h
    exact run?_number k (hrest rfl)
  | string text =>
    obtain ⟨text, rfl⟩ := Option.isSome_iff_exists.1 h
    have hquote : Scan.between.step? '"' = some ([], .string []) := rfl
    have hstring := run?_string [] text.toList rest
    rw [List.nil_append, String.ofList_toList] at hstring
    rw [Lexeme.text, quoted, List.cons_append, List.cons_append, run?_cons_nil hquote,
      List.append_assoc]
    exact hstring

end Scan

namespace Lexeme

/-- A mark may stand before and after anything. -/
theorem apart_cons {l : Lexeme} (hl : l.isBare = false) {ls : List Lexeme}
    (hls : ls.IsChain Apart) : (l :: ls).IsChain Apart :=
  hls.cons fun _ _ => .inl hl

theorem apart_append {ls ms : List Lexeme} (hls : ls.IsChain Apart) (hms : ms.IsChain Apart)
    (hhead : ∀ m ∈ ms.head?, m.isBare = false) : (ls ++ ms).IsChain Apart :=
  hls.append hms fun _ _ m hm => .inr (hhead m hm)

end Lexeme

/-- Lexemes are read back if no two of them run into each other, by induction on the lexemes. -/
theorem lexemes?_flatMap_text {ls : List Lexeme} (hplain : ∀ l ∈ ls, l.Plain)
    (hapart : ls.IsChain Lexeme.Apart) : lexemes? (ls.flatMap Lexeme.text) = some ls := by
  induction ls with
  | nil => rfl
  | cons l ls ih =>
    have hrest : l.isBare = true → Scan.Ends (ls.flatMap Lexeme.text) := by
      intro hbare
      rcases ls with _ | ⟨m, ls⟩
      · exact fun c hc => (by cases hc)
      · -- a mark follows, and no mark begins with what a word or a number could go on with
        rcases hapart.rel with hl | hm
        · exact absurd (hl.symm.trans hbare) Bool.false_ne_true
        · obtain ⟨c, cs, htext, hends⟩ := Lexeme.exists_text_eq_cons hm
          rw [List.flatMap_cons, htext]
          rintro d hd
          cases hd
          exact hends
    have ih := ih (fun m hm => hplain m (List.mem_cons_of_mem l hm)) hapart.tail
    rw [lexemes?] at ih ⊢
    rw [List.flatMap_cons, Scan.run?_text (hplain l List.mem_cons_self) hrest, ih]
    rfl

/-! ## Trees -/

namespace Tree

/-- The lexemes of a tree begin with one that is not the end of an array. -/
theorem exists_lexemes_eq_cons (t : Tree) : ∃ l ls, t.lexemes = l :: ls ∧ l ≠ .endArray := by
  cases t with
  | null => exact ⟨_, _, rfl, by decide⟩
  | bool b => exact ⟨_, _, rfl, Lexeme.noConfusion⟩
  | number n => exact ⟨_, _, rfl, Lexeme.noConfusion⟩
  | string text => exact ⟨_, _, rfl, Lexeme.noConfusion⟩
  | array items =>
    cases items with
    | nil => exact ⟨_, _, rfl, by decide⟩
    | cons t rest => exact ⟨_, _, rfl, by decide⟩
  | object members =>
    cases members with
    | nil => exact ⟨_, _, rfl, by decide⟩
    | cons m rest => exact ⟨_, _, rfl, by decide⟩

theorem isBare_head?_itemLexemes (items : List Tree) :
    ∀ l ∈ (itemLexemes items).head?, l.isBare = false := by
  cases items with
  | nil => rintro l ⟨⟩; rfl
  | cons t rest => rintro l ⟨⟩; rfl

theorem isBare_head?_memberLexemes (members : List (Option String × Tree)) :
    ∀ l ∈ (memberLexemes members).head?, l.isBare = false := by
  cases members with
  | nil => rintro l ⟨⟩; rfl
  | cons m rest => rintro l ⟨⟩; rfl

mutual

/-- In a tree every value is followed by a mark, or by nothing. -/
theorem isChain_lexemes : ∀ t : Tree, t.lexemes.IsChain Lexeme.Apart
  | .null => .singleton _
  | .bool _ => .singleton _
  | .number _ => .singleton _
  | .string _ => .singleton _
  | .array [] => Lexeme.apart_cons rfl (.singleton _)
  | .array (t :: rest) =>
    Lexeme.apart_cons rfl
      (Lexeme.apart_append t.isChain_lexemes (isChain_itemLexemes rest)
        (isBare_head?_itemLexemes rest))
  | .object [] => Lexeme.apart_cons rfl (.singleton _)
  | .object ((_, t) :: rest) =>
    Lexeme.apart_cons rfl <| Lexeme.apart_cons rfl <| Lexeme.apart_cons rfl <|
      Lexeme.apart_append t.isChain_lexemes (isChain_memberLexemes rest)
        (isBare_head?_memberLexemes rest)

theorem isChain_itemLexemes : ∀ items : List Tree, (itemLexemes items).IsChain Lexeme.Apart
  | [] => .singleton _
  | t :: rest =>
    Lexeme.apart_cons rfl
      (Lexeme.apart_append t.isChain_lexemes (isChain_itemLexemes rest)
        (isBare_head?_itemLexemes rest))

theorem isChain_memberLexemes : ∀ members : List (Option String × Tree),
    (memberLexemes members).IsChain Lexeme.Apart
  | [] => .singleton _
  | (_, t) :: rest =>
    Lexeme.apart_cons rfl <| Lexeme.apart_cons rfl <| Lexeme.apart_cons rfl <|
      Lexeme.apart_append t.isChain_lexemes (isChain_memberLexemes rest)
        (isBare_head?_memberLexemes rest)

end

/-! ## The reader -/

/-- The first item of an array is read like any value. -/
theorem run?_firstItem (t : Tree) (ls : List Lexeme) (stack : List Frame) :
    (Reader.firstItem stack).run? (t.lexemes ++ ls) =
      (Reader.value (.array [] :: stack)).run? (t.lexemes ++ ls) := by
  obtain ⟨l, ls', hlexemes, hl⟩ := t.exists_lexemes_eq_cons
  have hstep : (Reader.firstItem stack).step? l = (Reader.value (.array [] :: stack)).step? l :=
    if_neg hl
  rw [hlexemes, List.cons_append, Reader.run?, Reader.run?, hstep]

mutual

/-- The reader takes the lexemes of a tree for this tree, whatever is still open. -/
theorem run?_lexemes : ∀ (t : Tree) (ls : List Lexeme) (stack : List Frame),
    (Reader.value stack).run? (t.lexemes ++ ls) = (Reader.after t stack).run? ls
  | .null, _, _ => rfl
  | .bool _, _, _ => rfl
  | .number _, _, _ => rfl
  | .string _, _, _ => rfl
  | .array [], _, _ => rfl
  | .array (t :: rest), ls, stack => by
    have hbegin : (Reader.value stack).run? ((Tree.array (t :: rest)).lexemes ++ ls) =
        (Reader.firstItem stack).run? (t.lexemes ++ (itemLexemes rest ++ ls)) := by
      rw [← List.append_assoc]
      rfl
    rw [hbegin, run?_firstItem, t.run?_lexemes, run?_itemLexemes]
    rfl
  | .object [], _, _ => rfl
  | .object ((key, t) :: rest), ls, stack => by
    have hbegin : (Reader.value stack).run? ((Tree.object ((key, t) :: rest)).lexemes ++ ls) =
        (Reader.value (.object [] key :: stack)).run?
          (t.lexemes ++ (memberLexemes rest ++ ls)) := by
      rw [← List.append_assoc]
      rfl
    rw [hbegin, t.run?_lexemes, run?_memberLexemes]
    rfl

/-- After an item, the further ones of an array are added to those that have been read. -/
theorem run?_itemLexemes : ∀ (rest : List Tree) (t : Tree) (items : List Tree) (ls : List Lexeme)
    (stack : List Frame),
    (Reader.after t (.array items :: stack)).run? (itemLexemes rest ++ ls) =
      (Reader.after (.array ((t :: items).reverse ++ rest)) stack).run? ls
  | [], t, items, ls, stack => by
    rw [List.append_nil]
    rfl
  | u :: rest, t, items, ls, stack => by
    have hbegin : (Reader.after t (.array items :: stack)).run? (itemLexemes (u :: rest) ++ ls) =
        (Reader.value (.array (t :: items) :: stack)).run?
          (u.lexemes ++ (itemLexemes rest ++ ls)) := by
      rw [← List.append_assoc]
      rfl
    rw [hbegin, u.run?_lexemes, run?_itemLexemes, List.reverse_cons, List.append_assoc]
    rfl

/-- So are the further members of an object. -/
theorem run?_memberLexemes : ∀ (rest : List (Option String × Tree)) (key : Option String)
    (t : Tree) (members : List (Option String × Tree)) (ls : List Lexeme) (stack : List Frame),
    (Reader.after t (.object members key :: stack)).run? (memberLexemes rest ++ ls) =
      (Reader.after (.object (((key, t) :: members).reverse ++ rest)) stack).run? ls
  | [], key, t, members, ls, stack => by
    rw [List.append_nil]
    rfl
  | (key', u) :: rest, key, t, members, ls, stack => by
    have hbegin : (Reader.after t (.object members key :: stack)).run?
          (memberLexemes ((key', u) :: rest) ++ ls) =
        (Reader.value (.object ((key, t) :: members) key' :: stack)).run?
          (u.lexemes ++ (memberLexemes rest ++ ls)) := by
      rw [← List.append_assoc]
      rfl
    rw [hbegin, u.run?_lexemes, run?_memberLexemes, List.reverse_cons, List.append_assoc]
    rfl

end

/-! ## Plain trees -/

/-- A tree whose strings are texts and whose numbers are natural. -/
def Plain (t : Tree) : Prop := ∀ l ∈ t.lexemes, l.Plain

theorem plain_ofNat (n : Nat) : (ofNat n).Plain := by
  rintro l hl
  cases List.mem_singleton.1 hl
  exact ⟨n, rfl⟩

theorem plain_ofString (s : String) : (ofString s).Plain := by
  rintro l hl
  cases List.mem_singleton.1 hl
  rfl

theorem plain_null : Tree.null.Plain := by
  rintro l hl
  cases List.mem_singleton.1 hl
  trivial

theorem plain_bool (b : Bool) : (Tree.bool b).Plain := by
  rintro l hl
  cases List.mem_singleton.1 hl
  trivial

theorem plain_itemLexemes {items : List Tree} (h : ∀ t ∈ items, t.Plain) :
    ∀ l ∈ itemLexemes items, l.Plain := by
  induction items with
  | nil =>
    rintro l hl
    cases List.mem_singleton.1 hl
    trivial
  | cons t items ih =>
    rintro l hl
    rcases List.mem_cons.1 hl with rfl | hl
    · trivial
    · rcases List.mem_append.1 hl with hl | hl
      · exact h t List.mem_cons_self l hl
      · exact ih (fun u hu => h u (List.mem_cons_of_mem t hu)) l hl

theorem plain_memberLexemes {members : List (String × Tree)} (h : ∀ m ∈ members, m.2.Plain) :
    ∀ l ∈ memberLexemes (members.map fun m => (some m.1, m.2)), l.Plain := by
  induction members with
  | nil =>
    rintro l hl
    cases List.mem_singleton.1 hl
    trivial
  | cons m members ih =>
    rintro l hl
    rcases List.mem_cons.1 hl with rfl | hl
    · trivial
    · rcases List.mem_cons.1 hl with rfl | hl
      · rfl
      · rcases List.mem_cons.1 hl with rfl | hl
        · trivial
        · rcases List.mem_append.1 hl with hl | hl
          · exact h m List.mem_cons_self l hl
          · exact ih (fun n hn => h n (List.mem_cons_of_mem m hn)) l hl

/-- But for the comma, the lexemes of an array are those that follow an item. -/
theorem plain_array {items : List Tree} (h : ∀ t ∈ items, t.Plain) : (array items).Plain := by
  have hitems := plain_itemLexemes h
  rintro l hl
  cases items with
  | nil =>
    rcases List.mem_cons.1 hl with rfl | hl
    · trivial
    · exact hitems l hl
  | cons t items =>
    rcases List.mem_cons.1 hl with rfl | hl
    · trivial
    · exact hitems l (List.mem_cons_of_mem _ hl)

theorem plain_record {members : List (String × Tree)} (h : ∀ m ∈ members, m.2.Plain) :
    (record members).Plain := by
  have hmembers := plain_memberLexemes h
  rintro l hl
  cases members with
  | nil =>
    rcases List.mem_cons.1 hl with rfl | hl
    · trivial
    · exact hmembers l hl
  | cons m members =>
    rcases List.mem_cons.1 hl with rfl | hl
    · trivial
    · exact hmembers l (List.mem_cons_of_mem _ hl)

/-- A tree is read back from its lexemes. -/
theorem ofLexemes?_lexemes (t : Tree) : ofLexemes? t.lexemes = some t := by
  have hrun := t.run?_lexemes [] []
  rw [List.append_nil] at hrun
  rw [ofLexemes?, hrun]
  rfl

theorem ofText?_of_lexemes {text : List Char} {t : Tree} (h : lexemes? text = some t.lexemes) :
    ofText? text = some t := by
  rw [ofText?, h]
  exact ofLexemes?_lexemes t

/-- **A tree is read back from its text**, if its strings are texts and its numbers are natural. -/
theorem ofText?_text {t : Tree} (h : t.Plain) : ofText? t.text = some t :=
  ofText?_of_lexemes (lexemes?_flatMap_text h t.isChain_lexemes)

end Tree

end Locus.Json
