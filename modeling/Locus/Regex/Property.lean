import Locus.Regex.CharSet

/-!
# Sets named by properties

The sets that patterns name by properties of characters: general categories, scripts, versions,
kinds of breaks, and properties that a character has or has not. Most of them are put together from
general categories and a few listed characters, as the standard derives them.
-/

namespace Locus.Property

open CharSet Unicode

/-- The characters in the ranges that a text lists. -/
def listed (text : String) : CharSet := .ranges (rangesOf text)

/-- Sets, each under its names. -/
abbrev Names := List (List String × CharSet)

/-- The set under a name. -/
def Names.find? (names : Names) (name : String) : Option CharSet :=
  (List.find? (fun entry => entry.1.contains name) names).map (·.2)

/-- The sets that a table lists. -/
def Names.ofTable (table : List (List String × String)) : Names :=
  table.map fun entry => (entry.1, listed entry.2)

/-! ## General categories -/

def capital : CharSet := listed PropertyTable.uppercaseLetter

def small : CharSet := listed PropertyTable.lowercaseLetter

def titlecase : CharSet := listed PropertyTable.titlecaseLetter

def modifierLetter : CharSet := listed PropertyTable.modifierLetter

def casedLetter : CharSet := unions [capital, small, titlecase]

def marks : CharSet :=
  unions [.category .nonspacingMark, .category .enclosingMark, .category .spacingMark]

def numbers : CharSet :=
  unions [.category .decimalDigit, .category .letterNumber, .category .otherNumber]

/-- The punctuation marks that come in pairs. -/
def brackets : List CharSet :=
  [listed PropertyTable.openPunctuation, listed PropertyTable.closePunctuation,
   listed PropertyTable.initialPunctuation, listed PropertyTable.finalPunctuation]

def mathSymbol : CharSet := listed PropertyTable.mathSymbol

def currencySymbol : CharSet := listed PropertyTable.currencySymbol

def modifierSymbol : CharSet := listed PropertyTable.modifierSymbol

/-- What separates lines and paragraphs. -/
def lineSeparators : CharSet :=
  .union (.category .lineSeparator) (.category .paragraphSeparator)

/-- The general categories and their groups. -/
def generalCategories : Names :=
  [(["any"], .full),
   (["assigned"], .compl (.category .unassigned)),
   (["ascii"], .range '\x00' '\x7f'),
   (["l", "letter"], .category .letter),
   (["lc", "casedletter"], casedLetter),
   (["lu", "uppercaseletter"], capital),
   (["ll", "lowercaseletter"], small),
   (["lt", "titlecaseletter"], titlecase),
   (["lm", "modifierletter"], modifierLetter),
   (["lo", "otherletter"], (category .letter).diff (.union casedLetter modifierLetter)),
   (["m", "mark", "combiningmark"], marks),
   (["mn", "nonspacingmark"], .category .nonspacingMark),
   (["me", "enclosingmark"], .category .enclosingMark),
   (["mc", "spacingmark"], .category .spacingMark),
   (["n", "number"], numbers),
   (["nd", "decimalnumber", "digit"], .category .decimalDigit),
   (["nl", "letternumber"], .category .letterNumber),
   (["no", "othernumber"], .category .otherNumber),
   (["p", "punct", "punctuation"], .union (.category .connector) (.category .punctuation)),
   (["pc", "connectorpunctuation"], .category .connector),
   (["pd", "dashpunctuation"], listed PropertyTable.dashPunctuation),
   (["ps", "openpunctuation"], listed PropertyTable.openPunctuation),
   (["pe", "closepunctuation"], listed PropertyTable.closePunctuation),
   (["pi", "initialpunctuation"], listed PropertyTable.initialPunctuation),
   (["pf", "finalpunctuation"], listed PropertyTable.finalPunctuation),
   (["po", "otherpunctuation"],
    (category .punctuation).diff (unions (listed PropertyTable.dashPunctuation :: brackets))),
   (["s", "symbol"], .category .symbol),
   (["sm", "mathsymbol"], mathSymbol),
   (["sc", "currencysymbol"], currencySymbol),
   (["sk", "modifiersymbol"], modifierSymbol),
   (["so", "othersymbol"],
    (category .symbol).diff (unions [mathSymbol, currencySymbol, modifierSymbol])),
   (["z", "separator"], .union (.category .space) lineSeparators),
   (["zs", "spaceseparator"], .category .space),
   (["zl", "lineseparator"], .category .lineSeparator),
   (["zp", "paragraphseparator"], .category .paragraphSeparator),
   (["c", "other"],
    unions [.category .control, .category .format, .category .privateUse, .category .unassigned]),
   (["cc", "cntrl", "control"], .category .control),
   (["cf", "format"], .category .format),
   (["co", "privateuse"], .category .privateUse),
   (["cn", "unassigned"], .category .unassigned)]

/-! ## Case -/

def uppercase : CharSet := .union capital (listed PropertyTable.otherUppercase)

def lowercase : CharSet := .union small (listed PropertyTable.otherLowercase)

def cased : CharSet := unions [uppercase, lowercase, titlecase]

/-- What may stand between cased letters without parting them. -/
def caseIgnorable : CharSet :=
  unions [.category .nonspacingMark, .category .enclosingMark, .category .format, modifierLetter,
    modifierSymbol, listed PropertyTable.midLetter, listed PropertyTable.midNumLet, single '\'']

def changesLowered : CharSet :=
  (uppercase.union titlecase).diff (listed PropertyTable.keptByLower)

def changesRaised : CharSet :=
  (lowercase.union titlecase).diff (listed PropertyTable.keptByUpper)

def changesTitled : CharSet :=
  (changesRaised.diff (listed PropertyTable.keptByTitle)).union (listed PropertyTable.titledOnly)

def changesFolded : CharSet :=
  (changesLowered.diff (listed PropertyTable.keptByFold)).union (listed PropertyTable.foldedOnly)

/-! ## Identifiers and texts -/

def alphabetic : CharSet :=
  unions [.category .letter, .category .letterNumber, listed PropertyTable.otherAlphabetic]

/-- What notations of patterns may use for themselves. -/
def patternSign : CharSet :=
  .union (listed PropertyTable.patternSyntax) (listed PropertyTable.patternWhiteSpace)

def idStart : CharSet :=
  (unions [.category .letter, .category .letterNumber, listed PropertyTable.otherIdStart]).diff
    patternSign

def idContinue : CharSet :=
  (unions [idStart, .category .nonspacingMark, .category .spacingMark, .category .decimalDigit,
    .category .connector, listed PropertyTable.otherIdContinue]).diff patternSign

/-- What may be left out where it cannot be shown. -/
def defaultIgnorable : CharSet :=
  (unions [listed PropertyTable.otherDefaultIgnorable, .category .format,
    listed PropertyTable.variationSelector]).diff
    (unions [.blank, listed PropertyTable.shownFormat, listed PropertyTable.prependedMark])

/-- What attaches to the character before it. -/
def graphemeExtend : CharSet :=
  unions [.category .nonspacingMark, .category .enclosingMark,
    listed PropertyTable.otherGraphemeExtend]

/-- What other characters attach to. -/
def graphemeBase : CharSet :=
  .compl (unions [.category .control, .category .format, .category .privateUse,
    .category .unassigned, lineSeparators, graphemeExtend])

/-- The properties that a character has or has not. -/
def binary : Names :=
  [(["ahex", "asciihexdigit"], unions [asciiDigit, .range 'A' 'F', .range 'a' 'f']),
   (["alpha", "alphabetic"], alphabetic),
   (["ci", "caseignorable"], caseIgnorable),
   (["cased"], cased),
   (["cwcf", "changeswhencasefolded"], changesFolded),
   (["cwcm", "changeswhencasemapped"], unions [changesLowered, changesRaised, changesTitled]),
   (["cwl", "changeswhenlowercased"], changesLowered),
   (["cwt", "changeswhentitlecased"], changesTitled),
   (["cwu", "changeswhenuppercased"], changesRaised),
   (["di", "defaultignorablecodepoint"], defaultIgnorable),
   (["grbase", "graphemebase"], graphemeBase),
   (["grext", "graphemeextend"], graphemeExtend),
   (["idc", "idcontinue"], idContinue),
   (["ids", "idstart"], idStart),
   (["lower", "lowercase"], lowercase),
   (["math"], .union mathSymbol (listed PropertyTable.otherMath)),
   (["upper", "uppercase"], uppercase),
   (["space", "whitespace", "wspace"], .blank),
   (["xidc", "xidcontinue"], idContinue.diff (listed PropertyTable.ambiguousContinue)),
   (["xids", "xidstart"], idStart.diff (listed PropertyTable.ambiguousStart))]
  ++ .ofTable PropertyTable.binary

/-! ## Scripts and versions -/

def scripts : Names := .ofTable PropertyTable.scripts

/-- The scripts with the characters that they share. Those of several scripts are in none of the two
that stand for common and inherited characters. -/
def scriptExtensions : Names :=
  let shared (p : String → Bool) : List (Nat × Nat) :=
    (PropertyTable.shared.filter fun entry => p entry.1).flatMap fun entry => rangesOf entry.2
  PropertyTable.scripts.map fun (names, text) =>
    if names.contains "common" || names.contains "inherited" then
      (names, (listed text).diff (.ranges (shared fun _ => true)))
    else (names, .ranges (rangesOf text ++ shared names.contains))

/-- What was assigned in a version, or in one before it. -/
def age? (name : String) : Option CharSet :=
  let isNamed (entry : List String × String) : Bool := entry.1.contains name
  if PropertyTable.ages.any isNamed then
    let earlier := PropertyTable.ages.takeWhile fun entry => !isNamed entry
    let version := PropertyTable.ages.filter isNamed
    some (.ranges ((earlier ++ version).flatMap fun entry => rangesOf entry.2))
  else none

/-! ## Breaks of texts -/

/-- What attaches to the character before it, or is at least written beside it. -/
def extending : CharSet := .union graphemeExtend (.category .spacingMark)

def graphemeExtending : CharSet := .union graphemeExtend (listed PropertyTable.emojiModifier)

/-- The syllables of Hangul, of which every 28th has no consonant at its end. -/
def hangul (first last : Nat) : CharSet :=
  .ranges ((List.range 399).map fun i => (0xAC00 + 28 * i + first, 0xAC00 + 28 * i + last))

/-- The kinds of characters where a visible character may end. -/
def graphemeBreaks : Names :=
  [(["ex", "extend"], graphemeExtending),
   (["lv"], hangul 0 0),
   (["lvt"], hangul 1 27),
   (["sm", "spacingmark"],
    ((category .spacingMark).diff
      (.union graphemeExtending (listed PropertyTable.spacingOutside))).union
      (listed PropertyTable.spacingBesides))]
  ++ .ofTable PropertyTable.graphemeBreaks

/-- The kinds of characters where a word may end. -/
def wordBreaks : Names :=
  let extend := extending.union (listed PropertyTable.emojiModifier)
  [(["le", "aletter"],
    (alphabetic.diff (unions [listed PropertyTable.ideographic, extend,
      listed PropertyTable.alphabeticOutside])).union (listed PropertyTable.alphabeticBesides)),
   (["extend"], extend),
   (["ex", "extendnumlet"], .union (.category .connector) (single '\u202f')),
   (["ml", "midletter"], listed PropertyTable.midLetter),
   (["mb", "midnumlet"], listed PropertyTable.midNumLet),
   (["nu", "numeric"], .union (.category .decimalDigit) (listed PropertyTable.lineNumeric))]
  ++ .ofTable PropertyTable.wordBreaks

/-- The kinds of characters where a sentence may end. -/
def sentenceBreaks : Names :=
  let extend := extending.union (single '\u200d')
  let lower := (lowercase.diff graphemeExtend).diff (listed PropertyTable.georgianSmall)
  let upper := (uppercase.union titlecase).diff (listed PropertyTable.georgianCapital)
  [(["at", "aterm"], listed PropertyTable.fullStop),
   (["cl", "close"], unions (listed PropertyTable.quoting :: brackets)),
   (["ex", "extend"], extend),
   (["lo", "lower"], lower),
   (["up", "upper"], upper),
   (["le", "oletter"], (alphabetic.diff (unions [lower, upper, extend])).union (single '\u05f3')),
   (["nu", "numeric"],
    unions [.category .decimalDigit, listed PropertyTable.lineNumeric, single '\u066c']),
   (["st", "sterm"],
    (listed PropertyTable.sentenceTerminal).diff (listed PropertyTable.fullStop))]
  ++ .ofTable PropertyTable.sentenceBreaks

/-! ## Names -/

/-- A name as it is looked up: without blanks, dashes and underscores, without what is not ASCII and
in lower case. An `is` at its start counts for nothing, except before the name `c`, which would be
that of a category. -/
def plainName (name : List Char) : String :=
  let hasIs := (name.take 2).map Char.toLower = ['i', 's']
  let rest := if hasIs then name.drop 2 else name
  let kept := rest.filter fun c => c.toNat < 0x80 && c ≠ ' ' && c ≠ '-' && c ≠ '_'
  let lower := kept.map Char.toLower
  String.ofList (if hasIs && lower = ['c'] then ['i', 's', 'c'] else lower)

/-- The set that a property and one of its values stand for. -/
def ofValue? (property value : String) : Option CharSet :=
  if property = "gc" ∨ property = "generalcategory" then generalCategories.find? value
  else if property = "sc" ∨ property = "script" then scripts.find? value
  else if property = "scx" ∨ property = "scriptextensions" then scriptExtensions.find? value
  else if property = "age" then age? value
  else if property = "gcb" ∨ property = "graphemeclusterbreak" then graphemeBreaks.find? value
  else if property = "wb" ∨ property = "wordbreak" then wordBreaks.find? value
  else if property = "sb" ∨ property = "sentencebreak" then sentenceBreaks.find? value
  else none

/-- The set that a name alone stands for. -/
def ofName? (name : String) : Option CharSet :=
  ((binary.find? name).or (generalCategories.find? name)).or (scripts.find? name)

/-- What stands on both sides of a sign, where it occurs first. -/
def cut? (sign : List Char) : List Char → Option (List Char × List Char)
  | [] => none
  | c :: cs =>
    if sign.isPrefixOf (c :: cs) then some ([], (c :: cs).drop sign.length)
    else (cut? sign cs).map fun (left, right) => (c :: left, right)

/-- The set that is named by what stands in braces: a name, or a property and a value. -/
def ofText? (text : List Char) : Option CharSet :=
  match ((cut? ['!', '='] text).or (cut? [':'] text)).or (cut? ['='] text) with
  | some (property, value) => ofValue? (plainName property) (plainName value)
  | none => ofName? (plainName text)

end Locus.Property
