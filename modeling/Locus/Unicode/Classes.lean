import Locus.Unicode.CategoryTable
import Locus.Unicode.PropertyTable
import Locus.Unicode.Ranges

/-!
# Classes of characters

The Unicode classes that patterns, names and quoted texts are defined by.
-/

namespace Locus.Unicode

/-- The general category of a character. -/
def category (c : Char) : Category :=
  lastAtMost c.toNat .unassigned (lastAtMost c.toNat [] CategoryTable.blocks)

/-- The decimal digits of all scripts. -/
def isDecimalDigit (c : Char) : Bool :=
  category c = .decimalDigit

/-- The characters with the property `White_Space`. -/
def isWhiteSpace (c : Char) : Bool :=
  inRanges c.toNat
    [(0x09, 0x0D), (0x20, 0x20), (0x85, 0x85), (0xA0, 0xA0), (0x1680, 0x1680), (0x2000, 0x200A),
     (0x2028, 0x2029), (0x202F, 0x202F), (0x205F, 0x205F), (0x3000, 0x3000)]

/-- The symbols that count as alphabetic: letters in circles and squares. -/
def isEnclosedLetter (c : Char) : Bool :=
  inRanges c.toNat
    [(0x24B6, 0x24E9), (0x1F130, 0x1F149), (0x1F150, 0x1F169), (0x1F170, 0x1F189)]

/-- Letters, numbers that are letters, alphabetic marks, and enclosed letters. -/
def isAlphabetic (c : Char) : Bool :=
  match category c with
  | .letter | .letterNumber => true
  | _ => inRanges c.toNat (rangesOf PropertyTable.otherAlphabetic)

/-- Alphabetic characters and numbers of all kinds. -/
def isAlphanumeric (c : Char) : Bool :=
  match category c with
  | .decimalDigit | .otherNumber => true
  | _ => isAlphabetic c

/-- The characters of words: alphabetic characters, marks, decimal digits, connectors, and the two
characters that control joining. -/
def isWord (c : Char) : Bool :=
  match category c with
  | .letter | .letterNumber | .nonspacingMark | .enclosingMark | .spacingMark | .decimalDigit
  | .connector => true
  | _ => isEnclosedLetter c || c = '\u200c' || c = '\u200d'

/-- The characters that may start an identifier: letters, numbers that are letters, and a few
more, except for letters that are ambiguous under compatibility normalization. -/
def isIdentifierStart (c : Char) : Bool :=
  match category c with
  | .letter | .letterNumber =>
    !inRanges c.toNat
      [(0x37A, 0x37A), (0xE33, 0xE33), (0xEB3, 0xEB3), (0x2E2F, 0x2E2F), (0xFC5E, 0xFC63),
       (0xFDFA, 0xFDFB), (0xFE70, 0xFE70), (0xFE72, 0xFE72), (0xFE74, 0xFE74), (0xFE76, 0xFE76),
       (0xFE78, 0xFE78), (0xFE7A, 0xFE7A), (0xFE7C, 0xFE7C), (0xFE7E, 0xFE7E), (0xFF9E, 0xFF9F)]
  | _ => inRanges c.toNat [(0x1885, 0x1886), (0x2118, 0x2118), (0x212E, 0x212E)]

/-- The characters that may continue an identifier: also marks, decimal digits and connectors. -/
def isIdentifierPart (c : Char) : Bool :=
  match category c with
  | .letter | .letterNumber | .nonspacingMark | .spacingMark | .decimalDigit | .connector =>
    !inRanges c.toNat
      [(0x37A, 0x37A), (0x2E2F, 0x2E2F), (0xFC5E, 0xFC63), (0xFDFA, 0xFDFB), (0xFE70, 0xFE70),
       (0xFE72, 0xFE72), (0xFE74, 0xFE74), (0xFE76, 0xFE76), (0xFE78, 0xFE78), (0xFE7A, 0xFE7A),
       (0xFE7C, 0xFE7C), (0xFE7E, 0xFE7E)]
  | _ =>
    inRanges c.toNat
      [(0xB7, 0xB7), (0x387, 0x387), (0x1369, 0x1371), (0x19DA, 0x19DA), (0x200C, 0x200D),
       (0x2118, 0x2118), (0x212E, 0x212E), (0x30FB, 0x30FB), (0xFF65, 0xFF65)]

/-- The characters with the property `Grapheme_Extend`, which attach to the one before them. -/
def extendsGrapheme (c : Char) : Bool :=
  match category c with
  | .nonspacingMark | .enclosingMark => true
  | .spacingMark | .format | .letter =>
    inRanges c.toNat
      [(0x9BE, 0x9BE), (0x9D7, 0x9D7), (0xB3E, 0xB3E), (0xB57, 0xB57), (0xBBE, 0xBBE),
       (0xBD7, 0xBD7), (0xCC0, 0xCC0), (0xCC2, 0xCC2), (0xCC7, 0xCC8), (0xCCA, 0xCCB),
       (0xCD5, 0xCD6), (0xD3E, 0xD3E), (0xD57, 0xD57), (0xDCF, 0xDCF), (0xDDF, 0xDDF),
       (0x1715, 0x1715), (0x1734, 0x1734), (0x1B35, 0x1B35), (0x1B3B, 0x1B3B), (0x1B3D, 0x1B3D),
       (0x1B43, 0x1B44), (0x1BAA, 0x1BAA), (0x1BF2, 0x1BF3), (0x200C, 0x200C), (0x302E, 0x302F),
       (0xA953, 0xA953), (0xA9C0, 0xA9C0), (0xFF9E, 0xFF9F), (0x111C0, 0x111C0),
       (0x11235, 0x11235), (0x1133E, 0x1133E), (0x1134D, 0x1134D), (0x11357, 0x11357),
       (0x113B8, 0x113B8), (0x113C2, 0x113C2), (0x113C5, 0x113C5), (0x113C7, 0x113C9),
       (0x113CF, 0x113CF), (0x114B0, 0x114B0), (0x114BD, 0x114BD), (0x115AF, 0x115AF),
       (0x116B6, 0x116B6), (0x11930, 0x11930), (0x1193D, 0x1193D), (0x11F41, 0x11F41),
       (0x16FF0, 0x16FF1), (0x1D165, 0x1D166), (0x1D16D, 0x1D172), (0xE0020, 0xE007F)]
  | _ => false

/-- The characters that show as themselves: no controls, formats, separators or unassigned code
points, except for the blank. -/
def isPrinted (c : Char) : Bool :=
  match category c with
  | .control | .format | .surrogate | .privateUse | .unassigned | .lineSeparator
  | .paragraphSeparator => false
  | .space => c = ' '
  | _ => true

end Locus.Unicode
