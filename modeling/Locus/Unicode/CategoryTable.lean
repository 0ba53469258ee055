import Locus.Unicode.Category

/-!
# The table of general categories

Where each run of characters with one general category starts, in blocks of ascending starts. The
last start that is not past a character gives its category.
-/

namespace Locus.Unicode.CategoryTable

open Category

/-- The runs from `0x0` on. -/
def block0 : List (Nat × Category) :=
  [(0x0, control), (0x20, space), (0x21, punctuation), (0x24, symbol), (0x25, punctuation),
   (0x2B, symbol), (0x2C, punctuation), (0x30, decimalDigit), (0x3A, punctuation), (0x3C, symbol),
   (0x3F, punctuation), (0x41, letter), (0x5B, punctuation), (0x5E, symbol), (0x5F, connector),
   (0x60, symbol), (0x61, letter), (0x7B, punctuation), (0x7C, symbol), (0x7D, punctuation),
   (0x7E, symbol), (0x7F, control), (0xA0, space), (0xA1, punctuation), (0xA2, symbol),
   (0xA7, punctuation), (0xA8, symbol), (0xAA, letter), (0xAB, punctuation), (0xAC, symbol),
   (0xAD, format), (0xAE, symbol), (0xB2, otherNumber), (0xB4, symbol), (0xB5, letter),
   (0xB6, punctuation), (0xB8, symbol), (0xB9, otherNumber), (0xBA, letter), (0xBB, punctuation),
   (0xBC, otherNumber), (0xBF, punctuation), (0xC0, letter), (0xD7, symbol), (0xD8, letter),
   (0xF7, symbol), (0xF8, letter), (0x2C2, symbol), (0x2C6, letter), (0x2D2, symbol),
   (0x2E0, letter), (0x2E5, symbol), (0x2EC, letter), (0x2ED, symbol), (0x2EE, letter),
   (0x2EF, symbol), (0x300, nonspacingMark), (0x370, letter), (0x375, symbol), (0x376, letter),
   (0x378, unassigned), (0x37A, letter), (0x37E, punctuation), (0x37F, letter)]

/-- The runs from `0x380` on. -/
def block1 : List (Nat × Category) :=
  [(0x380, unassigned), (0x384, symbol), (0x386, letter), (0x387, punctuation), (0x388, letter),
   (0x38B, unassigned), (0x38C, letter), (0x38D, unassigned), (0x38E, letter), (0x3A2, unassigned),
   (0x3A3, letter), (0x3F6, symbol), (0x3F7, letter), (0x482, symbol), (0x483, nonspacingMark),
   (0x488, enclosingMark), (0x48A, letter), (0x530, unassigned), (0x531, letter),
   (0x557, unassigned), (0x559, letter), (0x55A, punctuation), (0x560, letter),
   (0x589, punctuation), (0x58B, unassigned), (0x58D, symbol), (0x590, unassigned),
   (0x591, nonspacingMark), (0x5BE, punctuation), (0x5BF, nonspacingMark), (0x5C0, punctuation),
   (0x5C1, nonspacingMark), (0x5C3, punctuation), (0x5C4, nonspacingMark), (0x5C6, punctuation),
   (0x5C7, nonspacingMark), (0x5C8, unassigned), (0x5D0, letter), (0x5EB, unassigned),
   (0x5EF, letter), (0x5F3, punctuation), (0x5F5, unassigned), (0x600, format), (0x606, symbol),
   (0x609, punctuation), (0x60B, symbol), (0x60C, punctuation), (0x60E, symbol),
   (0x610, nonspacingMark), (0x61B, punctuation), (0x61C, format), (0x61D, punctuation),
   (0x620, letter), (0x64B, nonspacingMark), (0x660, decimalDigit), (0x66A, punctuation),
   (0x66E, letter), (0x670, nonspacingMark), (0x671, letter), (0x6D4, punctuation), (0x6D5, letter),
   (0x6D6, nonspacingMark), (0x6DD, format), (0x6DE, symbol)]

/-- The runs from `0x6DF` on. -/
def block2 : List (Nat × Category) :=
  [(0x6DF, nonspacingMark), (0x6E5, letter), (0x6E7, nonspacingMark), (0x6E9, symbol),
   (0x6EA, nonspacingMark), (0x6EE, letter), (0x6F0, decimalDigit), (0x6FA, letter),
   (0x6FD, symbol), (0x6FF, letter), (0x700, punctuation), (0x70E, unassigned), (0x70F, format),
   (0x710, letter), (0x711, nonspacingMark), (0x712, letter), (0x730, nonspacingMark),
   (0x74B, unassigned), (0x74D, letter), (0x7A6, nonspacingMark), (0x7B1, letter),
   (0x7B2, unassigned), (0x7C0, decimalDigit), (0x7CA, letter), (0x7EB, nonspacingMark),
   (0x7F4, letter), (0x7F6, symbol), (0x7F7, punctuation), (0x7FA, letter), (0x7FB, unassigned),
   (0x7FD, nonspacingMark), (0x7FE, symbol), (0x800, letter), (0x816, nonspacingMark),
   (0x81A, letter), (0x81B, nonspacingMark), (0x824, letter), (0x825, nonspacingMark),
   (0x828, letter), (0x829, nonspacingMark), (0x82E, unassigned), (0x830, punctuation),
   (0x83F, unassigned), (0x840, letter), (0x859, nonspacingMark), (0x85C, unassigned),
   (0x85E, punctuation), (0x85F, unassigned), (0x860, letter), (0x86B, unassigned), (0x870, letter),
   (0x888, symbol), (0x889, letter), (0x88F, unassigned), (0x890, format), (0x892, unassigned),
   (0x897, nonspacingMark), (0x8A0, letter), (0x8CA, nonspacingMark), (0x8E2, format),
   (0x8E3, nonspacingMark), (0x903, spacingMark), (0x904, letter), (0x93A, nonspacingMark)]

/-- The runs from `0x93B` on. -/
def block3 : List (Nat × Category) :=
  [(0x93B, spacingMark), (0x93C, nonspacingMark), (0x93D, letter), (0x93E, spacingMark),
   (0x941, nonspacingMark), (0x949, spacingMark), (0x94D, nonspacingMark), (0x94E, spacingMark),
   (0x950, letter), (0x951, nonspacingMark), (0x958, letter), (0x962, nonspacingMark),
   (0x964, punctuation), (0x966, decimalDigit), (0x970, punctuation), (0x971, letter),
   (0x981, nonspacingMark), (0x982, spacingMark), (0x984, unassigned), (0x985, letter),
   (0x98D, unassigned), (0x98F, letter), (0x991, unassigned), (0x993, letter), (0x9A9, unassigned),
   (0x9AA, letter), (0x9B1, unassigned), (0x9B2, letter), (0x9B3, unassigned), (0x9B6, letter),
   (0x9BA, unassigned), (0x9BC, nonspacingMark), (0x9BD, letter), (0x9BE, spacingMark),
   (0x9C1, nonspacingMark), (0x9C5, unassigned), (0x9C7, spacingMark), (0x9C9, unassigned),
   (0x9CB, spacingMark), (0x9CD, nonspacingMark), (0x9CE, letter), (0x9CF, unassigned),
   (0x9D7, spacingMark), (0x9D8, unassigned), (0x9DC, letter), (0x9DE, unassigned), (0x9DF, letter),
   (0x9E2, nonspacingMark), (0x9E4, unassigned), (0x9E6, decimalDigit), (0x9F0, letter),
   (0x9F2, symbol), (0x9F4, otherNumber), (0x9FA, symbol), (0x9FC, letter), (0x9FD, punctuation),
   (0x9FE, nonspacingMark), (0x9FF, unassigned), (0xA01, nonspacingMark), (0xA03, spacingMark),
   (0xA04, unassigned), (0xA05, letter), (0xA0B, unassigned), (0xA0F, letter)]

/-- The runs from `0xA11` on. -/
def block4 : List (Nat × Category) :=
  [(0xA11, unassigned), (0xA13, letter), (0xA29, unassigned), (0xA2A, letter), (0xA31, unassigned),
   (0xA32, letter), (0xA34, unassigned), (0xA35, letter), (0xA37, unassigned), (0xA38, letter),
   (0xA3A, unassigned), (0xA3C, nonspacingMark), (0xA3D, unassigned), (0xA3E, spacingMark),
   (0xA41, nonspacingMark), (0xA43, unassigned), (0xA47, nonspacingMark), (0xA49, unassigned),
   (0xA4B, nonspacingMark), (0xA4E, unassigned), (0xA51, nonspacingMark), (0xA52, unassigned),
   (0xA59, letter), (0xA5D, unassigned), (0xA5E, letter), (0xA5F, unassigned),
   (0xA66, decimalDigit), (0xA70, nonspacingMark), (0xA72, letter), (0xA75, nonspacingMark),
   (0xA76, punctuation), (0xA77, unassigned), (0xA81, nonspacingMark), (0xA83, spacingMark),
   (0xA84, unassigned), (0xA85, letter), (0xA8E, unassigned), (0xA8F, letter), (0xA92, unassigned),
   (0xA93, letter), (0xAA9, unassigned), (0xAAA, letter), (0xAB1, unassigned), (0xAB2, letter),
   (0xAB4, unassigned), (0xAB5, letter), (0xABA, unassigned), (0xABC, nonspacingMark),
   (0xABD, letter), (0xABE, spacingMark), (0xAC1, nonspacingMark), (0xAC6, unassigned),
   (0xAC7, nonspacingMark), (0xAC9, spacingMark), (0xACA, unassigned), (0xACB, spacingMark),
   (0xACD, nonspacingMark), (0xACE, unassigned), (0xAD0, letter), (0xAD1, unassigned),
   (0xAE0, letter), (0xAE2, nonspacingMark), (0xAE4, unassigned), (0xAE6, decimalDigit)]

/-- The runs from `0xAF0` on. -/
def block5 : List (Nat × Category) :=
  [(0xAF0, punctuation), (0xAF1, symbol), (0xAF2, unassigned), (0xAF9, letter),
   (0xAFA, nonspacingMark), (0xB00, unassigned), (0xB01, nonspacingMark), (0xB02, spacingMark),
   (0xB04, unassigned), (0xB05, letter), (0xB0D, unassigned), (0xB0F, letter), (0xB11, unassigned),
   (0xB13, letter), (0xB29, unassigned), (0xB2A, letter), (0xB31, unassigned), (0xB32, letter),
   (0xB34, unassigned), (0xB35, letter), (0xB3A, unassigned), (0xB3C, nonspacingMark),
   (0xB3D, letter), (0xB3E, spacingMark), (0xB3F, nonspacingMark), (0xB40, spacingMark),
   (0xB41, nonspacingMark), (0xB45, unassigned), (0xB47, spacingMark), (0xB49, unassigned),
   (0xB4B, spacingMark), (0xB4D, nonspacingMark), (0xB4E, unassigned), (0xB55, nonspacingMark),
   (0xB57, spacingMark), (0xB58, unassigned), (0xB5C, letter), (0xB5E, unassigned), (0xB5F, letter),
   (0xB62, nonspacingMark), (0xB64, unassigned), (0xB66, decimalDigit), (0xB70, symbol),
   (0xB71, letter), (0xB72, otherNumber), (0xB78, unassigned), (0xB82, nonspacingMark),
   (0xB83, letter), (0xB84, unassigned), (0xB85, letter), (0xB8B, unassigned), (0xB8E, letter),
   (0xB91, unassigned), (0xB92, letter), (0xB96, unassigned), (0xB99, letter), (0xB9B, unassigned),
   (0xB9C, letter), (0xB9D, unassigned), (0xB9E, letter), (0xBA0, unassigned), (0xBA3, letter),
   (0xBA5, unassigned), (0xBA8, letter)]

/-- The runs from `0xBAB` on. -/
def block6 : List (Nat × Category) :=
  [(0xBAB, unassigned), (0xBAE, letter), (0xBBA, unassigned), (0xBBE, spacingMark),
   (0xBC0, nonspacingMark), (0xBC1, spacingMark), (0xBC3, unassigned), (0xBC6, spacingMark),
   (0xBC9, unassigned), (0xBCA, spacingMark), (0xBCD, nonspacingMark), (0xBCE, unassigned),
   (0xBD0, letter), (0xBD1, unassigned), (0xBD7, spacingMark), (0xBD8, unassigned),
   (0xBE6, decimalDigit), (0xBF0, otherNumber), (0xBF3, symbol), (0xBFB, unassigned),
   (0xC00, nonspacingMark), (0xC01, spacingMark), (0xC04, nonspacingMark), (0xC05, letter),
   (0xC0D, unassigned), (0xC0E, letter), (0xC11, unassigned), (0xC12, letter), (0xC29, unassigned),
   (0xC2A, letter), (0xC3A, unassigned), (0xC3C, nonspacingMark), (0xC3D, letter),
   (0xC3E, nonspacingMark), (0xC41, spacingMark), (0xC45, unassigned), (0xC46, nonspacingMark),
   (0xC49, unassigned), (0xC4A, nonspacingMark), (0xC4E, unassigned), (0xC55, nonspacingMark),
   (0xC57, unassigned), (0xC58, letter), (0xC5B, unassigned), (0xC5D, letter), (0xC5E, unassigned),
   (0xC60, letter), (0xC62, nonspacingMark), (0xC64, unassigned), (0xC66, decimalDigit),
   (0xC70, unassigned), (0xC77, punctuation), (0xC78, otherNumber), (0xC7F, symbol),
   (0xC80, letter), (0xC81, nonspacingMark), (0xC82, spacingMark), (0xC84, punctuation),
   (0xC85, letter), (0xC8D, unassigned), (0xC8E, letter), (0xC91, unassigned), (0xC92, letter),
   (0xCA9, unassigned)]

/-- The runs from `0xCAA` on. -/
def block7 : List (Nat × Category) :=
  [(0xCAA, letter), (0xCB4, unassigned), (0xCB5, letter), (0xCBA, unassigned),
   (0xCBC, nonspacingMark), (0xCBD, letter), (0xCBE, spacingMark), (0xCBF, nonspacingMark),
   (0xCC0, spacingMark), (0xCC5, unassigned), (0xCC6, nonspacingMark), (0xCC7, spacingMark),
   (0xCC9, unassigned), (0xCCA, spacingMark), (0xCCC, nonspacingMark), (0xCCE, unassigned),
   (0xCD5, spacingMark), (0xCD7, unassigned), (0xCDD, letter), (0xCDF, unassigned), (0xCE0, letter),
   (0xCE2, nonspacingMark), (0xCE4, unassigned), (0xCE6, decimalDigit), (0xCF0, unassigned),
   (0xCF1, letter), (0xCF3, spacingMark), (0xCF4, unassigned), (0xD00, nonspacingMark),
   (0xD02, spacingMark), (0xD04, letter), (0xD0D, unassigned), (0xD0E, letter), (0xD11, unassigned),
   (0xD12, letter), (0xD3B, nonspacingMark), (0xD3D, letter), (0xD3E, spacingMark),
   (0xD41, nonspacingMark), (0xD45, unassigned), (0xD46, spacingMark), (0xD49, unassigned),
   (0xD4A, spacingMark), (0xD4D, nonspacingMark), (0xD4E, letter), (0xD4F, symbol),
   (0xD50, unassigned), (0xD54, letter), (0xD57, spacingMark), (0xD58, otherNumber),
   (0xD5F, letter), (0xD62, nonspacingMark), (0xD64, unassigned), (0xD66, decimalDigit),
   (0xD70, otherNumber), (0xD79, symbol), (0xD7A, letter), (0xD80, unassigned),
   (0xD81, nonspacingMark), (0xD82, spacingMark), (0xD84, unassigned), (0xD85, letter),
   (0xD97, unassigned), (0xD9A, letter)]

/-- The runs from `0xDB2` on. -/
def block8 : List (Nat × Category) :=
  [(0xDB2, unassigned), (0xDB3, letter), (0xDBC, unassigned), (0xDBD, letter), (0xDBE, unassigned),
   (0xDC0, letter), (0xDC7, unassigned), (0xDCA, nonspacingMark), (0xDCB, unassigned),
   (0xDCF, spacingMark), (0xDD2, nonspacingMark), (0xDD5, unassigned), (0xDD6, nonspacingMark),
   (0xDD7, unassigned), (0xDD8, spacingMark), (0xDE0, unassigned), (0xDE6, decimalDigit),
   (0xDF0, unassigned), (0xDF2, spacingMark), (0xDF4, punctuation), (0xDF5, unassigned),
   (0xE01, letter), (0xE31, nonspacingMark), (0xE32, letter), (0xE34, nonspacingMark),
   (0xE3B, unassigned), (0xE3F, symbol), (0xE40, letter), (0xE47, nonspacingMark),
   (0xE4F, punctuation), (0xE50, decimalDigit), (0xE5A, punctuation), (0xE5C, unassigned),
   (0xE81, letter), (0xE83, unassigned), (0xE84, letter), (0xE85, unassigned), (0xE86, letter),
   (0xE8B, unassigned), (0xE8C, letter), (0xEA4, unassigned), (0xEA5, letter), (0xEA6, unassigned),
   (0xEA7, letter), (0xEB1, nonspacingMark), (0xEB2, letter), (0xEB4, nonspacingMark),
   (0xEBD, letter), (0xEBE, unassigned), (0xEC0, letter), (0xEC5, unassigned), (0xEC6, letter),
   (0xEC7, unassigned), (0xEC8, nonspacingMark), (0xECF, unassigned), (0xED0, decimalDigit),
   (0xEDA, unassigned), (0xEDC, letter), (0xEE0, unassigned), (0xF00, letter), (0xF01, symbol),
   (0xF04, punctuation), (0xF13, symbol), (0xF14, punctuation)]

/-- The runs from `0xF15` on. -/
def block9 : List (Nat × Category) :=
  [(0xF15, symbol), (0xF18, nonspacingMark), (0xF1A, symbol), (0xF20, decimalDigit),
   (0xF2A, otherNumber), (0xF34, symbol), (0xF35, nonspacingMark), (0xF36, symbol),
   (0xF37, nonspacingMark), (0xF38, symbol), (0xF39, nonspacingMark), (0xF3A, punctuation),
   (0xF3E, spacingMark), (0xF40, letter), (0xF48, unassigned), (0xF49, letter), (0xF6D, unassigned),
   (0xF71, nonspacingMark), (0xF7F, spacingMark), (0xF80, nonspacingMark), (0xF85, punctuation),
   (0xF86, nonspacingMark), (0xF88, letter), (0xF8D, nonspacingMark), (0xF98, unassigned),
   (0xF99, nonspacingMark), (0xFBD, unassigned), (0xFBE, symbol), (0xFC6, nonspacingMark),
   (0xFC7, symbol), (0xFCD, unassigned), (0xFCE, symbol), (0xFD0, punctuation), (0xFD5, symbol),
   (0xFD9, punctuation), (0xFDB, unassigned), (0x1000, letter), (0x102B, spacingMark),
   (0x102D, nonspacingMark), (0x1031, spacingMark), (0x1032, nonspacingMark), (0x1038, spacingMark),
   (0x1039, nonspacingMark), (0x103B, spacingMark), (0x103D, nonspacingMark), (0x103F, letter),
   (0x1040, decimalDigit), (0x104A, punctuation), (0x1050, letter), (0x1056, spacingMark),
   (0x1058, nonspacingMark), (0x105A, letter), (0x105E, nonspacingMark), (0x1061, letter),
   (0x1062, spacingMark), (0x1065, letter), (0x1067, spacingMark), (0x106E, letter),
   (0x1071, nonspacingMark), (0x1075, letter), (0x1082, nonspacingMark), (0x1083, spacingMark),
   (0x1085, nonspacingMark), (0x1087, spacingMark)]

/-- The runs from `0x108D` on. -/
def block10 : List (Nat × Category) :=
  [(0x108D, nonspacingMark), (0x108E, letter), (0x108F, spacingMark), (0x1090, decimalDigit),
   (0x109A, spacingMark), (0x109D, nonspacingMark), (0x109E, symbol), (0x10A0, letter),
   (0x10C6, unassigned), (0x10C7, letter), (0x10C8, unassigned), (0x10CD, letter),
   (0x10CE, unassigned), (0x10D0, letter), (0x10FB, punctuation), (0x10FC, letter),
   (0x1249, unassigned), (0x124A, letter), (0x124E, unassigned), (0x1250, letter),
   (0x1257, unassigned), (0x1258, letter), (0x1259, unassigned), (0x125A, letter),
   (0x125E, unassigned), (0x1260, letter), (0x1289, unassigned), (0x128A, letter),
   (0x128E, unassigned), (0x1290, letter), (0x12B1, unassigned), (0x12B2, letter),
   (0x12B6, unassigned), (0x12B8, letter), (0x12BF, unassigned), (0x12C0, letter),
   (0x12C1, unassigned), (0x12C2, letter), (0x12C6, unassigned), (0x12C8, letter),
   (0x12D7, unassigned), (0x12D8, letter), (0x1311, unassigned), (0x1312, letter),
   (0x1316, unassigned), (0x1318, letter), (0x135B, unassigned), (0x135D, nonspacingMark),
   (0x1360, punctuation), (0x1369, otherNumber), (0x137D, unassigned), (0x1380, letter),
   (0x1390, symbol), (0x139A, unassigned), (0x13A0, letter), (0x13F6, unassigned), (0x13F8, letter),
   (0x13FE, unassigned), (0x1400, punctuation), (0x1401, letter), (0x166D, symbol),
   (0x166E, punctuation), (0x166F, letter), (0x1680, space)]

/-- The runs from `0x1681` on. -/
def block11 : List (Nat × Category) :=
  [(0x1681, letter), (0x169B, punctuation), (0x169D, unassigned), (0x16A0, letter),
   (0x16EB, punctuation), (0x16EE, letterNumber), (0x16F1, letter), (0x16F9, unassigned),
   (0x1700, letter), (0x1712, nonspacingMark), (0x1715, spacingMark), (0x1716, unassigned),
   (0x171F, letter), (0x1732, nonspacingMark), (0x1734, spacingMark), (0x1735, punctuation),
   (0x1737, unassigned), (0x1740, letter), (0x1752, nonspacingMark), (0x1754, unassigned),
   (0x1760, letter), (0x176D, unassigned), (0x176E, letter), (0x1771, unassigned),
   (0x1772, nonspacingMark), (0x1774, unassigned), (0x1780, letter), (0x17B4, nonspacingMark),
   (0x17B6, spacingMark), (0x17B7, nonspacingMark), (0x17BE, spacingMark), (0x17C6, nonspacingMark),
   (0x17C7, spacingMark), (0x17C9, nonspacingMark), (0x17D4, punctuation), (0x17D7, letter),
   (0x17D8, punctuation), (0x17DB, symbol), (0x17DC, letter), (0x17DD, nonspacingMark),
   (0x17DE, unassigned), (0x17E0, decimalDigit), (0x17EA, unassigned), (0x17F0, otherNumber),
   (0x17FA, unassigned), (0x1800, punctuation), (0x180B, nonspacingMark), (0x180E, format),
   (0x180F, nonspacingMark), (0x1810, decimalDigit), (0x181A, unassigned), (0x1820, letter),
   (0x1879, unassigned), (0x1880, letter), (0x1885, nonspacingMark), (0x1887, letter),
   (0x18A9, nonspacingMark), (0x18AA, letter), (0x18AB, unassigned), (0x18B0, letter),
   (0x18F6, unassigned), (0x1900, letter), (0x191F, unassigned), (0x1920, nonspacingMark)]

/-- The runs from `0x1923` on. -/
def block12 : List (Nat × Category) :=
  [(0x1923, spacingMark), (0x1927, nonspacingMark), (0x1929, spacingMark), (0x192C, unassigned),
   (0x1930, spacingMark), (0x1932, nonspacingMark), (0x1933, spacingMark), (0x1939, nonspacingMark),
   (0x193C, unassigned), (0x1940, symbol), (0x1941, unassigned), (0x1944, punctuation),
   (0x1946, decimalDigit), (0x1950, letter), (0x196E, unassigned), (0x1970, letter),
   (0x1975, unassigned), (0x1980, letter), (0x19AC, unassigned), (0x19B0, letter),
   (0x19CA, unassigned), (0x19D0, decimalDigit), (0x19DA, otherNumber), (0x19DB, unassigned),
   (0x19DE, symbol), (0x1A00, letter), (0x1A17, nonspacingMark), (0x1A19, spacingMark),
   (0x1A1B, nonspacingMark), (0x1A1C, unassigned), (0x1A1E, punctuation), (0x1A20, letter),
   (0x1A55, spacingMark), (0x1A56, nonspacingMark), (0x1A57, spacingMark), (0x1A58, nonspacingMark),
   (0x1A5F, unassigned), (0x1A60, nonspacingMark), (0x1A61, spacingMark), (0x1A62, nonspacingMark),
   (0x1A63, spacingMark), (0x1A65, nonspacingMark), (0x1A6D, spacingMark), (0x1A73, nonspacingMark),
   (0x1A7D, unassigned), (0x1A7F, nonspacingMark), (0x1A80, decimalDigit), (0x1A8A, unassigned),
   (0x1A90, decimalDigit), (0x1A9A, unassigned), (0x1AA0, punctuation), (0x1AA7, letter),
   (0x1AA8, punctuation), (0x1AAE, unassigned), (0x1AB0, nonspacingMark), (0x1ABE, enclosingMark),
   (0x1ABF, nonspacingMark), (0x1ACF, unassigned), (0x1B00, nonspacingMark), (0x1B04, spacingMark),
   (0x1B05, letter), (0x1B34, nonspacingMark), (0x1B35, spacingMark), (0x1B36, nonspacingMark)]

/-- The runs from `0x1B3B` on. -/
def block13 : List (Nat × Category) :=
  [(0x1B3B, spacingMark), (0x1B3C, nonspacingMark), (0x1B3D, spacingMark), (0x1B42, nonspacingMark),
   (0x1B43, spacingMark), (0x1B45, letter), (0x1B4D, unassigned), (0x1B4E, punctuation),
   (0x1B50, decimalDigit), (0x1B5A, punctuation), (0x1B61, symbol), (0x1B6B, nonspacingMark),
   (0x1B74, symbol), (0x1B7D, punctuation), (0x1B80, nonspacingMark), (0x1B82, spacingMark),
   (0x1B83, letter), (0x1BA1, spacingMark), (0x1BA2, nonspacingMark), (0x1BA6, spacingMark),
   (0x1BA8, nonspacingMark), (0x1BAA, spacingMark), (0x1BAB, nonspacingMark), (0x1BAE, letter),
   (0x1BB0, decimalDigit), (0x1BBA, letter), (0x1BE6, nonspacingMark), (0x1BE7, spacingMark),
   (0x1BE8, nonspacingMark), (0x1BEA, spacingMark), (0x1BED, nonspacingMark), (0x1BEE, spacingMark),
   (0x1BEF, nonspacingMark), (0x1BF2, spacingMark), (0x1BF4, unassigned), (0x1BFC, punctuation),
   (0x1C00, letter), (0x1C24, spacingMark), (0x1C2C, nonspacingMark), (0x1C34, spacingMark),
   (0x1C36, nonspacingMark), (0x1C38, unassigned), (0x1C3B, punctuation), (0x1C40, decimalDigit),
   (0x1C4A, unassigned), (0x1C4D, letter), (0x1C50, decimalDigit), (0x1C5A, letter),
   (0x1C7E, punctuation), (0x1C80, letter), (0x1C8B, unassigned), (0x1C90, letter),
   (0x1CBB, unassigned), (0x1CBD, letter), (0x1CC0, punctuation), (0x1CC8, unassigned),
   (0x1CD0, nonspacingMark), (0x1CD3, punctuation), (0x1CD4, nonspacingMark), (0x1CE1, spacingMark),
   (0x1CE2, nonspacingMark), (0x1CE9, letter), (0x1CED, nonspacingMark), (0x1CEE, letter)]

/-- The runs from `0x1CF4` on. -/
def block14 : List (Nat × Category) :=
  [(0x1CF4, nonspacingMark), (0x1CF5, letter), (0x1CF7, spacingMark), (0x1CF8, nonspacingMark),
   (0x1CFA, letter), (0x1CFB, unassigned), (0x1D00, letter), (0x1DC0, nonspacingMark),
   (0x1E00, letter), (0x1F16, unassigned), (0x1F18, letter), (0x1F1E, unassigned), (0x1F20, letter),
   (0x1F46, unassigned), (0x1F48, letter), (0x1F4E, unassigned), (0x1F50, letter),
   (0x1F58, unassigned), (0x1F59, letter), (0x1F5A, unassigned), (0x1F5B, letter),
   (0x1F5C, unassigned), (0x1F5D, letter), (0x1F5E, unassigned), (0x1F5F, letter),
   (0x1F7E, unassigned), (0x1F80, letter), (0x1FB5, unassigned), (0x1FB6, letter), (0x1FBD, symbol),
   (0x1FBE, letter), (0x1FBF, symbol), (0x1FC2, letter), (0x1FC5, unassigned), (0x1FC6, letter),
   (0x1FCD, symbol), (0x1FD0, letter), (0x1FD4, unassigned), (0x1FD6, letter), (0x1FDC, unassigned),
   (0x1FDD, symbol), (0x1FE0, letter), (0x1FED, symbol), (0x1FF0, unassigned), (0x1FF2, letter),
   (0x1FF5, unassigned), (0x1FF6, letter), (0x1FFD, symbol), (0x1FFF, unassigned), (0x2000, space),
   (0x200B, format), (0x2010, punctuation), (0x2028, lineSeparator), (0x2029, paragraphSeparator),
   (0x202A, format), (0x202F, space), (0x2030, punctuation), (0x203F, connector),
   (0x2041, punctuation), (0x2044, symbol), (0x2045, punctuation), (0x2052, symbol),
   (0x2053, punctuation), (0x2054, connector)]

/-- The runs from `0x2055` on. -/
def block15 : List (Nat × Category) :=
  [(0x2055, punctuation), (0x205F, space), (0x2060, format), (0x2065, unassigned), (0x2066, format),
   (0x2070, otherNumber), (0x2071, letter), (0x2072, unassigned), (0x2074, otherNumber),
   (0x207A, symbol), (0x207D, punctuation), (0x207F, letter), (0x2080, otherNumber),
   (0x208A, symbol), (0x208D, punctuation), (0x208F, unassigned), (0x2090, letter),
   (0x209D, unassigned), (0x20A0, symbol), (0x20C1, unassigned), (0x20D0, nonspacingMark),
   (0x20DD, enclosingMark), (0x20E1, nonspacingMark), (0x20E2, enclosingMark),
   (0x20E5, nonspacingMark), (0x20F1, unassigned), (0x2100, symbol), (0x2102, letter),
   (0x2103, symbol), (0x2107, letter), (0x2108, symbol), (0x210A, letter), (0x2114, symbol),
   (0x2115, letter), (0x2116, symbol), (0x2119, letter), (0x211E, symbol), (0x2124, letter),
   (0x2125, symbol), (0x2126, letter), (0x2127, symbol), (0x2128, letter), (0x2129, symbol),
   (0x212A, letter), (0x212E, symbol), (0x212F, letter), (0x213A, symbol), (0x213C, letter),
   (0x2140, symbol), (0x2145, letter), (0x214A, symbol), (0x214E, letter), (0x214F, symbol),
   (0x2150, otherNumber), (0x2160, letterNumber), (0x2183, letter), (0x2185, letterNumber),
   (0x2189, otherNumber), (0x218A, symbol), (0x218C, unassigned), (0x2190, symbol),
   (0x2308, punctuation), (0x230C, symbol), (0x2329, punctuation)]

/-- The runs from `0x232B` on. -/
def block16 : List (Nat × Category) :=
  [(0x232B, symbol), (0x242A, unassigned), (0x2440, symbol), (0x244B, unassigned),
   (0x2460, otherNumber), (0x249C, symbol), (0x24EA, otherNumber), (0x2500, symbol),
   (0x2768, punctuation), (0x2776, otherNumber), (0x2794, symbol), (0x27C5, punctuation),
   (0x27C7, symbol), (0x27E6, punctuation), (0x27F0, symbol), (0x2983, punctuation),
   (0x2999, symbol), (0x29D8, punctuation), (0x29DC, symbol), (0x29FC, punctuation),
   (0x29FE, symbol), (0x2B74, unassigned), (0x2B76, symbol), (0x2B96, unassigned), (0x2B97, symbol),
   (0x2C00, letter), (0x2CE5, symbol), (0x2CEB, letter), (0x2CEF, nonspacingMark), (0x2CF2, letter),
   (0x2CF4, unassigned), (0x2CF9, punctuation), (0x2CFD, otherNumber), (0x2CFE, punctuation),
   (0x2D00, letter), (0x2D26, unassigned), (0x2D27, letter), (0x2D28, unassigned), (0x2D2D, letter),
   (0x2D2E, unassigned), (0x2D30, letter), (0x2D68, unassigned), (0x2D6F, letter),
   (0x2D70, punctuation), (0x2D71, unassigned), (0x2D7F, nonspacingMark), (0x2D80, letter),
   (0x2D97, unassigned), (0x2DA0, letter), (0x2DA7, unassigned), (0x2DA8, letter),
   (0x2DAF, unassigned), (0x2DB0, letter), (0x2DB7, unassigned), (0x2DB8, letter),
   (0x2DBF, unassigned), (0x2DC0, letter), (0x2DC7, unassigned), (0x2DC8, letter),
   (0x2DCF, unassigned), (0x2DD0, letter), (0x2DD7, unassigned), (0x2DD8, letter),
   (0x2DDF, unassigned)]

/-- The runs from `0x2DE0` on. -/
def block17 : List (Nat × Category) :=
  [(0x2DE0, nonspacingMark), (0x2E00, punctuation), (0x2E2F, letter), (0x2E30, punctuation),
   (0x2E50, symbol), (0x2E52, punctuation), (0x2E5E, unassigned), (0x2E80, symbol),
   (0x2E9A, unassigned), (0x2E9B, symbol), (0x2EF4, unassigned), (0x2F00, symbol),
   (0x2FD6, unassigned), (0x2FF0, symbol), (0x3000, space), (0x3001, punctuation), (0x3004, symbol),
   (0x3005, letter), (0x3007, letterNumber), (0x3008, punctuation), (0x3012, symbol),
   (0x3014, punctuation), (0x3020, symbol), (0x3021, letterNumber), (0x302A, nonspacingMark),
   (0x302E, spacingMark), (0x3030, punctuation), (0x3031, letter), (0x3036, symbol),
   (0x3038, letterNumber), (0x303B, letter), (0x303D, punctuation), (0x303E, symbol),
   (0x3040, unassigned), (0x3041, letter), (0x3097, unassigned), (0x3099, nonspacingMark),
   (0x309B, symbol), (0x309D, letter), (0x30A0, punctuation), (0x30A1, letter),
   (0x30FB, punctuation), (0x30FC, letter), (0x3100, unassigned), (0x3105, letter),
   (0x3130, unassigned), (0x3131, letter), (0x318F, unassigned), (0x3190, symbol),
   (0x3192, otherNumber), (0x3196, symbol), (0x31A0, letter), (0x31C0, symbol),
   (0x31E6, unassigned), (0x31EF, symbol), (0x31F0, letter), (0x3200, symbol), (0x321F, unassigned),
   (0x3220, otherNumber), (0x322A, symbol), (0x3248, otherNumber), (0x3250, symbol),
   (0x3251, otherNumber), (0x3260, symbol)]

/-- The runs from `0x3280` on. -/
def block18 : List (Nat × Category) :=
  [(0x3280, otherNumber), (0x328A, symbol), (0x32B1, otherNumber), (0x32C0, symbol),
   (0x3400, letter), (0x4DC0, symbol), (0x4E00, letter), (0xA48D, unassigned), (0xA490, symbol),
   (0xA4C7, unassigned), (0xA4D0, letter), (0xA4FE, punctuation), (0xA500, letter),
   (0xA60D, punctuation), (0xA610, letter), (0xA620, decimalDigit), (0xA62A, letter),
   (0xA62C, unassigned), (0xA640, letter), (0xA66F, nonspacingMark), (0xA670, enclosingMark),
   (0xA673, punctuation), (0xA674, nonspacingMark), (0xA67E, punctuation), (0xA67F, letter),
   (0xA69E, nonspacingMark), (0xA6A0, letter), (0xA6E6, letterNumber), (0xA6F0, nonspacingMark),
   (0xA6F2, punctuation), (0xA6F8, unassigned), (0xA700, symbol), (0xA717, letter),
   (0xA720, symbol), (0xA722, letter), (0xA789, symbol), (0xA78B, letter), (0xA7CE, unassigned),
   (0xA7D0, letter), (0xA7D2, unassigned), (0xA7D3, letter), (0xA7D4, unassigned), (0xA7D5, letter),
   (0xA7DD, unassigned), (0xA7F2, letter), (0xA802, nonspacingMark), (0xA803, letter),
   (0xA806, nonspacingMark), (0xA807, letter), (0xA80B, nonspacingMark), (0xA80C, letter),
   (0xA823, spacingMark), (0xA825, nonspacingMark), (0xA827, spacingMark), (0xA828, symbol),
   (0xA82C, nonspacingMark), (0xA82D, unassigned), (0xA830, otherNumber), (0xA836, symbol),
   (0xA83A, unassigned), (0xA840, letter), (0xA874, punctuation), (0xA878, unassigned),
   (0xA880, spacingMark)]

/-- The runs from `0xA882` on. -/
def block19 : List (Nat × Category) :=
  [(0xA882, letter), (0xA8B4, spacingMark), (0xA8C4, nonspacingMark), (0xA8C6, unassigned),
   (0xA8CE, punctuation), (0xA8D0, decimalDigit), (0xA8DA, unassigned), (0xA8E0, nonspacingMark),
   (0xA8F2, letter), (0xA8F8, punctuation), (0xA8FB, letter), (0xA8FC, punctuation),
   (0xA8FD, letter), (0xA8FF, nonspacingMark), (0xA900, decimalDigit), (0xA90A, letter),
   (0xA926, nonspacingMark), (0xA92E, punctuation), (0xA930, letter), (0xA947, nonspacingMark),
   (0xA952, spacingMark), (0xA954, unassigned), (0xA95F, punctuation), (0xA960, letter),
   (0xA97D, unassigned), (0xA980, nonspacingMark), (0xA983, spacingMark), (0xA984, letter),
   (0xA9B3, nonspacingMark), (0xA9B4, spacingMark), (0xA9B6, nonspacingMark), (0xA9BA, spacingMark),
   (0xA9BC, nonspacingMark), (0xA9BE, spacingMark), (0xA9C1, punctuation), (0xA9CE, unassigned),
   (0xA9CF, letter), (0xA9D0, decimalDigit), (0xA9DA, unassigned), (0xA9DE, punctuation),
   (0xA9E0, letter), (0xA9E5, nonspacingMark), (0xA9E6, letter), (0xA9F0, decimalDigit),
   (0xA9FA, letter), (0xA9FF, unassigned), (0xAA00, letter), (0xAA29, nonspacingMark),
   (0xAA2F, spacingMark), (0xAA31, nonspacingMark), (0xAA33, spacingMark), (0xAA35, nonspacingMark),
   (0xAA37, unassigned), (0xAA40, letter), (0xAA43, nonspacingMark), (0xAA44, letter),
   (0xAA4C, nonspacingMark), (0xAA4D, spacingMark), (0xAA4E, unassigned), (0xAA50, decimalDigit),
   (0xAA5A, unassigned), (0xAA5C, punctuation), (0xAA60, letter), (0xAA77, symbol)]

/-- The runs from `0xAA7A` on. -/
def block20 : List (Nat × Category) :=
  [(0xAA7A, letter), (0xAA7B, spacingMark), (0xAA7C, nonspacingMark), (0xAA7D, spacingMark),
   (0xAA7E, letter), (0xAAB0, nonspacingMark), (0xAAB1, letter), (0xAAB2, nonspacingMark),
   (0xAAB5, letter), (0xAAB7, nonspacingMark), (0xAAB9, letter), (0xAABE, nonspacingMark),
   (0xAAC0, letter), (0xAAC1, nonspacingMark), (0xAAC2, letter), (0xAAC3, unassigned),
   (0xAADB, letter), (0xAADE, punctuation), (0xAAE0, letter), (0xAAEB, spacingMark),
   (0xAAEC, nonspacingMark), (0xAAEE, spacingMark), (0xAAF0, punctuation), (0xAAF2, letter),
   (0xAAF5, spacingMark), (0xAAF6, nonspacingMark), (0xAAF7, unassigned), (0xAB01, letter),
   (0xAB07, unassigned), (0xAB09, letter), (0xAB0F, unassigned), (0xAB11, letter),
   (0xAB17, unassigned), (0xAB20, letter), (0xAB27, unassigned), (0xAB28, letter),
   (0xAB2F, unassigned), (0xAB30, letter), (0xAB5B, symbol), (0xAB5C, letter), (0xAB6A, symbol),
   (0xAB6C, unassigned), (0xAB70, letter), (0xABE3, spacingMark), (0xABE5, nonspacingMark),
   (0xABE6, spacingMark), (0xABE8, nonspacingMark), (0xABE9, spacingMark), (0xABEB, punctuation),
   (0xABEC, spacingMark), (0xABED, nonspacingMark), (0xABEE, unassigned), (0xABF0, decimalDigit),
   (0xABFA, unassigned), (0xAC00, letter), (0xD7A4, unassigned), (0xD7B0, letter),
   (0xD7C7, unassigned), (0xD7CB, letter), (0xD7FC, unassigned), (0xD800, surrogate),
   (0xE000, privateUse), (0xF900, letter), (0xFA6E, unassigned)]

/-- The runs from `0xFA70` on. -/
def block21 : List (Nat × Category) :=
  [(0xFA70, letter), (0xFADA, unassigned), (0xFB00, letter), (0xFB07, unassigned), (0xFB13, letter),
   (0xFB18, unassigned), (0xFB1D, letter), (0xFB1E, nonspacingMark), (0xFB1F, letter),
   (0xFB29, symbol), (0xFB2A, letter), (0xFB37, unassigned), (0xFB38, letter), (0xFB3D, unassigned),
   (0xFB3E, letter), (0xFB3F, unassigned), (0xFB40, letter), (0xFB42, unassigned), (0xFB43, letter),
   (0xFB45, unassigned), (0xFB46, letter), (0xFBB2, symbol), (0xFBC3, unassigned), (0xFBD3, letter),
   (0xFD3E, punctuation), (0xFD40, symbol), (0xFD50, letter), (0xFD90, unassigned),
   (0xFD92, letter), (0xFDC8, unassigned), (0xFDCF, symbol), (0xFDD0, unassigned), (0xFDF0, letter),
   (0xFDFC, symbol), (0xFE00, nonspacingMark), (0xFE10, punctuation), (0xFE1A, unassigned),
   (0xFE20, nonspacingMark), (0xFE30, punctuation), (0xFE33, connector), (0xFE35, punctuation),
   (0xFE4D, connector), (0xFE50, punctuation), (0xFE53, unassigned), (0xFE54, punctuation),
   (0xFE62, symbol), (0xFE63, punctuation), (0xFE64, symbol), (0xFE67, unassigned),
   (0xFE68, punctuation), (0xFE69, symbol), (0xFE6A, punctuation), (0xFE6C, unassigned),
   (0xFE70, letter), (0xFE75, unassigned), (0xFE76, letter), (0xFEFD, unassigned), (0xFEFF, format),
   (0xFF00, unassigned), (0xFF01, punctuation), (0xFF04, symbol), (0xFF05, punctuation),
   (0xFF0B, symbol), (0xFF0C, punctuation)]

/-- The runs from `0xFF10` on. -/
def block22 : List (Nat × Category) :=
  [(0xFF10, decimalDigit), (0xFF1A, punctuation), (0xFF1C, symbol), (0xFF1F, punctuation),
   (0xFF21, letter), (0xFF3B, punctuation), (0xFF3E, symbol), (0xFF3F, connector), (0xFF40, symbol),
   (0xFF41, letter), (0xFF5B, punctuation), (0xFF5C, symbol), (0xFF5D, punctuation),
   (0xFF5E, symbol), (0xFF5F, punctuation), (0xFF66, letter), (0xFFBF, unassigned),
   (0xFFC2, letter), (0xFFC8, unassigned), (0xFFCA, letter), (0xFFD0, unassigned), (0xFFD2, letter),
   (0xFFD8, unassigned), (0xFFDA, letter), (0xFFDD, unassigned), (0xFFE0, symbol),
   (0xFFE7, unassigned), (0xFFE8, symbol), (0xFFEF, unassigned), (0xFFF9, format), (0xFFFC, symbol),
   (0xFFFE, unassigned), (0x10000, letter), (0x1000C, unassigned), (0x1000D, letter),
   (0x10027, unassigned), (0x10028, letter), (0x1003B, unassigned), (0x1003C, letter),
   (0x1003E, unassigned), (0x1003F, letter), (0x1004E, unassigned), (0x10050, letter),
   (0x1005E, unassigned), (0x10080, letter), (0x100FB, unassigned), (0x10100, punctuation),
   (0x10103, unassigned), (0x10107, otherNumber), (0x10134, unassigned), (0x10137, symbol),
   (0x10140, letterNumber), (0x10175, otherNumber), (0x10179, symbol), (0x1018A, otherNumber),
   (0x1018C, symbol), (0x1018F, unassigned), (0x10190, symbol), (0x1019D, unassigned),
   (0x101A0, symbol), (0x101A1, unassigned), (0x101D0, symbol), (0x101FD, nonspacingMark),
   (0x101FE, unassigned)]

/-- The runs from `0x10280` on. -/
def block23 : List (Nat × Category) :=
  [(0x10280, letter), (0x1029D, unassigned), (0x102A0, letter), (0x102D1, unassigned),
   (0x102E0, nonspacingMark), (0x102E1, otherNumber), (0x102FC, unassigned), (0x10300, letter),
   (0x10320, otherNumber), (0x10324, unassigned), (0x1032D, letter), (0x10341, letterNumber),
   (0x10342, letter), (0x1034A, letterNumber), (0x1034B, unassigned), (0x10350, letter),
   (0x10376, nonspacingMark), (0x1037B, unassigned), (0x10380, letter), (0x1039E, unassigned),
   (0x1039F, punctuation), (0x103A0, letter), (0x103C4, unassigned), (0x103C8, letter),
   (0x103D0, punctuation), (0x103D1, letterNumber), (0x103D6, unassigned), (0x10400, letter),
   (0x1049E, unassigned), (0x104A0, decimalDigit), (0x104AA, unassigned), (0x104B0, letter),
   (0x104D4, unassigned), (0x104D8, letter), (0x104FC, unassigned), (0x10500, letter),
   (0x10528, unassigned), (0x10530, letter), (0x10564, unassigned), (0x1056F, punctuation),
   (0x10570, letter), (0x1057B, unassigned), (0x1057C, letter), (0x1058B, unassigned),
   (0x1058C, letter), (0x10593, unassigned), (0x10594, letter), (0x10596, unassigned),
   (0x10597, letter), (0x105A2, unassigned), (0x105A3, letter), (0x105B2, unassigned),
   (0x105B3, letter), (0x105BA, unassigned), (0x105BB, letter), (0x105BD, unassigned),
   (0x105C0, letter), (0x105F4, unassigned), (0x10600, letter), (0x10737, unassigned),
   (0x10740, letter), (0x10756, unassigned), (0x10760, letter), (0x10768, unassigned)]

/-- The runs from `0x10780` on. -/
def block24 : List (Nat × Category) :=
  [(0x10780, letter), (0x10786, unassigned), (0x10787, letter), (0x107B1, unassigned),
   (0x107B2, letter), (0x107BB, unassigned), (0x10800, letter), (0x10806, unassigned),
   (0x10808, letter), (0x10809, unassigned), (0x1080A, letter), (0x10836, unassigned),
   (0x10837, letter), (0x10839, unassigned), (0x1083C, letter), (0x1083D, unassigned),
   (0x1083F, letter), (0x10856, unassigned), (0x10857, punctuation), (0x10858, otherNumber),
   (0x10860, letter), (0x10877, symbol), (0x10879, otherNumber), (0x10880, letter),
   (0x1089F, unassigned), (0x108A7, otherNumber), (0x108B0, unassigned), (0x108E0, letter),
   (0x108F3, unassigned), (0x108F4, letter), (0x108F6, unassigned), (0x108FB, otherNumber),
   (0x10900, letter), (0x10916, otherNumber), (0x1091C, unassigned), (0x1091F, punctuation),
   (0x10920, letter), (0x1093A, unassigned), (0x1093F, punctuation), (0x10940, unassigned),
   (0x10980, letter), (0x109B8, unassigned), (0x109BC, otherNumber), (0x109BE, letter),
   (0x109C0, otherNumber), (0x109D0, unassigned), (0x109D2, otherNumber), (0x10A00, letter),
   (0x10A01, nonspacingMark), (0x10A04, unassigned), (0x10A05, nonspacingMark),
   (0x10A07, unassigned), (0x10A0C, nonspacingMark), (0x10A10, letter), (0x10A14, unassigned),
   (0x10A15, letter), (0x10A18, unassigned), (0x10A19, letter), (0x10A36, unassigned),
   (0x10A38, nonspacingMark), (0x10A3B, unassigned), (0x10A3F, nonspacingMark),
   (0x10A40, otherNumber), (0x10A49, unassigned)]

/-- The runs from `0x10A50` on. -/
def block25 : List (Nat × Category) :=
  [(0x10A50, punctuation), (0x10A59, unassigned), (0x10A60, letter), (0x10A7D, otherNumber),
   (0x10A7F, punctuation), (0x10A80, letter), (0x10A9D, otherNumber), (0x10AA0, unassigned),
   (0x10AC0, letter), (0x10AC8, symbol), (0x10AC9, letter), (0x10AE5, nonspacingMark),
   (0x10AE7, unassigned), (0x10AEB, otherNumber), (0x10AF0, punctuation), (0x10AF7, unassigned),
   (0x10B00, letter), (0x10B36, unassigned), (0x10B39, punctuation), (0x10B40, letter),
   (0x10B56, unassigned), (0x10B58, otherNumber), (0x10B60, letter), (0x10B73, unassigned),
   (0x10B78, otherNumber), (0x10B80, letter), (0x10B92, unassigned), (0x10B99, punctuation),
   (0x10B9D, unassigned), (0x10BA9, otherNumber), (0x10BB0, unassigned), (0x10C00, letter),
   (0x10C49, unassigned), (0x10C80, letter), (0x10CB3, unassigned), (0x10CC0, letter),
   (0x10CF3, unassigned), (0x10CFA, otherNumber), (0x10D00, letter), (0x10D24, nonspacingMark),
   (0x10D28, unassigned), (0x10D30, decimalDigit), (0x10D3A, unassigned), (0x10D40, decimalDigit),
   (0x10D4A, letter), (0x10D66, unassigned), (0x10D69, nonspacingMark), (0x10D6E, punctuation),
   (0x10D6F, letter), (0x10D86, unassigned), (0x10D8E, symbol), (0x10D90, unassigned),
   (0x10E60, otherNumber), (0x10E7F, unassigned), (0x10E80, letter), (0x10EAA, unassigned),
   (0x10EAB, nonspacingMark), (0x10EAD, punctuation), (0x10EAE, unassigned), (0x10EB0, letter),
   (0x10EB2, unassigned), (0x10EC2, letter), (0x10EC5, unassigned), (0x10EFC, nonspacingMark)]

/-- The runs from `0x10F00` on. -/
def block26 : List (Nat × Category) :=
  [(0x10F00, letter), (0x10F1D, otherNumber), (0x10F27, letter), (0x10F28, unassigned),
   (0x10F30, letter), (0x10F46, nonspacingMark), (0x10F51, otherNumber), (0x10F55, punctuation),
   (0x10F5A, unassigned), (0x10F70, letter), (0x10F82, nonspacingMark), (0x10F86, punctuation),
   (0x10F8A, unassigned), (0x10FB0, letter), (0x10FC5, otherNumber), (0x10FCC, unassigned),
   (0x10FE0, letter), (0x10FF7, unassigned), (0x11000, spacingMark), (0x11001, nonspacingMark),
   (0x11002, spacingMark), (0x11003, letter), (0x11038, nonspacingMark), (0x11047, punctuation),
   (0x1104E, unassigned), (0x11052, otherNumber), (0x11066, decimalDigit),
   (0x11070, nonspacingMark), (0x11071, letter), (0x11073, nonspacingMark), (0x11075, letter),
   (0x11076, unassigned), (0x1107F, nonspacingMark), (0x11082, spacingMark), (0x11083, letter),
   (0x110B0, spacingMark), (0x110B3, nonspacingMark), (0x110B7, spacingMark),
   (0x110B9, nonspacingMark), (0x110BB, punctuation), (0x110BD, format), (0x110BE, punctuation),
   (0x110C2, nonspacingMark), (0x110C3, unassigned), (0x110CD, format), (0x110CE, unassigned),
   (0x110D0, letter), (0x110E9, unassigned), (0x110F0, decimalDigit), (0x110FA, unassigned),
   (0x11100, nonspacingMark), (0x11103, letter), (0x11127, nonspacingMark), (0x1112C, spacingMark),
   (0x1112D, nonspacingMark), (0x11135, unassigned), (0x11136, decimalDigit),
   (0x11140, punctuation), (0x11144, letter), (0x11145, spacingMark), (0x11147, letter),
   (0x11148, unassigned), (0x11150, letter), (0x11173, nonspacingMark)]

/-- The runs from `0x11174` on. -/
def block27 : List (Nat × Category) :=
  [(0x11174, punctuation), (0x11176, letter), (0x11177, unassigned), (0x11180, nonspacingMark),
   (0x11182, spacingMark), (0x11183, letter), (0x111B3, spacingMark), (0x111B6, nonspacingMark),
   (0x111BF, spacingMark), (0x111C1, letter), (0x111C5, punctuation), (0x111C9, nonspacingMark),
   (0x111CD, punctuation), (0x111CE, spacingMark), (0x111CF, nonspacingMark),
   (0x111D0, decimalDigit), (0x111DA, letter), (0x111DB, punctuation), (0x111DC, letter),
   (0x111DD, punctuation), (0x111E0, unassigned), (0x111E1, otherNumber), (0x111F5, unassigned),
   (0x11200, letter), (0x11212, unassigned), (0x11213, letter), (0x1122C, spacingMark),
   (0x1122F, nonspacingMark), (0x11232, spacingMark), (0x11234, nonspacingMark),
   (0x11235, spacingMark), (0x11236, nonspacingMark), (0x11238, punctuation),
   (0x1123E, nonspacingMark), (0x1123F, letter), (0x11241, nonspacingMark), (0x11242, unassigned),
   (0x11280, letter), (0x11287, unassigned), (0x11288, letter), (0x11289, unassigned),
   (0x1128A, letter), (0x1128E, unassigned), (0x1128F, letter), (0x1129E, unassigned),
   (0x1129F, letter), (0x112A9, punctuation), (0x112AA, unassigned), (0x112B0, letter),
   (0x112DF, nonspacingMark), (0x112E0, spacingMark), (0x112E3, nonspacingMark),
   (0x112EB, unassigned), (0x112F0, decimalDigit), (0x112FA, unassigned), (0x11300, nonspacingMark),
   (0x11302, spacingMark), (0x11304, unassigned), (0x11305, letter), (0x1130D, unassigned),
   (0x1130F, letter), (0x11311, unassigned), (0x11313, letter), (0x11329, unassigned)]

/-- The runs from `0x1132A` on. -/
def block28 : List (Nat × Category) :=
  [(0x1132A, letter), (0x11331, unassigned), (0x11332, letter), (0x11334, unassigned),
   (0x11335, letter), (0x1133A, unassigned), (0x1133B, nonspacingMark), (0x1133D, letter),
   (0x1133E, spacingMark), (0x11340, nonspacingMark), (0x11341, spacingMark), (0x11345, unassigned),
   (0x11347, spacingMark), (0x11349, unassigned), (0x1134B, spacingMark), (0x1134E, unassigned),
   (0x11350, letter), (0x11351, unassigned), (0x11357, spacingMark), (0x11358, unassigned),
   (0x1135D, letter), (0x11362, spacingMark), (0x11364, unassigned), (0x11366, nonspacingMark),
   (0x1136D, unassigned), (0x11370, nonspacingMark), (0x11375, unassigned), (0x11380, letter),
   (0x1138A, unassigned), (0x1138B, letter), (0x1138C, unassigned), (0x1138E, letter),
   (0x1138F, unassigned), (0x11390, letter), (0x113B6, unassigned), (0x113B7, letter),
   (0x113B8, spacingMark), (0x113BB, nonspacingMark), (0x113C1, unassigned), (0x113C2, spacingMark),
   (0x113C3, unassigned), (0x113C5, spacingMark), (0x113C6, unassigned), (0x113C7, spacingMark),
   (0x113CB, unassigned), (0x113CC, spacingMark), (0x113CE, nonspacingMark), (0x113CF, spacingMark),
   (0x113D0, nonspacingMark), (0x113D1, letter), (0x113D2, nonspacingMark), (0x113D3, letter),
   (0x113D4, punctuation), (0x113D6, unassigned), (0x113D7, punctuation), (0x113D9, unassigned),
   (0x113E1, nonspacingMark), (0x113E3, unassigned), (0x11400, letter), (0x11435, spacingMark),
   (0x11438, nonspacingMark), (0x11440, spacingMark), (0x11442, nonspacingMark),
   (0x11445, spacingMark)]

/-- The runs from `0x11446` on. -/
def block29 : List (Nat × Category) :=
  [(0x11446, nonspacingMark), (0x11447, letter), (0x1144B, punctuation), (0x11450, decimalDigit),
   (0x1145A, punctuation), (0x1145C, unassigned), (0x1145D, punctuation), (0x1145E, nonspacingMark),
   (0x1145F, letter), (0x11462, unassigned), (0x11480, letter), (0x114B0, spacingMark),
   (0x114B3, nonspacingMark), (0x114B9, spacingMark), (0x114BA, nonspacingMark),
   (0x114BB, spacingMark), (0x114BF, nonspacingMark), (0x114C1, spacingMark),
   (0x114C2, nonspacingMark), (0x114C4, letter), (0x114C6, punctuation), (0x114C7, letter),
   (0x114C8, unassigned), (0x114D0, decimalDigit), (0x114DA, unassigned), (0x11580, letter),
   (0x115AF, spacingMark), (0x115B2, nonspacingMark), (0x115B6, unassigned), (0x115B8, spacingMark),
   (0x115BC, nonspacingMark), (0x115BE, spacingMark), (0x115BF, nonspacingMark),
   (0x115C1, punctuation), (0x115D8, letter), (0x115DC, nonspacingMark), (0x115DE, unassigned),
   (0x11600, letter), (0x11630, spacingMark), (0x11633, nonspacingMark), (0x1163B, spacingMark),
   (0x1163D, nonspacingMark), (0x1163E, spacingMark), (0x1163F, nonspacingMark),
   (0x11641, punctuation), (0x11644, letter), (0x11645, unassigned), (0x11650, decimalDigit),
   (0x1165A, unassigned), (0x11660, punctuation), (0x1166D, unassigned), (0x11680, letter),
   (0x116AB, nonspacingMark), (0x116AC, spacingMark), (0x116AD, nonspacingMark),
   (0x116AE, spacingMark), (0x116B0, nonspacingMark), (0x116B6, spacingMark),
   (0x116B7, nonspacingMark), (0x116B8, letter), (0x116B9, punctuation), (0x116BA, unassigned),
   (0x116C0, decimalDigit), (0x116CA, unassigned)]

/-- The runs from `0x116D0` on. -/
def block30 : List (Nat × Category) :=
  [(0x116D0, decimalDigit), (0x116E4, unassigned), (0x11700, letter), (0x1171B, unassigned),
   (0x1171D, nonspacingMark), (0x1171E, spacingMark), (0x1171F, nonspacingMark),
   (0x11720, spacingMark), (0x11722, nonspacingMark), (0x11726, spacingMark),
   (0x11727, nonspacingMark), (0x1172C, unassigned), (0x11730, decimalDigit),
   (0x1173A, otherNumber), (0x1173C, punctuation), (0x1173F, symbol), (0x11740, letter),
   (0x11747, unassigned), (0x11800, letter), (0x1182C, spacingMark), (0x1182F, nonspacingMark),
   (0x11838, spacingMark), (0x11839, nonspacingMark), (0x1183B, punctuation), (0x1183C, unassigned),
   (0x118A0, letter), (0x118E0, decimalDigit), (0x118EA, otherNumber), (0x118F3, unassigned),
   (0x118FF, letter), (0x11907, unassigned), (0x11909, letter), (0x1190A, unassigned),
   (0x1190C, letter), (0x11914, unassigned), (0x11915, letter), (0x11917, unassigned),
   (0x11918, letter), (0x11930, spacingMark), (0x11936, unassigned), (0x11937, spacingMark),
   (0x11939, unassigned), (0x1193B, nonspacingMark), (0x1193D, spacingMark),
   (0x1193E, nonspacingMark), (0x1193F, letter), (0x11940, spacingMark), (0x11941, letter),
   (0x11942, spacingMark), (0x11943, nonspacingMark), (0x11944, punctuation), (0x11947, unassigned),
   (0x11950, decimalDigit), (0x1195A, unassigned), (0x119A0, letter), (0x119A8, unassigned),
   (0x119AA, letter), (0x119D1, spacingMark), (0x119D4, nonspacingMark), (0x119D8, unassigned),
   (0x119DA, nonspacingMark), (0x119DC, spacingMark), (0x119E0, nonspacingMark), (0x119E1, letter)]

/-- The runs from `0x119E2` on. -/
def block31 : List (Nat × Category) :=
  [(0x119E2, punctuation), (0x119E3, letter), (0x119E4, spacingMark), (0x119E5, unassigned),
   (0x11A00, letter), (0x11A01, nonspacingMark), (0x11A0B, letter), (0x11A33, nonspacingMark),
   (0x11A39, spacingMark), (0x11A3A, letter), (0x11A3B, nonspacingMark), (0x11A3F, punctuation),
   (0x11A47, nonspacingMark), (0x11A48, unassigned), (0x11A50, letter), (0x11A51, nonspacingMark),
   (0x11A57, spacingMark), (0x11A59, nonspacingMark), (0x11A5C, letter), (0x11A8A, nonspacingMark),
   (0x11A97, spacingMark), (0x11A98, nonspacingMark), (0x11A9A, punctuation), (0x11A9D, letter),
   (0x11A9E, punctuation), (0x11AA3, unassigned), (0x11AB0, letter), (0x11AF9, unassigned),
   (0x11B00, punctuation), (0x11B0A, unassigned), (0x11BC0, letter), (0x11BE1, punctuation),
   (0x11BE2, unassigned), (0x11BF0, decimalDigit), (0x11BFA, unassigned), (0x11C00, letter),
   (0x11C09, unassigned), (0x11C0A, letter), (0x11C2F, spacingMark), (0x11C30, nonspacingMark),
   (0x11C37, unassigned), (0x11C38, nonspacingMark), (0x11C3E, spacingMark),
   (0x11C3F, nonspacingMark), (0x11C40, letter), (0x11C41, punctuation), (0x11C46, unassigned),
   (0x11C50, decimalDigit), (0x11C5A, otherNumber), (0x11C6D, unassigned), (0x11C70, punctuation),
   (0x11C72, letter), (0x11C90, unassigned), (0x11C92, nonspacingMark), (0x11CA8, unassigned),
   (0x11CA9, spacingMark), (0x11CAA, nonspacingMark), (0x11CB1, spacingMark),
   (0x11CB2, nonspacingMark), (0x11CB4, spacingMark), (0x11CB5, nonspacingMark),
   (0x11CB7, unassigned), (0x11D00, letter), (0x11D07, unassigned)]

/-- The runs from `0x11D08` on. -/
def block32 : List (Nat × Category) :=
  [(0x11D08, letter), (0x11D0A, unassigned), (0x11D0B, letter), (0x11D31, nonspacingMark),
   (0x11D37, unassigned), (0x11D3A, nonspacingMark), (0x11D3B, unassigned),
   (0x11D3C, nonspacingMark), (0x11D3E, unassigned), (0x11D3F, nonspacingMark), (0x11D46, letter),
   (0x11D47, nonspacingMark), (0x11D48, unassigned), (0x11D50, decimalDigit), (0x11D5A, unassigned),
   (0x11D60, letter), (0x11D66, unassigned), (0x11D67, letter), (0x11D69, unassigned),
   (0x11D6A, letter), (0x11D8A, spacingMark), (0x11D8F, unassigned), (0x11D90, nonspacingMark),
   (0x11D92, unassigned), (0x11D93, spacingMark), (0x11D95, nonspacingMark), (0x11D96, spacingMark),
   (0x11D97, nonspacingMark), (0x11D98, letter), (0x11D99, unassigned), (0x11DA0, decimalDigit),
   (0x11DAA, unassigned), (0x11EE0, letter), (0x11EF3, nonspacingMark), (0x11EF5, spacingMark),
   (0x11EF7, punctuation), (0x11EF9, unassigned), (0x11F00, nonspacingMark), (0x11F02, letter),
   (0x11F03, spacingMark), (0x11F04, letter), (0x11F11, unassigned), (0x11F12, letter),
   (0x11F34, spacingMark), (0x11F36, nonspacingMark), (0x11F3B, unassigned), (0x11F3E, spacingMark),
   (0x11F40, nonspacingMark), (0x11F41, spacingMark), (0x11F42, nonspacingMark),
   (0x11F43, punctuation), (0x11F50, decimalDigit), (0x11F5A, nonspacingMark),
   (0x11F5B, unassigned), (0x11FB0, letter), (0x11FB1, unassigned), (0x11FC0, otherNumber),
   (0x11FD5, symbol), (0x11FF2, unassigned), (0x11FFF, punctuation), (0x12000, letter),
   (0x1239A, unassigned), (0x12400, letterNumber), (0x1246F, unassigned)]

/-- The runs from `0x12470` on. -/
def block33 : List (Nat × Category) :=
  [(0x12470, punctuation), (0x12475, unassigned), (0x12480, letter), (0x12544, unassigned),
   (0x12F90, letter), (0x12FF1, punctuation), (0x12FF3, unassigned), (0x13000, letter),
   (0x13430, format), (0x13440, nonspacingMark), (0x13441, letter), (0x13447, nonspacingMark),
   (0x13456, unassigned), (0x13460, letter), (0x143FB, unassigned), (0x14400, letter),
   (0x14647, unassigned), (0x16100, letter), (0x1611E, nonspacingMark), (0x1612A, spacingMark),
   (0x1612D, nonspacingMark), (0x16130, decimalDigit), (0x1613A, unassigned), (0x16800, letter),
   (0x16A39, unassigned), (0x16A40, letter), (0x16A5F, unassigned), (0x16A60, decimalDigit),
   (0x16A6A, unassigned), (0x16A6E, punctuation), (0x16A70, letter), (0x16ABF, unassigned),
   (0x16AC0, decimalDigit), (0x16ACA, unassigned), (0x16AD0, letter), (0x16AEE, unassigned),
   (0x16AF0, nonspacingMark), (0x16AF5, punctuation), (0x16AF6, unassigned), (0x16B00, letter),
   (0x16B30, nonspacingMark), (0x16B37, punctuation), (0x16B3C, symbol), (0x16B40, letter),
   (0x16B44, punctuation), (0x16B45, symbol), (0x16B46, unassigned), (0x16B50, decimalDigit),
   (0x16B5A, unassigned), (0x16B5B, otherNumber), (0x16B62, unassigned), (0x16B63, letter),
   (0x16B78, unassigned), (0x16B7D, letter), (0x16B90, unassigned), (0x16D40, letter),
   (0x16D6D, punctuation), (0x16D70, decimalDigit), (0x16D7A, unassigned), (0x16E40, letter),
   (0x16E80, otherNumber), (0x16E97, punctuation), (0x16E9B, unassigned), (0x16F00, letter)]

/-- The runs from `0x16F4B` on. -/
def block34 : List (Nat × Category) :=
  [(0x16F4B, unassigned), (0x16F4F, nonspacingMark), (0x16F50, letter), (0x16F51, spacingMark),
   (0x16F88, unassigned), (0x16F8F, nonspacingMark), (0x16F93, letter), (0x16FA0, unassigned),
   (0x16FE0, letter), (0x16FE2, punctuation), (0x16FE3, letter), (0x16FE4, nonspacingMark),
   (0x16FE5, unassigned), (0x16FF0, spacingMark), (0x16FF2, unassigned), (0x17000, letter),
   (0x187F8, unassigned), (0x18800, letter), (0x18CD6, unassigned), (0x18CFF, letter),
   (0x18D09, unassigned), (0x1AFF0, letter), (0x1AFF4, unassigned), (0x1AFF5, letter),
   (0x1AFFC, unassigned), (0x1AFFD, letter), (0x1AFFF, unassigned), (0x1B000, letter),
   (0x1B123, unassigned), (0x1B132, letter), (0x1B133, unassigned), (0x1B150, letter),
   (0x1B153, unassigned), (0x1B155, letter), (0x1B156, unassigned), (0x1B164, letter),
   (0x1B168, unassigned), (0x1B170, letter), (0x1B2FC, unassigned), (0x1BC00, letter),
   (0x1BC6B, unassigned), (0x1BC70, letter), (0x1BC7D, unassigned), (0x1BC80, letter),
   (0x1BC89, unassigned), (0x1BC90, letter), (0x1BC9A, unassigned), (0x1BC9C, symbol),
   (0x1BC9D, nonspacingMark), (0x1BC9F, punctuation), (0x1BCA0, format), (0x1BCA4, unassigned),
   (0x1CC00, symbol), (0x1CCF0, decimalDigit), (0x1CCFA, unassigned), (0x1CD00, symbol),
   (0x1CEB4, unassigned), (0x1CF00, nonspacingMark), (0x1CF2E, unassigned),
   (0x1CF30, nonspacingMark), (0x1CF47, unassigned), (0x1CF50, symbol), (0x1CFC4, unassigned),
   (0x1D000, symbol)]

/-- The runs from `0x1D0F6` on. -/
def block35 : List (Nat × Category) :=
  [(0x1D0F6, unassigned), (0x1D100, symbol), (0x1D127, unassigned), (0x1D129, symbol),
   (0x1D165, spacingMark), (0x1D167, nonspacingMark), (0x1D16A, symbol), (0x1D16D, spacingMark),
   (0x1D173, format), (0x1D17B, nonspacingMark), (0x1D183, symbol), (0x1D185, nonspacingMark),
   (0x1D18C, symbol), (0x1D1AA, nonspacingMark), (0x1D1AE, symbol), (0x1D1EB, unassigned),
   (0x1D200, symbol), (0x1D242, nonspacingMark), (0x1D245, symbol), (0x1D246, unassigned),
   (0x1D2C0, otherNumber), (0x1D2D4, unassigned), (0x1D2E0, otherNumber), (0x1D2F4, unassigned),
   (0x1D300, symbol), (0x1D357, unassigned), (0x1D360, otherNumber), (0x1D379, unassigned),
   (0x1D400, letter), (0x1D455, unassigned), (0x1D456, letter), (0x1D49D, unassigned),
   (0x1D49E, letter), (0x1D4A0, unassigned), (0x1D4A2, letter), (0x1D4A3, unassigned),
   (0x1D4A5, letter), (0x1D4A7, unassigned), (0x1D4A9, letter), (0x1D4AD, unassigned),
   (0x1D4AE, letter), (0x1D4BA, unassigned), (0x1D4BB, letter), (0x1D4BC, unassigned),
   (0x1D4BD, letter), (0x1D4C4, unassigned), (0x1D4C5, letter), (0x1D506, unassigned),
   (0x1D507, letter), (0x1D50B, unassigned), (0x1D50D, letter), (0x1D515, unassigned),
   (0x1D516, letter), (0x1D51D, unassigned), (0x1D51E, letter), (0x1D53A, unassigned),
   (0x1D53B, letter), (0x1D53F, unassigned), (0x1D540, letter), (0x1D545, unassigned),
   (0x1D546, letter), (0x1D547, unassigned), (0x1D54A, letter), (0x1D551, unassigned)]

/-- The runs from `0x1D552` on. -/
def block36 : List (Nat × Category) :=
  [(0x1D552, letter), (0x1D6A6, unassigned), (0x1D6A8, letter), (0x1D6C1, symbol),
   (0x1D6C2, letter), (0x1D6DB, symbol), (0x1D6DC, letter), (0x1D6FB, symbol), (0x1D6FC, letter),
   (0x1D715, symbol), (0x1D716, letter), (0x1D735, symbol), (0x1D736, letter), (0x1D74F, symbol),
   (0x1D750, letter), (0x1D76F, symbol), (0x1D770, letter), (0x1D789, symbol), (0x1D78A, letter),
   (0x1D7A9, symbol), (0x1D7AA, letter), (0x1D7C3, symbol), (0x1D7C4, letter),
   (0x1D7CC, unassigned), (0x1D7CE, decimalDigit), (0x1D800, symbol), (0x1DA00, nonspacingMark),
   (0x1DA37, symbol), (0x1DA3B, nonspacingMark), (0x1DA6D, symbol), (0x1DA75, nonspacingMark),
   (0x1DA76, symbol), (0x1DA84, nonspacingMark), (0x1DA85, symbol), (0x1DA87, punctuation),
   (0x1DA8C, unassigned), (0x1DA9B, nonspacingMark), (0x1DAA0, unassigned),
   (0x1DAA1, nonspacingMark), (0x1DAB0, unassigned), (0x1DF00, letter), (0x1DF1F, unassigned),
   (0x1DF25, letter), (0x1DF2B, unassigned), (0x1E000, nonspacingMark), (0x1E007, unassigned),
   (0x1E008, nonspacingMark), (0x1E019, unassigned), (0x1E01B, nonspacingMark),
   (0x1E022, unassigned), (0x1E023, nonspacingMark), (0x1E025, unassigned),
   (0x1E026, nonspacingMark), (0x1E02B, unassigned), (0x1E030, letter), (0x1E06E, unassigned),
   (0x1E08F, nonspacingMark), (0x1E090, unassigned), (0x1E100, letter), (0x1E12D, unassigned),
   (0x1E130, nonspacingMark), (0x1E137, letter), (0x1E13E, unassigned), (0x1E140, decimalDigit)]

/-- The runs from `0x1E14A` on. -/
def block37 : List (Nat × Category) :=
  [(0x1E14A, unassigned), (0x1E14E, letter), (0x1E14F, symbol), (0x1E150, unassigned),
   (0x1E290, letter), (0x1E2AE, nonspacingMark), (0x1E2AF, unassigned), (0x1E2C0, letter),
   (0x1E2EC, nonspacingMark), (0x1E2F0, decimalDigit), (0x1E2FA, unassigned), (0x1E2FF, symbol),
   (0x1E300, unassigned), (0x1E4D0, letter), (0x1E4EC, nonspacingMark), (0x1E4F0, decimalDigit),
   (0x1E4FA, unassigned), (0x1E5D0, letter), (0x1E5EE, nonspacingMark), (0x1E5F0, letter),
   (0x1E5F1, decimalDigit), (0x1E5FB, unassigned), (0x1E5FF, punctuation), (0x1E600, unassigned),
   (0x1E7E0, letter), (0x1E7E7, unassigned), (0x1E7E8, letter), (0x1E7EC, unassigned),
   (0x1E7ED, letter), (0x1E7EF, unassigned), (0x1E7F0, letter), (0x1E7FF, unassigned),
   (0x1E800, letter), (0x1E8C5, unassigned), (0x1E8C7, otherNumber), (0x1E8D0, nonspacingMark),
   (0x1E8D7, unassigned), (0x1E900, letter), (0x1E944, nonspacingMark), (0x1E94B, letter),
   (0x1E94C, unassigned), (0x1E950, decimalDigit), (0x1E95A, unassigned), (0x1E95E, punctuation),
   (0x1E960, unassigned), (0x1EC71, otherNumber), (0x1ECAC, symbol), (0x1ECAD, otherNumber),
   (0x1ECB0, symbol), (0x1ECB1, otherNumber), (0x1ECB5, unassigned), (0x1ED01, otherNumber),
   (0x1ED2E, symbol), (0x1ED2F, otherNumber), (0x1ED3E, unassigned), (0x1EE00, letter),
   (0x1EE04, unassigned), (0x1EE05, letter), (0x1EE20, unassigned), (0x1EE21, letter),
   (0x1EE23, unassigned), (0x1EE24, letter), (0x1EE25, unassigned), (0x1EE27, letter)]

/-- The runs from `0x1EE28` on. -/
def block38 : List (Nat × Category) :=
  [(0x1EE28, unassigned), (0x1EE29, letter), (0x1EE33, unassigned), (0x1EE34, letter),
   (0x1EE38, unassigned), (0x1EE39, letter), (0x1EE3A, unassigned), (0x1EE3B, letter),
   (0x1EE3C, unassigned), (0x1EE42, letter), (0x1EE43, unassigned), (0x1EE47, letter),
   (0x1EE48, unassigned), (0x1EE49, letter), (0x1EE4A, unassigned), (0x1EE4B, letter),
   (0x1EE4C, unassigned), (0x1EE4D, letter), (0x1EE50, unassigned), (0x1EE51, letter),
   (0x1EE53, unassigned), (0x1EE54, letter), (0x1EE55, unassigned), (0x1EE57, letter),
   (0x1EE58, unassigned), (0x1EE59, letter), (0x1EE5A, unassigned), (0x1EE5B, letter),
   (0x1EE5C, unassigned), (0x1EE5D, letter), (0x1EE5E, unassigned), (0x1EE5F, letter),
   (0x1EE60, unassigned), (0x1EE61, letter), (0x1EE63, unassigned), (0x1EE64, letter),
   (0x1EE65, unassigned), (0x1EE67, letter), (0x1EE6B, unassigned), (0x1EE6C, letter),
   (0x1EE73, unassigned), (0x1EE74, letter), (0x1EE78, unassigned), (0x1EE79, letter),
   (0x1EE7D, unassigned), (0x1EE7E, letter), (0x1EE7F, unassigned), (0x1EE80, letter),
   (0x1EE8A, unassigned), (0x1EE8B, letter), (0x1EE9C, unassigned), (0x1EEA1, letter),
   (0x1EEA4, unassigned), (0x1EEA5, letter), (0x1EEAA, unassigned), (0x1EEAB, letter),
   (0x1EEBC, unassigned), (0x1EEF0, symbol), (0x1EEF2, unassigned), (0x1F000, symbol),
   (0x1F02C, unassigned), (0x1F030, symbol), (0x1F094, unassigned), (0x1F0A0, symbol)]

/-- The runs from `0x1F0AF` on. -/
def block39 : List (Nat × Category) :=
  [(0x1F0AF, unassigned), (0x1F0B1, symbol), (0x1F0C0, unassigned), (0x1F0C1, symbol),
   (0x1F0D0, unassigned), (0x1F0D1, symbol), (0x1F0F6, unassigned), (0x1F100, otherNumber),
   (0x1F10D, symbol), (0x1F1AE, unassigned), (0x1F1E6, symbol), (0x1F203, unassigned),
   (0x1F210, symbol), (0x1F23C, unassigned), (0x1F240, symbol), (0x1F249, unassigned),
   (0x1F250, symbol), (0x1F252, unassigned), (0x1F260, symbol), (0x1F266, unassigned),
   (0x1F300, symbol), (0x1F6D8, unassigned), (0x1F6DC, symbol), (0x1F6ED, unassigned),
   (0x1F6F0, symbol), (0x1F6FD, unassigned), (0x1F700, symbol), (0x1F777, unassigned),
   (0x1F77B, symbol), (0x1F7DA, unassigned), (0x1F7E0, symbol), (0x1F7EC, unassigned),
   (0x1F7F0, symbol), (0x1F7F1, unassigned), (0x1F800, symbol), (0x1F80C, unassigned),
   (0x1F810, symbol), (0x1F848, unassigned), (0x1F850, symbol), (0x1F85A, unassigned),
   (0x1F860, symbol), (0x1F888, unassigned), (0x1F890, symbol), (0x1F8AE, unassigned),
   (0x1F8B0, symbol), (0x1F8BC, unassigned), (0x1F8C0, symbol), (0x1F8C2, unassigned),
   (0x1F900, symbol), (0x1FA54, unassigned), (0x1FA60, symbol), (0x1FA6E, unassigned),
   (0x1FA70, symbol), (0x1FA7D, unassigned), (0x1FA80, symbol), (0x1FA8A, unassigned),
   (0x1FA8F, symbol), (0x1FAC7, unassigned), (0x1FACE, symbol), (0x1FADD, unassigned),
   (0x1FADF, symbol), (0x1FAEA, unassigned), (0x1FAF0, symbol), (0x1FAF9, unassigned)]

/-- The runs from `0x1FB00` on. -/
def block40 : List (Nat × Category) :=
  [(0x1FB00, symbol), (0x1FB93, unassigned), (0x1FB94, symbol), (0x1FBF0, decimalDigit),
   (0x1FBFA, unassigned), (0x20000, letter), (0x2A6E0, unassigned), (0x2A700, letter),
   (0x2B73A, unassigned), (0x2B740, letter), (0x2B81E, unassigned), (0x2B820, letter),
   (0x2CEA2, unassigned), (0x2CEB0, letter), (0x2EBE1, unassigned), (0x2EBF0, letter),
   (0x2EE5E, unassigned), (0x2F800, letter), (0x2FA1E, unassigned), (0x30000, letter),
   (0x3134B, unassigned), (0x31350, letter), (0x323B0, unassigned), (0xE0001, format),
   (0xE0002, unassigned), (0xE0020, format), (0xE0080, unassigned), (0xE0100, nonspacingMark),
   (0xE01F0, unassigned), (0xF0000, privateUse), (0xFFFFE, unassigned), (0x100000, privateUse),
   (0x10FFFE, unassigned)]

/-- The blocks, each under its first start. -/
def blocks : List (Nat × List (Nat × Category)) :=
  [(0x0, block0), (0x380, block1), (0x6DF, block2), (0x93B, block3), (0xA11, block4),
   (0xAF0, block5), (0xBAB, block6), (0xCAA, block7), (0xDB2, block8), (0xF15, block9),
   (0x108D, block10), (0x1681, block11), (0x1923, block12), (0x1B3B, block13), (0x1CF4, block14),
   (0x2055, block15), (0x232B, block16), (0x2DE0, block17), (0x3280, block18), (0xA882, block19),
   (0xAA7A, block20), (0xFA70, block21), (0xFF10, block22), (0x10280, block23), (0x10780, block24),
   (0x10A50, block25), (0x10F00, block26), (0x11174, block27), (0x1132A, block28),
   (0x11446, block29), (0x116D0, block30), (0x119E2, block31), (0x11D08, block32),
   (0x12470, block33), (0x16F4B, block34), (0x1D0F6, block35), (0x1D552, block36),
   (0x1E14A, block37), (0x1EE28, block38), (0x1F0AF, block39), (0x1FB00, block40)]

end Locus.Unicode.CategoryTable
