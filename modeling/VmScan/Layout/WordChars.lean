import VmScan.Text.Letter

/-!
# The characters of words

The layout takes more for a word than the names of a script: a word may start with a number sign
or an at sign. Of the other scripts it knows less: the letters of the basic plane that Unicode 6.1
has, and a part of the marks.

* `startsWord` — the characters that a word may start with.
* `continuesWord` — the characters that a word may go on with.
-/

namespace VmScan.Layout

/-- The letters of the basic plane that came into Unicode between versions 6.1 and 15.0. -/
def laterLetters : Text.CharRanges where
  ranges := [
    (0x37f, 0x37f), (0x528, 0x52f), (0x560, 0x560), (0x588, 0x588), (0x5ef, 0x5ef), (0x860, 0x86a),
    (0x870, 0x887), (0x889, 0x88e), (0x8a1, 0x8a1), (0x8ad, 0x8c9), (0x978, 0x978), (0x980, 0x980),
    (0x9fc, 0x9fc), (0xaf9, 0xaf9), (0xc34, 0xc34), (0xc5a, 0xc5a), (0xc5d, 0xc5d), (0xc80, 0xc80),
    (0xcdd, 0xcdd), (0xd04, 0xd04), (0xd54, 0xd56), (0xd5f, 0xd5f), (0xe86, 0xe86), (0xe89, 0xe89),
    (0xe8c, 0xe8c), (0xe8e, 0xe93), (0xe98, 0xe98), (0xea0, 0xea0), (0xea8, 0xea9), (0xeac, 0xeac),
    (0x13f5, 0x13f5), (0x13f8, 0x13fd), (0x16f1, 0x16f8), (0x170d, 0x170d), (0x171f, 0x171f),
    (0x1878, 0x1878), (0x191d, 0x191e), (0x1b4c, 0x1b4c), (0x1c80, 0x1c88), (0x1c90, 0x1cba),
    (0x1cbd, 0x1cbf), (0x1cfa, 0x1cfa), (0x2c2f, 0x2c2f), (0x2c5f, 0x2c5f), (0x312e, 0x312f),
    (0x31bb, 0x31bf), (0x4db6, 0x4dbf), (0x9fcd, 0x9fff), (0xa698, 0xa69d), (0xa78f, 0xa78f),
    (0xa794, 0xa79f), (0xa7ab, 0xa7ca), (0xa7d0, 0xa7d1), (0xa7d3, 0xa7d3), (0xa7d5, 0xa7d9),
    (0xa7f2, 0xa7f7), (0xa8fd, 0xa8fe), (0xa9e0, 0xa9e4), (0xa9e6, 0xa9ef), (0xa9fa, 0xa9fe),
    (0xaa7e, 0xaa7f), (0xab30, 0xab5a), (0xab5c, 0xab69), (0xab70, 0xabbf)]

/-- The marks, digits and connectors outside of ASCII that a word may go on with. -/
def wordMarks : Text.CharRanges where
  ranges := [
    (0x300, 0x36f), (0x483, 0x487), (0x591, 0x5bd), (0x5bf, 0x5bf), (0x5c1, 0x5c2), (0x5c4, 0x5c5),
    (0x5c7, 0x5c7), (0x610, 0x61a), (0x6e7, 0x6e8), (0x730, 0x74a), (0x81b, 0x823), (0x825, 0x827),
    (0x829, 0x82d), (0x8e4, 0x8fe), (0x900, 0x903), (0x93a, 0x93c), (0x93e, 0x94f), (0x951, 0x957),
    (0x962, 0x963), (0x966, 0x96f), (0x981, 0x983), (0x9bc, 0x9bc), (0x9be, 0x9c4), (0x9c7, 0x9c8),
    (0x9d7, 0x9d7), (0xa01, 0xa03), (0xa3c, 0xa3c), (0xa3e, 0xa42), (0xa47, 0xa48), (0xa4b, 0xa4d),
    (0xa51, 0xa51), (0xa66, 0xa71), (0xa75, 0xa75), (0xa81, 0xa83), (0xabc, 0xabc), (0xabe, 0xac5),
    (0xac7, 0xac9), (0xacb, 0xacd), (0xae2, 0xae3), (0xae6, 0xaef), (0xb01, 0xb03), (0xb3c, 0xb3c),
    (0xb3e, 0xb44), (0xb47, 0xb48), (0xb4b, 0xb4d), (0xb56, 0xb57), (0xb66, 0xb6f), (0xb82, 0xb82),
    (0xbbe, 0xbc2), (0xbc6, 0xbc8), (0xbca, 0xbcd), (0xbd7, 0xbd7), (0xbe6, 0xbef), (0xc01, 0xc03),
    (0xc46, 0xc48), (0xc4a, 0xc4d), (0xc55, 0xc56), (0xc62, 0xc63), (0xc66, 0xc6f), (0xc82, 0xc83),
    (0xcbc, 0xcbc), (0xcbe, 0xcc4), (0xcc6, 0xcc8), (0xcca, 0xccd), (0xcd5, 0xcd6), (0xce2, 0xce3),
    (0xce6, 0xcef), (0xd02, 0xd03), (0xd46, 0xd48), (0xd57, 0xd57), (0xd62, 0xd63), (0xd66, 0xd6f),
    (0xd82, 0xd83), (0xdca, 0xdca), (0xdcf, 0xdd4), (0xdd6, 0xdd6), (0xdd8, 0xddf), (0xdf2, 0xdf3),
    (0xe34, 0xe3a), (0xe50, 0xe59), (0xeb4, 0xeb9), (0xec8, 0xecd), (0xed0, 0xed9), (0xf18, 0xf19),
    (0xf20, 0xf29), (0xf35, 0xf35), (0xf37, 0xf37), (0xf39, 0xf39), (0xf71, 0xf84), (0xf86, 0xf87),
    (0xf8d, 0xf97), (0xf99, 0xfbc), (0xfc6, 0xfc6), (0x1040, 0x1049), (0x1067, 0x106d),
    (0x1071, 0x1074), (0x1082, 0x108d), (0x108f, 0x109d), (0x135d, 0x135f), (0x1772, 0x1773),
    (0x17dd, 0x17dd), (0x17e0, 0x17e9), (0x180b, 0x180d), (0x1810, 0x1819), (0x1920, 0x192b),
    (0x1930, 0x193b), (0x19d0, 0x19d9), (0x1a60, 0x1a7c), (0x1a7f, 0x1a89), (0x1a90, 0x1a99),
    (0x1b50, 0x1b59), (0x1b6b, 0x1b73), (0x1bb0, 0x1bb9), (0x1be6, 0x1bf3), (0x1c40, 0x1c49),
    (0x1cd0, 0x1cd2), (0x200c, 0x200d), (0x203f, 0x2040), (0x2054, 0x2054), (0x20d0, 0x20dc),
    (0x20e1, 0x20e1), (0x20e5, 0x20f0), (0x2de0, 0x2dff), (0x3099, 0x309a), (0xa674, 0xa67d),
    (0xa69f, 0xa69f), (0xa6f0, 0xa6f1), (0xa806, 0xa806), (0xa80b, 0xa80b), (0xa823, 0xa827),
    (0xa880, 0xa881), (0xa8b4, 0xa8c4), (0xa8d0, 0xa8d9), (0xa900, 0xa909), (0xa926, 0xa92d),
    (0xa980, 0xa983), (0xa9b3, 0xa9c0), (0xaa4c, 0xaa4d), (0xaa50, 0xaa59), (0xaa7b, 0xaa7b),
    (0xabec, 0xabed), (0xabf0, 0xabf9), (0xfe00, 0xfe0f), (0xfe20, 0xfe26), (0xfe33, 0xfe34),
    (0xfe4d, 0xfe4f), (0xff10, 0xff19), (0xff3f, 0xff3f)]

/-- Whether the character is a letter of the basic plane outside of ASCII that has long been in
Unicode. -/
def isWideLetter (c : Char) : Bool :=
  0x80 ≤ c.toNat && c.toNat < 0x10000 && Text.letters.contains c && !laterLetters.contains c

/-- Whether the character is an ASCII letter, a low line or a dollar sign. -/
def isPlainLetter (c : Char) : Bool :=
  c.isAlpha || c = '_' || c = '$'

/-- Whether a word may start with the character. -/
def startsWord (c : Char) : Bool :=
  isPlainLetter c || c = '#' || c = '@' || isWideLetter c

/-- Whether a word may go on with the character. -/
def continuesWord (c : Char) : Bool :=
  isPlainLetter c || c.isDigit || isWideLetter c || wordMarks.contains c

end VmScan.Layout
