import GraphClient.Text.CharSet

/-!
How letters stand beside each other. Letters have a direction of their own, digits and signs are
placed by what stands around them, and some letters change their form to join a neighbour, from which
marks do not keep them apart. The tables tell apart the characters of lower-case words; capital
letters, blanks and control characters have no entries of their own.
-/

namespace GraphClient.Text

inductive Direction where
  | leftToRight
  | rightToLeft
  | europeanNumber
  | arabicNumber
  | mark
  | neutral
  deriving DecidableEq, Repr

/-- Letters of scripts that are written from right to left. -/
def rightToLeftLetters : CharSet where
  bounds := #[
  0x5be, 0x5bf, 0x5c0, 0x5c1, 0x5c3, 0x5c4, 0x5c6, 0x5c7, 0x5d0, 0x5f5, 0x608, 0x609, 0x60b, 0x60c,
  0x60d, 0x60e, 0x61b, 0x64b, 0x66d, 0x670, 0x671, 0x6d6, 0x6e5, 0x6e7, 0x6ee, 0x6f0, 0x6fa, 0x711,
  0x712, 0x730, 0x74d, 0x7a6, 0x7b1, 0x7eb, 0x7f4, 0x7f6, 0x7fa, 0x7fb, 0x7fe, 0x816, 0x81a, 0x81b,
  0x824, 0x825, 0x828, 0x829, 0x830, 0x859, 0x85e, 0x890, 0x8a0, 0x8ca, 0xfbb2, 0xfbc3, 0xfe73,
  0xfe74, 0x10800, 0x1091c, 0x10920, 0x10a01, 0x10a10, 0x10a36, 0x10a40, 0x10ae5, 0x10aeb, 0x10b36,
  0x10b40, 0x10d24, 0x10d4a, 0x10d50, 0x10d6f, 0x10d90, 0x10e80, 0x10eaa, 0x10ead, 0x10ec8, 0x10f00,
  0x10f46, 0x10f51, 0x10f82, 0x10f86, 0x10ff7, 0x1e800, 0x1e8d0, 0x1e922, 0x1e944, 0x1e94b, 0x1ed3e]

/-- Digits that are written from left to right, also among letters of the other direction. -/
def europeanNumbers : CharSet where
  bounds := #[
  0x30, 0x3a, 0x6f0, 0x6fa, 0x102e1, 0x102fc]

def arabicNumbers : CharSet where
  bounds := #[
  0x660, 0x66a, 0x66b, 0x66d, 0x10d30, 0x10d4a, 0x10e60, 0x10e7f]

def neutrals : CharSet where
  bounds := #[
  0x21, 0x30, 0x3a, 0x41, 0x5b, 0x61, 0x7b, 0xd8, 0xf7, 0xf8, 0x2b9, 0x2bb, 0x2c2, 0x2d0, 0x2d2,
  0x2ee, 0x2ef, 0x300, 0x375, 0x376, 0x3f6, 0x3f7, 0x58a, 0x590, 0x606, 0x608, 0x609, 0x60b, 0x60c,
  0x60d, 0x60e, 0x610, 0x66a, 0x66b, 0x6de, 0x6df, 0x6e9, 0x6ea, 0x7f6, 0x7fa, 0x9f2, 0x9f4, 0x9fb,
  0x9fc, 0xaf1, 0xaf2, 0xbf3, 0xbfb, 0xc78, 0xc7f, 0xe3f, 0xe40, 0xf3a, 0xf3e, 0x1390, 0x139a,
  0x1400, 0x1401, 0x169b, 0x169d, 0x17db, 0x17dc, 0x17f0, 0x180b, 0x1940, 0x1946, 0x19de, 0x1a00,
  0x200c, 0x20c2, 0x2104, 0x214e, 0x218a, 0x2336, 0x237b, 0x2395, 0x2396, 0x26ac, 0x26ad, 0x2800,
  0x2900, 0x2c00, 0x2ce5, 0x2ceb, 0x2cf9, 0x2d00, 0x2e00, 0x3005, 0x3008, 0x3021, 0x3030, 0x3031,
  0x3037, 0x3038, 0x303d, 0x3040, 0x30a0, 0x30a1, 0x30fb, 0x30fc, 0x31c0, 0x31e6, 0x4dc0, 0x4e00,
  0xa490, 0xa4c7, 0xa60d, 0xa610, 0xa673, 0xa674, 0xa67e, 0xa680, 0xa700, 0xa722, 0xa788, 0xa789,
  0xa828, 0xa82c, 0xa838, 0xa83a, 0xa874, 0xa878, 0xab6a, 0xab6c, 0xfbc3, 0xfe00, 0xfe45, 0xfe47,
  0x10101, 0x10102, 0x10140, 0x1018d, 0x10190, 0x101a1, 0x1091f, 0x10920, 0x10b39, 0x10b40, 0x10d6e,
  0x10d6f, 0x10ed0, 0x10ed9, 0x11052, 0x11066, 0x11660, 0x1166d, 0x11fd5, 0x11ff2, 0x16fe2, 0x16fe3,
  0x1cc00, 0x1cef1, 0x1d1e9, 0x1d242, 0x1d245, 0x1d246, 0x1d300, 0x1d357, 0x1e2ff, 0x1e300, 0x1eef0,
  0x1f130, 0x1f16d, 0x1f170, 0x1f1ad, 0x1f1ae, 0x1f260, 0x1fbfb]

/-- Marks that are placed like letters: they are written to the right of what they stand on. -/
def leftToRightMarks : List Nat := [0xcbf, 0xcc6, 0x11a07, 0x11a08, 0x11c3f]

def direction (c : Char) : Direction :=
  if isNonspacingMark c && !leftToRightMarks.contains c.toNat then .mark
  else if rightToLeftLetters.contains c then .rightToLeft
  else if europeanNumbers.contains c then .europeanNumber
  else if arabicNumbers.contains c then .arabicNumber
  else if neutrals.contains c then .neutral
  else .leftToRight

def joiningNext : CharSet where
  bounds := #[
  0x620, 0x621, 0x626, 0x627, 0x628, 0x629, 0x62a, 0x62f, 0x633, 0x640, 0x641, 0x648, 0x649, 0x64b,
  0x66e, 0x670, 0x679, 0x688, 0x69a, 0x6c0, 0x6c1, 0x6c3, 0x6cc, 0x6cd, 0x6ce, 0x6cf, 0x6d0, 0x6d2,
  0x6fa, 0x6fd, 0x6ff, 0x700, 0x712, 0x715, 0x71a, 0x71e, 0x71f, 0x728, 0x729, 0x72a, 0x72b, 0x72c,
  0x72d, 0x72f, 0x74e, 0x759, 0x75c, 0x76b, 0x76d, 0x771, 0x772, 0x773, 0x775, 0x778, 0x77a, 0x780,
  0x7ca, 0x7eb, 0x841, 0x846, 0x848, 0x849, 0x84a, 0x854, 0x855, 0x856, 0x860, 0x861, 0x862, 0x866,
  0x868, 0x869, 0x886, 0x887, 0x889, 0x88e, 0x88f, 0x890, 0x8a0, 0x8aa, 0x8af, 0x8b1, 0x8b3, 0x8b9,
  0x8ba, 0x8c9, 0x1807, 0x1808, 0x1820, 0x1879, 0x1887, 0x18a9, 0x18aa, 0x18ab, 0xa840, 0xa873,
  0x10ac0, 0x10ac5, 0x10acd, 0x10ace, 0x10ad3, 0x10add, 0x10ade, 0x10ae1, 0x10aeb, 0x10aef, 0x10b80,
  0x10b81, 0x10b82, 0x10b83, 0x10b86, 0x10b89, 0x10b8a, 0x10b8c, 0x10b8d, 0x10b8e, 0x10b90, 0x10b91,
  0x10bad, 0x10baf, 0x10d00, 0x10d22, 0x10d23, 0x10d24, 0x10ec3, 0x10ec5, 0x10ec6, 0x10ec8, 0x10f30,
  0x10f33, 0x10f34, 0x10f45, 0x10f51, 0x10f54, 0x10f70, 0x10f74, 0x10f76, 0x10f82, 0x10fb0, 0x10fb1,
  0x10fb2, 0x10fb4, 0x10fb8, 0x10fb9, 0x10fbb, 0x10fbd, 0x10fbe, 0x10fc0, 0x10fc1, 0x10fc2, 0x10fc4,
  0x10fc5, 0x10fca, 0x10fcc, 0x1e922, 0x1e944]

def joiningPrevious : CharSet where
  bounds := #[
  0x620, 0x621, 0x622, 0x640, 0x641, 0x64b, 0x66e, 0x670, 0x671, 0x674, 0x679, 0x6d4, 0x6d5, 0x6d6,
  0x6ee, 0x6f0, 0x6fa, 0x6fd, 0x6ff, 0x700, 0x710, 0x711, 0x712, 0x730, 0x74d, 0x780, 0x7ca, 0x7eb,
  0x840, 0x859, 0x860, 0x861, 0x862, 0x866, 0x867, 0x883, 0x886, 0x887, 0x889, 0x890, 0x8a0, 0x8ad,
  0x8ae, 0x8c9, 0x1807, 0x1808, 0x1820, 0x1879, 0x1887, 0x18a9, 0x18aa, 0x18ab, 0xa840, 0xa872,
  0x10ac0, 0x10ac6, 0x10ac7, 0x10ac8, 0x10ac9, 0x10acb, 0x10ace, 0x10ad7, 0x10ad8, 0x10ae2, 0x10ae4,
  0x10ae5, 0x10aeb, 0x10af0, 0x10b80, 0x10b92, 0x10ba9, 0x10baf, 0x10d01, 0x10d24, 0x10ec2, 0x10ec5,
  0x10ec6, 0x10ec8, 0x10f30, 0x10f45, 0x10f51, 0x10f55, 0x10f70, 0x10f82, 0x10fb0, 0x10fb1, 0x10fb2,
  0x10fb7, 0x10fb8, 0x10fc0, 0x10fc1, 0x10fc5, 0x10fc9, 0x10fcb, 0x1e922, 0x1e944]

def joinsNext (c : Char) : Bool := joiningNext.contains c

def joinsPrevious (c : Char) : Bool := joiningPrevious.contains c

/-- Joining goes through a mark, and through a sign for nasal sounds that counts as a letter. -/
def isTransparent (c : Char) : Bool := isNonspacingMark c || c == Char.ofNat 0x1e94b

end GraphClient.Text
