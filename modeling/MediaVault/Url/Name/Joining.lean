/-
Letters that are joined to those beside them, and the two invisible characters
that join or part them. These may stand in a name only where they change how it
is written: after a sign that takes a vowel away, and the parting one also
between two letters that would join.
-/
import MediaVault.Text.Composed

namespace MediaVault.HostName

/-- How a character is joined to those beside it. -/
inductive Joining where
  | none
  | both
  /-- To the one after it. -/
  | next
  /-- To the one before it. -/
  | previous
  /-- Marks through which others are joined. -/
  | through
  deriving DecidableEq, Repr

/-- The ways of joining in the order of their numbers in the table. -/
def joinings : Array Joining := #[.none, .both, .next, .previous, .through]

/-- The numbers of the ways of joining of the characters that can stand in a name, each with the
code point from which on it holds. -/
def joiningRuns : Array (Nat × Nat) := #[
  (0xa1, 0), (0x300, 4), (0x371, 0), (0x483, 4), (0x48b, 0), (0x591, 4), (0x5be, 0), (0x5bf, 4),
  (0x5c0, 0), (0x5c1, 4), (0x5c3, 0), (0x5c4, 4), (0x5c6, 0), (0x5c7, 4), (0x5d0, 0), (0x610, 4),
  (0x61b, 0), (0x620, 1), (0x621, 0), (0x622, 3), (0x626, 1), (0x627, 3), (0x628, 1), (0x629, 3),
  (0x62a, 1), (0x62f, 3), (0x633, 1), (0x640, 0), (0x641, 1), (0x648, 3), (0x649, 1), (0x64b, 4),
  (0x660, 0), (0x66e, 1), (0x670, 4), (0x671, 3), (0x674, 0), (0x679, 1), (0x688, 3), (0x69a, 1),
  (0x6c0, 3), (0x6c1, 1), (0x6c3, 3), (0x6cc, 1), (0x6cd, 3), (0x6ce, 1), (0x6cf, 3), (0x6d0, 1),
  (0x6d2, 3), (0x6d4, 0), (0x6d5, 3), (0x6d6, 4), (0x6de, 0), (0x6df, 4), (0x6e5, 0), (0x6e7, 4),
  (0x6e9, 0), (0x6ea, 4), (0x6ee, 3), (0x6f0, 0), (0x6fa, 1), (0x6fd, 0), (0x6ff, 1), (0x700, 0),
  (0x710, 3), (0x711, 4), (0x712, 1), (0x715, 3), (0x71a, 1), (0x71e, 3), (0x71f, 1), (0x728, 3),
  (0x729, 1), (0x72a, 3), (0x72b, 1), (0x72c, 3), (0x72d, 1), (0x72f, 3), (0x730, 4), (0x74d, 3),
  (0x74e, 1), (0x759, 3), (0x75c, 1), (0x76b, 3), (0x76d, 1), (0x771, 3), (0x772, 1), (0x773, 3),
  (0x775, 1), (0x778, 3), (0x77a, 1), (0x780, 0), (0x7a6, 4), (0x7b1, 0), (0x7ca, 1), (0x7eb, 4),
  (0x7f4, 0), (0x7fd, 4), (0x7fe, 0), (0x816, 4), (0x81a, 0), (0x81b, 4), (0x824, 0), (0x825, 4),
  (0x828, 0), (0x829, 4), (0x830, 0), (0x840, 3), (0x841, 1), (0x846, 3), (0x848, 1), (0x849, 3),
  (0x84a, 1), (0x854, 3), (0x855, 1), (0x856, 3), (0x859, 4), (0x85e, 0), (0x860, 1), (0x861, 0),
  (0x862, 1), (0x866, 0), (0x867, 3), (0x868, 1), (0x869, 3), (0x883, 0), (0x886, 1), (0x887, 0),
  (0x889, 1), (0x88e, 3), (0x88f, 1), (0x897, 4), (0x8a0, 1), (0x8aa, 3), (0x8ad, 0), (0x8ae, 3),
  (0x8af, 1), (0x8b1, 3), (0x8b3, 1), (0x8b9, 3), (0x8ba, 1), (0x8c9, 0), (0x8ca, 4), (0x903, 0),
  (0x93a, 4), (0x93b, 0), (0x93c, 4), (0x93d, 0), (0x941, 4), (0x949, 0), (0x94d, 4), (0x94e, 0),
  (0x951, 4), (0x960, 0), (0x962, 4), (0x964, 0), (0x981, 4), (0x982, 0), (0x9bc, 4), (0x9bd, 0),
  (0x9c1, 4), (0x9c7, 0), (0x9cd, 4), (0x9ce, 0), (0x9e2, 4), (0x9e6, 0), (0x9fe, 4), (0xa03, 0),
  (0xa3c, 4), (0xa3e, 0), (0xa41, 4), (0xa5c, 0), (0xa70, 4), (0xa72, 0), (0xa75, 4), (0xa76, 0),
  (0xa81, 4), (0xa83, 0), (0xabc, 4), (0xabd, 0), (0xac1, 4), (0xac9, 0), (0xacd, 4), (0xad0, 0),
  (0xae2, 4), (0xae6, 0), (0xafa, 4), (0xb02, 0), (0xb3c, 4), (0xb3d, 0), (0xb3f, 4), (0xb40, 0),
  (0xb41, 4), (0xb47, 0), (0xb4d, 4), (0xb57, 0), (0xb62, 4), (0xb66, 0), (0xb82, 4), (0xb83, 0),
  (0xbc0, 4), (0xbc1, 0), (0xbcd, 4), (0xbd0, 0), (0xc00, 4), (0xc01, 0), (0xc04, 4), (0xc05, 0),
  (0xc3c, 4), (0xc3d, 0), (0xc3e, 4), (0xc41, 0), (0xc46, 4), (0xc58, 0), (0xc62, 4), (0xc66, 0),
  (0xc81, 4), (0xc82, 0), (0xcbc, 4), (0xcbd, 0), (0xcbf, 4), (0xcc0, 0), (0xcc6, 4), (0xcc7, 0),
  (0xccc, 4), (0xcd5, 0), (0xce2, 4), (0xce6, 0), (0xd00, 4), (0xd02, 0), (0xd3b, 4), (0xd3d, 0),
  (0xd41, 4), (0xd46, 0), (0xd4d, 4), (0xd4e, 0), (0xd62, 4), (0xd66, 0), (0xd81, 4), (0xd82, 0),
  (0xdca, 4), (0xdcf, 0), (0xdd2, 4), (0xdd8, 0), (0xe31, 4), (0xe32, 0), (0xe34, 4), (0xe3f, 0),
  (0xe47, 4), (0xe4f, 0), (0xeb1, 4), (0xeb2, 0), (0xeb4, 4), (0xebd, 0), (0xec8, 4), (0xed0, 0),
  (0xf18, 4), (0xf1a, 0), (0xf35, 4), (0xf36, 0), (0xf37, 4), (0xf38, 0), (0xf39, 4), (0xf3a, 0),
  (0xf71, 4), (0xf7f, 0), (0xf80, 4), (0xf85, 0), (0xf86, 4), (0xf88, 0), (0xf8d, 4), (0xfbe, 0),
  (0xfc6, 4), (0xfc7, 0), (0x102d, 4), (0x1031, 0), (0x1032, 4), (0x1038, 0), (0x1039, 4),
  (0x103b, 0), (0x103d, 4), (0x103f, 0), (0x1058, 4), (0x105a, 0), (0x105e, 4), (0x1061, 0),
  (0x1071, 4), (0x1075, 0), (0x1082, 4), (0x1083, 0), (0x1085, 4), (0x1087, 0), (0x108d, 4),
  (0x108e, 0), (0x109d, 4), (0x109e, 0), (0x135d, 4), (0x1360, 0), (0x1712, 4), (0x1715, 0),
  (0x1732, 4), (0x1734, 0), (0x1752, 4), (0x1760, 0), (0x1772, 4), (0x1780, 0), (0x17b7, 4),
  (0x17be, 0), (0x17c6, 4), (0x17c7, 0), (0x17c9, 4), (0x17d4, 0), (0x17dd, 4), (0x17e0, 0),
  (0x1807, 1), (0x1808, 0), (0x1820, 1), (0x1880, 0), (0x1885, 4), (0x1887, 1), (0x18a9, 4),
  (0x18aa, 1), (0x18b0, 0), (0x1920, 4), (0x1923, 0), (0x1927, 4), (0x1929, 0), (0x1932, 4),
  (0x1933, 0), (0x1939, 4), (0x1940, 0), (0x1a17, 4), (0x1a19, 0), (0x1a1b, 4), (0x1a1e, 0),
  (0x1a56, 4), (0x1a57, 0), (0x1a58, 4), (0x1a61, 0), (0x1a62, 4), (0x1a63, 0), (0x1a65, 4),
  (0x1a6d, 0), (0x1a73, 4), (0x1a80, 0), (0x1ab0, 4), (0x1b04, 0), (0x1b34, 4), (0x1b35, 0),
  (0x1b36, 4), (0x1b3b, 0), (0x1b3c, 4), (0x1b3d, 0), (0x1b42, 4), (0x1b43, 0), (0x1b6b, 4),
  (0x1b74, 0), (0x1b80, 4), (0x1b82, 0), (0x1ba2, 4), (0x1ba6, 0), (0x1ba8, 4), (0x1baa, 0),
  (0x1bab, 4), (0x1bae, 0), (0x1be6, 4), (0x1be7, 0), (0x1be8, 4), (0x1bea, 0), (0x1bed, 4),
  (0x1bee, 0), (0x1bef, 4), (0x1bf2, 0), (0x1c2c, 4), (0x1c34, 0), (0x1c36, 4), (0x1c3b, 0),
  (0x1cd0, 4), (0x1cd3, 0), (0x1cd4, 4), (0x1ce1, 0), (0x1ce2, 4), (0x1ce9, 0), (0x1ced, 4),
  (0x1cee, 0), (0x1cf4, 4), (0x1cf5, 0), (0x1cf8, 4), (0x1cfa, 0), (0x1dc0, 4), (0x1e01, 0),
  (0x20d0, 4), (0x2104, 0), (0x2cef, 4), (0x2cf3, 0), (0x2d7f, 4), (0x2d80, 0), (0x2de0, 4),
  (0x2e00, 0), (0x302a, 4), (0x302e, 0), (0x3099, 4), (0x309d, 0), (0xa66f, 4), (0xa673, 0),
  (0xa674, 4), (0xa67e, 0), (0xa69e, 4), (0xa6a0, 0), (0xa6f0, 4), (0xa6f2, 0), (0xa802, 4),
  (0xa803, 0), (0xa806, 4), (0xa807, 0), (0xa80b, 4), (0xa80c, 0), (0xa825, 4), (0xa827, 0),
  (0xa82c, 4), (0xa830, 0), (0xa840, 1), (0xa872, 2), (0xa873, 0), (0xa8c4, 4), (0xa8ce, 0),
  (0xa8e0, 4), (0xa8f2, 0), (0xa8ff, 4), (0xa900, 0), (0xa926, 4), (0xa92e, 0), (0xa947, 4),
  (0xa952, 0), (0xa980, 4), (0xa983, 0), (0xa9b3, 4), (0xa9b4, 0), (0xa9b6, 4), (0xa9ba, 0),
  (0xa9bc, 4), (0xa9be, 0), (0xa9e5, 4), (0xa9e6, 0), (0xaa29, 4), (0xaa2f, 0), (0xaa31, 4),
  (0xaa33, 0), (0xaa35, 4), (0xaa40, 0), (0xaa43, 4), (0xaa44, 0), (0xaa4c, 4), (0xaa4d, 0),
  (0xaa7c, 4), (0xaa7d, 0), (0xaab0, 4), (0xaab1, 0), (0xaab2, 4), (0xaab5, 0), (0xaab7, 4),
  (0xaab9, 0), (0xaabe, 4), (0xaac0, 0), (0xaac1, 4), (0xaac2, 0), (0xaaec, 4), (0xaaee, 0),
  (0xaaf6, 4), (0xab01, 0), (0xabe5, 4), (0xabe6, 0), (0xabe8, 4), (0xabe9, 0), (0xabed, 4),
  (0xabf0, 0), (0xfb1e, 4), (0xfbb2, 0), (0xfe20, 4), (0xfe45, 0), (0x101fd, 4), (0x10280, 0),
  (0x102e0, 4), (0x102e1, 0), (0x10376, 4), (0x10380, 0), (0x10a01, 4), (0x10a10, 0), (0x10a38, 4),
  (0x10a40, 0), (0x10ac0, 1), (0x10ac5, 3), (0x10ac6, 0), (0x10ac7, 3), (0x10ac8, 0), (0x10ac9, 3),
  (0x10acb, 0), (0x10acd, 2), (0x10ace, 3), (0x10ad3, 1), (0x10ad7, 2), (0x10ad8, 1), (0x10add, 3),
  (0x10ade, 1), (0x10ae1, 3), (0x10ae2, 0), (0x10ae4, 3), (0x10ae5, 4), (0x10aeb, 1), (0x10aef, 3),
  (0x10af0, 0), (0x10b80, 1), (0x10b81, 3), (0x10b82, 1), (0x10b83, 3), (0x10b86, 1), (0x10b89, 3),
  (0x10b8a, 1), (0x10b8c, 3), (0x10b8d, 1), (0x10b8e, 3), (0x10b90, 1), (0x10b91, 3), (0x10b99, 0),
  (0x10ba9, 3), (0x10bad, 1), (0x10baf, 0), (0x10d00, 2), (0x10d01, 1), (0x10d22, 3), (0x10d23, 1),
  (0x10d24, 4), (0x10d30, 0), (0x10d69, 4), (0x10d6e, 0), (0x10eab, 4), (0x10ead, 0), (0x10ec2, 3),
  (0x10ec3, 1), (0x10ec5, 0), (0x10ec6, 1), (0x10ed0, 0), (0x10efa, 4), (0x10f00, 0), (0x10f30, 1),
  (0x10f33, 3), (0x10f34, 1), (0x10f45, 0), (0x10f46, 4), (0x10f51, 1), (0x10f54, 3), (0x10f55, 0),
  (0x10f70, 1), (0x10f74, 3), (0x10f76, 1), (0x10f82, 4), (0x10f86, 0), (0x10fb0, 1), (0x10fb1, 0),
  (0x10fb2, 1), (0x10fb4, 3), (0x10fb7, 0), (0x10fb8, 1), (0x10fb9, 3), (0x10fbb, 1), (0x10fbd, 3),
  (0x10fbe, 1), (0x10fc0, 0), (0x10fc1, 1), (0x10fc2, 3), (0x10fc4, 1), (0x10fc5, 0), (0x10fc9, 3),
  (0x10fca, 1), (0x10fcb, 2), (0x10fe0, 0), (0x11001, 4), (0x11002, 0), (0x11038, 4), (0x11047, 0),
  (0x11070, 4), (0x11071, 0), (0x11073, 4), (0x11075, 0), (0x1107f, 4), (0x11082, 0), (0x110b3, 4),
  (0x110b7, 0), (0x110b9, 4), (0x110bb, 0), (0x110c2, 4), (0x110d0, 0), (0x11100, 4), (0x11103, 0),
  (0x11127, 4), (0x1112c, 0), (0x1112d, 4), (0x11136, 0), (0x11173, 4), (0x11174, 0), (0x11180, 4),
  (0x11182, 0), (0x111b6, 4), (0x111bf, 0), (0x111c9, 4), (0x111cd, 0), (0x111cf, 4), (0x111d0, 0),
  (0x1122f, 4), (0x11232, 0), (0x11234, 4), (0x11235, 0), (0x11236, 4), (0x11238, 0), (0x1123e, 4),
  (0x1123f, 0), (0x11241, 4), (0x11280, 0), (0x112df, 4), (0x112e0, 0), (0x112e3, 4), (0x112f0, 0),
  (0x11300, 4), (0x11302, 0), (0x1133b, 4), (0x1133d, 0), (0x11340, 4), (0x11341, 0), (0x11366, 4),
  (0x11380, 0), (0x113bb, 4), (0x113c2, 0), (0x113ce, 4), (0x113cf, 0), (0x113d0, 4), (0x113d1, 0),
  (0x113d2, 4), (0x113d3, 0), (0x113e1, 4), (0x11400, 0), (0x11438, 4), (0x11440, 0), (0x11442, 4),
  (0x11445, 0), (0x11446, 4), (0x11447, 0), (0x1145e, 4), (0x1145f, 0), (0x114b3, 4), (0x114b9, 0),
  (0x114ba, 4), (0x114bb, 0), (0x114bf, 4), (0x114c1, 0), (0x114c2, 4), (0x114c4, 0), (0x115b2, 4),
  (0x115b8, 0), (0x115bc, 4), (0x115be, 0), (0x115bf, 4), (0x115c1, 0), (0x115dc, 4), (0x11600, 0),
  (0x11633, 4), (0x1163b, 0), (0x1163d, 4), (0x1163e, 0), (0x1163f, 4), (0x11641, 0), (0x116ab, 4),
  (0x116ac, 0), (0x116ad, 4), (0x116ae, 0), (0x116b0, 4), (0x116b6, 0), (0x116b7, 4), (0x116b8, 0),
  (0x1171d, 4), (0x1171e, 0), (0x1171f, 4), (0x11720, 0), (0x11722, 4), (0x11726, 0), (0x11727, 4),
  (0x11730, 0), (0x1182f, 4), (0x11838, 0), (0x11839, 4), (0x1183b, 0), (0x1193b, 4), (0x1193d, 0),
  (0x1193e, 4), (0x1193f, 0), (0x11943, 4), (0x11944, 0), (0x119d4, 4), (0x119dc, 0), (0x119e0, 4),
  (0x119e1, 0), (0x11a01, 4), (0x11a0b, 0), (0x11a33, 4), (0x11a39, 0), (0x11a3b, 4), (0x11a3f, 0),
  (0x11a47, 4), (0x11a50, 0), (0x11a51, 4), (0x11a57, 0), (0x11a59, 4), (0x11a5c, 0), (0x11a8a, 4),
  (0x11a97, 0), (0x11a98, 4), (0x11a9a, 0), (0x11b60, 4), (0x11b61, 0), (0x11b62, 4), (0x11b65, 0),
  (0x11b66, 4), (0x11b67, 0), (0x11c30, 4), (0x11c3e, 0), (0x11c3f, 4), (0x11c40, 0), (0x11c92, 4),
  (0x11ca9, 0), (0x11caa, 4), (0x11cb1, 0), (0x11cb2, 4), (0x11cb4, 0), (0x11cb5, 4), (0x11d00, 0),
  (0x11d31, 4), (0x11d46, 0), (0x11d47, 4), (0x11d50, 0), (0x11d90, 4), (0x11d93, 0), (0x11d95, 4),
  (0x11d96, 0), (0x11d97, 4), (0x11d98, 0), (0x11ef3, 4), (0x11ef5, 0), (0x11f00, 4), (0x11f02, 0),
  (0x11f36, 4), (0x11f3e, 0), (0x11f40, 4), (0x11f41, 0), (0x11f42, 4), (0x11f43, 0), (0x11f5a, 4),
  (0x11fb0, 0), (0x13440, 4), (0x13441, 0), (0x13447, 4), (0x13460, 0), (0x1611e, 4), (0x1612a, 0),
  (0x1612d, 4), (0x16130, 0), (0x16af0, 4), (0x16af5, 0), (0x16b30, 4), (0x16b37, 0), (0x16f4f, 4),
  (0x16f50, 0), (0x16f8f, 4), (0x16f93, 0), (0x16fe4, 4), (0x16ff0, 0), (0x1bc9d, 4), (0x1bc9f, 0),
  (0x1cf00, 4), (0x1cf50, 0), (0x1d167, 4), (0x1d16a, 0), (0x1d17b, 4), (0x1d183, 0), (0x1d185, 4),
  (0x1d18c, 0), (0x1d1aa, 4), (0x1d1ae, 0), (0x1d242, 4), (0x1d245, 0), (0x1da00, 4), (0x1da37, 0),
  (0x1da3b, 4), (0x1da6d, 0), (0x1da75, 4), (0x1da76, 0), (0x1da84, 4), (0x1da85, 0), (0x1da9b, 4),
  (0x1df00, 0), (0x1e000, 4), (0x1e100, 0), (0x1e130, 4), (0x1e137, 0), (0x1e2ae, 4), (0x1e2c0, 0),
  (0x1e2ec, 4), (0x1e2f0, 0), (0x1e4ec, 4), (0x1e4f0, 0), (0x1e5ee, 4), (0x1e5f0, 0), (0x1e6e3, 4),
  (0x1e6e4, 0), (0x1e6e6, 4), (0x1e6e7, 0), (0x1e6ee, 4), (0x1e6f0, 0), (0x1e6f5, 4), (0x1e6fe, 0),
  (0x1e8d0, 4), (0x1e922, 1), (0x1e944, 4), (0x1e950, 0)]

/-- How a character is joined. -/
def joining (c : Char) : Joining :=
  joinings.getD (Text.valueAt joiningRuns c.toNat) .none

/-- The character that parts letters, and the one that joins them. -/
def parter : Char := '\u200c'
def joiner : Char := '\u200d'

/-- The class of the signs that take a vowel away. -/
def vowelSign : Nat := 9

/-- Whether the first character that others are not joined through is joined in one of some ways. -/
def joins (ways : List Joining) (cs : List Char) : Bool :=
  ((cs.map joining).dropWhile (· = .through)).head?.any fun j => j ∈ ways

/-- Whether each invisible character of a label changes how it is written. `before` is what stands in
front, the nearest first. -/
def joinersFit (before : List Char) : List Char → Bool
  | [] => true
  | c :: rest =>
    (! (c = joiner || c = parter)
        || before.head?.any (Text.markClass · = vowelSign)
        || (c = parter && joins [.both, .next] before && joins [.both, .previous] rest))
      && joinersFit (c :: before) rest

end MediaVault.HostName
