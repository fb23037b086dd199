/-
Names that are written from right to left, alone or beside others. A label
keeps to one direction: it begins with a letter of that direction, holds
nothing that runs the other way, and ends with a letter or a number, so that
it looks the same wherever it stands.
-/
import MediaVault.Text.Table

namespace MediaVault.HostName

/-- How a character lies in a line: which way it runs, or what it does among others. -/
inductive Direction where
  | leftToRight
  | rightToLeft
  /-- A digit that is written within what runs from right to left. -/
  | arabicNumber
  | number
  /-- Signs that take their direction from what is beside them. -/
  | neutral
  /-- A mark on another character. -/
  | mark
  deriving DecidableEq, Repr

/-- The directions in the order of their numbers in the table. -/
def directions : Array Direction :=
  #[.leftToRight, .rightToLeft, .arabicNumber, .number, .neutral, .mark]

/-- The numbers of the directions of the characters that can stand in a name, each with the code
point from which on it holds. -/
def directionRuns : Array (Nat × Nat) := #[
  (0x0, 4), (0x30, 3), (0x3a, 4), (0x41, 0), (0x5b, 4), (0x61, 0), (0x7b, 4), (0xdf, 0), (0xf7, 4),
  (0xf8, 0), (0x2b9, 4), (0x2bb, 0), (0x2c2, 4), (0x2d0, 0), (0x2d2, 4), (0x2ee, 0), (0x2ef, 4),
  (0x300, 5), (0x371, 0), (0x375, 4), (0x377, 0), (0x3f6, 4), (0x3f8, 0), (0x483, 5), (0x48b, 0),
  (0x58a, 4), (0x591, 5), (0x5be, 1), (0x5bf, 5), (0x5c0, 1), (0x5c1, 5), (0x5c3, 1), (0x5c4, 5),
  (0x5c6, 1), (0x5c7, 5), (0x5d0, 1), (0x606, 4), (0x608, 1), (0x609, 4), (0x60b, 1), (0x60c, 4),
  (0x60d, 1), (0x60e, 4), (0x610, 5), (0x61b, 1), (0x64b, 5), (0x660, 2), (0x66a, 4), (0x66b, 2),
  (0x66d, 1), (0x670, 5), (0x671, 1), (0x6d6, 5), (0x6de, 4), (0x6df, 5), (0x6e5, 1), (0x6e7, 5),
  (0x6e9, 4), (0x6ea, 5), (0x6ee, 1), (0x6f0, 3), (0x6fa, 1), (0x711, 5), (0x712, 1), (0x730, 5),
  (0x74d, 1), (0x7a6, 5), (0x7b1, 1), (0x7eb, 5), (0x7f4, 1), (0x7f6, 4), (0x7fa, 1), (0x7fd, 5),
  (0x7fe, 1), (0x816, 5), (0x81a, 1), (0x81b, 5), (0x824, 1), (0x825, 5), (0x828, 1), (0x829, 5),
  (0x830, 1), (0x859, 5), (0x85e, 1), (0x897, 5), (0x8a0, 1), (0x8ca, 5), (0x903, 0), (0x93a, 5),
  (0x93b, 0), (0x93c, 5), (0x93d, 0), (0x941, 5), (0x949, 0), (0x94d, 5), (0x94e, 0), (0x951, 5),
  (0x960, 0), (0x962, 5), (0x964, 0), (0x981, 5), (0x982, 0), (0x9bc, 5), (0x9bd, 0), (0x9c1, 5),
  (0x9c7, 0), (0x9cd, 5), (0x9ce, 0), (0x9e2, 5), (0x9e6, 0), (0x9f2, 4), (0x9f4, 0), (0x9fb, 4),
  (0x9fc, 0), (0x9fe, 5), (0xa03, 0), (0xa3c, 5), (0xa3e, 0), (0xa41, 5), (0xa5c, 0), (0xa70, 5),
  (0xa72, 0), (0xa75, 5), (0xa76, 0), (0xa81, 5), (0xa83, 0), (0xabc, 5), (0xabd, 0), (0xac1, 5),
  (0xac9, 0), (0xacd, 5), (0xad0, 0), (0xae2, 5), (0xae6, 0), (0xaf1, 4), (0xaf9, 0), (0xafa, 5),
  (0xb02, 0), (0xb3c, 5), (0xb3d, 0), (0xb3f, 5), (0xb40, 0), (0xb41, 5), (0xb47, 0), (0xb4d, 5),
  (0xb57, 0), (0xb62, 5), (0xb66, 0), (0xb82, 5), (0xb83, 0), (0xbc0, 5), (0xbc1, 0), (0xbcd, 5),
  (0xbd0, 0), (0xbf3, 4), (0xc00, 5), (0xc01, 0), (0xc04, 5), (0xc05, 0), (0xc3c, 5), (0xc3d, 0),
  (0xc3e, 5), (0xc41, 0), (0xc46, 5), (0xc58, 0), (0xc62, 5), (0xc66, 0), (0xc78, 4), (0xc7f, 0),
  (0xc81, 5), (0xc82, 0), (0xcbc, 5), (0xcbd, 0), (0xccc, 5), (0xcd5, 0), (0xce2, 5), (0xce6, 0),
  (0xd00, 5), (0xd02, 0), (0xd3b, 5), (0xd3d, 0), (0xd41, 5), (0xd46, 0), (0xd4d, 5), (0xd4e, 0),
  (0xd62, 5), (0xd66, 0), (0xd81, 5), (0xd82, 0), (0xdca, 5), (0xdcf, 0), (0xdd2, 5), (0xdd8, 0),
  (0xe31, 5), (0xe32, 0), (0xe34, 5), (0xe3f, 4), (0xe40, 0), (0xe47, 5), (0xe4f, 0), (0xeb1, 5),
  (0xeb2, 0), (0xeb4, 5), (0xebd, 0), (0xec8, 5), (0xed0, 0), (0xf18, 5), (0xf1a, 0), (0xf35, 5),
  (0xf36, 0), (0xf37, 5), (0xf38, 0), (0xf39, 5), (0xf3a, 4), (0xf3e, 0), (0xf71, 5), (0xf7f, 0),
  (0xf80, 5), (0xf85, 0), (0xf86, 5), (0xf88, 0), (0xf8d, 5), (0xfbe, 0), (0xfc6, 5), (0xfc7, 0),
  (0x102d, 5), (0x1031, 0), (0x1032, 5), (0x1038, 0), (0x1039, 5), (0x103b, 0), (0x103d, 5),
  (0x103f, 0), (0x1058, 5), (0x105a, 0), (0x105e, 5), (0x1061, 0), (0x1071, 5), (0x1075, 0),
  (0x1082, 5), (0x1083, 0), (0x1085, 5), (0x1087, 0), (0x108d, 5), (0x108e, 0), (0x109d, 5),
  (0x109e, 0), (0x135d, 5), (0x1360, 0), (0x1390, 4), (0x13a0, 0), (0x1400, 4), (0x1401, 0),
  (0x169b, 4), (0x16a0, 0), (0x1712, 5), (0x1715, 0), (0x1732, 5), (0x1734, 0), (0x1752, 5),
  (0x1760, 0), (0x1772, 5), (0x1780, 0), (0x17b7, 5), (0x17be, 0), (0x17c6, 5), (0x17c7, 0),
  (0x17c9, 5), (0x17d4, 0), (0x17db, 4), (0x17dc, 0), (0x17dd, 5), (0x17e0, 0), (0x17f0, 4),
  (0x1810, 0), (0x1885, 5), (0x1887, 0), (0x18a9, 5), (0x18aa, 0), (0x1920, 5), (0x1923, 0),
  (0x1927, 5), (0x1929, 0), (0x1932, 5), (0x1933, 0), (0x1939, 5), (0x1940, 4), (0x1946, 0),
  (0x19de, 4), (0x1a00, 0), (0x1a17, 5), (0x1a19, 0), (0x1a1b, 5), (0x1a1e, 0), (0x1a56, 5),
  (0x1a57, 0), (0x1a58, 5), (0x1a61, 0), (0x1a62, 5), (0x1a63, 0), (0x1a65, 5), (0x1a6d, 0),
  (0x1a73, 5), (0x1a80, 0), (0x1ab0, 5), (0x1b04, 0), (0x1b34, 5), (0x1b35, 0), (0x1b36, 5),
  (0x1b3b, 0), (0x1b3c, 5), (0x1b3d, 0), (0x1b42, 5), (0x1b43, 0), (0x1b6b, 5), (0x1b74, 0),
  (0x1b80, 5), (0x1b82, 0), (0x1ba2, 5), (0x1ba6, 0), (0x1ba8, 5), (0x1baa, 0), (0x1bab, 5),
  (0x1bae, 0), (0x1be6, 5), (0x1be7, 0), (0x1be8, 5), (0x1bea, 0), (0x1bed, 5), (0x1bee, 0),
  (0x1bef, 5), (0x1bf2, 0), (0x1c2c, 5), (0x1c34, 0), (0x1c36, 5), (0x1c3b, 0), (0x1cd0, 5),
  (0x1cd3, 0), (0x1cd4, 5), (0x1ce1, 0), (0x1ce2, 5), (0x1ce9, 0), (0x1ced, 5), (0x1cee, 0),
  (0x1cf4, 5), (0x1cf5, 0), (0x1cf8, 5), (0x1cfa, 0), (0x1dc0, 5), (0x1e01, 0), (0x200c, 4),
  (0x20d0, 5), (0x2104, 4), (0x214e, 0), (0x218a, 4), (0x2336, 0), (0x237b, 4), (0x2395, 0),
  (0x2396, 4), (0x26ac, 0), (0x26ad, 4), (0x2800, 0), (0x2900, 4), (0x2c30, 0), (0x2ce5, 4),
  (0x2cec, 0), (0x2cef, 5), (0x2cf3, 0), (0x2cf9, 4), (0x2d00, 0), (0x2d7f, 5), (0x2d80, 0),
  (0x2de0, 5), (0x2e00, 4), (0x3005, 0), (0x3008, 4), (0x3021, 0), (0x302a, 5), (0x302e, 0),
  (0x3030, 4), (0x3031, 0), (0x3037, 4), (0x303b, 0), (0x303d, 4), (0x3041, 0), (0x3099, 5),
  (0x309d, 0), (0x30a0, 4), (0x30a1, 0), (0x30fb, 4), (0x30fc, 0), (0x31c0, 4), (0x31f0, 0),
  (0x4dc0, 4), (0x4e00, 0), (0xa490, 4), (0xa4d0, 0), (0xa60d, 4), (0xa610, 0), (0xa66f, 5),
  (0xa673, 4), (0xa674, 5), (0xa67e, 4), (0xa681, 0), (0xa69e, 5), (0xa6a0, 0), (0xa6f0, 5),
  (0xa6f2, 0), (0xa700, 4), (0xa723, 0), (0xa788, 4), (0xa789, 0), (0xa802, 5), (0xa803, 0),
  (0xa806, 5), (0xa807, 0), (0xa80b, 5), (0xa80c, 0), (0xa825, 5), (0xa827, 0), (0xa828, 4),
  (0xa82c, 5), (0xa830, 0), (0xa838, 4), (0xa840, 0), (0xa874, 4), (0xa880, 0), (0xa8c4, 5),
  (0xa8ce, 0), (0xa8e0, 5), (0xa8f2, 0), (0xa8ff, 5), (0xa900, 0), (0xa926, 5), (0xa92e, 0),
  (0xa947, 5), (0xa952, 0), (0xa980, 5), (0xa983, 0), (0xa9b3, 5), (0xa9b4, 0), (0xa9b6, 5),
  (0xa9ba, 0), (0xa9bc, 5), (0xa9be, 0), (0xa9e5, 5), (0xa9e6, 0), (0xaa29, 5), (0xaa2f, 0),
  (0xaa31, 5), (0xaa33, 0), (0xaa35, 5), (0xaa40, 0), (0xaa43, 5), (0xaa44, 0), (0xaa4c, 5),
  (0xaa4d, 0), (0xaa7c, 5), (0xaa7d, 0), (0xaab0, 5), (0xaab1, 0), (0xaab2, 5), (0xaab5, 0),
  (0xaab7, 5), (0xaab9, 0), (0xaabe, 5), (0xaac0, 0), (0xaac1, 5), (0xaac2, 0), (0xaaec, 5),
  (0xaaee, 0), (0xaaf6, 5), (0xab01, 0), (0xab6a, 4), (0xabc0, 0), (0xabe5, 5), (0xabe6, 0),
  (0xabe8, 5), (0xabe9, 0), (0xabed, 5), (0xabf0, 0), (0xfb1e, 5), (0xfbb2, 1), (0xfbc3, 4),
  (0xfe20, 5), (0xfe45, 4), (0xfe73, 1), (0x10000, 0), (0x10101, 4), (0x10102, 0), (0x10140, 4),
  (0x1018d, 0), (0x10190, 4), (0x101d0, 0), (0x101fd, 5), (0x10280, 0), (0x102e0, 5), (0x102e1, 3),
  (0x10300, 0), (0x10376, 5), (0x10380, 0), (0x10800, 1), (0x1091f, 4), (0x10920, 1), (0x10a01, 5),
  (0x10a10, 1), (0x10a38, 5), (0x10a40, 1), (0x10ae5, 5), (0x10aeb, 1), (0x10b39, 4), (0x10b40, 1),
  (0x10d24, 5), (0x10d30, 2), (0x10d4a, 1), (0x10d69, 5), (0x10d6e, 4), (0x10d6f, 1), (0x10e60, 2),
  (0x10e80, 1), (0x10eab, 5), (0x10ead, 1), (0x10ed0, 4), (0x10efa, 5), (0x10f00, 1), (0x10f46, 5),
  (0x10f51, 1), (0x10f82, 5), (0x10f86, 1), (0x11000, 0), (0x11001, 5), (0x11002, 0), (0x11038, 5),
  (0x11047, 0), (0x11052, 4), (0x11066, 0), (0x11070, 5), (0x11071, 0), (0x11073, 5), (0x11075, 0),
  (0x1107f, 5), (0x11082, 0), (0x110b3, 5), (0x110b7, 0), (0x110b9, 5), (0x110bb, 0), (0x110c2, 5),
  (0x110d0, 0), (0x11100, 5), (0x11103, 0), (0x11127, 5), (0x1112c, 0), (0x1112d, 5), (0x11136, 0),
  (0x11173, 5), (0x11174, 0), (0x11180, 5), (0x11182, 0), (0x111b6, 5), (0x111bf, 0), (0x111c9, 5),
  (0x111cd, 0), (0x111cf, 5), (0x111d0, 0), (0x1122f, 5), (0x11232, 0), (0x11234, 5), (0x11235, 0),
  (0x11236, 5), (0x11238, 0), (0x1123e, 5), (0x1123f, 0), (0x11241, 5), (0x11280, 0), (0x112df, 5),
  (0x112e0, 0), (0x112e3, 5), (0x112f0, 0), (0x11300, 5), (0x11302, 0), (0x1133b, 5), (0x1133d, 0),
  (0x11340, 5), (0x11341, 0), (0x11366, 5), (0x11380, 0), (0x113bb, 5), (0x113c2, 0), (0x113ce, 5),
  (0x113cf, 0), (0x113d0, 5), (0x113d1, 0), (0x113d2, 5), (0x113d3, 0), (0x113e1, 5), (0x11400, 0),
  (0x11438, 5), (0x11440, 0), (0x11442, 5), (0x11445, 0), (0x11446, 5), (0x11447, 0), (0x1145e, 5),
  (0x1145f, 0), (0x114b3, 5), (0x114b9, 0), (0x114ba, 5), (0x114bb, 0), (0x114bf, 5), (0x114c1, 0),
  (0x114c2, 5), (0x114c4, 0), (0x115b2, 5), (0x115b8, 0), (0x115bc, 5), (0x115be, 0), (0x115bf, 5),
  (0x115c1, 0), (0x115dc, 5), (0x11600, 0), (0x11633, 5), (0x1163b, 0), (0x1163d, 5), (0x1163e, 0),
  (0x1163f, 5), (0x11641, 0), (0x11660, 4), (0x11680, 0), (0x116ab, 5), (0x116ac, 0), (0x116ad, 5),
  (0x116ae, 0), (0x116b0, 5), (0x116b6, 0), (0x116b7, 5), (0x116b8, 0), (0x1171d, 5), (0x1171e, 0),
  (0x1171f, 5), (0x11720, 0), (0x11722, 5), (0x11726, 0), (0x11727, 5), (0x11730, 0), (0x1182f, 5),
  (0x11838, 0), (0x11839, 5), (0x1183b, 0), (0x1193b, 5), (0x1193d, 0), (0x1193e, 5), (0x1193f, 0),
  (0x11943, 5), (0x11944, 0), (0x119d4, 5), (0x119dc, 0), (0x119e0, 5), (0x119e1, 0), (0x11a01, 5),
  (0x11a07, 0), (0x11a09, 5), (0x11a0b, 0), (0x11a33, 5), (0x11a39, 0), (0x11a3b, 5), (0x11a3f, 0),
  (0x11a47, 5), (0x11a50, 0), (0x11a51, 5), (0x11a57, 0), (0x11a59, 5), (0x11a5c, 0), (0x11a8a, 5),
  (0x11a97, 0), (0x11a98, 5), (0x11a9a, 0), (0x11b60, 5), (0x11b61, 0), (0x11b62, 5), (0x11b65, 0),
  (0x11b66, 5), (0x11b67, 0), (0x11c30, 5), (0x11c3e, 0), (0x11c92, 5), (0x11ca9, 0), (0x11caa, 5),
  (0x11cb1, 0), (0x11cb2, 5), (0x11cb4, 0), (0x11cb5, 5), (0x11d00, 0), (0x11d31, 5), (0x11d46, 0),
  (0x11d47, 5), (0x11d50, 0), (0x11d90, 5), (0x11d93, 0), (0x11d95, 5), (0x11d96, 0), (0x11d97, 5),
  (0x11d98, 0), (0x11ef3, 5), (0x11ef5, 0), (0x11f00, 5), (0x11f02, 0), (0x11f36, 5), (0x11f3e, 0),
  (0x11f40, 5), (0x11f41, 0), (0x11f42, 5), (0x11f43, 0), (0x11f5a, 5), (0x11fb0, 0), (0x11fd5, 4),
  (0x11fff, 0), (0x13440, 5), (0x13441, 0), (0x13447, 5), (0x13460, 0), (0x1611e, 5), (0x1612a, 0),
  (0x1612d, 5), (0x16130, 0), (0x16af0, 5), (0x16af5, 0), (0x16b30, 5), (0x16b37, 0), (0x16f4f, 5),
  (0x16f50, 0), (0x16f8f, 5), (0x16f93, 0), (0x16fe2, 4), (0x16fe3, 0), (0x16fe4, 5), (0x16ff0, 0),
  (0x1bc9d, 5), (0x1bc9f, 0), (0x1cc00, 4), (0x1cf00, 5), (0x1cf50, 0), (0x1d167, 5), (0x1d16a, 0),
  (0x1d17b, 5), (0x1d183, 0), (0x1d185, 5), (0x1d18c, 0), (0x1d1aa, 5), (0x1d1ae, 0), (0x1d1e9, 4),
  (0x1d242, 5), (0x1d245, 4), (0x1d2c0, 0), (0x1d300, 4), (0x1d360, 0), (0x1da00, 5), (0x1da37, 0),
  (0x1da3b, 5), (0x1da6d, 0), (0x1da75, 5), (0x1da76, 0), (0x1da84, 5), (0x1da85, 0), (0x1da9b, 5),
  (0x1df00, 0), (0x1e000, 5), (0x1e100, 0), (0x1e130, 5), (0x1e137, 0), (0x1e2ae, 5), (0x1e2c0, 0),
  (0x1e2ec, 5), (0x1e2f0, 0), (0x1e2ff, 4), (0x1e4d0, 0), (0x1e4ec, 5), (0x1e4f0, 0), (0x1e5ee, 5),
  (0x1e5f0, 0), (0x1e6e3, 5), (0x1e6e4, 0), (0x1e6e6, 5), (0x1e6e7, 0), (0x1e6ee, 5), (0x1e6f0, 0),
  (0x1e6f5, 5), (0x1e6fe, 0), (0x1e800, 1), (0x1e8d0, 5), (0x1e922, 1), (0x1e944, 5), (0x1e94b, 1),
  (0x1eef0, 4), (0x1f150, 0), (0x1f16d, 4), (0x1f170, 0), (0x1f1ad, 4), (0x1f1e6, 0), (0x1f260, 4),
  (0x20000, 0)]

/-- The direction of a character. -/
def direction (c : Char) : Direction :=
  directions.getD (Text.valueAt directionRuns c.toNat) .leftToRight

/-- Whether a label makes a name one in which directions matter. -/
def turns (label : List Char) : Bool :=
  label.any fun c => direction c ∈ [.rightToLeft, .arabicNumber]

/-- Whether a label keeps to one direction. -/
def keepsDirection (label : List Char) : Bool :=
  let ds := label.map direction
  let last := (ds.reverse.dropWhile (· = .mark)).head?
  let hasOnly (allowed : List Direction) : Bool := ds.all fun d => d ∈ allowed
  match ds with
  | [] => true
  | .leftToRight :: _ =>
    hasOnly [.leftToRight, .number, .neutral, .mark]
      && last.any fun d => d ∈ [.leftToRight, .number]
  | .rightToLeft :: _ =>
    hasOnly [.rightToLeft, .arabicNumber, .number, .neutral, .mark]
      && (last.any fun d => d ∈ [.rightToLeft, .arabicNumber, .number])
      && ! (ds.contains .number && ds.contains .arabicNumber)
  | _ => false

end MediaVault.HostName
