/-!
# Lower and upper case of a text

* `CaseTable` : runs of characters that move by one distance, and the characters that become several;
* `lowerTable`, `upperTable` : the full case mappings of version 14 of the Unicode character database;
* `toLower`, `toUpper` : the mapping of a text, each character by itself.

A run `(first, step, count, shift)` says that the `count` characters `first`, `first + step`, … each
move by `shift`.  The final form of the Greek sigma is not told apart: a sigma always lowers to `σ`.
-/

namespace Bringup

/-- A case mapping: runs `(first, step, count, shift)`, and characters that become several. -/
structure CaseTable where
  runs : List (Nat × Nat × Nat × Int)
  several : List (Nat × List Nat)

/-- Runs of the mapping to lower case. -/
def lowerRuns : List (Nat × Nat × Nat × Int) :=
  [
    (0x41, 1, 26, 32), (0xC0, 1, 23, 32), (0xD8, 1, 7, 32), (0x100, 2, 24, 1), (0x132, 2, 3, 1),
    (0x139, 2, 8, 1), (0x14A, 2, 23, 1), (0x178, 1, 1, -121), (0x179, 2, 3, 1),
    (0x181, 1, 1, 210), (0x182, 2, 2, 1), (0x186, 1, 1, 206), (0x187, 1, 1, 1),
    (0x189, 1, 2, 205), (0x18B, 1, 1, 1), (0x18E, 1, 1, 79), (0x18F, 1, 1, 202),
    (0x190, 1, 1, 203), (0x191, 1, 1, 1), (0x193, 1, 1, 205), (0x194, 1, 1, 207),
    (0x196, 1, 1, 211), (0x197, 1, 1, 209), (0x198, 1, 1, 1), (0x19C, 1, 1, 211),
    (0x19D, 1, 1, 213), (0x19F, 1, 1, 214), (0x1A0, 2, 3, 1), (0x1A6, 1, 1, 218),
    (0x1A7, 1, 1, 1), (0x1A9, 1, 1, 218), (0x1AC, 1, 1, 1), (0x1AE, 1, 1, 218), (0x1AF, 1, 1, 1),
    (0x1B1, 1, 2, 217), (0x1B3, 2, 2, 1), (0x1B7, 1, 1, 219), (0x1B8, 1, 1, 1), (0x1BC, 1, 1, 1),
    (0x1C4, 1, 1, 2), (0x1C5, 1, 1, 1), (0x1C7, 1, 1, 2), (0x1C8, 1, 1, 1), (0x1CA, 1, 1, 2),
    (0x1CB, 2, 9, 1), (0x1DE, 2, 9, 1), (0x1F1, 1, 1, 2), (0x1F2, 2, 2, 1), (0x1F6, 1, 1, -97),
    (0x1F7, 1, 1, -56), (0x1F8, 2, 20, 1), (0x220, 1, 1, -130), (0x222, 2, 9, 1),
    (0x23A, 1, 1, 10795), (0x23B, 1, 1, 1), (0x23D, 1, 1, -163), (0x23E, 1, 1, 10792),
    (0x241, 1, 1, 1), (0x243, 1, 1, -195), (0x244, 1, 1, 69), (0x245, 1, 1, 71), (0x246, 2, 5, 1),
    (0x370, 2, 2, 1), (0x376, 1, 1, 1), (0x37F, 1, 1, 116), (0x386, 1, 1, 38), (0x388, 1, 3, 37),
    (0x38C, 1, 1, 64), (0x38E, 1, 2, 63), (0x391, 1, 17, 32), (0x3A3, 1, 9, 32), (0x3CF, 1, 1, 8),
    (0x3D8, 2, 12, 1), (0x3F4, 1, 1, -60), (0x3F7, 1, 1, 1), (0x3F9, 1, 1, -7), (0x3FA, 1, 1, 1),
    (0x3FD, 1, 3, -130), (0x400, 1, 16, 80), (0x410, 1, 32, 32), (0x460, 2, 17, 1),
    (0x48A, 2, 27, 1), (0x4C0, 1, 1, 15), (0x4C1, 2, 7, 1), (0x4D0, 2, 48, 1), (0x531, 1, 38, 48),
    (0x10A0, 1, 38, 7264), (0x10C7, 1, 1, 7264), (0x10CD, 1, 1, 7264), (0x13A0, 1, 80, 38864),
    (0x13F0, 1, 6, 8), (0x1C90, 1, 43, -3008), (0x1CBD, 1, 3, -3008), (0x1E00, 2, 75, 1),
    (0x1E9E, 1, 1, -7615), (0x1EA0, 2, 48, 1), (0x1F08, 1, 8, -8), (0x1F18, 1, 6, -8),
    (0x1F28, 1, 8, -8), (0x1F38, 1, 8, -8), (0x1F48, 1, 6, -8), (0x1F59, 2, 4, -8),
    (0x1F68, 1, 8, -8), (0x1F88, 1, 8, -8), (0x1F98, 1, 8, -8), (0x1FA8, 1, 8, -8),
    (0x1FB8, 1, 2, -8), (0x1FBA, 1, 2, -74), (0x1FBC, 1, 1, -9), (0x1FC8, 1, 4, -86),
    (0x1FCC, 1, 1, -9), (0x1FD8, 1, 2, -8), (0x1FDA, 1, 2, -100), (0x1FE8, 1, 2, -8),
    (0x1FEA, 1, 2, -112), (0x1FEC, 1, 1, -7), (0x1FF8, 1, 2, -128), (0x1FFA, 1, 2, -126),
    (0x1FFC, 1, 1, -9), (0x2126, 1, 1, -7517), (0x212A, 1, 1, -8383), (0x212B, 1, 1, -8262),
    (0x2132, 1, 1, 28), (0x2160, 1, 16, 16), (0x2183, 1, 1, 1), (0x24B6, 1, 26, 26),
    (0x2C00, 1, 48, 48), (0x2C60, 1, 1, 1), (0x2C62, 1, 1, -10743), (0x2C63, 1, 1, -3814),
    (0x2C64, 1, 1, -10727), (0x2C67, 2, 3, 1), (0x2C6D, 1, 1, -10780), (0x2C6E, 1, 1, -10749),
    (0x2C6F, 1, 1, -10783), (0x2C70, 1, 1, -10782), (0x2C72, 1, 1, 1), (0x2C75, 1, 1, 1),
    (0x2C7E, 1, 2, -10815), (0x2C80, 2, 50, 1), (0x2CEB, 2, 2, 1), (0x2CF2, 1, 1, 1),
    (0xA640, 2, 23, 1), (0xA680, 2, 14, 1), (0xA722, 2, 7, 1), (0xA732, 2, 31, 1),
    (0xA779, 2, 2, 1), (0xA77D, 1, 1, -35332), (0xA77E, 2, 5, 1), (0xA78B, 1, 1, 1),
    (0xA78D, 1, 1, -42280), (0xA790, 2, 2, 1), (0xA796, 2, 10, 1), (0xA7AA, 1, 1, -42308),
    (0xA7AB, 1, 1, -42319), (0xA7AC, 1, 1, -42315), (0xA7AD, 1, 1, -42305),
    (0xA7AE, 1, 1, -42308), (0xA7B0, 1, 1, -42258), (0xA7B1, 1, 1, -42282),
    (0xA7B2, 1, 1, -42261), (0xA7B3, 1, 1, 928), (0xA7B4, 2, 8, 1), (0xA7C4, 1, 1, -48),
    (0xA7C5, 1, 1, -42307), (0xA7C6, 1, 1, -35384), (0xA7C7, 2, 2, 1), (0xA7D0, 1, 1, 1),
    (0xA7D6, 2, 2, 1), (0xA7F5, 1, 1, 1), (0xFF21, 1, 26, 32), (0x10400, 1, 40, 40),
    (0x104B0, 1, 36, 40), (0x10570, 2, 19, 39), (0x10571, 2, 5, 39), (0x1057D, 2, 7, 39),
    (0x1058D, 2, 3, 39), (0x10595, 1, 1, 39), (0x10C80, 1, 51, 64), (0x118A0, 1, 32, 32),
    (0x16E40, 1, 32, 32), (0x1E900, 1, 34, 34)]

/-- The mapping to lower case. -/
def lowerTable : CaseTable := ⟨lowerRuns, [(0x130, [0x69, 0x307])]⟩

/-- Runs of the mapping to upper case. -/
def upperRuns : List (Nat × Nat × Nat × Int) :=
  [
    (0x61, 1, 26, -32), (0xB5, 1, 1, 743), (0xE0, 1, 23, -32), (0xF8, 1, 7, -32),
    (0xFF, 1, 1, 121), (0x101, 2, 24, -1), (0x131, 1, 1, -232), (0x133, 2, 3, -1),
    (0x13A, 2, 8, -1), (0x14B, 2, 23, -1), (0x17A, 2, 3, -1), (0x17F, 1, 1, -300),
    (0x180, 1, 1, 195), (0x183, 2, 2, -1), (0x188, 1, 1, -1), (0x18C, 1, 1, -1),
    (0x192, 1, 1, -1), (0x195, 1, 1, 97), (0x199, 1, 1, -1), (0x19A, 1, 1, 163),
    (0x19E, 1, 1, 130), (0x1A1, 2, 3, -1), (0x1A8, 1, 1, -1), (0x1AD, 1, 1, -1),
    (0x1B0, 1, 1, -1), (0x1B4, 2, 2, -1), (0x1B9, 1, 1, -1), (0x1BD, 1, 1, -1), (0x1BF, 1, 1, 56),
    (0x1C5, 1, 1, -1), (0x1C6, 1, 1, -2), (0x1C8, 1, 1, -1), (0x1C9, 1, 1, -2), (0x1CB, 1, 1, -1),
    (0x1CC, 1, 1, -2), (0x1CE, 2, 8, -1), (0x1DD, 1, 1, -79), (0x1DF, 2, 9, -1),
    (0x1F2, 1, 1, -1), (0x1F3, 1, 1, -2), (0x1F5, 1, 1, -1), (0x1F9, 2, 20, -1),
    (0x223, 2, 9, -1), (0x23C, 1, 1, -1), (0x23F, 1, 2, 10815), (0x242, 1, 1, -1),
    (0x247, 2, 5, -1), (0x250, 1, 1, 10783), (0x251, 1, 1, 10780), (0x252, 1, 1, 10782),
    (0x253, 1, 1, -210), (0x254, 1, 1, -206), (0x256, 1, 2, -205), (0x259, 1, 1, -202),
    (0x25B, 1, 1, -203), (0x25C, 1, 1, 42319), (0x260, 1, 1, -205), (0x261, 1, 1, 42315),
    (0x263, 1, 1, -207), (0x265, 1, 1, 42280), (0x266, 1, 1, 42308), (0x268, 1, 1, -209),
    (0x269, 1, 1, -211), (0x26A, 1, 1, 42308), (0x26B, 1, 1, 10743), (0x26C, 1, 1, 42305),
    (0x26F, 1, 1, -211), (0x271, 1, 1, 10749), (0x272, 1, 1, -213), (0x275, 1, 1, -214),
    (0x27D, 1, 1, 10727), (0x280, 1, 1, -218), (0x282, 1, 1, 42307), (0x283, 1, 1, -218),
    (0x287, 1, 1, 42282), (0x288, 1, 1, -218), (0x289, 1, 1, -69), (0x28A, 1, 2, -217),
    (0x28C, 1, 1, -71), (0x292, 1, 1, -219), (0x29D, 1, 1, 42261), (0x29E, 1, 1, 42258),
    (0x345, 1, 1, 84), (0x371, 2, 2, -1), (0x377, 1, 1, -1), (0x37B, 1, 3, 130),
    (0x3AC, 1, 1, -38), (0x3AD, 1, 3, -37), (0x3B1, 1, 17, -32), (0x3C2, 1, 1, -31),
    (0x3C3, 1, 9, -32), (0x3CC, 1, 1, -64), (0x3CD, 1, 2, -63), (0x3D0, 1, 1, -62),
    (0x3D1, 1, 1, -57), (0x3D5, 1, 1, -47), (0x3D6, 1, 1, -54), (0x3D7, 1, 1, -8),
    (0x3D9, 2, 12, -1), (0x3F0, 1, 1, -86), (0x3F1, 1, 1, -80), (0x3F2, 1, 1, 7),
    (0x3F3, 1, 1, -116), (0x3F5, 1, 1, -96), (0x3F8, 1, 1, -1), (0x3FB, 1, 1, -1),
    (0x430, 1, 32, -32), (0x450, 1, 16, -80), (0x461, 2, 17, -1), (0x48B, 2, 27, -1),
    (0x4C2, 2, 7, -1), (0x4CF, 1, 1, -15), (0x4D1, 2, 48, -1), (0x561, 1, 38, -48),
    (0x10D0, 1, 43, 3008), (0x10FD, 1, 3, 3008), (0x13F8, 1, 6, -8), (0x1C80, 1, 1, -6254),
    (0x1C81, 1, 1, -6253), (0x1C82, 1, 1, -6244), (0x1C83, 1, 2, -6242), (0x1C85, 1, 1, -6243),
    (0x1C86, 1, 1, -6236), (0x1C87, 1, 1, -6181), (0x1C88, 1, 1, 35266), (0x1D79, 1, 1, 35332),
    (0x1D7D, 1, 1, 3814), (0x1D8E, 1, 1, 35384), (0x1E01, 2, 75, -1), (0x1E9B, 1, 1, -59),
    (0x1EA1, 2, 48, -1), (0x1F00, 1, 8, 8), (0x1F10, 1, 6, 8), (0x1F20, 1, 8, 8),
    (0x1F30, 1, 8, 8), (0x1F40, 1, 6, 8), (0x1F51, 2, 4, 8), (0x1F60, 1, 8, 8),
    (0x1F70, 1, 2, 74), (0x1F72, 1, 4, 86), (0x1F76, 1, 2, 100), (0x1F78, 1, 2, 128),
    (0x1F7A, 1, 2, 112), (0x1F7C, 1, 2, 126), (0x1FB0, 1, 2, 8), (0x1FBE, 1, 1, -7205),
    (0x1FD0, 1, 2, 8), (0x1FE0, 1, 2, 8), (0x1FE5, 1, 1, 7), (0x214E, 1, 1, -28),
    (0x2170, 1, 16, -16), (0x2184, 1, 1, -1), (0x24D0, 1, 26, -26), (0x2C30, 1, 48, -48),
    (0x2C61, 1, 1, -1), (0x2C65, 1, 1, -10795), (0x2C66, 1, 1, -10792), (0x2C68, 2, 3, -1),
    (0x2C73, 1, 1, -1), (0x2C76, 1, 1, -1), (0x2C81, 2, 50, -1), (0x2CEC, 2, 2, -1),
    (0x2CF3, 1, 1, -1), (0x2D00, 1, 38, -7264), (0x2D27, 1, 1, -7264), (0x2D2D, 1, 1, -7264),
    (0xA641, 2, 23, -1), (0xA681, 2, 14, -1), (0xA723, 2, 7, -1), (0xA733, 2, 31, -1),
    (0xA77A, 2, 2, -1), (0xA77F, 2, 5, -1), (0xA78C, 1, 1, -1), (0xA791, 2, 2, -1),
    (0xA794, 1, 1, 48), (0xA797, 2, 10, -1), (0xA7B5, 2, 8, -1), (0xA7C8, 2, 2, -1),
    (0xA7D1, 1, 1, -1), (0xA7D7, 2, 2, -1), (0xA7F6, 1, 1, -1), (0xAB53, 1, 1, -928),
    (0xAB70, 1, 80, -38864), (0xFF41, 1, 26, -32), (0x10428, 1, 40, -40), (0x104D8, 1, 36, -40),
    (0x10597, 2, 19, -39), (0x10598, 2, 5, -39), (0x105A4, 2, 7, -39), (0x105B4, 2, 3, -39),
    (0x105BC, 1, 1, -39), (0x10CC0, 1, 51, -64), (0x118C0, 1, 32, -32), (0x16E60, 1, 32, -32),
    (0x1E922, 1, 34, -34)]

/-- Characters whose upper case has several characters. -/
def upperSeveral : List (Nat × List Nat) :=
  [
    (0xDF, [0x53, 0x53]), (0x149, [0x2BC, 0x4E]), (0x1F0, [0x4A, 0x30C]),
    (0x390, [0x399, 0x308, 0x301]), (0x3B0, [0x3A5, 0x308, 0x301]), (0x587, [0x535, 0x552]),
    (0x1E96, [0x48, 0x331]), (0x1E97, [0x54, 0x308]), (0x1E98, [0x57, 0x30A]),
    (0x1E99, [0x59, 0x30A]), (0x1E9A, [0x41, 0x2BE]), (0x1F50, [0x3A5, 0x313]),
    (0x1F52, [0x3A5, 0x313, 0x300]), (0x1F54, [0x3A5, 0x313, 0x301]),
    (0x1F56, [0x3A5, 0x313, 0x342]), (0x1F80, [0x1F08, 0x399]), (0x1F81, [0x1F09, 0x399]),
    (0x1F82, [0x1F0A, 0x399]), (0x1F83, [0x1F0B, 0x399]), (0x1F84, [0x1F0C, 0x399]),
    (0x1F85, [0x1F0D, 0x399]), (0x1F86, [0x1F0E, 0x399]), (0x1F87, [0x1F0F, 0x399]),
    (0x1F88, [0x1F08, 0x399]), (0x1F89, [0x1F09, 0x399]), (0x1F8A, [0x1F0A, 0x399]),
    (0x1F8B, [0x1F0B, 0x399]), (0x1F8C, [0x1F0C, 0x399]), (0x1F8D, [0x1F0D, 0x399]),
    (0x1F8E, [0x1F0E, 0x399]), (0x1F8F, [0x1F0F, 0x399]), (0x1F90, [0x1F28, 0x399]),
    (0x1F91, [0x1F29, 0x399]), (0x1F92, [0x1F2A, 0x399]), (0x1F93, [0x1F2B, 0x399]),
    (0x1F94, [0x1F2C, 0x399]), (0x1F95, [0x1F2D, 0x399]), (0x1F96, [0x1F2E, 0x399]),
    (0x1F97, [0x1F2F, 0x399]), (0x1F98, [0x1F28, 0x399]), (0x1F99, [0x1F29, 0x399]),
    (0x1F9A, [0x1F2A, 0x399]), (0x1F9B, [0x1F2B, 0x399]), (0x1F9C, [0x1F2C, 0x399]),
    (0x1F9D, [0x1F2D, 0x399]), (0x1F9E, [0x1F2E, 0x399]), (0x1F9F, [0x1F2F, 0x399]),
    (0x1FA0, [0x1F68, 0x399]), (0x1FA1, [0x1F69, 0x399]), (0x1FA2, [0x1F6A, 0x399]),
    (0x1FA3, [0x1F6B, 0x399]), (0x1FA4, [0x1F6C, 0x399]), (0x1FA5, [0x1F6D, 0x399]),
    (0x1FA6, [0x1F6E, 0x399]), (0x1FA7, [0x1F6F, 0x399]), (0x1FA8, [0x1F68, 0x399]),
    (0x1FA9, [0x1F69, 0x399]), (0x1FAA, [0x1F6A, 0x399]), (0x1FAB, [0x1F6B, 0x399]),
    (0x1FAC, [0x1F6C, 0x399]), (0x1FAD, [0x1F6D, 0x399]), (0x1FAE, [0x1F6E, 0x399]),
    (0x1FAF, [0x1F6F, 0x399]), (0x1FB2, [0x1FBA, 0x399]), (0x1FB3, [0x391, 0x399]),
    (0x1FB4, [0x386, 0x399]), (0x1FB6, [0x391, 0x342]), (0x1FB7, [0x391, 0x342, 0x399]),
    (0x1FBC, [0x391, 0x399]), (0x1FC2, [0x1FCA, 0x399]), (0x1FC3, [0x397, 0x399]),
    (0x1FC4, [0x389, 0x399]), (0x1FC6, [0x397, 0x342]), (0x1FC7, [0x397, 0x342, 0x399]),
    (0x1FCC, [0x397, 0x399]), (0x1FD2, [0x399, 0x308, 0x300]), (0x1FD3, [0x399, 0x308, 0x301]),
    (0x1FD6, [0x399, 0x342]), (0x1FD7, [0x399, 0x308, 0x342]), (0x1FE2, [0x3A5, 0x308, 0x300]),
    (0x1FE3, [0x3A5, 0x308, 0x301]), (0x1FE4, [0x3A1, 0x313]), (0x1FE6, [0x3A5, 0x342]),
    (0x1FE7, [0x3A5, 0x308, 0x342]), (0x1FF2, [0x1FFA, 0x399]), (0x1FF3, [0x3A9, 0x399]),
    (0x1FF4, [0x38F, 0x399]), (0x1FF6, [0x3A9, 0x342]), (0x1FF7, [0x3A9, 0x342, 0x399]),
    (0x1FFC, [0x3A9, 0x399]), (0xFB00, [0x46, 0x46]), (0xFB01, [0x46, 0x49]),
    (0xFB02, [0x46, 0x4C]), (0xFB03, [0x46, 0x46, 0x49]), (0xFB04, [0x46, 0x46, 0x4C]),
    (0xFB05, [0x53, 0x54]), (0xFB06, [0x53, 0x54]), (0xFB13, [0x544, 0x546]),
    (0xFB14, [0x544, 0x535]), (0xFB15, [0x544, 0x53B]), (0xFB16, [0x54E, 0x546]),
    (0xFB17, [0x544, 0x53D])]

/-- The mapping to upper case. -/
def upperTable : CaseTable := ⟨upperRuns, upperSeveral⟩

/-- The image of one character. -/
def CaseTable.map (t : CaseTable) (c : Char) : List Char :=
  match t.several.find? fun e => e.1 == c.toNat with
  | some e => e.2.map Char.ofNat
  | none =>
    let run := t.runs.find? fun (first, step, count, _) =>
      first ≤ c.toNat && c.toNat < first + step * count && (c.toNat - first) % step == 0
    match run with
    | some (_, _, _, shift) => [Char.ofNat (c.toNat + shift).toNat]
    | none => [c]

/-- A text in lower case. -/
def toLower (s : String) : String := String.ofList (s.toList.flatMap lowerTable.map)

/-- A text in upper case. -/
def toUpper (s : String) : String := String.ofList (s.toList.flatMap upperTable.map)

end Bringup
