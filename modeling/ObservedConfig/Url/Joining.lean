import ObservedConfig.Text.Mark

/-! Where a domain name may hold a character that joins its neighbours or keeps them apart: behind
a sign that takes the vowel from a consonant, or, to keep apart, between two joined letters. -/
namespace ObservedConfig.Url.Joining

/-- Signs that take the vowel from the consonant before them. -/
def vowelKillerRanges : List (Nat × Nat) := [
  (0x94d, 0x94d), (0x9cd, 0x9cd), (0xa4d, 0xa4d), (0xacd, 0xacd), (0xb4d, 0xb4d),
  (0xbcd, 0xbcd), (0xc4d, 0xc4d), (0xccd, 0xccd), (0xd3b, 0xd3c), (0xd4d, 0xd4d),
  (0xdca, 0xdca), (0xe3a, 0xe3a), (0xeba, 0xeba), (0xf84, 0xf84), (0x1039, 0x103a),
  (0x1714, 0x1715), (0x1734, 0x1734), (0x17d2, 0x17d2), (0x1a60, 0x1a60), (0x1b44, 0x1b44),
  (0x1baa, 0x1bab), (0x1bf2, 0x1bf3), (0x2d7f, 0x2d7f), (0xa806, 0xa806), (0xa82c, 0xa82c),
  (0xa8c4, 0xa8c4), (0xa953, 0xa953), (0xa9c0, 0xa9c0), (0xaaf6, 0xaaf6), (0xabed, 0xabed),
  (0x10a3f, 0x10a3f), (0x11046, 0x11046), (0x11070, 0x11070), (0x1107f, 0x1107f),
  (0x110b9, 0x110b9), (0x11133, 0x11134), (0x111c0, 0x111c0), (0x11235, 0x11235),
  (0x112ea, 0x112ea), (0x1134d, 0x1134d), (0x11442, 0x11442), (0x114c2, 0x114c2),
  (0x115bf, 0x115bf), (0x1163f, 0x1163f), (0x116b6, 0x116b6), (0x1172b, 0x1172b),
  (0x11839, 0x11839), (0x1193d, 0x1193e), (0x119e0, 0x119e0), (0x11a34, 0x11a34),
  (0x11a47, 0x11a47), (0x11a99, 0x11a99), (0x11c3f, 0x11c3f), (0x11d44, 0x11d45),
  (0x11d97, 0x11d97)]

/-- Arabic letters that join the letters on both sides. -/
def bothSidesRanges : List (Nat × Nat) := [
  (0x620, 0x620), (0x626, 0x626), (0x628, 0x628), (0x62a, 0x62e), (0x633, 0x63f), (0x641, 0x647),
  (0x649, 0x64a), (0x66e, 0x66f), (0x678, 0x687), (0x69a, 0x6bf), (0x6c1, 0x6c2), (0x6cc, 0x6cc),
  (0x6ce, 0x6ce), (0x6d0, 0x6d1), (0x6fa, 0x6fc), (0x6ff, 0x6ff)]

/-- Arabic letters that join the letter before them only. -/
def oneSideRanges : List (Nat × Nat) := [
  (0x622, 0x625), (0x627, 0x627), (0x629, 0x629), (0x62f, 0x632), (0x648, 0x648), (0x671, 0x673),
  (0x675, 0x677), (0x688, 0x699), (0x6c0, 0x6c0), (0x6c3, 0x6cb), (0x6cd, 0x6cd), (0x6cf, 0x6cf),
  (0x6d2, 0x6d3), (0x6d5, 0x6d5), (0x6ee, 0x6ef)]

def joinsNext (c : Char) : Bool := Text.among bothSidesRanges c
def joinsPrevious (c : Char) : Bool := Text.among bothSidesRanges c || Text.among oneSideRanges c

/-- Whether a joiner may stand between two texts, the first of them read backwards. -/
def allowed (joiner : Char) (before behind : List Char) : Bool :=
  before.head?.any (Text.among vowelKillerRanges) ||
    (joiner == '\u200c' && (before.dropWhile Text.isMark).head?.any joinsNext &&
      (behind.dropWhile Text.isMark).head?.any joinsPrevious)

def isJoiner (c : Char) : Bool := c == '\u200c' || c == '\u200d'

def allAllowed (before : List Char) : List Char → Bool
  | [] => true
  | c :: cs => (!isJoiner c || allowed c before cs) && allAllowed (c :: before) cs

end ObservedConfig.Url.Joining
