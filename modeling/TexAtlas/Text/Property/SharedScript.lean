/-
Characters that are used in other scripts than the one they are counted to. Most belong
to the common characters, and a few to one script but are used in others as well.
-/

import TexAtlas.Text.Property.Script

namespace TexAtlas.Text

/-- Characters and the scripts that use them, by their short names. -/
structure SharedCharacters where
  ranges : List (Nat × Nat)
  users : List String

private def sharedPart1 : List SharedCharacters :=
  [
    { ranges := [(0xb7, 0xb7)]
      users := ["avst", "cari", "copt", "dupl", "elba", "geor", "glag", "gong", "goth",
        "grek", "hani", "latn", "lydi", "mahj", "perm", "shaw"] },
    { ranges := [(0x2bc, 0x2bc)]
      users := ["beng", "cyrl", "deva", "latn", "lisu", "thai", "toto"] },
    { ranges := [(0x2c7, 0x2c7), (0x2c9, 0x2cb), (0x2d9, 0x2d9)]
      users := ["bopo", "latn"] },
    { ranges := [(0x2cd, 0x2cd)]
      users := ["latn", "lisu"] },
    { ranges := [(0x2d7, 0x2d7)]
      users := ["latn", "thai"] },
    { ranges := [(0x300, 0x300)]
      users := ["cher", "copt", "cyrl", "grek", "latn", "perm", "sunu", "tale"] },
    { ranges := [(0x301, 0x301)]
      users := ["cher", "cyrl", "grek", "latn", "osge", "sunu", "tale", "todr"] },
    { ranges := [(0x302, 0x302)]
      users := ["cher", "cyrl", "latn", "tfng"] },
    { ranges := [(0x303, 0x303)]
      users := ["glag", "latn", "sunu", "syrc", "thai"] },
    { ranges := [(0x304, 0x304)]
      users := ["aghb", "cher", "copt", "cyrl", "goth", "grek", "latn", "osge", "syrc",
        "tfng", "todr"] },
    { ranges := [(0x305, 0x305)]
      users := ["copt", "elba", "glag", "goth", "kana", "latn"] },
    { ranges := [(0x306, 0x306)]
      users := ["cyrl", "grek", "latn", "perm"] },
    { ranges := [(0x307, 0x307)]
      users := ["copt", "dupl", "hebr", "latn", "perm", "syrc", "tale", "tfng", "todr"] },
    { ranges := [(0x308, 0x308)]
      users := ["armn", "cyrl", "dupl", "goth", "grek", "hebr", "latn", "perm", "syrc",
        "tale"] },
    { ranges := [(0x309, 0x309)]
      users := ["latn", "tfng"] },
    { ranges := [(0x30a, 0x30a)]
      users := ["dupl", "latn", "syrc"] },
    { ranges := [(0x30b, 0x30b)]
      users := ["cher", "cyrl", "latn", "osge"] },
    { ranges := [(0x30c, 0x30c)]
      users := ["cher", "latn", "tale"] },
    { ranges := [(0x30d, 0x30d), (0x310, 0x310)]
      users := ["latn", "sunu"] },
    { ranges := [(0x30e, 0x30e)]
      users := ["ethi", "latn"] },
    { ranges := [(0x311, 0x311)]
      users := ["cyrl", "latn", "todr"] },
    { ranges := [(0x313, 0x313)]
      users := ["grek", "latn", "perm", "todr"] },
    { ranges := [(0x320, 0x320), (0x325, 0x325), (0x32e, 0x32e)]
      users := ["latn", "syrc"] },
    { ranges := [(0x323, 0x323)]
      users := ["cher", "dupl", "kana", "latn", "syrc"] },
    { ranges := [(0x324, 0x324)]
      users := ["cher", "dupl", "latn", "syrc"] },
    { ranges := [(0x32d, 0x32d)]
      users := ["latn", "sunu", "syrc"] },
    { ranges := [(0x330, 0x330)]
      users := ["cher", "latn", "syrc"] },
    { ranges := [(0x331, 0x331)]
      users := ["aghb", "cher", "goth", "latn", "sunu", "thai"] },
    { ranges := [(0x342, 0x342), (0x345, 0x345), (0x1dc0, 0x1dc1)]
      users := ["grek"] },
    { ranges := [(0x358, 0x358)]
      users := ["latn", "osge"] },
    { ranges := [(0x35e, 0x35e)]
      users := ["aghb", "latn", "todr"] },
    { ranges := [(0x363, 0x36f)]
      users := ["latn"] },
    { ranges := [(0x374, 0x375)]
      users := ["copt", "grek"] },
    { ranges := [(0x483, 0x483)]
      users := ["cyrl", "perm"] },
    { ranges := [(0x484, 0x484), (0x487, 0x487), (0x2e43, 0x2e43), (0xa66f, 0xa66f)]
      users := ["cyrl", "glag"] },
    { ranges := [(0x485, 0x486)]
      users := ["cyrl", "latn"] },
    { ranges := [(0x589, 0x589)]
      users := ["armn", "geor", "glag"] },
    { ranges := [(0x60c, 0x60c), (0x61b, 0x61b)]
      users := ["arab", "gara", "nkoo", "rohg", "syrc", "thaa", "yezi"] },
    { ranges := [(0x61c, 0x61c)]
      users := ["arab", "syrc", "thaa"] },
    { ranges := [(0x61f, 0x61f)]
      users := ["adlm", "arab", "gara", "nkoo", "rohg", "syrc", "thaa", "yezi"] },
    { ranges := [(0x640, 0x640)]
      users := ["adlm", "arab", "mand", "mani", "ougr", "phlp", "rohg", "sogd", "syrc"] },
    { ranges := [(0x64b, 0x655), (0x670, 0x670)]
      users := ["arab", "syrc"] },
    { ranges := [(0x660, 0x669)]
      users := ["arab", "thaa", "yezi"] },
    { ranges := [(0x6d4, 0x6d4)]
      users := ["arab", "rohg"] },
    { ranges := [(0x951, 0x951)]
      users := ["beng", "deva", "gran", "gujr", "guru", "knda", "latn", "mlym", "newa",
        "orya", "shrd", "taml", "telu", "tirh"] },
    { ranges := [(0x952, 0x952)]
      users := ["beng", "deva", "gran", "gujr", "guru", "knda", "latn", "mlym", "newa",
        "orya", "taml", "telu", "tirh"] },
    { ranges := [(0x964, 0x964)]
      users := ["beng", "deva", "dogr", "gong", "gonm", "gran", "gujr", "guru", "knda",
        "mahj", "mlym", "nand", "onao", "orya", "sind", "sinh", "sylo", "takr", "taml",
        "telu", "tirh"] },
    { ranges := [(0x965, 0x965)]
      users := ["beng", "deva", "dogr", "gong", "gonm", "gran", "gujr", "gukh", "guru",
        "knda", "limb", "mahj", "mlym", "nand", "onao", "orya", "sind", "sinh", "sylo",
        "takr", "taml", "telu", "tirh"] },
    { ranges := [(0x966, 0x96f)]
      users := ["deva", "dogr", "kthi", "mahj"] },
    { ranges := [(0x9e6, 0x9ef)]
      users := ["beng", "cakm", "sylo"] },
    { ranges := [(0xa66, 0xa6f)]
      users := ["guru", "mult"] },
    { ranges := [(0xae6, 0xaef)]
      users := ["gujr", "khoj"] }
  ]

private def sharedPart2 : List SharedCharacters :=
  [
    { ranges := [(0xbe6, 0xbf3), (0x11301, 0x11301), (0x11303, 0x11303), (0x1133b, 0x1133c),
        (0x11fd0, 0x11fd1), (0x11fd3, 0x11fd3)]
      users := ["gran", "taml"] },
    { ranges := [(0xce6, 0xcef)]
      users := ["knda", "nand"] },
    { ranges := [(0x1040, 0x1049)]
      users := ["cakm", "mymr", "tale"] },
    { ranges := [(0x10fb, 0x10fb)]
      users := ["geor", "glag", "latn"] },
    { ranges := [(0x1735, 0x1736)]
      users := ["buhd", "hano", "tagb", "tglg"] },
    { ranges := [(0x1802, 0x1803), (0x1805, 0x1805)]
      users := ["mong", "phag"] },
    { ranges := [(0x1cd0, 0x1cd0), (0x1cd2, 0x1cd2)]
      users := ["beng", "deva", "gran", "knda"] },
    { ranges := [(0x1cd1, 0x1cd1), (0x1cd4, 0x1cd4), (0x1cdb, 0x1cdb), (0x1cde, 0x1cdf),
        (0x1ce2, 0x1ce8), (0x1ceb, 0x1cec), (0x1cee, 0x1cf1)]
      users := ["deva"] },
    { ranges := [(0x1cd3, 0x1cd3), (0x1cf3, 0x1cf3), (0x1cf8, 0x1cf9)]
      users := ["deva", "gran"] },
    { ranges := [(0x1cd5, 0x1cd6), (0x1cd8, 0x1cd8), (0x1ce1, 0x1ce1), (0x1cea, 0x1cea),
        (0x1ced, 0x1ced), (0x1cf5, 0x1cf6), (0xa8f1, 0xa8f1)]
      users := ["beng", "deva"] },
    { ranges := [(0x1cd7, 0x1cd7), (0x1cd9, 0x1cd9), (0x1cdc, 0x1cdd), (0x1ce0, 0x1ce0)]
      users := ["deva", "shrd"] },
    { ranges := [(0x1cda, 0x1cda)]
      users := ["deva", "knda", "mlym", "orya", "taml", "telu"] },
    { ranges := [(0x1ce9, 0x1ce9)]
      users := ["deva", "nand"] },
    { ranges := [(0x1cf2, 0x1cf2)]
      users := ["beng", "deva", "gran", "knda", "nand", "orya", "telu", "tirh"] },
    { ranges := [(0x1cf4, 0x1cf4)]
      users := ["deva", "gran", "knda"] },
    { ranges := [(0x1cf7, 0x1cf7)]
      users := ["beng"] },
    { ranges := [(0x1cfa, 0x1cfa)]
      users := ["nand"] },
    { ranges := [(0x1df8, 0x1df8)]
      users := ["cyrl", "latn", "syrc"] },
    { ranges := [(0x1dfa, 0x1dfa)]
      users := ["syrc"] },
    { ranges := [(0x202f, 0x202f)]
      users := ["latn", "mong", "phag"] },
    { ranges := [(0x204f, 0x204f)]
      users := ["adlm", "arab"] },
    { ranges := [(0x2056, 0x2056)]
      users := ["cari"] },
    { ranges := [(0x205a, 0x205a)]
      users := ["cari", "geor", "glag", "hung", "lyci", "orkh"] },
    { ranges := [(0x205d, 0x205d)]
      users := ["cari", "grek", "hung", "mero"] },
    { ranges := [(0x20f0, 0x20f0)]
      users := ["deva", "gran", "latn"] },
    { ranges := [(0x2e17, 0x2e17)]
      users := ["copt"] },
    { ranges := [(0x2e30, 0x2e30)]
      users := ["avst", "orkh"] },
    { ranges := [(0x2e31, 0x2e31)]
      users := ["avst", "cari", "geor", "hung", "kthi", "lydi", "samr"] },
    { ranges := [(0x2e3c, 0x2e3c), (0x1bca0, 0x1bca3)]
      users := ["dupl"] },
    { ranges := [(0x2e41, 0x2e41)]
      users := ["adlm", "arab", "hung"] },
    { ranges := [(0x2ff0, 0x2fff), (0x31ef, 0x31ef)]
      users := ["hani", "tang"] },
    { ranges := [(0x3001, 0x3002), (0x3008, 0x3011), (0x3014, 0x301b), (0x30fb, 0x30fb),
        (0xff61, 0xff65)]
      users := ["bopo", "hang", "hani", "hira", "kana", "yiii"] },
    { ranges := [(0x3003, 0x3003), (0x3013, 0x3013), (0x301c, 0x301f), (0x3030, 0x3030),
        (0x3037, 0x3037), (0xfe45, 0xfe46)]
      users := ["bopo", "hang", "hani", "hira", "kana"] },
    { ranges := [(0x3006, 0x3006), (0x303e, 0x303f), (0x3190, 0x319f), (0x31c0, 0x31e5),
        (0x3220, 0x3247), (0x3280, 0x32b0), (0x32c0, 0x32cb), (0x32ff, 0x32ff),
        (0x3358, 0x3370), (0x337b, 0x337f), (0x33e0, 0x33fe), (0x1d360, 0x1d371),
        (0x1f250, 0x1f251)]
      users := ["hani"] },
    { ranges := [(0x302a, 0x302d)]
      users := ["bopo", "hani"] },
    { ranges := [(0x3031, 0x3035), (0x3099, 0x309c), (0x30a0, 0x30a0), (0x30fc, 0x30fc),
        (0xff70, 0xff70), (0xff9e, 0xff9f)]
      users := ["hira", "kana"] },
    { ranges := [(0x303c, 0x303d)]
      users := ["hani", "hira", "kana"] },
    { ranges := [(0xa700, 0xa707)]
      users := ["hani", "latn"] },
    { ranges := [(0xa830, 0xa832)]
      users := ["deva", "dogr", "gujr", "guru", "khoj", "knda", "kthi", "mahj", "mlym",
        "modi", "nand", "sind", "takr", "tirh"] },
    { ranges := [(0xa833, 0xa835)]
      users := ["deva", "dogr", "gujr", "guru", "khoj", "knda", "kthi", "mahj", "modi",
        "nand", "sind", "takr", "tirh"] },
    { ranges := [(0xa836, 0xa839)]
      users := ["deva", "dogr", "gujr", "guru", "khoj", "kthi", "mahj", "modi", "sind",
        "takr", "tirh"] },
    { ranges := [(0xa8f3, 0xa8f3)]
      users := ["deva", "taml"] },
    { ranges := [(0xa92e, 0xa92e)]
      users := ["kali", "latn", "mymr"] },
    { ranges := [(0xa9cf, 0xa9cf)]
      users := ["bugi", "java"] },
    { ranges := [(0xfd3e, 0xfd3f)]
      users := ["arab", "nkoo"] },
    { ranges := [(0xfdf2, 0xfdf2), (0xfdfd, 0xfdfd)]
      users := ["arab", "thaa"] },
    { ranges := [(0x10100, 0x10101)]
      users := ["cpmn", "cprt", "linb"] },
    { ranges := [(0x10102, 0x10102), (0x10137, 0x1013f)]
      users := ["cprt", "linb"] },
    { ranges := [(0x10107, 0x10133)]
      users := ["cprt", "lina", "linb"] },
    { ranges := [(0x102e0, 0x102fb)]
      users := ["arab", "copt"] },
    { ranges := [(0x10af2, 0x10af2)]
      users := ["mani", "ougr"] }
  ]

/-- The characters with an own list of scripts that use them. -/
def sharedCharacters : List SharedCharacters :=
  sharedPart1 ++ sharedPart2

/-- The characters of some lists together. -/
def rangesOf (lists : List SharedCharacters) : CharacterSet :=
  CharacterSet.anyOf (lists.map (fun shared => .listed shared.ranges))

/-- The characters used in a script: its own without those that have a list, and those
whose list holds its short name. -/
def charactersUsedIn (script : NamedSet) : CharacterSet :=
  let usedHere := sharedCharacters.filter (fun shared =>
    script.names.any (fun name => shared.users.contains name))
  .joined (.without script.members (rangesOf sharedCharacters)) (rangesOf usedHere)

end TexAtlas.Text
