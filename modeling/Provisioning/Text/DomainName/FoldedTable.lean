import Provisioning.Text.Units

/-!
# Folding characters of domain names

In a domain name capital letters count as small ones, characters that are only forms of others count
as these, and some characters do not count at all. The table gives every character as the characters
that it counts as, taken apart into bases and marks. Most ranges of letters that only change by a
distance are kept as such.
-/

set_option autoImplicit false

namespace Provisioning.Text.DomainName

/-- Ranges in which every other character is a capital letter before its small letter. -/
def casePairs : List (Nat × Nat) :=
  [(0x246, 0x24E), (0x3D8, 0x3EE), (0x460, 0x474), (0x478, 0x480), (0x48A, 0x4BE), (0x4C3, 0x4CD),
   (0x4FA, 0x52E), (0x2C80, 0x2CE2), (0xA640, 0xA66C), (0xA680, 0xA69A), (0xA722, 0xA72E),
   (0xA732, 0xA76E), (0xA77E, 0xA786), (0xA796, 0xA7A8), (0xA7B4, 0xA7C2)]

/-- Ranges of characters that count as others at a distance. -/
def shiftedRanges : List (Nat × Nat × Int) :=
  [(0x391, 0x3A1, 32), (0x3A3, 0x3A9, 32), (0x410, 0x418, 32), (0x41A, 0x42F, 32),
   (0x531, 0x556, 48), (0x10A0, 0x10C5, 7264), (0x13A0, 0x13EF, 38864), (0x13F0, 0x13F5, 8),
   (0x1C90, 0x1CBA, -3008), (0x2074, 0x2079, -8256), (0x2080, 0x2089, -8272),
   (0x2460, 0x2468, -9263), (0x24B6, 0x24CF, -9301), (0x24D0, 0x24E9, -9327),
   (0x2C00, 0x2C2F, 48), (0x313A, 0x313F, -8074), (0x3145, 0x314E, -8252),
   (0x314F, 0x3163, -8174), (0x32E4, 0x32E9, -538), (0x32F5, 0x32FA, -525),
   (0xFF01, 0xFF20, -65248), (0xFF21, 0xFF3A, -65216), (0xFF3B, 0xFF5E, -65248),
   (0xFF85, 0xFF8A, -52923), (0xFF96, 0xFF9B, -52910), (0xFFAA, 0xFFAF, -60922),
   (0xFFB5, 0xFFBE, -61100), (0xFFC2, 0xFFC7, -61025), (0xFFCA, 0xFFCF, -61027),
   (0xFFD2, 0xFFD7, -61029), (0x10400, 0x10427, 40), (0x104B0, 0x104D3, 40),
   (0x10570, 0x1057A, 39), (0x1057C, 0x1058A, 39), (0x1058C, 0x10592, 39), (0x10C80, 0x10CB2, 64),
   (0x118A0, 0x118BF, 32), (0x16E40, 0x16E5F, 32), (0x1D400, 0x1D419, -119711),
   (0x1D41A, 0x1D433, -119737), (0x1D434, 0x1D44D, -119763), (0x1D44E, 0x1D454, -119789),
   (0x1D456, 0x1D467, -119789), (0x1D468, 0x1D481, -119815), (0x1D482, 0x1D49B, -119841),
   (0x1D4AE, 0x1D4B5, -119867), (0x1D4C5, 0x1D4CF, -119893), (0x1D4D0, 0x1D4E9, -119919),
   (0x1D4EA, 0x1D503, -119945), (0x1D50D, 0x1D514, -119971), (0x1D516, 0x1D51C, -119971),
   (0x1D51E, 0x1D537, -119997), (0x1D54A, 0x1D550, -120023), (0x1D552, 0x1D56B, -120049),
   (0x1D56C, 0x1D585, -120075), (0x1D586, 0x1D59F, -120101), (0x1D5A0, 0x1D5B9, -120127),
   (0x1D5BA, 0x1D5D3, -120153), (0x1D5D4, 0x1D5ED, -120179), (0x1D5EE, 0x1D607, -120205),
   (0x1D608, 0x1D621, -120231), (0x1D622, 0x1D63B, -120257), (0x1D63C, 0x1D655, -120283),
   (0x1D656, 0x1D66F, -120309), (0x1D670, 0x1D689, -120335), (0x1D68A, 0x1D6A3, -120361),
   (0x1D6A8, 0x1D6B8, -119543), (0x1D6BA, 0x1D6C0, -119543), (0x1D6C2, 0x1D6D2, -119569),
   (0x1D6D4, 0x1D6DA, -119569), (0x1D6E2, 0x1D6F2, -119601), (0x1D6F4, 0x1D6FA, -119601),
   (0x1D6FC, 0x1D70C, -119627), (0x1D70E, 0x1D714, -119627), (0x1D71C, 0x1D72C, -119659),
   (0x1D72E, 0x1D734, -119659), (0x1D736, 0x1D746, -119685), (0x1D748, 0x1D74E, -119685),
   (0x1D756, 0x1D766, -119717), (0x1D768, 0x1D76E, -119717), (0x1D770, 0x1D780, -119743),
   (0x1D782, 0x1D788, -119743), (0x1D790, 0x1D7A0, -119775), (0x1D7A2, 0x1D7A8, -119775),
   (0x1D7AA, 0x1D7BA, -119801), (0x1D7BC, 0x1D7C2, -119801), (0x1D7CE, 0x1D7D7, -120734),
   (0x1D7D8, 0x1D7E1, -120744), (0x1D7E2, 0x1D7EB, -120754), (0x1D7EC, 0x1D7F5, -120764),
   (0x1D7F6, 0x1D7FF, -120774), (0x1E900, 0x1E921, 34)]

/-- Characters that count as others of which some are above sixteen bits. -/
def foldedAbove : List (Nat × List Nat) :=
  [(0x1D15E, [0x1D157, 0x1D165]), (0x1D15F, [0x1D158, 0x1D165]),
   (0x1D160, [0x1D158, 0x1D165, 0x1D16E]), (0x1D161, [0x1D158, 0x1D165, 0x1D16F]),
   (0x1D162, [0x1D158, 0x1D165, 0x1D170]), (0x1D163, [0x1D158, 0x1D165, 0x1D171]),
   (0x1D164, [0x1D158, 0x1D165, 0x1D172]), (0x1D1BB, [0x1D1B9, 0x1D165]),
   (0x1D1BC, [0x1D1BA, 0x1D165]), (0x1D1BD, [0x1D1B9, 0x1D165, 0x1D16E]),
   (0x1D1BE, [0x1D1BA, 0x1D165, 0x1D16E]), (0x1D1BF, [0x1D1B9, 0x1D165, 0x1D16F]),
   (0x1D1C0, [0x1D1BA, 0x1D165, 0x1D16F])]

/-- What characters from a first one on count as, with line feeds between them. -/
def foldedRuns : List (Nat × String) :=
  [(0xA0, " "), (0xA8, " \u0308"), (0xAA, "a"), (0xAD, ""), (0xAF, " \u0304"),
   (0xB2, "2\n3\n \u0301\nμ"), (0xB8, " \u0327\n1\no"), (0xBC, "1⁄4\n1⁄2\n3⁄4"),
   (0xC0, "a\u0300\na\u0301\na\u0302\na\u0303\na\u0308\na\u030a\næ\nc\u0327\ne\u0300"),
   (0xC9, "e\u0301\ne\u0302\ne\u0308\ni\u0300\ni\u0301\ni\u0302\ni\u0308\nð\nn\u0303"),
   (0xD2, "o\u0300\no\u0301\no\u0302\no\u0303\no\u0308"),
   (0xD8, "ø\nu\u0300\nu\u0301\nu\u0302\nu\u0308\ny\u0301\nþ\nss\na\u0300\na\u0301"),
   (0xE2, "a\u0302\na\u0303\na\u0308\na\u030a"),
   (0xE7, "c\u0327\ne\u0300\ne\u0301\ne\u0302\ne\u0308\ni\u0300\ni\u0301\ni\u0302"),
   (0xEF, "i\u0308"), (0xF1, "n\u0303\no\u0300\no\u0301\no\u0302\no\u0303\no\u0308"),
   (0xF9, "u\u0300\nu\u0301\nu\u0302\nu\u0308\ny\u0301"),
   (0xFF, "y\u0308\na\u0304\na\u0304\na\u0306\na\u0306\na\u0328\na\u0328\nc\u0301"),
   (0x107, "c\u0301\nc\u0302\nc\u0302\nc\u0307\nc\u0307\nc\u030c\nc\u030c\nd\u030c"),
   (0x10F, "d\u030c\nđ"),
   (0x112, "e\u0304\ne\u0304\ne\u0306\ne\u0306\ne\u0307\ne\u0307\ne\u0328\ne\u0328"),
   (0x11A, "e\u030c\ne\u030c\ng\u0302\ng\u0302\ng\u0306\ng\u0306\ng\u0307\ng\u0307"),
   (0x122, "g\u0327\ng\u0327\nh\u0302\nh\u0302\nħ"),
   (0x128, "i\u0303\ni\u0303\ni\u0304\ni\u0304\ni\u0306\ni\u0306\ni\u0328\ni\u0328"),
   (0x130, "i\u0307"), (0x132, "ij\nij\nj\u0302\nj\u0302\nk\u0327\nk\u0327"),
   (0x139, "l\u0301\nl\u0301\nl\u0327\nl\u0327\nl\u030c\nl\u030c\nl·\nl·\nł"),
   (0x143, "n\u0301\nn\u0301\nn\u0327\nn\u0327\nn\u030c\nn\u030c\nʼn\nŋ"),
   (0x14C, "o\u0304\no\u0304\no\u0306\no\u0306\no\u030b\no\u030b\nœ"),
   (0x154, "r\u0301\nr\u0301\nr\u0327\nr\u0327\nr\u030c\nr\u030c\ns\u0301\ns\u0301"),
   (0x15C, "s\u0302\ns\u0302\ns\u0327\ns\u0327\ns\u030c\ns\u030c\nt\u0327\nt\u0327"),
   (0x164, "t\u030c\nt\u030c\nŧ"),
   (0x168, "u\u0303\nu\u0303\nu\u0304\nu\u0304\nu\u0306\nu\u0306\nu\u030a\nu\u030a"),
   (0x170, "u\u030b\nu\u030b\nu\u0328\nu\u0328\nw\u0302\nw\u0302\ny\u0302\ny\u0302"),
   (0x178, "y\u0308\nz\u0301\nz\u0301\nz\u0307\nz\u0307\nz\u030c\nz\u030c\ns"), (0x181, "ɓ\nƃ"),
   (0x184, "ƅ"), (0x186, "ɔ\nƈ"), (0x189, "ɖ\nɗ\nƌ"), (0x18E, "ǝ\nə\nɛ\nƒ"), (0x193, "ɠ\nɣ"),
   (0x196, "ɩ\nɨ\nƙ"), (0x19C, "ɯ\nɲ"), (0x19F, "ɵ\no\u031b\no\u031b\nƣ"), (0x1A4, "ƥ"),
   (0x1A6, "ʀ\nƨ"), (0x1A9, "ʃ"), (0x1AC, "ƭ"), (0x1AE, "ʈ\nu\u031b\nu\u031b\nʊ\nʋ\nƴ"),
   (0x1B5, "ƶ"), (0x1B7, "ʒ\nƹ"), (0x1BC, "ƽ"),
   (0x1C4, "dz\u030c\ndz\u030c\ndz\u030c\nlj\nlj\nlj\nnj\nnj\nnj\na\u030c\na\u030c"),
   (0x1CF, "i\u030c\ni\u030c\no\u030c\no\u030c\nu\u030c\nu\u030c\nu\u0308\u0304"),
   (0x1D6, "u\u0308\u0304\nu\u0308\u0301\nu\u0308\u0301\nu\u0308\u030c\nu\u0308\u030c"),
   (0x1DB, "u\u0308\u0300\nu\u0308\u0300"),
   (0x1DE, "a\u0308\u0304\na\u0308\u0304\na\u0307\u0304\na\u0307\u0304\næ\u0304\næ\u0304"),
   (0x1E4, "ǥ"), (0x1E6, "g\u030c\ng\u030c\nk\u030c\nk\u030c\no\u0328\no\u0328\no\u0328\u0304"),
   (0x1ED, "o\u0328\u0304\nʒ\u030c\nʒ\u030c\nj\u030c\ndz\ndz\ndz\ng\u0301\ng\u0301\nƕ\nƿ"),
   (0x1F8, "n\u0300\nn\u0300\na\u030a\u0301\na\u030a\u0301\næ\u0301\næ\u0301\nø\u0301"),
   (0x1FF, "ø\u0301\na\u030f\na\u030f\na\u0311\na\u0311\ne\u030f\ne\u030f\ne\u0311"),
   (0x207, "e\u0311\ni\u030f\ni\u030f\ni\u0311\ni\u0311\no\u030f\no\u030f\no\u0311"),
   (0x20F, "o\u0311\nr\u030f\nr\u030f\nr\u0311\nr\u0311\nu\u030f\nu\u030f\nu\u0311"),
   (0x217, "u\u0311\ns\u0326\ns\u0326\nt\u0326\nt\u0326\nȝ"), (0x21E, "h\u030c\nh\u030c\nƞ"),
   (0x222, "ȣ"), (0x224, "ȥ"),
   (0x226, "a\u0307\na\u0307\ne\u0327\ne\u0327\no\u0308\u0304\no\u0308\u0304"),
   (0x22C, "o\u0303\u0304\no\u0303\u0304\no\u0307\no\u0307\no\u0307\u0304\no\u0307\u0304"),
   (0x232, "y\u0304\ny\u0304"), (0x23A, "ⱥ\nȼ"), (0x23D, "ƚ\nⱦ"), (0x241, "ɂ"),
   (0x243, "ƀ\nʉ\nʌ"), (0x2B0, "h\nɦ\nj\nr\nɹ\nɻ\nʁ\nw\ny"),
   (0x2D8, " \u0306\n \u0307\n \u030a\n \u0328\n \u0303\n \u030b"), (0x2E0, "ɣ\nl\ns\nx\nʕ"),
   (0x340, "\u0300\n\u0301"), (0x343, "\u0313\n\u0308\u0301\nι"), (0x34F, ""), (0x370, "ͱ"),
   (0x372, "ͳ"), (0x374, "ʹ"), (0x376, "ͷ"), (0x37A, " ι"), (0x37E, ";\nϳ"),
   (0x384, " \u0301\n \u0308\u0301\nα\u0301\n·\nε\u0301\nη\u0301\nι\u0301"), (0x38C, "ο\u0301"),
   (0x38E, "υ\u0301\nω\u0301\nι\u0308\u0301"),
   (0x3AA, "ι\u0308\nυ\u0308\nα\u0301\nε\u0301\nη\u0301\nι\u0301\nυ\u0308\u0301"), (0x3C2, "σ"),
   (0x3CA, "ι\u0308\nυ\u0308\nο\u0301\nυ\u0301\nω\u0301\nϗ\nβ\nθ\nυ\nυ\u0301\nυ\u0308\nφ"),
   (0x3D6, "π"), (0x3F0, "κ\nρ\nσ"), (0x3F4, "θ\nε"), (0x3F7, "ϸ"), (0x3F9, "σ\nϻ"),
   (0x3FD, "ͻ\nͼ\nͽ\nе\u0300\nе\u0308\nђ\nг\u0301\nє\nѕ\nі\nі\u0308\nј\nљ\nњ\nћ\nк\u0301"),
   (0x40D, "и\u0300\nу\u0306\nџ"), (0x419, "и\u0306"), (0x439, "и\u0306"),
   (0x450, "е\u0300\nе\u0308"), (0x453, "г\u0301"), (0x457, "і\u0308"),
   (0x45C, "к\u0301\nи\u0300\nу\u0306"), (0x476, "ѵ\u030f\nѵ\u030f"),
   (0x4C0, "ӏ\nж\u0306\nж\u0306"), (0x4D0, "а\u0306\nа\u0306\nа\u0308\nа\u0308\nӕ"),
   (0x4D6, "е\u0306\nе\u0306\nә"),
   (0x4DA, "ә\u0308\nә\u0308\nж\u0308\nж\u0308\nз\u0308\nз\u0308\nӡ"),
   (0x4E2, "и\u0304\nи\u0304\nи\u0308\nи\u0308\nо\u0308\nо\u0308\nө"),
   (0x4EA, "ө\u0308\nө\u0308\nэ\u0308\nэ\u0308\nу\u0304\nу\u0304\nу\u0308\nу\u0308"),
   (0x4F2, "у\u030b\nу\u030b\nч\u0308\nч\u0308\nӷ"), (0x4F8, "ы\u0308\nы\u0308"), (0x587, "եւ"),
   (0x622, "\u0627\u0653\n\u0627\u0654\n\u0648\u0654\n\u0627\u0655\n\u064a\u0654"),
   (0x675, "\u0627\u0674\n\u0648\u0674\n\u06c7\u0674\n\u064a\u0674"), (0x6C0, "\u06d5\u0654"),
   (0x6C2, "\u06c1\u0654"), (0x6D3, "\u06d2\u0654"), (0x929, "न\u093c"), (0x931, "र\u093c"),
   (0x934, "ळ\u093c"),
   (0x958, "क\u093c\nख\u093c\nग\u093c\nज\u093c\nड\u093c\nढ\u093c\nफ\u093c\nय\u093c"),
   (0x9CB, "\u09c7\u09be\n\u09c7\u09d7"), (0x9DC, "ড\u09bc\nঢ\u09bc"), (0x9DF, "য\u09bc"),
   (0xA33, "ਲ\u0a3c"), (0xA36, "ਸ\u0a3c"), (0xA59, "ਖ\u0a3c\nਗ\u0a3c\nਜ\u0a3c"),
   (0xA5E, "ਫ\u0a3c"), (0xB48, "\u0b47\u0b56"), (0xB4B, "\u0b47\u0b3e\n\u0b47\u0b57"),
   (0xB5C, "ଡ\u0b3c\nଢ\u0b3c"), (0xB94, "ஒ\u0bd7"),
   (0xBCA, "\u0bc6\u0bbe\n\u0bc7\u0bbe\n\u0bc6\u0bd7"), (0xC48, "\u0c46\u0c56"),
   (0xCC0, "\u0cbf\u0cd5"), (0xCC7, "\u0cc6\u0cd5\n\u0cc6\u0cd6"),
   (0xCCA, "\u0cc6\u0cc2\n\u0cc6\u0cc2\u0cd5"),
   (0xD4A, "\u0d46\u0d3e\n\u0d47\u0d3e\n\u0d46\u0d57"), (0xDDA, "\u0dd9\u0dca"),
   (0xDDC, "\u0dd9\u0dcf\n\u0dd9\u0dcf\u0dca\n\u0dd9\u0ddf"), (0xE33, "\u0e4dา"),
   (0xEB3, "\u0ecdາ"), (0xEDC, "ຫນ\nຫມ"), (0xF0C, "་"), (0xF43, "ག\u0fb7"), (0xF4D, "ཌ\u0fb7"),
   (0xF52, "ད\u0fb7"), (0xF57, "བ\u0fb7"), (0xF5C, "ཛ\u0fb7"), (0xF69, "ཀ\u0fb5"),
   (0xF73, "\u0f71\u0f72"),
   (0xF75, "\u0f71\u0f74\n\u0fb2\u0f80\n\u0fb2\u0f71\u0f80\n\u0fb3\u0f80"),
   (0xF79, "\u0fb3\u0f71\u0f80"), (0xF81, "\u0f71\u0f80"), (0xF93, "\u0f92\u0fb7"),
   (0xF9D, "\u0f9c\u0fb7"), (0xFA2, "\u0fa1\u0fb7"), (0xFA7, "\u0fa6\u0fb7"),
   (0xFAC, "\u0fab\u0fb7"), (0xFB9, "\u0f90\u0fb5"), (0x1026, "ဥ\u102e"), (0x10C7, "ⴧ"),
   (0x10CD, "ⴭ"), (0x1806, ""), (0x180B, "\n\n"), (0x1CBD, "ჽ\nჾ\nჿ"),
   (0x1E00, "a\u0325\na\u0325\nb\u0307\nb\u0307\nb\u0323\nb\u0323\nb\u0331\nb\u0331"),
   (0x1E08, "c\u0327\u0301\nc\u0327\u0301\nd\u0307\nd\u0307\nd\u0323\nd\u0323\nd\u0331"),
   (0x1E0F, "d\u0331\nd\u0327\nd\u0327\nd\u032d\nd\u032d\ne\u0304\u0300\ne\u0304\u0300"),
   (0x1E16, "e\u0304\u0301\ne\u0304\u0301\ne\u032d\ne\u032d\ne\u0330\ne\u0330"),
   (0x1E1C, "e\u0327\u0306\ne\u0327\u0306\nf\u0307\nf\u0307\ng\u0304\ng\u0304\nh\u0307"),
   (0x1E23, "h\u0307\nh\u0323\nh\u0323\nh\u0308\nh\u0308\nh\u0327\nh\u0327\nh\u032e"),
   (0x1E2B, "h\u032e\ni\u0330\ni\u0330\ni\u0308\u0301\ni\u0308\u0301\nk\u0301\nk\u0301"),
   (0x1E32, "k\u0323\nk\u0323\nk\u0331\nk\u0331\nl\u0323\nl\u0323\nl\u0323\u0304"),
   (0x1E39, "l\u0323\u0304\nl\u0331\nl\u0331\nl\u032d\nl\u032d\nm\u0301\nm\u0301\nm\u0307"),
   (0x1E41, "m\u0307\nm\u0323\nm\u0323\nn\u0307\nn\u0307\nn\u0323\nn\u0323\nn\u0331"),
   (0x1E49, "n\u0331\nn\u032d\nn\u032d\no\u0303\u0301\no\u0303\u0301\no\u0303\u0308"),
   (0x1E4F, "o\u0303\u0308\no\u0304\u0300\no\u0304\u0300\no\u0304\u0301\no\u0304\u0301"),
   (0x1E54, "p\u0301\np\u0301\np\u0307\np\u0307\nr\u0307\nr\u0307\nr\u0323\nr\u0323"),
   (0x1E5C, "r\u0323\u0304\nr\u0323\u0304\nr\u0331\nr\u0331\ns\u0307\ns\u0307\ns\u0323"),
   (0x1E63, "s\u0323\ns\u0301\u0307\ns\u0301\u0307\ns\u030c\u0307\ns\u030c\u0307"),
   (0x1E68, "s\u0323\u0307\ns\u0323\u0307\nt\u0307\nt\u0307\nt\u0323\nt\u0323\nt\u0331"),
   (0x1E6F, "t\u0331\nt\u032d\nt\u032d\nu\u0324\nu\u0324\nu\u0330\nu\u0330\nu\u032d"),
   (0x1E77, "u\u032d\nu\u0303\u0301\nu\u0303\u0301\nu\u0304\u0308\nu\u0304\u0308\nv\u0303"),
   (0x1E7D, "v\u0303\nv\u0323\nv\u0323\nw\u0300\nw\u0300\nw\u0301\nw\u0301\nw\u0308"),
   (0x1E85, "w\u0308\nw\u0307\nw\u0307\nw\u0323\nw\u0323\nx\u0307\nx\u0307\nx\u0308"),
   (0x1E8D, "x\u0308\ny\u0307\ny\u0307\nz\u0302\nz\u0302\nz\u0323\nz\u0323\nz\u0331"),
   (0x1E95, "z\u0331\nh\u0331\nt\u0308\nw\u030a\ny\u030a\naʾ\ns\u0307"), (0x1E9E, "ss"),
   (0x1EA0, "a\u0323\na\u0323\na\u0309\na\u0309\na\u0302\u0301\na\u0302\u0301"),
   (0x1EA6, "a\u0302\u0300\na\u0302\u0300\na\u0302\u0309\na\u0302\u0309\na\u0302\u0303"),
   (0x1EAB, "a\u0302\u0303\na\u0323\u0302\na\u0323\u0302\na\u0306\u0301\na\u0306\u0301"),
   (0x1EB0, "a\u0306\u0300\na\u0306\u0300\na\u0306\u0309\na\u0306\u0309\na\u0306\u0303"),
   (0x1EB5, "a\u0306\u0303\na\u0323\u0306\na\u0323\u0306\ne\u0323\ne\u0323\ne\u0309"),
   (0x1EBB, "e\u0309\ne\u0303\ne\u0303\ne\u0302\u0301\ne\u0302\u0301\ne\u0302\u0300"),
   (0x1EC1, "e\u0302\u0300\ne\u0302\u0309\ne\u0302\u0309\ne\u0302\u0303\ne\u0302\u0303"),
   (0x1EC6, "e\u0323\u0302\ne\u0323\u0302\ni\u0309\ni\u0309\ni\u0323\ni\u0323\no\u0323"),
   (0x1ECD, "o\u0323\no\u0309\no\u0309\no\u0302\u0301\no\u0302\u0301\no\u0302\u0300"),
   (0x1ED3, "o\u0302\u0300\no\u0302\u0309\no\u0302\u0309\no\u0302\u0303\no\u0302\u0303"),
   (0x1ED8, "o\u0323\u0302\no\u0323\u0302\no\u031b\u0301\no\u031b\u0301\no\u031b\u0300"),
   (0x1EDD, "o\u031b\u0300\no\u031b\u0309\no\u031b\u0309\no\u031b\u0303\no\u031b\u0303"),
   (0x1EE2, "o\u031b\u0323\no\u031b\u0323\nu\u0323\nu\u0323\nu\u0309\nu\u0309"),
   (0x1EE8, "u\u031b\u0301\nu\u031b\u0301\nu\u031b\u0300\nu\u031b\u0300\nu\u031b\u0309"),
   (0x1EED, "u\u031b\u0309\nu\u031b\u0303\nu\u031b\u0303\nu\u031b\u0323\nu\u031b\u0323"),
   (0x1EF2, "y\u0300\ny\u0300\ny\u0323\ny\u0323\ny\u0309\ny\u0309\ny\u0303\ny\u0303\nỻ"),
   (0x1EFC, "ỽ"), (0x1EFE, "ỿ"),
   (0x1F00, "α\u0313\nα\u0314\nα\u0313\u0300\nα\u0314\u0300\nα\u0313\u0301\nα\u0314\u0301"),
   (0x1F06, "α\u0313\u0342\nα\u0314\u0342\nα\u0313\nα\u0314\nα\u0313\u0300\nα\u0314\u0300"),
   (0x1F0C, "α\u0313\u0301\nα\u0314\u0301\nα\u0313\u0342\nα\u0314\u0342\nε\u0313\nε\u0314"),
   (0x1F12, "ε\u0313\u0300\nε\u0314\u0300\nε\u0313\u0301\nε\u0314\u0301"),
   (0x1F18, "ε\u0313\nε\u0314\nε\u0313\u0300\nε\u0314\u0300\nε\u0313\u0301\nε\u0314\u0301"),
   (0x1F20, "η\u0313\nη\u0314\nη\u0313\u0300\nη\u0314\u0300\nη\u0313\u0301\nη\u0314\u0301"),
   (0x1F26, "η\u0313\u0342\nη\u0314\u0342\nη\u0313\nη\u0314\nη\u0313\u0300\nη\u0314\u0300"),
   (0x1F2C, "η\u0313\u0301\nη\u0314\u0301\nη\u0313\u0342\nη\u0314\u0342\nι\u0313\nι\u0314"),
   (0x1F32, "ι\u0313\u0300\nι\u0314\u0300\nι\u0313\u0301\nι\u0314\u0301\nι\u0313\u0342"),
   (0x1F37, "ι\u0314\u0342\nι\u0313\nι\u0314\nι\u0313\u0300\nι\u0314\u0300\nι\u0313\u0301"),
   (0x1F3D, "ι\u0314\u0301\nι\u0313\u0342\nι\u0314\u0342\nο\u0313\nο\u0314\nο\u0313\u0300"),
   (0x1F43, "ο\u0314\u0300\nο\u0313\u0301\nο\u0314\u0301"),
   (0x1F48, "ο\u0313\nο\u0314\nο\u0313\u0300\nο\u0314\u0300\nο\u0313\u0301\nο\u0314\u0301"),
   (0x1F50, "υ\u0313\nυ\u0314\nυ\u0313\u0300\nυ\u0314\u0300\nυ\u0313\u0301\nυ\u0314\u0301"),
   (0x1F56, "υ\u0313\u0342\nυ\u0314\u0342"), (0x1F59, "υ\u0314"), (0x1F5B, "υ\u0314\u0300"),
   (0x1F5D, "υ\u0314\u0301"),
   (0x1F5F, "υ\u0314\u0342\nω\u0313\nω\u0314\nω\u0313\u0300\nω\u0314\u0300\nω\u0313\u0301"),
   (0x1F65, "ω\u0314\u0301\nω\u0313\u0342\nω\u0314\u0342\nω\u0313\nω\u0314\nω\u0313\u0300"),
   (0x1F6B, "ω\u0314\u0300\nω\u0313\u0301\nω\u0314\u0301\nω\u0313\u0342\nω\u0314\u0342"),
   (0x1F70, "α\u0300\nα\u0301\nε\u0300\nε\u0301\nη\u0300\nη\u0301\nι\u0300\nι\u0301"),
   (0x1F78, "ο\u0300\nο\u0301\nυ\u0300\nυ\u0301\nω\u0300\nω\u0301"),
   (0x1F80, "α\u0313ι\nα\u0314ι\nα\u0313\u0300ι\nα\u0314\u0300ι\nα\u0313\u0301ι"),
   (0x1F85, "α\u0314\u0301ι\nα\u0313\u0342ι\nα\u0314\u0342ι\nα\u0313ι\nα\u0314ι"),
   (0x1F8A, "α\u0313\u0300ι\nα\u0314\u0300ι\nα\u0313\u0301ι\nα\u0314\u0301ι"),
   (0x1F8E, "α\u0313\u0342ι\nα\u0314\u0342ι\nη\u0313ι\nη\u0314ι\nη\u0313\u0300ι"),
   (0x1F93, "η\u0314\u0300ι\nη\u0313\u0301ι\nη\u0314\u0301ι\nη\u0313\u0342ι"),
   (0x1F97, "η\u0314\u0342ι\nη\u0313ι\nη\u0314ι\nη\u0313\u0300ι\nη\u0314\u0300ι"),
   (0x1F9C, "η\u0313\u0301ι\nη\u0314\u0301ι\nη\u0313\u0342ι\nη\u0314\u0342ι\nω\u0313ι"),
   (0x1FA1, "ω\u0314ι\nω\u0313\u0300ι\nω\u0314\u0300ι\nω\u0313\u0301ι\nω\u0314\u0301ι"),
   (0x1FA6, "ω\u0313\u0342ι\nω\u0314\u0342ι\nω\u0313ι\nω\u0314ι\nω\u0313\u0300ι"),
   (0x1FAB, "ω\u0314\u0300ι\nω\u0313\u0301ι\nω\u0314\u0301ι\nω\u0313\u0342ι"),
   (0x1FAF, "ω\u0314\u0342ι\nα\u0306\nα\u0304\nα\u0300ι\nαι\nα\u0301ι"),
   (0x1FB6, "α\u0342\nα\u0342ι\nα\u0306\nα\u0304\nα\u0300\nα\u0301\nαι\n \u0313\nι"),
   (0x1FBF, " \u0313\n \u0342\n \u0308\u0342\nη\u0300ι\nηι\nη\u0301ι"),
   (0x1FC6, "η\u0342\nη\u0342ι\nε\u0300\nε\u0301\nη\u0300\nη\u0301\nηι\n \u0313\u0300"),
   (0x1FCE, " \u0313\u0301\n \u0313\u0342\nι\u0306\nι\u0304\nι\u0308\u0300\nι\u0308\u0301"),
   (0x1FD6, "ι\u0342\nι\u0308\u0342\nι\u0306\nι\u0304\nι\u0300\nι\u0301"),
   (0x1FDD, " \u0314\u0300\n \u0314\u0301\n \u0314\u0342\nυ\u0306\nυ\u0304\nυ\u0308\u0300"),
   (0x1FE3, "υ\u0308\u0301\nρ\u0313\nρ\u0314\nυ\u0342\nυ\u0308\u0342\nυ\u0306\nυ\u0304"),
   (0x1FEA, "υ\u0300\nυ\u0301\nρ\u0314\n \u0308\u0300\n \u0308\u0301\n\x60"),
   (0x1FF2, "ω\u0300ι\nωι\nω\u0301ι"),
   (0x1FF6, "ω\u0342\nω\u0342ι\nο\u0300\nο\u0301\nω\u0300\nω\u0301\nωι\n \u0301\n \u0314"),
   (0x2000, " \n \n \n \n \n \n \n \n \n \n \n\n\n"), (0x2011, "‐"), (0x2017, " \u0333"),
   (0x2024, ".\n..\n..."), (0x202F, " "), (0x2033, "′′\n′′′"), (0x2036, "‵‵\n‵‵‵"),
   (0x203C, "!!"), (0x203E, " \u0305"), (0x2047, "??\n?!\n!?"), (0x2057, "′′′′"), (0x205F, " \n"),
   (0x2070, "0\ni"), (0x207A, "+\n−\n=\n(\n)\nn"), (0x208A, "+\n−\n=\n(\n)"), (0x20A8, "rs"),
   (0x2100, "a/c\na/s\nc\n°c"), (0x2105, "c/o\nc/u\nɛ"),
   (0x2109, "°f\ng\nh\nh\nh\nh\nħ\ni\ni\nl\nl"), (0x2115, "n\nno"), (0x2119, "p\nq\nr\nr\nr"),
   (0x2120, "sm\ntel\ntm"), (0x2124, "z"), (0x2126, "ω"), (0x2128, "z"),
   (0x212A, "k\na\u030a\nb\nc"), (0x212F, "e\ne\nf\nⅎ\nm\no\n\u05d0\n\u05d1\n\u05d2\n\u05d3\ni"),
   (0x213D, "γ\nγ\nπ\n∑"), (0x2145, "d\nd\ne\ni\nj"),
   (0x2153, "1⁄3\n2⁄3\n1⁄5\n2⁄5\n3⁄5\n4⁄5\n1⁄6\n5⁄6\n1⁄8\n3⁄8\n5⁄8\n7⁄8\n1⁄\ni\nii\niii"),
   (0x2163, "iv\nv\nvi\nvii\nviii\nix\nx\nxi\nxii\nl\nc\nd\nm\ni\nii\niii\niv\nv\nvi\nvii"),
   (0x2177, "viii\nix\nx\nxi\nxii\nl\nc\nd\nm"), (0x2183, "ↄ"), (0x219A, "←\u0338\n→\u0338"),
   (0x21AE, "↔\u0338"), (0x21CD, "⇐\u0338\n⇔\u0338\n⇒\u0338"), (0x2204, "∃\u0338"),
   (0x2209, "∈\u0338"), (0x220C, "∋\u0338"), (0x2224, "∣\u0338"), (0x2226, "∥\u0338"),
   (0x222C, "∫∫\n∫∫∫"), (0x222F, "∮∮\n∮∮∮"), (0x2241, "∼\u0338"), (0x2244, "≃\u0338"),
   (0x2247, "≅\u0338"), (0x2249, "≈\u0338"), (0x2260, "=\u0338"), (0x2262, "≡\u0338"),
   (0x226D, "≍\u0338\n<\u0338\n>\u0338\n≤\u0338\n≥\u0338"), (0x2274, "≲\u0338\n≳\u0338"),
   (0x2278, "≶\u0338\n≷\u0338"), (0x2280, "≺\u0338\n≻\u0338"), (0x2284, "⊂\u0338\n⊃\u0338"),
   (0x2288, "⊆\u0338\n⊇\u0338"), (0x22AC, "⊢\u0338\n⊨\u0338\n⊩\u0338\n⊫\u0338"),
   (0x22E0, "≼\u0338\n≽\u0338\n⊑\u0338\n⊒\u0338"), (0x22EA, "⊲\u0338\n⊳\u0338\n⊴\u0338\n⊵\u0338"),
   (0x2329, "〈\n〉"),
   (0x2469, "10\n11\n12\n13\n14\n15\n16\n17\n18\n19\n20\n(1)\n(2)\n(3)\n(4)\n(5)\n(6)"),
   (0x247A, "(7)\n(8)\n(9)\n(10)\n(11)\n(12)\n(13)\n(14)\n(15)\n(16)\n(17)\n(18)\n(19)"),
   (0x2487, "(20)\n1.\n2.\n3.\n4.\n5.\n6.\n7.\n8.\n9.\n10.\n11.\n12.\n13.\n14.\n15.\n16."),
   (0x2498, "17.\n18.\n19.\n20.\n(a)\n(b)\n(c)\n(d)\n(e)\n(f)\n(g)\n(h)\n(i)\n(j)\n(k)"),
   (0x24A7, "(l)\n(m)\n(n)\n(o)\n(p)\n(q)\n(r)\n(s)\n(t)\n(u)\n(v)\n(w)\n(x)\n(y)\n(z)"),
   (0x24EA, "0"), (0x2A0C, "∫∫∫∫"), (0x2A74, "::=\n==\n==="), (0x2ADC, "⫝\u0338"), (0x2C60, "ⱡ"),
   (0x2C62, "ɫ\nᵽ\nɽ"), (0x2C67, "ⱨ"), (0x2C69, "ⱪ"), (0x2C6B, "ⱬ"), (0x2C6D, "ɑ\nɱ\nɐ\nɒ"),
   (0x2C72, "ⱳ"), (0x2C75, "ⱶ"), (0x2C7E, "ȿ\nɀ"), (0x2CEB, "ⳬ"), (0x2CED, "ⳮ"), (0x2CF2, "ⳳ"),
   (0x2E9F, "母"), (0x2EF3, "龟"),
   (0x2F00, "一\n丨\n丶\n丿\n乙\n亅\n二\n亠\n人\n儿\n入\n八\n冂\n冖\n冫\n几\n凵\n刀\n力"),
   (0x2F13, "勹\n匕\n匚\n匸\n十\n卜\n卩\n厂\n厶\n又\n口\n囗\n土\n士\n夂\n夊\n夕\n大\n女"),
   (0x2F26, "子\n宀\n寸\n小\n尢\n尸\n屮\n山\n巛\n工\n己\n巾\n干\n幺\n广\n廴\n廾\n弋\n弓"),
   (0x2F39, "彐\n彡\n彳\n心\n戈\n戶\n手\n支\n攴\n文\n斗\n斤\n方\n无\n日\n曰\n月\n木\n欠"),
   (0x2F4C, "止\n歹\n殳\n毋\n比\n毛\n氏\n气\n水\n火\n爪\n父\n爻\n爿\n片\n牙\n牛\n犬\n玄"),
   (0x2F5F, "玉\n瓜\n瓦\n甘\n生\n用\n田\n疋\n疒\n癶\n白\n皮\n皿\n目\n矛\n矢\n石\n示\n禸"),
   (0x2F72, "禾\n穴\n立\n竹\n米\n糸\n缶\n网\n羊\n羽\n老\n而\n耒\n耳\n聿\n肉\n臣\n自\n至"),
   (0x2F85, "臼\n舌\n舛\n舟\n艮\n色\n艸\n虍\n虫\n血\n行\n衣\n襾\n見\n角\n言\n谷\n豆\n豕"),
   (0x2F98, "豸\n貝\n赤\n走\n足\n身\n車\n辛\n辰\n辵\n邑\n酉\n釆\n里\n金\n長\n門\n阜\n隶"),
   (0x2FAB, "隹\n雨\n靑\n非\n面\n革\n韋\n韭\n音\n頁\n風\n飛\n食\n首\n香\n馬\n骨\n高\n髟"),
   (0x2FBE, "鬥\n鬯\n鬲\n鬼\n魚\n鳥\n鹵\n鹿\n麥\n麻\n黃\n黍\n黑\n黹\n黽\n鼎\n鼓\n鼠\n鼻"),
   (0x2FD1, "齊\n齒\n龍\n龜\n龠"), (0x3000, " "), (0x3036, "〒"), (0x3038, "十\n卄\n卅"),
   (0x304C, "か\u3099"), (0x304E, "き\u3099"), (0x3050, "く\u3099"), (0x3052, "け\u3099"),
   (0x3054, "こ\u3099"), (0x3056, "さ\u3099"), (0x3058, "し\u3099"), (0x305A, "す\u3099"),
   (0x305C, "せ\u3099"), (0x305E, "そ\u3099"), (0x3060, "た\u3099"), (0x3062, "ち\u3099"),
   (0x3065, "つ\u3099"), (0x3067, "て\u3099"), (0x3069, "と\u3099"),
   (0x3070, "は\u3099\nは\u309a"), (0x3073, "ひ\u3099\nひ\u309a"), (0x3076, "ふ\u3099\nふ\u309a"),
   (0x3079, "へ\u3099\nへ\u309a"), (0x307C, "ほ\u3099\nほ\u309a"), (0x3094, "う\u3099"),
   (0x309B, " \u3099\n \u309a"), (0x309E, "ゝ\u3099\nより"), (0x30AC, "カ\u3099"),
   (0x30AE, "キ\u3099"), (0x30B0, "ク\u3099"), (0x30B2, "ケ\u3099"), (0x30B4, "コ\u3099"),
   (0x30B6, "サ\u3099"), (0x30B8, "シ\u3099"), (0x30BA, "ス\u3099"), (0x30BC, "セ\u3099"),
   (0x30BE, "ソ\u3099"), (0x30C0, "タ\u3099"), (0x30C2, "チ\u3099"), (0x30C5, "ツ\u3099"),
   (0x30C7, "テ\u3099"), (0x30C9, "ト\u3099"), (0x30D0, "ハ\u3099\nハ\u309a"),
   (0x30D3, "ヒ\u3099\nヒ\u309a"), (0x30D6, "フ\u3099\nフ\u309a"), (0x30D9, "ヘ\u3099\nヘ\u309a"),
   (0x30DC, "ホ\u3099\nホ\u309a"), (0x30F4, "ウ\u3099"),
   (0x30F7, "ワ\u3099\nヰ\u3099\nヱ\u3099\nヲ\u3099"), (0x30FE, "ヽ\u3099\nコト"),
   (0x3131, "\u1100\n\u1101\n\u11aa\n\u1102\n\u11ac\n\u11ad\n\u1103\n\u1104\n\u1105"),
   (0x3140, "\u111a\n\u1106\n\u1107\n\u1108\n\u1121"),
   (0x3164, "\u1160\n\u1114\n\u1115\n\u11c7\n\u11c8\n\u11cc\n\u11ce\n\u11d3\n\u11d7"),
   (0x316D, "\u11d9\n\u111c\n\u11dd\n\u11df\n\u111d\n\u111e\n\u1120\n\u1122\n\u1123"),
   (0x3176, "\u1127\n\u1129\n\u112b\n\u112c\n\u112d\n\u112e\n\u112f\n\u1132\n\u1136"),
   (0x317F, "\u1140\n\u1147\n\u114c\n\u11f1\n\u11f2\n\u1157\n\u1158\n\u1159\n\u1184"),
   (0x3188, "\u1185\n\u1188\n\u1191\n\u1192\n\u1194\n\u119e\n\u11a1"),
   (0x3192, "一\n二\n三\n四\n上\n中\n下\n甲\n乙\n丙\n丁\n天\n地\n人"),
   (0x3200, "(\u1100)\n(\u1102)\n(\u1103)\n(\u1105)\n(\u1106)\n(\u1107)\n(\u1109)"),
   (0x3207, "(\u110b)\n(\u110c)\n(\u110e)\n(\u110f)\n(\u1110)\n(\u1111)\n(\u1112)"),
   (0x320E, "(\u1100\u1161)\n(\u1102\u1161)\n(\u1103\u1161)\n(\u1105\u1161)"),
   (0x3212, "(\u1106\u1161)\n(\u1107\u1161)\n(\u1109\u1161)\n(\u110b\u1161)"),
   (0x3216, "(\u110c\u1161)\n(\u110e\u1161)\n(\u110f\u1161)\n(\u1110\u1161)"),
   (0x321A, "(\u1111\u1161)\n(\u1112\u1161)\n(\u110c\u116e)"),
   (0x3220, "(一)\n(二)\n(三)\n(四)\n(五)\n(六)\n(七)\n(八)\n(九)\n(十)\n(月)\n(火)\n(水)"),
   (0x322D, "(木)\n(金)\n(土)\n(日)\n(株)\n(有)\n(社)\n(名)\n(特)\n(財)\n(祝)\n(労)\n(代)"),
   (0x323A, "(呼)\n(学)\n(監)\n(企)\n(資)\n(協)\n(祭)\n(休)\n(自)\n(至)"),
   (0x3251, "21\n22\n23\n24\n25\n26\n27\n28\n29\n30\n31\n32\n33\n34\n35\n\u1100\n\u1102"),
   (0x3262, "\u1103\n\u1105\n\u1106\n\u1107\n\u1109\n\u110b\n\u110c\n\u110e\n\u110f"),
   (0x326B, "\u1110\n\u1111\n\u1112\n\u1100\u1161\n\u1102\u1161\n\u1103\u1161"),
   (0x3271, "\u1105\u1161\n\u1106\u1161\n\u1107\u1161\n\u1109\u1161\n\u110b\u1161"),
   (0x3276, "\u110c\u1161\n\u110e\u1161\n\u110f\u1161\n\u1110\u1161\n\u1111\u1161"),
   (0x327B, "\u1112\u1161"),
   (0x3280, "一\n二\n三\n四\n五\n六\n七\n八\n九\n十\n月\n火\n水\n木\n金\n土\n日\n株\n有"),
   (0x3293, "社\n名\n特\n財\n祝\n労\n秘\n男\n女\n適\n優\n印\n注\n項\n休\n写\n正\n上\n中"),
   (0x32A6, "下\n左\n右\n医\n宗\n学\n監\n企\n資\n協\n夜\n36\n37\n38\n39\n40\n41\n42\n43"),
   (0x32B9, "44\n45\n46\n47\n48\n49\n50\n1月\n2月\n3月\n4月\n5月\n6月\n7月\n8月\n9月"),
   (0x32C9, "10月\n11月\n12月"),
   (0x32D0, "ア\nイ\nウ\nエ\nオ\nカ\nキ\nク\nケ\nコ\nサ\nシ\nス\nセ\nソ\nタ\nチ\nツ\nテ"),
   (0x32E3, "ト"), (0x32EA, "ヒ\nフ\nヘ\nホ\nマ\nミ\nム\nメ\nモ\nヤ\nユ"),
   (0x32FB, "ワ\nヰ\nヱ\nヲ"),
   (0x3300, "アハ\u309aート\nアルファ\nアンヘ\u309aア\nアール\nイニンク\u3099\nインチ"),
   (0x3306, "ウォン\nエスクート\u3099\nエーカー\nオンス\nオーム\nカイリ\nカラット"),
   (0x330D, "カロリー\nカ\u3099ロン\nカ\u3099ンマ\nキ\u3099カ\u3099\nキ\u3099ニー"),
   (0x3312, "キュリー\nキ\u3099ルタ\u3099ー\nキロ\nキロク\u3099ラム\nキロメートル"),
   (0x3317, "キロワット\nク\u3099ラム\nク\u3099ラムトン\nクルセ\u3099イロ\nクローネ"),
   (0x331C, "ケース\nコルナ\nコーホ\u309a\nサイクル\nサンチーム\nシリンク\u3099\nセンチ"),
   (0x3323, "セント\nタ\u3099ース\nテ\u3099シ\nト\u3099ル\nトン\nナノ\nノット\nハイツ"),
   (0x332B, "ハ\u309aーセント\nハ\u309aーツ\nハ\u3099ーレル\nヒ\u309aアストル"),
   (0x332F, "ヒ\u309aクル\nヒ\u309aコ\nヒ\u3099ル\nファラット\u3099\nフィート"),
   (0x3334, "フ\u3099ッシェル\nフラン\nヘクタール\nヘ\u309aソ\nヘ\u309aニヒ\nヘルツ"),
   (0x333A, "ヘ\u309aンス\nヘ\u309aーシ\u3099\nヘ\u3099ータ\nホ\u309aイント\nホ\u3099ルト"),
   (0x333F, "ホン\nホ\u309aント\u3099\nホール\nホーン\nマイクロ\nマイル\nマッハ\nマルク"),
   (0x3347, "マンション\nミクロン\nミリ\nミリハ\u3099ール\nメカ\u3099\nメカ\u3099トン"),
   (0x334D, "メートル\nヤート\u3099\nヤール\nユアン\nリットル\nリラ\nルヒ\u309aー"),
   (0x3354, "ルーフ\u3099ル\nレム\nレントケ\u3099ン\nワット\n0点\n1点\n2点\n3点\n4点\n5点"),
   (0x335E, "6点\n7点\n8点\n9点\n10点\n11点\n12点\n13点\n14点\n15点\n16点\n17点\n18点"),
   (0x336B, "19点\n20点\n21点\n22点\n23点\n24点\nhpa\nda\nau\nbar\nov\npc"),
   (0x337B, "平成\n昭和\n大正\n明治\n株式会社\npa\nna\nμa\nma\nka\nkb\nmb\ngb\ncal\nkcal"),
   (0x338A, "pf\nnf\nμf\nμg\nmg\nkg\nhz\nkhz\nmhz\nghz\nthz\nμl\nml\ndl\nkl\nfm\nnm\nμm"),
   (0x339C, "mm\ncm\nkm\nmm2\ncm2\nm2\nkm2\nmm3\ncm3\nm3\nkm3\nm∕s\nm∕s2\npa\nkpa\nmpa"),
   (0x33AC, "gpa\nrad\nrad∕s\nrad∕s2\nps\nns\nμs\nms\npv\nnv\nμv\nmv\nkv\nmv\npw\nnw\nμw"),
   (0x33BD, "mw\nkw\nmw\nkω\nmω\na.m.\nbq\ncc\ncd\nc∕kg\nco.\ndb\ngy\nha\nhp\nin\nkk\nkm"),
   (0x33CF, "kt\nlm\nln\nlog\nlx\nmb\nmil\nmol\nph\np.m.\nppm\npr\nsr\nsv\nwb"),
   (0x33E0, "1日\n2日\n3日\n4日\n5日\n6日\n7日\n8日\n9日\n10日\n11日\n12日\n13日\n14日"),
   (0x33EE, "15日\n16日\n17日\n18日\n19日\n20日\n21日\n22日\n23日\n24日\n25日\n26日\n27日"),
   (0x33FB, "28日\n29日\n30日\n31日"), (0xA779, "ꝺ"), (0xA77B, "ꝼ"), (0xA77D, "ᵹ"), (0xA78B, "ꞌ"),
   (0xA78D, "ɥ"), (0xA790, "ꞑ"), (0xA792, "ꞓ"), (0xA7AA, "ɦ\nɜ\nɡ\nɬ\nɪ"), (0xA7B0, "ʞ\nʇ\nʝ\nꭓ"),
   (0xA7C4, "ꞔ\nʂ\nᶎ\nꟈ"), (0xA7C9, "ꟊ"), (0xA7D0, "ꟑ"), (0xA7D6, "ꟗ"), (0xA7D8, "ꟙ"),
   (0xA7F5, "ꟶ"),
   (0xF900, "豈\n更\n車\n賈\n滑\n串\n句\n龜\n龜\n契\n金\n喇\n奈\n懶\n癩\n羅\n蘿\n螺\n裸"),
   (0xF913, "邏\n樂\n洛\n烙\n珞\n落\n酪\n駱\n亂\n卵\n欄\n爛\n蘭\n鸞\n嵐\n濫\n藍\n襤\n拉"),
   (0xF926, "臘\n蠟\n廊\n朗\n浪\n狼\n郎\n來\n冷\n勞\n擄\n櫓\n爐\n盧\n老\n蘆\n虜\n路\n露"),
   (0xF939, "魯\n鷺\n碌\n祿\n綠\n菉\n錄\n鹿\n論\n壟\n弄\n籠\n聾\n牢\n磊\n賂\n雷\n壘\n屢"),
   (0xF94C, "樓\n淚\n漏\n累\n縷\n陋\n勒\n肋\n凜\n凌\n稜\n綾\n菱\n陵\n讀\n拏\n樂\n諾\n丹"),
   (0xF95F, "寧\n怒\n率\n異\n北\n磻\n便\n復\n不\n泌\n數\n索\n參\n塞\n省\n葉\n說\n殺\n辰"),
   (0xF972, "沈\n拾\n若\n掠\n略\n亮\n兩\n凉\n梁\n糧\n良\n諒\n量\n勵\n呂\n女\n廬\n旅\n濾"),
   (0xF985, "礪\n閭\n驪\n麗\n黎\n力\n曆\n歷\n轢\n年\n憐\n戀\n撚\n漣\n煉\n璉\n秊\n練\n聯"),
   (0xF998, "輦\n蓮\n連\n鍊\n列\n劣\n咽\n烈\n裂\n說\n廉\n念\n捻\n殮\n簾\n獵\n令\n囹\n寧"),
   (0xF9AB, "嶺\n怜\n玲\n瑩\n羚\n聆\n鈴\n零\n靈\n領\n例\n禮\n醴\n隸\n惡\n了\n僚\n寮\n尿"),
   (0xF9BE, "料\n樂\n燎\n療\n蓼\n遼\n龍\n暈\n阮\n劉\n杻\n柳\n流\n溜\n琉\n留\n硫\n紐\n類"),
   (0xF9D1, "六\n戮\n陸\n倫\n崙\n淪\n輪\n律\n慄\n栗\n率\n隆\n利\n吏\n履\n易\n李\n梨\n泥"),
   (0xF9E4, "理\n痢\n罹\n裏\n裡\n里\n離\n匿\n溺\n吝\n燐\n璘\n藺\n隣\n鱗\n麟\n林\n淋\n臨"),
   (0xF9F7, "立\n笠\n粒\n狀\n炙\n識\n什\n茶\n刺\n切\n度\n拓\n糖\n宅\n洞\n暴\n輻\n行\n降"),
   (0xFA0A, "見\n廓\n兀\n嗀"), (0xFA10, "塚"), (0xFA12, "晴"),
   (0xFA15, "凞\n猪\n益\n礼\n神\n祥\n福\n靖\n精\n羽"), (0xFA20, "蘒"), (0xFA22, "諸"),
   (0xFA25, "逸\n都"), (0xFA2A, "飯\n飼\n館\n鶴"),
   (0xFA30, "侮\n僧\n免\n勉\n勤\n卑\n喝\n嘆\n器\n塀\n墨\n層\n屮\n悔\n慨\n憎\n懲\n敏\n既"),
   (0xFA43, "暑\n梅\n海\n渚\n漢\n煮\n爫\n琢\n碑\n社\n祉\n祈\n祐\n祖\n祝\n禍\n禎\n穀\n突"),
   (0xFA56, "節\n練\n縉\n繁\n署\n者\n臭\n艹\n艹\n著\n褐\n視\n謁\n謹\n賓\n贈\n辶\n逸\n難"),
   (0xFA69, "響\n頻"), (0xFB00, "ff\nfi\nfl\nffi\nffl\nst\nst"), (0xFB13, "մն\nմե\nմի\nվն\nմխ"),
   (0xFB1D, "\u05d9\u05b4"),
   (0xFB1F, "\u05f2\u05b7\n\u05e2\n\u05d0\n\u05d3\n\u05d4\n\u05db\n\u05dc\n\u05dd\n\u05e8"),
   (0xFB28, "\u05ea\n+\n\u05e9\u05c1\n\u05e9\u05c2\n\u05e9\u05bc\u05c1"),
   (0xFB2D, "\u05e9\u05bc\u05c2\n\u05d0\u05b7\n\u05d0\u05b8\n\u05d0\u05bc\n\u05d1\u05bc"),
   (0xFB32, "\u05d2\u05bc\n\u05d3\u05bc\n\u05d4\u05bc\n\u05d5\u05bc\n\u05d6\u05bc"),
   (0xFB38, "\u05d8\u05bc\n\u05d9\u05bc\n\u05da\u05bc\n\u05db\u05bc\n\u05dc\u05bc"),
   (0xFB3E, "\u05de\u05bc"), (0xFB40, "\u05e0\u05bc\n\u05e1\u05bc"),
   (0xFB43, "\u05e3\u05bc\n\u05e4\u05bc"),
   (0xFB46, "\u05e6\u05bc\n\u05e7\u05bc\n\u05e8\u05bc\n\u05e9\u05bc\n\u05ea\u05bc"),
   (0xFB4B, "\u05d5\u05b9\n\u05d1\u05bf\n\u05db\u05bf\n\u05e4\u05bf\n\u05d0\u05dc\n\u0671"),
   (0xFB51, "\u0671\n\u067b\n\u067b\n\u067b\n\u067b\n\u067e\n\u067e\n\u067e\n\u067e"),
   (0xFB5A, "\u0680\n\u0680\n\u0680\n\u0680\n\u067a\n\u067a\n\u067a\n\u067a\n\u067f"),
   (0xFB63, "\u067f\n\u067f\n\u067f\n\u0679\n\u0679\n\u0679\n\u0679\n\u06a4\n\u06a4"),
   (0xFB6C, "\u06a4\n\u06a4\n\u06a6\n\u06a6\n\u06a6\n\u06a6\n\u0684\n\u0684\n\u0684"),
   (0xFB75, "\u0684\n\u0683\n\u0683\n\u0683\n\u0683\n\u0686\n\u0686\n\u0686\n\u0686"),
   (0xFB7E, "\u0687\n\u0687\n\u0687\n\u0687\n\u068d\n\u068d\n\u068c\n\u068c\n\u068e"),
   (0xFB87, "\u068e\n\u0688\n\u0688\n\u0698\n\u0698\n\u0691\n\u0691\n\u06a9\n\u06a9"),
   (0xFB90, "\u06a9\n\u06a9\n\u06af\n\u06af\n\u06af\n\u06af\n\u06b3\n\u06b3\n\u06b3"),
   (0xFB99, "\u06b3\n\u06b1\n\u06b1\n\u06b1\n\u06b1\n\u06ba\n\u06ba\n\u06bb\n\u06bb"),
   (0xFBA2, "\u06bb\n\u06bb\n\u06d5\u0654\n\u06d5\u0654\n\u06c1\n\u06c1\n\u06c1\n\u06c1"),
   (0xFBAA, "\u06be\n\u06be\n\u06be\n\u06be\n\u06d2\n\u06d2\n\u06d2\u0654\n\u06d2\u0654"),
   (0xFBD3, "\u06ad\n\u06ad\n\u06ad\n\u06ad\n\u06c7\n\u06c7\n\u06c6\n\u06c6\n\u06c8"),
   (0xFBDC, "\u06c8\n\u06c7\u0674\n\u06cb\n\u06cb\n\u06c5\n\u06c5\n\u06c9\n\u06c9\n\u06d0"),
   (0xFBE5, "\u06d0\n\u06d0\n\u06d0\n\u0649\n\u0649\n\u064a\u0654\u0627"),
   (0xFBEB, "\u064a\u0654\u0627\n\u064a\u0654\u06d5\n\u064a\u0654\u06d5"),
   (0xFBEE, "\u064a\u0654\u0648\n\u064a\u0654\u0648\n\u064a\u0654\u06c7"),
   (0xFBF1, "\u064a\u0654\u06c7\n\u064a\u0654\u06c6\n\u064a\u0654\u06c6"),
   (0xFBF4, "\u064a\u0654\u06c8\n\u064a\u0654\u06c8\n\u064a\u0654\u06d0"),
   (0xFBF7, "\u064a\u0654\u06d0\n\u064a\u0654\u06d0\n\u064a\u0654\u0649"),
   (0xFBFA, "\u064a\u0654\u0649\n\u064a\u0654\u0649\n\u06cc\n\u06cc\n\u06cc\n\u06cc"),
   (0xFC00, "\u064a\u0654\u062c\n\u064a\u0654\u062d\n\u064a\u0654\u0645"),
   (0xFC03, "\u064a\u0654\u0649\n\u064a\u0654\u064a\n\u0628\u062c\n\u0628\u062d"),
   (0xFC07, "\u0628\u062e\n\u0628\u0645\n\u0628\u0649\n\u0628\u064a\n\u062a\u062c"),
   (0xFC0C, "\u062a\u062d\n\u062a\u062e\n\u062a\u0645\n\u062a\u0649\n\u062a\u064a"),
   (0xFC11, "\u062b\u062c\n\u062b\u0645\n\u062b\u0649\n\u062b\u064a\n\u062c\u062d"),
   (0xFC16, "\u062c\u0645\n\u062d\u062c\n\u062d\u0645\n\u062e\u062c\n\u062e\u062d"),
   (0xFC1B, "\u062e\u0645\n\u0633\u062c\n\u0633\u062d\n\u0633\u062e\n\u0633\u0645"),
   (0xFC20, "\u0635\u062d\n\u0635\u0645\n\u0636\u062c\n\u0636\u062d\n\u0636\u062e"),
   (0xFC25, "\u0636\u0645\n\u0637\u062d\n\u0637\u0645\n\u0638\u0645\n\u0639\u062c"),
   (0xFC2A, "\u0639\u0645\n\u063a\u062c\n\u063a\u0645\n\u0641\u062c\n\u0641\u062d"),
   (0xFC2F, "\u0641\u062e\n\u0641\u0645\n\u0641\u0649\n\u0641\u064a\n\u0642\u062d"),
   (0xFC34, "\u0642\u0645\n\u0642\u0649\n\u0642\u064a\n\u0643\u0627\n\u0643\u062c"),
   (0xFC39, "\u0643\u062d\n\u0643\u062e\n\u0643\u0644\n\u0643\u0645\n\u0643\u0649"),
   (0xFC3E, "\u0643\u064a\n\u0644\u062c\n\u0644\u062d\n\u0644\u062e\n\u0644\u0645"),
   (0xFC43, "\u0644\u0649\n\u0644\u064a\n\u0645\u062c\n\u0645\u062d\n\u0645\u062e"),
   (0xFC48, "\u0645\u0645\n\u0645\u0649\n\u0645\u064a\n\u0646\u062c\n\u0646\u062d"),
   (0xFC4D, "\u0646\u062e\n\u0646\u0645\n\u0646\u0649\n\u0646\u064a\n\u0647\u062c"),
   (0xFC52, "\u0647\u0645\n\u0647\u0649\n\u0647\u064a\n\u064a\u062c\n\u064a\u062d"),
   (0xFC57, "\u064a\u062e\n\u064a\u0645\n\u064a\u0649\n\u064a\u064a\n\u0630\u0670"),
   (0xFC5C, "\u0631\u0670\n\u0649\u0670\n \u064c\u0651\n \u064d\u0651\n \u064e\u0651"),
   (0xFC61, " \u064f\u0651\n \u0650\u0651\n \u0651\u0670\n\u064a\u0654\u0631"),
   (0xFC65, "\u064a\u0654\u0632\n\u064a\u0654\u0645\n\u064a\u0654\u0646"),
   (0xFC68, "\u064a\u0654\u0649\n\u064a\u0654\u064a\n\u0628\u0631\n\u0628\u0632"),
   (0xFC6C, "\u0628\u0645\n\u0628\u0646\n\u0628\u0649\n\u0628\u064a\n\u062a\u0631"),
   (0xFC71, "\u062a\u0632\n\u062a\u0645\n\u062a\u0646\n\u062a\u0649\n\u062a\u064a"),
   (0xFC76, "\u062b\u0631\n\u062b\u0632\n\u062b\u0645\n\u062b\u0646\n\u062b\u0649"),
   (0xFC7B, "\u062b\u064a\n\u0641\u0649\n\u0641\u064a\n\u0642\u0649\n\u0642\u064a"),
   (0xFC80, "\u0643\u0627\n\u0643\u0644\n\u0643\u0645\n\u0643\u0649\n\u0643\u064a"),
   (0xFC85, "\u0644\u0645\n\u0644\u0649\n\u0644\u064a\n\u0645\u0627\n\u0645\u0645"),
   (0xFC8A, "\u0646\u0631\n\u0646\u0632\n\u0646\u0645\n\u0646\u0646\n\u0646\u0649"),
   (0xFC8F, "\u0646\u064a\n\u0649\u0670\n\u064a\u0631\n\u064a\u0632\n\u064a\u0645"),
   (0xFC94, "\u064a\u0646\n\u064a\u0649\n\u064a\u064a\n\u064a\u0654\u062c"),
   (0xFC98, "\u064a\u0654\u062d\n\u064a\u0654\u062e\n\u064a\u0654\u0645"),
   (0xFC9B, "\u064a\u0654\u0647\n\u0628\u062c\n\u0628\u062d\n\u0628\u062e\n\u0628\u0645"),
   (0xFCA0, "\u0628\u0647\n\u062a\u062c\n\u062a\u062d\n\u062a\u062e\n\u062a\u0645"),
   (0xFCA5, "\u062a\u0647\n\u062b\u0645\n\u062c\u062d\n\u062c\u0645\n\u062d\u062c"),
   (0xFCAA, "\u062d\u0645\n\u062e\u062c\n\u062e\u0645\n\u0633\u062c\n\u0633\u062d"),
   (0xFCAF, "\u0633\u062e\n\u0633\u0645\n\u0635\u062d\n\u0635\u062e\n\u0635\u0645"),
   (0xFCB4, "\u0636\u062c\n\u0636\u062d\n\u0636\u062e\n\u0636\u0645\n\u0637\u062d"),
   (0xFCB9, "\u0638\u0645\n\u0639\u062c\n\u0639\u0645\n\u063a\u062c\n\u063a\u0645"),
   (0xFCBE, "\u0641\u062c\n\u0641\u062d\n\u0641\u062e\n\u0641\u0645\n\u0642\u062d"),
   (0xFCC3, "\u0642\u0645\n\u0643\u062c\n\u0643\u062d\n\u0643\u062e\n\u0643\u0644"),
   (0xFCC8, "\u0643\u0645\n\u0644\u062c\n\u0644\u062d\n\u0644\u062e\n\u0644\u0645"),
   (0xFCCD, "\u0644\u0647\n\u0645\u062c\n\u0645\u062d\n\u0645\u062e\n\u0645\u0645"),
   (0xFCD2, "\u0646\u062c\n\u0646\u062d\n\u0646\u062e\n\u0646\u0645\n\u0646\u0647"),
   (0xFCD7, "\u0647\u062c\n\u0647\u0645\n\u0647\u0670\n\u064a\u062c\n\u064a\u062d"),
   (0xFCDC, "\u064a\u062e\n\u064a\u0645\n\u064a\u0647\n\u064a\u0654\u0645"),
   (0xFCE0, "\u064a\u0654\u0647\n\u0628\u0645\n\u0628\u0647\n\u062a\u0645\n\u062a\u0647"),
   (0xFCE5, "\u062b\u0645\n\u062b\u0647\n\u0633\u0645\n\u0633\u0647\n\u0634\u0645"),
   (0xFCEA, "\u0634\u0647\n\u0643\u0644\n\u0643\u0645\n\u0644\u0645\n\u0646\u0645"),
   (0xFCEF, "\u0646\u0647\n\u064a\u0645\n\u064a\u0647\n\u0640\u064e\u0651"),
   (0xFCF3, "\u0640\u064f\u0651\n\u0640\u0650\u0651\n\u0637\u0649\n\u0637\u064a"),
   (0xFCF7, "\u0639\u0649\n\u0639\u064a\n\u063a\u0649\n\u063a\u064a\n\u0633\u0649"),
   (0xFCFC, "\u0633\u064a\n\u0634\u0649\n\u0634\u064a\n\u062d\u0649\n\u062d\u064a"),
   (0xFD01, "\u062c\u0649\n\u062c\u064a\n\u062e\u0649\n\u062e\u064a\n\u0635\u0649"),
   (0xFD06, "\u0635\u064a\n\u0636\u0649\n\u0636\u064a\n\u0634\u062c\n\u0634\u062d"),
   (0xFD0B, "\u0634\u062e\n\u0634\u0645\n\u0634\u0631\n\u0633\u0631\n\u0635\u0631"),
   (0xFD10, "\u0636\u0631\n\u0637\u0649\n\u0637\u064a\n\u0639\u0649\n\u0639\u064a"),
   (0xFD15, "\u063a\u0649\n\u063a\u064a\n\u0633\u0649\n\u0633\u064a\n\u0634\u0649"),
   (0xFD1A, "\u0634\u064a\n\u062d\u0649\n\u062d\u064a\n\u062c\u0649\n\u062c\u064a"),
   (0xFD1F, "\u062e\u0649\n\u062e\u064a\n\u0635\u0649\n\u0635\u064a\n\u0636\u0649"),
   (0xFD24, "\u0636\u064a\n\u0634\u062c\n\u0634\u062d\n\u0634\u062e\n\u0634\u0645"),
   (0xFD29, "\u0634\u0631\n\u0633\u0631\n\u0635\u0631\n\u0636\u0631\n\u0634\u062c"),
   (0xFD2E, "\u0634\u062d\n\u0634\u062e\n\u0634\u0645\n\u0633\u0647\n\u0634\u0647"),
   (0xFD33, "\u0637\u0645\n\u0633\u062c\n\u0633\u062d\n\u0633\u062e\n\u0634\u062c"),
   (0xFD38, "\u0634\u062d\n\u0634\u062e\n\u0637\u0645\n\u0638\u0645\n\u0627\u064b"),
   (0xFD3D, "\u0627\u064b"),
   (0xFD50, "\u062a\u062c\u0645\n\u062a\u062d\u062c\n\u062a\u062d\u062c"),
   (0xFD53, "\u062a\u062d\u0645\n\u062a\u062e\u0645\n\u062a\u0645\u062c"),
   (0xFD56, "\u062a\u0645\u062d\n\u062a\u0645\u062e\n\u062c\u0645\u062d"),
   (0xFD59, "\u062c\u0645\u062d\n\u062d\u0645\u064a\n\u062d\u0645\u0649"),
   (0xFD5C, "\u0633\u062d\u062c\n\u0633\u062c\u062d\n\u0633\u062c\u0649"),
   (0xFD5F, "\u0633\u0645\u062d\n\u0633\u0645\u062d\n\u0633\u0645\u062c"),
   (0xFD62, "\u0633\u0645\u0645\n\u0633\u0645\u0645\n\u0635\u062d\u062d"),
   (0xFD65, "\u0635\u062d\u062d\n\u0635\u0645\u0645\n\u0634\u062d\u0645"),
   (0xFD68, "\u0634\u062d\u0645\n\u0634\u062c\u064a\n\u0634\u0645\u062e"),
   (0xFD6B, "\u0634\u0645\u062e\n\u0634\u0645\u0645\n\u0634\u0645\u0645"),
   (0xFD6E, "\u0636\u062d\u0649\n\u0636\u062e\u0645\n\u0636\u062e\u0645"),
   (0xFD71, "\u0637\u0645\u062d\n\u0637\u0645\u062d\n\u0637\u0645\u0645"),
   (0xFD74, "\u0637\u0645\u064a\n\u0639\u062c\u0645\n\u0639\u0645\u0645"),
   (0xFD77, "\u0639\u0645\u0645\n\u0639\u0645\u0649\n\u063a\u0645\u0645"),
   (0xFD7A, "\u063a\u0645\u064a\n\u063a\u0645\u0649\n\u0641\u062e\u0645"),
   (0xFD7D, "\u0641\u062e\u0645\n\u0642\u0645\u062d\n\u0642\u0645\u0645"),
   (0xFD80, "\u0644\u062d\u0645\n\u0644\u062d\u064a\n\u0644\u062d\u0649"),
   (0xFD83, "\u0644\u062c\u062c\n\u0644\u062c\u062c\n\u0644\u062e\u0645"),
   (0xFD86, "\u0644\u062e\u0645\n\u0644\u0645\u062d\n\u0644\u0645\u062d"),
   (0xFD89, "\u0645\u062d\u062c\n\u0645\u062d\u0645\n\u0645\u062d\u064a"),
   (0xFD8C, "\u0645\u062c\u062d\n\u0645\u062c\u0645\n\u0645\u062e\u062c"),
   (0xFD8F, "\u0645\u062e\u0645"),
   (0xFD92, "\u0645\u062c\u062e\n\u0647\u0645\u062c\n\u0647\u0645\u0645"),
   (0xFD95, "\u0646\u062d\u0645\n\u0646\u062d\u0649\n\u0646\u062c\u0645"),
   (0xFD98, "\u0646\u062c\u0645\n\u0646\u062c\u0649\n\u0646\u0645\u064a"),
   (0xFD9B, "\u0646\u0645\u0649\n\u064a\u0645\u0645\n\u064a\u0645\u0645"),
   (0xFD9E, "\u0628\u062e\u064a\n\u062a\u062c\u064a\n\u062a\u062c\u0649"),
   (0xFDA1, "\u062a\u062e\u064a\n\u062a\u062e\u0649\n\u062a\u0645\u064a"),
   (0xFDA4, "\u062a\u0645\u0649\n\u062c\u0645\u064a\n\u062c\u062d\u0649"),
   (0xFDA7, "\u062c\u0645\u0649\n\u0633\u062e\u0649\n\u0635\u062d\u064a"),
   (0xFDAA, "\u0634\u062d\u064a\n\u0636\u062d\u064a\n\u0644\u062c\u064a"),
   (0xFDAD, "\u0644\u0645\u064a\n\u064a\u062d\u064a\n\u064a\u062c\u064a"),
   (0xFDB0, "\u064a\u0645\u064a\n\u0645\u0645\u064a\n\u0642\u0645\u064a"),
   (0xFDB3, "\u0646\u062d\u064a\n\u0642\u0645\u062d\n\u0644\u062d\u0645"),
   (0xFDB6, "\u0639\u0645\u064a\n\u0643\u0645\u064a\n\u0646\u062c\u062d"),
   (0xFDB9, "\u0645\u062e\u064a\n\u0644\u062c\u0645\n\u0643\u0645\u0645"),
   (0xFDBC, "\u0644\u062c\u0645\n\u0646\u062c\u062d\n\u062c\u062d\u064a"),
   (0xFDBF, "\u062d\u062c\u064a\n\u0645\u062c\u064a\n\u0641\u0645\u064a"),
   (0xFDC2, "\u0628\u062d\u064a\n\u0643\u0645\u0645\n\u0639\u062c\u0645"),
   (0xFDC5, "\u0635\u0645\u0645\n\u0633\u062e\u064a\n\u0646\u062c\u064a"),
   (0xFDF0, "\u0635\u0644\u06d2\n\u0642\u0644\u06d2\n\u0627\u0644\u0644\u0647"),
   (0xFDF3, "\u0627\u0643\u0628\u0631\n\u0645\u062d\u0645\u062f\n\u0635\u0644\u0639\u0645"),
   (0xFDF6, "\u0631\u0633\u0648\u0644\n\u0639\u0644\u064a\u0647\n\u0648\u0633\u0644\u0645"),
   (0xFDF9, "\u0635\u0644\u0649"),
   (0xFDFA,
   "\u0635\u0644\u0649 \u0627\u0644\u0644\u0647 \u0639\u0644\u064a\u0647 \u0648\u0633\u0644\u0645"),
   (0xFDFB, "\u062c\u0644 \u062c\u0644\u0627\u0644\u0647\n\u0631\u06cc\u0627\u0644"),
   (0xFE00, "\n\n\n\n\n\n\n\n\n\n\n\n\n\n\n"),
   (0xFE30, "..\n—\n–\n_\n_\n(\n)\n\x7b\n\x7d\n〔\n〕\n【\n】\n《\n》\n〈\n〉\n「\n」\n『"),
   (0xFE44, "』"), (0xFE49, " \u0305\n \u0305\n \u0305\n \u0305\n_\n_\n_\n,\n、\n."),
   (0xFE54, ";\n:\n?\n!\n—\n(\n)\n\x7b\n\x7d\n〔\n〕\n#\n&\n*\n+\n-\n<\n>\n="),
   (0xFE68, "\\\n$\n%\n@"), (0xFE70, " \u064b\n\u0640\u064b\n \u064c"), (0xFE74, " \u064d"),
   (0xFE76, " \u064e\n\u0640\u064e\n \u064f\n\u0640\u064f\n \u0650\n\u0640\u0650\n \u0651"),
   (0xFE7D, "\u0640\u0651\n \u0652\n\u0640\u0652\n\u0621\n\u0627\u0653\n\u0627\u0653"),
   (0xFE83, "\u0627\u0654\n\u0627\u0654\n\u0648\u0654\n\u0648\u0654\n\u0627\u0655"),
   (0xFE88, "\u0627\u0655\n\u064a\u0654\n\u064a\u0654\n\u064a\u0654\n\u064a\u0654\n\u0627"),
   (0xFE8E, "\u0627\n\u0628\n\u0628\n\u0628\n\u0628\n\u0629\n\u0629\n\u062a\n\u062a"),
   (0xFE97, "\u062a\n\u062a\n\u062b\n\u062b\n\u062b\n\u062b\n\u062c\n\u062c\n\u062c"),
   (0xFEA0, "\u062c\n\u062d\n\u062d\n\u062d\n\u062d\n\u062e\n\u062e\n\u062e\n\u062e"),
   (0xFEA9, "\u062f\n\u062f\n\u0630\n\u0630\n\u0631\n\u0631\n\u0632\n\u0632\n\u0633"),
   (0xFEB2, "\u0633\n\u0633\n\u0633\n\u0634\n\u0634\n\u0634\n\u0634\n\u0635\n\u0635"),
   (0xFEBB, "\u0635\n\u0635\n\u0636\n\u0636\n\u0636\n\u0636\n\u0637\n\u0637\n\u0637"),
   (0xFEC4, "\u0637\n\u0638\n\u0638\n\u0638\n\u0638\n\u0639\n\u0639\n\u0639\n\u0639"),
   (0xFECD, "\u063a\n\u063a\n\u063a\n\u063a\n\u0641\n\u0641\n\u0641\n\u0641\n\u0642"),
   (0xFED6, "\u0642\n\u0642\n\u0642\n\u0643\n\u0643\n\u0643\n\u0643\n\u0644\n\u0644"),
   (0xFEDF, "\u0644\n\u0644\n\u0645\n\u0645\n\u0645\n\u0645\n\u0646\n\u0646\n\u0646"),
   (0xFEE8, "\u0646\n\u0647\n\u0647\n\u0647\n\u0647\n\u0648\n\u0648\n\u0649\n\u0649"),
   (0xFEF1, "\u064a\n\u064a\n\u064a\n\u064a\n\u0644\u0627\u0653\n\u0644\u0627\u0653"),
   (0xFEF7, "\u0644\u0627\u0654\n\u0644\u0627\u0654\n\u0644\u0627\u0655"),
   (0xFEFA, "\u0644\u0627\u0655\n\u0644\u0627\n\u0644\u0627"), (0xFEFF, ""),
   (0xFF5F, "⦅\n⦆\n。\n「\n」\n、\n・\nヲ\nァ\nィ\nゥ\nェ\nォ\nャ\nュ\nョ\nッ\nー\nア\nイ"),
   (0xFF73, "ウ\nエ\nオ\nカ\nキ\nク\nケ\nコ\nサ\nシ\nス\nセ\nソ\nタ\nチ\nツ\nテ\nト"),
   (0xFF8B, "ヒ\nフ\nヘ\nホ\nマ\nミ\nム\nメ\nモ\nヤ\nユ"),
   (0xFF9C, "ワ\nン\n\u3099\n\u309a\n\u1160\n\u1100\n\u1101\n\u11aa\n\u1102\n\u11ac"),
   (0xFFA6, "\u11ad\n\u1103\n\u1104\n\u1105"), (0xFFB0, "\u111a\n\u1106\n\u1107\n\u1108\n\u1121"),
   (0xFFDA, "\u1173\n\u1174\n\u1175"), (0xFFE0, "¢\n£\n¬\n \u0304\n¦\n¥\n₩"),
   (0xFFE8, "│\n←\n↑\n→\n↓\n■\n○"), (0x10594, "𐖻\n𐖼"), (0x1D49C, "a"), (0x1D49E, "c\nd"),
   (0x1D4A2, "g"), (0x1D4A5, "j\nk"), (0x1D4A9, "n\no\np\nq"), (0x1D4B6, "a\nb\nc\nd"),
   (0x1D4BB, "f"), (0x1D4BD, "h\ni\nj\nk"), (0x1D4C2, "m\nn"), (0x1D504, "a\nb"),
   (0x1D507, "d\ne\nf\ng"), (0x1D538, "a\nb"), (0x1D53B, "d\ne\nf\ng"),
   (0x1D540, "i\nj\nk\nl\nm"), (0x1D546, "o"), (0x1D6B9, "θ"), (0x1D6C1, "∇"), (0x1D6D3, "σ"),
   (0x1D6DB, "∂\nε\nθ\nκ\nφ\nρ\nπ"), (0x1D6F3, "θ"), (0x1D6FB, "∇"), (0x1D70D, "σ"),
   (0x1D715, "∂\nε\nθ\nκ\nφ\nρ\nπ"), (0x1D72D, "θ"), (0x1D735, "∇"), (0x1D747, "σ"),
   (0x1D74F, "∂\nε\nθ\nκ\nφ\nρ\nπ"), (0x1D767, "θ"), (0x1D76F, "∇"), (0x1D781, "σ"),
   (0x1D789, "∂\nε\nθ\nκ\nφ\nρ\nπ"), (0x1D7A1, "θ"), (0x1D7A9, "∇"), (0x1D7BB, "σ"),
   (0x1D7C3, "∂\nε\nθ\nκ\nφ\nρ\nπ"),
   (0x2F800, "丽\n丸\n乁\n𠄢\n你\n侮\n侻\n倂\n偺\n備\n僧\n像\n㒞\n𠘺\n免\n兔\n兤\n具\n𠔜"),
   (0x2F813, "㒹\n內\n再\n𠕋\n冗\n冤\n仌\n冬\n况\n𩇟\n凵\n刃\n㓟\n刻\n剆\n割\n剷\n㔕\n勇"),
   (0x2F826, "勉\n勤\n勺\n包\n匆\n北\n卉\n卑\n博\n即\n卽\n卿\n卿\n卿\n𠨬\n灰\n及\n叟\n𠭣"),
   (0x2F839, "叫\n叱\n吆\n咞\n吸\n呈\n周\n咢\n哶\n唐\n啓\n啣\n善\n善\n喙\n喫\n喳\n嗂\n圖"),
   (0x2F84C, "嘆\n圗\n噑\n噴\n切\n壮\n城\n埴\n堍\n型\n堲\n報\n墬\n𡓤\n売\n壷\n夆\n多\n夢"),
   (0x2F85F, "奢\n𡚨\n𡛪\n姬\n娛\n娧\n姘\n婦\n㛮\n𡍪\n嬈\n嬾\n嬾\n𡧈\n寃\n寘\n寧\n寳\n𡬘"),
   (0x2F872, "寿\n将\n弳\n尢\n㞁\n屠\n屮\n峀\n岍\n𡷤\n嵃\n𡷦\n嵮\n嵫\n嵼\n巡\n巢\n㠯\n巽"),
   (0x2F885, "帨\n帽\n幩\n㡢\n𢆃\n㡼\n庰\n庳\n庶\n廊\n𪎒\n廾\n𢌱\n𢌱\n舁\n弢\n弢\n㣇\n𣊸"),
   (0x2F898, "𦇚\n形\n彫\n㣣\n徚\n忍\n志\n忹\n悁\n㤺\n㤜\n悔\n𢛔\n惇\n慈\n慌\n慎\n慌\n慺"),
   (0x2F8AB, "憎\n憲\n憤\n憯\n懞\n懲\n懶\n成\n戛\n扝\n抱\n拔\n捐\n𢬌\n挽\n拼\n捨\n掃\n揤"),
   (0x2F8BE, "𢯱\n搢\n揅\n掩\n㨮\n摩\n摾\n撝\n摷\n㩬\n敏\n敬\n𣀊\n旣\n書\n晉\n㬙\n暑\n㬈"),
   (0x2F8D1, "㫤\n冒\n冕\n最\n暜\n肭\n䏙\n朗\n望\n朡\n杞\n杓\n𣏃\n㭉\n柺\n枅\n桒\n梅\n𣑭"),
   (0x2F8E4, "梎\n栟\n椔\n㮝\n楂\n榣\n槪\n檨\n𣚣\n櫛\n㰘\n次\n𣢧\n歔\n㱎\n歲\n殟\n殺\n殻"),
   (0x2F8F7, "𣪍\n𡴋\n𣫺\n汎\n𣲼\n沿\n泍\n汧\n洖\n派\n海\n流\n浩\n浸\n涅\n𣴞\n洴\n港\n湮"),
   (0x2F90A, "㴳\n滋\n滇\n𣻑\n淹\n潮\n𣽞\n𣾎\n濆\n瀹\n瀞\n瀛\n㶖\n灊\n災\n灷\n炭\n𠔥\n煅"),
   (0x2F91D, "𤉣\n熜\n䎫\n爨\n爵\n牐\n𤘈\n犀\n犕\n𤜵\n𤠔\n獺\n王\n㺬\n玥\n㺸\n㺸\n瑇\n瑜"),
   (0x2F930, "瑱\n璅\n瓊\n㼛\n甤\n𤰶\n甾\n𤲒\n異\n𢆟\n瘐\n𤾡\n𤾸\n𥁄\n㿼\n䀈\n直\n𥃳\n𥃲"),
   (0x2F943, "𥄙\n𥄳\n眞\n真\n真\n睊\n䀹\n瞋\n䁆\n䂖\n𥐝\n硎\n碌\n磌\n䃣\n𥘦\n祖\n𥚚\n𥛅"),
   (0x2F956, "福\n秫\n䄯\n穀\n穊\n穏\n𥥼\n𥪧\n𥪧\n窮\n䈂\n𥮫\n篆\n築\n䈧\n𥲀\n糒\n䊠\n糨"),
   (0x2F969, "糣\n紀\n𥾆\n絣\n䌁\n緇\n縂\n繅\n䌴\n𦈨\n𦉇\n䍙\n𦋙\n罺\n𦌾\n羕\n翺\n者\n𦓚"),
   (0x2F97C, "𦔣\n聠\n𦖨\n聰\n𣍟\n䏕\n育\n脃\n䐋\n脾\n媵\n𦞧\n𦞵\n𣎓\n𣎜\n舁\n舄\n辞\n䑫"),
   (0x2F98F, "芑\n芋\n芝\n劳\n花\n芳\n芽\n苦\n𦬼\n若\n茝\n荣\n莭\n茣\n莽\n菧\n著\n荓\n菊"),
   (0x2F9A2, "菌\n菜\n𦰶\n𦵫\n𦳕\n䔫\n蓱\n蓳\n蔖\n𧏊\n蕤\n𦼬\n䕝\n䕡\n𦾱\n𧃒\n䕫\n虐\n虜"),
   (0x2F9B5, "虧\n虩\n蚩\n蚈\n蜎\n蛢\n蝹\n蜨\n蝫\n螆\n䵗\n蟡\n蠁\n䗹\n衠\n衣\n𧙧\n裗\n裞"),
   (0x2F9C8, "䘵\n裺\n㒻\n𧢮\n𧥦\n䚾\n䛇\n誠\n諭\n變\n豕\n𧲨\n貫\n賁\n贛\n起\n𧼯\n𠠄\n跋"),
   (0x2F9DB, "趼\n跰\n𠣞\n軔\n輸\n𨗒\n𨗭\n邔\n郱\n鄑\n𨜮\n鄛\n鈸\n鋗\n鋘\n鉼\n鏹\n鐕\n𨯺"),
   (0x2F9EE, "開\n䦕\n閷\n𨵷\n䧦\n雃\n嶲\n霣\n𩅅\n𩈚\n䩮\n䩶\n韠\n𩐊\n䪲\n𩒖\n頋\n頋\n頩"),
   (0x2FA01, "𩖶\n飢\n䬳\n餩\n馧\n駂\n駾\n䯎\n𩬰\n鬒\n鱀\n鳽\n䳎\n䳭\n鵧\n𪃎\n䳸\n𪄅\n𪈎"),
   (0x2FA14, "𪊑\n麻\n䵖\n黹\n黾\n鼅\n鼏\n鼖\n鼻\n𪘀")]

end Provisioning.Text.DomainName
