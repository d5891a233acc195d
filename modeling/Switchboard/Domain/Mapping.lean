/-
This file says what becomes of each character of a domain name before the name is looked at.
The rows state the mapping table for domain names of Unicode 17 and two characters of a later one.
-/

namespace Switchboard.Domain

/--
A row speaks about consecutive characters. It keeps them, drops them, moves them by an offset, or
replaces them one after the other. In an alternating row every second character is replaced by the
one after it.
-/
inductive Row where
  | kept (first last : Nat)
  | dropped (first last : Nat)
  | raised (first last offset : Nat)
  | lowered (first last offset : Nat)
  | alternating (first last : Nat)
  | each (first : Nat) (targets : String)
  | replaced (first : Nat) (targets : List String)
  deriving Repr

/-- A row has no image for the characters outside of it. -/
def Row.image (code : Nat) : Row → Option (List Char)
  | .kept first last => if first ≤ code ∧ code ≤ last then some [Char.ofNat code] else none
  | .dropped first last => if first ≤ code ∧ code ≤ last then some [] else none
  | .raised first last offset =>
    if first ≤ code ∧ code ≤ last then some [Char.ofNat (code + offset)] else none
  | .lowered first last offset =>
    if first ≤ code ∧ code ≤ last then some [Char.ofNat (code - offset)] else none
  | .alternating first last =>
    if first ≤ code ∧ code ≤ last then
      some [Char.ofNat (if (code - first) % 2 = 0 then code + 1 else code)]
    else none
  | .each first targets =>
    if first ≤ code then (targets.toList[code - first]?).map fun target => [target] else none
  | .replaced first targets =>
    if first ≤ code then (targets[code - first]?).map String.toList else none

/-- These rows speak about the characters of alphabets. -/
def alphabetRows : List Row :=
  [.kept 0x0 0x40, .raised 0x41 0x5A 0x20, .kept 0x5B 0x7F, .each 0xA0 " ", .kept 0xA1 0xA7,
    .replaced 0xA8 [" ̈"], .kept 0xA9 0xA9, .each 0xAA "a", .kept 0xAB 0xAC, .dropped 0xAD 0xAD,
    .kept 0xAE 0xAE, .replaced 0xAF [" ̄"], .kept 0xB0 0xB1, .each 0xB2 "23",
    .replaced 0xB4 [" ́"], .each 0xB5 "μ", .kept 0xB6 0xB7, .replaced 0xB8 [" ̧"],
    .each 0xB9 "1o", .kept 0xBB 0xBB, .replaced 0xBC ["1⁄4", "1⁄2", "3⁄4"], .kept 0xBF 0xBF,
    .raised 0xC0 0xD6 0x20, .kept 0xD7 0xD7, .raised 0xD8 0xDE 0x20, .kept 0xDF 0xFF,
    .alternating 0x100 0x12F, .replaced 0x130 ["i̇"], .kept 0x131 0x131,
    .replaced 0x132 ["ij", "ij"], .alternating 0x134 0x137, .kept 0x138 0x138,
    .alternating 0x139 0x13E, .replaced 0x13F ["l·", "l·"], .alternating 0x141 0x148,
    .replaced 0x149 ["ʼn"], .alternating 0x14A 0x177, .each 0x178 "ÿ", .alternating 0x179 0x17E,
    .each 0x17F "s", .kept 0x180 0x180, .each 0x181 "ɓ", .alternating 0x182 0x185,
    .each 0x186 "ɔƈ", .kept 0x188 0x188, .each 0x189 "ɖɗƌ", .kept 0x18C 0x18D, .each 0x18E "ǝəɛƒ",
    .kept 0x192 0x192, .each 0x193 "ɠɣ", .kept 0x195 0x195, .each 0x196 "ɩɨƙ", .kept 0x199 0x19B,
    .each 0x19C "ɯɲ", .kept 0x19E 0x19E, .each 0x19F "ɵ", .alternating 0x1A0 0x1A5,
    .each 0x1A6 "ʀƨ", .kept 0x1A8 0x1A8, .each 0x1A9 "ʃ", .kept 0x1AA 0x1AB, .each 0x1AC "ƭ",
    .kept 0x1AD 0x1AD, .each 0x1AE "ʈư", .kept 0x1B0 0x1B0, .each 0x1B1 "ʊʋ",
    .alternating 0x1B3 0x1B6, .each 0x1B7 "ʒƹ", .kept 0x1B9 0x1BB, .each 0x1BC "ƽ",
    .kept 0x1BD 0x1C3, .replaced 0x1C4 ["dž", "dž", "dž", "lj", "lj", "lj", "nj", "nj", "nj"],
    .alternating 0x1CD 0x1DC, .kept 0x1DD 0x1DD, .alternating 0x1DE 0x1EF, .kept 0x1F0 0x1F0,
    .replaced 0x1F1 ["dz", "dz", "dz"], .each 0x1F4 "ǵ", .kept 0x1F5 0x1F5, .each 0x1F6 "ƕƿ",
    .alternating 0x1F8 0x21F, .each 0x220 "ƞ", .kept 0x221 0x221, .alternating 0x222 0x233,
    .kept 0x234 0x239, .each 0x23A "ⱥȼ", .kept 0x23C 0x23C, .each 0x23D "ƚⱦ", .kept 0x23F 0x240,
    .each 0x241 "ɂ", .kept 0x242 0x242, .each 0x243 "ƀʉʌ", .alternating 0x246 0x24F,
    .kept 0x250 0x2AF, .each 0x2B0 "hɦjrɹɻʁwy", .kept 0x2B9 0x2D7,
    .replaced 0x2D8 [" ̆", " ̇", " ̊", " ̨", " ̃", " ̋"], .kept 0x2DE 0x2DF, .each 0x2E0 "ɣlsxʕ",
    .kept 0x2E5 0x33F, .each 0x340 "̀́", .kept 0x342 0x342, .each 0x343 "̓",
    .replaced 0x344 ["̈́"], .each 0x345 "ι", .kept 0x346 0x34E, .dropped 0x34F 0x34F,
    .kept 0x350 0x36F, .alternating 0x370 0x373, .each 0x374 "ʹ", .kept 0x375 0x375,
    .each 0x376 "ͷ", .kept 0x377 0x377, .replaced 0x37A [" ι"], .kept 0x37B 0x37D,
    .each 0x37E ";ϳ", .replaced 0x384 [" ́", " ̈́"], .each 0x386 "ά·έήί", .each 0x38C "ό",
    .each 0x38E "ύώ", .kept 0x390 0x390, .raised 0x391 0x3A1 0x20, .raised 0x3A3 0x3AB 0x20,
    .kept 0x3AC 0x3CE, .each 0x3CF "ϗβθυύϋφπ", .kept 0x3D7 0x3D7, .alternating 0x3D8 0x3EF,
    .each 0x3F0 "κρσ", .kept 0x3F3 0x3F3, .each 0x3F4 "θε", .kept 0x3F6 0x3F6, .each 0x3F7 "ϸ",
    .kept 0x3F8 0x3F8, .each 0x3F9 "σϻ", .kept 0x3FB 0x3FC, .each 0x3FD "ͻͼͽ",
    .raised 0x400 0x40F 0x50, .raised 0x410 0x42F 0x20, .kept 0x430 0x45F,
    .alternating 0x460 0x481, .kept 0x482 0x489, .alternating 0x48A 0x4BF, .each 0x4C0 "ӏ",
    .alternating 0x4C1 0x4CE, .kept 0x4CF 0x4CF, .alternating 0x4D0 0x52F,
    .raised 0x531 0x556 0x30, .each 0x558 "է", .kept 0x559 0x586, .replaced 0x587 ["եւ"],
    .kept 0x588 0x58A,
    .kept 0x58D 0x58F, .kept 0x591 0x5C8, .kept 0x5D0 0x5EA, .kept 0x5EF 0x5F4, .kept 0x606 0x61B,
    .kept 0x61D 0x674, .replaced 0x675 ["اٴ", "وٴ", "ۇٴ", "يٴ"], .kept 0x679 0x6DC,
    .kept 0x6DE 0x70D, .kept 0x710 0x74A, .kept 0x74D 0x7B1, .kept 0x7C0 0x7FA, .kept 0x7FD 0x82D,
    .kept 0x830 0x83E, .kept 0x840 0x85B, .kept 0x85E 0x85E, .kept 0x860 0x86A, .kept 0x870 0x88F,
    .kept 0x897 0x8E1, .kept 0x8E3 0x957,
    .replaced 0x958 ["क़", "ख़", "ग़", "ज़", "ड़", "ढ़", "फ़", "य़"], .kept 0x960 0x983,
    .kept 0x985 0x98C, .kept 0x98F 0x990, .kept 0x993 0x9A8, .kept 0x9AA 0x9B0, .kept 0x9B2 0x9B2,
    .kept 0x9B6 0x9B9, .kept 0x9BC 0x9C4, .kept 0x9C7 0x9C8, .kept 0x9CB 0x9CE, .kept 0x9D7 0x9D7,
    .replaced 0x9DC ["ড়", "ঢ়"], .replaced 0x9DF ["য়"], .kept 0x9E0 0x9E3, .kept 0x9E6 0x9FE,
    .kept 0xA01 0xA03, .kept 0xA05 0xA0A, .kept 0xA0F 0xA10, .kept 0xA13 0xA28, .kept 0xA2A 0xA30,
    .kept 0xA32 0xA32, .replaced 0xA33 ["ਲ਼"], .kept 0xA35 0xA35, .replaced 0xA36 ["ਸ਼"],
    .kept 0xA38 0xA39, .kept 0xA3C 0xA3C, .kept 0xA3E 0xA42, .kept 0xA47 0xA48, .kept 0xA4B 0xA4D,
    .kept 0xA51 0xA51, .replaced 0xA59 ["ਖ਼", "ਗ਼", "ਜ਼"], .kept 0xA5C 0xA5C,
    .replaced 0xA5E ["ਫ਼"], .kept 0xA66 0xA76, .kept 0xA81 0xA83, .kept 0xA85 0xA8D,
    .kept 0xA8F 0xA91, .kept 0xA93 0xAA8, .kept 0xAAA 0xAB0, .kept 0xAB2 0xAB3, .kept 0xAB5 0xAB9,
    .kept 0xABC 0xAC5, .kept 0xAC7 0xAC9, .kept 0xACB 0xACD, .kept 0xAD0 0xAD0, .kept 0xAE0 0xAE3,
    .kept 0xAE6 0xAF1, .kept 0xAF9 0xAFF, .kept 0xB01 0xB03, .kept 0xB05 0xB0C, .kept 0xB0F 0xB10,
    .kept 0xB13 0xB28, .kept 0xB2A 0xB30, .kept 0xB32 0xB33, .kept 0xB35 0xB39, .kept 0xB3C 0xB44,
    .kept 0xB47 0xB48, .kept 0xB4B 0xB4D, .kept 0xB55 0xB57, .replaced 0xB5C ["ଡ଼", "ଢ଼"],
    .kept 0xB5F 0xB63, .kept 0xB66 0xB77, .kept 0xB82 0xB83, .kept 0xB85 0xB8A, .kept 0xB8E 0xB90,
    .kept 0xB92 0xB95, .kept 0xB99 0xB9A, .kept 0xB9C 0xB9C, .kept 0xB9E 0xB9F, .kept 0xBA3 0xBA4,
    .kept 0xBA8 0xBAA, .kept 0xBAE 0xBB9, .kept 0xBBE 0xBC2, .kept 0xBC6 0xBC8, .kept 0xBCA 0xBCD,
    .kept 0xBD0 0xBD0, .kept 0xBD7 0xBD7, .kept 0xBE6 0xBFA, .kept 0xC00 0xC0C, .kept 0xC0E 0xC10,
    .kept 0xC12 0xC28, .kept 0xC2A 0xC39, .kept 0xC3C 0xC44, .kept 0xC46 0xC48, .kept 0xC4A 0xC4D,
    .kept 0xC55 0xC56, .kept 0xC58 0xC5A, .kept 0xC5C 0xC5D, .kept 0xC60 0xC63, .kept 0xC66 0xC6F,
    .kept 0xC77 0xC8C, .kept 0xC8E 0xC90, .kept 0xC92 0xCA8, .kept 0xCAA 0xCB3, .kept 0xCB5 0xCB9,
    .kept 0xCBC 0xCC4, .kept 0xCC6 0xCC8, .kept 0xCCA 0xCCD, .kept 0xCD5 0xCD6, .kept 0xCDC 0xCDE,
    .kept 0xCE0 0xCE3, .kept 0xCE6 0xCEF, .kept 0xCF1 0xCF3, .kept 0xD00 0xD0C, .kept 0xD0E 0xD10,
    .kept 0xD12 0xD44, .kept 0xD46 0xD48, .kept 0xD4A 0xD4F, .kept 0xD54 0xD63, .kept 0xD66 0xD7F,
    .kept 0xD81 0xD83, .kept 0xD85 0xD96, .kept 0xD9A 0xDB1, .kept 0xDB3 0xDBB, .kept 0xDBD 0xDBD,
    .kept 0xDC0 0xDC6, .kept 0xDCA 0xDCA, .kept 0xDCF 0xDD4, .kept 0xDD6 0xDD6, .kept 0xDD8 0xDDF,
    .kept 0xDE6 0xDEF, .kept 0xDF2 0xDF4, .kept 0xE01 0xE32, .replaced 0xE33 ["ํา"],
    .kept 0xE34 0xE3A, .kept 0xE3F 0xE5B, .kept 0xE81 0xE82, .kept 0xE84 0xE84, .kept 0xE86 0xE8A,
    .kept 0xE8C 0xEA3, .kept 0xEA5 0xEA5, .kept 0xEA7 0xEB2, .replaced 0xEB3 ["ໍາ"],
    .kept 0xEB4 0xEBD, .kept 0xEC0 0xEC4, .kept 0xEC6 0xEC6, .kept 0xEC8 0xECE, .kept 0xED0 0xED9,
    .replaced 0xEDC ["ຫນ", "ຫມ"], .kept 0xEDE 0xEDF, .kept 0xF00 0xF0B, .each 0xF0C "་",
    .kept 0xF0D 0xF42, .replaced 0xF43 ["གྷ"], .kept 0xF44 0xF47, .kept 0xF49 0xF4C,
    .replaced 0xF4D ["ཌྷ"], .kept 0xF4E 0xF51, .replaced 0xF52 ["དྷ"], .kept 0xF53 0xF56,
    .replaced 0xF57 ["བྷ"], .kept 0xF58 0xF5B, .replaced 0xF5C ["ཛྷ"], .kept 0xF5D 0xF68,
    .replaced 0xF69 ["ཀྵ"], .kept 0xF6A 0xF6C, .kept 0xF71 0xF72, .replaced 0xF73 ["ཱི"],
    .kept 0xF74 0xF74, .replaced 0xF75 ["ཱུ", "ྲྀ", "ྲཱྀ", "ླྀ", "ླཱྀ"], .kept 0xF7A 0xF80,
    .replaced 0xF81 ["ཱྀ"], .kept 0xF82 0xF92, .replaced 0xF93 ["ྒྷ"], .kept 0xF94 0xF97,
    .kept 0xF99 0xF9C, .replaced 0xF9D ["ྜྷ"], .kept 0xF9E 0xFA1, .replaced 0xFA2 ["ྡྷ"],
    .kept 0xFA3 0xFA6, .replaced 0xFA7 ["ྦྷ"], .kept 0xFA8 0xFAB, .replaced 0xFAC ["ྫྷ"],
    .kept 0xFAD 0xFB8, .replaced 0xFB9 ["ྐྵ"], .kept 0xFBA 0xFBC, .kept 0xFBE 0xFCC,
    .kept 0xFCE 0xFDA, .kept 0x1000 0x109F, .raised 0x10A0 0x10C5 0x1C60, .each 0x10C7 "ⴧ",
    .each 0x10CD "ⴭ", .kept 0x10D0 0x10FB, .each 0x10FC "ნ", .kept 0x10FD 0x115E,
    .dropped 0x115F 0x1160, .kept 0x1161 0x1248, .kept 0x124A 0x124D, .kept 0x1250 0x1256,
    .kept 0x1258 0x1258, .kept 0x125A 0x125D, .kept 0x1260 0x1288, .kept 0x128A 0x128D,
    .kept 0x1290 0x12B0, .kept 0x12B2 0x12B5, .kept 0x12B8 0x12BE, .kept 0x12C0 0x12C0,
    .kept 0x12C2 0x12C5, .kept 0x12C8 0x12D6, .kept 0x12D8 0x1310, .kept 0x1312 0x1315,
    .kept 0x1318 0x135A, .kept 0x135D 0x137C, .kept 0x1380 0x1399, .kept 0x13A0 0x13F5,
    .lowered 0x13F8 0x13FD 0x8, .kept 0x1400 0x167F, .kept 0x1681 0x169C, .kept 0x16A0 0x16F8,
    .kept 0x1700 0x1715, .kept 0x171F 0x1736, .kept 0x1740 0x1753, .kept 0x1760 0x176C,
    .kept 0x176E 0x1770, .kept 0x1772 0x1773, .kept 0x1780 0x17B3, .dropped 0x17B4 0x17B5,
    .kept 0x17B6 0x17DD, .kept 0x17E0 0x17E9, .kept 0x17F0 0x17F9, .kept 0x1800 0x180A,
    .dropped 0x180B 0x180F, .kept 0x1810 0x1819, .kept 0x1820 0x1878, .kept 0x1880 0x18AA,
    .kept 0x18B0 0x18F5, .kept 0x1900 0x191E, .kept 0x1920 0x192B, .kept 0x1930 0x193B,
    .kept 0x1940 0x1940, .kept 0x1944 0x196D, .kept 0x1970 0x1974, .kept 0x1980 0x19AB,
    .kept 0x19B0 0x19C9, .kept 0x19D0 0x19DA, .kept 0x19DE 0x1A1B, .kept 0x1A1E 0x1A5E,
    .kept 0x1A60 0x1A7C, .kept 0x1A7F 0x1A89, .kept 0x1A90 0x1A99, .kept 0x1AA0 0x1AAD,
    .kept 0x1AB0 0x1ADD, .kept 0x1AE0 0x1AEB, .kept 0x1B00 0x1B4C, .kept 0x1B4E 0x1BF3,
    .kept 0x1BFC 0x1C37, .kept 0x1C3B 0x1C49, .kept 0x1C4D 0x1C7F, .each 0x1C80 "вдосттъѣꙋᲊ",
    .kept 0x1C8A 0x1C8A, .lowered 0x1C90 0x1CBA 0xBC0, .each 0x1CBD "ჽჾჿ", .kept 0x1CC0 0x1CC7,
    .kept 0x1CD0 0x1CFA, .kept 0x1D00 0x1D2B, .each 0x1D2C "aæb", .kept 0x1D2F 0x1D2F,
    .each 0x1D30 "deǝ", .lowered 0x1D33 0x1D3A 0x1CCC, .kept 0x1D3B 0x1D3B,
    .each 0x1D3C "oȣprtuwaɐɑᴂbdeəɛɜg", .kept 0x1D4E 0x1D4E,
    .each 0x1D4F "kmŋoɔᴖᴗptuᴝɯvᴥβγδφχiruvβ", .each 0x1D67 "γρφχ", .kept 0x1D6B 0x1D77,
    .each 0x1D78 "н", .kept 0x1D79 0x1D9A, .each 0x1D9B "ɒcɕðɜfɟɡɥɨɩɪᵻʝɭᶅʟɱɰ",
    .lowered 0x1DAE 0x1DB1 0x1B3C, .each 0x1DB2 "ɸʂʃƫʉʊᴜʋʌzʐʑʒθ", .kept 0x1DC0 0x1DFF,
    .alternating 0x1E00 0x1E95, .kept 0x1E96 0x1E99, .replaced 0x1E9A ["aʾ"], .each 0x1E9B "ṡ",
    .kept 0x1E9C 0x1E9D, .each 0x1E9E "ß", .kept 0x1E9F 0x1E9F, .alternating 0x1EA0 0x1EFF,
    .kept 0x1F00 0x1F07, .lowered 0x1F08 0x1F0F 0x8, .kept 0x1F10 0x1F15,
    .lowered 0x1F18 0x1F1D 0x8, .kept 0x1F20 0x1F27, .lowered 0x1F28 0x1F2F 0x8,
    .kept 0x1F30 0x1F37, .lowered 0x1F38 0x1F3F 0x8, .kept 0x1F40 0x1F45,
    .lowered 0x1F48 0x1F4D 0x8, .kept 0x1F50 0x1F57, .each 0x1F59 "ὑ", .each 0x1F5B "ὓ",
    .each 0x1F5D "ὕ", .each 0x1F5F "ὗ", .kept 0x1F60 0x1F67, .lowered 0x1F68 0x1F6F 0x8,
    .kept 0x1F70 0x1F70, .each 0x1F71 "ά", .kept 0x1F72 0x1F72, .each 0x1F73 "έ",
    .kept 0x1F74 0x1F74, .each 0x1F75 "ή", .kept 0x1F76 0x1F76, .each 0x1F77 "ί",
    .kept 0x1F78 0x1F78, .each 0x1F79 "ό", .kept 0x1F7A 0x1F7A, .each 0x1F7B "ύ",
    .kept 0x1F7C 0x1F7C, .each 0x1F7D "ώ",
    .replaced 0x1F80 ["ἀι", "ἁι", "ἂι", "ἃι", "ἄι", "ἅι", "ἆι", "ἇι", "ἀι"],
    .replaced 0x1F89 ["ἁι", "ἂι", "ἃι", "ἄι", "ἅι", "ἆι", "ἇι", "ἠι", "ἡι"],
    .replaced 0x1F92 ["ἢι", "ἣι", "ἤι", "ἥι", "ἦι", "ἧι", "ἠι", "ἡι", "ἢι"],
    .replaced 0x1F9B ["ἣι", "ἤι", "ἥι", "ἦι", "ἧι", "ὠι", "ὡι", "ὢι", "ὣι"],
    .replaced 0x1FA4 ["ὤι", "ὥι", "ὦι", "ὧι", "ὠι", "ὡι", "ὢι", "ὣι", "ὤι"],
    .replaced 0x1FAD ["ὥι", "ὦι", "ὧι"], .kept 0x1FB0 0x1FB1, .replaced 0x1FB2 ["ὰι", "αι", "άι"],
    .kept 0x1FB6 0x1FB6, .replaced 0x1FB7 ["ᾶι"], .each 0x1FB8 "ᾰᾱὰά",
    .replaced 0x1FBC ["αι", " ̓"], .each 0x1FBE "ι",
    .replaced 0x1FBF [" ̓", " ͂", " ̈͂", "ὴι", "ηι", "ήι"], .kept 0x1FC6 0x1FC6,
    .replaced 0x1FC7 ["ῆι"], .each 0x1FC8 "ὲέὴή", .replaced 0x1FCC ["ηι", " ̓̀", " ̓́", " ̓͂"],
    .kept 0x1FD0 0x1FD2, .each 0x1FD3 "ΐ", .kept 0x1FD6 0x1FD7, .each 0x1FD8 "ῐῑὶί",
    .replaced 0x1FDD [" ̔̀", " ̔́", " ̔͂"], .kept 0x1FE0 0x1FE2, .each 0x1FE3 "ΰ",
    .kept 0x1FE4 0x1FE7, .each 0x1FE8 "ῠῡὺύῥ", .replaced 0x1FED [" ̈̀", " ̈́"], .each 0x1FEF "`",
    .replaced 0x1FF2 ["ὼι", "ωι", "ώι"], .kept 0x1FF6 0x1FF6, .replaced 0x1FF7 ["ῶι"],
    .each 0x1FF8 "ὸόὼώ", .replaced 0x1FFC ["ωι", " ́", " ̔"]]

/-- These rows speak about the punctuation, signs and radicals. -/
def symbolRows : List Row :=
  [.each 0x2000 "           ", .dropped 0x200B 0x200B, .kept 0x200C 0x200D, .kept 0x2010 0x2010,
    .each 0x2011 "‐", .kept 0x2012 0x2016, .replaced 0x2017 [" ̳"], .kept 0x2018 0x2023,
    .kept 0x2027 0x2027, .each 0x202F " ", .kept 0x2030 0x2032, .replaced 0x2033 ["′′", "′′′"],
    .kept 0x2035 0x2035, .replaced 0x2036 ["‵‵", "‵‵‵"], .kept 0x2038 0x203B,
    .replaced 0x203C ["!!"], .kept 0x203D 0x203D, .replaced 0x203E [" ̅"], .kept 0x203F 0x2046,
    .replaced 0x2047 ["??", "?!", "!?"], .kept 0x204A 0x2056, .replaced 0x2057 ["′′′′"],
    .kept 0x2058 0x205E, .each 0x205F " ", .dropped 0x2060 0x2064, .dropped 0x206A 0x206F,
    .each 0x2070 "0i", .lowered 0x2074 0x2079 0x2040, .each 0x207A "+−=()n",
    .lowered 0x2080 0x2089 0x2050, .each 0x208A "+−=()", .each 0x2090 "aeoxəh",
    .lowered 0x2096 0x2099 0x202B, .each 0x209A "pst", .kept 0x20A0 0x20A7,
    .replaced 0x20A8 ["rs"], .kept 0x20A9 0x20C1, .kept 0x20D0 0x20F0,
    .replaced 0x2100 ["a/c", "a/s"], .each 0x2102 "c", .replaced 0x2103 ["°c"],
    .kept 0x2104 0x2104, .replaced 0x2105 ["c/o", "c/u"], .each 0x2107 "ɛ", .kept 0x2108 0x2108,
    .replaced 0x2109 ["°f"], .each 0x210A "ghhhhħiill", .kept 0x2114 0x2114, .each 0x2115 "n",
    .replaced 0x2116 ["no"], .kept 0x2117 0x2118, .each 0x2119 "pqrrr", .kept 0x211E 0x211F,
    .replaced 0x2120 ["sm", "tel", "tm"], .kept 0x2123 0x2123, .each 0x2124 "z",
    .kept 0x2125 0x2125, .each 0x2126 "ω", .kept 0x2127 0x2127, .each 0x2128 "z",
    .kept 0x2129 0x2129, .each 0x212A "kåbc", .kept 0x212E 0x212E, .each 0x212F "eefⅎmo",
    .lowered 0x2135 0x2138 0x1B65, .each 0x2139 "i", .kept 0x213A 0x213A,
    .replaced 0x213B ["fax"], .each 0x213C "πγγπ∑", .kept 0x2141 0x2144, .each 0x2145 "ddeij",
    .kept 0x214A 0x214F,
    .replaced 0x2150 ["1⁄7", "1⁄9", "1⁄10", "1⁄3", "2⁄3", "1⁄5", "2⁄5", "3⁄5"],
    .replaced 0x2158 ["4⁄5", "1⁄6", "5⁄6", "1⁄8", "3⁄8", "5⁄8", "7⁄8", "1⁄"], .each 0x2160 "i",
    .replaced 0x2161 ["ii", "iii", "iv"], .each 0x2164 "v",
    .replaced 0x2165 ["vi", "vii", "viii", "ix"], .each 0x2169 "x",
    .replaced 0x216A ["xi", "xii"], .each 0x216C "lcdmi", .replaced 0x2171 ["ii", "iii", "iv"],
    .each 0x2174 "v", .replaced 0x2175 ["vi", "vii", "viii", "ix"], .each 0x2179 "x",
    .replaced 0x217A ["xi", "xii"], .each 0x217C "lcdm", .kept 0x2180 0x2182, .each 0x2183 "ↄ",
    .kept 0x2184 0x2188, .replaced 0x2189 ["0⁄3"], .kept 0x218A 0x218B, .kept 0x2190 0x222B,
    .replaced 0x222C ["∫∫", "∫∫∫"], .kept 0x222E 0x222E, .replaced 0x222F ["∮∮", "∮∮∮"],
    .kept 0x2231 0x2328, .each 0x2329 "〈〉", .kept 0x232B 0x2429, .kept 0x2440 0x244A,
    .lowered 0x2460 0x2468 0x242F,
    .replaced 0x2469 ["10", "11", "12", "13", "14", "15", "16", "17", "18"],
    .replaced 0x2472 ["19", "20", "(1)", "(2)", "(3)", "(4)", "(5)", "(6)"],
    .replaced 0x247A ["(7)", "(8)", "(9)", "(10)", "(11)", "(12)", "(13)"],
    .replaced 0x2481 ["(14)", "(15)", "(16)", "(17)", "(18)", "(19)", "(20)"],
    .replaced 0x249C ["(a)", "(b)", "(c)", "(d)", "(e)", "(f)", "(g)", "(h)"],
    .replaced 0x24A4 ["(i)", "(j)", "(k)", "(l)", "(m)", "(n)", "(o)", "(p)"],
    .replaced 0x24AC ["(q)", "(r)", "(s)", "(t)", "(u)", "(v)", "(w)", "(x)"],
    .replaced 0x24B4 ["(y)", "(z)"], .lowered 0x24B6 0x24CF 0x2455, .lowered 0x24D0 0x24E9 0x246F,
    .each 0x24EA "0", .kept 0x24EB 0x2A0B, .replaced 0x2A0C ["∫∫∫∫"], .kept 0x2A0D 0x2A73,
    .replaced 0x2A74 ["::=", "==", "==="], .kept 0x2A77 0x2ADB, .replaced 0x2ADC ["⫝̸"],
    .kept 0x2ADD 0x2B73, .kept 0x2B76 0x2BFF, .raised 0x2C00 0x2C2F 0x30, .kept 0x2C30 0x2C5F,
    .each 0x2C60 "ⱡ", .kept 0x2C61 0x2C61, .each 0x2C62 "ɫᵽɽ", .kept 0x2C65 0x2C66,
    .alternating 0x2C67 0x2C6C, .each 0x2C6D "ɑɱɐɒ", .kept 0x2C71 0x2C71, .each 0x2C72 "ⱳ",
    .kept 0x2C73 0x2C74, .each 0x2C75 "ⱶ", .kept 0x2C76 0x2C7B, .each 0x2C7C "jvȿɀ",
    .alternating 0x2C80 0x2CE3, .kept 0x2CE4 0x2CEA, .alternating 0x2CEB 0x2CEE,
    .kept 0x2CEF 0x2CF1, .each 0x2CF2 "ⳳ", .kept 0x2CF3 0x2CF3, .kept 0x2CF9 0x2D25,
    .kept 0x2D27 0x2D27, .kept 0x2D2D 0x2D2D, .kept 0x2D30 0x2D67, .each 0x2D6F "ⵡ",
    .kept 0x2D70 0x2D70, .kept 0x2D7F 0x2D96, .kept 0x2DA0 0x2DA6, .kept 0x2DA8 0x2DAE,
    .kept 0x2DB0 0x2DB6, .kept 0x2DB8 0x2DBE, .kept 0x2DC0 0x2DC6, .kept 0x2DC8 0x2DCE,
    .kept 0x2DD0 0x2DD6, .kept 0x2DD8 0x2DDE, .kept 0x2DE0 0x2E5D, .kept 0x2E80 0x2E99,
    .kept 0x2E9B 0x2E9E, .each 0x2E9F "母", .kept 0x2EA0 0x2EF2, .each 0x2EF3 "龟",
    .each 0x2F00 "一丨丶丿乙亅二亠人儿入八冂冖冫几凵刀力勹匕匚匸十", .each 0x2F18 "卜卩厂厶又口囗土士夂夊夕大女子宀寸小尢尸屮山巛工",
    .each 0x2F30 "己巾干幺广廴廾弋弓彐彡彳心戈戶手支攴文斗斤方无日", .each 0x2F48 "曰月木欠止歹殳毋比毛氏气水火爪父爻爿片牙牛犬玄玉",
    .each 0x2F60 "瓜瓦甘生用田疋疒癶白皮皿目矛矢石示禸禾穴立竹米糸", .each 0x2F78 "缶网羊羽老而耒耳聿肉臣自至臼舌舛舟艮色艸虍虫血行",
    .each 0x2F90 "衣襾見角言谷豆豕豸貝赤走足身車辛辰辵邑酉釆里金長", .each 0x2FA8 "門阜隶隹雨靑非面革韋韭音頁風飛食首香馬骨高髟鬥鬯",
    .each 0x2FC0 "鬲鬼魚鳥鹵鹿麥麻黃黍黑黹黽鼎鼓鼠鼻齊齒龍龜龠"]

/-- These rows speak about the ideographs and presentation forms. -/
def ideographRows : List Row :=
  [.each 0x3000 " ", .kept 0x3001 0x3001, .each 0x3002 ".", .kept 0x3003 0x3035, .each 0x3036 "〒",
    .kept 0x3037 0x3037, .each 0x3038 "十卄卅", .kept 0x303B 0x303F, .kept 0x3041 0x3096,
    .kept 0x3099 0x309A, .replaced 0x309B [" ゙", " ゚"], .kept 0x309D 0x309E,
    .replaced 0x309F ["より"], .kept 0x30A0 0x30FE, .replaced 0x30FF ["コト"], .kept 0x3105 0x312F,
    .each 0x3131 "ᄀᄁᆪᄂᆬᆭᄃᄄᄅ", .lowered 0x313A 0x313F 0x1F8A, .each 0x3140 "ᄚᄆᄇᄈᄡ",
    .lowered 0x3145 0x314E 0x203C, .lowered 0x314F 0x3163 0x1FEE, .dropped 0x3164 0x3164,
    .each 0x3165 "ᄔᄕᇇᇈᇌᇎᇓᇗᇙᄜᇝᇟᄝᄞᄠᄢᄣᄧᄩ", .lowered 0x3178 0x317C 0x204D,
    .each 0x317D "ᄲᄶᅀᅇᅌᇱᇲᅗᅘᅙᆄᆅᆈᆑᆒᆔᆞᆡ", .kept 0x3190 0x3191, .each 0x3192 "一二三四上中下甲乙丙丁天地人",
    .kept 0x31A0 0x31E5, .kept 0x31F0 0x31FF,
    .replaced 0x3200 ["(ᄀ)", "(ᄂ)", "(ᄃ)", "(ᄅ)", "(ᄆ)", "(ᄇ)", "(ᄉ)", "(ᄋ)"],
    .replaced 0x3208 ["(ᄌ)", "(ᄎ)", "(ᄏ)", "(ᄐ)", "(ᄑ)", "(ᄒ)", "(가)", "(나)"],
    .replaced 0x3210 ["(다)", "(라)", "(마)", "(바)", "(사)", "(아)", "(자)", "(차)"],
    .replaced 0x3218 ["(카)", "(타)", "(파)", "(하)", "(주)", "(오전)", "(오후)"],
    .replaced 0x3220 ["(一)", "(二)", "(三)", "(四)", "(五)", "(六)", "(七)", "(八)"],
    .replaced 0x3228 ["(九)", "(十)", "(月)", "(火)", "(水)", "(木)", "(金)", "(土)"],
    .replaced 0x3230 ["(日)", "(株)", "(有)", "(社)", "(名)", "(特)", "(財)", "(祝)"],
    .replaced 0x3238 ["(労)", "(代)", "(呼)", "(学)", "(監)", "(企)", "(資)", "(協)"],
    .replaced 0x3240 ["(祭)", "(休)", "(自)", "(至)"], .each 0x3244 "問幼文箏", .kept 0x3248 0x324F,
    .replaced 0x3250 ["pte", "21", "22", "23", "24", "25", "26", "27", "28"],
    .replaced 0x3259 ["29", "30", "31", "32", "33", "34", "35"], .each 0x3260 "ᄀᄂᄃᄅᄆᄇᄉᄋᄌ",
    .lowered 0x3269 0x326D 0x215B, .each 0x326E "가나다라마바사아자차카타파하", .replaced 0x327C ["참고", "주의"],
    .each 0x327E "우", .kept 0x327F 0x327F, .each 0x3280 "一二三四五六七八九十月火水木金土日株有社名特財祝",
    .each 0x3298 "労秘男女適優印注項休写正上中下左右医宗学監企資協", .each 0x32B0 "夜",
    .replaced 0x32B1 ["36", "37", "38", "39", "40", "41", "42", "43", "44"],
    .replaced 0x32BA ["45", "46", "47", "48", "49", "50", "1月", "2月", "3月"],
    .replaced 0x32C3 ["4月", "5月", "6月", "7月", "8月", "9月", "10月", "11月", "12月"],
    .replaced 0x32CC ["hg", "erg", "ev", "ltd"], .each 0x32D0 "アイウエオカキクケコサシスセソタチツテト",
    .lowered 0x32E4 0x32E9 0x21A, .each 0x32EA "ヒフヘホ", .lowered 0x32EE 0x32F2 0x210,
    .each 0x32F3 "ヤユ", .lowered 0x32F5 0x32FA 0x20D, .lowered 0x32FB 0x32FE 0x20C,
    .replaced 0x32FF ["令和", "アパート", "アルファ", "アンペア", "アール", "イニング", "インチ"],
    .replaced 0x3306 ["ウォン", "エスクード", "エーカー", "オンス", "オーム", "カイリ", "カラット"],
    .replaced 0x330D ["カロリー", "ガロン", "ガンマ", "ギガ", "ギニー", "キュリー", "ギルダー"],
    .replaced 0x3314 ["キロ", "キログラム", "キロメートル", "キロワット", "グラム", "グラムトン", "クルゼイロ"],
    .replaced 0x331B ["クローネ", "ケース", "コルナ", "コーポ", "サイクル", "サンチーム", "シリング"],
    .replaced 0x3322 ["センチ", "セント", "ダース", "デシ", "ドル", "トン", "ナノ", "ノット"],
    .replaced 0x332A ["ハイツ", "パーセント", "パーツ", "バーレル", "ピアストル", "ピクル", "ピコ"],
    .replaced 0x3331 ["ビル", "ファラッド", "フィート", "ブッシェル", "フラン", "ヘクタール", "ペソ"],
    .replaced 0x3338 ["ペニヒ", "ヘルツ", "ペンス", "ページ", "ベータ", "ポイント", "ボルト", "ホン"],
    .replaced 0x3340 ["ポンド", "ホール", "ホーン", "マイクロ", "マイル", "マッハ", "マルク", "マンション"],
    .replaced 0x3348 ["ミクロン", "ミリ", "ミリバール", "メガ", "メガトン", "メートル", "ヤード"],
    .replaced 0x334F ["ヤール", "ユアン", "リットル", "リラ", "ルピー", "ルーブル", "レム", "レントゲン"],
    .replaced 0x3357 ["ワット", "0点", "1点", "2点", "3点", "4点", "5点", "6点", "7点"],
    .replaced 0x3360 ["8点", "9点", "10点", "11点", "12点", "13点", "14点", "15点"],
    .replaced 0x3368 ["16点", "17点", "18点", "19点", "20点", "21点", "22点", "23点"],
    .replaced 0x3370 ["24点", "hpa", "da", "au", "bar", "ov", "pc", "dm"],
    .replaced 0x3378 ["dm2", "dm3", "iu", "平成", "昭和", "大正", "明治", "株式会社"],
    .replaced 0x3380 ["pa", "na", "μa", "ma", "ka", "kb", "mb", "gb", "cal"],
    .replaced 0x3389 ["kcal", "pf", "nf", "μf", "μg", "mg", "kg", "hz", "khz"],
    .replaced 0x3392 ["mhz", "ghz", "thz", "μl", "ml", "dl", "kl", "fm"],
    .replaced 0x339A ["nm", "μm", "mm", "cm", "km", "mm2", "cm2", "m2", "km2"],
    .replaced 0x33A3 ["mm3", "cm3", "m3", "km3", "m∕s", "m∕s2", "pa", "kpa"],
    .replaced 0x33AB ["mpa", "gpa", "rad", "rad∕s", "rad∕s2", "ps", "ns"],
    .replaced 0x33B2 ["μs", "ms", "pv", "nv", "μv", "mv", "kv", "mv", "pw"],
    .replaced 0x33BB ["nw", "μw", "mw", "kw", "mw", "kω", "mω"],
    .replaced 0x33C3 ["bq", "cc", "cd", "c∕kg"],
    .replaced 0x33C8 ["db", "gy", "ha", "hp", "in", "kk", "km", "kt", "lm"],
    .replaced 0x33D1 ["ln", "log", "lx", "mb", "mil", "mol", "ph"],
    .replaced 0x33D9 ["ppm", "pr", "sr", "sv", "wb", "v∕m", "a∕m", "1日"],
    .replaced 0x33E1 ["2日", "3日", "4日", "5日", "6日", "7日", "8日", "9日", "10日"],
    .replaced 0x33EA ["11日", "12日", "13日", "14日", "15日", "16日", "17日", "18日"],
    .replaced 0x33F2 ["19日", "20日", "21日", "22日", "23日", "24日", "25日", "26日"],
    .replaced 0x33FA ["27日", "28日", "29日", "30日", "31日", "gal"], .kept 0x3400 0xA48C,
    .kept 0xA490 0xA4C6, .kept 0xA4D0 0xA62B, .alternating 0xA640 0xA66D, .kept 0xA66E 0xA67F,
    .alternating 0xA680 0xA69B, .each 0xA69C "ъь", .kept 0xA69E 0xA6F7, .kept 0xA700 0xA721,
    .alternating 0xA722 0xA72F, .kept 0xA730 0xA731, .alternating 0xA732 0xA76F, .each 0xA770 "ꝯ",
    .kept 0xA771 0xA778, .alternating 0xA779 0xA77C, .each 0xA77D "ᵹ", .alternating 0xA77E 0xA787,
    .kept 0xA788 0xA78A, .each 0xA78B "ꞌ", .kept 0xA78C 0xA78C, .each 0xA78D "ɥ",
    .kept 0xA78E 0xA78F, .alternating 0xA790 0xA793, .kept 0xA794 0xA795,
    .alternating 0xA796 0xA7A9, .each 0xA7AA "ɦɜɡɬɪ", .kept 0xA7AF 0xA7AF, .each 0xA7B0 "ʞʇʝꭓ",
    .alternating 0xA7B4 0xA7C3, .each 0xA7C4 "ꞔʂᶎ", .alternating 0xA7C7 0xA7CA, .each 0xA7CB "ɤ",
    .alternating 0xA7CC 0xA7DB, .each 0xA7DC "ƛ", .each 0xA7F1 "scfqꟶ", .kept 0xA7F6 0xA7F7,
    .each 0xA7F8 "ħœ", .kept 0xA7FA 0xA82C, .kept 0xA830 0xA839, .kept 0xA840 0xA877,
    .kept 0xA880 0xA8C5, .kept 0xA8CE 0xA8D9, .kept 0xA8E0 0xA953, .kept 0xA95F 0xA97C,
    .kept 0xA980 0xA9CD, .kept 0xA9CF 0xA9D9, .kept 0xA9DE 0xA9FE, .kept 0xAA00 0xAA36,
    .kept 0xAA40 0xAA4D, .kept 0xAA50 0xAA59, .kept 0xAA5C 0xAAC2, .kept 0xAADB 0xAAF6,
    .kept 0xAB01 0xAB06, .kept 0xAB09 0xAB0E, .kept 0xAB11 0xAB16, .kept 0xAB20 0xAB26,
    .kept 0xAB28 0xAB2E, .kept 0xAB30 0xAB5B, .each 0xAB5C "ꜧꬷɫꭒ", .kept 0xAB60 0xAB68,
    .each 0xAB69 "ʍ", .kept 0xAB6A 0xAB6B, .lowered 0xAB70 0xABBF 0x97D0, .kept 0xABC0 0xABED,
    .kept 0xABF0 0xABF9, .kept 0xAC00 0xD7A3, .kept 0xD7B0 0xD7C6, .kept 0xD7CB 0xD7FB,
    .each 0xF900 "豈更車賈滑串句龜龜契金喇奈懶癩羅蘿螺裸邏樂洛烙珞", .each 0xF918 "落酪駱亂卵欄爛蘭鸞嵐濫藍襤拉臘蠟廊朗浪狼郎來冷勞",
    .each 0xF930 "擄櫓爐盧老蘆虜路露魯鷺碌祿綠菉錄鹿論壟弄籠聾牢磊", .each 0xF948 "賂雷壘屢樓淚漏累縷陋勒肋凜凌稜綾菱陵讀拏樂諾丹寧",
    .each 0xF960 "怒率異北磻便復不泌數索參塞省葉說殺辰沈拾若掠略亮", .each 0xF978 "兩凉梁糧良諒量勵呂女廬旅濾礪閭驪麗黎力曆歷轢年憐",
    .each 0xF990 "戀撚漣煉璉秊練聯輦蓮連鍊列劣咽烈裂說廉念捻殮簾獵", .each 0xF9A8 "令囹寧嶺怜玲瑩羚聆鈴零靈領例禮醴隸惡了僚寮尿料樂",
    .each 0xF9C0 "燎療蓼遼龍暈阮劉杻柳流溜琉留硫紐類六戮陸倫崙淪輪", .each 0xF9D8 "律慄栗率隆利吏履易李梨泥理痢罹裏裡里離匿溺吝燐璘",
    .each 0xF9F0 "藺隣鱗麟林淋臨立笠粒狀炙識什茶刺切度拓糖宅洞暴輻", .each 0xFA08 "行降見廓兀嗀", .kept 0xFA0E 0xFA0F,
    .each 0xFA10 "塚", .kept 0xFA11 0xFA11, .each 0xFA12 "晴", .kept 0xFA13 0xFA14,
    .each 0xFA15 "凞猪益礼神祥福靖精羽", .kept 0xFA1F 0xFA1F, .each 0xFA20 "蘒", .kept 0xFA21 0xFA21,
    .each 0xFA22 "諸", .kept 0xFA23 0xFA24, .each 0xFA25 "逸都", .kept 0xFA27 0xFA29,
    .each 0xFA2A "飯飼館鶴郞隷侮僧免勉勤卑喝嘆器塀墨層屮悔慨憎懲敏", .each 0xFA42 "既暑梅海渚漢煮爫琢碑社祉祈祐祖祝禍禎穀突節練縉繁",
    .each 0xFA5A "署者臭艹艹著褐視謁謹賓贈辶逸難響頻恵𤋮舘", .each 0xFA70 "並况全侀充冀勇勺喝啕喙嗢塚墳奄奔婢嬨廒廙彩徭惘慎",
    .each 0xFA88 "愈憎慠懲戴揄搜摒敖晴朗望杖歹殺流滛滋漢瀞煮瞧爵犯", .each 0xFAA0 "猪瑱甆画瘝瘟益盛直睊着磌窱節类絛練缾者荒華蝹襁覆",
    .each 0xFAB8 "視調諸請謁諾諭謹變贈輸遲醙鉶陼難靖韛響頋頻鬒龜𢡊", .each 0xFAD0 "𢡄𣏕㮝䀘䀹𥉉𥳐𧻓齃龎",
    .replaced 0xFB00 ["ff", "fi", "fl", "ffi", "ffl", "st", "st"],
    .replaced 0xFB13 ["մն", "մե", "մի", "վն", "մխ"], .replaced 0xFB1D ["יִ"], .kept 0xFB1E 0xFB1E,
    .replaced 0xFB1F ["ײַ"], .each 0xFB20 "עאדהכלםרת+",
    .replaced 0xFB2A ["שׁ", "שׂ", "שּׁ", "שּׂ", "אַ", "אָ", "אּ", "בּ", "גּ"],
    .replaced 0xFB33 ["דּ", "הּ", "וּ", "זּ"], .replaced 0xFB38 ["טּ", "יּ", "ךּ", "כּ", "לּ"],
    .replaced 0xFB3E ["מּ"], .replaced 0xFB40 ["נּ", "סּ"], .replaced 0xFB43 ["ףּ", "פּ"],
    .replaced 0xFB46 ["צּ", "קּ", "רּ", "שּ", "תּ", "וֹ", "בֿ", "כֿ", "פֿ"],
    .replaced 0xFB4F ["אל"], .each 0xFB50 "ٱٱٻٻٻٻپپپپڀڀڀڀٺٺٺٺٿٿٿٿٹٹ",
    .each 0xFB68 "ٹٹڤڤڤڤڦڦڦڦڄڄڄڄڃڃڃڃچچچچڇڇ", .each 0xFB80 "ڇڇڍڍڌڌڎڎڈڈژژڑڑککککگگگگڳڳ",
    .each 0xFB98 "ڳڳڱڱڱڱںںڻڻڻڻۀۀہہہہھھھھےے", .each 0xFBB0 "ۓۓ", .kept 0xFBB2 0xFBD2,
    .each 0xFBD3 "ڭڭڭڭۇۇۆۆۈۈ", .replaced 0xFBDD ["ۇٴ"], .each 0xFBDE "ۋۋۅۅۉۉېېېېىى",
    .replaced 0xFBEA ["ئا", "ئا", "ئە", "ئە", "ئو", "ئو", "ئۇ", "ئۇ", "ئۆ"],
    .replaced 0xFBF3 ["ئۆ", "ئۈ", "ئۈ", "ئې", "ئې", "ئې", "ئى", "ئى", "ئى"], .each 0xFBFC "یییی",
    .replaced 0xFC00 ["ئج", "ئح", "ئم", "ئى", "ئي", "بج", "بح", "بخ", "بم"],
    .replaced 0xFC09 ["بى", "بي", "تج", "تح", "تخ", "تم", "تى", "تي", "ثج"],
    .replaced 0xFC12 ["ثم", "ثى", "ثي", "جح", "جم", "حج", "حم", "خج", "خح"],
    .replaced 0xFC1B ["خم", "سج", "سح", "سخ", "سم", "صح", "صم", "ضج", "ضح"],
    .replaced 0xFC24 ["ضخ", "ضم", "طح", "طم", "ظم", "عج", "عم", "غج", "غم"],
    .replaced 0xFC2D ["فج", "فح", "فخ", "فم", "فى", "في", "قح", "قم", "قى"],
    .replaced 0xFC36 ["قي", "كا", "كج", "كح", "كخ", "كل", "كم", "كى", "كي"],
    .replaced 0xFC3F ["لج", "لح", "لخ", "لم", "لى", "لي", "مج", "مح", "مخ"],
    .replaced 0xFC48 ["مم", "مى", "مي", "نج", "نح", "نخ", "نم", "نى", "ني"],
    .replaced 0xFC51 ["هج", "هم", "هى", "هي", "يج", "يح", "يخ", "يم", "يى"],
    .replaced 0xFC5A ["يي", "ذٰ", "رٰ", "ىٰ", " ٌّ", " ٍّ", " َّ", " ُّ"],
    .replaced 0xFC62 [" ِّ", " ّٰ", "ئر", "ئز", "ئم", "ئن", "ئى", "ئي", "بر"],
    .replaced 0xFC6B ["بز", "بم", "بن", "بى", "بي", "تر", "تز", "تم", "تن"],
    .replaced 0xFC74 ["تى", "تي", "ثر", "ثز", "ثم", "ثن", "ثى", "ثي", "فى"],
    .replaced 0xFC7D ["في", "قى", "قي", "كا", "كل", "كم", "كى", "كي", "لم"],
    .replaced 0xFC86 ["لى", "لي", "ما", "مم", "نر", "نز", "نم", "نن", "نى"],
    .replaced 0xFC8F ["ني", "ىٰ", "ير", "يز", "يم", "ين", "يى", "يي", "ئج"],
    .replaced 0xFC98 ["ئح", "ئخ", "ئم", "ئه", "بج", "بح", "بخ", "بم", "به"],
    .replaced 0xFCA1 ["تج", "تح", "تخ", "تم", "ته", "ثم", "جح", "جم", "حج"],
    .replaced 0xFCAA ["حم", "خج", "خم", "سج", "سح", "سخ", "سم", "صح", "صخ"],
    .replaced 0xFCB3 ["صم", "ضج", "ضح", "ضخ", "ضم", "طح", "ظم", "عج", "عم"],
    .replaced 0xFCBC ["غج", "غم", "فج", "فح", "فخ", "فم", "قح", "قم", "كج"],
    .replaced 0xFCC5 ["كح", "كخ", "كل", "كم", "لج", "لح", "لخ", "لم", "له"],
    .replaced 0xFCCE ["مج", "مح", "مخ", "مم", "نج", "نح", "نخ", "نم", "نه"],
    .replaced 0xFCD7 ["هج", "هم", "هٰ", "يج", "يح", "يخ", "يم", "يه", "ئم"],
    .replaced 0xFCE0 ["ئه", "بم", "به", "تم", "ته", "ثم", "ثه", "سم", "سه"],
    .replaced 0xFCE9 ["شم", "شه", "كل", "كم", "لم", "نم", "نه", "يم", "يه"],
    .replaced 0xFCF2 ["ـَّ", "ـُّ", "ـِّ", "طى", "طي", "عى", "عي", "غى"],
    .replaced 0xFCFA ["غي", "سى", "سي", "شى", "شي", "حى", "حي", "جى", "جي"],
    .replaced 0xFD03 ["خى", "خي", "صى", "صي", "ضى", "ضي", "شج", "شح", "شخ"],
    .replaced 0xFD0C ["شم", "شر", "سر", "صر", "ضر", "طى", "طي", "عى", "عي"],
    .replaced 0xFD15 ["غى", "غي", "سى", "سي", "شى", "شي", "حى", "حي", "جى"],
    .replaced 0xFD1E ["جي", "خى", "خي", "صى", "صي", "ضى", "ضي", "شج", "شح"],
    .replaced 0xFD27 ["شخ", "شم", "شر", "سر", "صر", "ضر", "شج", "شح", "شخ"],
    .replaced 0xFD30 ["شم", "سه", "شه", "طم", "سج", "سح", "سخ", "شج", "شح"],
    .replaced 0xFD39 ["شخ", "طم", "ظم", "اً", "اً"], .kept 0xFD3E 0xFD4F,
    .replaced 0xFD50 ["تجم", "تحج", "تحج", "تحم", "تخم", "تمج", "تمح", "تمخ"],
    .replaced 0xFD58 ["جمح", "جمح", "حمي", "حمى", "سحج", "سجح", "سجى", "سمح"],
    .replaced 0xFD60 ["سمح", "سمج", "سمم", "سمم", "صحح", "صحح", "صمم", "شحم"],
    .replaced 0xFD68 ["شحم", "شجي", "شمخ", "شمخ", "شمم", "شمم", "ضحى", "ضخم"],
    .replaced 0xFD70 ["ضخم", "طمح", "طمح", "طمم", "طمي", "عجم", "عمم", "عمم"],
    .replaced 0xFD78 ["عمى", "غمم", "غمي", "غمى", "فخم", "فخم", "قمح", "قمم"],
    .replaced 0xFD80 ["لحم", "لحي", "لحى", "لجج", "لجج", "لخم", "لخم", "لمح"],
    .replaced 0xFD88 ["لمح", "محج", "محم", "محي", "مجح", "مجم", "مخج", "مخم"],
    .kept 0xFD90 0xFD91,
    .replaced 0xFD92 ["مجخ", "همج", "همم", "نحم", "نحى", "نجم", "نجم", "نجى"],
    .replaced 0xFD9A ["نمي", "نمى", "يمم", "يمم", "بخي", "تجي", "تجى", "تخي"],
    .replaced 0xFDA2 ["تخى", "تمي", "تمى", "جمي", "جحى", "جمى", "سخى", "صحي"],
    .replaced 0xFDAA ["شحي", "ضحي", "لجي", "لمي", "يحي", "يجي", "يمي", "ممي"],
    .replaced 0xFDB2 ["قمي", "نحي", "قمح", "لحم", "عمي", "كمي", "نجح", "مخي"],
    .replaced 0xFDBA ["لجم", "كمم", "لجم", "نجح", "جحي", "حجي", "مجي", "فمي"],
    .replaced 0xFDC2 ["بحي", "كمم", "عجم", "صمم", "سخي", "نجي"], .kept 0xFDC8 0xFDCF,
    .replaced 0xFDF0 ["صلے", "قلے", "الله", "اكبر", "محمد", "صلعم", "رسول"],
    .replaced 0xFDF7 ["عليه", "وسلم", "صلى", "صلى الله عليه وسلم", "جل جلاله"],
    .replaced 0xFDFC ["ریال"], .kept 0xFDFD 0xFDFF, .dropped 0xFE00 0xFE0F, .each 0xFE10 ",、",
    .each 0xFE13 ":;!?〖〗", .kept 0xFE20 0xFE2F, .each 0xFE31 "—–__()\x7b\x7d〔〕【】《》〈〉",
    .lowered 0xFE41 0xFE44 0xCE35, .kept 0xFE45 0xFE46, .each 0xFE47 "[]",
    .replaced 0xFE49 [" ̅", " ̅", " ̅", " ̅"], .each 0xFE4D "___,、",
    .each 0xFE54 ";:?!—()\x7b\x7d〔〕#&*+-<>=", .each 0xFE68 "\\$%@",
    .replaced 0xFE70 [" ً", "ـً", " ٌ"], .kept 0xFE73 0xFE73, .replaced 0xFE74 [" ٍ"],
    .replaced 0xFE76 [" َ", "ـَ", " ُ", "ـُ", " ِ", "ـِ", " ّ", "ـّ", " ْ"],
    .replaced 0xFE7F ["ـْ"], .each 0xFE80 "ءآآأأؤؤإإئئئئااببببةةتتت",
    .each 0xFE98 "تثثثثججججححححخخخخددذذررز", .each 0xFEB0 "زسسسسششششصصصصضضضضططططظظظ",
    .each 0xFEC8 "ظععععغغغغففففققققككككللل", .each 0xFEE0 "لممممننننههههووىىيييي",
    .replaced 0xFEF5 ["لآ", "لآ", "لأ", "لأ", "لإ", "لإ", "لا", "لا"], .dropped 0xFEFF 0xFEFF,
    .lowered 0xFF01 0xFF20 0xFEE0, .lowered 0xFF21 0xFF3A 0xFEC0, .lowered 0xFF3B 0xFF5E 0xFEE0,
    .each 0xFF5F "⦅⦆.「」、・ヲァィゥェォャュョッーアイウエオカ", .each 0xFF77 "キクケコサシスセソタチツテト",
    .lowered 0xFF85 0xFF8A 0xCEBB, .each 0xFF8B "ヒフヘホ", .lowered 0xFF8F 0xFF93 0xCEB1,
    .each 0xFF94 "ヤユ", .lowered 0xFF96 0xFF9B 0xCEAE, .each 0xFF9C "ワン゙゚", .dropped 0xFFA0 0xFFA0,
    .each 0xFFA1 "ᄀᄁᆪᄂᆬᆭᄃᄄᄅ", .lowered 0xFFAA 0xFFAF 0xEDFA, .each 0xFFB0 "ᄚᄆᄇᄈᄡ",
    .lowered 0xFFB5 0xFFBE 0xEEAC, .lowered 0xFFC2 0xFFC7 0xEE61, .lowered 0xFFCA 0xFFCF 0xEE63,
    .lowered 0xFFD2 0xFFD7 0xEE65, .each 0xFFDA "ᅳᅴᅵ", .each 0xFFE0 "¢£¬",
    .replaced 0xFFE3 [" ̄"], .each 0xFFE4 "¦¥₩", .each 0xFFE8 "│", .lowered 0xFFE9 0xFFEC 0xDE59,
    .each 0xFFED "■○"]

/-- These rows speak about the characters outside the basic plane. -/
def supplementRows : List Row :=
  [.kept 0x10000 0x1000B, .kept 0x1000D 0x10026, .kept 0x10028 0x1003A, .kept 0x1003C 0x1003D,
    .kept 0x1003F 0x1004D, .kept 0x10050 0x1005D, .kept 0x10080 0x100FA, .kept 0x10100 0x10102,
    .kept 0x10107 0x10133, .kept 0x10137 0x1018E, .kept 0x10190 0x1019C, .kept 0x101A0 0x101A0,
    .kept 0x101D0 0x101FD, .kept 0x10280 0x1029C, .kept 0x102A0 0x102D0, .kept 0x102E0 0x102FB,
    .kept 0x10300 0x10323, .kept 0x1032D 0x1034A, .kept 0x10350 0x1037A, .kept 0x10380 0x1039D,
    .kept 0x1039F 0x103C3, .kept 0x103C8 0x103D5, .raised 0x10400 0x10427 0x28,
    .kept 0x10428 0x1049D, .kept 0x104A0 0x104A9, .raised 0x104B0 0x104D3 0x28,
    .kept 0x104D8 0x104FB, .kept 0x10500 0x10527, .kept 0x10530 0x10563, .kept 0x1056F 0x1056F,
    .raised 0x10570 0x1057A 0x27, .raised 0x1057C 0x1058A 0x27, .raised 0x1058C 0x10592 0x27,
    .each 0x10594 "𐖻𐖼", .kept 0x10597 0x105A1, .kept 0x105A3 0x105B1, .kept 0x105B3 0x105B9,
    .kept 0x105BB 0x105BC, .kept 0x105C0 0x105F3, .kept 0x10600 0x10736, .kept 0x10740 0x10755,
    .kept 0x10760 0x10767, .kept 0x10780 0x10780, .each 0x10781 "ːˑæʙɓ",
    .each 0x10787 "ʣꭦʥʤɖɗᶑɘɞʩɤɢɠʛħʜɧʄʪʫɬ𝼄ꞎɮ", .each 0x1079F "𝼅ʎ𝼆øɶɷqɺ𝼈ɽɾʀʨʦꭧʧʈⱱ",
    .each 0x107B2 "ʏʡʢʘǀǁǂ𝼊𝼞", .kept 0x10800 0x10805, .kept 0x10808 0x10808,
    .kept 0x1080A 0x10835, .kept 0x10837 0x10838, .kept 0x1083C 0x1083C, .kept 0x1083F 0x10855,
    .kept 0x10857 0x1089E, .kept 0x108A7 0x108AF, .kept 0x108E0 0x108F2, .kept 0x108F4 0x108F5,
    .kept 0x108FB 0x1091B, .kept 0x1091F 0x10939, .kept 0x1093F 0x10959, .kept 0x10980 0x109B7,
    .kept 0x109BC 0x109CF, .kept 0x109D2 0x10A03, .kept 0x10A05 0x10A06, .kept 0x10A0C 0x10A13,
    .kept 0x10A15 0x10A17, .kept 0x10A19 0x10A35, .kept 0x10A38 0x10A3A, .kept 0x10A3F 0x10A48,
    .kept 0x10A50 0x10A58, .kept 0x10A60 0x10A9F, .kept 0x10AC0 0x10AE6, .kept 0x10AEB 0x10AF6,
    .kept 0x10B00 0x10B35, .kept 0x10B39 0x10B55, .kept 0x10B58 0x10B72, .kept 0x10B78 0x10B91,
    .kept 0x10B99 0x10B9C, .kept 0x10BA9 0x10BAF, .kept 0x10C00 0x10C48,
    .raised 0x10C80 0x10CB2 0x40, .kept 0x10CC0 0x10CF2, .kept 0x10CFA 0x10D27,
    .kept 0x10D30 0x10D39, .kept 0x10D40 0x10D4F, .raised 0x10D50 0x10D65 0x20,
    .kept 0x10D69 0x10D85, .kept 0x10D8E 0x10D8F, .kept 0x10E60 0x10E7E, .kept 0x10E80 0x10EA9,
    .kept 0x10EAB 0x10EAD, .kept 0x10EB0 0x10EB1, .kept 0x10EC2 0x10EC7, .kept 0x10ED0 0x10ED8,
    .kept 0x10EFA 0x10F27, .kept 0x10F30 0x10F59, .kept 0x10F70 0x10F89, .kept 0x10FB0 0x10FCB,
    .kept 0x10FE0 0x10FF6, .kept 0x11000 0x1104D, .kept 0x11052 0x11075, .kept 0x1107F 0x110BC,
    .kept 0x110BE 0x110C2, .kept 0x110D0 0x110E8, .kept 0x110F0 0x110F9, .kept 0x11100 0x11134,
    .kept 0x11136 0x11147, .kept 0x11150 0x11176, .kept 0x11180 0x111DF, .kept 0x111E1 0x111F4,
    .kept 0x11200 0x11211, .kept 0x11213 0x11241, .kept 0x11280 0x11286, .kept 0x11288 0x11288,
    .kept 0x1128A 0x1128D, .kept 0x1128F 0x1129D, .kept 0x1129F 0x112A9, .kept 0x112B0 0x112EA,
    .kept 0x112F0 0x112F9, .kept 0x11300 0x11303, .kept 0x11305 0x1130C, .kept 0x1130F 0x11310,
    .kept 0x11313 0x11328, .kept 0x1132A 0x11330, .kept 0x11332 0x11333, .kept 0x11335 0x11339,
    .kept 0x1133B 0x11344, .kept 0x11347 0x11348, .kept 0x1134B 0x1134D, .kept 0x11350 0x11350,
    .kept 0x11357 0x11357, .kept 0x1135D 0x11363, .kept 0x11366 0x1136C, .kept 0x11370 0x11374,
    .kept 0x11380 0x11389, .kept 0x1138B 0x1138B, .kept 0x1138E 0x1138E, .kept 0x11390 0x113B5,
    .kept 0x113B7 0x113C0, .kept 0x113C2 0x113C2, .kept 0x113C5 0x113C5, .kept 0x113C7 0x113CA,
    .kept 0x113CC 0x113D5, .kept 0x113D7 0x113D8, .kept 0x113E1 0x113E2, .kept 0x11400 0x1145B,
    .kept 0x1145D 0x11461, .kept 0x11480 0x114C7, .kept 0x114D0 0x114D9, .kept 0x11580 0x115B5,
    .kept 0x115B8 0x115DD, .kept 0x11600 0x11644, .kept 0x11650 0x11659, .kept 0x11660 0x1166C,
    .kept 0x11680 0x116B9, .kept 0x116C0 0x116C9, .kept 0x116D0 0x116E3, .kept 0x11700 0x1171A,
    .kept 0x1171D 0x1172B, .kept 0x11730 0x11746, .kept 0x11800 0x1183B,
    .raised 0x118A0 0x118BF 0x20, .kept 0x118C0 0x118F2, .kept 0x118FF 0x11906,
    .kept 0x11909 0x11909, .kept 0x1190C 0x11913, .kept 0x11915 0x11916, .kept 0x11918 0x11935,
    .kept 0x11937 0x11938, .kept 0x1193B 0x11946, .kept 0x11950 0x11959, .kept 0x119A0 0x119A7,
    .kept 0x119AA 0x119D7, .kept 0x119DA 0x119E4, .kept 0x11A00 0x11A47, .kept 0x11A50 0x11AA2,
    .kept 0x11AB0 0x11AF8, .kept 0x11B00 0x11B09, .kept 0x11B60 0x11B67, .kept 0x11BC0 0x11BE1,
    .kept 0x11BF0 0x11BF9, .kept 0x11C00 0x11C08, .kept 0x11C0A 0x11C36, .kept 0x11C38 0x11C45,
    .kept 0x11C50 0x11C6C, .kept 0x11C70 0x11C8F, .kept 0x11C92 0x11CA7, .kept 0x11CA9 0x11CB6,
    .kept 0x11D00 0x11D06, .kept 0x11D08 0x11D09, .kept 0x11D0B 0x11D36, .kept 0x11D3A 0x11D3A,
    .kept 0x11D3C 0x11D3D, .kept 0x11D3F 0x11D47, .kept 0x11D50 0x11D59, .kept 0x11D60 0x11D65,
    .kept 0x11D67 0x11D68, .kept 0x11D6A 0x11D8E, .kept 0x11D90 0x11D91, .kept 0x11D93 0x11D98,
    .kept 0x11DA0 0x11DA9, .kept 0x11DB0 0x11DDB, .kept 0x11DE0 0x11DE9, .kept 0x11EE0 0x11EF8,
    .kept 0x11F00 0x11F10, .kept 0x11F12 0x11F3A, .kept 0x11F3E 0x11F5A, .kept 0x11FB0 0x11FB0,
    .kept 0x11FC0 0x11FF1, .kept 0x11FFF 0x12399, .kept 0x12400 0x1246E, .kept 0x12470 0x12474,
    .kept 0x12480 0x12543, .kept 0x12F90 0x12FF2, .kept 0x13000 0x1342F, .kept 0x13440 0x13455,
    .kept 0x13460 0x143FA, .kept 0x14400 0x14646, .kept 0x16100 0x16139, .kept 0x16800 0x16A38,
    .kept 0x16A40 0x16A5E, .kept 0x16A60 0x16A69, .kept 0x16A6E 0x16ABE, .kept 0x16AC0 0x16AC9,
    .kept 0x16AD0 0x16AED, .kept 0x16AF0 0x16AF5, .kept 0x16B00 0x16B45, .kept 0x16B50 0x16B59,
    .kept 0x16B5B 0x16B61, .kept 0x16B63 0x16B77, .kept 0x16B7D 0x16B8F, .kept 0x16D40 0x16D79,
    .raised 0x16E40 0x16E5F 0x20, .kept 0x16E60 0x16E9A, .raised 0x16EA0 0x16EB8 0x1B,
    .kept 0x16EBB 0x16ED3, .kept 0x16F00 0x16F4A, .kept 0x16F4F 0x16F87, .kept 0x16F8F 0x16F9F,
    .kept 0x16FE0 0x16FE4, .kept 0x16FF0 0x16FF6, .kept 0x17000 0x18CD5, .kept 0x18CFF 0x18D1E,
    .kept 0x18D80 0x18DF2, .kept 0x1AFF0 0x1AFF3, .kept 0x1AFF5 0x1AFFB, .kept 0x1AFFD 0x1AFFE,
    .kept 0x1B000 0x1B122, .kept 0x1B132 0x1B132, .kept 0x1B150 0x1B152, .kept 0x1B155 0x1B155,
    .kept 0x1B164 0x1B167, .kept 0x1B170 0x1B2FB, .kept 0x1BC00 0x1BC6A, .kept 0x1BC70 0x1BC7C,
    .kept 0x1BC80 0x1BC88, .kept 0x1BC90 0x1BC99, .kept 0x1BC9C 0x1BC9F, .dropped 0x1BCA0 0x1BCA3,
    .kept 0x1CC00 0x1CCD5, .lowered 0x1CCD6 0x1CCEF 0x1CC75, .lowered 0x1CCF0 0x1CCF9 0x1CCC0,
    .kept 0x1CCFA 0x1CCFC, .kept 0x1CD00 0x1CEB3, .kept 0x1CEBA 0x1CED0, .kept 0x1CEE0 0x1CEF0,
    .kept 0x1CF00 0x1CF2D, .kept 0x1CF30 0x1CF46, .kept 0x1CF50 0x1CFC3, .kept 0x1D000 0x1D0F5,
    .kept 0x1D100 0x1D126, .kept 0x1D129 0x1D15D,
    .replaced 0x1D15E ["𝅗𝅥", "𝅘𝅥", "𝅘𝅥𝅮", "𝅘𝅥𝅯", "𝅘𝅥𝅰", "𝅘𝅥𝅱", "𝅘𝅥𝅲"], .kept 0x1D165 0x1D172,
    .dropped 0x1D173 0x1D17A, .kept 0x1D17B 0x1D1BA,
    .replaced 0x1D1BB ["𝆹𝅥", "𝆺𝅥", "𝆹𝅥𝅮", "𝆺𝅥𝅮", "𝆹𝅥𝅯", "𝆺𝅥𝅯"], .kept 0x1D1C1 0x1D1EA,
    .kept 0x1D200 0x1D245, .kept 0x1D2C0 0x1D2D3, .kept 0x1D2E0 0x1D2F3, .kept 0x1D300 0x1D356,
    .kept 0x1D360 0x1D378, .lowered 0x1D400 0x1D419 0x1D39F, .lowered 0x1D41A 0x1D433 0x1D3B9,
    .lowered 0x1D434 0x1D44D 0x1D3D3, .lowered 0x1D44E 0x1D454 0x1D3ED,
    .lowered 0x1D456 0x1D467 0x1D3ED, .lowered 0x1D468 0x1D481 0x1D407,
    .lowered 0x1D482 0x1D49B 0x1D421, .each 0x1D49C "a", .each 0x1D49E "cd", .each 0x1D4A2 "g",
    .each 0x1D4A5 "jk", .lowered 0x1D4A9 0x1D4AC 0x1D43B, .lowered 0x1D4AE 0x1D4B5 0x1D43B,
    .lowered 0x1D4B6 0x1D4B9 0x1D455, .each 0x1D4BB "f", .lowered 0x1D4BD 0x1D4C3 0x1D455,
    .lowered 0x1D4C5 0x1D4CF 0x1D455, .lowered 0x1D4D0 0x1D4E9 0x1D46F,
    .lowered 0x1D4EA 0x1D503 0x1D489, .each 0x1D504 "ab", .lowered 0x1D507 0x1D50A 0x1D4A3,
    .lowered 0x1D50D 0x1D514 0x1D4A3, .lowered 0x1D516 0x1D51C 0x1D4A3,
    .lowered 0x1D51E 0x1D537 0x1D4BD, .each 0x1D538 "ab", .lowered 0x1D53B 0x1D53E 0x1D4D7,
    .lowered 0x1D540 0x1D544 0x1D4D7, .each 0x1D546 "o", .lowered 0x1D54A 0x1D550 0x1D4D7,
    .lowered 0x1D552 0x1D56B 0x1D4F1, .lowered 0x1D56C 0x1D585 0x1D50B,
    .lowered 0x1D586 0x1D59F 0x1D525, .lowered 0x1D5A0 0x1D5B9 0x1D53F,
    .lowered 0x1D5BA 0x1D5D3 0x1D559, .lowered 0x1D5D4 0x1D5ED 0x1D573,
    .lowered 0x1D5EE 0x1D607 0x1D58D, .lowered 0x1D608 0x1D621 0x1D5A7,
    .lowered 0x1D622 0x1D63B 0x1D5C1, .lowered 0x1D63C 0x1D655 0x1D5DB,
    .lowered 0x1D656 0x1D66F 0x1D5F5, .lowered 0x1D670 0x1D689 0x1D60F,
    .lowered 0x1D68A 0x1D6A3 0x1D629, .each 0x1D6A4 "ıȷ", .lowered 0x1D6A8 0x1D6B8 0x1D2F7,
    .each 0x1D6B9 "θ", .lowered 0x1D6BA 0x1D6C0 0x1D2F7, .each 0x1D6C1 "∇",
    .lowered 0x1D6C2 0x1D6D2 0x1D311, .each 0x1D6D3 "σ", .lowered 0x1D6D4 0x1D6DA 0x1D311,
    .each 0x1D6DB "∂εθκφρπ", .lowered 0x1D6E2 0x1D6F2 0x1D331, .each 0x1D6F3 "θ",
    .lowered 0x1D6F4 0x1D6FA 0x1D331, .each 0x1D6FB "∇", .lowered 0x1D6FC 0x1D70C 0x1D34B,
    .each 0x1D70D "σ", .lowered 0x1D70E 0x1D714 0x1D34B, .each 0x1D715 "∂εθκφρπ",
    .lowered 0x1D71C 0x1D72C 0x1D36B, .each 0x1D72D "θ", .lowered 0x1D72E 0x1D734 0x1D36B,
    .each 0x1D735 "∇", .lowered 0x1D736 0x1D746 0x1D385, .each 0x1D747 "σ",
    .lowered 0x1D748 0x1D74E 0x1D385, .each 0x1D74F "∂εθκφρπ", .lowered 0x1D756 0x1D766 0x1D3A5,
    .each 0x1D767 "θ", .lowered 0x1D768 0x1D76E 0x1D3A5, .each 0x1D76F "∇",
    .lowered 0x1D770 0x1D780 0x1D3BF, .each 0x1D781 "σ", .lowered 0x1D782 0x1D788 0x1D3BF,
    .each 0x1D789 "∂εθκφρπ", .lowered 0x1D790 0x1D7A0 0x1D3DF, .each 0x1D7A1 "θ",
    .lowered 0x1D7A2 0x1D7A8 0x1D3DF, .each 0x1D7A9 "∇", .lowered 0x1D7AA 0x1D7BA 0x1D3F9,
    .each 0x1D7BB "σ", .lowered 0x1D7BC 0x1D7C2 0x1D3F9, .each 0x1D7C3 "∂εθκφρπϝϝ",
    .lowered 0x1D7CE 0x1D7D7 0x1D79E, .lowered 0x1D7D8 0x1D7E1 0x1D7A8,
    .lowered 0x1D7E2 0x1D7EB 0x1D7B2, .lowered 0x1D7EC 0x1D7F5 0x1D7BC,
    .lowered 0x1D7F6 0x1D7FF 0x1D7C6, .kept 0x1D800 0x1DA8B, .kept 0x1DA9B 0x1DA9F,
    .kept 0x1DAA1 0x1DAAF, .kept 0x1DF00 0x1DF1E, .kept 0x1DF25 0x1DF2A, .kept 0x1E000 0x1E006,
    .kept 0x1E008 0x1E018, .kept 0x1E01B 0x1E021, .kept 0x1E023 0x1E024, .kept 0x1E026 0x1E02A,
    .lowered 0x1E030 0x1E038 0x1DC00, .each 0x1E039 "клм", .lowered 0x1E03C 0x1E046 0x1DBFE,
    .each 0x1E047 "ыэюꚉәіјөүӏ", .lowered 0x1E051 0x1E059 0x1DC21, .each 0x1E05A "клопс",
    .lowered 0x1E05F 0x1E064 0x1DC1C, .each 0x1E065 "ъыґіѕџҫꙑұ", .kept 0x1E08F 0x1E08F,
    .kept 0x1E100 0x1E12C, .kept 0x1E130 0x1E13D, .kept 0x1E140 0x1E149, .kept 0x1E14E 0x1E14F,
    .kept 0x1E290 0x1E2AE, .kept 0x1E2C0 0x1E2F9, .kept 0x1E2FF 0x1E2FF, .kept 0x1E4D0 0x1E4F9,
    .kept 0x1E5D0 0x1E5FA, .kept 0x1E5FF 0x1E5FF, .kept 0x1E6C0 0x1E6DE, .kept 0x1E6E0 0x1E6F5,
    .kept 0x1E6FE 0x1E6FF, .kept 0x1E7E0 0x1E7E6, .kept 0x1E7E8 0x1E7EB, .kept 0x1E7ED 0x1E7EE,
    .kept 0x1E7F0 0x1E7FE, .kept 0x1E800 0x1E8C4, .kept 0x1E8C7 0x1E8D6,
    .raised 0x1E900 0x1E921 0x22, .kept 0x1E922 0x1E94B, .kept 0x1E950 0x1E959,
    .kept 0x1E95E 0x1E95F, .kept 0x1EC71 0x1ECB4, .kept 0x1ED01 0x1ED3D, .each 0x1EE00 "ابجد",
    .each 0x1EE05 "وزحطي", .lowered 0x1EE0A 0x1EE0D 0x1E7C7, .each 0x1EE0E "سعفصقرشتثخذضظغٮںڡٯ",
    .each 0x1EE21 "بج", .each 0x1EE24 "ه", .each 0x1EE27 "ح", .each 0x1EE29 "ي",
    .lowered 0x1EE2A 0x1EE2D 0x1E7E7, .each 0x1EE2E "سعفصق", .each 0x1EE34 "شتثخ",
    .each 0x1EE39 "ض", .each 0x1EE3B "غ", .each 0x1EE42 "ج", .each 0x1EE47 "ح", .each 0x1EE49 "ي",
    .each 0x1EE4B "ل", .each 0x1EE4D "نسع", .each 0x1EE51 "صق", .each 0x1EE54 "ش",
    .each 0x1EE57 "خ", .each 0x1EE59 "ض", .each 0x1EE5B "غ", .each 0x1EE5D "ں", .each 0x1EE5F "ٯ",
    .each 0x1EE61 "بج", .each 0x1EE64 "ه", .each 0x1EE67 "حطيك", .each 0x1EE6C "منسعفصق",
    .each 0x1EE74 "شتثخ", .each 0x1EE79 "ضظغٮ", .each 0x1EE7E "ڡ", .each 0x1EE80 "ابجدهوزحطي",
    .each 0x1EE8B "لمنسعفصقرشتثخذضظغ", .each 0x1EEA1 "بجد", .each 0x1EEA5 "وزحطي",
    .each 0x1EEAB "لمنسعفصقرشتثخذضظغ", .kept 0x1EEF0 0x1EEF1, .kept 0x1F000 0x1F02B,
    .kept 0x1F030 0x1F093, .kept 0x1F0A0 0x1F0AE, .kept 0x1F0B1 0x1F0BF, .kept 0x1F0C1 0x1F0CF,
    .kept 0x1F0D1 0x1F0F5,
    .replaced 0x1F101 ["0,", "1,", "2,", "3,", "4,", "5,", "6,", "7,", "8,"],
    .replaced 0x1F10A ["9,"], .kept 0x1F10B 0x1F10F,
    .replaced 0x1F110 ["(a)", "(b)", "(c)", "(d)", "(e)", "(f)", "(g)", "(h)"],
    .replaced 0x1F118 ["(i)", "(j)", "(k)", "(l)", "(m)", "(n)", "(o)", "(p)"],
    .replaced 0x1F120 ["(q)", "(r)", "(s)", "(t)", "(u)", "(v)", "(w)", "(x)"],
    .replaced 0x1F128 ["(y)", "(z)", "〔s〕"], .each 0x1F12B "cr", .replaced 0x1F12D ["cd", "wz"],
    .kept 0x1F12F 0x1F12F, .lowered 0x1F130 0x1F149 0x1F0CF,
    .replaced 0x1F14A ["hv", "mv", "sd", "ss", "ppv", "wc"], .kept 0x1F150 0x1F169,
    .replaced 0x1F16A ["mc", "md", "mr"], .kept 0x1F16D 0x1F18F, .replaced 0x1F190 ["dj"],
    .kept 0x1F191 0x1F1AD, .kept 0x1F1E6 0x1F1FF, .replaced 0x1F200 ["ほか", "ココ"],
    .each 0x1F202 "サ", .each 0x1F210 "手字双デ二多解天交映無料前後再新初終生販声吹演投",
    .each 0x1F228 "捕一三遊左中右指走打禁空合満有月申割営配",
    .replaced 0x1F240 ["〔本〕", "〔三〕", "〔二〕", "〔安〕", "〔点〕", "〔打〕", "〔盗〕", "〔勝〕"],
    .replaced 0x1F248 ["〔敗〕"], .each 0x1F250 "得可", .kept 0x1F260 0x1F265, .kept 0x1F300 0x1F6D8,
    .kept 0x1F6DC 0x1F6EC, .kept 0x1F6F0 0x1F6FC, .kept 0x1F700 0x1F7D9, .kept 0x1F7E0 0x1F7EB,
    .kept 0x1F7F0 0x1F7F0, .kept 0x1F800 0x1F80B, .kept 0x1F810 0x1F847, .kept 0x1F850 0x1F859,
    .kept 0x1F860 0x1F887, .kept 0x1F890 0x1F8AD, .kept 0x1F8B0 0x1F8BB, .kept 0x1F8C0 0x1F8C1,
    .kept 0x1F8D0 0x1F8D8, .kept 0x1F900 0x1FA57, .kept 0x1FA60 0x1FA6D, .kept 0x1FA70 0x1FA7C,
    .kept 0x1FA80 0x1FA8A, .kept 0x1FA8E 0x1FAC6, .kept 0x1FAC8 0x1FAC8, .kept 0x1FACD 0x1FADC,
    .kept 0x1FADF 0x1FAEA, .kept 0x1FAEF 0x1FAF8, .kept 0x1FB00 0x1FB92, .kept 0x1FB94 0x1FBEF,
    .lowered 0x1FBF0 0x1FBF9 0x1FBC0, .kept 0x1FBFA 0x1FBFA, .kept 0x20000 0x2A6DF,
    .kept 0x2A700 0x2B81D, .kept 0x2B820 0x2CEAD, .kept 0x2CEB0 0x2EBE0, .kept 0x2EBF0 0x2EE5D,
    .each 0x2F800 "丽丸乁𠄢你侮侻倂偺備僧像㒞𠘺免兔兤具𠔜㒹內再𠕋冗", .each 0x2F818 "冤仌冬况𩇟凵刃㓟刻剆割剷㔕勇勉勤勺包匆北卉卑博即",
    .each 0x2F830 "卽卿卿卿𠨬灰及叟𠭣叫叱吆咞吸呈周咢哶唐啓啣善善喙", .each 0x2F848 "喫喳嗂圖嘆圗噑噴切壮城埴堍型堲報墬𡓤売壷夆多夢奢",
    .each 0x2F860 "𡚨𡛪姬娛娧姘婦㛮㛼嬈嬾嬾𡧈寃寘寧寳𡬘寿将当尢㞁屠", .each 0x2F878 "屮峀岍𡷤嵃𡷦嵮嵫嵼巡巢㠯巽帨帽幩㡢𢆃㡼庰庳庶廊𪎒",
    .each 0x2F890 "廾𢌱𢌱舁弢弢㣇𣊸𦇚形彫㣣徚忍志忹悁㤺㤜悔𢛔惇慈慌", .each 0x2F8A8 "慎慌慺憎憲憤憯懞懲懶成戛扝抱拔捐𢬌挽拼捨掃揤𢯱搢",
    .each 0x2F8C0 "揅掩㨮摩摾撝摷㩬敏敬𣀊旣書晉㬙暑㬈㫤冒冕最暜肭䏙", .each 0x2F8D8 "朗望朡杞杓𣏃㭉柺枅桒梅𣑭梎栟椔㮝楂榣槪檨𣚣櫛㰘次",
    .each 0x2F8F0 "𣢧歔㱎歲殟殺殻𣪍𡴋𣫺汎𣲼沿泍汧洖派海流浩浸涅𣴞洴", .each 0x2F908 "港湮㴳滋滇𣻑淹潮𣽞𣾎濆瀹瀞瀛㶖灊災灷炭𠔥煅𤉣熜𤎫",
    .each 0x2F920 "爨爵牐𤘈犀犕𤜵𤠔獺王㺬玥㺸㺸瑇瑜瑱璅瓊㼛甤𤰶甾𤲒", .each 0x2F938 "異𢆟瘐𤾡𤾸𥁄㿼䀈直𥃳𥃲𥄙𥄳眞真真睊䀹瞋䁆䂖𥐝硎碌",
    .each 0x2F950 "磌䃣𥘦祖𥚚𥛅福秫䄯穀穊穏𥥼𥪧𥪧竮䈂𥮫篆築䈧𥲀糒䊠", .each 0x2F968 "糨糣紀𥾆絣䌁緇縂繅䌴𦈨𦉇䍙𦋙罺𦌾羕翺者𦓚𦔣聠𦖨聰",
    .each 0x2F980 "𣍟䏕育脃䐋脾媵𦞧𦞵𣎓𣎜舁舄辞䑫芑芋芝劳花芳芽苦𦬼", .each 0x2F998 "若茝荣莭茣莽菧著荓菊菌菜𦰶𦵫𦳕䔫蓱蓳蔖𧏊蕤𦼬䕝䕡",
    .each 0x2F9B0 "𦾱𧃒䕫虐虜虧虩蚩蚈蜎蛢蝹蜨蝫螆䗗蟡蠁䗹衠衣𧙧裗裞", .each 0x2F9C8 "䘵裺㒻𧢮𧥦䚾䛇誠諭變豕𧲨貫賁贛起𧼯𠠄跋趼跰𠣞軔輸",
    .each 0x2F9E0 "𨗒𨗭邔郱鄑𨜮鄛鈸鋗鋘鉼鏹鐕𨯺開䦕閷𨵷䧦雃嶲霣𩅅𩈚", .each 0x2F9F8 "䩮䩶韠𩐊䪲𩒖頋頋頩𩖶飢䬳餩馧駂駾䯎𩬰鬒鱀鳽䳎䳭鵧",
    .each 0x2FA10 "𪃎䳸𪄅𪈎𪊑麻䵖黹黾鼅鼏鼖鼻𪘀", .kept 0x30000 0x3134A, .kept 0x31350 0x33479,
    .dropped 0xE0100 0xE01EF]

/-- The rows ascend by their first characters. -/
def mappingRows : List Row := alphabetRows ++ symbolRows ++ ideographRows ++ supplementRows

/-- A character in no row may not stand in a domain name. -/
def mapChar (character : Char) : Option (List Char) :=
  mappingRows.findSome? (Row.image character.toNat)

/-- A name with a refused character has no mapped form. -/
def mapChars (characters : List Char) : Option (List Char) :=
  (characters.mapM mapChar).map List.flatten

end Switchboard.Domain
