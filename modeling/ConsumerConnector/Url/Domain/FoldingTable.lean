import ConsumerConnector.Text.Segment

/-!
What characters become in a domain name (Unicode 17). Characters that follow a rule are given as runs,
all others in rows.
-/

namespace ConsumerConnector.Url.Domain

/-- Characters at equal distances whose images are at the same distances. -/
structure Run where
  first : Nat
  last : Nat
  step : Nat
  image : Nat

def runs : List Run :=
  [⟨0xc0, 0xd6, 1, 0xe0⟩, ⟨0xd8, 0xde, 1, 0xf8⟩, ⟨0x100, 0x12e, 2, 0x101⟩, ⟨0x139, 0x13d, 2, 0x13a⟩,
   ⟨0x141, 0x147, 2, 0x142⟩, ⟨0x14a, 0x176, 2, 0x14b⟩, ⟨0x179, 0x17d, 2, 0x17a⟩,
   ⟨0x1a0, 0x1a4, 2, 0x1a1⟩, ⟨0x1cd, 0x1db, 2, 0x1ce⟩, ⟨0x1de, 0x1ee, 2, 0x1df⟩,
   ⟨0x1f8, 0x21e, 2, 0x1f9⟩, ⟨0x222, 0x232, 2, 0x223⟩, ⟨0x246, 0x24e, 2, 0x247⟩,
   ⟨0x388, 0x38a, 1, 0x3ad⟩, ⟨0x391, 0x3a1, 1, 0x3b1⟩, ⟨0x3a3, 0x3ab, 1, 0x3c3⟩,
   ⟨0x3d8, 0x3ee, 2, 0x3d9⟩, ⟨0x3fd, 0x3ff, 1, 0x37b⟩, ⟨0x400, 0x40f, 1, 0x450⟩,
   ⟨0x410, 0x42f, 1, 0x430⟩, ⟨0x460, 0x480, 2, 0x461⟩, ⟨0x48a, 0x4be, 2, 0x48b⟩,
   ⟨0x4c1, 0x4cd, 2, 0x4c2⟩, ⟨0x4d0, 0x52e, 2, 0x4d1⟩, ⟨0x531, 0x556, 1, 0x561⟩,
   ⟨0x10a0, 0x10c5, 1, 0x2d00⟩, ⟨0x13f8, 0x13fd, 1, 0x13f0⟩, ⟨0x1c90, 0x1cba, 1, 0x10d0⟩,
   ⟨0x1cbd, 0x1cbf, 1, 0x10fd⟩, ⟨0x1d31, 0x1d39, 2, 0x65⟩, ⟨0x1d34, 0x1d3a, 2, 0x68⟩,
   ⟨0x1d5d, 0x1d5f, 1, 0x3b2⟩, ⟨0x1da4, 0x1da6, 1, 0x268⟩, ⟨0x1dae, 0x1db1, 1, 0x272⟩,
   ⟨0x1dbc, 0x1dbe, 1, 0x290⟩, ⟨0x1e00, 0x1e94, 2, 0x1e01⟩, ⟨0x1ea0, 0x1efe, 2, 0x1ea1⟩,
   ⟨0x1f08, 0x1f0f, 1, 0x1f00⟩, ⟨0x1f18, 0x1f1d, 1, 0x1f10⟩, ⟨0x1f28, 0x1f2f, 1, 0x1f20⟩,
   ⟨0x1f38, 0x1f3f, 1, 0x1f30⟩, ⟨0x1f48, 0x1f4d, 1, 0x1f40⟩, ⟨0x1f59, 0x1f5f, 2, 0x1f51⟩,
   ⟨0x1f68, 0x1f6f, 1, 0x1f60⟩, ⟨0x1fef, 0x1fef, 1, 0x60⟩, ⟨0x2074, 0x2079, 1, 0x34⟩,
   ⟨0x2080, 0x2089, 1, 0x30⟩, ⟨0x2096, 0x2099, 1, 0x6b⟩, ⟨0x2119, 0x211b, 1, 0x70⟩,
   ⟨0x2135, 0x2138, 1, 0x5d0⟩, ⟨0x2460, 0x2468, 1, 0x31⟩, ⟨0x24b6, 0x24cf, 1, 0x61⟩,
   ⟨0x24d0, 0x24e9, 1, 0x61⟩, ⟨0x2c00, 0x2c2f, 1, 0x2c30⟩, ⟨0x2c67, 0x2c6b, 2, 0x2c68⟩,
   ⟨0x2c80, 0x2ce2, 2, 0x2c81⟩, ⟨0x3137, 0x3139, 1, 0x1103⟩, ⟨0x313a, 0x313f, 1, 0x11b0⟩,
   ⟨0x3141, 0x3143, 1, 0x1106⟩, ⟨0x3145, 0x314e, 1, 0x1109⟩, ⟨0x314f, 0x3163, 1, 0x1161⟩,
   ⟨0x3178, 0x317c, 1, 0x112b⟩, ⟨0x3184, 0x3186, 1, 0x1157⟩, ⟨0x3263, 0x3265, 1, 0x1105⟩,
   ⟨0x3269, 0x326d, 1, 0x110e⟩, ⟨0x32e4, 0x32e9, 1, 0x30ca⟩, ⟨0x32ee, 0x32f2, 1, 0x30de⟩,
   ⟨0x32f5, 0x32fa, 1, 0x30e8⟩, ⟨0x32fb, 0x32fe, 1, 0x30ef⟩, ⟨0xa640, 0xa66c, 2, 0xa641⟩,
   ⟨0xa680, 0xa69a, 2, 0xa681⟩, ⟨0xa722, 0xa72e, 2, 0xa723⟩, ⟨0xa732, 0xa76e, 2, 0xa733⟩,
   ⟨0xa77e, 0xa786, 2, 0xa77f⟩, ⟨0xa796, 0xa7a8, 2, 0xa797⟩, ⟨0xa7b4, 0xa7c2, 2, 0xa7b5⟩,
   ⟨0xa7cc, 0xa7da, 2, 0xa7cd⟩, ⟨0xab70, 0xabbf, 1, 0x13a0⟩, ⟨0xfb24, 0xfb26, 1, 0x5db⟩,
   ⟨0xfe37, 0xfe37, 1, 0x7b⟩, ⟨0xfe38, 0xfe38, 1, 0x7d⟩, ⟨0xfe41, 0xfe44, 1, 0x300c⟩,
   ⟨0xfe5b, 0xfe5b, 1, 0x7b⟩, ⟨0xfe5c, 0xfe5c, 1, 0x7d⟩, ⟨0xfe68, 0xfe68, 1, 0x5c⟩,
   ⟨0xff01, 0xff20, 1, 0x21⟩, ⟨0xff21, 0xff3a, 1, 0x61⟩, ⟨0xff3b, 0xff5e, 1, 0x5b⟩,
   ⟨0xff85, 0xff8a, 1, 0x30ca⟩, ⟨0xff8f, 0xff93, 1, 0x30de⟩, ⟨0xff96, 0xff9b, 1, 0x30e8⟩,
   ⟨0xffa7, 0xffa9, 1, 0x1103⟩, ⟨0xffaa, 0xffaf, 1, 0x11b0⟩, ⟨0xffb1, 0xffb3, 1, 0x1106⟩,
   ⟨0xffb5, 0xffbe, 1, 0x1109⟩, ⟨0xffc2, 0xffc7, 1, 0x1161⟩, ⟨0xffca, 0xffcf, 1, 0x1167⟩,
   ⟨0xffd2, 0xffd7, 1, 0x116d⟩, ⟨0xffda, 0xffdc, 1, 0x1173⟩, ⟨0xffe9, 0xffec, 1, 0x2190⟩,
   ⟨0x10400, 0x10427, 1, 0x10428⟩, ⟨0x104b0, 0x104d3, 1, 0x104d8⟩, ⟨0x10570, 0x10594, 2, 0x10597⟩,
   ⟨0x10571, 0x10579, 2, 0x10598⟩, ⟨0x1057d, 0x10589, 2, 0x105a4⟩, ⟨0x1058d, 0x10591, 2, 0x105b4⟩,
   ⟨0x107b6, 0x107b8, 1, 0x1c0⟩, ⟨0x10c80, 0x10cb2, 1, 0x10cc0⟩, ⟨0x10d50, 0x10d65, 1, 0x10d70⟩,
   ⟨0x118a0, 0x118bf, 1, 0x118c0⟩, ⟨0x16e40, 0x16e5f, 1, 0x16e60⟩, ⟨0x16ea0, 0x16eb8, 1, 0x16ebb⟩,
   ⟨0x1ccd6, 0x1ccef, 1, 0x61⟩, ⟨0x1ccf0, 0x1ccf9, 1, 0x30⟩, ⟨0x1d400, 0x1d419, 1, 0x61⟩,
   ⟨0x1d41a, 0x1d433, 1, 0x61⟩, ⟨0x1d434, 0x1d44d, 1, 0x61⟩, ⟨0x1d44e, 0x1d466, 2, 0x61⟩,
   ⟨0x1d44f, 0x1d453, 2, 0x62⟩, ⟨0x1d457, 0x1d467, 2, 0x6a⟩, ⟨0x1d468, 0x1d481, 1, 0x61⟩,
   ⟨0x1d482, 0x1d49b, 1, 0x61⟩, ⟨0x1d4a9, 0x1d4ac, 1, 0x6e⟩, ⟨0x1d4ae, 0x1d4b5, 1, 0x73⟩,
   ⟨0x1d4b6, 0x1d4b9, 1, 0x61⟩, ⟨0x1d4bb, 0x1d4cf, 2, 0x66⟩, ⟨0x1d4be, 0x1d4c2, 2, 0x69⟩,
   ⟨0x1d4c6, 0x1d4ce, 2, 0x71⟩, ⟨0x1d4d0, 0x1d4e9, 1, 0x61⟩, ⟨0x1d4ea, 0x1d503, 1, 0x61⟩,
   ⟨0x1d505, 0x1d509, 2, 0x62⟩, ⟨0x1d50d, 0x1d514, 1, 0x6a⟩, ⟨0x1d516, 0x1d51c, 1, 0x73⟩,
   ⟨0x1d51e, 0x1d537, 1, 0x61⟩, ⟨0x1d539, 0x1d53d, 2, 0x62⟩, ⟨0x1d53c, 0x1d546, 2, 0x65⟩,
   ⟨0x1d54a, 0x1d550, 1, 0x73⟩, ⟨0x1d552, 0x1d56b, 1, 0x61⟩, ⟨0x1d56c, 0x1d585, 1, 0x61⟩,
   ⟨0x1d586, 0x1d59f, 1, 0x61⟩, ⟨0x1d5a0, 0x1d5b9, 1, 0x61⟩, ⟨0x1d5ba, 0x1d5d3, 1, 0x61⟩,
   ⟨0x1d5d4, 0x1d5ed, 1, 0x61⟩, ⟨0x1d5ee, 0x1d607, 1, 0x61⟩, ⟨0x1d608, 0x1d621, 1, 0x61⟩,
   ⟨0x1d622, 0x1d63b, 1, 0x61⟩, ⟨0x1d63c, 0x1d655, 1, 0x61⟩, ⟨0x1d656, 0x1d66f, 1, 0x61⟩,
   ⟨0x1d670, 0x1d689, 1, 0x61⟩, ⟨0x1d68a, 0x1d6a3, 1, 0x61⟩, ⟨0x1d6a8, 0x1d6b8, 1, 0x3b1⟩,
   ⟨0x1d6ba, 0x1d6c0, 1, 0x3c3⟩, ⟨0x1d6c2, 0x1d6d2, 1, 0x3b1⟩, ⟨0x1d6d4, 0x1d6da, 1, 0x3c3⟩,
   ⟨0x1d6e2, 0x1d6f2, 1, 0x3b1⟩, ⟨0x1d6f4, 0x1d6fa, 1, 0x3c3⟩, ⟨0x1d6fc, 0x1d70c, 1, 0x3b1⟩,
   ⟨0x1d70e, 0x1d714, 1, 0x3c3⟩, ⟨0x1d71c, 0x1d72c, 1, 0x3b1⟩, ⟨0x1d72e, 0x1d734, 1, 0x3c3⟩,
   ⟨0x1d736, 0x1d746, 1, 0x3b1⟩, ⟨0x1d748, 0x1d74e, 1, 0x3c3⟩, ⟨0x1d756, 0x1d766, 1, 0x3b1⟩,
   ⟨0x1d768, 0x1d76e, 1, 0x3c3⟩, ⟨0x1d770, 0x1d780, 1, 0x3b1⟩, ⟨0x1d782, 0x1d788, 1, 0x3c3⟩,
   ⟨0x1d790, 0x1d7a0, 1, 0x3b1⟩, ⟨0x1d7a2, 0x1d7a8, 1, 0x3c3⟩, ⟨0x1d7aa, 0x1d7ba, 1, 0x3b1⟩,
   ⟨0x1d7bc, 0x1d7c2, 1, 0x3c3⟩, ⟨0x1d7ce, 0x1d7d7, 1, 0x30⟩, ⟨0x1d7d8, 0x1d7e1, 1, 0x30⟩,
   ⟨0x1d7e2, 0x1d7eb, 1, 0x30⟩, ⟨0x1d7ec, 0x1d7f5, 1, 0x30⟩, ⟨0x1d7f6, 0x1d7ff, 1, 0x30⟩,
   ⟨0x1e030, 0x1e038, 1, 0x430⟩, ⟨0x1e039, 0x1e03b, 1, 0x43a⟩, ⟨0x1e03c, 0x1e046, 1, 0x43e⟩,
   ⟨0x1e051, 0x1e059, 1, 0x430⟩, ⟨0x1e05f, 0x1e064, 1, 0x443⟩, ⟨0x1e900, 0x1e921, 1, 0x1e922⟩,
   ⟨0x1ee0a, 0x1ee0d, 1, 0x643⟩, ⟨0x1ee2a, 0x1ee2d, 1, 0x643⟩, ⟨0x1ee8b, 0x1ee8d, 1, 0x644⟩,
   ⟨0x1eeab, 0x1eead, 1, 0x644⟩, ⟨0x1f130, 0x1f149, 1, 0x61⟩, ⟨0x1fbf0, 0x1fbf9, 1, 0x30⟩]

/-- Characters one after the other, by the first of them, with what each becomes. -/
def rows : List (Nat × String) :=
  [(0xaa, "a"), (0xb2, "2 3"), (0xb5, "μ"), (0xb9, "1 o"), (0xbc, "1⁄4 1⁄2 3⁄4"), (0x130, "i̇"),
   (0x132, "ij ij ĵ"), (0x136, "ķ"), (0x13f, "l· l·"), (0x149, "ʼn"), (0x178, "ÿ"), (0x17f, "s"),
   (0x181, "ɓ ƃ"), (0x184, "ƅ"), (0x186, "ɔ ƈ"), (0x189, "ɖ ɗ ƌ"), (0x18e, "ǝ ə ɛ ƒ"),
   (0x193, "ɠ ɣ"), (0x196, "ɩ ɨ ƙ"), (0x19c, "ɯ ɲ"), (0x19f, "ɵ"), (0x1a6, "ʀ ƨ"), (0x1a9, "ʃ"),
   (0x1ac, "ƭ"), (0x1ae, "ʈ ư"), (0x1b1, "ʊ ʋ ƴ"), (0x1b5, "ƶ"), (0x1b7, "ʒ ƹ"), (0x1bc, "ƽ"),
   (0x1c4, "dž dž dž lj lj lj nj nj nj"), (0x1f1, "dz dz dz ǵ"), (0x1f6, "ƕ ƿ"), (0x220, "ƞ"),
   (0x23a, "ⱥ ȼ"), (0x23d, "ƚ ⱦ"), (0x241, "ɂ"), (0x243, "ƀ ʉ ʌ"), (0x2b0, "h ɦ j r ɹ ɻ ʁ w y"),
   (0x2e0, "ɣ l s x ʕ"), (0x340, "̀ ́"), (0x343, "̓ ̈́ ι"), (0x370, "ͱ"), (0x372, "ͳ"),
   (0x374, "ʹ"), (0x376, "ͷ"), (0x37e, "; ϳ"), (0x386, "ά ·"), (0x38c, "ό"), (0x38e, "ύ ώ"),
   (0x3cf, "ϗ β θ υ ύ ϋ φ π"), (0x3f0, "κ ρ σ"), (0x3f4, "θ ε"), (0x3f7, "ϸ"), (0x3f9, "σ ϻ"),
   (0x4c0, "ӏ"), (0x587, "եւ"), (0x675, "اٴ وٴ ۇٴ يٴ"), (0x958, "क़ ख़ ग़ ज़ ड़ ढ़ फ़ य़"),
   (0x9dc, "ড় ঢ়"), (0x9df, "য়"), (0xa33, "ਲ਼"), (0xa36, "ਸ਼"), (0xa59, "ਖ਼ ਗ਼ ਜ਼"),
   (0xa5e, "ਫ਼"), (0xb5c, "ଡ଼ ଢ଼"), (0xe33, "ํา"), (0xeb3, "ໍາ"), (0xedc, "ຫນ ຫມ"), (0xf0c, "་"),
   (0xf43, "གྷ"), (0xf4d, "ཌྷ"), (0xf52, "དྷ"), (0xf57, "བྷ"), (0xf5c, "ཛྷ"), (0xf69, "ཀྵ"),
   (0xf73, "ཱི"), (0xf75, "ཱུ ྲྀ ྲཱྀ ླྀ ླཱྀ"), (0xf81, "ཱྀ"), (0xf93, "ྒྷ"), (0xf9d, "ྜྷ"),
   (0xfa2, "ྡྷ"), (0xfa7, "ྦྷ"), (0xfac, "ྫྷ"), (0xfb9, "ྐྵ"), (0x10c7, "ⴧ"), (0x10cd, "ⴭ"),
   (0x10fc, "ნ"), (0x1c80, "в д о с т т ъ ѣ ꙋ ᲊ"), (0x1d2c, "a æ b"), (0x1d30, "d"), (0x1d32, "ǝ"),
   (0x1d3c, "o ȣ p r t u w a ɐ ɑ ᴂ b d e ə ɛ ɜ g"), (0x1d4f, "k m ŋ o ɔ ᴖ ᴗ p t u ᴝ ɯ v ᴥ"),
   (0x1d60, "φ χ i r u v β γ ρ φ χ"), (0x1d78, "н"), (0x1d9b, "ɒ c ɕ ð ɜ f ɟ ɡ ɥ"),
   (0x1da7, "ᵻ ʝ ɭ ᶅ ʟ ɱ ɰ"), (0x1db2, "ɸ ʂ ʃ ƫ ʉ ʊ ᴜ ʋ ʌ z"), (0x1dbf, "θ"), (0x1e9a, "aʾ ṡ"),
   (0x1e9e, "ß"), (0x1f71, "ά"), (0x1f73, "έ"), (0x1f75, "ή"), (0x1f77, "ί"), (0x1f79, "ό"),
   (0x1f7b, "ύ"), (0x1f7d, "ώ"),
   (0x1f80, "ἀι ἁι ἂι ἃι ἄι ἅι ἆι ἇι ἀι ἁι ἂι ἃι ἄι ἅι ἆι ἇι ἠι ἡι ἢι ἣι ἤι ἥι ἦι ἧι ἠι ἡι"),
   (0x1f9a, "ἢι ἣι ἤι ἥι ἦι ἧι ὠι ὡι ὢι ὣι ὤι ὥι ὦι ὧι ὠι ὡι ὢι ὣι ὤι ὥι ὦι ὧι"),
   (0x1fb2, "ὰι αι άι"), (0x1fb7, "ᾶι ᾰ ᾱ ὰ ά αι"), (0x1fbe, "ι"), (0x1fc2, "ὴι ηι ήι"),
   (0x1fc7, "ῆι ὲ έ ὴ ή ηι"), (0x1fd3, "ΐ"), (0x1fd8, "ῐ ῑ ὶ ί"), (0x1fe3, "ΰ"),
   (0x1fe8, "ῠ ῡ ὺ ύ ῥ"), (0x1ff2, "ὼι ωι ώι"), (0x1ff7, "ῶι ὸ ό ὼ ώ ωι"), (0x2011, "‐"),
   (0x2033, "′′ ′′′"), (0x2036, "‵‵ ‵‵‵"), (0x203c, "!!"), (0x2047, "?? ?! !?"), (0x2057, "′′′′"),
   (0x2070, "0 i"), (0x207a, "+ − = ( ) n"), (0x208a, "+ − = ( )"), (0x2090, "a e o x ə h"),
   (0x209a, "p s t"), (0x20a8, "rs"), (0x2100, "a/c a/s c °c"), (0x2105, "c/o c/u ɛ"),
   (0x2109, "°f g h h h h ħ i i l l"), (0x2115, "n no"), (0x211c, "r r"), (0x2120, "sm tel tm"),
   (0x2124, "z"), (0x2126, "ω"), (0x2128, "z"), (0x212a, "k å b c"), (0x212f, "e e f ⅎ m o"),
   (0x2139, "i"), (0x213b, "fax π γ γ π ∑"), (0x2145, "d d e i j"),
   (0x2150, "1⁄7 1⁄9 1⁄10 1⁄3 2⁄3 1⁄5 2⁄5 3⁄5 4⁄5 1⁄6 5⁄6 1⁄8 3⁄8 5⁄8 7⁄8 1⁄ i ii iii iv v"),
   (0x2165, "vi vii viii ix x xi xii l c d m i ii iii iv v vi vii viii ix x xi xii l c d m"),
   (0x2183, "ↄ"), (0x2189, "0⁄3"), (0x222c, "∫∫ ∫∫∫"), (0x222f, "∮∮ ∮∮∮"), (0x2329, "〈 〉"),
   (0x2469, "10 11 12 13 14 15 16 17 18 19 20 (1) (2) (3) (4) (5) (6) (7) (8) (9) (10)"),
   (0x247e, "(11) (12) (13) (14) (15) (16) (17) (18) (19) (20)"),
   (0x249c, "(a) (b) (c) (d) (e) (f) (g) (h) (i) (j) (k) (l) (m) (n) (o) (p) (q) (r) (s)"),
   (0x24af, "(t) (u) (v) (w) (x) (y) (z)"), (0x24ea, "0"), (0x2a0c, "∫∫∫∫"), (0x2a74, "::= == ==="),
   (0x2adc, "⫝̸"), (0x2c60, "ⱡ"), (0x2c62, "ɫ ᵽ ɽ"), (0x2c6d, "ɑ ɱ ɐ ɒ"), (0x2c72, "ⱳ"),
   (0x2c75, "ⱶ"), (0x2c7c, "j v ȿ ɀ"), (0x2ceb, "ⳬ"), (0x2ced, "ⳮ"), (0x2cf2, "ⳳ"), (0x2d6f, "ⵡ"),
   (0x2e9f, "母"), (0x2ef3, "龟"),
   (0x2f00, "一 丨 丶 丿 乙 亅 二 亠 人 儿 入 八 冂 冖 冫 几 凵 刀 力 勹 匕 匚 匸 十 卜 卩"),
   (0x2f1a, "厂 厶 又 口 囗 土 士 夂 夊 夕 大 女 子 宀 寸 小 尢 尸 屮 山 巛 工 己 巾 干 幺"),
   (0x2f34, "广 廴 廾 弋 弓 彐 彡 彳 心 戈 戶 手 支 攴 文 斗 斤 方 无 日 曰 月 木 欠 止 歹"),
   (0x2f4e, "殳 毋 比 毛 氏 气 水 火 爪 父 爻 爿 片 牙 牛 犬 玄 玉 瓜 瓦 甘 生 用 田 疋 疒"),
   (0x2f68, "癶 白 皮 皿 目 矛 矢 石 示 禸 禾 穴 立 竹 米 糸 缶 网 羊 羽 老 而 耒 耳 聿 肉"),
   (0x2f82, "臣 自 至 臼 舌 舛 舟 艮 色 艸 虍 虫 血 行 衣 襾 見 角 言 谷 豆 豕 豸 貝 赤 走"),
   (0x2f9c, "足 身 車 辛 辰 辵 邑 酉 釆 里 金 長 門 阜 隶 隹 雨 靑 非 面 革 韋 韭 音 頁 風"),
   (0x2fb6, "飛 食 首 香 馬 骨 高 髟 鬥 鬯 鬲 鬼 魚 鳥 鹵 鹿 麥 麻 黃 黍 黑 黹 黽 鼎 鼓 鼠"), (0x2fd0, "鼻 齊 齒 龍 龜 龠"),
   (0x3002, "."), (0x3036, "〒"), (0x3038, "十 卄 卅"), (0x309f, "より"), (0x30ff, "コト"),
   (0x3131, "ᄀ ᄁ ᆪ ᄂ ᆬ ᆭ"), (0x3140, "ᄚ"), (0x3144, "ᄡ"),
   (0x3165, "ᄔ ᄕ ᇇ ᇈ ᇌ ᇎ ᇓ ᇗ ᇙ ᄜ ᇝ ᇟ ᄝ ᄞ ᄠ ᄢ ᄣ ᄧ ᄩ"), (0x317d, "ᄲ ᄶ ᅀ ᅇ ᅌ ᇱ ᇲ"),
   (0x3187, "ᆄ ᆅ ᆈ ᆑ ᆒ ᆔ ᆞ ᆡ"), (0x3192, "一 二 三 四 上 中 下 甲 乙 丙 丁 天 地 人"),
   (0x3200, "(ᄀ) (ᄂ) (ᄃ) (ᄅ) (ᄆ) (ᄇ) (ᄉ) (ᄋ) (ᄌ) (ᄎ) (ᄏ) (ᄐ) (ᄑ) (ᄒ) (가)"),
   (0x320f, "(나) (다) (라) (마) (바) (사) (아) (자) (차) (카) (타) (파) (하) (주) (오전)"), (0x321e, "(오후)"),
   (0x3220, "(一) (二) (三) (四) (五) (六) (七) (八) (九) (十) (月) (火) (水) (木) (金)"),
   (0x322f, "(土) (日) (株) (有) (社) (名) (特) (財) (祝) (労) (代) (呼) (学) (監) (企)"),
   (0x323e, "(資) (協) (祭) (休) (自) (至) 問 幼 文 箏"),
   (0x3250, "pte 21 22 23 24 25 26 27 28 29 30 31 32 33 34 35 ᄀ ᄂ ᄃ"), (0x3266, "ᄉ ᄋ ᄌ"),
   (0x326e, "가 나 다 라 마 바 사 아 자 차 카 타 파 하 참고 주의 우"),
   (0x3280, "一 二 三 四 五 六 七 八 九 十 月 火 水 木 金 土 日 株 有 社 名 特 財 祝 労 秘"),
   (0x329a, "男 女 適 優 印 注 項 休 写 正 上 中 下 左 右 医 宗 学 監 企 資 協 夜 36 37 38"),
   (0x32b4, "39 40 41 42 43 44 45 46 47 48 49 50 1月 2月 3月 4月 5月 6月 7月 8月 9月 10月"),
   (0x32ca, "11月 12月 hg erg ev ltd ア イ ウ エ オ カ キ ク ケ コ サ シ ス セ ソ タ チ ツ"), (0x32e2, "テ ト"),
   (0x32ea, "ヒ フ ヘ ホ"), (0x32f3, "ヤ ユ"),
   (0x32ff, "令和 アパート アルファ アンペア アール イニング インチ ウォン エスクード"),
   (0x3308, "エーカー オンス オーム カイリ カラット カロリー ガロン ガンマ ギガ ギニー"),
   (0x3312, "キュリー ギルダー キロ キログラム キロメートル キロワット グラム グラムトン"),
   (0x331a, "クルゼイロ クローネ ケース コルナ コーポ サイクル サンチーム シリング センチ"),
   (0x3323, "セント ダース デシ ドル トン ナノ ノット ハイツ パーセント パーツ バーレル"),
   (0x332e, "ピアストル ピクル ピコ ビル ファラッド フィート ブッシェル フラン ヘクタール"),
   (0x3337, "ペソ ペニヒ ヘルツ ペンス ページ ベータ ポイント ボルト ホン ポンド ホール"),
   (0x3342, "ホーン マイクロ マイル マッハ マルク マンション ミクロン ミリ ミリバール メガ"),
   (0x334c, "メガトン メートル ヤード ヤール ユアン リットル リラ ルピー ルーブル レム"),
   (0x3356, "レントゲン ワット 0点 1点 2点 3点 4点 5点 6点 7点 8点 9点 10点 11点 12点 13点"),
   (0x3366, "14点 15点 16点 17点 18点 19点 20点 21点 22点 23点 24点 hpa da au bar ov pc dm"),
   (0x3378, "dm2 dm3 iu 平成 昭和 大正 明治 株式会社 pa na μa ma ka kb mb gb cal kcal pf"),
   (0x338b, "nf μf μg mg kg hz khz mhz ghz thz μl ml dl kl fm nm μm mm cm km mm2 cm2 m2"),
   (0x33a2, "km2 mm3 cm3 m3 km3 m∕s m∕s2 pa kpa mpa gpa rad rad∕s rad∕s2 ps ns μs ms pv nv"),
   (0x33b6, "μv mv kv mv pw nw μw mw kw mw kω mω"), (0x33c3, "bq cc cd c∕kg"),
   (0x33c8, "db gy ha hp in kk km kt lm ln log lx mb mil mol ph"),
   (0x33d9, "ppm pr sr sv wb v∕m a∕m 1日 2日 3日 4日 5日 6日 7日 8日 9日 10日 11日 12日"),
   (0x33ec, "13日 14日 15日 16日 17日 18日 19日 20日 21日 22日 23日 24日 25日 26日 27日"),
   (0x33fb, "28日 29日 30日 31日 gal"), (0xa69c, "ъ ь"), (0xa770, "ꝯ"), (0xa779, "ꝺ"), (0xa77b, "ꝼ"),
   (0xa77d, "ᵹ"), (0xa78b, "ꞌ"), (0xa78d, "ɥ"), (0xa790, "ꞑ"), (0xa792, "ꞓ"), (0xa7aa, "ɦ ɜ ɡ ɬ ɪ"),
   (0xa7b0, "ʞ ʇ ʝ ꭓ"), (0xa7c4, "ꞔ ʂ ᶎ ꟈ"), (0xa7c9, "ꟊ"), (0xa7cb, "ɤ"), (0xa7dc, "ƛ"),
   (0xa7f1, "s c f q ꟶ"), (0xa7f8, "ħ œ"), (0xab5c, "ꜧ ꬷ ɫ ꭒ"), (0xab69, "ʍ"),
   (0xf900, "豈 更 車 賈 滑 串 句 龜 龜 契 金 喇 奈 懶 癩 羅 蘿 螺 裸 邏 樂 洛 烙 珞 落 酪"),
   (0xf91a, "駱 亂 卵 欄 爛 蘭 鸞 嵐 濫 藍 襤 拉 臘 蠟 廊 朗 浪 狼 郎 來 冷 勞 擄 櫓 爐 盧"),
   (0xf934, "老 蘆 虜 路 露 魯 鷺 碌 祿 綠 菉 錄 鹿 論 壟 弄 籠 聾 牢 磊 賂 雷 壘 屢 樓 淚"),
   (0xf94e, "漏 累 縷 陋 勒 肋 凜 凌 稜 綾 菱 陵 讀 拏 樂 諾 丹 寧 怒 率 異 北 磻 便 復 不"),
   (0xf968, "泌 數 索 參 塞 省 葉 說 殺 辰 沈 拾 若 掠 略 亮 兩 凉 梁 糧 良 諒 量 勵 呂 女"),
   (0xf982, "廬 旅 濾 礪 閭 驪 麗 黎 力 曆 歷 轢 年 憐 戀 撚 漣 煉 璉 秊 練 聯 輦 蓮 連 鍊"),
   (0xf99c, "列 劣 咽 烈 裂 說 廉 念 捻 殮 簾 獵 令 囹 寧 嶺 怜 玲 瑩 羚 聆 鈴 零 靈 領 例"),
   (0xf9b6, "禮 醴 隸 惡 了 僚 寮 尿 料 樂 燎 療 蓼 遼 龍 暈 阮 劉 杻 柳 流 溜 琉 留 硫 紐"),
   (0xf9d0, "類 六 戮 陸 倫 崙 淪 輪 律 慄 栗 率 隆 利 吏 履 易 李 梨 泥 理 痢 罹 裏 裡 里"),
   (0xf9ea, "離 匿 溺 吝 燐 璘 藺 隣 鱗 麟 林 淋 臨 立 笠 粒 狀 炙 識 什 茶 刺 切 度 拓 糖"),
   (0xfa04, "宅 洞 暴 輻 行 降 見 廓 兀 嗀"), (0xfa10, "塚"), (0xfa12, "晴"),
   (0xfa15, "凞 猪 益 礼 神 祥 福 靖 精 羽"), (0xfa20, "蘒"), (0xfa22, "諸"), (0xfa25, "逸 都"),
   (0xfa2a, "飯 飼 館 鶴 郞 隷 侮 僧 免 勉 勤 卑 喝 嘆 器 塀 墨 層 屮 悔 慨 憎 懲 敏 既 暑"),
   (0xfa44, "梅 海 渚 漢 煮 爫 琢 碑 社 祉 祈 祐 祖 祝 禍 禎 穀 突 節 練 縉 繁 署 者 臭 艹"),
   (0xfa5e, "艹 著 褐 視 謁 謹 賓 贈 辶 逸 難 響 頻 恵 𤋮 舘"),
   (0xfa70, "並 况 全 侀 充 冀 勇 勺 喝 啕 喙 嗢 塚 墳 奄 奔 婢 嬨 廒 廙 彩 徭 惘 慎 愈 憎"),
   (0xfa8a, "慠 懲 戴 揄 搜 摒 敖 晴 朗 望 杖 歹 殺 流 滛 滋 漢 瀞 煮 瞧 爵 犯 猪 瑱 甆 画"),
   (0xfaa4, "瘝 瘟 益 盛 直 睊 着 磌 窱 節 类 絛 練 缾 者 荒 華 蝹 襁 覆 視 調 諸 請 謁 諾"),
   (0xfabe, "諭 謹 變 贈 輸 遲 醙 鉶 陼 難 靖 韛 響 頋 頻 鬒 龜 𢡊 𢡄 𣏕 㮝 䀘 䀹 𥉉 𥳐 𧻓"), (0xfad8, "齃 龎"),
   (0xfb00, "ff fi fl ffi ffl st st"), (0xfb13, "մն մե մի վն մխ"), (0xfb1d, "יִ"),
   (0xfb1f, "ײַ ע א ד ה"), (0xfb27, "ר ת + שׁ שׂ שּׁ שּׂ אַ אָ אּ בּ גּ דּ הּ וּ זּ"),
   (0xfb38, "טּ יּ ךּ כּ לּ"), (0xfb3e, "מּ"), (0xfb40, "נּ סּ"), (0xfb43, "ףּ פּ"),
   (0xfb46, "צּ קּ רּ שּ תּ וֹ בֿ כֿ פֿ אל ٱ ٱ ٻ ٻ ٻ ٻ پ پ پ پ ڀ ڀ ڀ ڀ ٺ ٺ ٺ ٺ ٿ ٿ ٿ ٿ ٹ ٹ ٹ ٹ ڤ ڤ"),
   (0xfb6c, "ڤ ڤ ڦ ڦ ڦ ڦ ڄ ڄ ڄ ڄ ڃ ڃ ڃ ڃ چ چ چ چ ڇ ڇ ڇ ڇ ڍ ڍ ڌ ڌ ڎ ڎ ڈ ڈ ژ ژ ڑ ڑ ک ک ک ک گ"),
   (0xfb93, "گ گ گ ڳ ڳ ڳ ڳ ڱ ڱ ڱ ڱ ں ں ڻ ڻ ڻ ڻ ۀ ۀ ہ ہ ہ ہ ھ ھ ھ ھ ے ے ۓ ۓ"),
   (0xfbd3, "ڭ ڭ ڭ ڭ ۇ ۇ ۆ ۆ ۈ ۈ ۇٴ ۋ ۋ ۅ ۅ ۉ ۉ ې ې ې ې ى ى ئا ئا ئە ئە ئو ئو ئۇ ئۇ ئۆ ئۆ"),
   (0xfbf4, "ئۈ ئۈ ئې ئې ئې ئى ئى ئى ی ی ی ی ئج ئح ئم ئى ئي بج بح بخ بم بى بي تج تح تخ تم"),
   (0xfc0f, "تى تي ثج ثم ثى ثي جح جم حج حم خج خح خم سج سح سخ سم صح صم ضج ضح ضخ ضم طح طم ظم"),
   (0xfc29, "عج عم غج غم فج فح فخ فم فى في قح قم قى قي كا كج كح كخ كل كم كى كي لج لح لخ لم"),
   (0xfc43, "لى لي مج مح مخ مم مى مي نج نح نخ نم نى ني هج هم هى هي يج يح يخ يم يى يي ذٰ رٰ ىٰ"),
   (0xfc64, "ئر ئز ئم ئن ئى ئي بر بز بم بن بى بي تر تز تم تن تى تي ثر ثز ثم ثن ثى ثي فى في"),
   (0xfc7e, "قى قي كا كل كم كى كي لم لى لي ما مم نر نز نم نن نى ني ىٰ ير يز يم ين يى يي ئج"),
   (0xfc98, "ئح ئخ ئم ئه بج بح بخ بم به تج تح تخ تم ته ثم جح جم حج حم خج خم سج سح سخ سم صح"),
   (0xfcb2, "صخ صم ضج ضح ضخ ضم طح ظم عج عم غج غم فج فح فخ فم قح قم كج كح كخ كل كم لج لح لخ"),
   (0xfccc, "لم له مج مح مخ مم نج نح نخ نم نه هج هم هٰ يج يح يخ يم يه ئم ئه بم به تم ته ثم"),
   (0xfce6, "ثه سم سه شم شه كل كم لم نم نه يم يه ـَّ ـُّ ـِّ طى طي عى عي غى غي سى سي شى شي حى حي"),
   (0xfd01, "جى جي خى خي صى صي ضى ضي شج شح شخ شم شر سر صر ضر طى طي عى عي غى غي سى سي شى شي"),
   (0xfd1b, "حى حي جى جي خى خي صى صي ضى ضي شج شح شخ شم شر سر صر ضر شج شح شخ شم سه شه طم سج"),
   (0xfd35, "سح سخ شج شح شخ طم ظم اً اً"),
   (0xfd50, "تجم تحج تحج تحم تخم تمج تمح تمخ جمح جمح حمي حمى سحج سجح سجى سمح سمح سمج سمم"),
   (0xfd63, "سمم صحح صحح صمم شحم شحم شجي شمخ شمخ شمم شمم ضحى ضخم ضخم طمح طمح طمم طمي عجم"),
   (0xfd76, "عمم عمم عمى غمم غمي غمى فخم فخم قمح قمم لحم لحي لحى لجج لجج لخم لخم لمح لمح"),
   (0xfd89, "محج محم محي مجح مجم مخج مخم"),
   (0xfd92, "مجخ همج همم نحم نحى نجم نجم نجى نمي نمى يمم يمم بخي تجي تجى تخي تخى تمي تمى"),
   (0xfda5, "جمي جحى جمى سخى صحي شحي ضحي لجي لمي يحي يجي يمي ممي قمي نحي قمح لحم عمي كمي"),
   (0xfdb8, "نجح مخي لجم كمم لجم نجح جحي حجي مجي فمي بحي كمم عجم صمم سخي نجي"),
   (0xfdf0, "صلے قلے الله اكبر محمد صلعم رسول عليه وسلم صلى"), (0xfdfc, "ریال"), (0xfe10, ", 、"),
   (0xfe13, ": ; ! ? 〖 〗"), (0xfe31, "— – _ _ ( )"), (0xfe39, "〔 〕 【 】 《 》 〈 〉"), (0xfe47, "[ ]"),
   (0xfe4d, "_ _ _ , 、"), (0xfe54, "; : ? ! — ( )"), (0xfe5d, "〔 〕 # & * + - < > ="),
   (0xfe69, "$ % @"), (0xfe71, "ـً"), (0xfe77, "ـَ"), (0xfe79, "ـُ"), (0xfe7b, "ـِ"),
   (0xfe7d, "ـّ"),
   (0xfe7f, "ـْ ء آ آ أ أ ؤ ؤ إ إ ئ ئ ئ ئ ا ا ب ب ب ب ة ة ت ت ت ت ث ث ث ث ج ج ج ج ح ح ح ح خ"),
   (0xfea6, "خ خ خ د د ذ ذ ر ر ز ز س س س س ش ش ش ش ص ص ص ص ض ض ض ض ط ط ط ط ظ ظ ظ ظ ع ع ع ع"),
   (0xfecd, "غ غ غ غ ف ف ف ف ق ق ق ق ك ك ك ك ل ل ل ل م م م م ن ن ن ن ه ه ه ه و و ى ى ي ي ي"),
   (0xfef4, "ي لآ لآ لأ لأ لإ لإ لا لا"),
   (0xff5f, "⦅ ⦆ . 「 」 、 ・ ヲ ァ ィ ゥ ェ ォ ャ ュ ョ ッ ー ア イ ウ エ オ カ キ ク ケ"),
   (0xff7a, "コ サ シ ス セ ソ タ チ ツ テ ト"), (0xff8b, "ヒ フ ヘ ホ"), (0xff94, "ヤ ユ"), (0xff9c, "ワ ン ゙ ゚"),
   (0xffa1, "ᄀ ᄁ ᆪ ᄂ ᆬ ᆭ"), (0xffb0, "ᄚ"), (0xffb4, "ᄡ"), (0xffe0, "¢ £ ¬"), (0xffe4, "¦ ¥ ₩"),
   (0xffe8, "│"), (0xffed, "■ ○"), (0x10595, "𐖼"), (0x10781, "ː ˑ æ ʙ ɓ"),
   (0x10787, "ʣ ꭦ ʥ ʤ ɖ ɗ ᶑ ɘ ɞ ʩ ɤ ɢ ɠ ʛ ħ ʜ ɧ ʄ ʪ ʫ ɬ 𝼄 ꞎ ɮ 𝼅 ʎ 𝼆 ø ɶ ɷ q ɺ 𝼈 ɽ ɾ ʀ ʨ ʦ ꭧ"),
   (0x107ae, "ʧ ʈ ⱱ"), (0x107b2, "ʏ ʡ ʢ ʘ"), (0x107b9, "𝼊 𝼞"),
   (0x1d15e, "𝅗𝅥 𝅘𝅥 𝅘𝅥𝅮 𝅘𝅥𝅯 𝅘𝅥𝅰 𝅘𝅥𝅱 𝅘𝅥𝅲"), (0x1d1bb, "𝆹𝅥 𝆺𝅥 𝆹𝅥𝅮 𝆺𝅥𝅮 𝆹𝅥𝅯 𝆺𝅥𝅯"), (0x1d49c, "a"),
   (0x1d49e, "c d"), (0x1d4a2, "g"), (0x1d4a5, "j k"), (0x1d504, "a"), (0x1d508, "e"),
   (0x1d50a, "g"), (0x1d538, "a"), (0x1d541, "j"), (0x1d543, "l"), (0x1d6a4, "ı ȷ"), (0x1d6b9, "θ"),
   (0x1d6c1, "∇"), (0x1d6d3, "σ"), (0x1d6db, "∂ ε θ κ φ ρ π"), (0x1d6f3, "θ"), (0x1d6fb, "∇"),
   (0x1d70d, "σ"), (0x1d715, "∂ ε θ κ φ ρ π"), (0x1d72d, "θ"), (0x1d735, "∇"), (0x1d747, "σ"),
   (0x1d74f, "∂ ε θ κ φ ρ π"), (0x1d767, "θ"), (0x1d76f, "∇"), (0x1d781, "σ"),
   (0x1d789, "∂ ε θ κ φ ρ π"), (0x1d7a1, "θ"), (0x1d7a9, "∇"), (0x1d7bb, "σ"),
   (0x1d7c3, "∂ ε θ κ φ ρ π ϝ ϝ"), (0x1e047, "ы э ю ꚉ ә і ј ө ү ӏ"), (0x1e05a, "к л о п с"),
   (0x1e065, "ъ ы ґ і ѕ џ ҫ ꙑ ұ"), (0x1ee00, "ا ب ج د"), (0x1ee05, "و ز ح ط ي"),
   (0x1ee0e, "س ع ف ص ق ر ش ت ث خ ذ ض ظ غ ٮ ں ڡ ٯ"), (0x1ee21, "ب ج"), (0x1ee24, "ه"),
   (0x1ee27, "ح"), (0x1ee29, "ي"), (0x1ee2e, "س ع ف ص ق"), (0x1ee34, "ش ت ث خ"), (0x1ee39, "ض"),
   (0x1ee3b, "غ"), (0x1ee42, "ج"), (0x1ee47, "ح"), (0x1ee49, "ي"), (0x1ee4b, "ل"),
   (0x1ee4d, "ن س ع"), (0x1ee51, "ص ق"), (0x1ee54, "ش"), (0x1ee57, "خ"), (0x1ee59, "ض"),
   (0x1ee5b, "غ"), (0x1ee5d, "ں"), (0x1ee5f, "ٯ"), (0x1ee61, "ب ج"), (0x1ee64, "ه"),
   (0x1ee67, "ح ط ي ك"), (0x1ee6c, "م ن س ع ف ص ق"), (0x1ee74, "ش ت ث خ"), (0x1ee79, "ض ظ غ ٮ"),
   (0x1ee7e, "ڡ"), (0x1ee80, "ا ب ج د ه و ز ح ط ي"), (0x1ee8e, "س ع ف ص ق ر ش ت ث خ ذ ض ظ غ"),
   (0x1eea1, "ب ج د"), (0x1eea5, "و ز ح ط ي"), (0x1eeae, "س ع ف ص ق ر ش ت ث خ ذ ض ظ غ"),
   (0x1f101, "0, 1, 2, 3, 4, 5, 6, 7, 8, 9,"),
   (0x1f110, "(a) (b) (c) (d) (e) (f) (g) (h) (i) (j) (k) (l) (m) (n) (o) (p) (q) (r) (s)"),
   (0x1f123, "(t) (u) (v) (w) (x) (y) (z) 〔s〕 c r cd wz"), (0x1f14a, "hv mv sd ss ppv wc"),
   (0x1f16a, "mc md mr"), (0x1f190, "dj"), (0x1f200, "ほか ココ サ"),
   (0x1f210, "手 字 双 デ 二 多 解 天 交 映 無 料 前 後 再 新 初 終 生 販 声 吹 演 投 捕 一"),
   (0x1f22a, "三 遊 左 中 右 指 走 打 禁 空 合 満 有 月 申 割 営 配"),
   (0x1f240, "〔本〕 〔三〕 〔二〕 〔安〕 〔点〕 〔打〕 〔盗〕 〔勝〕 〔敗〕"), (0x1f250, "得 可"),
   (0x2f800, "丽 丸 乁 𠄢 你 侮 侻 倂 偺 備 僧 像 㒞 𠘺 免 兔 兤 具 𠔜 㒹 內 再 𠕋 冗 冤 仌"),
   (0x2f81a, "冬 况 𩇟 凵 刃 㓟 刻 剆 割 剷 㔕 勇 勉 勤 勺 包 匆 北 卉 卑 博 即 卽 卿 卿 卿"),
   (0x2f834, "𠨬 灰 及 叟 𠭣 叫 叱 吆 咞 吸 呈 周 咢 哶 唐 啓 啣 善 善 喙 喫 喳 嗂 圖 嘆 圗"),
   (0x2f84e, "噑 噴 切 壮 城 埴 堍 型 堲 報 墬 𡓤 売 壷 夆 多 夢 奢 𡚨 𡛪 姬 娛 娧 姘 婦 㛮"),
   (0x2f868, "㛼 嬈 嬾 嬾 𡧈 寃 寘 寧 寳 𡬘 寿 将 当 尢 㞁 屠 屮 峀 岍 𡷤 嵃 𡷦 嵮 嵫 嵼 巡"),
   (0x2f882, "巢 㠯 巽 帨 帽 幩 㡢 𢆃 㡼 庰 庳 庶 廊 𪎒 廾 𢌱 𢌱 舁 弢 弢 㣇 𣊸 𦇚 形 彫 㣣"),
   (0x2f89c, "徚 忍 志 忹 悁 㤺 㤜 悔 𢛔 惇 慈 慌 慎 慌 慺 憎 憲 憤 憯 懞 懲 懶 成 戛 扝 抱"),
   (0x2f8b6, "拔 捐 𢬌 挽 拼 捨 掃 揤 𢯱 搢 揅 掩 㨮 摩 摾 撝 摷 㩬 敏 敬 𣀊 旣 書 晉 㬙 暑"),
   (0x2f8d0, "㬈 㫤 冒 冕 最 暜 肭 䏙 朗 望 朡 杞 杓 𣏃 㭉 柺 枅 桒 梅 𣑭 梎 栟 椔 㮝 楂 榣"),
   (0x2f8ea, "槪 檨 𣚣 櫛 㰘 次 𣢧 歔 㱎 歲 殟 殺 殻 𣪍 𡴋 𣫺 汎 𣲼 沿 泍 汧 洖 派 海 流 浩"),
   (0x2f904, "浸 涅 𣴞 洴 港 湮 㴳 滋 滇 𣻑 淹 潮 𣽞 𣾎 濆 瀹 瀞 瀛 㶖 灊 災 灷 炭 𠔥 煅 𤉣"),
   (0x2f91e, "熜 𤎫 爨 爵 牐 𤘈 犀 犕 𤜵 𤠔 獺 王 㺬 玥 㺸 㺸 瑇 瑜 瑱 璅 瓊 㼛 甤 𤰶 甾 𤲒"),
   (0x2f938, "異 𢆟 瘐 𤾡 𤾸 𥁄 㿼 䀈 直 𥃳 𥃲 𥄙 𥄳 眞 真 真 睊 䀹 瞋 䁆 䂖 𥐝 硎 碌 磌 䃣"),
   (0x2f952, "𥘦 祖 𥚚 𥛅 福 秫 䄯 穀 穊 穏 𥥼 𥪧 𥪧 竮 䈂 𥮫 篆 築 䈧 𥲀 糒 䊠 糨 糣 紀 𥾆"),
   (0x2f96c, "絣 䌁 緇 縂 繅 䌴 𦈨 𦉇 䍙 𦋙 罺 𦌾 羕 翺 者 𦓚 𦔣 聠 𦖨 聰 𣍟 䏕 育 脃 䐋 脾"),
   (0x2f986, "媵 𦞧 𦞵 𣎓 𣎜 舁 舄 辞 䑫 芑 芋 芝 劳 花 芳 芽 苦 𦬼 若 茝 荣 莭 茣 莽 菧 著"),
   (0x2f9a0, "荓 菊 菌 菜 𦰶 𦵫 𦳕 䔫 蓱 蓳 蔖 𧏊 蕤 𦼬 䕝 䕡 𦾱 𧃒 䕫 虐 虜 虧 虩 蚩 蚈 蜎"),
   (0x2f9ba, "蛢 蝹 蜨 蝫 螆 䗗 蟡 蠁 䗹 衠 衣 𧙧 裗 裞 䘵 裺 㒻 𧢮 𧥦 䚾 䛇 誠 諭 變 豕 𧲨"),
   (0x2f9d4, "貫 賁 贛 起 𧼯 𠠄 跋 趼 跰 𠣞 軔 輸 𨗒 𨗭 邔 郱 鄑 𨜮 鄛 鈸 鋗 鋘 鉼 鏹 鐕 𨯺"),
   (0x2f9ee, "開 䦕 閷 𨵷 䧦 雃 嶲 霣 𩅅 𩈚 䩮 䩶 韠 𩐊 䪲 𩒖 頋 頋 頩 𩖶 飢 䬳 餩 馧 駂 駾"),
   (0x2fa08, "䯎 𩬰 鬒 鱀 鳽 䳎 䳭 鵧 𪃎 䳸 𪄅 𪈎 𪊑 麻 䵖 黹 黾 鼅 鼏 鼖 鼻 𪘀")]

/-- Every character of the rows with what it becomes. -/
def images : List (Nat × List Char) :=
  rows.flatMap fun (first, row) =>
    (Text.pieces ' ' row.toList).zipIdx.map fun (image, i) => (first + i, image)

/-- Characters that vanish. -/
def vanishing : List (Nat × Nat) :=
  [(0xad, 0xad), (0x34f, 0x34f), (0x115f, 0x1160), (0x17b4, 0x17b5), (0x180b, 0x180f),
   (0x200b, 0x200b), (0x2060, 0x2064), (0x206a, 0x206f), (0x3164, 0x3164), (0xfe00, 0xfe0f),
   (0xfeff, 0xfeff), (0xffa0, 0xffa0), (0x1bca0, 0x1bca3), (0x1d173, 0x1d17a), (0xe0100, 0xe01ef)]

/-- Characters without an image that no domain may hold, some of them because they stand for a blank. -/
def excluded : List (Nat × Nat) :=
  [(0x80, 0xa0), (0xa8, 0xa8), (0xaf, 0xaf), (0xb4, 0xb4), (0xb8, 0xb8), (0x2d8, 0x2dd),
   (0x378, 0x37a), (0x380, 0x38d), (0x3a2, 0x3a2), (0x530, 0x558), (0x58b, 0x58c), (0x590, 0x590),
   (0x5c8, 0x5cf), (0x5eb, 0x5ee), (0x5f5, 0x605), (0x61c, 0x61c), (0x6dd, 0x6dd), (0x70e, 0x70f),
   (0x74b, 0x74c), (0x7b2, 0x7bf), (0x7fb, 0x7fc), (0x82e, 0x82f), (0x83f, 0x83f), (0x85c, 0x85d),
   (0x85f, 0x85f), (0x86b, 0x86f), (0x890, 0x896), (0x8e2, 0x8e2), (0x984, 0x984), (0x98d, 0x98e),
   (0x991, 0x992), (0x9a9, 0x9a9), (0x9b1, 0x9b1), (0x9b3, 0x9b5), (0x9ba, 0x9bb), (0x9c5, 0x9c6),
   (0x9c9, 0x9ca), (0x9cf, 0x9d6), (0x9d8, 0x9de), (0x9e4, 0x9e5), (0x9ff, 0xa00), (0xa04, 0xa04),
   (0xa0b, 0xa0e), (0xa11, 0xa12), (0xa29, 0xa29), (0xa31, 0xa31), (0xa34, 0xa34), (0xa37, 0xa37),
   (0xa3a, 0xa3b), (0xa3d, 0xa3d), (0xa43, 0xa46), (0xa49, 0xa4a), (0xa4e, 0xa50), (0xa52, 0xa58),
   (0xa5d, 0xa65), (0xa77, 0xa80), (0xa84, 0xa84), (0xa8e, 0xa8e), (0xa92, 0xa92), (0xaa9, 0xaa9),
   (0xab1, 0xab1), (0xab4, 0xab4), (0xaba, 0xabb), (0xac6, 0xac6), (0xaca, 0xaca), (0xace, 0xacf),
   (0xad1, 0xadf), (0xae4, 0xae5), (0xaf2, 0xaf8), (0xb00, 0xb00), (0xb04, 0xb04), (0xb0d, 0xb0e),
   (0xb11, 0xb12), (0xb29, 0xb29), (0xb31, 0xb31), (0xb34, 0xb34), (0xb3a, 0xb3b), (0xb45, 0xb46),
   (0xb49, 0xb4a), (0xb4e, 0xb54), (0xb58, 0xb5e), (0xb64, 0xb65), (0xb78, 0xb81), (0xb84, 0xb84),
   (0xb8b, 0xb8d), (0xb91, 0xb91), (0xb96, 0xb98), (0xb9b, 0xb9b), (0xb9d, 0xb9d), (0xba0, 0xba2),
   (0xba5, 0xba7), (0xbab, 0xbad), (0xbba, 0xbbd), (0xbc3, 0xbc5), (0xbc9, 0xbc9), (0xbce, 0xbcf),
   (0xbd1, 0xbd6), (0xbd8, 0xbe5), (0xbfb, 0xbff), (0xc0d, 0xc0d), (0xc11, 0xc11), (0xc29, 0xc29),
   (0xc3a, 0xc3b), (0xc45, 0xc45), (0xc49, 0xc49), (0xc4e, 0xc54), (0xc57, 0xc57), (0xc5b, 0xc5b),
   (0xc5e, 0xc5f), (0xc64, 0xc65), (0xc70, 0xc76), (0xc8d, 0xc8d), (0xc91, 0xc91), (0xca9, 0xca9),
   (0xcb4, 0xcb4), (0xcba, 0xcbb), (0xcc5, 0xcc5), (0xcc9, 0xcc9), (0xcce, 0xcd4), (0xcd7, 0xcdb),
   (0xcdf, 0xcdf), (0xce4, 0xce5), (0xcf0, 0xcf0), (0xcf4, 0xcff), (0xd0d, 0xd0d), (0xd11, 0xd11),
   (0xd45, 0xd45), (0xd49, 0xd49), (0xd50, 0xd53), (0xd64, 0xd65), (0xd80, 0xd80), (0xd84, 0xd84),
   (0xd97, 0xd99), (0xdb2, 0xdb2), (0xdbc, 0xdbc), (0xdbe, 0xdbf), (0xdc7, 0xdc9), (0xdcb, 0xdce),
   (0xdd5, 0xdd5), (0xdd7, 0xdd7), (0xde0, 0xde5), (0xdf0, 0xdf1), (0xdf5, 0xe00), (0xe3b, 0xe3e),
   (0xe5c, 0xe80), (0xe83, 0xe83), (0xe85, 0xe85), (0xe8b, 0xe8b), (0xea4, 0xea4), (0xea6, 0xea6),
   (0xebe, 0xebf), (0xec5, 0xec5), (0xec7, 0xec7), (0xecf, 0xecf), (0xeda, 0xedb), (0xee0, 0xeff),
   (0xf48, 0xf48), (0xf6d, 0xf70), (0xf98, 0xf98), (0xfbd, 0xfbd), (0xfcd, 0xfcd), (0xfdb, 0xfff),
   (0x10c6, 0x10cf), (0x1249, 0x1249), (0x124e, 0x124f), (0x1257, 0x1257), (0x1259, 0x1259),
   (0x125e, 0x125f), (0x1289, 0x1289), (0x128e, 0x128f), (0x12b1, 0x12b1), (0x12b6, 0x12b7),
   (0x12bf, 0x12bf), (0x12c1, 0x12c1), (0x12c6, 0x12c7), (0x12d7, 0x12d7), (0x1311, 0x1311),
   (0x1316, 0x1317), (0x135b, 0x135c), (0x137d, 0x137f), (0x139a, 0x139f), (0x13f6, 0x13ff),
   (0x1680, 0x1680), (0x169d, 0x169f), (0x16f9, 0x16ff), (0x1716, 0x171e), (0x1737, 0x173f),
   (0x1754, 0x175f), (0x176d, 0x176d), (0x1771, 0x1771), (0x1774, 0x177f), (0x17de, 0x17df),
   (0x17ea, 0x17ef), (0x17fa, 0x17ff), (0x181a, 0x181f), (0x1879, 0x187f), (0x18ab, 0x18af),
   (0x18f6, 0x18ff), (0x191f, 0x191f), (0x192c, 0x192f), (0x193c, 0x193f), (0x1941, 0x1943),
   (0x196e, 0x196f), (0x1975, 0x197f), (0x19ac, 0x19af), (0x19ca, 0x19cf), (0x19db, 0x19dd),
   (0x1a1c, 0x1a1d), (0x1a5f, 0x1a5f), (0x1a7d, 0x1a7e), (0x1a8a, 0x1a8f), (0x1a9a, 0x1a9f),
   (0x1aae, 0x1aaf), (0x1ade, 0x1adf), (0x1aec, 0x1aff), (0x1b4d, 0x1b4d), (0x1bf4, 0x1bfb),
   (0x1c38, 0x1c3a), (0x1c4a, 0x1c4c), (0x1c8b, 0x1cbc), (0x1cc8, 0x1ccf), (0x1cfb, 0x1cff),
   (0x1f16, 0x1f1f), (0x1f46, 0x1f4f), (0x1f58, 0x1f5e), (0x1f7e, 0x1f7f), (0x1fb5, 0x1fb5),
   (0x1fbd, 0x1fc5), (0x1fcd, 0x1fcf), (0x1fd4, 0x1fd5), (0x1fdc, 0x1fdf), (0x1fed, 0x1ff5),
   (0x1ffd, 0x200a), (0x200e, 0x200f), (0x2017, 0x2017), (0x2024, 0x2026), (0x2028, 0x202f),
   (0x203e, 0x203e), (0x205f, 0x209f), (0x20c2, 0x20cf), (0x20f1, 0x20ff), (0x218c, 0x218f),
   (0x242a, 0x243f), (0x244b, 0x249b), (0x2b74, 0x2b75), (0x2cf4, 0x2cf8), (0x2d26, 0x2d26),
   (0x2d28, 0x2d2c), (0x2d2e, 0x2d2f), (0x2d68, 0x2d6e), (0x2d71, 0x2d7e), (0x2d97, 0x2d9f),
   (0x2da7, 0x2da7), (0x2daf, 0x2daf), (0x2db7, 0x2db7), (0x2dbf, 0x2dbf), (0x2dc7, 0x2dc7),
   (0x2dcf, 0x2dcf), (0x2dd7, 0x2dd7), (0x2ddf, 0x2ddf), (0x2e5e, 0x2e7f), (0x2e9a, 0x2e9a),
   (0x2ef4, 0x3000), (0x3040, 0x3040), (0x3097, 0x3098), (0x309b, 0x309c), (0x3100, 0x3104),
   (0x3130, 0x318f), (0x31e6, 0x31ef), (0x321f, 0x321f), (0x33c2, 0x33d8), (0xa48d, 0xa48f),
   (0xa4c7, 0xa4cf), (0xa62c, 0xa63f), (0xa6f8, 0xa6ff), (0xa7dd, 0xa7f0), (0xa82d, 0xa82f),
   (0xa83a, 0xa83f), (0xa878, 0xa87f), (0xa8c6, 0xa8cd), (0xa8da, 0xa8df), (0xa954, 0xa95e),
   (0xa97d, 0xa97f), (0xa9ce, 0xa9ce), (0xa9da, 0xa9dd), (0xa9ff, 0xa9ff), (0xaa37, 0xaa3f),
   (0xaa4e, 0xaa4f), (0xaa5a, 0xaa5b), (0xaac3, 0xaada), (0xaaf7, 0xab00), (0xab07, 0xab08),
   (0xab0f, 0xab10), (0xab17, 0xab1f), (0xab27, 0xab27), (0xab2f, 0xab2f), (0xab6c, 0xab6f),
   (0xabee, 0xabef), (0xabfa, 0xabff), (0xd7a4, 0xd7af), (0xd7c7, 0xd7ca), (0xd7fc, 0xf8ff),
   (0xfa6e, 0xfb1c), (0xfb37, 0xfb45), (0xfc5e, 0xfc63), (0xfdd0, 0xfdfb), (0xfe12, 0xfe1f),
   (0xfe30, 0xfe30), (0xfe49, 0xfe72), (0xfe74, 0xffff), (0x1000c, 0x1000c), (0x10027, 0x10027),
   (0x1003b, 0x1003b), (0x1003e, 0x1003e), (0x1004e, 0x1004f), (0x1005e, 0x1007f),
   (0x100fb, 0x100ff), (0x10103, 0x10106), (0x10134, 0x10136), (0x1018f, 0x1018f),
   (0x1019d, 0x1019f), (0x101a1, 0x101cf), (0x101fe, 0x1027f), (0x1029d, 0x1029f),
   (0x102d1, 0x102df), (0x102fc, 0x102ff), (0x10324, 0x1032c), (0x1034b, 0x1034f),
   (0x1037b, 0x1037f), (0x1039e, 0x1039e), (0x103c4, 0x103c7), (0x103d6, 0x103ff),
   (0x1049e, 0x1049f), (0x104aa, 0x104d7), (0x104fc, 0x104ff), (0x10528, 0x1052f),
   (0x10564, 0x1056e), (0x1057b, 0x10596), (0x105a2, 0x105a2), (0x105b2, 0x105b2),
   (0x105ba, 0x105ba), (0x105bd, 0x105bf), (0x105f4, 0x105ff), (0x10737, 0x1073f),
   (0x10756, 0x1075f), (0x10768, 0x1077f), (0x10786, 0x107ff), (0x10806, 0x10807),
   (0x10809, 0x10809), (0x10836, 0x10836), (0x10839, 0x1083b), (0x1083d, 0x1083e),
   (0x10856, 0x10856), (0x1089f, 0x108a6), (0x108b0, 0x108df), (0x108f3, 0x108f3),
   (0x108f6, 0x108fa), (0x1091c, 0x1091e), (0x1093a, 0x1093e), (0x1095a, 0x1097f),
   (0x109b8, 0x109bb), (0x109d0, 0x109d1), (0x10a04, 0x10a04), (0x10a07, 0x10a0b),
   (0x10a14, 0x10a14), (0x10a18, 0x10a18), (0x10a36, 0x10a37), (0x10a3b, 0x10a3e),
   (0x10a49, 0x10a4f), (0x10a59, 0x10a5f), (0x10aa0, 0x10abf), (0x10ae7, 0x10aea),
   (0x10af7, 0x10aff), (0x10b36, 0x10b38), (0x10b56, 0x10b57), (0x10b73, 0x10b77),
   (0x10b92, 0x10b98), (0x10b9d, 0x10ba8), (0x10bb0, 0x10bff), (0x10c49, 0x10cbf),
   (0x10cf3, 0x10cf9), (0x10d28, 0x10d2f), (0x10d3a, 0x10d3f), (0x10d66, 0x10d68),
   (0x10d86, 0x10d8d), (0x10d90, 0x10e5f), (0x10e7f, 0x10e7f), (0x10eaa, 0x10eaa),
   (0x10eae, 0x10eaf), (0x10eb2, 0x10ec1), (0x10ec8, 0x10ecf), (0x10ed9, 0x10ef9),
   (0x10f28, 0x10f2f), (0x10f5a, 0x10f6f), (0x10f8a, 0x10faf), (0x10fcc, 0x10fdf),
   (0x10ff7, 0x10fff), (0x1104e, 0x11051), (0x11076, 0x1107e), (0x110bd, 0x110bd),
   (0x110c3, 0x110cf), (0x110e9, 0x110ef), (0x110fa, 0x110ff), (0x11135, 0x11135),
   (0x11148, 0x1114f), (0x11177, 0x1117f), (0x111e0, 0x111e0), (0x111f5, 0x111ff),
   (0x11212, 0x11212), (0x11242, 0x1127f), (0x11287, 0x11287), (0x11289, 0x11289),
   (0x1128e, 0x1128e), (0x1129e, 0x1129e), (0x112aa, 0x112af), (0x112eb, 0x112ef),
   (0x112fa, 0x112ff), (0x11304, 0x11304), (0x1130d, 0x1130e), (0x11311, 0x11312),
   (0x11329, 0x11329), (0x11331, 0x11331), (0x11334, 0x11334), (0x1133a, 0x1133a),
   (0x11345, 0x11346), (0x11349, 0x1134a), (0x1134e, 0x1134f), (0x11351, 0x11356),
   (0x11358, 0x1135c), (0x11364, 0x11365), (0x1136d, 0x1136f), (0x11375, 0x1137f),
   (0x1138a, 0x1138a), (0x1138c, 0x1138d), (0x1138f, 0x1138f), (0x113b6, 0x113b6),
   (0x113c1, 0x113c1), (0x113c3, 0x113c4), (0x113c6, 0x113c6), (0x113cb, 0x113cb),
   (0x113d6, 0x113d6), (0x113d9, 0x113e0), (0x113e3, 0x113ff), (0x1145c, 0x1145c),
   (0x11462, 0x1147f), (0x114c8, 0x114cf), (0x114da, 0x1157f), (0x115b6, 0x115b7),
   (0x115de, 0x115ff), (0x11645, 0x1164f), (0x1165a, 0x1165f), (0x1166d, 0x1167f),
   (0x116ba, 0x116bf), (0x116ca, 0x116cf), (0x116e4, 0x116ff), (0x1171b, 0x1171c),
   (0x1172c, 0x1172f), (0x11747, 0x117ff), (0x1183c, 0x1189f), (0x118f3, 0x118fe),
   (0x11907, 0x11908), (0x1190a, 0x1190b), (0x11914, 0x11914), (0x11917, 0x11917),
   (0x11936, 0x11936), (0x11939, 0x1193a), (0x11947, 0x1194f), (0x1195a, 0x1199f),
   (0x119a8, 0x119a9), (0x119d8, 0x119d9), (0x119e5, 0x119ff), (0x11a48, 0x11a4f),
   (0x11aa3, 0x11aaf), (0x11af9, 0x11aff), (0x11b0a, 0x11b5f), (0x11b68, 0x11bbf),
   (0x11be2, 0x11bef), (0x11bfa, 0x11bff), (0x11c09, 0x11c09), (0x11c37, 0x11c37),
   (0x11c46, 0x11c4f), (0x11c6d, 0x11c6f), (0x11c90, 0x11c91), (0x11ca8, 0x11ca8),
   (0x11cb7, 0x11cff), (0x11d07, 0x11d07), (0x11d0a, 0x11d0a), (0x11d37, 0x11d39),
   (0x11d3b, 0x11d3b), (0x11d3e, 0x11d3e), (0x11d48, 0x11d4f), (0x11d5a, 0x11d5f),
   (0x11d66, 0x11d66), (0x11d69, 0x11d69), (0x11d8f, 0x11d8f), (0x11d92, 0x11d92),
   (0x11d99, 0x11d9f), (0x11daa, 0x11daf), (0x11ddc, 0x11ddf), (0x11dea, 0x11edf),
   (0x11ef9, 0x11eff), (0x11f11, 0x11f11), (0x11f3b, 0x11f3d), (0x11f5b, 0x11faf),
   (0x11fb1, 0x11fbf), (0x11ff2, 0x11ffe), (0x1239a, 0x123ff), (0x1246f, 0x1246f),
   (0x12475, 0x1247f), (0x12544, 0x12f8f), (0x12ff3, 0x12fff), (0x13430, 0x1343f),
   (0x13456, 0x1345f), (0x143fb, 0x143ff), (0x14647, 0x160ff), (0x1613a, 0x167ff),
   (0x16a39, 0x16a3f), (0x16a5f, 0x16a5f), (0x16a6a, 0x16a6d), (0x16abf, 0x16abf),
   (0x16aca, 0x16acf), (0x16aee, 0x16aef), (0x16af6, 0x16aff), (0x16b46, 0x16b4f),
   (0x16b5a, 0x16b5a), (0x16b62, 0x16b62), (0x16b78, 0x16b7c), (0x16b90, 0x16d3f),
   (0x16d7a, 0x16e3f), (0x16e9b, 0x16eba), (0x16ed4, 0x16eff), (0x16f4b, 0x16f4e),
   (0x16f88, 0x16f8e), (0x16fa0, 0x16fdf), (0x16fe5, 0x16fef), (0x16ff7, 0x16fff),
   (0x18cd6, 0x18cfe), (0x18d1f, 0x18d7f), (0x18df3, 0x1afef), (0x1aff4, 0x1aff4),
   (0x1affc, 0x1affc), (0x1afff, 0x1afff), (0x1b123, 0x1b131), (0x1b133, 0x1b14f),
   (0x1b153, 0x1b154), (0x1b156, 0x1b163), (0x1b168, 0x1b16f), (0x1b2fc, 0x1bbff),
   (0x1bc6b, 0x1bc6f), (0x1bc7d, 0x1bc7f), (0x1bc89, 0x1bc8f), (0x1bc9a, 0x1bc9b),
   (0x1bca4, 0x1cbff), (0x1ccfd, 0x1ccff), (0x1ceb4, 0x1ceb9), (0x1ced1, 0x1cedf),
   (0x1cef1, 0x1ceff), (0x1cf2e, 0x1cf2f), (0x1cf47, 0x1cf4f), (0x1cfc4, 0x1cfff),
   (0x1d0f6, 0x1d0ff), (0x1d127, 0x1d128), (0x1d1eb, 0x1d1ff), (0x1d246, 0x1d2bf),
   (0x1d2d4, 0x1d2df), (0x1d2f4, 0x1d2ff), (0x1d357, 0x1d35f), (0x1d379, 0x1d7cd),
   (0x1da8c, 0x1da9a), (0x1daa0, 0x1daa0), (0x1dab0, 0x1deff), (0x1df1f, 0x1df24),
   (0x1df2b, 0x1dfff), (0x1e007, 0x1e007), (0x1e019, 0x1e01a), (0x1e022, 0x1e022),
   (0x1e025, 0x1e025), (0x1e02b, 0x1e08e), (0x1e090, 0x1e0ff), (0x1e12d, 0x1e12f),
   (0x1e13e, 0x1e13f), (0x1e14a, 0x1e14d), (0x1e150, 0x1e28f), (0x1e2af, 0x1e2bf),
   (0x1e2fa, 0x1e2fe), (0x1e300, 0x1e4cf), (0x1e4fa, 0x1e5cf), (0x1e5fb, 0x1e5fe),
   (0x1e600, 0x1e6bf), (0x1e6df, 0x1e6df), (0x1e6f6, 0x1e6fd), (0x1e700, 0x1e7df),
   (0x1e7e7, 0x1e7e7), (0x1e7ec, 0x1e7ec), (0x1e7ef, 0x1e7ef), (0x1e7ff, 0x1e7ff),
   (0x1e8c5, 0x1e8c6), (0x1e8d7, 0x1e8ff), (0x1e94c, 0x1e94f), (0x1e95a, 0x1e95d),
   (0x1e960, 0x1ec70), (0x1ecb5, 0x1ed00), (0x1ed3e, 0x1eeef), (0x1eef2, 0x1efff),
   (0x1f02c, 0x1f02f), (0x1f094, 0x1f09f), (0x1f0af, 0x1f0b0), (0x1f0c0, 0x1f0c0),
   (0x1f0d0, 0x1f0d0), (0x1f0f6, 0x1f100), (0x1f1ae, 0x1f1e5), (0x1f203, 0x1f25f),
   (0x1f266, 0x1f2ff), (0x1f6d9, 0x1f6db), (0x1f6ed, 0x1f6ef), (0x1f6fd, 0x1f6ff),
   (0x1f7da, 0x1f7df), (0x1f7ec, 0x1f7ef), (0x1f7f1, 0x1f7ff), (0x1f80c, 0x1f80f),
   (0x1f848, 0x1f84f), (0x1f85a, 0x1f85f), (0x1f888, 0x1f88f), (0x1f8ae, 0x1f8af),
   (0x1f8bc, 0x1f8bf), (0x1f8c2, 0x1f8cf), (0x1f8d9, 0x1f8ff), (0x1fa58, 0x1fa5f),
   (0x1fa6e, 0x1fa6f), (0x1fa7d, 0x1fa7f), (0x1fa8b, 0x1fa8d), (0x1fac7, 0x1fac7),
   (0x1fac9, 0x1facc), (0x1fadd, 0x1fade), (0x1faeb, 0x1faee), (0x1faf9, 0x1faff),
   (0x1fb93, 0x1fb93), (0x1fbfb, 0x1ffff), (0x2a6e0, 0x2a6ff), (0x2b81e, 0x2b81f),
   (0x2ceae, 0x2ceaf), (0x2ebe1, 0x2ebef), (0x2ee5e, 0x2ffff), (0x3134b, 0x3134f),
   (0x3347a, 0x10ffff)]

end ConsumerConnector.Url.Domain
