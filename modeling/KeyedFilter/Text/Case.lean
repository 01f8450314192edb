import KeyedFilter.Text.CodeRange

/-!
# Letter case

Upper case, lower case and the full upper-case mapping. ASCII is decided by arithmetic; the tables
hold the Unicode properties `Uppercase` and `Lowercase` and the mapping outside ASCII. A letter may
have an upper case of several characters: `ß` has `SS`.

* `isUpperCase`, `isLowerCase`: the two classes.
* `upperCase`: the characters that stand for a character in upper case.
-/

namespace KeyedFilter.Text

/-- Characters outside ASCII with the property `Uppercase`. -/
def upperRanges : List CodeRange :=
  [
    ⟨0xc0, 0xd6, 1⟩, ⟨0xd8, 0xde, 1⟩, ⟨0x100, 0x136, 2⟩, ⟨0x139, 0x147, 2⟩, ⟨0x14a, 0x176, 2⟩,
    ⟨0x178, 0x179, 1⟩, ⟨0x17b, 0x17b, 1⟩, ⟨0x17d, 0x17d, 1⟩, ⟨0x181, 0x182, 1⟩, ⟨0x184, 0x184, 1⟩,
    ⟨0x186, 0x187, 1⟩, ⟨0x189, 0x18b, 1⟩, ⟨0x18e, 0x191, 1⟩, ⟨0x193, 0x194, 1⟩, ⟨0x196, 0x198, 1⟩,
    ⟨0x19c, 0x19d, 1⟩, ⟨0x19f, 0x1a0, 1⟩, ⟨0x1a2, 0x1a2, 1⟩, ⟨0x1a4, 0x1a4, 1⟩, ⟨0x1a6, 0x1a7, 1⟩,
    ⟨0x1a9, 0x1a9, 1⟩, ⟨0x1ac, 0x1ac, 1⟩, ⟨0x1ae, 0x1af, 1⟩, ⟨0x1b1, 0x1b3, 1⟩, ⟨0x1b5, 0x1b5, 1⟩,
    ⟨0x1b7, 0x1b8, 1⟩, ⟨0x1bc, 0x1bc, 1⟩, ⟨0x1c4, 0x1c4, 1⟩, ⟨0x1c7, 0x1c7, 1⟩, ⟨0x1ca, 0x1ca, 1⟩,
    ⟨0x1cd, 0x1db, 2⟩, ⟨0x1de, 0x1ee, 2⟩, ⟨0x1f1, 0x1f1, 1⟩, ⟨0x1f4, 0x1f4, 1⟩, ⟨0x1f6, 0x1f8, 1⟩,
    ⟨0x1fa, 0x232, 2⟩, ⟨0x23a, 0x23b, 1⟩, ⟨0x23d, 0x23e, 1⟩, ⟨0x241, 0x241, 1⟩, ⟨0x243, 0x246, 1⟩,
    ⟨0x248, 0x24e, 2⟩, ⟨0x370, 0x370, 1⟩, ⟨0x372, 0x372, 1⟩, ⟨0x376, 0x376, 1⟩, ⟨0x37f, 0x37f, 1⟩,
    ⟨0x386, 0x386, 1⟩, ⟨0x388, 0x38a, 1⟩, ⟨0x38c, 0x38c, 1⟩, ⟨0x38e, 0x38f, 1⟩, ⟨0x391, 0x3a1, 1⟩,
    ⟨0x3a3, 0x3ab, 1⟩, ⟨0x3cf, 0x3cf, 1⟩, ⟨0x3d2, 0x3d4, 1⟩, ⟨0x3d8, 0x3ee, 2⟩, ⟨0x3f4, 0x3f4, 1⟩,
    ⟨0x3f7, 0x3f7, 1⟩, ⟨0x3f9, 0x3fa, 1⟩, ⟨0x3fd, 0x42f, 1⟩, ⟨0x460, 0x480, 2⟩, ⟨0x48a, 0x4be, 2⟩,
    ⟨0x4c0, 0x4c1, 1⟩, ⟨0x4c3, 0x4cd, 2⟩, ⟨0x4d0, 0x52e, 2⟩, ⟨0x531, 0x556, 1⟩, ⟨0x10a0, 0x10c5, 1⟩,
    ⟨0x10c7, 0x10c7, 1⟩, ⟨0x10cd, 0x10cd, 1⟩, ⟨0x13a0, 0x13f5, 1⟩, ⟨0x1c89, 0x1c89, 1⟩,
    ⟨0x1c90, 0x1cba, 1⟩, ⟨0x1cbd, 0x1cbf, 1⟩, ⟨0x1e00, 0x1e94, 2⟩, ⟨0x1e9e, 0x1efe, 2⟩,
    ⟨0x1f08, 0x1f0f, 1⟩, ⟨0x1f18, 0x1f1d, 1⟩, ⟨0x1f28, 0x1f2f, 1⟩, ⟨0x1f38, 0x1f3f, 1⟩,
    ⟨0x1f48, 0x1f4d, 1⟩, ⟨0x1f59, 0x1f5f, 2⟩, ⟨0x1f68, 0x1f6f, 1⟩, ⟨0x1fb8, 0x1fbb, 1⟩,
    ⟨0x1fc8, 0x1fcb, 1⟩, ⟨0x1fd8, 0x1fdb, 1⟩, ⟨0x1fe8, 0x1fec, 1⟩, ⟨0x1ff8, 0x1ffb, 1⟩,
    ⟨0x2102, 0x2102, 1⟩, ⟨0x2107, 0x2107, 1⟩, ⟨0x210b, 0x210d, 1⟩, ⟨0x2110, 0x2112, 1⟩,
    ⟨0x2115, 0x2115, 1⟩, ⟨0x2119, 0x211d, 1⟩, ⟨0x2124, 0x2128, 2⟩, ⟨0x212a, 0x212d, 1⟩,
    ⟨0x2130, 0x2133, 1⟩, ⟨0x213e, 0x213f, 1⟩, ⟨0x2145, 0x2145, 1⟩, ⟨0x2160, 0x216f, 1⟩,
    ⟨0x2183, 0x2183, 1⟩, ⟨0x24b6, 0x24cf, 1⟩, ⟨0x2c00, 0x2c2f, 1⟩, ⟨0x2c60, 0x2c60, 1⟩,
    ⟨0x2c62, 0x2c64, 1⟩, ⟨0x2c67, 0x2c6b, 2⟩, ⟨0x2c6d, 0x2c70, 1⟩, ⟨0x2c72, 0x2c72, 1⟩,
    ⟨0x2c75, 0x2c75, 1⟩, ⟨0x2c7e, 0x2c80, 1⟩, ⟨0x2c82, 0x2ce2, 2⟩, ⟨0x2ceb, 0x2ceb, 1⟩,
    ⟨0x2ced, 0x2ced, 1⟩, ⟨0x2cf2, 0x2cf2, 1⟩, ⟨0xa640, 0xa66c, 2⟩, ⟨0xa680, 0xa69a, 2⟩,
    ⟨0xa722, 0xa72e, 2⟩, ⟨0xa732, 0xa76e, 2⟩, ⟨0xa779, 0xa779, 1⟩, ⟨0xa77b, 0xa77b, 1⟩,
    ⟨0xa77d, 0xa77e, 1⟩, ⟨0xa780, 0xa786, 2⟩, ⟨0xa78b, 0xa78b, 1⟩, ⟨0xa78d, 0xa78d, 1⟩,
    ⟨0xa790, 0xa790, 1⟩, ⟨0xa792, 0xa792, 1⟩, ⟨0xa796, 0xa7a8, 2⟩, ⟨0xa7aa, 0xa7ae, 1⟩,
    ⟨0xa7b0, 0xa7b4, 1⟩, ⟨0xa7b6, 0xa7c2, 2⟩, ⟨0xa7c4, 0xa7c7, 1⟩, ⟨0xa7c9, 0xa7c9, 1⟩,
    ⟨0xa7cb, 0xa7cc, 1⟩, ⟨0xa7ce, 0xa7dc, 2⟩, ⟨0xa7f5, 0xa7f5, 1⟩, ⟨0xff21, 0xff3a, 1⟩,
    ⟨0x10400, 0x10427, 1⟩, ⟨0x104b0, 0x104d3, 1⟩, ⟨0x10570, 0x1057a, 1⟩, ⟨0x1057c, 0x1058a, 1⟩,
    ⟨0x1058c, 0x10592, 1⟩, ⟨0x10594, 0x10595, 1⟩, ⟨0x10c80, 0x10cb2, 1⟩, ⟨0x10d50, 0x10d65, 1⟩,
    ⟨0x118a0, 0x118bf, 1⟩, ⟨0x16e40, 0x16e5f, 1⟩, ⟨0x16ea0, 0x16eb8, 1⟩, ⟨0x1d400, 0x1d419, 1⟩,
    ⟨0x1d434, 0x1d44d, 1⟩, ⟨0x1d468, 0x1d481, 1⟩, ⟨0x1d49c, 0x1d49c, 1⟩, ⟨0x1d49e, 0x1d49f, 1⟩,
    ⟨0x1d4a2, 0x1d4a2, 1⟩, ⟨0x1d4a5, 0x1d4a6, 1⟩, ⟨0x1d4a9, 0x1d4ac, 1⟩, ⟨0x1d4ae, 0x1d4b5, 1⟩,
    ⟨0x1d4d0, 0x1d4e9, 1⟩, ⟨0x1d504, 0x1d505, 1⟩, ⟨0x1d507, 0x1d50a, 1⟩, ⟨0x1d50d, 0x1d514, 1⟩,
    ⟨0x1d516, 0x1d51c, 1⟩, ⟨0x1d538, 0x1d539, 1⟩, ⟨0x1d53b, 0x1d53e, 1⟩, ⟨0x1d540, 0x1d544, 1⟩,
    ⟨0x1d546, 0x1d546, 1⟩, ⟨0x1d54a, 0x1d550, 1⟩, ⟨0x1d56c, 0x1d585, 1⟩, ⟨0x1d5a0, 0x1d5b9, 1⟩,
    ⟨0x1d5d4, 0x1d5ed, 1⟩, ⟨0x1d608, 0x1d621, 1⟩, ⟨0x1d63c, 0x1d655, 1⟩, ⟨0x1d670, 0x1d689, 1⟩,
    ⟨0x1d6a8, 0x1d6c0, 1⟩, ⟨0x1d6e2, 0x1d6fa, 1⟩, ⟨0x1d71c, 0x1d734, 1⟩, ⟨0x1d756, 0x1d76e, 1⟩,
    ⟨0x1d790, 0x1d7a8, 1⟩, ⟨0x1d7ca, 0x1d7ca, 1⟩, ⟨0x1e900, 0x1e921, 1⟩, ⟨0x1f130, 0x1f149, 1⟩,
    ⟨0x1f150, 0x1f169, 1⟩, ⟨0x1f170, 0x1f189, 1⟩]

/-- Characters outside ASCII with the property `Lowercase`. -/
def lowerRanges : List CodeRange :=
  [
    ⟨0xaa, 0xaa, 1⟩, ⟨0xb5, 0xb5, 1⟩, ⟨0xba, 0xba, 1⟩, ⟨0xdf, 0xf6, 1⟩, ⟨0xf8, 0xff, 1⟩,
    ⟨0x101, 0x135, 2⟩, ⟨0x137, 0x138, 1⟩, ⟨0x13a, 0x146, 2⟩, ⟨0x148, 0x149, 1⟩, ⟨0x14b, 0x177, 2⟩,
    ⟨0x17a, 0x17a, 1⟩, ⟨0x17c, 0x17c, 1⟩, ⟨0x17e, 0x180, 1⟩, ⟨0x183, 0x183, 1⟩, ⟨0x185, 0x185, 1⟩,
    ⟨0x188, 0x188, 1⟩, ⟨0x18c, 0x18d, 1⟩, ⟨0x192, 0x192, 1⟩, ⟨0x195, 0x195, 1⟩, ⟨0x199, 0x19b, 1⟩,
    ⟨0x19e, 0x19e, 1⟩, ⟨0x1a1, 0x1a5, 2⟩, ⟨0x1a8, 0x1a8, 1⟩, ⟨0x1aa, 0x1ab, 1⟩, ⟨0x1ad, 0x1ad, 1⟩,
    ⟨0x1b0, 0x1b0, 1⟩, ⟨0x1b4, 0x1b4, 1⟩, ⟨0x1b6, 0x1b6, 1⟩, ⟨0x1b9, 0x1ba, 1⟩, ⟨0x1bd, 0x1bf, 1⟩,
    ⟨0x1c6, 0x1c6, 1⟩, ⟨0x1c9, 0x1c9, 1⟩, ⟨0x1cc, 0x1da, 2⟩, ⟨0x1dc, 0x1dd, 1⟩, ⟨0x1df, 0x1ed, 2⟩,
    ⟨0x1ef, 0x1f0, 1⟩, ⟨0x1f3, 0x1f3, 1⟩, ⟨0x1f5, 0x1f5, 1⟩, ⟨0x1f9, 0x231, 2⟩, ⟨0x233, 0x239, 1⟩,
    ⟨0x23c, 0x23c, 1⟩, ⟨0x23f, 0x240, 1⟩, ⟨0x242, 0x242, 1⟩, ⟨0x247, 0x24d, 2⟩, ⟨0x24f, 0x293, 1⟩,
    ⟨0x296, 0x2b8, 1⟩, ⟨0x2c0, 0x2c1, 1⟩, ⟨0x2e0, 0x2e4, 1⟩, ⟨0x345, 0x345, 1⟩, ⟨0x371, 0x371, 1⟩,
    ⟨0x373, 0x373, 1⟩, ⟨0x377, 0x377, 1⟩, ⟨0x37a, 0x37d, 1⟩, ⟨0x390, 0x390, 1⟩, ⟨0x3ac, 0x3ce, 1⟩,
    ⟨0x3d0, 0x3d1, 1⟩, ⟨0x3d5, 0x3d7, 1⟩, ⟨0x3d9, 0x3ed, 2⟩, ⟨0x3ef, 0x3f3, 1⟩, ⟨0x3f5, 0x3f5, 1⟩,
    ⟨0x3f8, 0x3f8, 1⟩, ⟨0x3fb, 0x3fc, 1⟩, ⟨0x430, 0x45f, 1⟩, ⟨0x461, 0x481, 2⟩, ⟨0x48b, 0x4bf, 2⟩,
    ⟨0x4c2, 0x4cc, 2⟩, ⟨0x4ce, 0x4cf, 1⟩, ⟨0x4d1, 0x52f, 2⟩, ⟨0x560, 0x588, 1⟩, ⟨0x10d0, 0x10fa, 1⟩,
    ⟨0x10fc, 0x10ff, 1⟩, ⟨0x13f8, 0x13fd, 1⟩, ⟨0x1c80, 0x1c88, 1⟩, ⟨0x1c8a, 0x1c8a, 1⟩,
    ⟨0x1d00, 0x1dbf, 1⟩, ⟨0x1e01, 0x1e93, 2⟩, ⟨0x1e95, 0x1e9d, 1⟩, ⟨0x1e9f, 0x1efd, 2⟩,
    ⟨0x1eff, 0x1f07, 1⟩, ⟨0x1f10, 0x1f15, 1⟩, ⟨0x1f20, 0x1f27, 1⟩, ⟨0x1f30, 0x1f37, 1⟩,
    ⟨0x1f40, 0x1f45, 1⟩, ⟨0x1f50, 0x1f57, 1⟩, ⟨0x1f60, 0x1f67, 1⟩, ⟨0x1f70, 0x1f7d, 1⟩,
    ⟨0x1f80, 0x1f87, 1⟩, ⟨0x1f90, 0x1f97, 1⟩, ⟨0x1fa0, 0x1fa7, 1⟩, ⟨0x1fb0, 0x1fb4, 1⟩,
    ⟨0x1fb6, 0x1fb7, 1⟩, ⟨0x1fbe, 0x1fbe, 1⟩, ⟨0x1fc2, 0x1fc4, 1⟩, ⟨0x1fc6, 0x1fc7, 1⟩,
    ⟨0x1fd0, 0x1fd3, 1⟩, ⟨0x1fd6, 0x1fd7, 1⟩, ⟨0x1fe0, 0x1fe7, 1⟩, ⟨0x1ff2, 0x1ff4, 1⟩,
    ⟨0x1ff6, 0x1ff7, 1⟩, ⟨0x2071, 0x2071, 1⟩, ⟨0x207f, 0x207f, 1⟩, ⟨0x2090, 0x209c, 1⟩,
    ⟨0x210a, 0x210a, 1⟩, ⟨0x210e, 0x210f, 1⟩, ⟨0x2113, 0x2113, 1⟩, ⟨0x212f, 0x212f, 1⟩,
    ⟨0x2134, 0x2134, 1⟩, ⟨0x2139, 0x2139, 1⟩, ⟨0x213c, 0x213d, 1⟩, ⟨0x2146, 0x2149, 1⟩,
    ⟨0x214e, 0x214e, 1⟩, ⟨0x2170, 0x217f, 1⟩, ⟨0x2184, 0x2184, 1⟩, ⟨0x24d0, 0x24e9, 1⟩,
    ⟨0x2c30, 0x2c5f, 1⟩, ⟨0x2c61, 0x2c61, 1⟩, ⟨0x2c65, 0x2c66, 1⟩, ⟨0x2c68, 0x2c6c, 2⟩,
    ⟨0x2c71, 0x2c71, 1⟩, ⟨0x2c73, 0x2c74, 1⟩, ⟨0x2c76, 0x2c7d, 1⟩, ⟨0x2c81, 0x2ce1, 2⟩,
    ⟨0x2ce3, 0x2ce4, 1⟩, ⟨0x2cec, 0x2cec, 1⟩, ⟨0x2cee, 0x2cee, 1⟩, ⟨0x2cf3, 0x2cf3, 1⟩,
    ⟨0x2d00, 0x2d25, 1⟩, ⟨0x2d27, 0x2d27, 1⟩, ⟨0x2d2d, 0x2d2d, 1⟩, ⟨0xa641, 0xa66d, 2⟩,
    ⟨0xa681, 0xa699, 2⟩, ⟨0xa69b, 0xa69d, 1⟩, ⟨0xa723, 0xa72d, 2⟩, ⟨0xa72f, 0xa731, 1⟩,
    ⟨0xa733, 0xa76d, 2⟩, ⟨0xa76f, 0xa778, 1⟩, ⟨0xa77a, 0xa77a, 1⟩, ⟨0xa77c, 0xa77c, 1⟩,
    ⟨0xa77f, 0xa787, 2⟩, ⟨0xa78c, 0xa78c, 1⟩, ⟨0xa78e, 0xa78e, 1⟩, ⟨0xa791, 0xa791, 1⟩,
    ⟨0xa793, 0xa795, 1⟩, ⟨0xa797, 0xa7a9, 2⟩, ⟨0xa7af, 0xa7af, 1⟩, ⟨0xa7b5, 0xa7c3, 2⟩,
    ⟨0xa7c8, 0xa7c8, 1⟩, ⟨0xa7ca, 0xa7ca, 1⟩, ⟨0xa7cd, 0xa7db, 2⟩, ⟨0xa7f1, 0xa7f4, 1⟩,
    ⟨0xa7f6, 0xa7f6, 1⟩, ⟨0xa7f8, 0xa7fa, 1⟩, ⟨0xab30, 0xab5a, 1⟩, ⟨0xab5c, 0xab69, 1⟩,
    ⟨0xab70, 0xabbf, 1⟩, ⟨0xfb00, 0xfb06, 1⟩, ⟨0xfb13, 0xfb17, 1⟩, ⟨0xff41, 0xff5a, 1⟩,
    ⟨0x10428, 0x1044f, 1⟩, ⟨0x104d8, 0x104fb, 1⟩, ⟨0x10597, 0x105a1, 1⟩, ⟨0x105a3, 0x105b1, 1⟩,
    ⟨0x105b3, 0x105b9, 1⟩, ⟨0x105bb, 0x105bc, 1⟩, ⟨0x10780, 0x10780, 1⟩, ⟨0x10783, 0x10785, 1⟩,
    ⟨0x10787, 0x107b0, 1⟩, ⟨0x107b2, 0x107ba, 1⟩, ⟨0x10cc0, 0x10cf2, 1⟩, ⟨0x10d70, 0x10d85, 1⟩,
    ⟨0x118c0, 0x118df, 1⟩, ⟨0x16e60, 0x16e7f, 1⟩, ⟨0x16ebb, 0x16ed3, 1⟩, ⟨0x1d41a, 0x1d433, 1⟩,
    ⟨0x1d44e, 0x1d454, 1⟩, ⟨0x1d456, 0x1d467, 1⟩, ⟨0x1d482, 0x1d49b, 1⟩, ⟨0x1d4b6, 0x1d4b9, 1⟩,
    ⟨0x1d4bb, 0x1d4bb, 1⟩, ⟨0x1d4bd, 0x1d4c3, 1⟩, ⟨0x1d4c5, 0x1d4cf, 1⟩, ⟨0x1d4ea, 0x1d503, 1⟩,
    ⟨0x1d51e, 0x1d537, 1⟩, ⟨0x1d552, 0x1d56b, 1⟩, ⟨0x1d586, 0x1d59f, 1⟩, ⟨0x1d5ba, 0x1d5d3, 1⟩,
    ⟨0x1d5ee, 0x1d607, 1⟩, ⟨0x1d622, 0x1d63b, 1⟩, ⟨0x1d656, 0x1d66f, 1⟩, ⟨0x1d68a, 0x1d6a5, 1⟩,
    ⟨0x1d6c2, 0x1d6da, 1⟩, ⟨0x1d6dc, 0x1d6e1, 1⟩, ⟨0x1d6fc, 0x1d714, 1⟩, ⟨0x1d716, 0x1d71b, 1⟩,
    ⟨0x1d736, 0x1d74e, 1⟩, ⟨0x1d750, 0x1d755, 1⟩, ⟨0x1d770, 0x1d788, 1⟩, ⟨0x1d78a, 0x1d78f, 1⟩,
    ⟨0x1d7aa, 0x1d7c2, 1⟩, ⟨0x1d7c4, 0x1d7c9, 1⟩, ⟨0x1d7cb, 0x1d7cb, 1⟩, ⟨0x1df00, 0x1df09, 1⟩,
    ⟨0x1df0b, 0x1df1e, 1⟩, ⟨0x1df25, 0x1df2a, 1⟩, ⟨0x1e030, 0x1e06d, 1⟩, ⟨0x1e922, 0x1e943, 1⟩]

/-- The code points of `range`, each with its upper case `forward` above it, or `backward` below. -/
structure CaseShift where
  range : CodeRange
  forward : Nat
  backward : Nat
deriving DecidableEq, Repr

/-- Characters outside ASCII whose upper case is one other character. -/
def upperShifts : List CaseShift :=
  [
    ⟨⟨0xb5, 0xb5, 1⟩, 743, 0⟩, ⟨⟨0xe0, 0xf6, 1⟩, 0, 32⟩, ⟨⟨0xf8, 0xfe, 1⟩, 0, 32⟩,
    ⟨⟨0xff, 0xff, 1⟩, 121, 0⟩, ⟨⟨0x101, 0x12f, 2⟩, 0, 1⟩, ⟨⟨0x131, 0x131, 1⟩, 0, 232⟩,
    ⟨⟨0x133, 0x137, 2⟩, 0, 1⟩, ⟨⟨0x13a, 0x148, 2⟩, 0, 1⟩, ⟨⟨0x14b, 0x177, 2⟩, 0, 1⟩,
    ⟨⟨0x17a, 0x17e, 2⟩, 0, 1⟩, ⟨⟨0x17f, 0x17f, 1⟩, 0, 300⟩, ⟨⟨0x180, 0x180, 1⟩, 195, 0⟩,
    ⟨⟨0x183, 0x185, 2⟩, 0, 1⟩, ⟨⟨0x188, 0x188, 1⟩, 0, 1⟩, ⟨⟨0x18c, 0x18c, 1⟩, 0, 1⟩,
    ⟨⟨0x192, 0x192, 1⟩, 0, 1⟩, ⟨⟨0x195, 0x195, 1⟩, 97, 0⟩, ⟨⟨0x199, 0x199, 1⟩, 0, 1⟩,
    ⟨⟨0x19a, 0x19a, 1⟩, 163, 0⟩, ⟨⟨0x19b, 0x19b, 1⟩, 42561, 0⟩, ⟨⟨0x19e, 0x19e, 1⟩, 130, 0⟩,
    ⟨⟨0x1a1, 0x1a5, 2⟩, 0, 1⟩, ⟨⟨0x1a8, 0x1a8, 1⟩, 0, 1⟩, ⟨⟨0x1ad, 0x1ad, 1⟩, 0, 1⟩,
    ⟨⟨0x1b0, 0x1b0, 1⟩, 0, 1⟩, ⟨⟨0x1b4, 0x1b6, 2⟩, 0, 1⟩, ⟨⟨0x1b9, 0x1b9, 1⟩, 0, 1⟩,
    ⟨⟨0x1bd, 0x1bd, 1⟩, 0, 1⟩, ⟨⟨0x1bf, 0x1bf, 1⟩, 56, 0⟩, ⟨⟨0x1c5, 0x1c5, 1⟩, 0, 1⟩,
    ⟨⟨0x1c6, 0x1c6, 1⟩, 0, 2⟩, ⟨⟨0x1c8, 0x1c8, 1⟩, 0, 1⟩, ⟨⟨0x1c9, 0x1c9, 1⟩, 0, 2⟩,
    ⟨⟨0x1cb, 0x1cb, 1⟩, 0, 1⟩, ⟨⟨0x1cc, 0x1cc, 1⟩, 0, 2⟩, ⟨⟨0x1ce, 0x1dc, 2⟩, 0, 1⟩,
    ⟨⟨0x1dd, 0x1dd, 1⟩, 0, 79⟩, ⟨⟨0x1df, 0x1ef, 2⟩, 0, 1⟩, ⟨⟨0x1f2, 0x1f2, 1⟩, 0, 1⟩,
    ⟨⟨0x1f3, 0x1f3, 1⟩, 0, 2⟩, ⟨⟨0x1f5, 0x1f5, 1⟩, 0, 1⟩, ⟨⟨0x1f9, 0x21f, 2⟩, 0, 1⟩,
    ⟨⟨0x223, 0x233, 2⟩, 0, 1⟩, ⟨⟨0x23c, 0x23c, 1⟩, 0, 1⟩, ⟨⟨0x23f, 0x240, 1⟩, 10815, 0⟩,
    ⟨⟨0x242, 0x242, 1⟩, 0, 1⟩, ⟨⟨0x247, 0x24f, 2⟩, 0, 1⟩, ⟨⟨0x250, 0x250, 1⟩, 10783, 0⟩,
    ⟨⟨0x251, 0x251, 1⟩, 10780, 0⟩, ⟨⟨0x252, 0x252, 1⟩, 10782, 0⟩, ⟨⟨0x253, 0x253, 1⟩, 0, 210⟩,
    ⟨⟨0x254, 0x254, 1⟩, 0, 206⟩, ⟨⟨0x256, 0x257, 1⟩, 0, 205⟩, ⟨⟨0x259, 0x259, 1⟩, 0, 202⟩,
    ⟨⟨0x25b, 0x25b, 1⟩, 0, 203⟩, ⟨⟨0x25c, 0x25c, 1⟩, 42319, 0⟩, ⟨⟨0x260, 0x260, 1⟩, 0, 205⟩,
    ⟨⟨0x261, 0x261, 1⟩, 42315, 0⟩, ⟨⟨0x263, 0x263, 1⟩, 0, 207⟩, ⟨⟨0x264, 0x264, 1⟩, 42343, 0⟩,
    ⟨⟨0x265, 0x265, 1⟩, 42280, 0⟩, ⟨⟨0x266, 0x266, 1⟩, 42308, 0⟩, ⟨⟨0x268, 0x268, 1⟩, 0, 209⟩,
    ⟨⟨0x269, 0x269, 1⟩, 0, 211⟩, ⟨⟨0x26a, 0x26a, 1⟩, 42308, 0⟩, ⟨⟨0x26b, 0x26b, 1⟩, 10743, 0⟩,
    ⟨⟨0x26c, 0x26c, 1⟩, 42305, 0⟩, ⟨⟨0x26f, 0x26f, 1⟩, 0, 211⟩, ⟨⟨0x271, 0x271, 1⟩, 10749, 0⟩,
    ⟨⟨0x272, 0x272, 1⟩, 0, 213⟩, ⟨⟨0x275, 0x275, 1⟩, 0, 214⟩, ⟨⟨0x27d, 0x27d, 1⟩, 10727, 0⟩,
    ⟨⟨0x280, 0x280, 1⟩, 0, 218⟩, ⟨⟨0x282, 0x282, 1⟩, 42307, 0⟩, ⟨⟨0x283, 0x283, 1⟩, 0, 218⟩,
    ⟨⟨0x287, 0x287, 1⟩, 42282, 0⟩, ⟨⟨0x288, 0x288, 1⟩, 0, 218⟩, ⟨⟨0x289, 0x289, 1⟩, 0, 69⟩,
    ⟨⟨0x28a, 0x28b, 1⟩, 0, 217⟩, ⟨⟨0x28c, 0x28c, 1⟩, 0, 71⟩, ⟨⟨0x292, 0x292, 1⟩, 0, 219⟩,
    ⟨⟨0x29d, 0x29d, 1⟩, 42261, 0⟩, ⟨⟨0x29e, 0x29e, 1⟩, 42258, 0⟩, ⟨⟨0x345, 0x345, 1⟩, 84, 0⟩,
    ⟨⟨0x371, 0x373, 2⟩, 0, 1⟩, ⟨⟨0x377, 0x377, 1⟩, 0, 1⟩, ⟨⟨0x37b, 0x37d, 1⟩, 130, 0⟩,
    ⟨⟨0x3ac, 0x3ac, 1⟩, 0, 38⟩, ⟨⟨0x3ad, 0x3af, 1⟩, 0, 37⟩, ⟨⟨0x3b1, 0x3c1, 1⟩, 0, 32⟩,
    ⟨⟨0x3c2, 0x3c2, 1⟩, 0, 31⟩, ⟨⟨0x3c3, 0x3cb, 1⟩, 0, 32⟩, ⟨⟨0x3cc, 0x3cc, 1⟩, 0, 64⟩,
    ⟨⟨0x3cd, 0x3ce, 1⟩, 0, 63⟩, ⟨⟨0x3d0, 0x3d0, 1⟩, 0, 62⟩, ⟨⟨0x3d1, 0x3d1, 1⟩, 0, 57⟩,
    ⟨⟨0x3d5, 0x3d5, 1⟩, 0, 47⟩, ⟨⟨0x3d6, 0x3d6, 1⟩, 0, 54⟩, ⟨⟨0x3d7, 0x3d7, 1⟩, 0, 8⟩,
    ⟨⟨0x3d9, 0x3ef, 2⟩, 0, 1⟩, ⟨⟨0x3f0, 0x3f0, 1⟩, 0, 86⟩, ⟨⟨0x3f1, 0x3f1, 1⟩, 0, 80⟩,
    ⟨⟨0x3f2, 0x3f2, 1⟩, 7, 0⟩, ⟨⟨0x3f3, 0x3f3, 1⟩, 0, 116⟩, ⟨⟨0x3f5, 0x3f5, 1⟩, 0, 96⟩,
    ⟨⟨0x3f8, 0x3f8, 1⟩, 0, 1⟩, ⟨⟨0x3fb, 0x3fb, 1⟩, 0, 1⟩, ⟨⟨0x430, 0x44f, 1⟩, 0, 32⟩,
    ⟨⟨0x450, 0x45f, 1⟩, 0, 80⟩, ⟨⟨0x461, 0x481, 2⟩, 0, 1⟩, ⟨⟨0x48b, 0x4bf, 2⟩, 0, 1⟩,
    ⟨⟨0x4c2, 0x4ce, 2⟩, 0, 1⟩, ⟨⟨0x4cf, 0x4cf, 1⟩, 0, 15⟩, ⟨⟨0x4d1, 0x52f, 2⟩, 0, 1⟩,
    ⟨⟨0x561, 0x586, 1⟩, 0, 48⟩, ⟨⟨0x10d0, 0x10fa, 1⟩, 3008, 0⟩, ⟨⟨0x10fd, 0x10ff, 1⟩, 3008, 0⟩,
    ⟨⟨0x13f8, 0x13fd, 1⟩, 0, 8⟩, ⟨⟨0x1c80, 0x1c80, 1⟩, 0, 6254⟩, ⟨⟨0x1c81, 0x1c81, 1⟩, 0, 6253⟩,
    ⟨⟨0x1c82, 0x1c82, 1⟩, 0, 6244⟩, ⟨⟨0x1c83, 0x1c84, 1⟩, 0, 6242⟩, ⟨⟨0x1c85, 0x1c85, 1⟩, 0, 6243⟩,
    ⟨⟨0x1c86, 0x1c86, 1⟩, 0, 6236⟩, ⟨⟨0x1c87, 0x1c87, 1⟩, 0, 6181⟩, ⟨⟨0x1c88, 0x1c88, 1⟩, 35266, 0⟩,
    ⟨⟨0x1c8a, 0x1c8a, 1⟩, 0, 1⟩, ⟨⟨0x1d79, 0x1d79, 1⟩, 35332, 0⟩, ⟨⟨0x1d7d, 0x1d7d, 1⟩, 3814, 0⟩,
    ⟨⟨0x1d8e, 0x1d8e, 1⟩, 35384, 0⟩, ⟨⟨0x1e01, 0x1e95, 2⟩, 0, 1⟩, ⟨⟨0x1e9b, 0x1e9b, 1⟩, 0, 59⟩,
    ⟨⟨0x1ea1, 0x1eff, 2⟩, 0, 1⟩, ⟨⟨0x1f00, 0x1f07, 1⟩, 8, 0⟩, ⟨⟨0x1f10, 0x1f15, 1⟩, 8, 0⟩,
    ⟨⟨0x1f20, 0x1f27, 1⟩, 8, 0⟩, ⟨⟨0x1f30, 0x1f37, 1⟩, 8, 0⟩, ⟨⟨0x1f40, 0x1f45, 1⟩, 8, 0⟩,
    ⟨⟨0x1f51, 0x1f57, 2⟩, 8, 0⟩, ⟨⟨0x1f60, 0x1f67, 1⟩, 8, 0⟩, ⟨⟨0x1f70, 0x1f71, 1⟩, 74, 0⟩,
    ⟨⟨0x1f72, 0x1f75, 1⟩, 86, 0⟩, ⟨⟨0x1f76, 0x1f77, 1⟩, 100, 0⟩, ⟨⟨0x1f78, 0x1f79, 1⟩, 128, 0⟩,
    ⟨⟨0x1f7a, 0x1f7b, 1⟩, 112, 0⟩, ⟨⟨0x1f7c, 0x1f7d, 1⟩, 126, 0⟩, ⟨⟨0x1fb0, 0x1fb1, 1⟩, 8, 0⟩,
    ⟨⟨0x1fbe, 0x1fbe, 1⟩, 0, 7205⟩, ⟨⟨0x1fd0, 0x1fd1, 1⟩, 8, 0⟩, ⟨⟨0x1fe0, 0x1fe1, 1⟩, 8, 0⟩,
    ⟨⟨0x1fe5, 0x1fe5, 1⟩, 7, 0⟩, ⟨⟨0x214e, 0x214e, 1⟩, 0, 28⟩, ⟨⟨0x2170, 0x217f, 1⟩, 0, 16⟩,
    ⟨⟨0x2184, 0x2184, 1⟩, 0, 1⟩, ⟨⟨0x24d0, 0x24e9, 1⟩, 0, 26⟩, ⟨⟨0x2c30, 0x2c5f, 1⟩, 0, 48⟩,
    ⟨⟨0x2c61, 0x2c61, 1⟩, 0, 1⟩, ⟨⟨0x2c65, 0x2c65, 1⟩, 0, 10795⟩, ⟨⟨0x2c66, 0x2c66, 1⟩, 0, 10792⟩,
    ⟨⟨0x2c68, 0x2c6c, 2⟩, 0, 1⟩, ⟨⟨0x2c73, 0x2c73, 1⟩, 0, 1⟩, ⟨⟨0x2c76, 0x2c76, 1⟩, 0, 1⟩,
    ⟨⟨0x2c81, 0x2ce3, 2⟩, 0, 1⟩, ⟨⟨0x2cec, 0x2cee, 2⟩, 0, 1⟩, ⟨⟨0x2cf3, 0x2cf3, 1⟩, 0, 1⟩,
    ⟨⟨0x2d00, 0x2d25, 1⟩, 0, 7264⟩, ⟨⟨0x2d27, 0x2d27, 1⟩, 0, 7264⟩, ⟨⟨0x2d2d, 0x2d2d, 1⟩, 0, 7264⟩,
    ⟨⟨0xa641, 0xa66d, 2⟩, 0, 1⟩, ⟨⟨0xa681, 0xa69b, 2⟩, 0, 1⟩, ⟨⟨0xa723, 0xa72f, 2⟩, 0, 1⟩,
    ⟨⟨0xa733, 0xa76f, 2⟩, 0, 1⟩, ⟨⟨0xa77a, 0xa77c, 2⟩, 0, 1⟩, ⟨⟨0xa77f, 0xa787, 2⟩, 0, 1⟩,
    ⟨⟨0xa78c, 0xa78c, 1⟩, 0, 1⟩, ⟨⟨0xa791, 0xa793, 2⟩, 0, 1⟩, ⟨⟨0xa794, 0xa794, 1⟩, 48, 0⟩,
    ⟨⟨0xa797, 0xa7a9, 2⟩, 0, 1⟩, ⟨⟨0xa7b5, 0xa7c3, 2⟩, 0, 1⟩, ⟨⟨0xa7c8, 0xa7ca, 2⟩, 0, 1⟩,
    ⟨⟨0xa7cd, 0xa7db, 2⟩, 0, 1⟩, ⟨⟨0xa7f6, 0xa7f6, 1⟩, 0, 1⟩, ⟨⟨0xab53, 0xab53, 1⟩, 0, 928⟩,
    ⟨⟨0xab70, 0xabbf, 1⟩, 0, 38864⟩, ⟨⟨0xff41, 0xff5a, 1⟩, 0, 32⟩, ⟨⟨0x10428, 0x1044f, 1⟩, 0, 40⟩,
    ⟨⟨0x104d8, 0x104fb, 1⟩, 0, 40⟩, ⟨⟨0x10597, 0x105a1, 1⟩, 0, 39⟩, ⟨⟨0x105a3, 0x105b1, 1⟩, 0, 39⟩,
    ⟨⟨0x105b3, 0x105b9, 1⟩, 0, 39⟩, ⟨⟨0x105bb, 0x105bc, 1⟩, 0, 39⟩, ⟨⟨0x10cc0, 0x10cf2, 1⟩, 0, 64⟩,
    ⟨⟨0x10d70, 0x10d85, 1⟩, 0, 32⟩, ⟨⟨0x118c0, 0x118df, 1⟩, 0, 32⟩, ⟨⟨0x16e60, 0x16e7f, 1⟩, 0, 32⟩,
    ⟨⟨0x16ebb, 0x16ed3, 1⟩, 0, 27⟩, ⟨⟨0x1e922, 0x1e943, 1⟩, 0, 34⟩]

/-- Characters outside ASCII whose upper case is several characters. -/
def upperExpansions : List (Nat × List Nat) :=
  [
    (0xdf, [0x53, 0x53]), (0x149, [0x2bc, 0x4e]), (0x1f0, [0x4a, 0x30c]),
    (0x390, [0x399, 0x308, 0x301]), (0x3b0, [0x3a5, 0x308, 0x301]), (0x587, [0x535, 0x552]),
    (0x1e96, [0x48, 0x331]), (0x1e97, [0x54, 0x308]), (0x1e98, [0x57, 0x30a]),
    (0x1e99, [0x59, 0x30a]), (0x1e9a, [0x41, 0x2be]), (0x1f50, [0x3a5, 0x313]),
    (0x1f52, [0x3a5, 0x313, 0x300]), (0x1f54, [0x3a5, 0x313, 0x301]),
    (0x1f56, [0x3a5, 0x313, 0x342]), (0x1f80, [0x1f08, 0x399]), (0x1f81, [0x1f09, 0x399]),
    (0x1f82, [0x1f0a, 0x399]), (0x1f83, [0x1f0b, 0x399]), (0x1f84, [0x1f0c, 0x399]),
    (0x1f85, [0x1f0d, 0x399]), (0x1f86, [0x1f0e, 0x399]), (0x1f87, [0x1f0f, 0x399]),
    (0x1f88, [0x1f08, 0x399]), (0x1f89, [0x1f09, 0x399]), (0x1f8a, [0x1f0a, 0x399]),
    (0x1f8b, [0x1f0b, 0x399]), (0x1f8c, [0x1f0c, 0x399]), (0x1f8d, [0x1f0d, 0x399]),
    (0x1f8e, [0x1f0e, 0x399]), (0x1f8f, [0x1f0f, 0x399]), (0x1f90, [0x1f28, 0x399]),
    (0x1f91, [0x1f29, 0x399]), (0x1f92, [0x1f2a, 0x399]), (0x1f93, [0x1f2b, 0x399]),
    (0x1f94, [0x1f2c, 0x399]), (0x1f95, [0x1f2d, 0x399]), (0x1f96, [0x1f2e, 0x399]),
    (0x1f97, [0x1f2f, 0x399]), (0x1f98, [0x1f28, 0x399]), (0x1f99, [0x1f29, 0x399]),
    (0x1f9a, [0x1f2a, 0x399]), (0x1f9b, [0x1f2b, 0x399]), (0x1f9c, [0x1f2c, 0x399]),
    (0x1f9d, [0x1f2d, 0x399]), (0x1f9e, [0x1f2e, 0x399]), (0x1f9f, [0x1f2f, 0x399]),
    (0x1fa0, [0x1f68, 0x399]), (0x1fa1, [0x1f69, 0x399]), (0x1fa2, [0x1f6a, 0x399]),
    (0x1fa3, [0x1f6b, 0x399]), (0x1fa4, [0x1f6c, 0x399]), (0x1fa5, [0x1f6d, 0x399]),
    (0x1fa6, [0x1f6e, 0x399]), (0x1fa7, [0x1f6f, 0x399]), (0x1fa8, [0x1f68, 0x399]),
    (0x1fa9, [0x1f69, 0x399]), (0x1faa, [0x1f6a, 0x399]), (0x1fab, [0x1f6b, 0x399]),
    (0x1fac, [0x1f6c, 0x399]), (0x1fad, [0x1f6d, 0x399]), (0x1fae, [0x1f6e, 0x399]),
    (0x1faf, [0x1f6f, 0x399]), (0x1fb2, [0x1fba, 0x399]), (0x1fb3, [0x391, 0x399]),
    (0x1fb4, [0x386, 0x399]), (0x1fb6, [0x391, 0x342]), (0x1fb7, [0x391, 0x342, 0x399]),
    (0x1fbc, [0x391, 0x399]), (0x1fc2, [0x1fca, 0x399]), (0x1fc3, [0x397, 0x399]),
    (0x1fc4, [0x389, 0x399]), (0x1fc6, [0x397, 0x342]), (0x1fc7, [0x397, 0x342, 0x399]),
    (0x1fcc, [0x397, 0x399]), (0x1fd2, [0x399, 0x308, 0x300]), (0x1fd3, [0x399, 0x308, 0x301]),
    (0x1fd6, [0x399, 0x342]), (0x1fd7, [0x399, 0x308, 0x342]), (0x1fe2, [0x3a5, 0x308, 0x300]),
    (0x1fe3, [0x3a5, 0x308, 0x301]), (0x1fe4, [0x3a1, 0x313]), (0x1fe6, [0x3a5, 0x342]),
    (0x1fe7, [0x3a5, 0x308, 0x342]), (0x1ff2, [0x1ffa, 0x399]), (0x1ff3, [0x3a9, 0x399]),
    (0x1ff4, [0x38f, 0x399]), (0x1ff6, [0x3a9, 0x342]), (0x1ff7, [0x3a9, 0x342, 0x399]),
    (0x1ffc, [0x3a9, 0x399]), (0xfb00, [0x46, 0x46]), (0xfb01, [0x46, 0x49]),
    (0xfb02, [0x46, 0x4c]), (0xfb03, [0x46, 0x46, 0x49]), (0xfb04, [0x46, 0x46, 0x4c]),
    (0xfb05, [0x53, 0x54]), (0xfb06, [0x53, 0x54]), (0xfb13, [0x544, 0x546]),
    (0xfb14, [0x544, 0x535]), (0xfb15, [0x544, 0x53b]), (0xfb16, [0x54e, 0x546]),
    (0xfb17, [0x544, 0x53d])]

/-- Is the character an upper-case one? -/
def isUpperCase (c : Char) : Bool :=
  if c.toNat < 0x80 then c.isUpper else inRanges upperRanges c

/-- Is the character a lower-case one? -/
def isLowerCase (c : Char) : Bool :=
  if c.toNat < 0x80 then c.isLower else inRanges lowerRanges c

/-- The upper case of a character outside ASCII. -/
def upperCaseOutsideAscii (c : Char) : List Char :=
  match upperExpansions.lookup c.toNat with
  | some codes => codes.map Char.ofNat
  | none =>
    match upperShifts.find? (·.range.holds c.toNat) with
    | some shift => [Char.ofNat (c.toNat + shift.forward - shift.backward)]
    | none => [c]

/-- The characters that stand for `c` in upper case; `c` itself when it has no other. -/
def upperCase (c : Char) : List Char :=
  if c.toNat < 0x80 then [c.toUpper] else upperCaseOutsideAscii c

end KeyedFilter.Text
