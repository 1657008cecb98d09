/-!
# Characters replaced in series

Most characters that stand for another one in a host name come in series: capital letters for small
ones, letters of a special style or width for plain ones, circled and raised digits for plain ones.
A series lists characters at equal distances, and what stands for them lies at equal distances too.
-/
namespace WarmupGate.Net.HostName

structure Series where
  /-- The first code point, their number, and the distance between them. -/
  first : Nat
  count : Nat
  step : Nat
  /-- What stands for the first one, and the distance to what stands for the next. -/
  target : Nat
  targetStep : Nat
  deriving DecidableEq, Repr

namespace Series

/-- What stands for a code point of the series. -/
def target? (s : Series) (n : Nat) : Option Nat :=
  let index := (n - s.first) / s.step
  if s.first ≤ n && (n - s.first) % s.step = 0 && index < s.count then
    some (s.target + index * s.targetStep)
  else none

end Series

def series : Array Series :=
  #[⟨0xc0, 23, 1, 0xe0, 1⟩, ⟨0xd8, 7, 1, 0xf8, 1⟩, ⟨0x100, 24, 2, 0x101, 2⟩,
    ⟨0x139, 3, 2, 0x13a, 2⟩, ⟨0x141, 4, 2, 0x142, 2⟩, ⟨0x14a, 23, 2, 0x14b, 2⟩,
    ⟨0x179, 3, 2, 0x17a, 2⟩, ⟨0x1a0, 3, 2, 0x1a1, 2⟩, ⟨0x1cd, 8, 2, 0x1ce, 2⟩,
    ⟨0x1de, 9, 2, 0x1df, 2⟩, ⟨0x1f8, 20, 2, 0x1f9, 2⟩, ⟨0x222, 9, 2, 0x223, 2⟩,
    ⟨0x246, 5, 2, 0x247, 2⟩, ⟨0x388, 3, 1, 0x3ad, 1⟩, ⟨0x391, 17, 1, 0x3b1, 1⟩,
    ⟨0x3a3, 9, 1, 0x3c3, 1⟩, ⟨0x3d8, 12, 2, 0x3d9, 2⟩, ⟨0x3fd, 3, 1, 0x37b, 1⟩,
    ⟨0x400, 16, 1, 0x450, 1⟩, ⟨0x410, 32, 1, 0x430, 1⟩, ⟨0x460, 17, 2, 0x461, 2⟩,
    ⟨0x48a, 27, 2, 0x48b, 2⟩, ⟨0x4c1, 7, 2, 0x4c2, 2⟩, ⟨0x4d0, 48, 2, 0x4d1, 2⟩,
    ⟨0x531, 38, 1, 0x561, 1⟩, ⟨0x10a0, 38, 1, 0x2d00, 1⟩, ⟨0x13f8, 6, 1, 0x13f0, 1⟩,
    ⟨0x1c90, 43, 1, 0x10d0, 1⟩, ⟨0x1cbd, 3, 1, 0x10fd, 1⟩, ⟨0x1d31, 5, 2, 0x65, 2⟩,
    ⟨0x1d34, 4, 2, 0x68, 2⟩, ⟨0x1d3e, 3, 1, 0x70, 2⟩, ⟨0x1d5d, 3, 1, 0x3b2, 1⟩,
    ⟨0x1da4, 3, 1, 0x268, 1⟩, ⟨0x1dae, 4, 1, 0x272, 1⟩, ⟨0x1dbc, 3, 1, 0x290, 1⟩,
    ⟨0x1e00, 75, 2, 0x1e01, 2⟩, ⟨0x1ea0, 48, 2, 0x1ea1, 2⟩, ⟨0x1f08, 8, 1, 0x1f00, 1⟩,
    ⟨0x1f18, 6, 1, 0x1f10, 1⟩, ⟨0x1f28, 8, 1, 0x1f20, 1⟩, ⟨0x1f38, 8, 1, 0x1f30, 1⟩,
    ⟨0x1f48, 6, 1, 0x1f40, 1⟩, ⟨0x1f59, 4, 2, 0x1f51, 2⟩, ⟨0x1f68, 8, 1, 0x1f60, 1⟩,
    ⟨0x1f71, 4, 2, 0x3ac, 1⟩, ⟨0x1f79, 3, 2, 0x3cc, 1⟩, ⟨0x2074, 6, 1, 0x34, 1⟩,
    ⟨0x2080, 10, 1, 0x30, 1⟩, ⟨0x2096, 4, 1, 0x6b, 1⟩, ⟨0x210b, 4, 1, 0x68, 0⟩,
    ⟨0x2119, 3, 1, 0x70, 1⟩, ⟨0x2135, 4, 1, 0x5d0, 1⟩, ⟨0x2460, 9, 1, 0x31, 1⟩,
    ⟨0x24b6, 26, 1, 0x61, 1⟩, ⟨0x24d0, 26, 1, 0x61, 1⟩, ⟨0x2c00, 48, 1, 0x2c30, 1⟩,
    ⟨0x2c67, 3, 2, 0x2c68, 2⟩, ⟨0x2c80, 50, 2, 0x2c81, 2⟩, ⟨0x3137, 3, 1, 0x1103, 1⟩,
    ⟨0x313a, 6, 1, 0x11b0, 1⟩, ⟨0x3141, 3, 1, 0x1106, 1⟩, ⟨0x3145, 10, 1, 0x1109, 1⟩,
    ⟨0x314f, 21, 1, 0x1161, 1⟩, ⟨0x3172, 3, 1, 0x111e, 2⟩, ⟨0x3176, 3, 1, 0x1127, 2⟩,
    ⟨0x3179, 4, 1, 0x112c, 1⟩, ⟨0x3184, 3, 1, 0x1157, 1⟩, ⟨0x3194, 3, 2, 0x4e09, 1⟩,
    ⟨0x3263, 3, 1, 0x1105, 1⟩, ⟨0x3269, 5, 1, 0x110e, 1⟩, ⟨0x32d0, 5, 1, 0x30a2, 2⟩,
    ⟨0x32d5, 12, 1, 0x30ab, 2⟩, ⟨0x32e1, 4, 1, 0x30c4, 2⟩, ⟨0x32e5, 5, 1, 0x30cb, 1⟩,
    ⟨0x32ee, 5, 1, 0x30de, 1⟩, ⟨0x32f3, 3, 1, 0x30e4, 2⟩, ⟨0x32f6, 5, 1, 0x30e9, 1⟩,
    ⟨0x32fb, 4, 1, 0x30ef, 1⟩, ⟨0xa640, 23, 2, 0xa641, 2⟩, ⟨0xa680, 14, 2, 0xa681, 2⟩,
    ⟨0xa722, 7, 2, 0xa723, 2⟩, ⟨0xa732, 31, 2, 0xa733, 2⟩, ⟨0xa77e, 5, 2, 0xa77f, 2⟩,
    ⟨0xa796, 10, 2, 0xa797, 2⟩, ⟨0xa7b4, 8, 2, 0xa7b5, 2⟩, ⟨0xa7cc, 8, 2, 0xa7cd, 2⟩,
    ⟨0xab70, 80, 1, 0x13a0, 1⟩, ⟨0xfb24, 3, 1, 0x5db, 1⟩, ⟨0xfb52, 4, 1, 0x67b, 0⟩,
    ⟨0xfb56, 4, 1, 0x67e, 0⟩, ⟨0xfb5a, 4, 1, 0x680, 0⟩, ⟨0xfb5e, 4, 1, 0x67a, 0⟩,
    ⟨0xfb62, 4, 1, 0x67f, 0⟩, ⟨0xfb66, 4, 1, 0x679, 0⟩, ⟨0xfb6a, 4, 1, 0x6a4, 0⟩,
    ⟨0xfb6e, 4, 1, 0x6a6, 0⟩, ⟨0xfb72, 4, 1, 0x684, 0⟩, ⟨0xfb76, 4, 1, 0x683, 0⟩,
    ⟨0xfb7a, 4, 1, 0x686, 0⟩, ⟨0xfb7e, 4, 1, 0x687, 0⟩, ⟨0xfb8e, 4, 1, 0x6a9, 0⟩,
    ⟨0xfb92, 4, 1, 0x6af, 0⟩, ⟨0xfb96, 4, 1, 0x6b3, 0⟩, ⟨0xfb9a, 4, 1, 0x6b1, 0⟩,
    ⟨0xfba0, 4, 1, 0x6bb, 0⟩, ⟨0xfba6, 4, 1, 0x6c1, 0⟩, ⟨0xfbaa, 4, 1, 0x6be, 0⟩,
    ⟨0xfbd3, 4, 1, 0x6ad, 0⟩, ⟨0xfbe4, 4, 1, 0x6d0, 0⟩, ⟨0xfbfc, 4, 1, 0x6cc, 0⟩,
    ⟨0xfe41, 4, 1, 0x300c, 1⟩, ⟨0xfe4d, 3, 1, 0x5f, 0⟩, ⟨0xfe80, 6, 2, 0x621, 1⟩,
    ⟨0xfe81, 5, 2, 0x622, 1⟩, ⟨0xfe8b, 3, 2, 0x626, 1⟩, ⟨0xfe8c, 3, 2, 0x626, 1⟩,
    ⟨0xfe91, 3, 2, 0x628, 1⟩, ⟨0xfe92, 3, 2, 0x628, 1⟩, ⟨0xfe99, 4, 1, 0x62b, 0⟩,
    ⟨0xfe9d, 4, 1, 0x62c, 0⟩, ⟨0xfea1, 4, 1, 0x62d, 0⟩, ⟨0xfea5, 4, 1, 0x62e, 0⟩,
    ⟨0xfea9, 5, 2, 0x62f, 1⟩, ⟨0xfeaa, 5, 2, 0x62f, 1⟩, ⟨0xfeb5, 4, 1, 0x634, 0⟩,
    ⟨0xfeb9, 4, 1, 0x635, 0⟩, ⟨0xfebd, 4, 1, 0x636, 0⟩, ⟨0xfec1, 4, 1, 0x637, 0⟩,
    ⟨0xfec5, 4, 1, 0x638, 0⟩, ⟨0xfec9, 4, 1, 0x639, 0⟩, ⟨0xfecd, 4, 1, 0x63a, 0⟩,
    ⟨0xfed1, 4, 1, 0x641, 0⟩, ⟨0xfed5, 4, 1, 0x642, 0⟩, ⟨0xfed9, 4, 1, 0x643, 0⟩,
    ⟨0xfedd, 4, 1, 0x644, 0⟩, ⟨0xfee1, 4, 1, 0x645, 0⟩, ⟨0xfee5, 4, 1, 0x646, 0⟩,
    ⟨0xfee9, 4, 1, 0x647, 0⟩, ⟨0xfeed, 3, 2, 0x648, 1⟩, ⟨0xfeee, 3, 2, 0x648, 1⟩,
    ⟨0xff01, 32, 1, 0x21, 1⟩, ⟨0xff21, 26, 1, 0x61, 1⟩, ⟨0xff3b, 36, 1, 0x5b, 1⟩,
    ⟨0xff67, 5, 1, 0x30a1, 2⟩, ⟨0xff6c, 3, 1, 0x30e3, 2⟩, ⟨0xff71, 5, 1, 0x30a2, 2⟩,
    ⟨0xff76, 12, 1, 0x30ab, 2⟩, ⟨0xff82, 4, 1, 0x30c4, 2⟩, ⟨0xff86, 5, 1, 0x30cb, 1⟩,
    ⟨0xff8f, 5, 1, 0x30de, 1⟩, ⟨0xff94, 3, 1, 0x30e4, 2⟩, ⟨0xff97, 5, 1, 0x30e9, 1⟩,
    ⟨0xffa7, 3, 1, 0x1103, 1⟩, ⟨0xffaa, 6, 1, 0x11b0, 1⟩, ⟨0xffb1, 3, 1, 0x1106, 1⟩,
    ⟨0xffb5, 10, 1, 0x1109, 1⟩, ⟨0xffc2, 6, 1, 0x1161, 1⟩, ⟨0xffca, 6, 1, 0x1167, 1⟩,
    ⟨0xffd2, 6, 1, 0x116d, 1⟩, ⟨0xffda, 3, 1, 0x1173, 1⟩, ⟨0xffe9, 4, 1, 0x2190, 1⟩,
    ⟨0x10400, 40, 1, 0x10428, 1⟩, ⟨0x104b0, 36, 1, 0x104d8, 1⟩, ⟨0x10570, 19, 2, 0x10597, 2⟩,
    ⟨0x10571, 5, 2, 0x10598, 2⟩, ⟨0x1057d, 7, 2, 0x105a4, 2⟩, ⟨0x1058d, 3, 2, 0x105b4, 2⟩,
    ⟨0x107b6, 3, 1, 0x1c0, 1⟩, ⟨0x10c80, 51, 1, 0x10cc0, 1⟩, ⟨0x10d50, 22, 1, 0x10d70, 1⟩,
    ⟨0x118a0, 32, 1, 0x118c0, 1⟩, ⟨0x16e40, 32, 1, 0x16e60, 1⟩, ⟨0x16ea0, 25, 1, 0x16ebb, 1⟩,
    ⟨0x1ccd6, 26, 1, 0x61, 1⟩, ⟨0x1ccf0, 10, 1, 0x30, 1⟩, ⟨0x1d400, 26, 1, 0x61, 1⟩,
    ⟨0x1d41a, 26, 1, 0x61, 1⟩, ⟨0x1d434, 26, 1, 0x61, 1⟩, ⟨0x1d44e, 13, 2, 0x61, 2⟩,
    ⟨0x1d44f, 3, 2, 0x62, 2⟩, ⟨0x1d457, 9, 2, 0x6a, 2⟩, ⟨0x1d468, 26, 1, 0x61, 1⟩,
    ⟨0x1d482, 26, 1, 0x61, 1⟩, ⟨0x1d4a9, 4, 1, 0x6e, 1⟩, ⟨0x1d4ae, 8, 1, 0x73, 1⟩,
    ⟨0x1d4b6, 4, 1, 0x61, 1⟩, ⟨0x1d4bb, 11, 2, 0x66, 2⟩, ⟨0x1d4be, 3, 2, 0x69, 2⟩,
    ⟨0x1d4c6, 5, 2, 0x71, 2⟩, ⟨0x1d4d0, 26, 1, 0x61, 1⟩, ⟨0x1d4ea, 26, 1, 0x61, 1⟩,
    ⟨0x1d505, 3, 2, 0x62, 2⟩, ⟨0x1d50d, 8, 1, 0x6a, 1⟩, ⟨0x1d516, 7, 1, 0x73, 1⟩,
    ⟨0x1d51e, 26, 1, 0x61, 1⟩, ⟨0x1d539, 3, 2, 0x62, 2⟩, ⟨0x1d53c, 6, 2, 0x65, 2⟩,
    ⟨0x1d54a, 7, 1, 0x73, 1⟩, ⟨0x1d552, 26, 1, 0x61, 1⟩, ⟨0x1d56c, 26, 1, 0x61, 1⟩,
    ⟨0x1d586, 26, 1, 0x61, 1⟩, ⟨0x1d5a0, 26, 1, 0x61, 1⟩, ⟨0x1d5ba, 26, 1, 0x61, 1⟩,
    ⟨0x1d5d4, 26, 1, 0x61, 1⟩, ⟨0x1d5ee, 26, 1, 0x61, 1⟩, ⟨0x1d608, 26, 1, 0x61, 1⟩,
    ⟨0x1d622, 26, 1, 0x61, 1⟩, ⟨0x1d63c, 26, 1, 0x61, 1⟩, ⟨0x1d656, 26, 1, 0x61, 1⟩,
    ⟨0x1d670, 26, 1, 0x61, 1⟩, ⟨0x1d68a, 26, 1, 0x61, 1⟩, ⟨0x1d6a8, 17, 1, 0x3b1, 1⟩,
    ⟨0x1d6ba, 7, 1, 0x3c3, 1⟩, ⟨0x1d6c2, 17, 1, 0x3b1, 1⟩, ⟨0x1d6d4, 7, 1, 0x3c3, 1⟩,
    ⟨0x1d6e2, 17, 1, 0x3b1, 1⟩, ⟨0x1d6f4, 7, 1, 0x3c3, 1⟩, ⟨0x1d6fc, 17, 1, 0x3b1, 1⟩,
    ⟨0x1d70e, 7, 1, 0x3c3, 1⟩, ⟨0x1d71c, 17, 1, 0x3b1, 1⟩, ⟨0x1d72e, 7, 1, 0x3c3, 1⟩,
    ⟨0x1d736, 17, 1, 0x3b1, 1⟩, ⟨0x1d748, 7, 1, 0x3c3, 1⟩, ⟨0x1d756, 17, 1, 0x3b1, 1⟩,
    ⟨0x1d768, 7, 1, 0x3c3, 1⟩, ⟨0x1d770, 17, 1, 0x3b1, 1⟩, ⟨0x1d782, 7, 1, 0x3c3, 1⟩,
    ⟨0x1d790, 17, 1, 0x3b1, 1⟩, ⟨0x1d7a2, 7, 1, 0x3c3, 1⟩, ⟨0x1d7aa, 17, 1, 0x3b1, 1⟩,
    ⟨0x1d7bc, 7, 1, 0x3c3, 1⟩, ⟨0x1d7ce, 10, 1, 0x30, 1⟩, ⟨0x1d7d8, 10, 1, 0x30, 1⟩,
    ⟨0x1d7e2, 10, 1, 0x30, 1⟩, ⟨0x1d7ec, 10, 1, 0x30, 1⟩, ⟨0x1d7f6, 10, 1, 0x30, 1⟩,
    ⟨0x1e030, 9, 1, 0x430, 1⟩, ⟨0x1e039, 3, 1, 0x43a, 1⟩, ⟨0x1e03c, 11, 1, 0x43e, 1⟩,
    ⟨0x1e051, 9, 1, 0x430, 1⟩, ⟨0x1e05d, 3, 1, 0x43f, 2⟩, ⟨0x1e060, 5, 1, 0x444, 1⟩,
    ⟨0x1e900, 34, 1, 0x1e922, 1⟩, ⟨0x1ee0a, 4, 1, 0x643, 1⟩, ⟨0x1ee19, 3, 1, 0x636, 2⟩,
    ⟨0x1ee2a, 4, 1, 0x643, 1⟩, ⟨0x1ee79, 3, 1, 0x636, 2⟩, ⟨0x1ee8b, 3, 1, 0x644, 1⟩,
    ⟨0x1ee99, 3, 1, 0x636, 2⟩, ⟨0x1eeab, 3, 1, 0x644, 1⟩, ⟨0x1eeb9, 3, 1, 0x636, 2⟩,
    ⟨0x1f130, 26, 1, 0x61, 1⟩, ⟨0x1fbf0, 10, 1, 0x30, 1⟩, ⟨0x2f831, 3, 1, 0x537f, 0⟩]

end WarmupGate.Net.HostName
