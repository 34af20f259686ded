import AlertRelay.Text.Ranges

namespace AlertRelay.Text

/-- The classes of direction. Letters run to the right, to the left, or to the left in the Arabic
manner; numbers and separators have classes of their own. -/
inductive Direction where
  | unknown
  | left
  | right
  | arabicLetter
  | arabicNumber
  | europeanNumber
  | europeanSeparator
  | commonSeparator
  | europeanTerminator
  | neutral
  | boundary
  | mark
  deriving DecidableEq, Repr

def directionSteps : Steps := ⟨#[
  45, 6, 48, 5, 97, 1, 183, 9, 223, 1, 697, 9, 699, 1, 710, 9, 720, 1, 748, 9, 750, 1, 768, 11,
  881, 1, 885, 9, 887, 1, 1155, 11, 1163, 1, 1425, 11, 1480, 0, 1488, 2, 1552, 11, 1568, 3, 1611,
  11, 1632, 4, 1646, 3, 1648, 11, 1649, 3, 1750, 11, 1765, 3, 1767, 11, 1774, 3, 1776, 5, 1786, 3,
  1809, 11, 1810, 3, 1840, 11, 1869, 3, 1958, 11, 1969, 3, 1984, 2, 2027, 11, 2036, 2, 2045, 11,
  2048, 2, 2070, 11, 2074, 2, 2075, 11, 2084, 2, 2085, 11, 2088, 2, 2089, 11, 2112, 2, 2137, 11,
  2144, 3, 2191, 0, 2200, 11, 2208, 3, 2250, 11, 2307, 1, 2362, 11, 2363, 1, 2364, 11, 2365, 1,
  2369, 11, 2377, 1, 2381, 11, 2382, 1, 2385, 11, 2400, 1, 2402, 11, 2406, 1, 2433, 11, 2434, 1,
  2492, 11, 2493, 1, 2497, 11, 2503, 1, 2509, 11, 2510, 1, 2530, 11, 2534, 1, 2558, 11, 2563, 1,
  2620, 11, 2622, 1, 2625, 11, 2652, 1, 2672, 11, 2674, 1, 2677, 11, 2691, 1, 2748, 11, 2749, 1,
  2753, 11, 2761, 1, 2765, 11, 2768, 1, 2786, 11, 2790, 1, 2810, 11, 2818, 1, 2876, 11, 2877, 1,
  2879, 11, 2880, 1, 2881, 11, 2887, 1, 2893, 11, 2899, 0, 2901, 11, 2903, 1, 2914, 11, 2918, 1,
  2946, 11, 2947, 1, 3008, 11, 3009, 1, 3021, 11, 3024, 1, 3072, 11, 3073, 1, 3076, 11, 3077, 1,
  3132, 11, 3133, 1, 3134, 11, 3137, 1, 3142, 11, 3160, 1, 3164, 0, 3165, 1, 3170, 11, 3174, 1,
  3201, 11, 3202, 1, 3260, 11, 3261, 1, 3276, 11, 3285, 1, 3292, 0, 3293, 1, 3298, 11, 3302, 1,
  3315, 0, 3328, 11, 3330, 1, 3387, 11, 3389, 1, 3393, 11, 3398, 1, 3405, 11, 3406, 1, 3426, 11,
  3430, 1, 3457, 11, 3458, 1, 3530, 11, 3535, 1, 3538, 11, 3544, 1, 3633, 11, 3634, 1, 3636, 11,
  3648, 1, 3655, 11, 3664, 1, 3761, 11, 3762, 1, 3764, 11, 3773, 1, 3784, 11, 3790, 0, 3792, 1,
  3864, 11, 3872, 1, 3893, 11, 3902, 1, 3953, 11, 3967, 1, 3968, 11, 3976, 1, 3981, 11, 4096, 1,
  4141, 11, 4145, 1, 4146, 11, 4152, 1, 4153, 11, 4155, 1, 4157, 11, 4159, 1, 4184, 11, 4186, 1,
  4190, 11, 4193, 1, 4209, 11, 4213, 1, 4226, 11, 4227, 1, 4229, 11, 4231, 1, 4237, 11, 4238, 1,
  4253, 11, 4304, 1, 4957, 11, 4992, 1, 5906, 11, 5909, 1, 5938, 11, 5940, 1, 5970, 11, 5984, 1,
  6002, 11, 6016, 1, 6071, 11, 6078, 1, 6086, 11, 6087, 1, 6089, 11, 6103, 1, 6109, 11, 6112, 1,
  6277, 11, 6279, 1, 6313, 11, 6314, 1, 6432, 11, 6435, 1, 6439, 11, 6441, 1, 6450, 11, 6451, 1,
  6457, 11, 6470, 1, 6679, 11, 6681, 1, 6683, 11, 6688, 1, 6742, 11, 6743, 1, 6744, 11, 6753, 1,
  6754, 11, 6755, 1, 6757, 11, 6765, 1, 6771, 11, 6784, 1, 6832, 11, 6863, 0, 6912, 11, 6916, 1,
  6964, 11, 6965, 1, 6966, 11, 6971, 1, 6972, 11, 6973, 1, 6978, 11, 6979, 1, 7019, 11, 7042, 1,
  7074, 11, 7078, 1, 7080, 11, 7082, 1, 7083, 11, 7086, 1, 7142, 11, 7143, 1, 7144, 11, 7146, 1,
  7149, 11, 7150, 1, 7151, 11, 7154, 1, 7212, 11, 7220, 1, 7222, 11, 7232, 1, 7306, 0, 7376, 11,
  7393, 1, 7394, 11, 7401, 1, 7405, 11, 7406, 1, 7412, 11, 7413, 1, 7416, 11, 7418, 1, 7616, 11,
  7681, 1, 8204, 10, 8335, 0, 8526, 1, 11503, 11, 11507, 1, 11647, 11, 11648, 1, 11744, 11, 11823,
  9, 12293, 1, 12330, 11, 12348, 1, 12441, 11, 12445, 1, 12539, 9, 12540, 1, 42607, 11, 42623, 9,
  42625, 1, 42654, 11, 42656, 1, 42736, 11, 42775, 9, 42787, 1, 42888, 9, 42892, 1, 42957, 0,
  42961, 1, 42971, 0, 42998, 1, 43010, 11, 43011, 1, 43014, 11, 43015, 1, 43019, 11, 43020, 1,
  43045, 11, 43047, 1, 43052, 11, 43072, 1, 43204, 11, 43216, 1, 43232, 11, 43250, 1, 43263, 11,
  43264, 1, 43302, 11, 43312, 1, 43335, 11, 43346, 1, 43392, 11, 43395, 1, 43443, 11, 43444, 1,
  43446, 11, 43450, 1, 43452, 11, 43454, 1, 43493, 11, 43494, 1, 43561, 11, 43567, 1, 43569, 11,
  43571, 1, 43573, 11, 43584, 1, 43587, 11, 43588, 1, 43596, 11, 43597, 1, 43644, 11, 43645, 1,
  43696, 11, 43697, 1, 43698, 11, 43701, 1, 43703, 11, 43705, 1, 43710, 11, 43712, 1, 43713, 11,
  43714, 1, 43756, 11, 43758, 1, 43766, 11, 43777, 1, 44005, 11, 44006, 1, 44008, 11, 44009, 1,
  44013, 11, 44016, 1, 64286, 11, 65139, 3, 65536, 1, 66045, 11, 66176, 1, 66272, 11, 66304, 1,
  66422, 11, 66432, 1, 67008, 0, 67072, 1, 67584, 2, 67904, 0, 67968, 2, 68097, 11, 68112, 2,
  68152, 11, 68192, 2, 68325, 11, 68352, 2, 68864, 3, 68900, 11, 68912, 4, 68928, 0, 69248, 2,
  69291, 11, 69296, 2, 69314, 0, 69376, 2, 69424, 3, 69446, 11, 69488, 2, 69506, 11, 69552, 2,
  69632, 1, 69633, 11, 69634, 1, 69688, 11, 69734, 1, 69744, 11, 69745, 1, 69747, 11, 69749, 1,
  69759, 11, 69762, 1, 69811, 11, 69815, 1, 69817, 11, 69840, 1, 69888, 11, 69891, 1, 69927, 11,
  69932, 1, 69933, 11, 69942, 1, 70003, 11, 70006, 1, 70016, 11, 70018, 1, 70070, 11, 70079, 1,
  70089, 11, 70094, 1, 70095, 11, 70096, 1, 70191, 11, 70194, 1, 70196, 11, 70197, 1, 70198, 11,
  70207, 0, 70272, 1, 70367, 11, 70368, 1, 70371, 11, 70384, 1, 70400, 11, 70402, 1, 70459, 11,
  70461, 1, 70464, 11, 70465, 1, 70502, 11, 70528, 0, 70656, 1, 70712, 11, 70720, 1, 70722, 11,
  70725, 1, 70726, 11, 70727, 1, 70750, 11, 70751, 1, 70835, 11, 70841, 1, 70842, 11, 70843, 1,
  70847, 11, 70849, 1, 70850, 11, 70852, 1, 71090, 11, 71096, 1, 71100, 11, 71102, 1, 71103, 11,
  71128, 1, 71132, 11, 71168, 1, 71219, 11, 71227, 1, 71229, 11, 71230, 1, 71231, 11, 71236, 1,
  71339, 11, 71340, 1, 71341, 11, 71342, 1, 71344, 11, 71350, 1, 71351, 11, 71352, 1, 71376, 0,
  71424, 1, 71453, 11, 71456, 1, 71458, 11, 71462, 1, 71463, 11, 71472, 1, 71727, 11, 71736, 1,
  71737, 11, 71872, 1, 71995, 11, 71997, 1, 71998, 11, 71999, 1, 72003, 11, 72016, 1, 72148, 11,
  72156, 1, 72160, 11, 72161, 1, 72193, 11, 72199, 1, 72201, 11, 72203, 1, 72243, 11, 72249, 1,
  72251, 11, 72272, 1, 72273, 11, 72279, 1, 72281, 11, 72284, 1, 72330, 11, 72343, 1, 72344, 11,
  72349, 1, 72544, 0, 72704, 1, 72752, 11, 72766, 1, 72850, 11, 72873, 1, 72874, 11, 72881, 1,
  72882, 11, 72884, 1, 72885, 11, 72960, 1, 73009, 11, 73030, 1, 73031, 11, 73040, 1, 73104, 11,
  73107, 1, 73109, 11, 73110, 1, 73111, 11, 73112, 1, 73136, 0, 73440, 1, 73459, 11, 73461, 1,
  73472, 0, 73648, 1, 78895, 0, 82944, 1, 90368, 0, 92160, 1, 92912, 11, 92928, 1, 92976, 11,
  92992, 1, 93504, 0, 93792, 1, 93883, 0, 93952, 1, 94031, 11, 94032, 1, 94095, 11, 94099, 1,
  94180, 11, 94192, 1, 94194, 0, 94208, 1, 100344, 0, 100352, 1, 101590, 0, 101632, 1, 101641, 0,
  110576, 1, 110898, 0, 110928, 1, 110933, 0, 110948, 1, 113821, 11, 122624, 1, 122661, 0, 122880,
  11, 123023, 0, 123136, 1, 123184, 11, 123191, 1, 123566, 11, 123584, 1, 123628, 11, 123632, 1,
  124112, 0, 124896, 1, 124928, 2, 125136, 11, 125218, 2, 125252, 11, 125259, 2, 131072, 1,
  177977, 0, 177984, 1, 178206, 0, 178208, 1, 183970, 0, 183984, 1, 191472, 0, 196608, 1, 201552,
  0]⟩

def directions : List Direction :=
  [.unknown, .left, .right, .arabicLetter, .arabicNumber, .europeanNumber, .europeanSeparator,
    .commonSeparator, .europeanTerminator, .neutral, .boundary, .mark]

def direction (n : Nat) : Direction := directions.getD (directionSteps.lookup n) .unknown

end AlertRelay.Text
