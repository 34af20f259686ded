import AlertRelay.Text.Ranges

namespace AlertRelay.Text

/-- Whether a character joins the one before it, the one after it, or lets both sides join
through it. -/
inductive Joining where
  | none
  | transparent
  | left
  | dual
  | right
  deriving DecidableEq, Repr

def joiningSteps : Steps := ⟨#[
  173, 1, 174, 0, 768, 1, 880, 0, 1155, 1, 1162, 0, 1425, 1, 1470, 0, 1471, 1, 1472, 0, 1473, 1,
  1475, 0, 1476, 1, 1478, 0, 1479, 1, 1480, 0, 1552, 1, 1563, 0, 1564, 1, 1565, 0, 1568, 3, 1569,
  0, 1570, 4, 1574, 3, 1575, 4, 1576, 3, 1577, 4, 1578, 3, 1583, 4, 1587, 3, 1600, 0, 1601, 3,
  1608, 4, 1609, 3, 1611, 1, 1632, 0, 1646, 3, 1648, 1, 1649, 4, 1652, 0, 1653, 4, 1656, 3, 1672,
  4, 1690, 3, 1728, 4, 1729, 3, 1731, 4, 1740, 3, 1741, 4, 1742, 3, 1743, 4, 1744, 3, 1746, 4,
  1748, 0, 1749, 4, 1750, 1, 1757, 0, 1759, 1, 1765, 0, 1767, 1, 1769, 0, 1770, 1, 1774, 4, 1776,
  0, 1786, 3, 1789, 0, 1791, 3, 1792, 0, 1807, 1, 1808, 4, 1809, 1, 1810, 3, 1813, 4, 1818, 3,
  1822, 4, 1823, 3, 1832, 4, 1833, 3, 1834, 4, 1835, 3, 1836, 4, 1837, 3, 1839, 4, 1840, 1, 1867,
  0, 1869, 4, 1870, 3, 1881, 4, 1884, 3, 1899, 4, 1901, 3, 1905, 4, 1906, 3, 1907, 4, 1909, 3,
  1912, 4, 1914, 3, 1920, 0, 1958, 1, 1969, 0, 1994, 3, 2027, 1, 2036, 0, 2045, 1, 2046, 0, 2070,
  1, 2074, 0, 2075, 1, 2084, 0, 2085, 1, 2088, 0, 2089, 1, 2094, 0, 2112, 4, 2113, 3, 2118, 4,
  2120, 3, 2121, 4, 2122, 3, 2132, 4, 2133, 3, 2134, 4, 2137, 1, 2140, 0, 2144, 3, 2145, 0, 2146,
  3, 2150, 0, 2151, 4, 2152, 3, 2153, 4, 2155, 0, 2160, 4, 2179, 0, 2182, 3, 2183, 0, 2185, 3,
  2190, 4, 2191, 3, 2192, 0, 2199, 1, 2208, 3, 2218, 4, 2221, 0, 2222, 4, 2223, 3, 2225, 4, 2227,
  3, 2233, 4, 2234, 3, 2249, 0, 2250, 1, 2274, 0, 2275, 1, 2307, 0, 2362, 1, 2363, 0, 2364, 1,
  2365, 0, 2369, 1, 2377, 0, 2381, 1, 2382, 0, 2385, 1, 2392, 0, 2402, 1, 2404, 0, 2433, 1, 2434,
  0, 2492, 1, 2493, 0, 2497, 1, 2501, 0, 2509, 1, 2510, 0, 2530, 1, 2532, 0, 2558, 1, 2559, 0,
  2561, 1, 2563, 0, 2620, 1, 2621, 0, 2625, 1, 2627, 0, 2631, 1, 2633, 0, 2635, 1, 2638, 0, 2641,
  1, 2642, 0, 2672, 1, 2674, 0, 2677, 1, 2678, 0, 2689, 1, 2691, 0, 2748, 1, 2749, 0, 2753, 1,
  2758, 0, 2759, 1, 2761, 0, 2765, 1, 2766, 0, 2786, 1, 2788, 0, 2810, 1, 2816, 0, 2817, 1, 2818,
  0, 2876, 1, 2877, 0, 2879, 1, 2880, 0, 2881, 1, 2885, 0, 2893, 1, 2894, 0, 2901, 1, 2903, 0,
  2914, 1, 2916, 0, 2946, 1, 2947, 0, 3008, 1, 3009, 0, 3021, 1, 3022, 0, 3072, 1, 3073, 0, 3076,
  1, 3077, 0, 3132, 1, 3133, 0, 3134, 1, 3137, 0, 3142, 1, 3145, 0, 3146, 1, 3150, 0, 3157, 1,
  3159, 0, 3170, 1, 3172, 0, 3201, 1, 3202, 0, 3260, 1, 3261, 0, 3263, 1, 3264, 0, 3270, 1, 3271,
  0, 3276, 1, 3278, 0, 3298, 1, 3300, 0, 3328, 1, 3330, 0, 3387, 1, 3389, 0, 3393, 1, 3397, 0,
  3405, 1, 3406, 0, 3426, 1, 3428, 0, 3457, 1, 3458, 0, 3530, 1, 3531, 0, 3538, 1, 3541, 0, 3542,
  1, 3543, 0, 3633, 1, 3634, 0, 3636, 1, 3643, 0, 3655, 1, 3663, 0, 3761, 1, 3762, 0, 3764, 1,
  3773, 0, 3784, 1, 3791, 0, 3864, 1, 3866, 0, 3893, 1, 3894, 0, 3895, 1, 3896, 0, 3897, 1, 3898,
  0, 3953, 1, 3967, 0, 3968, 1, 3973, 0, 3974, 1, 3976, 0, 3981, 1, 3992, 0, 3993, 1, 4029, 0,
  4038, 1, 4039, 0, 4141, 1, 4145, 0, 4146, 1, 4152, 0, 4153, 1, 4155, 0, 4157, 1, 4159, 0, 4184,
  1, 4186, 0, 4190, 1, 4193, 0, 4209, 1, 4213, 0, 4226, 1, 4227, 0, 4229, 1, 4231, 0, 4237, 1,
  4238, 0, 4253, 1, 4254, 0, 4957, 1, 4960, 0, 5906, 1, 5909, 0, 5938, 1, 5940, 0, 5970, 1, 5972,
  0, 6002, 1, 6004, 0, 6068, 1, 6070, 0, 6071, 1, 6078, 0, 6086, 1, 6087, 0, 6089, 1, 6100, 0,
  6109, 1, 6110, 0, 6151, 3, 6152, 0, 6155, 1, 6158, 0, 6159, 1, 6160, 0, 6176, 3, 6265, 0, 6277,
  1, 6279, 3, 6313, 1, 6314, 3, 6315, 0, 6432, 1, 6435, 0, 6439, 1, 6441, 0, 6450, 1, 6451, 0,
  6457, 1, 6460, 0, 6679, 1, 6681, 0, 6683, 1, 6684, 0, 6742, 1, 6743, 0, 6744, 1, 6751, 0, 6752,
  1, 6753, 0, 6754, 1, 6755, 0, 6757, 1, 6765, 0, 6771, 1, 6781, 0, 6783, 1, 6784, 0, 6832, 1,
  6878, 0, 6880, 1, 6892, 0, 6912, 1, 6916, 0, 6964, 1, 6965, 0, 6966, 1, 6971, 0, 6972, 1, 6973,
  0, 6978, 1, 6979, 0, 7019, 1, 7028, 0, 7040, 1, 7042, 0, 7074, 1, 7078, 0, 7080, 1, 7082, 0,
  7083, 1, 7086, 0, 7142, 1, 7143, 0, 7144, 1, 7146, 0, 7149, 1, 7150, 0, 7151, 1, 7154, 0, 7212,
  1, 7220, 0, 7222, 1, 7224, 0, 7376, 1, 7379, 0, 7380, 1, 7393, 0, 7394, 1, 7401, 0, 7405, 1,
  7406, 0, 7412, 1, 7413, 0, 7416, 1, 7418, 0, 7616, 1, 7680, 0, 8203, 1, 8204, 0, 8206, 1, 8208,
  0, 8234, 1, 8239, 0, 8288, 1, 8293, 0, 8298, 1, 8304, 0, 8400, 1, 8433, 0, 11503, 1, 11506, 0,
  11647, 1, 11648, 0, 11744, 1, 11776, 0, 12330, 1, 12334, 0, 12441, 1, 12443, 0, 42607, 1, 42611,
  0, 42612, 1, 42622, 0, 42654, 1, 42656, 0, 42736, 1, 42738, 0, 43010, 1, 43011, 0, 43014, 1,
  43015, 0, 43019, 1, 43020, 0, 43045, 1, 43047, 0, 43052, 1, 43053, 0, 43072, 3, 43122, 2, 43123,
  0, 43204, 1, 43206, 0, 43232, 1, 43250, 0, 43263, 1, 43264, 0, 43302, 1, 43310, 0, 43335, 1,
  43346, 0, 43392, 1, 43395, 0, 43443, 1, 43444, 0, 43446, 1, 43450, 0, 43452, 1, 43454, 0, 43493,
  1, 43494, 0, 43561, 1, 43567, 0, 43569, 1, 43571, 0, 43573, 1, 43575, 0, 43587, 1, 43588, 0,
  43596, 1, 43597, 0, 43644, 1, 43645, 0, 43696, 1, 43697, 0, 43698, 1, 43701, 0, 43703, 1, 43705,
  0, 43710, 1, 43712, 0, 43713, 1, 43714, 0, 43756, 1, 43758, 0, 43766, 1, 43767, 0, 44005, 1,
  44006, 0, 44008, 1, 44009, 0, 44013, 1, 44014, 0, 64286, 1, 64287, 0, 65024, 1, 65040, 0, 65056,
  1, 65072, 0, 65279, 1, 65280, 0, 65529, 1, 65532, 0, 66045, 1, 66046, 0, 66272, 1, 66273, 0,
  66422, 1, 66427, 0, 68097, 1, 68100, 0, 68101, 1, 68103, 0, 68108, 1, 68112, 0, 68152, 1, 68155,
  0, 68159, 1, 68160, 0, 68288, 3, 68293, 4, 68294, 0, 68295, 4, 68296, 0, 68297, 4, 68299, 0,
  68301, 2, 68302, 4, 68307, 3, 68311, 2, 68312, 3, 68317, 4, 68318, 3, 68321, 4, 68322, 0, 68324,
  4, 68325, 1, 68327, 0, 68331, 3, 68335, 4, 68336, 0, 68480, 3, 68481, 4, 68482, 3, 68483, 4,
  68486, 3, 68489, 4, 68490, 3, 68492, 4, 68493, 3, 68494, 4, 68496, 3, 68497, 4, 68498, 0, 68521,
  4, 68525, 3, 68527, 0, 68864, 2, 68865, 3, 68898, 4, 68899, 3, 68900, 1, 68904, 0, 68969, 1,
  68974, 0, 69291, 1, 69293, 0, 69314, 4, 69315, 3, 69317, 0, 69318, 3, 69320, 0, 69370, 1, 69376,
  0, 69424, 3, 69427, 4, 69428, 3, 69445, 0, 69446, 1, 69457, 3, 69460, 4, 69461, 0, 69488, 3,
  69492, 4, 69494, 3, 69506, 1, 69510, 0, 69552, 3, 69553, 0, 69554, 3, 69556, 4, 69559, 0, 69560,
  3, 69561, 4, 69563, 3, 69565, 4, 69566, 3, 69568, 0, 69569, 3, 69570, 4, 69572, 3, 69573, 0,
  69577, 4, 69578, 3, 69579, 2, 69580, 0, 69633, 1, 69634, 0, 69688, 1, 69703, 0, 69744, 1, 69745,
  0, 69747, 1, 69749, 0, 69759, 1, 69762, 0, 69811, 1, 69815, 0, 69817, 1, 69819, 0, 69826, 1,
  69827, 0, 69888, 1, 69891, 0, 69927, 1, 69932, 0, 69933, 1, 69941, 0, 70003, 1, 70004, 0, 70016,
  1, 70018, 0, 70070, 1, 70079, 0, 70089, 1, 70093, 0, 70095, 1, 70096, 0, 70191, 1, 70194, 0,
  70196, 1, 70197, 0, 70198, 1, 70200, 0, 70206, 1, 70207, 0, 70209, 1, 70210, 0, 70367, 1, 70368,
  0, 70371, 1, 70379, 0, 70400, 1, 70402, 0, 70459, 1, 70461, 0, 70464, 1, 70465, 0, 70502, 1,
  70509, 0, 70512, 1, 70517, 0, 70587, 1, 70593, 0, 70606, 1, 70607, 0, 70608, 1, 70609, 0, 70610,
  1, 70611, 0, 70625, 1, 70627, 0, 70712, 1, 70720, 0, 70722, 1, 70725, 0, 70726, 1, 70727, 0,
  70750, 1, 70751, 0, 70835, 1, 70841, 0, 70842, 1, 70843, 0, 70847, 1, 70849, 0, 70850, 1, 70852,
  0, 71090, 1, 71094, 0, 71100, 1, 71102, 0, 71103, 1, 71105, 0, 71132, 1, 71134, 0, 71219, 1,
  71227, 0, 71229, 1, 71230, 0, 71231, 1, 71233, 0, 71339, 1, 71340, 0, 71341, 1, 71342, 0, 71344,
  1, 71350, 0, 71351, 1, 71352, 0, 71453, 1, 71454, 0, 71455, 1, 71456, 0, 71458, 1, 71462, 0,
  71463, 1, 71468, 0, 71727, 1, 71736, 0, 71737, 1, 71739, 0, 71995, 1, 71997, 0, 71998, 1, 71999,
  0, 72003, 1, 72004, 0, 72148, 1, 72152, 0, 72154, 1, 72156, 0, 72160, 1, 72161, 0, 72193, 1,
  72203, 0, 72243, 1, 72249, 0, 72251, 1, 72255, 0, 72263, 1, 72264, 0, 72273, 1, 72279, 0, 72281,
  1, 72284, 0, 72330, 1, 72343, 0, 72344, 1, 72346, 0, 72544, 1, 72545, 0, 72546, 1, 72549, 0,
  72550, 1, 72551, 0, 72752, 1, 72759, 0, 72760, 1, 72766, 0, 72767, 1, 72768, 0, 72850, 1, 72872,
  0, 72874, 1, 72881, 0, 72882, 1, 72884, 0, 72885, 1, 72887, 0, 73009, 1, 73015, 0, 73018, 1,
  73019, 0, 73020, 1, 73022, 0, 73023, 1, 73030, 0, 73031, 1, 73032, 0, 73104, 1, 73106, 0, 73109,
  1, 73110, 0, 73111, 1, 73112, 0, 73459, 1, 73461, 0, 73472, 1, 73474, 0, 73526, 1, 73531, 0,
  73536, 1, 73537, 0, 73538, 1, 73539, 0, 73562, 1, 73563, 0, 78896, 1, 78913, 0, 78919, 1, 78934,
  0, 90398, 1, 90410, 0, 90413, 1, 90416, 0, 92912, 1, 92917, 0, 92976, 1, 92983, 0, 94031, 1,
  94032, 0, 94095, 1, 94099, 0, 94180, 1, 94181, 0, 113821, 1, 113823, 0, 113824, 1, 113828, 0,
  118528, 1, 118574, 0, 118576, 1, 118599, 0, 119143, 1, 119146, 0, 119155, 1, 119171, 0, 119173,
  1, 119180, 0, 119210, 1, 119214, 0, 119362, 1, 119365, 0, 121344, 1, 121399, 0, 121403, 1,
  121453, 0, 121461, 1, 121462, 0, 121476, 1, 121477, 0, 121499, 1, 121504, 0, 121505, 1, 121520,
  0, 122880, 1, 122887, 0, 122888, 1, 122905, 0, 122907, 1, 122914, 0, 122915, 1, 122917, 0,
  122918, 1, 122923, 0, 123023, 1, 123024, 0, 123184, 1, 123191, 0, 123566, 1, 123567, 0, 123628,
  1, 123632, 0, 124140, 1, 124144, 0, 124398, 1, 124400, 0, 124643, 1, 124644, 0, 124646, 1,
  124647, 0, 124654, 1, 124656, 0, 124661, 1, 124662, 0, 125136, 1, 125143, 0, 125184, 3, 125252,
  1, 125260, 0, 917505, 1, 917506, 0, 917536, 1, 917632, 0, 917760, 1, 918000, 0]⟩

def joining (n : Nat) : Joining :=
  [Joining.none, .transparent, .left, .dual, .right].getD (joiningSteps.lookup n) .none

end AlertRelay.Text
