import FencedHighlight.Unicode.Derived

namespace FencedHighlight
namespace Unicode
namespace Segment

/-!
The classes of characters by which text is cut into clusters, words and
sentences, as range tables.

A class is a list of tables: a character belongs to it if an odd number of
them contains it.  Where a class is built on properties that have tables, its
own table holds where it differs from them.
-/

/-- Hangul syllables of two letters: every twenty-eighth syllable. -/
def hangulPairs : RangeTable :=
  ⟨(Array.range 399).flatMap fun pair => #[44032 + 28 * pair, 44033 + 28 * pair]⟩

def graphemeControl : RangeTable := ⟨#[
  0, 10, 11, 13, 14, 32, 127, 160, 173, 174, 1564, 1565, 6158, 6159, 8203,
  8204, 8206, 8208, 8232, 8239, 8288, 8304, 65279, 65280, 65520, 65532, 78896,
  78912, 113824, 113828, 119155, 119163, 917504, 917536, 917632, 917760,
  918000, 921600]⟩

def graphemeCR : RangeTable := ⟨#[
  13, 14]⟩

def graphemeExtend : RangeTable := ⟨#[
  127995, 128000]⟩

def graphemeL : RangeTable := ⟨#[
  4352, 4448, 43360, 43389]⟩

def graphemeLF : RangeTable := ⟨#[
  10, 11]⟩

def graphemeT : RangeTable := ⟨#[
  4520, 4608, 55243, 55292]⟩

def graphemeV : RangeTable := ⟨#[
  4448, 4520, 55216, 55239, 93539, 93540, 93543, 93547]⟩

def graphemeSpacingMark : RangeTable := ⟨#[
  2494, 2495, 2519, 2520, 2878, 2879, 2903, 2904, 3006, 3007, 3031, 3032, 3264,
  3265, 3266, 3267, 3271, 3273, 3274, 3276, 3285, 3287, 3390, 3391, 3415, 3416,
  3535, 3536, 3551, 3552, 3635, 3636, 3763, 3764, 4139, 4141, 4152, 4153, 4194,
  4197, 4199, 4206, 4227, 4228, 4231, 4237, 4239, 4240, 4250, 4253, 5909, 5910,
  5940, 5941, 6753, 6754, 6755, 6757, 6965, 6966, 6971, 6972, 6973, 6974, 6979,
  6981, 7082, 7083, 7154, 7156, 12334, 12336, 43347, 43348, 43456, 43457,
  43643, 43644, 43645, 43646, 70080, 70081, 70197, 70198, 70462, 70463, 70477,
  70478, 70487, 70488, 70584, 70585, 70594, 70595, 70597, 70598, 70599, 70602,
  70607, 70608, 70832, 70833, 70845, 70846, 71087, 71088, 71350, 71351, 71456,
  71458, 71984, 71985, 71997, 71998, 73537, 73538, 94192, 94194, 119141,
  119143, 119149, 119155]⟩

def graphemePrepend : RangeTable := ⟨#[
  1536, 1542, 1757, 1758, 1807, 1808, 2192, 2194, 2274, 2275, 3406, 3407,
  69821, 69822, 69837, 69838, 70082, 70084, 70609, 70610, 71999, 72000, 72001,
  72002, 72324, 72330, 73030, 73031, 73474, 73475]⟩

def graphemeRegionalIndicator : RangeTable := ⟨#[
  127462, 127488]⟩

def graphemeZWJ : RangeTable := ⟨#[
  8205, 8206]⟩

def wordALetter : RangeTable := ⟨#[
  184, 185, 706, 710, 722, 728, 734, 736, 741, 748, 749, 750, 751, 768, 837,
  838, 867, 880, 1370, 1373, 1374, 1375, 1418, 1419, 1456, 1470, 1471, 1472,
  1473, 1475, 1476, 1478, 1479, 1480, 1488, 1515, 1519, 1524, 1552, 1563, 1611,
  1624, 1625, 1632, 1648, 1649, 1750, 1757, 1761, 1765, 1767, 1769, 1773, 1774,
  1807, 1808, 1809, 1810, 1840, 1856, 1958, 1969, 2070, 2072, 2075, 2084, 2085,
  2088, 2089, 2093, 2199, 2200, 2260, 2272, 2275, 2282, 2288, 2308, 2362, 2364,
  2366, 2381, 2382, 2384, 2389, 2392, 2402, 2404, 2433, 2436, 2494, 2501, 2503,
  2505, 2507, 2509, 2519, 2520, 2530, 2532, 2561, 2564, 2622, 2627, 2631, 2633,
  2635, 2637, 2641, 2642, 2672, 2674, 2677, 2678, 2689, 2692, 2750, 2758, 2759,
  2762, 2763, 2765, 2786, 2788, 2810, 2813, 2817, 2820, 2878, 2885, 2887, 2889,
  2891, 2893, 2902, 2904, 2914, 2916, 2946, 2947, 3006, 3011, 3014, 3017, 3018,
  3021, 3031, 3032, 3072, 3077, 3134, 3141, 3142, 3145, 3146, 3149, 3157, 3159,
  3170, 3172, 3201, 3204, 3262, 3269, 3270, 3273, 3274, 3277, 3285, 3287, 3298,
  3300, 3315, 3316, 3328, 3332, 3390, 3397, 3398, 3401, 3402, 3405, 3415, 3416,
  3426, 3428, 3457, 3460, 3535, 3541, 3542, 3543, 3544, 3552, 3570, 3572, 3585,
  3643, 3648, 3655, 3661, 3662, 3713, 3715, 3716, 3717, 3718, 3723, 3724, 3748,
  3749, 3750, 3751, 3770, 3771, 3774, 3776, 3781, 3782, 3783, 3789, 3790, 3804,
  3808, 3953, 3972, 3981, 3992, 3993, 4029, 4096, 4151, 4152, 4153, 4155, 4160,
  4176, 4240, 4250, 4254, 5906, 5908, 5938, 5940, 5970, 5972, 6002, 6004, 6016,
  6068, 6070, 6089, 6103, 6104, 6108, 6109, 6277, 6279, 6313, 6314, 6432, 6444,
  6448, 6457, 6480, 6510, 6512, 6517, 6528, 6572, 6576, 6602, 6679, 6684, 6688,
  6751, 6753, 6773, 6823, 6824, 6847, 6849, 6860, 6863, 6912, 6917, 6965, 6980,
  7040, 7043, 7073, 7082, 7084, 7086, 7143, 7154, 7204, 7223, 7635, 7669,
  11744, 11776, 12294, 12296, 12321, 12330, 12337, 12342, 12344, 12347, 12353,
  12439, 12445, 12448, 12449, 12539, 12540, 12544, 12784, 12800, 13312, 19904,
  19968, 40960, 42612, 42620, 42654, 42656, 42760, 42775, 42784, 42786, 42889,
  42891, 43010, 43011, 43019, 43020, 43043, 43048, 43136, 43138, 43188, 43204,
  43205, 43206, 43263, 43264, 43302, 43307, 43335, 43347, 43392, 43396, 43444,
  43456, 43488, 43504, 43514, 43519, 43561, 43575, 43587, 43588, 43596, 43598,
  43616, 43639, 43642, 43711, 43712, 43713, 43714, 43715, 43739, 43742, 43755,
  43760, 43765, 43766, 43867, 43868, 44003, 44011, 63744, 64110, 64112, 64218,
  64285, 64297, 64298, 64311, 64312, 64317, 64318, 64319, 64320, 64322, 64323,
  64325, 64326, 64336, 65382, 65440, 66422, 66427, 68097, 68100, 68101, 68103,
  68108, 68112, 68900, 68904, 68969, 68970, 69291, 69293, 69372, 69373, 69632,
  69635, 69688, 69702, 69747, 69749, 69760, 69763, 69808, 69817, 69826, 69827,
  69888, 69891, 69927, 69939, 69957, 69959, 70016, 70019, 70067, 70080, 70094,
  70096, 70188, 70197, 70199, 70200, 70206, 70207, 70209, 70210, 70367, 70377,
  70400, 70404, 70462, 70469, 70471, 70473, 70475, 70477, 70487, 70488, 70498,
  70500, 70584, 70593, 70594, 70595, 70597, 70598, 70599, 70603, 70604, 70606,
  70709, 70722, 70723, 70726, 70832, 70850, 71087, 71094, 71096, 71103, 71132,
  71134, 71216, 71231, 71232, 71233, 71339, 71350, 71424, 71451, 71453, 71467,
  71488, 71495, 71724, 71737, 71984, 71990, 71991, 71993, 71995, 71997, 72000,
  72001, 72002, 72003, 72145, 72152, 72154, 72160, 72164, 72165, 72193, 72203,
  72245, 72250, 72251, 72255, 72273, 72284, 72330, 72344, 72751, 72759, 72760,
  72767, 72850, 72872, 72873, 72887, 73009, 73015, 73018, 73019, 73020, 73022,
  73023, 73026, 73027, 73028, 73031, 73032, 73098, 73103, 73104, 73106, 73107,
  73111, 73459, 73463, 73472, 73474, 73475, 73476, 73524, 73531, 73534, 73537,
  90398, 90415, 94031, 94032, 94033, 94088, 94095, 94099, 94192, 94194, 94208,
  100344, 100352, 101590, 101631, 101641, 110576, 110580, 110581, 110588,
  110589, 110591, 110592, 110883, 110898, 110899, 110928, 110931, 110933,
  110934, 110948, 110952, 110960, 111356, 113822, 113823, 122880, 122887,
  122888, 122905, 122907, 122914, 122915, 122917, 122918, 122923, 123023,
  123024, 125255, 125256, 131072, 173792, 173824, 177978, 177984, 178206,
  178208, 183970, 183984, 191457, 191472, 192094, 194560, 195102, 196608,
  201547, 201552, 205744]⟩

def wordFormat : RangeTable := ⟨#[
  1536, 1542, 1757, 1758, 1807, 1808, 2192, 2194, 2274, 2275, 8203, 8206,
  69821, 69822, 69837, 69838, 917536, 917632]⟩

def wordKatakana : RangeTable := ⟨#[
  12337, 12342, 12443, 12445, 12448, 12539, 12540, 12544, 12784, 12800, 13008,
  13055, 13056, 13144, 65382, 65438, 110576, 110580, 110581, 110588, 110589,
  110591, 110592, 110593, 110880, 110883, 110933, 110934, 110948, 110952]⟩

def wordMidLetter : RangeTable := ⟨#[
  58, 59, 183, 184, 903, 904, 1375, 1376, 1524, 1525, 8231, 8232, 65043, 65044,
  65109, 65110, 65306, 65307]⟩

def wordMidNum : RangeTable := ⟨#[
  44, 45, 59, 60, 894, 895, 1417, 1418, 1548, 1550, 1644, 1645, 2040, 2041,
  8260, 8261, 65104, 65105, 65108, 65109, 65292, 65293, 65307, 65308]⟩

def wordNumeric : RangeTable := ⟨#[
  1536, 1542, 1643, 1644, 1757, 1758, 2192, 2194, 2274, 2275, 6618, 6619,
  69821, 69822, 69837, 69838]⟩

def wordExtendNumLet : RangeTable := ⟨#[
  8239, 8240]⟩

def wordCR : RangeTable := ⟨#[
  13, 14]⟩

def wordExtend : RangeTable := ⟨#[
  2494, 2495, 2519, 2520, 2878, 2879, 2903, 2904, 3006, 3007, 3031, 3032, 3264,
  3265, 3266, 3267, 3271, 3273, 3274, 3276, 3285, 3287, 3390, 3391, 3415, 3416,
  3535, 3536, 3551, 3552, 5909, 5910, 5940, 5941, 6965, 6966, 6971, 6972, 6973,
  6974, 6979, 6981, 7082, 7083, 7154, 7156, 12334, 12336, 43347, 43348, 43456,
  43457, 70080, 70081, 70197, 70198, 70462, 70463, 70477, 70478, 70487, 70488,
  70584, 70585, 70594, 70595, 70597, 70598, 70599, 70602, 70607, 70608, 70832,
  70833, 70845, 70846, 71087, 71088, 71350, 71351, 71984, 71985, 71997, 71998,
  73537, 73538, 94192, 94194, 119141, 119143, 119149, 119155, 127995, 128000]⟩

def wordLF : RangeTable := ⟨#[
  10, 11]⟩

def wordMidNumLet : RangeTable := ⟨#[
  46, 47, 8216, 8218, 8228, 8229, 65106, 65107, 65287, 65288, 65294, 65295]⟩

def wordNewline : RangeTable := ⟨#[
  11, 13, 133, 134, 8232, 8234]⟩

def wordRegionalIndicator : RangeTable := ⟨#[
  127462, 127488]⟩

def wordHebrewLetter : RangeTable := ⟨#[
  1488, 1515, 1519, 1523, 64285, 64286, 64287, 64297, 64298, 64311, 64312,
  64317, 64318, 64319, 64320, 64322, 64323, 64325, 64326, 64336]⟩

def wordSingleQuote : RangeTable := ⟨#[
  39, 40]⟩

def wordDoubleQuote : RangeTable := ⟨#[
  34, 35]⟩

def wordZWJ : RangeTable := ⟨#[
  8205, 8206]⟩

def wordWSegSpace : RangeTable := ⟨#[
  32, 33, 5760, 5761, 8192, 8199, 8200, 8203, 8287, 8288, 12288, 12289]⟩

def sentenceATerm : RangeTable := ⟨#[
  46, 47, 8228, 8229, 65106, 65107, 65294, 65295]⟩

def sentenceClose : RangeTable := ⟨#[
  34, 35, 39, 42, 91, 92, 93, 94, 123, 124, 125, 126, 171, 172, 187, 188, 3898,
  3902, 5787, 5789, 8216, 8224, 8249, 8251, 8261, 8263, 8317, 8319, 8333, 8335,
  8968, 8972, 9001, 9003, 10075, 10081, 10088, 10102, 10181, 10183, 10214,
  10224, 10627, 10649, 10712, 10716, 10748, 10750, 11776, 11790, 11804, 11806,
  11808, 11818, 11842, 11843, 11861, 11869, 12296, 12306, 12308, 12316, 12317,
  12320, 64830, 64832, 65047, 65049, 65077, 65093, 65095, 65097, 65113, 65119,
  65288, 65290, 65339, 65340, 65341, 65342, 65371, 65372, 65373, 65374, 65375,
  65377, 65378, 65380, 128630, 128633]⟩

def sentenceFormat : RangeTable := ⟨#[
  1536, 1542, 1757, 1758, 2192, 2194, 2274, 2275, 8204, 8206, 69821, 69822,
  69837, 69838, 917536, 917632]⟩

def sentenceLower : RangeTable := ⟨#[
  837, 838, 4304, 4347, 4349, 4352]⟩

def sentenceNumeric : RangeTable := ⟨#[
  1536, 1542, 1643, 1645, 1757, 1758, 2192, 2194, 2274, 2275, 6618, 6619,
  69821, 69822, 69837, 69838]⟩

def sentenceOLetter : RangeTable := ⟨#[
  453, 454, 456, 457, 459, 460, 498, 499, 867, 880, 1456, 1470, 1471, 1472,
  1473, 1475, 1476, 1478, 1479, 1480, 1523, 1524, 1552, 1563, 1611, 1624, 1625,
  1632, 1648, 1649, 1750, 1757, 1761, 1765, 1767, 1769, 1773, 1774, 1809, 1810,
  1840, 1856, 1958, 1969, 2070, 2072, 2075, 2084, 2085, 2088, 2089, 2093, 2199,
  2200, 2260, 2272, 2275, 2282, 2288, 2308, 2362, 2364, 2366, 2381, 2382, 2384,
  2389, 2392, 2402, 2404, 2433, 2436, 2494, 2501, 2503, 2505, 2507, 2509, 2519,
  2520, 2530, 2532, 2561, 2564, 2622, 2627, 2631, 2633, 2635, 2637, 2641, 2642,
  2672, 2674, 2677, 2678, 2689, 2692, 2750, 2758, 2759, 2762, 2763, 2765, 2786,
  2788, 2810, 2813, 2817, 2820, 2878, 2885, 2887, 2889, 2891, 2893, 2902, 2904,
  2914, 2916, 2946, 2947, 3006, 3011, 3014, 3017, 3018, 3021, 3031, 3032, 3072,
  3077, 3134, 3141, 3142, 3145, 3146, 3149, 3157, 3159, 3170, 3172, 3201, 3204,
  3262, 3269, 3270, 3273, 3274, 3277, 3285, 3287, 3298, 3300, 3315, 3316, 3328,
  3332, 3390, 3397, 3398, 3401, 3402, 3405, 3415, 3416, 3426, 3428, 3457, 3460,
  3535, 3541, 3542, 3543, 3544, 3552, 3570, 3572, 3633, 3634, 3636, 3643, 3661,
  3662, 3761, 3762, 3764, 3770, 3771, 3773, 3789, 3790, 3953, 3972, 3981, 3992,
  3993, 4029, 4139, 4151, 4152, 4153, 4155, 4159, 4182, 4186, 4190, 4193, 4194,
  4197, 4199, 4206, 4209, 4213, 4226, 4238, 4239, 4240, 4250, 4254, 4304, 4347,
  4349, 4352, 5906, 5908, 5938, 5940, 5970, 5972, 6002, 6004, 6070, 6089, 6277,
  6279, 6313, 6314, 6432, 6444, 6448, 6457, 6679, 6684, 6741, 6751, 6753, 6773,
  6847, 6849, 6860, 6863, 6912, 6917, 6965, 6980, 7040, 7043, 7073, 7082, 7084,
  7086, 7143, 7154, 7204, 7223, 7312, 7355, 7357, 7360, 7635, 7669, 8072, 8080,
  8088, 8096, 8104, 8112, 8124, 8125, 8140, 8141, 8188, 8189, 11744, 11776,
  42612, 42620, 42654, 42656, 43010, 43011, 43019, 43020, 43043, 43048, 43136,
  43138, 43188, 43204, 43205, 43206, 43263, 43264, 43302, 43307, 43335, 43347,
  43392, 43396, 43444, 43456, 43493, 43494, 43561, 43575, 43587, 43588, 43596,
  43598, 43643, 43646, 43696, 43697, 43698, 43701, 43703, 43705, 43710, 43711,
  43755, 43760, 43765, 43766, 44003, 44011, 64286, 64287, 65438, 65440, 66422,
  66427, 68097, 68100, 68101, 68103, 68108, 68112, 68900, 68904, 68969, 68970,
  69291, 69293, 69372, 69373, 69632, 69635, 69688, 69702, 69747, 69749, 69760,
  69763, 69808, 69817, 69826, 69827, 69888, 69891, 69927, 69939, 69957, 69959,
  70016, 70019, 70067, 70080, 70094, 70096, 70188, 70197, 70199, 70200, 70206,
  70207, 70209, 70210, 70367, 70377, 70400, 70404, 70462, 70469, 70471, 70473,
  70475, 70477, 70487, 70488, 70498, 70500, 70584, 70593, 70594, 70595, 70597,
  70598, 70599, 70603, 70604, 70606, 70709, 70722, 70723, 70726, 70832, 70850,
  71087, 71094, 71096, 71103, 71132, 71134, 71216, 71231, 71232, 71233, 71339,
  71350, 71453, 71467, 71724, 71737, 71984, 71990, 71991, 71993, 71995, 71997,
  72000, 72001, 72002, 72003, 72145, 72152, 72154, 72160, 72164, 72165, 72193,
  72203, 72245, 72250, 72251, 72255, 72273, 72284, 72330, 72344, 72751, 72759,
  72760, 72767, 72850, 72872, 72873, 72887, 73009, 73015, 73018, 73019, 73020,
  73022, 73023, 73026, 73027, 73028, 73031, 73032, 73098, 73103, 73104, 73106,
  73107, 73111, 73459, 73463, 73472, 73474, 73475, 73476, 73524, 73531, 73534,
  73537, 90398, 90415, 94031, 94032, 94033, 94088, 94095, 94099, 94192, 94194,
  113822, 113823, 122880, 122887, 122888, 122905, 122907, 122914, 122915,
  122917, 122918, 122923, 123023, 123024, 125255, 125256]⟩

def sentenceSep : RangeTable := ⟨#[
  133, 134, 8232, 8234]⟩

def sentenceSp : RangeTable := ⟨#[
  10, 11, 13, 14, 133, 134, 8232, 8234]⟩

def sentenceSTerm : RangeTable := ⟨#[
  46, 47, 8228, 8229, 65106, 65107, 65294, 65295]⟩

def sentenceUpper : RangeTable := ⟨#[
  7312, 7355, 7357, 7360]⟩

def sentenceCR : RangeTable := ⟨#[
  13, 14]⟩

def sentenceExtend : RangeTable := ⟨#[
  2494, 2495, 2519, 2520, 2878, 2879, 2903, 2904, 3006, 3007, 3031, 3032, 3264,
  3265, 3266, 3267, 3271, 3273, 3274, 3276, 3285, 3287, 3390, 3391, 3415, 3416,
  3535, 3536, 3551, 3552, 5909, 5910, 5940, 5941, 6965, 6966, 6971, 6972, 6973,
  6974, 6979, 6981, 7082, 7083, 7154, 7156, 8205, 8206, 12334, 12336, 43347,
  43348, 43456, 43457, 70080, 70081, 70197, 70198, 70462, 70463, 70477, 70478,
  70487, 70488, 70584, 70585, 70594, 70595, 70597, 70598, 70599, 70602, 70607,
  70608, 70832, 70833, 70845, 70846, 71087, 71088, 71350, 71351, 71984, 71985,
  71997, 71998, 73537, 73538, 94192, 94194, 119141, 119143, 119149, 119155]⟩

def sentenceLF : RangeTable := ⟨#[
  10, 11]⟩

def sentenceSContinue : RangeTable := ⟨#[
  44, 46, 58, 60, 894, 895, 1373, 1374, 1548, 1550, 2040, 2041, 6146, 6147,
  6152, 6153, 8211, 8213, 12289, 12290, 65040, 65042, 65043, 65045, 65073,
  65075, 65104, 65106, 65108, 65110, 65112, 65113, 65123, 65124, 65292, 65294,
  65306, 65308, 65380, 65381]⟩

/-- The classes for clusters of characters, with their names. -/
def graphemeClasses : List (List String × List RangeTable) := [
  (["cn", "control"], [graphemeControl]),
  (["cr"], [graphemeCR]),
  (["ex", "extend"], Derived.graphemeExtend ++ [graphemeExtend]),
  (["l"], [graphemeL]),
  (["lf"], [graphemeLF]),
  (["lv"], [hangulPairs]),
  (["lvt"], [⟨#[44032, 55204]⟩, hangulPairs]),
  (["t"], [graphemeT]),
  (["v"], [graphemeV]),
  (["sm", "spacingmark"], [Category.spacingMark, graphemeSpacingMark]),
  (["pp", "prepend"], [graphemePrepend]),
  (["ri", "regionalindicator"], [graphemeRegionalIndicator]),
  (["zwj"], [graphemeZWJ])]

def wordClasses : List (List String × List RangeTable) := [
  (["le", "aletter"], Derived.alphabetic ++ [wordALetter]),
  (["fo", "format"], [Category.format, wordFormat]),
  (["ka", "katakana"], [wordKatakana]),
  (["ml", "midletter"], [wordMidLetter]),
  (["mn", "midnum"], [wordMidNum]),
  (["nu", "numeric"], [Category.decimalNumber, wordNumeric]),
  (["ex", "extendnumlet"], [Category.connectorPunctuation, wordExtendNumLet]),
  (["cr"], [wordCR]),
  (["extend"], Derived.graphemeExtend ++ [Category.spacingMark, wordExtend]),
  (["lf"], [wordLF]),
  (["mb", "midnumlet"], [wordMidNumLet]),
  (["nl", "newline"], [wordNewline]),
  (["ri", "regionalindicator"], [wordRegionalIndicator]),
  (["hl", "hebrewletter"], [wordHebrewLetter]),
  (["sq", "singlequote"], [wordSingleQuote]),
  (["dq", "doublequote"], [wordDoubleQuote]),
  (["zwj"], [wordZWJ]),
  (["wsegspace"], [wordWSegSpace])]

def sentenceClasses : List (List String × List RangeTable) := [
  (["at", "aterm"], [sentenceATerm]),
  (["cl", "close"], [sentenceClose]),
  (["fo", "format"], [Category.format, sentenceFormat]),
  (["lo", "lower"], Derived.lowercase ++ [sentenceLower]),
  (["nu", "numeric"], [Category.decimalNumber, sentenceNumeric]),
  (["le", "oletter"],
    Derived.alphabetic ++ Derived.lowercase ++ Derived.uppercase ++ [sentenceOLetter]),
  (["se", "sep"], [sentenceSep]),
  (["sp"], [Derived.whiteSpace, sentenceSp]),
  (["st", "sterm"], [Derived.sentenceTerminal, sentenceSTerm]),
  (["up", "upper"],
    Derived.uppercase ++ [Category.titlecaseLetter, sentenceUpper]),
  (["cr"], [sentenceCR]),
  (["ex", "extend"],
    Derived.graphemeExtend ++ [Category.spacingMark, sentenceExtend]),
  (["lf"], [sentenceLF]),
  (["sc", "scontinue"], [sentenceSContinue])]

end Segment
end Unicode
end FencedHighlight
