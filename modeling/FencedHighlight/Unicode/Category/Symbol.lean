import FencedHighlight.Unicode.RangeTable

namespace FencedHighlight
namespace Unicode
namespace Category

/-!
The general categories of the major class symbol, as range tables.
-/

def mathSymbol : RangeTable := ⟨#[
  43, 44, 60, 63, 124, 125, 126, 127, 172, 173, 177, 178, 215, 216, 247, 248,
  1014, 1015, 1542, 1545, 8260, 8261, 8274, 8275, 8314, 8317, 8330, 8333, 8472,
  8473, 8512, 8517, 8523, 8524, 8592, 8597, 8602, 8604, 8608, 8609, 8611, 8612,
  8614, 8615, 8622, 8623, 8654, 8656, 8658, 8659, 8660, 8661, 8692, 8960, 8992,
  8994, 9084, 9085, 9115, 9140, 9180, 9186, 9655, 9656, 9665, 9666, 9720, 9728,
  9839, 9840, 10176, 10181, 10183, 10214, 10224, 10240, 10496, 10627, 10649,
  10712, 10716, 10748, 10750, 11008, 11056, 11077, 11079, 11085, 64297, 64298,
  65122, 65123, 65124, 65127, 65291, 65292, 65308, 65311, 65372, 65373, 65374,
  65375, 65506, 65507, 65513, 65517, 69006, 69008, 120513, 120514, 120539,
  120540, 120571, 120572, 120597, 120598, 120629, 120630, 120655, 120656,
  120687, 120688, 120713, 120714, 120745, 120746, 120771, 120772, 126704,
  126706]⟩

def currencySymbol : RangeTable := ⟨#[
  36, 37, 162, 166, 1423, 1424, 1547, 1548, 2046, 2048, 2546, 2548, 2555, 2556,
  2801, 2802, 3065, 3066, 3647, 3648, 6107, 6108, 8352, 8385, 43064, 43065,
  65020, 65021, 65129, 65130, 65284, 65285, 65504, 65506, 65509, 65511, 73693,
  73697, 123647, 123648, 126128, 126129]⟩

def modifierSymbol : RangeTable := ⟨#[
  94, 95, 96, 97, 168, 169, 175, 176, 180, 181, 184, 185, 706, 710, 722, 736,
  741, 748, 749, 750, 751, 768, 885, 886, 900, 902, 2184, 2185, 8125, 8126,
  8127, 8130, 8141, 8144, 8157, 8160, 8173, 8176, 8189, 8191, 12443, 12445,
  42752, 42775, 42784, 42786, 42889, 42891, 43867, 43868, 43882, 43884, 64434,
  64451, 65342, 65343, 65344, 65345, 65507, 65508, 127995, 128000]⟩

def otherSymbol : RangeTable := ⟨#[
  166, 167, 169, 170, 174, 175, 176, 177, 1154, 1155, 1421, 1423, 1550, 1552,
  1758, 1759, 1769, 1770, 1789, 1791, 2038, 2039, 2554, 2555, 2928, 2929, 3059,
  3065, 3066, 3067, 3199, 3200, 3407, 3408, 3449, 3450, 3841, 3844, 3859, 3860,
  3861, 3864, 3866, 3872, 3892, 3893, 3894, 3895, 3896, 3897, 4030, 4038, 4039,
  4045, 4046, 4048, 4053, 4057, 4254, 4256, 5008, 5018, 5741, 5742, 6464, 6465,
  6622, 6656, 7009, 7019, 7028, 7037, 8448, 8450, 8451, 8455, 8456, 8458, 8468,
  8469, 8470, 8472, 8478, 8484, 8485, 8486, 8487, 8488, 8489, 8490, 8494, 8495,
  8506, 8508, 8522, 8523, 8524, 8526, 8527, 8528, 8586, 8588, 8597, 8602, 8604,
  8608, 8609, 8611, 8612, 8614, 8615, 8622, 8623, 8654, 8656, 8658, 8659, 8660,
  8661, 8692, 8960, 8968, 8972, 8992, 8994, 9001, 9003, 9084, 9085, 9115, 9140,
  9180, 9186, 9258, 9280, 9291, 9372, 9450, 9472, 9655, 9656, 9665, 9666, 9720,
  9728, 9839, 9840, 10088, 10132, 10176, 10240, 10496, 11008, 11056, 11077,
  11079, 11085, 11124, 11126, 11158, 11159, 11264, 11493, 11499, 11856, 11858,
  11904, 11930, 11931, 12020, 12032, 12246, 12272, 12288, 12292, 12293, 12306,
  12308, 12320, 12321, 12342, 12344, 12350, 12352, 12688, 12690, 12694, 12704,
  12736, 12774, 12783, 12784, 12800, 12831, 12842, 12872, 12880, 12881, 12896,
  12928, 12938, 12977, 12992, 13312, 19904, 19968, 42128, 42183, 43048, 43052,
  43062, 43064, 43065, 43066, 43639, 43642, 64832, 64848, 64975, 64976, 65021,
  65024, 65508, 65509, 65512, 65513, 65517, 65519, 65532, 65534, 65847, 65856,
  65913, 65930, 65932, 65935, 65936, 65949, 65952, 65953, 66000, 66045, 67703,
  67705, 68296, 68297, 71487, 71488, 73685, 73693, 73697, 73714, 92988, 92992,
  92997, 92998, 113820, 113821, 117760, 118000, 118016, 118452, 118608, 118724,
  118784, 119030, 119040, 119079, 119081, 119141, 119146, 119149, 119171,
  119173, 119180, 119210, 119214, 119275, 119296, 119362, 119365, 119366,
  119552, 119639, 120832, 121344, 121399, 121403, 121453, 121461, 121462,
  121476, 121477, 121479, 123215, 123216, 126124, 126125, 126254, 126255,
  126976, 127020, 127024, 127124, 127136, 127151, 127153, 127168, 127169,
  127184, 127185, 127222, 127245, 127406, 127462, 127491, 127504, 127548,
  127552, 127561, 127568, 127570, 127584, 127590, 127744, 127995, 128000,
  128728, 128732, 128749, 128752, 128765, 128768, 128887, 128891, 128986,
  128992, 129004, 129008, 129009, 129024, 129036, 129040, 129096, 129104,
  129114, 129120, 129160, 129168, 129198, 129200, 129212, 129216, 129218,
  129280, 129620, 129632, 129646, 129648, 129661, 129664, 129674, 129679,
  129735, 129742, 129757, 129759, 129770, 129776, 129785, 129792, 129939,
  129940, 130032]⟩

end Category
end Unicode
end FencedHighlight
