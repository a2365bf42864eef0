import FencedHighlight.Unicode.RangeTable

namespace FencedHighlight
namespace Unicode
namespace Category

/-!
The general categories of the major class punctuation, as range tables.
-/

def connectorPunctuation : RangeTable := ⟨#[
  95, 96, 8255, 8257, 8276, 8277, 65075, 65077, 65101, 65104, 65343, 65344]⟩

def dashPunctuation : RangeTable := ⟨#[
  45, 46, 1418, 1419, 1470, 1471, 5120, 5121, 6150, 6151, 8208, 8214, 11799,
  11800, 11802, 11803, 11834, 11836, 11840, 11841, 11869, 11870, 12316, 12317,
  12336, 12337, 12448, 12449, 65073, 65075, 65112, 65113, 65123, 65124, 65293,
  65294, 68974, 68975, 69293, 69294]⟩

def openPunctuation : RangeTable := ⟨#[
  40, 41, 91, 92, 123, 124, 3898, 3899, 3900, 3901, 5787, 5788, 8218, 8219,
  8222, 8223, 8261, 8262, 8317, 8318, 8333, 8334, 8968, 8969, 8970, 8971, 9001,
  9002, 10088, 10089, 10090, 10091, 10092, 10093, 10094, 10095, 10096, 10097,
  10098, 10099, 10100, 10101, 10181, 10182, 10214, 10215, 10216, 10217, 10218,
  10219, 10220, 10221, 10222, 10223, 10627, 10628, 10629, 10630, 10631, 10632,
  10633, 10634, 10635, 10636, 10637, 10638, 10639, 10640, 10641, 10642, 10643,
  10644, 10645, 10646, 10647, 10648, 10712, 10713, 10714, 10715, 10748, 10749,
  11810, 11811, 11812, 11813, 11814, 11815, 11816, 11817, 11842, 11843, 11861,
  11862, 11863, 11864, 11865, 11866, 11867, 11868, 12296, 12297, 12298, 12299,
  12300, 12301, 12302, 12303, 12304, 12305, 12308, 12309, 12310, 12311, 12312,
  12313, 12314, 12315, 12317, 12318, 64831, 64832, 65047, 65048, 65077, 65078,
  65079, 65080, 65081, 65082, 65083, 65084, 65085, 65086, 65087, 65088, 65089,
  65090, 65091, 65092, 65095, 65096, 65113, 65114, 65115, 65116, 65117, 65118,
  65288, 65289, 65339, 65340, 65371, 65372, 65375, 65376, 65378, 65379]⟩

def closePunctuation : RangeTable := ⟨#[
  41, 42, 93, 94, 125, 126, 3899, 3900, 3901, 3902, 5788, 5789, 8262, 8263,
  8318, 8319, 8334, 8335, 8969, 8970, 8971, 8972, 9002, 9003, 10089, 10090,
  10091, 10092, 10093, 10094, 10095, 10096, 10097, 10098, 10099, 10100, 10101,
  10102, 10182, 10183, 10215, 10216, 10217, 10218, 10219, 10220, 10221, 10222,
  10223, 10224, 10628, 10629, 10630, 10631, 10632, 10633, 10634, 10635, 10636,
  10637, 10638, 10639, 10640, 10641, 10642, 10643, 10644, 10645, 10646, 10647,
  10648, 10649, 10713, 10714, 10715, 10716, 10749, 10750, 11811, 11812, 11813,
  11814, 11815, 11816, 11817, 11818, 11862, 11863, 11864, 11865, 11866, 11867,
  11868, 11869, 12297, 12298, 12299, 12300, 12301, 12302, 12303, 12304, 12305,
  12306, 12309, 12310, 12311, 12312, 12313, 12314, 12315, 12316, 12318, 12320,
  64830, 64831, 65048, 65049, 65078, 65079, 65080, 65081, 65082, 65083, 65084,
  65085, 65086, 65087, 65088, 65089, 65090, 65091, 65092, 65093, 65096, 65097,
  65114, 65115, 65116, 65117, 65118, 65119, 65289, 65290, 65341, 65342, 65373,
  65374, 65376, 65377, 65379, 65380]⟩

def initialPunctuation : RangeTable := ⟨#[
  171, 172, 8216, 8217, 8219, 8221, 8223, 8224, 8249, 8250, 11778, 11779,
  11780, 11781, 11785, 11786, 11788, 11789, 11804, 11805, 11808, 11809]⟩

def finalPunctuation : RangeTable := ⟨#[
  187, 188, 8217, 8218, 8221, 8222, 8250, 8251, 11779, 11780, 11781, 11782,
  11786, 11787, 11789, 11790, 11805, 11806, 11809, 11810]⟩

def otherPunctuation : RangeTable := ⟨#[
  33, 36, 37, 40, 42, 43, 44, 45, 46, 48, 58, 60, 63, 65, 92, 93, 161, 162,
  167, 168, 182, 184, 191, 192, 894, 895, 903, 904, 1370, 1376, 1417, 1418,
  1472, 1473, 1475, 1476, 1478, 1479, 1523, 1525, 1545, 1547, 1548, 1550, 1563,
  1564, 1565, 1568, 1642, 1646, 1748, 1749, 1792, 1806, 2039, 2042, 2096, 2111,
  2142, 2143, 2404, 2406, 2416, 2417, 2557, 2558, 2678, 2679, 2800, 2801, 3191,
  3192, 3204, 3205, 3572, 3573, 3663, 3664, 3674, 3676, 3844, 3859, 3860, 3861,
  3973, 3974, 4048, 4053, 4057, 4059, 4170, 4176, 4347, 4348, 4960, 4969, 5742,
  5743, 5867, 5870, 5941, 5943, 6100, 6103, 6104, 6107, 6144, 6150, 6151, 6155,
  6468, 6470, 6686, 6688, 6816, 6823, 6824, 6830, 6990, 6992, 7002, 7009, 7037,
  7040, 7164, 7168, 7227, 7232, 7294, 7296, 7360, 7368, 7379, 7380, 8214, 8216,
  8224, 8232, 8240, 8249, 8251, 8255, 8257, 8260, 8263, 8274, 8275, 8276, 8277,
  8287, 11513, 11517, 11518, 11520, 11632, 11633, 11776, 11778, 11782, 11785,
  11787, 11788, 11790, 11799, 11800, 11802, 11803, 11804, 11806, 11808, 11818,
  11823, 11824, 11834, 11836, 11840, 11841, 11842, 11843, 11856, 11858, 11861,
  12289, 12292, 12349, 12350, 12539, 12540, 42238, 42240, 42509, 42512, 42611,
  42612, 42622, 42623, 42738, 42744, 43124, 43128, 43214, 43216, 43256, 43259,
  43260, 43261, 43310, 43312, 43359, 43360, 43457, 43470, 43486, 43488, 43612,
  43616, 43742, 43744, 43760, 43762, 44011, 44012, 65040, 65047, 65049, 65050,
  65072, 65073, 65093, 65095, 65097, 65101, 65104, 65107, 65108, 65112, 65119,
  65122, 65128, 65129, 65130, 65132, 65281, 65284, 65285, 65288, 65290, 65291,
  65292, 65293, 65294, 65296, 65306, 65308, 65311, 65313, 65340, 65341, 65377,
  65378, 65380, 65382, 65792, 65795, 66463, 66464, 66512, 66513, 66927, 66928,
  67671, 67672, 67871, 67872, 67903, 67904, 68176, 68185, 68223, 68224, 68336,
  68343, 68409, 68416, 68505, 68509, 69461, 69466, 69510, 69514, 69703, 69710,
  69819, 69821, 69822, 69826, 69952, 69956, 70004, 70006, 70085, 70089, 70093,
  70094, 70107, 70108, 70109, 70112, 70200, 70206, 70313, 70314, 70612, 70614,
  70615, 70617, 70731, 70736, 70746, 70748, 70749, 70750, 70854, 70855, 71105,
  71128, 71233, 71236, 71264, 71277, 71353, 71354, 71484, 71487, 71739, 71740,
  72004, 72007, 72162, 72163, 72255, 72263, 72346, 72349, 72350, 72355, 72448,
  72458, 72673, 72674, 72769, 72774, 72816, 72818, 73463, 73465, 73539, 73552,
  73727, 73728, 74864, 74869, 77809, 77811, 92782, 92784, 92917, 92918, 92983,
  92988, 92996, 92997, 93549, 93552, 93847, 93851, 94178, 94179, 113823,
  113824, 121479, 121484, 124415, 124416, 125278, 125280]⟩

end Category
end Unicode
end FencedHighlight
