import FencedHighlight.Unicode.RangeTable

namespace FencedHighlight
namespace Unicode
namespace Category

/-!
The general categories of the major class letter, as range tables.
-/

def uppercaseLetter : RangeTable := ⟨#[
  65, 91, 192, 215, 216, 223, 256, 257, 258, 259, 260, 261, 262, 263, 264, 265,
  266, 267, 268, 269, 270, 271, 272, 273, 274, 275, 276, 277, 278, 279, 280,
  281, 282, 283, 284, 285, 286, 287, 288, 289, 290, 291, 292, 293, 294, 295,
  296, 297, 298, 299, 300, 301, 302, 303, 304, 305, 306, 307, 308, 309, 310,
  311, 313, 314, 315, 316, 317, 318, 319, 320, 321, 322, 323, 324, 325, 326,
  327, 328, 330, 331, 332, 333, 334, 335, 336, 337, 338, 339, 340, 341, 342,
  343, 344, 345, 346, 347, 348, 349, 350, 351, 352, 353, 354, 355, 356, 357,
  358, 359, 360, 361, 362, 363, 364, 365, 366, 367, 368, 369, 370, 371, 372,
  373, 374, 375, 376, 378, 379, 380, 381, 382, 385, 387, 388, 389, 390, 392,
  393, 396, 398, 402, 403, 405, 406, 409, 412, 414, 415, 417, 418, 419, 420,
  421, 422, 424, 425, 426, 428, 429, 430, 432, 433, 436, 437, 438, 439, 441,
  444, 445, 452, 453, 455, 456, 458, 459, 461, 462, 463, 464, 465, 466, 467,
  468, 469, 470, 471, 472, 473, 474, 475, 476, 478, 479, 480, 481, 482, 483,
  484, 485, 486, 487, 488, 489, 490, 491, 492, 493, 494, 495, 497, 498, 500,
  501, 502, 505, 506, 507, 508, 509, 510, 511, 512, 513, 514, 515, 516, 517,
  518, 519, 520, 521, 522, 523, 524, 525, 526, 527, 528, 529, 530, 531, 532,
  533, 534, 535, 536, 537, 538, 539, 540, 541, 542, 543, 544, 545, 546, 547,
  548, 549, 550, 551, 552, 553, 554, 555, 556, 557, 558, 559, 560, 561, 562,
  563, 570, 572, 573, 575, 577, 578, 579, 583, 584, 585, 586, 587, 588, 589,
  590, 591, 880, 881, 882, 883, 886, 887, 895, 896, 902, 903, 904, 907, 908,
  909, 910, 912, 913, 930, 931, 940, 975, 976, 978, 981, 984, 985, 986, 987,
  988, 989, 990, 991, 992, 993, 994, 995, 996, 997, 998, 999, 1000, 1001, 1002,
  1003, 1004, 1005, 1006, 1007, 1012, 1013, 1015, 1016, 1017, 1019, 1021, 1072,
  1120, 1121, 1122, 1123, 1124, 1125, 1126, 1127, 1128, 1129, 1130, 1131, 1132,
  1133, 1134, 1135, 1136, 1137, 1138, 1139, 1140, 1141, 1142, 1143, 1144, 1145,
  1146, 1147, 1148, 1149, 1150, 1151, 1152, 1153, 1162, 1163, 1164, 1165, 1166,
  1167, 1168, 1169, 1170, 1171, 1172, 1173, 1174, 1175, 1176, 1177, 1178, 1179,
  1180, 1181, 1182, 1183, 1184, 1185, 1186, 1187, 1188, 1189, 1190, 1191, 1192,
  1193, 1194, 1195, 1196, 1197, 1198, 1199, 1200, 1201, 1202, 1203, 1204, 1205,
  1206, 1207, 1208, 1209, 1210, 1211, 1212, 1213, 1214, 1215, 1216, 1218, 1219,
  1220, 1221, 1222, 1223, 1224, 1225, 1226, 1227, 1228, 1229, 1230, 1232, 1233,
  1234, 1235, 1236, 1237, 1238, 1239, 1240, 1241, 1242, 1243, 1244, 1245, 1246,
  1247, 1248, 1249, 1250, 1251, 1252, 1253, 1254, 1255, 1256, 1257, 1258, 1259,
  1260, 1261, 1262, 1263, 1264, 1265, 1266, 1267, 1268, 1269, 1270, 1271, 1272,
  1273, 1274, 1275, 1276, 1277, 1278, 1279, 1280, 1281, 1282, 1283, 1284, 1285,
  1286, 1287, 1288, 1289, 1290, 1291, 1292, 1293, 1294, 1295, 1296, 1297, 1298,
  1299, 1300, 1301, 1302, 1303, 1304, 1305, 1306, 1307, 1308, 1309, 1310, 1311,
  1312, 1313, 1314, 1315, 1316, 1317, 1318, 1319, 1320, 1321, 1322, 1323, 1324,
  1325, 1326, 1327, 1329, 1367, 4256, 4294, 4295, 4296, 4301, 4302, 5024, 5110,
  7305, 7306, 7312, 7355, 7357, 7360, 7680, 7681, 7682, 7683, 7684, 7685, 7686,
  7687, 7688, 7689, 7690, 7691, 7692, 7693, 7694, 7695, 7696, 7697, 7698, 7699,
  7700, 7701, 7702, 7703, 7704, 7705, 7706, 7707, 7708, 7709, 7710, 7711, 7712,
  7713, 7714, 7715, 7716, 7717, 7718, 7719, 7720, 7721, 7722, 7723, 7724, 7725,
  7726, 7727, 7728, 7729, 7730, 7731, 7732, 7733, 7734, 7735, 7736, 7737, 7738,
  7739, 7740, 7741, 7742, 7743, 7744, 7745, 7746, 7747, 7748, 7749, 7750, 7751,
  7752, 7753, 7754, 7755, 7756, 7757, 7758, 7759, 7760, 7761, 7762, 7763, 7764,
  7765, 7766, 7767, 7768, 7769, 7770, 7771, 7772, 7773, 7774, 7775, 7776, 7777,
  7778, 7779, 7780, 7781, 7782, 7783, 7784, 7785, 7786, 7787, 7788, 7789, 7790,
  7791, 7792, 7793, 7794, 7795, 7796, 7797, 7798, 7799, 7800, 7801, 7802, 7803,
  7804, 7805, 7806, 7807, 7808, 7809, 7810, 7811, 7812, 7813, 7814, 7815, 7816,
  7817, 7818, 7819, 7820, 7821, 7822, 7823, 7824, 7825, 7826, 7827, 7828, 7829,
  7838, 7839, 7840, 7841, 7842, 7843, 7844, 7845, 7846, 7847, 7848, 7849, 7850,
  7851, 7852, 7853, 7854, 7855, 7856, 7857, 7858, 7859, 7860, 7861, 7862, 7863,
  7864, 7865, 7866, 7867, 7868, 7869, 7870, 7871, 7872, 7873, 7874, 7875, 7876,
  7877, 7878, 7879, 7880, 7881, 7882, 7883, 7884, 7885, 7886, 7887, 7888, 7889,
  7890, 7891, 7892, 7893, 7894, 7895, 7896, 7897, 7898, 7899, 7900, 7901, 7902,
  7903, 7904, 7905, 7906, 7907, 7908, 7909, 7910, 7911, 7912, 7913, 7914, 7915,
  7916, 7917, 7918, 7919, 7920, 7921, 7922, 7923, 7924, 7925, 7926, 7927, 7928,
  7929, 7930, 7931, 7932, 7933, 7934, 7935, 7944, 7952, 7960, 7966, 7976, 7984,
  7992, 8000, 8008, 8014, 8025, 8026, 8027, 8028, 8029, 8030, 8031, 8032, 8040,
  8048, 8120, 8124, 8136, 8140, 8152, 8156, 8168, 8173, 8184, 8188, 8450, 8451,
  8455, 8456, 8459, 8462, 8464, 8467, 8469, 8470, 8473, 8478, 8484, 8485, 8486,
  8487, 8488, 8489, 8490, 8494, 8496, 8500, 8510, 8512, 8517, 8518, 8579, 8580,
  11264, 11312, 11360, 11361, 11362, 11365, 11367, 11368, 11369, 11370, 11371,
  11372, 11373, 11377, 11378, 11379, 11381, 11382, 11390, 11393, 11394, 11395,
  11396, 11397, 11398, 11399, 11400, 11401, 11402, 11403, 11404, 11405, 11406,
  11407, 11408, 11409, 11410, 11411, 11412, 11413, 11414, 11415, 11416, 11417,
  11418, 11419, 11420, 11421, 11422, 11423, 11424, 11425, 11426, 11427, 11428,
  11429, 11430, 11431, 11432, 11433, 11434, 11435, 11436, 11437, 11438, 11439,
  11440, 11441, 11442, 11443, 11444, 11445, 11446, 11447, 11448, 11449, 11450,
  11451, 11452, 11453, 11454, 11455, 11456, 11457, 11458, 11459, 11460, 11461,
  11462, 11463, 11464, 11465, 11466, 11467, 11468, 11469, 11470, 11471, 11472,
  11473, 11474, 11475, 11476, 11477, 11478, 11479, 11480, 11481, 11482, 11483,
  11484, 11485, 11486, 11487, 11488, 11489, 11490, 11491, 11499, 11500, 11501,
  11502, 11506, 11507, 42560, 42561, 42562, 42563, 42564, 42565, 42566, 42567,
  42568, 42569, 42570, 42571, 42572, 42573, 42574, 42575, 42576, 42577, 42578,
  42579, 42580, 42581, 42582, 42583, 42584, 42585, 42586, 42587, 42588, 42589,
  42590, 42591, 42592, 42593, 42594, 42595, 42596, 42597, 42598, 42599, 42600,
  42601, 42602, 42603, 42604, 42605, 42624, 42625, 42626, 42627, 42628, 42629,
  42630, 42631, 42632, 42633, 42634, 42635, 42636, 42637, 42638, 42639, 42640,
  42641, 42642, 42643, 42644, 42645, 42646, 42647, 42648, 42649, 42650, 42651,
  42786, 42787, 42788, 42789, 42790, 42791, 42792, 42793, 42794, 42795, 42796,
  42797, 42798, 42799, 42802, 42803, 42804, 42805, 42806, 42807, 42808, 42809,
  42810, 42811, 42812, 42813, 42814, 42815, 42816, 42817, 42818, 42819, 42820,
  42821, 42822, 42823, 42824, 42825, 42826, 42827, 42828, 42829, 42830, 42831,
  42832, 42833, 42834, 42835, 42836, 42837, 42838, 42839, 42840, 42841, 42842,
  42843, 42844, 42845, 42846, 42847, 42848, 42849, 42850, 42851, 42852, 42853,
  42854, 42855, 42856, 42857, 42858, 42859, 42860, 42861, 42862, 42863, 42873,
  42874, 42875, 42876, 42877, 42879, 42880, 42881, 42882, 42883, 42884, 42885,
  42886, 42887, 42891, 42892, 42893, 42894, 42896, 42897, 42898, 42899, 42902,
  42903, 42904, 42905, 42906, 42907, 42908, 42909, 42910, 42911, 42912, 42913,
  42914, 42915, 42916, 42917, 42918, 42919, 42920, 42921, 42922, 42927, 42928,
  42933, 42934, 42935, 42936, 42937, 42938, 42939, 42940, 42941, 42942, 42943,
  42944, 42945, 42946, 42947, 42948, 42952, 42953, 42954, 42955, 42957, 42960,
  42961, 42966, 42967, 42968, 42969, 42970, 42971, 42972, 42973, 42997, 42998,
  65313, 65339, 66560, 66600, 66736, 66772, 66928, 66939, 66940, 66955, 66956,
  66963, 66964, 66966, 68736, 68787, 68944, 68966, 71840, 71872, 93760, 93792,
  119808, 119834, 119860, 119886, 119912, 119938, 119964, 119965, 119966,
  119968, 119970, 119971, 119973, 119975, 119977, 119981, 119982, 119990,
  120016, 120042, 120068, 120070, 120071, 120075, 120077, 120085, 120086,
  120093, 120120, 120122, 120123, 120127, 120128, 120133, 120134, 120135,
  120138, 120145, 120172, 120198, 120224, 120250, 120276, 120302, 120328,
  120354, 120380, 120406, 120432, 120458, 120488, 120513, 120546, 120571,
  120604, 120629, 120662, 120687, 120720, 120745, 120778, 120779, 125184,
  125218]⟩

def lowercaseLetter : RangeTable := ⟨#[
  97, 123, 181, 182, 223, 247, 248, 256, 257, 258, 259, 260, 261, 262, 263,
  264, 265, 266, 267, 268, 269, 270, 271, 272, 273, 274, 275, 276, 277, 278,
  279, 280, 281, 282, 283, 284, 285, 286, 287, 288, 289, 290, 291, 292, 293,
  294, 295, 296, 297, 298, 299, 300, 301, 302, 303, 304, 305, 306, 307, 308,
  309, 310, 311, 313, 314, 315, 316, 317, 318, 319, 320, 321, 322, 323, 324,
  325, 326, 327, 328, 330, 331, 332, 333, 334, 335, 336, 337, 338, 339, 340,
  341, 342, 343, 344, 345, 346, 347, 348, 349, 350, 351, 352, 353, 354, 355,
  356, 357, 358, 359, 360, 361, 362, 363, 364, 365, 366, 367, 368, 369, 370,
  371, 372, 373, 374, 375, 376, 378, 379, 380, 381, 382, 385, 387, 388, 389,
  390, 392, 393, 396, 398, 402, 403, 405, 406, 409, 412, 414, 415, 417, 418,
  419, 420, 421, 422, 424, 425, 426, 428, 429, 430, 432, 433, 436, 437, 438,
  439, 441, 443, 445, 448, 454, 455, 457, 458, 460, 461, 462, 463, 464, 465,
  466, 467, 468, 469, 470, 471, 472, 473, 474, 475, 476, 478, 479, 480, 481,
  482, 483, 484, 485, 486, 487, 488, 489, 490, 491, 492, 493, 494, 495, 497,
  499, 500, 501, 502, 505, 506, 507, 508, 509, 510, 511, 512, 513, 514, 515,
  516, 517, 518, 519, 520, 521, 522, 523, 524, 525, 526, 527, 528, 529, 530,
  531, 532, 533, 534, 535, 536, 537, 538, 539, 540, 541, 542, 543, 544, 545,
  546, 547, 548, 549, 550, 551, 552, 553, 554, 555, 556, 557, 558, 559, 560,
  561, 562, 563, 570, 572, 573, 575, 577, 578, 579, 583, 584, 585, 586, 587,
  588, 589, 590, 591, 660, 661, 688, 881, 882, 883, 884, 887, 888, 891, 894,
  912, 913, 940, 975, 976, 978, 981, 984, 985, 986, 987, 988, 989, 990, 991,
  992, 993, 994, 995, 996, 997, 998, 999, 1000, 1001, 1002, 1003, 1004, 1005,
  1006, 1007, 1012, 1013, 1014, 1016, 1017, 1019, 1021, 1072, 1120, 1121, 1122,
  1123, 1124, 1125, 1126, 1127, 1128, 1129, 1130, 1131, 1132, 1133, 1134, 1135,
  1136, 1137, 1138, 1139, 1140, 1141, 1142, 1143, 1144, 1145, 1146, 1147, 1148,
  1149, 1150, 1151, 1152, 1153, 1154, 1163, 1164, 1165, 1166, 1167, 1168, 1169,
  1170, 1171, 1172, 1173, 1174, 1175, 1176, 1177, 1178, 1179, 1180, 1181, 1182,
  1183, 1184, 1185, 1186, 1187, 1188, 1189, 1190, 1191, 1192, 1193, 1194, 1195,
  1196, 1197, 1198, 1199, 1200, 1201, 1202, 1203, 1204, 1205, 1206, 1207, 1208,
  1209, 1210, 1211, 1212, 1213, 1214, 1215, 1216, 1218, 1219, 1220, 1221, 1222,
  1223, 1224, 1225, 1226, 1227, 1228, 1229, 1230, 1232, 1233, 1234, 1235, 1236,
  1237, 1238, 1239, 1240, 1241, 1242, 1243, 1244, 1245, 1246, 1247, 1248, 1249,
  1250, 1251, 1252, 1253, 1254, 1255, 1256, 1257, 1258, 1259, 1260, 1261, 1262,
  1263, 1264, 1265, 1266, 1267, 1268, 1269, 1270, 1271, 1272, 1273, 1274, 1275,
  1276, 1277, 1278, 1279, 1280, 1281, 1282, 1283, 1284, 1285, 1286, 1287, 1288,
  1289, 1290, 1291, 1292, 1293, 1294, 1295, 1296, 1297, 1298, 1299, 1300, 1301,
  1302, 1303, 1304, 1305, 1306, 1307, 1308, 1309, 1310, 1311, 1312, 1313, 1314,
  1315, 1316, 1317, 1318, 1319, 1320, 1321, 1322, 1323, 1324, 1325, 1326, 1327,
  1328, 1376, 1417, 4304, 4347, 4349, 4352, 5112, 5118, 7296, 7305, 7306, 7307,
  7424, 7468, 7531, 7544, 7545, 7579, 7681, 7682, 7683, 7684, 7685, 7686, 7687,
  7688, 7689, 7690, 7691, 7692, 7693, 7694, 7695, 7696, 7697, 7698, 7699, 7700,
  7701, 7702, 7703, 7704, 7705, 7706, 7707, 7708, 7709, 7710, 7711, 7712, 7713,
  7714, 7715, 7716, 7717, 7718, 7719, 7720, 7721, 7722, 7723, 7724, 7725, 7726,
  7727, 7728, 7729, 7730, 7731, 7732, 7733, 7734, 7735, 7736, 7737, 7738, 7739,
  7740, 7741, 7742, 7743, 7744, 7745, 7746, 7747, 7748, 7749, 7750, 7751, 7752,
  7753, 7754, 7755, 7756, 7757, 7758, 7759, 7760, 7761, 7762, 7763, 7764, 7765,
  7766, 7767, 7768, 7769, 7770, 7771, 7772, 7773, 7774, 7775, 7776, 7777, 7778,
  7779, 7780, 7781, 7782, 7783, 7784, 7785, 7786, 7787, 7788, 7789, 7790, 7791,
  7792, 7793, 7794, 7795, 7796, 7797, 7798, 7799, 7800, 7801, 7802, 7803, 7804,
  7805, 7806, 7807, 7808, 7809, 7810, 7811, 7812, 7813, 7814, 7815, 7816, 7817,
  7818, 7819, 7820, 7821, 7822, 7823, 7824, 7825, 7826, 7827, 7828, 7829, 7838,
  7839, 7840, 7841, 7842, 7843, 7844, 7845, 7846, 7847, 7848, 7849, 7850, 7851,
  7852, 7853, 7854, 7855, 7856, 7857, 7858, 7859, 7860, 7861, 7862, 7863, 7864,
  7865, 7866, 7867, 7868, 7869, 7870, 7871, 7872, 7873, 7874, 7875, 7876, 7877,
  7878, 7879, 7880, 7881, 7882, 7883, 7884, 7885, 7886, 7887, 7888, 7889, 7890,
  7891, 7892, 7893, 7894, 7895, 7896, 7897, 7898, 7899, 7900, 7901, 7902, 7903,
  7904, 7905, 7906, 7907, 7908, 7909, 7910, 7911, 7912, 7913, 7914, 7915, 7916,
  7917, 7918, 7919, 7920, 7921, 7922, 7923, 7924, 7925, 7926, 7927, 7928, 7929,
  7930, 7931, 7932, 7933, 7934, 7935, 7944, 7952, 7958, 7968, 7976, 7984, 7992,
  8000, 8006, 8016, 8024, 8032, 8040, 8048, 8062, 8064, 8072, 8080, 8088, 8096,
  8104, 8112, 8117, 8118, 8120, 8126, 8127, 8130, 8133, 8134, 8136, 8144, 8148,
  8150, 8152, 8160, 8168, 8178, 8181, 8182, 8184, 8458, 8459, 8462, 8464, 8467,
  8468, 8495, 8496, 8500, 8501, 8505, 8506, 8508, 8510, 8518, 8522, 8526, 8527,
  8580, 8581, 11312, 11360, 11361, 11362, 11365, 11367, 11368, 11369, 11370,
  11371, 11372, 11373, 11377, 11378, 11379, 11381, 11382, 11388, 11393, 11394,
  11395, 11396, 11397, 11398, 11399, 11400, 11401, 11402, 11403, 11404, 11405,
  11406, 11407, 11408, 11409, 11410, 11411, 11412, 11413, 11414, 11415, 11416,
  11417, 11418, 11419, 11420, 11421, 11422, 11423, 11424, 11425, 11426, 11427,
  11428, 11429, 11430, 11431, 11432, 11433, 11434, 11435, 11436, 11437, 11438,
  11439, 11440, 11441, 11442, 11443, 11444, 11445, 11446, 11447, 11448, 11449,
  11450, 11451, 11452, 11453, 11454, 11455, 11456, 11457, 11458, 11459, 11460,
  11461, 11462, 11463, 11464, 11465, 11466, 11467, 11468, 11469, 11470, 11471,
  11472, 11473, 11474, 11475, 11476, 11477, 11478, 11479, 11480, 11481, 11482,
  11483, 11484, 11485, 11486, 11487, 11488, 11489, 11490, 11491, 11493, 11500,
  11501, 11502, 11503, 11507, 11508, 11520, 11558, 11559, 11560, 11565, 11566,
  42561, 42562, 42563, 42564, 42565, 42566, 42567, 42568, 42569, 42570, 42571,
  42572, 42573, 42574, 42575, 42576, 42577, 42578, 42579, 42580, 42581, 42582,
  42583, 42584, 42585, 42586, 42587, 42588, 42589, 42590, 42591, 42592, 42593,
  42594, 42595, 42596, 42597, 42598, 42599, 42600, 42601, 42602, 42603, 42604,
  42605, 42606, 42625, 42626, 42627, 42628, 42629, 42630, 42631, 42632, 42633,
  42634, 42635, 42636, 42637, 42638, 42639, 42640, 42641, 42642, 42643, 42644,
  42645, 42646, 42647, 42648, 42649, 42650, 42651, 42652, 42787, 42788, 42789,
  42790, 42791, 42792, 42793, 42794, 42795, 42796, 42797, 42798, 42799, 42802,
  42803, 42804, 42805, 42806, 42807, 42808, 42809, 42810, 42811, 42812, 42813,
  42814, 42815, 42816, 42817, 42818, 42819, 42820, 42821, 42822, 42823, 42824,
  42825, 42826, 42827, 42828, 42829, 42830, 42831, 42832, 42833, 42834, 42835,
  42836, 42837, 42838, 42839, 42840, 42841, 42842, 42843, 42844, 42845, 42846,
  42847, 42848, 42849, 42850, 42851, 42852, 42853, 42854, 42855, 42856, 42857,
  42858, 42859, 42860, 42861, 42862, 42863, 42864, 42865, 42873, 42874, 42875,
  42876, 42877, 42879, 42880, 42881, 42882, 42883, 42884, 42885, 42886, 42887,
  42888, 42892, 42893, 42894, 42895, 42897, 42898, 42899, 42902, 42903, 42904,
  42905, 42906, 42907, 42908, 42909, 42910, 42911, 42912, 42913, 42914, 42915,
  42916, 42917, 42918, 42919, 42920, 42921, 42922, 42927, 42928, 42933, 42934,
  42935, 42936, 42937, 42938, 42939, 42940, 42941, 42942, 42943, 42944, 42945,
  42946, 42947, 42948, 42952, 42953, 42954, 42955, 42957, 42958, 42961, 42962,
  42963, 42964, 42965, 42966, 42967, 42968, 42969, 42970, 42971, 42972, 42998,
  42999, 43002, 43003, 43824, 43867, 43872, 43881, 43888, 43968, 64256, 64263,
  64275, 64280, 65345, 65371, 66600, 66640, 66776, 66812, 66967, 66978, 66979,
  66994, 66995, 67002, 67003, 67005, 68800, 68851, 68976, 68998, 71872, 71904,
  93792, 93824, 119834, 119860, 119886, 119893, 119894, 119912, 119938, 119964,
  119990, 119994, 119995, 119996, 119997, 120004, 120005, 120016, 120042,
  120068, 120094, 120120, 120146, 120172, 120198, 120224, 120250, 120276,
  120302, 120328, 120354, 120380, 120406, 120432, 120458, 120486, 120514,
  120539, 120540, 120546, 120572, 120597, 120598, 120604, 120630, 120655,
  120656, 120662, 120688, 120713, 120714, 120720, 120746, 120771, 120772,
  120778, 120779, 120780, 122624, 122634, 122635, 122655, 122661, 122667,
  125218, 125252]⟩

def titlecaseLetter : RangeTable := ⟨#[
  453, 454, 456, 457, 459, 460, 498, 499, 8072, 8080, 8088, 8096, 8104, 8112,
  8124, 8125, 8140, 8141, 8188, 8189]⟩

def modifierLetter : RangeTable := ⟨#[
  688, 706, 710, 722, 736, 741, 748, 749, 750, 751, 884, 885, 890, 891, 1369,
  1370, 1600, 1601, 1765, 1767, 2036, 2038, 2042, 2043, 2074, 2075, 2084, 2085,
  2088, 2089, 2249, 2250, 2417, 2418, 3654, 3655, 3782, 3783, 4348, 4349, 6103,
  6104, 6211, 6212, 6823, 6824, 7288, 7294, 7468, 7531, 7544, 7545, 7579, 7616,
  8305, 8306, 8319, 8320, 8336, 8349, 11388, 11390, 11631, 11632, 11823, 11824,
  12293, 12294, 12337, 12342, 12347, 12348, 12445, 12447, 12540, 12543, 40981,
  40982, 42232, 42238, 42508, 42509, 42623, 42624, 42652, 42654, 42775, 42784,
  42864, 42865, 42888, 42889, 42994, 42997, 43000, 43002, 43471, 43472, 43494,
  43495, 43632, 43633, 43741, 43742, 43763, 43765, 43868, 43872, 43881, 43882,
  65392, 65393, 65438, 65440, 67456, 67462, 67463, 67505, 67506, 67515, 68942,
  68943, 68975, 68976, 92992, 92996, 93504, 93507, 93547, 93549, 94099, 94112,
  94176, 94178, 94179, 94180, 110576, 110580, 110581, 110588, 110589, 110591,
  122928, 122990, 123191, 123198, 124139, 124140, 125259, 125260]⟩

def otherLetter : RangeTable := ⟨#[
  170, 171, 186, 187, 443, 444, 448, 452, 660, 661, 1488, 1515, 1519, 1523,
  1568, 1600, 1601, 1611, 1646, 1648, 1649, 1748, 1749, 1750, 1774, 1776, 1786,
  1789, 1791, 1792, 1808, 1809, 1810, 1840, 1869, 1958, 1969, 1970, 1994, 2027,
  2048, 2070, 2112, 2137, 2144, 2155, 2160, 2184, 2185, 2191, 2208, 2249, 2308,
  2362, 2365, 2366, 2384, 2385, 2392, 2402, 2418, 2433, 2437, 2445, 2447, 2449,
  2451, 2473, 2474, 2481, 2482, 2483, 2486, 2490, 2493, 2494, 2510, 2511, 2524,
  2526, 2527, 2530, 2544, 2546, 2556, 2557, 2565, 2571, 2575, 2577, 2579, 2601,
  2602, 2609, 2610, 2612, 2613, 2615, 2616, 2618, 2649, 2653, 2654, 2655, 2674,
  2677, 2693, 2702, 2703, 2706, 2707, 2729, 2730, 2737, 2738, 2740, 2741, 2746,
  2749, 2750, 2768, 2769, 2784, 2786, 2809, 2810, 2821, 2829, 2831, 2833, 2835,
  2857, 2858, 2865, 2866, 2868, 2869, 2874, 2877, 2878, 2908, 2910, 2911, 2914,
  2929, 2930, 2947, 2948, 2949, 2955, 2958, 2961, 2962, 2966, 2969, 2971, 2972,
  2973, 2974, 2976, 2979, 2981, 2984, 2987, 2990, 3002, 3024, 3025, 3077, 3085,
  3086, 3089, 3090, 3113, 3114, 3130, 3133, 3134, 3160, 3163, 3165, 3166, 3168,
  3170, 3200, 3201, 3205, 3213, 3214, 3217, 3218, 3241, 3242, 3252, 3253, 3258,
  3261, 3262, 3293, 3295, 3296, 3298, 3313, 3315, 3332, 3341, 3342, 3345, 3346,
  3387, 3389, 3390, 3406, 3407, 3412, 3415, 3423, 3426, 3450, 3456, 3461, 3479,
  3482, 3506, 3507, 3516, 3517, 3518, 3520, 3527, 3585, 3633, 3634, 3636, 3648,
  3654, 3713, 3715, 3716, 3717, 3718, 3723, 3724, 3748, 3749, 3750, 3751, 3761,
  3762, 3764, 3773, 3774, 3776, 3781, 3804, 3808, 3840, 3841, 3904, 3912, 3913,
  3949, 3976, 3981, 4096, 4139, 4159, 4160, 4176, 4182, 4186, 4190, 4193, 4194,
  4197, 4199, 4206, 4209, 4213, 4226, 4238, 4239, 4352, 4681, 4682, 4686, 4688,
  4695, 4696, 4697, 4698, 4702, 4704, 4745, 4746, 4750, 4752, 4785, 4786, 4790,
  4792, 4799, 4800, 4801, 4802, 4806, 4808, 4823, 4824, 4881, 4882, 4886, 4888,
  4955, 4992, 5008, 5121, 5741, 5743, 5760, 5761, 5787, 5792, 5867, 5873, 5881,
  5888, 5906, 5919, 5938, 5952, 5970, 5984, 5997, 5998, 6001, 6016, 6068, 6108,
  6109, 6176, 6211, 6212, 6265, 6272, 6277, 6279, 6313, 6314, 6315, 6320, 6390,
  6400, 6431, 6480, 6510, 6512, 6517, 6528, 6572, 6576, 6602, 6656, 6679, 6688,
  6741, 6917, 6964, 6981, 6989, 7043, 7073, 7086, 7088, 7098, 7142, 7168, 7204,
  7245, 7248, 7258, 7288, 7401, 7405, 7406, 7412, 7413, 7415, 7418, 7419, 8501,
  8505, 11568, 11624, 11648, 11671, 11680, 11687, 11688, 11695, 11696, 11703,
  11704, 11711, 11712, 11719, 11720, 11727, 11728, 11735, 11736, 11743, 12294,
  12295, 12348, 12349, 12353, 12439, 12447, 12448, 12449, 12539, 12543, 12544,
  12549, 12592, 12593, 12687, 12704, 12736, 12784, 12800, 13312, 19904, 19968,
  40981, 40982, 42125, 42192, 42232, 42240, 42508, 42512, 42528, 42538, 42540,
  42606, 42607, 42656, 42726, 42895, 42896, 42999, 43000, 43003, 43010, 43011,
  43014, 43015, 43019, 43020, 43043, 43072, 43124, 43138, 43188, 43250, 43256,
  43259, 43260, 43261, 43263, 43274, 43302, 43312, 43335, 43360, 43389, 43396,
  43443, 43488, 43493, 43495, 43504, 43514, 43519, 43520, 43561, 43584, 43587,
  43588, 43596, 43616, 43632, 43633, 43639, 43642, 43643, 43646, 43696, 43697,
  43698, 43701, 43703, 43705, 43710, 43712, 43713, 43714, 43715, 43739, 43741,
  43744, 43755, 43762, 43763, 43777, 43783, 43785, 43791, 43793, 43799, 43808,
  43815, 43816, 43823, 43968, 44003, 44032, 55204, 55216, 55239, 55243, 55292,
  63744, 64110, 64112, 64218, 64285, 64286, 64287, 64297, 64298, 64311, 64312,
  64317, 64318, 64319, 64320, 64322, 64323, 64325, 64326, 64434, 64467, 64830,
  64848, 64912, 64914, 64968, 65008, 65020, 65136, 65141, 65142, 65277, 65382,
  65392, 65393, 65438, 65440, 65471, 65474, 65480, 65482, 65488, 65490, 65496,
  65498, 65501, 65536, 65548, 65549, 65575, 65576, 65595, 65596, 65598, 65599,
  65614, 65616, 65630, 65664, 65787, 66176, 66205, 66208, 66257, 66304, 66336,
  66349, 66369, 66370, 66378, 66384, 66422, 66432, 66462, 66464, 66500, 66504,
  66512, 66640, 66718, 66816, 66856, 66864, 66916, 67008, 67060, 67072, 67383,
  67392, 67414, 67424, 67432, 67584, 67590, 67592, 67593, 67594, 67638, 67639,
  67641, 67644, 67645, 67647, 67670, 67680, 67703, 67712, 67743, 67808, 67827,
  67828, 67830, 67840, 67862, 67872, 67898, 67968, 68024, 68030, 68032, 68096,
  68097, 68112, 68116, 68117, 68120, 68121, 68150, 68192, 68221, 68224, 68253,
  68288, 68296, 68297, 68325, 68352, 68406, 68416, 68438, 68448, 68467, 68480,
  68498, 68608, 68681, 68864, 68900, 68938, 68942, 68943, 68944, 69248, 69290,
  69296, 69298, 69314, 69317, 69376, 69405, 69415, 69416, 69424, 69446, 69488,
  69506, 69552, 69573, 69600, 69623, 69635, 69688, 69745, 69747, 69749, 69750,
  69763, 69808, 69840, 69865, 69891, 69927, 69956, 69957, 69959, 69960, 69968,
  70003, 70006, 70007, 70019, 70067, 70081, 70085, 70106, 70107, 70108, 70109,
  70144, 70162, 70163, 70188, 70207, 70209, 70272, 70279, 70280, 70281, 70282,
  70286, 70287, 70302, 70303, 70313, 70320, 70367, 70405, 70413, 70415, 70417,
  70419, 70441, 70442, 70449, 70450, 70452, 70453, 70458, 70461, 70462, 70480,
  70481, 70493, 70498, 70528, 70538, 70539, 70540, 70542, 70543, 70544, 70582,
  70583, 70584, 70609, 70610, 70611, 70612, 70656, 70709, 70727, 70731, 70751,
  70754, 70784, 70832, 70852, 70854, 70855, 70856, 71040, 71087, 71128, 71132,
  71168, 71216, 71236, 71237, 71296, 71339, 71352, 71353, 71424, 71451, 71488,
  71495, 71680, 71724, 71935, 71943, 71945, 71946, 71948, 71956, 71957, 71959,
  71960, 71984, 71999, 72000, 72001, 72002, 72096, 72104, 72106, 72145, 72161,
  72162, 72163, 72164, 72192, 72193, 72203, 72243, 72250, 72251, 72272, 72273,
  72284, 72330, 72349, 72350, 72368, 72441, 72640, 72673, 72704, 72713, 72714,
  72751, 72768, 72769, 72818, 72848, 72960, 72967, 72968, 72970, 72971, 73009,
  73030, 73031, 73056, 73062, 73063, 73065, 73066, 73098, 73112, 73113, 73440,
  73459, 73474, 73475, 73476, 73489, 73490, 73524, 73648, 73649, 73728, 74650,
  74880, 75076, 77712, 77809, 77824, 78896, 78913, 78919, 78944, 82939, 82944,
  83527, 90368, 90398, 92160, 92729, 92736, 92767, 92784, 92863, 92880, 92910,
  92928, 92976, 93027, 93048, 93053, 93072, 93507, 93547, 93952, 94027, 94032,
  94033, 94208, 100344, 100352, 101590, 101631, 101641, 110592, 110883, 110898,
  110899, 110928, 110931, 110933, 110934, 110948, 110952, 110960, 111356,
  113664, 113771, 113776, 113789, 113792, 113801, 113808, 113818, 122634,
  122635, 123136, 123181, 123214, 123215, 123536, 123566, 123584, 123628,
  124112, 124139, 124368, 124398, 124400, 124401, 124896, 124903, 124904,
  124908, 124909, 124911, 124912, 124927, 124928, 125125, 126464, 126468,
  126469, 126496, 126497, 126499, 126500, 126501, 126503, 126504, 126505,
  126515, 126516, 126520, 126521, 126522, 126523, 126524, 126530, 126531,
  126535, 126536, 126537, 126538, 126539, 126540, 126541, 126544, 126545,
  126547, 126548, 126549, 126551, 126552, 126553, 126554, 126555, 126556,
  126557, 126558, 126559, 126560, 126561, 126563, 126564, 126565, 126567,
  126571, 126572, 126579, 126580, 126584, 126585, 126589, 126590, 126591,
  126592, 126602, 126603, 126620, 126625, 126628, 126629, 126634, 126635,
  126652, 131072, 173792, 173824, 177978, 177984, 178206, 178208, 183970,
  183984, 191457, 191472, 192094, 194560, 195102, 196608, 201547, 201552,
  205744]⟩

end Category
end Unicode
end FencedHighlight
