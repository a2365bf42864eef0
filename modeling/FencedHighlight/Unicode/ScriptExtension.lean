import FencedHighlight.Unicode.Script

namespace FencedHighlight
namespace Unicode
namespace ScriptExtension

/-!
Characters that are shared between scripts.

A shared character is filed under the common or the inherited script, or under
one of the scripts that use it.  Each table lists where the characters in use
by a script differ from the characters filed under it.
-/

def adlam : RangeTable := ⟨#[
  1567, 1568, 1600, 1601, 8271, 8272, 11841, 11842]⟩

def arabic : RangeTable := ⟨#[
  1548, 1549, 1563, 1564, 1567, 1568, 1600, 1601, 1611, 1622, 1648, 1649, 8271,
  8272, 11841, 11842, 64830, 64832, 66272, 66300]⟩

def armenian : RangeTable := ⟨#[
  776, 777]⟩

def avestan : RangeTable := ⟨#[
  183, 184, 11824, 11826]⟩

def bengali : RangeTable := ⟨#[
  700, 701, 2385, 2387, 2404, 2406, 7376, 7377, 7378, 7379, 7381, 7383, 7384,
  7385, 7393, 7394, 7402, 7403, 7405, 7406, 7410, 7411, 7413, 7416, 43249,
  43250]⟩

def bopomofo : RangeTable := ⟨#[
  711, 712, 713, 716, 729, 730, 12289, 12292, 12296, 12306, 12307, 12320,
  12330, 12334, 12336, 12337, 12343, 12344, 12539, 12540, 65093, 65095, 65377,
  65382]⟩

def buginese : RangeTable := ⟨#[
  43471, 43472]⟩

def buhid : RangeTable := ⟨#[
  5941, 5943]⟩

def carian : RangeTable := ⟨#[
  183, 184, 8282, 8283, 8285, 8286, 11825, 11826]⟩

def caucasianAlbanian : RangeTable := ⟨#[
  772, 773, 817, 818, 862, 863]⟩

def chakma : RangeTable := ⟨#[
  2534, 2544, 4160, 4170]⟩

def cherokee : RangeTable := ⟨#[
  768, 771, 772, 773, 779, 781, 803, 805, 816, 818]⟩

def common : RangeTable := ⟨#[
  183, 184, 700, 701, 711, 712, 713, 716, 717, 718, 727, 728, 729, 730, 884,
  885, 1548, 1549, 1563, 1564, 1567, 1568, 1600, 1601, 2404, 2406, 4347, 4348,
  5867, 5870, 5941, 5943, 6146, 6148, 6149, 6150, 7379, 7380, 7393, 7394, 7401,
  7405, 7406, 7412, 7413, 7416, 7418, 7419, 8239, 8240, 8271, 8272, 8282, 8283,
  8285, 8286, 11799, 11800, 11824, 11826, 11836, 11837, 11841, 11842, 11843,
  11844, 12272, 12288, 12289, 12292, 12294, 12295, 12296, 12306, 12307, 12320,
  12336, 12342, 12343, 12344, 12348, 12352, 12443, 12445, 12448, 12449, 12539,
  12541, 12688, 12704, 12736, 12774, 12783, 12784, 12832, 12872, 12928, 12977,
  12992, 13004, 13055, 13056, 13144, 13169, 13179, 13184, 13280, 13311, 42752,
  42760, 43056, 43066, 43310, 43311, 43471, 43472, 64830, 64832, 65093, 65095,
  65377, 65382, 65392, 65393, 65438, 65440, 65792, 65795, 65799, 65844, 65847,
  65856, 66273, 66300, 113824, 113828, 119648, 119666, 127568, 127570]⟩

def coptic : RangeTable := ⟨#[
  183, 184, 768, 769, 772, 774, 775, 776, 884, 886, 11799, 11800, 66272,
  66300]⟩

def cypriot : RangeTable := ⟨#[
  65792, 65795, 65799, 65844, 65847, 65856]⟩

def cyproMinoan : RangeTable := ⟨#[
  65792, 65794]⟩

def cyrillic : RangeTable := ⟨#[
  700, 701, 768, 771, 772, 773, 774, 775, 776, 777, 779, 780, 785, 786, 1157,
  1159, 7672, 7673, 11843, 11844]⟩

def devanagari : RangeTable := ⟨#[
  700, 701, 2385, 2387, 2404, 2406, 7376, 7415, 7416, 7418, 8432, 8433, 43056,
  43066]⟩

def dogra : RangeTable := ⟨#[
  2404, 2416, 43056, 43066]⟩

def duployan : RangeTable := ⟨#[
  183, 184, 775, 777, 778, 779, 803, 805, 11836, 11837, 113824, 113828]⟩

def elbasan : RangeTable := ⟨#[
  183, 184, 773, 774]⟩

def ethiopic : RangeTable := ⟨#[
  782, 783]⟩

def garay : RangeTable := ⟨#[
  1548, 1549, 1563, 1564, 1567, 1568]⟩

def georgian : RangeTable := ⟨#[
  183, 184, 1417, 1418, 4347, 4348, 8282, 8283, 11825, 11826]⟩

def glagolitic : RangeTable := ⟨#[
  183, 184, 771, 772, 773, 774, 1156, 1157, 1159, 1160, 1417, 1418, 4347, 4348,
  8282, 8283, 11843, 11844, 42607, 42608]⟩

def gothic : RangeTable := ⟨#[
  183, 184, 772, 774, 776, 777, 817, 818]⟩

def grantha : RangeTable := ⟨#[
  2385, 2387, 2404, 2406, 3046, 3060, 7376, 7377, 7378, 7380, 7410, 7413, 7416,
  7418, 8432, 8433, 70459, 70460, 73680, 73682, 73683, 73684]⟩

def greek : RangeTable := ⟨#[
  183, 184, 768, 770, 772, 773, 774, 775, 776, 777, 787, 788, 834, 835, 837,
  838, 884, 885, 7616, 7618, 8285, 8286]⟩

def gujarati : RangeTable := ⟨#[
  2385, 2387, 2404, 2406, 43056, 43066]⟩

def gunjalaGondi : RangeTable := ⟨#[
  183, 184, 2404, 2406]⟩

def gurmukhi : RangeTable := ⟨#[
  2385, 2387, 2404, 2406, 43056, 43066]⟩

def gurungKhema : RangeTable := ⟨#[
  2405, 2406]⟩

def han : RangeTable := ⟨#[
  183, 184, 12272, 12288, 12289, 12292, 12294, 12295, 12296, 12306, 12307,
  12320, 12330, 12334, 12336, 12337, 12343, 12344, 12348, 12352, 12539, 12540,
  12688, 12704, 12736, 12774, 12783, 12784, 12832, 12872, 12928, 12977, 12992,
  13004, 13055, 13056, 13144, 13169, 13179, 13184, 13280, 13311, 42752, 42760,
  65093, 65095, 65377, 65382, 119648, 119666, 127568, 127570]⟩

def hangul : RangeTable := ⟨#[
  12289, 12292, 12296, 12306, 12307, 12320, 12336, 12337, 12343, 12344, 12539,
  12540, 65093, 65095, 65377, 65382]⟩

def hanifiRohingya : RangeTable := ⟨#[
  1548, 1549, 1563, 1564, 1567, 1568, 1600, 1601, 1748, 1749]⟩

def hanunoo : RangeTable := ⟨#[
  5941, 5943]⟩

def hebrew : RangeTable := ⟨#[
  775, 777]⟩

def hiragana : RangeTable := ⟨#[
  12289, 12292, 12296, 12306, 12307, 12320, 12336, 12342, 12343, 12344, 12348,
  12350, 12441, 12445, 12448, 12449, 12539, 12541, 65093, 65095, 65377, 65382,
  65392, 65393, 65438, 65440]⟩

def inherited : RangeTable := ⟨#[
  768, 783, 784, 786, 787, 788, 803, 806, 813, 815, 816, 818, 834, 835, 837,
  838, 856, 857, 862, 863, 867, 880, 1157, 1159, 1611, 1622, 1648, 1649, 2385,
  2387, 7376, 7379, 7380, 7393, 7394, 7401, 7405, 7406, 7412, 7413, 7416, 7418,
  7616, 7618, 7672, 7673, 7674, 7675, 8432, 8433, 12330, 12334, 12441, 12443,
  66272, 66273, 70459, 70460]⟩

def javanese : RangeTable := ⟨#[
  43471, 43472]⟩

def kaithi : RangeTable := ⟨#[
  2406, 2416, 11825, 11826, 43056, 43066]⟩

def kannada : RangeTable := ⟨#[
  2385, 2387, 2404, 2406, 7376, 7377, 7378, 7380, 7386, 7387, 7410, 7411, 7412,
  7413, 43056, 43062]⟩

def katakana : RangeTable := ⟨#[
  773, 774, 803, 804, 12289, 12292, 12296, 12306, 12307, 12320, 12336, 12342,
  12343, 12344, 12348, 12350, 12441, 12445, 12448, 12449, 12539, 12541, 65093,
  65095, 65377, 65382, 65392, 65393, 65438, 65440]⟩

def kayahLi : RangeTable := ⟨#[
  43310, 43311]⟩

def khojki : RangeTable := ⟨#[
  2790, 2800, 43056, 43066]⟩

def khudawadi : RangeTable := ⟨#[
  2404, 2406, 43056, 43066]⟩

def latin : RangeTable := ⟨#[
  183, 184, 700, 701, 711, 712, 713, 716, 717, 718, 727, 728, 729, 730, 768,
  783, 784, 786, 787, 788, 803, 806, 813, 815, 816, 818, 856, 857, 862, 863,
  867, 880, 1157, 1159, 2385, 2387, 4347, 4348, 7672, 7673, 8239, 8240, 8432,
  8433, 11799, 11800, 42752, 42760, 43310, 43311]⟩

def limbu : RangeTable := ⟨#[
  2405, 2406]⟩

def linearA : RangeTable := ⟨#[
  65799, 65844]⟩

def linearB : RangeTable := ⟨#[
  65792, 65795, 65799, 65844, 65847, 65856]⟩

def lisu : RangeTable := ⟨#[
  700, 701, 717, 718, 12298, 12300]⟩

def lycian : RangeTable := ⟨#[
  8282, 8283]⟩

def lydian : RangeTable := ⟨#[
  183, 184, 11825, 11826]⟩

def mahajani : RangeTable := ⟨#[
  183, 184, 2404, 2416, 43056, 43066]⟩

def malayalam : RangeTable := ⟨#[
  2385, 2387, 2404, 2406, 7386, 7387, 7410, 7411, 43056, 43059]⟩

def mandaic : RangeTable := ⟨#[
  1600, 1601]⟩

def manichaean : RangeTable := ⟨#[
  1600, 1601]⟩

def masaramGondi : RangeTable := ⟨#[
  2404, 2406]⟩

def meroiticHieroglyphs : RangeTable := ⟨#[
  8285, 8286]⟩

def modi : RangeTable := ⟨#[
  43056, 43066]⟩

def mongolian : RangeTable := ⟨#[
  6146, 6148, 6149, 6150, 8239, 8240, 12289, 12291, 12296, 12300]⟩

def multani : RangeTable := ⟨#[
  2662, 2672]⟩

def myanmar : RangeTable := ⟨#[
  43310, 43311]⟩

def nandinagari : RangeTable := ⟨#[
  2385, 2386, 2404, 2406, 3302, 3312, 7401, 7402, 7410, 7411, 7418, 7419,
  43056, 43062]⟩

def newa : RangeTable := ⟨#[
  2385, 2387, 7381, 7382, 7383, 7385, 7394, 7395, 7401, 7402, 7403, 7404, 7405,
  7406]⟩

def nko : RangeTable := ⟨#[
  1548, 1549, 1563, 1564, 1567, 1568, 64830, 64832]⟩

def olOnal : RangeTable := ⟨#[
  2404, 2406]⟩

def oldHungarian : RangeTable := ⟨#[
  8282, 8283, 8285, 8286, 11825, 11826, 11841, 11842]⟩

def oldPermic : RangeTable := ⟨#[
  183, 184, 768, 769, 774, 777, 787, 788, 1155, 1156]⟩

def oldTurkic : RangeTable := ⟨#[
  8282, 8283, 11824, 11825]⟩

def oldUyghur : RangeTable := ⟨#[
  1600, 1601, 68338, 68339]⟩

def oriya : RangeTable := ⟨#[
  2385, 2387, 2404, 2406, 7386, 7387, 7410, 7411]⟩

def osage : RangeTable := ⟨#[
  769, 770, 772, 773, 779, 780, 856, 857]⟩

def phagsPa : RangeTable := ⟨#[
  6146, 6148, 6149, 6150, 8239, 8240, 12290, 12291]⟩

def psalterPahlavi : RangeTable := ⟨#[
  1600, 1601]⟩

def runic : RangeTable := ⟨#[
  5867, 5870]⟩

def samaritan : RangeTable := ⟨#[
  11825, 11826]⟩

def sharada : RangeTable := ⟨#[
  2385, 2386, 7383, 7384, 7385, 7386, 7388, 7390, 7392, 7393, 7402, 7403, 7405,
  7406, 43056, 43062, 43064, 43065]⟩

def shavian : RangeTable := ⟨#[
  183, 184]⟩

def sinhala : RangeTable := ⟨#[
  2404, 2406, 7410, 7411]⟩

def sogdian : RangeTable := ⟨#[
  1600, 1601]⟩

def sunuwar : RangeTable := ⟨#[
  768, 770, 771, 772, 781, 782, 784, 785, 813, 814, 817, 818]⟩

def sylotiNagri : RangeTable := ⟨#[
  2404, 2406, 2534, 2544]⟩

def syriac : RangeTable := ⟨#[
  771, 773, 775, 777, 778, 779, 803, 806, 813, 815, 816, 818, 1548, 1549, 1563,
  1565, 1567, 1568, 1600, 1601, 1611, 1622, 1648, 1649, 7672, 7673, 7674,
  7675]⟩

def tagalog : RangeTable := ⟨#[
  5941, 5943]⟩

def tagbanwa : RangeTable := ⟨#[
  5941, 5943]⟩

def taiLe : RangeTable := ⟨#[
  768, 770, 775, 777, 780, 781, 4160, 4170]⟩

def takri : RangeTable := ⟨#[
  2404, 2406, 43056, 43066]⟩

def tamil : RangeTable := ⟨#[
  2385, 2387, 2404, 2406, 7386, 7387, 43251, 43252, 70401, 70402, 70403, 70404,
  70459, 70461]⟩

def tangut : RangeTable := ⟨#[
  12272, 12288, 12783, 12784]⟩

def telugu : RangeTable := ⟨#[
  2385, 2387, 2404, 2406, 7381, 7383, 7384, 7385, 7386, 7387, 7410, 7411]⟩

def thaana : RangeTable := ⟨#[
  1548, 1549, 1563, 1565, 1567, 1568, 1632, 1642, 65010, 65011, 65021, 65022]⟩

def thai : RangeTable := ⟨#[
  700, 701, 727, 728, 771, 772, 817, 818]⟩

def tibetan : RangeTable := ⟨#[
  12296, 12300]⟩

def tifinagh : RangeTable := ⟨#[
  770, 771, 772, 773, 774, 778, 803, 804]⟩

def tirhuta : RangeTable := ⟨#[
  2385, 2387, 2404, 2406, 7381, 7382, 7394, 7395, 7410, 7411, 43056, 43066]⟩

def todhri : RangeTable := ⟨#[
  769, 770, 772, 773, 775, 776, 785, 786, 787, 788, 862, 863]⟩

def toto : RangeTable := ⟨#[
  700, 701]⟩

def tuluTigalari : RangeTable := ⟨#[
  3302, 3312, 7410, 7411, 7412, 7413, 43056, 43062, 43249, 43250]⟩

def yezidi : RangeTable := ⟨#[
  1548, 1549, 1563, 1564, 1567, 1568, 1632, 1642]⟩

def yi : RangeTable := ⟨#[
  12289, 12291, 12296, 12306, 12308, 12316, 12539, 12540, 65377, 65382]⟩

/-- The tables of differences, under the first name of their script. -/
def differences : List (String × RangeTable) := [
  ("adlm", adlam),
  ("arab", arabic),
  ("armn", armenian),
  ("avst", avestan),
  ("beng", bengali),
  ("bopo", bopomofo),
  ("bugi", buginese),
  ("buhd", buhid),
  ("cari", carian),
  ("aghb", caucasianAlbanian),
  ("cakm", chakma),
  ("cher", cherokee),
  ("zyyy", common),
  ("copt", coptic),
  ("cprt", cypriot),
  ("cpmn", cyproMinoan),
  ("cyrl", cyrillic),
  ("deva", devanagari),
  ("dogr", dogra),
  ("dupl", duployan),
  ("elba", elbasan),
  ("ethi", ethiopic),
  ("gara", garay),
  ("geor", georgian),
  ("glag", glagolitic),
  ("goth", gothic),
  ("gran", grantha),
  ("grek", greek),
  ("gujr", gujarati),
  ("gong", gunjalaGondi),
  ("guru", gurmukhi),
  ("gukh", gurungKhema),
  ("hani", han),
  ("hang", hangul),
  ("rohg", hanifiRohingya),
  ("hano", hanunoo),
  ("hebr", hebrew),
  ("hira", hiragana),
  ("zinh", inherited),
  ("java", javanese),
  ("kthi", kaithi),
  ("knda", kannada),
  ("kana", katakana),
  ("kali", kayahLi),
  ("khoj", khojki),
  ("sind", khudawadi),
  ("latn", latin),
  ("limb", limbu),
  ("lina", linearA),
  ("linb", linearB),
  ("lisu", lisu),
  ("lyci", lycian),
  ("lydi", lydian),
  ("mahj", mahajani),
  ("mlym", malayalam),
  ("mand", mandaic),
  ("mani", manichaean),
  ("gonm", masaramGondi),
  ("mero", meroiticHieroglyphs),
  ("modi", modi),
  ("mong", mongolian),
  ("mult", multani),
  ("mymr", myanmar),
  ("nand", nandinagari),
  ("newa", newa),
  ("nkoo", nko),
  ("onao", olOnal),
  ("hung", oldHungarian),
  ("perm", oldPermic),
  ("orkh", oldTurkic),
  ("ougr", oldUyghur),
  ("orya", oriya),
  ("osge", osage),
  ("phag", phagsPa),
  ("phlp", psalterPahlavi),
  ("runr", runic),
  ("samr", samaritan),
  ("shrd", sharada),
  ("shaw", shavian),
  ("sinh", sinhala),
  ("sogd", sogdian),
  ("sunu", sunuwar),
  ("sylo", sylotiNagri),
  ("syrc", syriac),
  ("tglg", tagalog),
  ("tagb", tagbanwa),
  ("tale", taiLe),
  ("takr", takri),
  ("taml", tamil),
  ("tang", tangut),
  ("telu", telugu),
  ("thaa", thaana),
  ("thai", thai),
  ("tibt", tibetan),
  ("tfng", tifinagh),
  ("tirh", tirhuta),
  ("todr", todhri),
  ("toto", toto),
  ("tutg", tuluTigalari),
  ("yezi", yezidi),
  ("yiii", yi)]

/-- The tables of the characters in use by a script, given by its entry in the
list of scripts: a character is in use if an odd number of them contains it. -/
def tablesOf (entry : List String × RangeTable) : List RangeTable :=
  entry.2 :: (entry.1.head?.bind fun name => differences.lookup name).toList

end ScriptExtension
end Unicode
end FencedHighlight
