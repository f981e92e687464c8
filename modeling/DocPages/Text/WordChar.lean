import DocPages.Text.Numeral

/-!
# Word characters and punctuation

A word is a run of alphabetic characters, marks, decimal digits, connectors and joiners. Punctuation
holds the general categories Punctuation and Symbol.
-/

namespace DocPages.Text

/-- Marks, connectors and joiners that are not alphabetic. -/
def wordMarkRuns : List CodeRun :=
  [⟨768, 836, 1⟩, ⟨838, 879, 1⟩, ⟨1155, 1161, 1⟩, ⟨1425, 1455, 1⟩, ⟨1624, 1624, 1⟩,
   ⟨1759, 1760, 1⟩, ⟨1770, 1772, 1⟩, ⟨1856, 1866, 1⟩, ⟨2027, 2035, 1⟩, ⟨2045, 2045, 1⟩,
   ⟨2072, 2073, 1⟩, ⟨2093, 2093, 1⟩, ⟨2137, 2139, 1⟩, ⟨2200, 2207, 1⟩, ⟨2250, 2259, 1⟩,
   ⟨2272, 2273, 1⟩, ⟨2282, 2287, 1⟩, ⟨2364, 2364, 1⟩, ⟨2381, 2381, 1⟩, ⟨2385, 2388, 1⟩,
   ⟨2492, 2492, 1⟩, ⟨2509, 2509, 1⟩, ⟨2558, 2558, 1⟩, ⟨2620, 2620, 1⟩, ⟨2637, 2637, 1⟩,
   ⟨2748, 2748, 1⟩, ⟨2765, 2765, 1⟩, ⟨2813, 2815, 1⟩, ⟨2876, 2876, 1⟩, ⟨2893, 2893, 1⟩,
   ⟨2901, 2901, 1⟩, ⟨3021, 3021, 1⟩, ⟨3132, 3132, 1⟩, ⟨3149, 3149, 1⟩, ⟨3260, 3260, 1⟩,
   ⟨3277, 3277, 1⟩, ⟨3387, 3388, 1⟩, ⟨3405, 3405, 1⟩, ⟨3530, 3530, 1⟩, ⟨3655, 3660, 1⟩,
   ⟨3662, 3662, 1⟩, ⟨3770, 3770, 1⟩, ⟨3784, 3788, 1⟩, ⟨3790, 3790, 1⟩, ⟨3864, 3865, 1⟩,
   ⟨3893, 3897, 2⟩, ⟨3902, 3903, 1⟩, ⟨3972, 3972, 1⟩, ⟨3974, 3975, 1⟩, ⟨4038, 4038, 1⟩,
   ⟨4151, 4151, 1⟩, ⟨4153, 4154, 1⟩, ⟨4957, 4959, 1⟩, ⟨5908, 5909, 1⟩, ⟨5940, 5940, 1⟩,
   ⟨6068, 6069, 1⟩, ⟨6089, 6099, 1⟩, ⟨6109, 6109, 1⟩, ⟨6155, 6157, 1⟩, ⟨6159, 6159, 1⟩,
   ⟨6457, 6459, 1⟩, ⟨6752, 6752, 1⟩, ⟨6773, 6780, 1⟩, ⟨6783, 6783, 1⟩, ⟨6832, 6846, 1⟩,
   ⟨6849, 6859, 1⟩, ⟨6964, 6964, 1⟩, ⟨6980, 6980, 1⟩, ⟨7019, 7027, 1⟩, ⟨7082, 7083, 1⟩,
   ⟨7142, 7142, 1⟩, ⟨7154, 7155, 1⟩, ⟨7223, 7223, 1⟩, ⟨7376, 7378, 1⟩, ⟨7380, 7400, 1⟩,
   ⟨7405, 7405, 1⟩, ⟨7412, 7412, 1⟩, ⟨7415, 7417, 1⟩, ⟨7616, 7654, 1⟩, ⟨7669, 7679, 1⟩,
   ⟨8204, 8205, 1⟩, ⟨8255, 8256, 1⟩, ⟨8276, 8276, 1⟩, ⟨8400, 8432, 1⟩, ⟨11503, 11505, 1⟩,
   ⟨11647, 11647, 1⟩, ⟨12330, 12335, 1⟩, ⟨12441, 12442, 1⟩, ⟨42607, 42610, 1⟩, ⟨42620, 42621, 1⟩,
   ⟨42736, 42737, 1⟩, ⟨43014, 43014, 1⟩, ⟨43052, 43052, 1⟩, ⟨43204, 43204, 1⟩, ⟨43232, 43249, 1⟩,
   ⟨43307, 43309, 1⟩, ⟨43347, 43347, 1⟩, ⟨43443, 43443, 1⟩, ⟨43456, 43456, 1⟩, ⟨43711, 43711, 1⟩,
   ⟨43713, 43713, 1⟩, ⟨43766, 43766, 1⟩, ⟨44012, 44013, 1⟩, ⟨65024, 65039, 1⟩, ⟨65056, 65071, 1⟩,
   ⟨65075, 65076, 1⟩, ⟨65101, 65103, 1⟩, ⟨65343, 65343, 1⟩, ⟨66045, 66045, 1⟩, ⟨66272, 66272, 1⟩,
   ⟨68152, 68154, 1⟩, ⟨68159, 68159, 1⟩, ⟨68325, 68326, 1⟩, ⟨69373, 69375, 1⟩, ⟨69446, 69456, 1⟩,
   ⟨69506, 69509, 1⟩, ⟨69702, 69702, 1⟩, ⟨69744, 69744, 1⟩, ⟨69759, 69759, 1⟩, ⟨69817, 69818, 1⟩,
   ⟨69939, 69940, 1⟩, ⟨70003, 70003, 1⟩, ⟨70080, 70080, 1⟩, ⟨70089, 70092, 1⟩, ⟨70197, 70198, 1⟩,
   ⟨70377, 70378, 1⟩, ⟨70459, 70460, 1⟩, ⟨70477, 70477, 1⟩, ⟨70502, 70508, 1⟩, ⟨70512, 70516, 1⟩,
   ⟨70722, 70722, 1⟩, ⟨70726, 70726, 1⟩, ⟨70750, 70750, 1⟩, ⟨70850, 70851, 1⟩, ⟨71103, 71104, 1⟩,
   ⟨71231, 71231, 1⟩, ⟨71350, 71351, 1⟩, ⟨71467, 71467, 1⟩, ⟨71737, 71738, 1⟩, ⟨71997, 71998, 1⟩,
   ⟨72003, 72003, 1⟩, ⟨72160, 72160, 1⟩, ⟨72243, 72244, 1⟩, ⟨72263, 72263, 1⟩, ⟨72344, 72345, 1⟩,
   ⟨72767, 72767, 1⟩, ⟨73026, 73026, 1⟩, ⟨73028, 73029, 1⟩, ⟨73111, 73111, 1⟩, ⟨73537, 73538, 1⟩,
   ⟨78912, 78912, 1⟩, ⟨78919, 78933, 1⟩, ⟨92912, 92916, 1⟩, ⟨92976, 92982, 1⟩, ⟨94180, 94180, 1⟩,
   ⟨113821, 113821, 1⟩, ⟨118528, 118573, 1⟩, ⟨118576, 118598, 1⟩, ⟨119141, 119145, 1⟩,
   ⟨119149, 119154, 1⟩, ⟨119163, 119170, 1⟩, ⟨119173, 119179, 1⟩, ⟨119210, 119213, 1⟩,
   ⟨119362, 119364, 1⟩, ⟨121344, 121398, 1⟩, ⟨121403, 121452, 1⟩, ⟨121461, 121461, 1⟩,
   ⟨121476, 121476, 1⟩, ⟨121499, 121503, 1⟩, ⟨121505, 121519, 1⟩, ⟨123184, 123190, 1⟩,
   ⟨123566, 123566, 1⟩, ⟨123628, 123631, 1⟩, ⟨124140, 124143, 1⟩, ⟨125136, 125142, 1⟩,
   ⟨125252, 125254, 1⟩, ⟨125256, 125258, 1⟩, ⟨917760, 917999, 1⟩]

/-- A character of a word. -/
def isWordChar (c : Char) : Bool :=
  c == '_' || isAlphabetic c || isDecimalDigit c || inRuns wordMarkRuns c.toNat

/-- The 32 ASCII punctuation characters. -/
def isAsciiPunctuation (c : Char) : Bool :=
  Nat.ble 33 c.toNat && Nat.ble c.toNat 126 && !c.isAlphanum

def punctuationRuns : List CodeRun :=
  [⟨161, 169, 1⟩, ⟨171, 172, 1⟩, ⟨174, 177, 1⟩, ⟨180, 180, 1⟩, ⟨182, 184, 1⟩, ⟨187, 187, 1⟩,
   ⟨191, 191, 1⟩, ⟨215, 215, 1⟩, ⟨247, 247, 1⟩, ⟨706, 709, 1⟩, ⟨722, 735, 1⟩, ⟨741, 747, 1⟩,
   ⟨749, 749, 1⟩, ⟨751, 767, 1⟩, ⟨885, 885, 1⟩, ⟨894, 894, 1⟩, ⟨900, 901, 1⟩, ⟨903, 903, 1⟩,
   ⟨1014, 1014, 1⟩, ⟨1154, 1154, 1⟩, ⟨1370, 1375, 1⟩, ⟨1417, 1418, 1⟩, ⟨1421, 1423, 1⟩,
   ⟨1470, 1470, 1⟩, ⟨1472, 1472, 1⟩, ⟨1475, 1475, 1⟩, ⟨1478, 1478, 1⟩, ⟨1523, 1524, 1⟩,
   ⟨1542, 1551, 1⟩, ⟨1563, 1563, 1⟩, ⟨1565, 1567, 1⟩, ⟨1642, 1645, 1⟩, ⟨1748, 1748, 1⟩,
   ⟨1758, 1758, 1⟩, ⟨1769, 1769, 1⟩, ⟨1789, 1790, 1⟩, ⟨1792, 1805, 1⟩, ⟨2038, 2041, 1⟩,
   ⟨2046, 2047, 1⟩, ⟨2096, 2110, 1⟩, ⟨2142, 2142, 1⟩, ⟨2184, 2184, 1⟩, ⟨2404, 2405, 1⟩,
   ⟨2416, 2416, 1⟩, ⟨2546, 2547, 1⟩, ⟨2554, 2555, 1⟩, ⟨2557, 2557, 1⟩, ⟨2678, 2678, 1⟩,
   ⟨2800, 2801, 1⟩, ⟨2928, 2928, 1⟩, ⟨3059, 3066, 1⟩, ⟨3191, 3191, 1⟩, ⟨3199, 3199, 1⟩,
   ⟨3204, 3204, 1⟩, ⟨3407, 3407, 1⟩, ⟨3449, 3449, 1⟩, ⟨3572, 3572, 1⟩, ⟨3647, 3647, 1⟩,
   ⟨3663, 3663, 1⟩, ⟨3674, 3675, 1⟩, ⟨3841, 3863, 1⟩, ⟨3866, 3871, 1⟩, ⟨3892, 3896, 2⟩,
   ⟨3898, 3901, 1⟩, ⟨3973, 3973, 1⟩, ⟨4030, 4037, 1⟩, ⟨4039, 4044, 1⟩, ⟨4046, 4058, 1⟩,
   ⟨4170, 4175, 1⟩, ⟨4254, 4255, 1⟩, ⟨4347, 4347, 1⟩, ⟨4960, 4968, 1⟩, ⟨5008, 5017, 1⟩,
   ⟨5120, 5120, 1⟩, ⟨5741, 5742, 1⟩, ⟨5787, 5788, 1⟩, ⟨5867, 5869, 1⟩, ⟨5941, 5942, 1⟩,
   ⟨6100, 6102, 1⟩, ⟨6104, 6107, 1⟩, ⟨6144, 6154, 1⟩, ⟨6464, 6464, 1⟩, ⟨6468, 6469, 1⟩,
   ⟨6622, 6655, 1⟩, ⟨6686, 6687, 1⟩, ⟨6816, 6822, 1⟩, ⟨6824, 6829, 1⟩, ⟨7002, 7018, 1⟩,
   ⟨7028, 7038, 1⟩, ⟨7164, 7167, 1⟩, ⟨7227, 7231, 1⟩, ⟨7294, 7295, 1⟩, ⟨7360, 7367, 1⟩,
   ⟨7379, 7379, 1⟩, ⟨8125, 8125, 1⟩, ⟨8127, 8129, 1⟩, ⟨8141, 8143, 1⟩, ⟨8157, 8159, 1⟩,
   ⟨8173, 8175, 1⟩, ⟨8189, 8190, 1⟩, ⟨8208, 8231, 1⟩, ⟨8240, 8286, 1⟩, ⟨8314, 8318, 1⟩,
   ⟨8330, 8334, 1⟩, ⟨8352, 8384, 1⟩, ⟨8448, 8449, 1⟩, ⟨8451, 8454, 1⟩, ⟨8456, 8457, 1⟩,
   ⟨8468, 8468, 1⟩, ⟨8470, 8472, 1⟩, ⟨8478, 8483, 1⟩, ⟨8485, 8489, 2⟩, ⟨8494, 8494, 1⟩,
   ⟨8506, 8507, 1⟩, ⟨8512, 8516, 1⟩, ⟨8522, 8525, 1⟩, ⟨8527, 8527, 1⟩, ⟨8586, 8587, 1⟩,
   ⟨8592, 9254, 1⟩, ⟨9280, 9290, 1⟩, ⟨9372, 9449, 1⟩, ⟨9472, 10101, 1⟩, ⟨10132, 11123, 1⟩,
   ⟨11126, 11157, 1⟩, ⟨11159, 11263, 1⟩, ⟨11493, 11498, 1⟩, ⟨11513, 11516, 1⟩, ⟨11518, 11519, 1⟩,
   ⟨11632, 11632, 1⟩, ⟨11776, 11822, 1⟩, ⟨11824, 11869, 1⟩, ⟨11904, 11929, 1⟩, ⟨11931, 12019, 1⟩,
   ⟨12032, 12245, 1⟩, ⟨12272, 12283, 1⟩, ⟨12289, 12292, 1⟩, ⟨12296, 12320, 1⟩, ⟨12336, 12336, 1⟩,
   ⟨12342, 12343, 1⟩, ⟨12349, 12351, 1⟩, ⟨12443, 12444, 1⟩, ⟨12448, 12448, 1⟩, ⟨12539, 12539, 1⟩,
   ⟨12688, 12689, 1⟩, ⟨12694, 12703, 1⟩, ⟨12736, 12771, 1⟩, ⟨12800, 12830, 1⟩, ⟨12842, 12871, 1⟩,
   ⟨12880, 12880, 1⟩, ⟨12896, 12927, 1⟩, ⟨12938, 12976, 1⟩, ⟨12992, 13311, 1⟩, ⟨19904, 19967, 1⟩,
   ⟨42128, 42182, 1⟩, ⟨42238, 42239, 1⟩, ⟨42509, 42511, 1⟩, ⟨42611, 42611, 1⟩, ⟨42622, 42622, 1⟩,
   ⟨42738, 42743, 1⟩, ⟨42752, 42774, 1⟩, ⟨42784, 42785, 1⟩, ⟨42889, 42890, 1⟩, ⟨43048, 43051, 1⟩,
   ⟨43062, 43065, 1⟩, ⟨43124, 43127, 1⟩, ⟨43214, 43215, 1⟩, ⟨43256, 43258, 1⟩, ⟨43260, 43260, 1⟩,
   ⟨43310, 43311, 1⟩, ⟨43359, 43359, 1⟩, ⟨43457, 43469, 1⟩, ⟨43486, 43487, 1⟩, ⟨43612, 43615, 1⟩,
   ⟨43639, 43641, 1⟩, ⟨43742, 43743, 1⟩, ⟨43760, 43761, 1⟩, ⟨43867, 43867, 1⟩, ⟨43882, 43883, 1⟩,
   ⟨44011, 44011, 1⟩, ⟨64297, 64297, 1⟩, ⟨64434, 64450, 1⟩, ⟨64830, 64847, 1⟩, ⟨64975, 64975, 1⟩,
   ⟨65020, 65023, 1⟩, ⟨65040, 65049, 1⟩, ⟨65072, 65106, 1⟩, ⟨65108, 65126, 1⟩, ⟨65128, 65131, 1⟩,
   ⟨65281, 65295, 1⟩, ⟨65306, 65312, 1⟩, ⟨65339, 65344, 1⟩, ⟨65371, 65381, 1⟩, ⟨65504, 65510, 1⟩,
   ⟨65512, 65518, 1⟩, ⟨65532, 65533, 1⟩, ⟨65792, 65794, 1⟩, ⟨65847, 65855, 1⟩, ⟨65913, 65929, 1⟩,
   ⟨65932, 65934, 1⟩, ⟨65936, 65948, 1⟩, ⟨65952, 65952, 1⟩, ⟨66000, 66044, 1⟩, ⟨66463, 66463, 1⟩,
   ⟨66512, 66512, 1⟩, ⟨66927, 66927, 1⟩, ⟨67671, 67671, 1⟩, ⟨67703, 67704, 1⟩, ⟨67871, 67871, 1⟩,
   ⟨67903, 67903, 1⟩, ⟨68176, 68184, 1⟩, ⟨68223, 68223, 1⟩, ⟨68296, 68296, 1⟩, ⟨68336, 68342, 1⟩,
   ⟨68409, 68415, 1⟩, ⟨68505, 68508, 1⟩, ⟨69293, 69293, 1⟩, ⟨69461, 69465, 1⟩, ⟨69510, 69513, 1⟩,
   ⟨69703, 69709, 1⟩, ⟨69819, 69820, 1⟩, ⟨69822, 69825, 1⟩, ⟨69952, 69955, 1⟩, ⟨70004, 70005, 1⟩,
   ⟨70085, 70088, 1⟩, ⟨70093, 70093, 1⟩, ⟨70107, 70107, 1⟩, ⟨70109, 70111, 1⟩, ⟨70200, 70205, 1⟩,
   ⟨70313, 70313, 1⟩, ⟨70731, 70735, 1⟩, ⟨70746, 70747, 1⟩, ⟨70749, 70749, 1⟩, ⟨70854, 70854, 1⟩,
   ⟨71105, 71127, 1⟩, ⟨71233, 71235, 1⟩, ⟨71264, 71276, 1⟩, ⟨71353, 71353, 1⟩, ⟨71484, 71487, 1⟩,
   ⟨71739, 71739, 1⟩, ⟨72004, 72006, 1⟩, ⟨72162, 72162, 1⟩, ⟨72255, 72262, 1⟩, ⟨72346, 72348, 1⟩,
   ⟨72350, 72354, 1⟩, ⟨72448, 72457, 1⟩, ⟨72769, 72773, 1⟩, ⟨72816, 72817, 1⟩, ⟨73463, 73464, 1⟩,
   ⟨73539, 73551, 1⟩, ⟨73685, 73713, 1⟩, ⟨73727, 73727, 1⟩, ⟨74864, 74868, 1⟩, ⟨77809, 77810, 1⟩,
   ⟨92782, 92783, 1⟩, ⟨92917, 92917, 1⟩, ⟨92983, 92991, 1⟩, ⟨92996, 92997, 1⟩, ⟨93847, 93850, 1⟩,
   ⟨94178, 94178, 1⟩, ⟨113820, 113820, 1⟩, ⟨113823, 113823, 1⟩, ⟨118608, 118723, 1⟩,
   ⟨118784, 119029, 1⟩, ⟨119040, 119078, 1⟩, ⟨119081, 119140, 1⟩, ⟨119146, 119148, 1⟩,
   ⟨119171, 119172, 1⟩, ⟨119180, 119209, 1⟩, ⟨119214, 119274, 1⟩, ⟨119296, 119361, 1⟩,
   ⟨119365, 119365, 1⟩, ⟨119552, 119638, 1⟩, ⟨120513, 120513, 1⟩, ⟨120539, 120539, 1⟩,
   ⟨120571, 120571, 1⟩, ⟨120597, 120597, 1⟩, ⟨120629, 120629, 1⟩, ⟨120655, 120655, 1⟩,
   ⟨120687, 120687, 1⟩, ⟨120713, 120713, 1⟩, ⟨120745, 120745, 1⟩, ⟨120771, 120771, 1⟩,
   ⟨120832, 121343, 1⟩, ⟨121399, 121402, 1⟩, ⟨121453, 121460, 1⟩, ⟨121462, 121475, 1⟩,
   ⟨121477, 121483, 1⟩, ⟨123215, 123215, 1⟩, ⟨123647, 123647, 1⟩, ⟨125278, 125279, 1⟩,
   ⟨126124, 126124, 1⟩, ⟨126128, 126128, 1⟩, ⟨126254, 126254, 1⟩, ⟨126704, 126705, 1⟩,
   ⟨126976, 127019, 1⟩, ⟨127024, 127123, 1⟩, ⟨127136, 127150, 1⟩, ⟨127153, 127167, 1⟩,
   ⟨127169, 127183, 1⟩, ⟨127185, 127221, 1⟩, ⟨127245, 127405, 1⟩, ⟨127462, 127490, 1⟩,
   ⟨127504, 127547, 1⟩, ⟨127552, 127560, 1⟩, ⟨127568, 127569, 1⟩, ⟨127584, 127589, 1⟩,
   ⟨127744, 128727, 1⟩, ⟨128732, 128748, 1⟩, ⟨128752, 128764, 1⟩, ⟨128768, 128886, 1⟩,
   ⟨128891, 128985, 1⟩, ⟨128992, 129003, 1⟩, ⟨129008, 129008, 1⟩, ⟨129024, 129035, 1⟩,
   ⟨129040, 129095, 1⟩, ⟨129104, 129113, 1⟩, ⟨129120, 129159, 1⟩, ⟨129168, 129197, 1⟩,
   ⟨129200, 129201, 1⟩, ⟨129280, 129619, 1⟩, ⟨129632, 129645, 1⟩, ⟨129648, 129660, 1⟩,
   ⟨129664, 129672, 1⟩, ⟨129680, 129725, 1⟩, ⟨129727, 129733, 1⟩, ⟨129742, 129755, 1⟩,
   ⟨129760, 129768, 1⟩, ⟨129776, 129784, 1⟩, ⟨129792, 129938, 1⟩, ⟨129940, 129994, 1⟩]

/-- The general categories Punctuation and Symbol. -/
def isPunctuation (c : Char) : Bool :=
  inClass isAsciiPunctuation punctuationRuns c

end DocPages.Text
