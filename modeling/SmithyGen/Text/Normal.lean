import SmithyGen.Text.IdentChar

namespace SmithyGen.Text

/-- Letters and digits that another one stands for: the first and the last of a run, and what stands
for the first. Like all tables here this one is of Unicode 14.0, and it goes as far as identifiers
do. -/
def formRuns : List (Nat × Nat × Nat) :=
  [(170, 170, 97), (181, 181, 956), (186, 186, 111), (383, 383, 115), (688, 688, 104),
   (689, 689, 614), (690, 690, 106), (691, 691, 114), (692, 692, 633), (693, 693, 635),
   (694, 694, 641), (695, 695, 119), (696, 696, 121), (736, 736, 611), (737, 737, 108),
   (738, 738, 115), (739, 739, 120), (740, 740, 661), (832, 833, 768), (835, 835, 787),
   (884, 884, 697), (903, 903, 183), (976, 976, 946), (977, 977, 952), (978, 978, 933),
   (981, 981, 966), (982, 982, 960), (1008, 1008, 954), (1009, 1010, 961), (1012, 1012, 920),
   (1013, 1013, 949), (1017, 1017, 931), (4348, 4348, 4316), (7468, 7468, 65), (7469, 7469, 198),
   (7470, 7470, 66), (7472, 7473, 68), (7474, 7474, 398), (7475, 7482, 71), (7484, 7484, 79),
   (7485, 7485, 546), (7486, 7486, 80), (7487, 7487, 82), (7488, 7489, 84), (7490, 7490, 87),
   (7491, 7491, 97), (7492, 7493, 592), (7494, 7494, 7426), (7495, 7495, 98), (7496, 7497, 100),
   (7498, 7498, 601), (7499, 7500, 603), (7501, 7501, 103), (7503, 7503, 107), (7504, 7504, 109),
   (7505, 7505, 331), (7506, 7506, 111), (7507, 7507, 596), (7508, 7509, 7446), (7510, 7510, 112),
   (7511, 7512, 116), (7513, 7513, 7453), (7514, 7514, 623), (7515, 7515, 118),
   (7516, 7516, 7461), (7517, 7519, 946), (7520, 7521, 966), (7522, 7522, 105), (7523, 7523, 114),
   (7524, 7525, 117), (7526, 7527, 946), (7528, 7528, 961), (7529, 7530, 966), (7544, 7544, 1085),
   (7579, 7579, 594), (7580, 7580, 99), (7581, 7581, 597), (7582, 7582, 240), (7583, 7583, 604),
   (7584, 7584, 102), (7585, 7585, 607), (7586, 7586, 609), (7587, 7587, 613), (7588, 7590, 616),
   (7591, 7591, 7547), (7592, 7592, 669), (7593, 7593, 621), (7594, 7594, 7557),
   (7595, 7595, 671), (7596, 7596, 625), (7597, 7597, 624), (7598, 7601, 626), (7602, 7602, 632),
   (7603, 7604, 642), (7605, 7605, 427), (7606, 7607, 649), (7608, 7608, 7452), (7609, 7610, 651),
   (7611, 7611, 122), (7612, 7614, 656), (7615, 7615, 952), (8126, 8126, 953), (8305, 8305, 105),
   (8319, 8319, 110), (8336, 8336, 97), (8337, 8337, 101), (8338, 8338, 111), (8339, 8339, 120),
   (8340, 8340, 601), (8341, 8341, 104), (8342, 8345, 107), (8346, 8346, 112), (8347, 8348, 115),
   (8450, 8450, 67), (8455, 8455, 400), (8458, 8458, 103), (8459, 8459, 72), (8460, 8460, 72),
   (8461, 8461, 72), (8462, 8462, 104), (8463, 8463, 295), (8464, 8464, 73), (8465, 8465, 73),
   (8466, 8466, 76), (8467, 8467, 108), (8469, 8469, 78), (8473, 8475, 80), (8476, 8476, 82),
   (8477, 8477, 82), (8484, 8484, 90), (8486, 8486, 937), (8488, 8488, 90), (8490, 8490, 75),
   (8492, 8493, 66), (8495, 8495, 101), (8496, 8497, 69), (8499, 8499, 77), (8500, 8500, 111),
   (8501, 8504, 1488), (8505, 8505, 105), (8508, 8508, 960), (8509, 8509, 947), (8510, 8510, 915),
   (8511, 8511, 928), (8517, 8517, 68), (8518, 8519, 100), (8520, 8521, 105), (8544, 8544, 73),
   (8548, 8548, 86), (8553, 8553, 88), (8556, 8556, 76), (8557, 8558, 67), (8559, 8559, 77),
   (8560, 8560, 105), (8564, 8564, 118), (8569, 8569, 120), (8572, 8572, 108), (8573, 8574, 99),
   (8575, 8575, 109), (11388, 11388, 106), (11389, 11389, 86), (11631, 11631, 11617),
   (12344, 12344, 21313), (12345, 12346, 21316), (12593, 12594, 4352), (12595, 12595, 4522),
   (12596, 12596, 4354), (12597, 12598, 4524), (12599, 12601, 4355), (12602, 12607, 4528),
   (12608, 12608, 4378), (12609, 12611, 4358), (12612, 12612, 4385), (12613, 12622, 4361),
   (12623, 12643, 4449), (12644, 12644, 4448), (12645, 12646, 4372), (12647, 12648, 4551),
   (12649, 12649, 4556), (12650, 12650, 4558), (12651, 12651, 4563), (12652, 12652, 4567),
   (12653, 12653, 4569), (12654, 12654, 4380), (12655, 12655, 4573), (12656, 12656, 4575),
   (12657, 12658, 4381), (12659, 12659, 4384), (12660, 12661, 4386), (12662, 12662, 4391),
   (12663, 12663, 4393), (12664, 12668, 4395), (12669, 12669, 4402), (12670, 12670, 4406),
   (12671, 12671, 4416), (12672, 12672, 4423), (12673, 12673, 4428), (12674, 12675, 4593),
   (12676, 12678, 4439), (12679, 12680, 4484), (12681, 12681, 4488), (12682, 12683, 4497),
   (12684, 12684, 4500), (12685, 12685, 4510), (12686, 12686, 4513), (42652, 42652, 1098),
   (42653, 42653, 1100), (42864, 42864, 42863), (42994, 42994, 67), (42995, 42995, 70),
   (42996, 42996, 81), (43000, 43000, 294), (43001, 43001, 339), (43868, 43868, 42791),
   (43869, 43869, 43831), (43870, 43870, 619), (43871, 43871, 43858), (43881, 43881, 653),
   (64288, 64288, 1506), (64289, 64289, 1488), (64290, 64291, 1491), (64292, 64294, 1499),
   (64295, 64295, 1512), (64296, 64296, 1514), (64336, 64336, 1649), (64337, 64337, 1649),
   (64338, 64338, 1659), (64339, 64339, 1659), (64340, 64340, 1659), (64341, 64341, 1659),
   (64342, 64342, 1662), (64343, 64343, 1662), (64344, 64344, 1662), (64345, 64345, 1662),
   (64346, 64346, 1664), (64347, 64347, 1664), (64348, 64348, 1664), (64349, 64349, 1664),
   (64350, 64350, 1658), (64351, 64351, 1658), (64352, 64352, 1658), (64353, 64353, 1658),
   (64354, 64354, 1663), (64355, 64355, 1663), (64356, 64356, 1663), (64357, 64357, 1663),
   (64358, 64358, 1657), (64359, 64359, 1657), (64360, 64360, 1657), (64361, 64361, 1657),
   (64362, 64362, 1700), (64363, 64363, 1700), (64364, 64364, 1700), (64365, 64365, 1700),
   (64366, 64366, 1702), (64367, 64367, 1702), (64368, 64368, 1702), (64369, 64369, 1702),
   (64370, 64370, 1668), (64371, 64371, 1668), (64372, 64372, 1668), (64373, 64373, 1668),
   (64374, 64374, 1667), (64375, 64375, 1667), (64376, 64376, 1667), (64377, 64377, 1667),
   (64378, 64378, 1670), (64379, 64379, 1670), (64380, 64380, 1670), (64381, 64382, 1670),
   (64383, 64383, 1671), (64384, 64384, 1671), (64385, 64385, 1671), (64386, 64386, 1677),
   (64387, 64387, 1677), (64388, 64388, 1676), (64389, 64389, 1676), (64390, 64390, 1678),
   (64391, 64391, 1678), (64392, 64392, 1672), (64393, 64393, 1672), (64394, 64394, 1688),
   (64395, 64395, 1688), (64396, 64396, 1681), (64397, 64397, 1681), (64398, 64398, 1705),
   (64399, 64399, 1705), (64400, 64400, 1705), (64401, 64401, 1705), (64402, 64402, 1711),
   (64403, 64403, 1711), (64404, 64404, 1711), (64405, 64405, 1711), (64406, 64406, 1715),
   (64407, 64407, 1715), (64408, 64408, 1715), (64409, 64409, 1715), (64410, 64410, 1713),
   (64411, 64411, 1713), (64412, 64412, 1713), (64413, 64413, 1713), (64414, 64414, 1722),
   (64415, 64416, 1722), (64417, 64417, 1723), (64418, 64418, 1723), (64419, 64419, 1723),
   (64422, 64422, 1729), (64423, 64423, 1729), (64424, 64424, 1729), (64425, 64425, 1729),
   (64426, 64426, 1726), (64427, 64427, 1726), (64428, 64428, 1726), (64429, 64429, 1726),
   (64430, 64430, 1746), (64431, 64431, 1746), (64467, 64467, 1709), (64468, 64468, 1709),
   (64469, 64469, 1709), (64470, 64470, 1709), (64471, 64471, 1735), (64472, 64472, 1735),
   (64473, 64473, 1734), (64474, 64474, 1734), (64475, 64475, 1736), (64476, 64476, 1736),
   (64478, 64478, 1739), (64479, 64479, 1739), (64480, 64480, 1733), (64481, 64481, 1733),
   (64482, 64482, 1737), (64483, 64483, 1737), (64484, 64484, 1744), (64485, 64485, 1744),
   (64486, 64486, 1744), (64487, 64487, 1744), (64488, 64488, 1609), (64489, 64489, 1609),
   (64508, 64508, 1740), (64509, 64509, 1740), (64510, 64510, 1740), (64511, 64511, 1740),
   (65075, 65075, 95), (65076, 65076, 95), (65101, 65101, 95), (65102, 65102, 95),
   (65103, 65103, 95), (65152, 65152, 1569), (65165, 65165, 1575), (65166, 65167, 1575),
   (65168, 65168, 1576), (65169, 65169, 1576), (65170, 65171, 1576), (65172, 65173, 1577),
   (65174, 65174, 1578), (65175, 65175, 1578), (65176, 65177, 1578), (65178, 65178, 1579),
   (65179, 65179, 1579), (65180, 65181, 1579), (65182, 65182, 1580), (65183, 65183, 1580),
   (65184, 65185, 1580), (65186, 65186, 1581), (65187, 65187, 1581), (65188, 65189, 1581),
   (65190, 65190, 1582), (65191, 65191, 1582), (65192, 65193, 1582), (65194, 65195, 1583),
   (65196, 65197, 1584), (65198, 65199, 1585), (65200, 65201, 1586), (65202, 65202, 1587),
   (65203, 65203, 1587), (65204, 65205, 1587), (65206, 65206, 1588), (65207, 65207, 1588),
   (65208, 65209, 1588), (65210, 65210, 1589), (65211, 65211, 1589), (65212, 65213, 1589),
   (65214, 65214, 1590), (65215, 65215, 1590), (65216, 65217, 1590), (65218, 65218, 1591),
   (65219, 65219, 1591), (65220, 65221, 1591), (65222, 65222, 1592), (65223, 65223, 1592),
   (65224, 65225, 1592), (65226, 65226, 1593), (65227, 65227, 1593), (65228, 65229, 1593),
   (65230, 65230, 1594), (65231, 65231, 1594), (65232, 65232, 1594), (65233, 65233, 1601),
   (65234, 65234, 1601), (65235, 65235, 1601), (65236, 65237, 1601), (65238, 65238, 1602),
   (65239, 65239, 1602), (65240, 65241, 1602), (65242, 65242, 1603), (65243, 65243, 1603),
   (65244, 65245, 1603), (65246, 65246, 1604), (65247, 65247, 1604), (65248, 65249, 1604),
   (65250, 65250, 1605), (65251, 65251, 1605), (65252, 65253, 1605), (65254, 65254, 1606),
   (65255, 65255, 1606), (65256, 65257, 1606), (65258, 65258, 1607), (65259, 65259, 1607),
   (65260, 65261, 1607), (65262, 65263, 1608), (65264, 65265, 1609), (65266, 65266, 1610),
   (65267, 65267, 1610), (65268, 65268, 1610), (65296, 65305, 48), (65313, 65338, 65),
   (65343, 65343, 95), (65345, 65370, 97), (65382, 65382, 12530), (65383, 65383, 12449),
   (65384, 65384, 12451), (65385, 65385, 12453), (65386, 65386, 12455), (65387, 65387, 12457),
   (65388, 65388, 12515), (65389, 65389, 12517), (65390, 65390, 12519), (65391, 65391, 12483),
   (65392, 65392, 12540), (65393, 65393, 12450), (65394, 65394, 12452), (65395, 65395, 12454),
   (65396, 65396, 12456), (65397, 65398, 12458), (65399, 65399, 12461), (65400, 65400, 12463),
   (65401, 65401, 12465), (65402, 65402, 12467), (65403, 65403, 12469), (65404, 65404, 12471),
   (65405, 65405, 12473), (65406, 65406, 12475), (65407, 65407, 12477), (65408, 65408, 12479),
   (65409, 65409, 12481), (65410, 65410, 12484), (65411, 65411, 12486), (65412, 65412, 12488),
   (65413, 65418, 12490), (65419, 65419, 12498), (65420, 65420, 12501), (65421, 65421, 12504),
   (65422, 65422, 12507), (65423, 65427, 12510), (65428, 65428, 12516), (65429, 65429, 12518),
   (65430, 65435, 12520), (65436, 65436, 12527), (65437, 65437, 12531), (65438, 65439, 12441),
   (65440, 65440, 4448), (65441, 65442, 4352), (65443, 65443, 4522), (65444, 65444, 4354),
   (65445, 65446, 4524), (65447, 65449, 4355), (65450, 65455, 4528), (65456, 65456, 4378),
   (65457, 65459, 4358), (65460, 65460, 4385), (65461, 65470, 4361), (65474, 65479, 4449),
   (65482, 65487, 4455), (65490, 65495, 4461), (65498, 65500, 4467), (67457, 67458, 720),
   (67459, 67459, 230), (67460, 67460, 665), (67461, 67461, 595), (67463, 67463, 675),
   (67464, 67464, 43878), (67465, 67465, 677), (67466, 67466, 676), (67467, 67468, 598),
   (67469, 67469, 7569), (67470, 67470, 600), (67471, 67471, 606), (67472, 67472, 681),
   (67473, 67473, 612), (67474, 67474, 610), (67475, 67475, 608), (67476, 67476, 667),
   (67477, 67477, 295), (67478, 67478, 668), (67479, 67479, 615), (67480, 67480, 644),
   (67481, 67482, 682), (67483, 67483, 620), (67484, 67484, 122628), (67485, 67485, 42894),
   (67486, 67486, 622), (67487, 67487, 122629), (67488, 67488, 654), (67489, 67489, 122630),
   (67490, 67490, 248), (67491, 67492, 630), (67493, 67493, 113), (67494, 67494, 634),
   (67495, 67495, 122632), (67496, 67497, 637), (67498, 67498, 640), (67499, 67499, 680),
   (67500, 67500, 678), (67501, 67501, 43879), (67502, 67502, 679), (67503, 67503, 648),
   (67504, 67504, 11377), (67506, 67506, 655), (67507, 67508, 673), (67509, 67509, 664),
   (67510, 67512, 448), (67513, 67513, 122634), (67514, 67514, 122654), (119808, 119833, 65),
   (119834, 119859, 97), (119860, 119885, 65), (119886, 119892, 97), (119894, 119911, 105),
   (119912, 119937, 65), (119938, 119963, 97), (119964, 119964, 65), (119966, 119967, 67),
   (119970, 119970, 71), (119973, 119974, 74), (119977, 119980, 78), (119982, 119989, 83),
   (119990, 119993, 97), (119995, 119995, 102), (119997, 120003, 104), (120005, 120015, 112),
   (120016, 120041, 65), (120042, 120067, 97), (120068, 120069, 65), (120071, 120074, 68),
   (120077, 120084, 74), (120086, 120092, 83), (120094, 120119, 97), (120120, 120121, 65),
   (120123, 120126, 68), (120128, 120132, 73), (120134, 120134, 79), (120138, 120144, 83),
   (120146, 120171, 97), (120172, 120197, 65), (120198, 120223, 97), (120224, 120249, 65),
   (120250, 120275, 97), (120276, 120301, 65), (120302, 120327, 97), (120328, 120353, 65),
   (120354, 120379, 97), (120380, 120405, 65), (120406, 120431, 97), (120432, 120457, 65),
   (120458, 120483, 97), (120484, 120484, 305), (120485, 120485, 567), (120488, 120504, 913),
   (120505, 120505, 920), (120506, 120512, 931), (120514, 120538, 945), (120540, 120540, 949),
   (120541, 120541, 952), (120542, 120542, 954), (120543, 120543, 966), (120544, 120544, 961),
   (120545, 120545, 960), (120546, 120562, 913), (120563, 120563, 920), (120564, 120570, 931),
   (120572, 120596, 945), (120598, 120598, 949), (120599, 120599, 952), (120600, 120600, 954),
   (120601, 120601, 966), (120602, 120602, 961), (120603, 120603, 960), (120604, 120620, 913),
   (120621, 120621, 920), (120622, 120628, 931), (120630, 120654, 945), (120656, 120656, 949),
   (120657, 120657, 952), (120658, 120658, 954), (120659, 120659, 966), (120660, 120660, 961),
   (120661, 120661, 960), (120662, 120678, 913), (120679, 120679, 920), (120680, 120686, 931),
   (120688, 120712, 945), (120714, 120714, 949), (120715, 120715, 952), (120716, 120716, 954),
   (120717, 120717, 966), (120718, 120718, 961), (120719, 120719, 960), (120720, 120736, 913),
   (120737, 120737, 920), (120738, 120744, 931), (120746, 120770, 945), (120772, 120772, 949),
   (120773, 120773, 952), (120774, 120774, 954), (120775, 120775, 966), (120776, 120776, 961),
   (120777, 120777, 960), (120778, 120779, 988), (120782, 120791, 48), (120792, 120801, 48),
   (120802, 120811, 48), (120812, 120821, 48), (120822, 120831, 48), (126464, 126465, 1575),
   (126466, 126466, 1580), (126467, 126467, 1583), (126469, 126469, 1608), (126470, 126470, 1586),
   (126471, 126471, 1581), (126472, 126472, 1591), (126473, 126473, 1610), (126474, 126477, 1603),
   (126478, 126478, 1587), (126479, 126479, 1593), (126480, 126480, 1601), (126481, 126481, 1589),
   (126482, 126482, 1602), (126483, 126483, 1585), (126484, 126484, 1588), (126485, 126486, 1578),
   (126487, 126487, 1582), (126488, 126488, 1584), (126489, 126489, 1590), (126490, 126490, 1592),
   (126491, 126491, 1594), (126492, 126492, 1646), (126493, 126493, 1722), (126494, 126494, 1697),
   (126495, 126495, 1647), (126497, 126497, 1576), (126498, 126498, 1580), (126500, 126500, 1607),
   (126503, 126503, 1581), (126505, 126505, 1610), (126506, 126509, 1603), (126510, 126510, 1587),
   (126511, 126511, 1593), (126512, 126512, 1601), (126513, 126513, 1589), (126514, 126514, 1602),
   (126516, 126516, 1588), (126517, 126518, 1578), (126519, 126519, 1582), (126521, 126521, 1590),
   (126523, 126523, 1594), (126530, 126530, 1580), (126535, 126535, 1581), (126537, 126537, 1610),
   (126539, 126539, 1604), (126541, 126541, 1606), (126542, 126542, 1587), (126543, 126543, 1593),
   (126545, 126545, 1589), (126546, 126546, 1602), (126548, 126548, 1588), (126551, 126551, 1582),
   (126553, 126553, 1590), (126555, 126555, 1594), (126557, 126557, 1722), (126559, 126559, 1647),
   (126561, 126561, 1576), (126562, 126562, 1580), (126564, 126564, 1607), (126567, 126567, 1581),
   (126568, 126568, 1591), (126569, 126569, 1610), (126570, 126570, 1603), (126572, 126573, 1605),
   (126574, 126574, 1587), (126575, 126575, 1593), (126576, 126576, 1601), (126577, 126577, 1589),
   (126578, 126578, 1602), (126580, 126580, 1588), (126581, 126582, 1578), (126583, 126583, 1582),
   (126585, 126585, 1590), (126586, 126586, 1592), (126587, 126587, 1594), (126588, 126588, 1646),
   (126590, 126590, 1697), (126592, 126593, 1575), (126594, 126594, 1580), (126595, 126595, 1583),
   (126596, 126597, 1607), (126598, 126598, 1586), (126599, 126599, 1581), (126600, 126600, 1591),
   (126601, 126601, 1610), (126603, 126605, 1604), (126606, 126606, 1587), (126607, 126607, 1593),
   (126608, 126608, 1601), (126609, 126609, 1589), (126610, 126610, 1602), (126611, 126611, 1585),
   (126612, 126612, 1588), (126613, 126614, 1578), (126615, 126615, 1582), (126616, 126616, 1584),
   (126617, 126617, 1590), (126618, 126618, 1592), (126619, 126619, 1594), (126625, 126625, 1576),
   (126626, 126626, 1580), (126627, 126627, 1583), (126629, 126629, 1608), (126630, 126630, 1586),
   (126631, 126631, 1581), (126632, 126632, 1591), (126633, 126633, 1610), (126635, 126637, 1604),
   (126638, 126638, 1587), (126639, 126639, 1593), (126640, 126640, 1601), (126641, 126641, 1589),
   (126642, 126642, 1602), (126643, 126643, 1585), (126644, 126644, 1588), (126645, 126646, 1578),
   (126647, 126647, 1582), (126648, 126648, 1584), (126649, 126649, 1590), (126650, 126650, 1592),
   (126651, 126651, 1594), (130032, 130041, 48)]

/-- Ideographs encoded twice: the first of a run, and what stands for each of them. -/
def ideographRuns : List (Nat × String) :=
  [(63744, "豈更車賈滑串句龜龜契金喇奈懶癩羅蘿螺裸邏樂洛烙珞落酪駱亂卵欄爛蘭鸞嵐濫藍襤拉臘蠟廊朗浪狼郎來冷勞"),
   (63792, "擄櫓爐盧老蘆虜路露魯鷺碌祿綠菉錄鹿論壟弄籠聾牢磊賂雷壘屢樓淚漏累縷陋勒肋凜凌稜綾菱陵讀拏樂諾丹寧"),
   (63840, "怒率異北磻便復不泌數索參塞省葉說殺辰沈拾若掠略亮兩凉梁糧良諒量勵呂女廬旅濾礪閭驪麗黎力曆歷轢年憐"),
   (63888, "戀撚漣煉璉秊練聯輦蓮連鍊列劣咽烈裂說廉念捻殮簾獵令囹寧嶺怜玲瑩羚聆鈴零靈領例禮醴隸惡了僚寮尿料樂"),
   (63936, "燎療蓼遼龍暈阮劉杻柳流溜琉留硫紐類六戮陸倫崙淪輪律慄栗率隆利吏履易李梨泥理痢罹裏裡里離匿溺吝燐璘"),
   (63984, "藺隣鱗麟林淋臨立笠粒狀炙識什茶刺切度拓糖宅洞暴輻行降見廓兀嗀"), (64016, "塚"), (64018, "晴"), (64021, "凞猪益礼神祥福靖精羽"),
   (64032, "蘒"), (64034, "諸"), (64037, "逸都"),
   (64042, "飯飼館鶴郞隷侮僧免勉勤卑喝嘆器塀墨層屮悔慨憎懲敏既暑梅海渚漢煮爫琢碑社祉祈祐祖祝禍禎穀突節練縉繁"), (64090, "署者臭艹艹著褐視謁謹賓贈辶逸難響頻恵𤋮舘"),
   (64112, "並况全侀充冀勇勺喝啕喙嗢塚墳奄奔婢嬨廒廙彩徭惘慎愈憎慠懲戴揄搜摒敖晴朗望杖歹殺流滛滋漢瀞煮瞧爵犯"),
   (64160, "猪瑱甆画瘝瘟益盛直睊着磌窱節类絛練缾者荒華蝹襁覆視調諸請謁諾諭謹變贈輸遲醙鉶陼難靖韛響頋頻鬒龜𢡊"), (64208, "𢡄𣏕㮝䀘䀹𥉉𥳐𧻓齃龎"),
   (194560, "丽丸乁𠄢你侮侻倂偺備僧像㒞𠘺免兔兤具𠔜㒹內再𠕋冗冤仌冬况𩇟凵刃㓟刻剆割剷㔕勇勉勤勺包匆北卉卑博即"),
   (194608, "卽卿卿卿𠨬灰及叟𠭣叫叱吆咞吸呈周咢哶唐啓啣善善喙喫喳嗂圖嘆圗噑噴切壮城埴堍型堲報墬𡓤売壷夆多夢奢"),
   (194656, "𡚨𡛪姬娛娧姘婦㛮㛼嬈嬾嬾𡧈寃寘寧寳𡬘寿将当尢㞁屠屮峀岍𡷤嵃𡷦嵮嵫嵼巡巢㠯巽帨帽幩㡢𢆃㡼庰庳庶廊𪎒"),
   (194704, "廾𢌱𢌱舁弢弢㣇𣊸𦇚形彫㣣徚忍志忹悁㤺㤜悔𢛔惇慈慌慎慌慺憎憲憤憯懞懲懶成戛扝抱拔捐𢬌挽拼捨掃揤𢯱搢"),
   (194752, "揅掩㨮摩摾撝摷㩬敏敬𣀊旣書晉㬙暑㬈㫤冒冕最暜肭䏙朗望朡杞杓𣏃㭉柺枅桒梅𣑭梎栟椔㮝楂榣槪檨𣚣櫛㰘次"),
   (194800, "𣢧歔㱎歲殟殺殻𣪍𡴋𣫺汎𣲼沿泍汧洖派海流浩浸涅𣴞洴港湮㴳滋滇𣻑淹潮𣽞𣾎濆瀹瀞瀛㶖灊災灷炭𠔥煅𤉣熜𤎫"),
   (194848, "爨爵牐𤘈犀犕𤜵𤠔獺王㺬玥㺸㺸瑇瑜瑱璅瓊㼛甤𤰶甾𤲒異𢆟瘐𤾡𤾸𥁄㿼䀈直𥃳𥃲𥄙𥄳眞真真睊䀹瞋䁆䂖𥐝硎碌"),
   (194896, "磌䃣𥘦祖𥚚𥛅福秫䄯穀穊穏𥥼𥪧𥪧竮䈂𥮫篆築䈧𥲀糒䊠糨糣紀𥾆絣䌁緇縂繅䌴𦈨𦉇䍙𦋙罺𦌾羕翺者𦓚𦔣聠𦖨聰"),
   (194944, "𣍟䏕育脃䐋脾媵𦞧𦞵𣎓𣎜舁舄辞䑫芑芋芝劳花芳芽苦𦬼若茝荣莭茣莽菧著荓菊菌菜𦰶𦵫𦳕䔫蓱蓳蔖𧏊蕤𦼬䕝䕡"),
   (194992, "𦾱𧃒䕫虐虜虧虩蚩蚈蜎蛢蝹蜨蝫螆䗗蟡蠁䗹衠衣𧙧裗裞䘵裺㒻𧢮𧥦䚾䛇誠諭變豕𧲨貫賁贛起𧼯𠠄跋趼跰𠣞軔輸"),
   (195040, "𨗒𨗭邔郱鄑𨜮鄛鈸鋗鋘鉼鏹鐕𨯺開䦕閷𨵷䧦雃嶲霣𩅅𩈚䩮䩶韠𩐊䪲𩒖頋頋頩𩖶飢䬳餩馧駂駾䯎𩬰鬒鱀鳽䳎䳭鵧"), (195088, "𪃎䳸𪄅𪈎𪊑麻䵖黹黾鼅鼏鼖鼻𪘀")]

/-- Letters that several stand for. -/
def expansions : List (Nat × List Nat) :=
  [(306, [73, 74]), (307, [105, 106]), (319, [76, 183]), (320, [108, 183]), (329, [700, 110]),
   (452, [68, 90, 780]), (453, [68, 122, 780]), (454, [100, 122, 780]), (455, [76, 74]),
   (456, [76, 106]), (457, [108, 106]), (458, [78, 74]), (459, [78, 106]), (460, [110, 106]),
   (497, [68, 90]), (498, [68, 122]), (499, [100, 122]), (836, [776, 769]), (1415, [1381, 1410]),
   (1653, [1575, 1652]), (1654, [1608, 1652]), (1655, [1735, 1652]), (1656, [1610, 1652]),
   (2392, [2325, 2364]), (2393, [2326, 2364]), (2394, [2327, 2364]), (2395, [2332, 2364]),
   (2396, [2337, 2364]), (2397, [2338, 2364]), (2398, [2347, 2364]), (2399, [2351, 2364]),
   (2524, [2465, 2492]), (2525, [2466, 2492]), (2527, [2479, 2492]), (2611, [2610, 2620]),
   (2614, [2616, 2620]), (2649, [2582, 2620]), (2650, [2583, 2620]), (2651, [2588, 2620]),
   (2654, [2603, 2620]), (2908, [2849, 2876]), (2909, [2850, 2876]), (3635, [3661, 3634]),
   (3763, [3789, 3762]), (3804, [3755, 3737]), (3805, [3755, 3745]), (3907, [3906, 4023]),
   (3917, [3916, 4023]), (3922, [3921, 4023]), (3927, [3926, 4023]), (3932, [3931, 4023]),
   (3945, [3904, 4021]), (3955, [3953, 3954]), (3957, [3953, 3956]), (3958, [4018, 3968]),
   (3959, [4018, 3953, 3968]), (3960, [4019, 3968]), (3961, [4019, 3953, 3968]),
   (3969, [3953, 3968]), (3987, [3986, 4023]), (3997, [3996, 4023]), (4002, [4001, 4023]),
   (4007, [4006, 4023]), (4012, [4011, 4023]), (4025, [3984, 4021]), (7834, [97, 702]),
   (8049, [945, 769]), (8051, [949, 769]), (8053, [951, 769]), (8055, [953, 769]),
   (8057, [959, 769]), (8059, [965, 769]), (8061, [969, 769]), (8123, [913, 769]),
   (8137, [917, 769]), (8139, [919, 769]), (8147, [953, 776, 769]), (8155, [921, 769]),
   (8163, [965, 776, 769]), (8171, [933, 769]), (8185, [927, 769]), (8187, [937, 769]),
   (8491, [65, 778]), (8545, [73, 73]), (8546, [73, 73, 73]), (8547, [73, 86]), (8549, [86, 73]),
   (8550, [86, 73, 73]), (8551, [86, 73, 73, 73]), (8552, [73, 88]), (8554, [88, 73]),
   (8555, [88, 73, 73]), (8561, [105, 105]), (8562, [105, 105, 105]), (8563, [105, 118]),
   (8565, [118, 105]), (8566, [118, 105, 105]), (8567, [118, 105, 105, 105]), (8568, [105, 120]),
   (8570, [120, 105]), (8571, [120, 105, 105]), (12447, [12424, 12426]), (12543, [12467, 12488]),
   (64256, [102, 102]), (64257, [102, 105]), (64258, [102, 108]), (64259, [102, 102, 105]),
   (64260, [102, 102, 108]), (64261, [115, 116]), (64262, [115, 116]), (64275, [1396, 1398]),
   (64276, [1396, 1381]), (64277, [1396, 1387]), (64278, [1406, 1398]), (64279, [1396, 1389]),
   (64285, [1497, 1460]), (64287, [1522, 1463]), (64298, [1513, 1473]), (64299, [1513, 1474]),
   (64300, [1513, 1468, 1473]), (64301, [1513, 1468, 1474]), (64302, [1488, 1463]),
   (64303, [1488, 1464]), (64304, [1488, 1468]), (64305, [1489, 1468]), (64306, [1490, 1468]),
   (64307, [1491, 1468]), (64308, [1492, 1468]), (64309, [1493, 1468]), (64310, [1494, 1468]),
   (64312, [1496, 1468]), (64313, [1497, 1468]), (64314, [1498, 1468]), (64315, [1499, 1468]),
   (64316, [1500, 1468]), (64318, [1502, 1468]), (64320, [1504, 1468]), (64321, [1505, 1468]),
   (64323, [1507, 1468]), (64324, [1508, 1468]), (64326, [1510, 1468]), (64327, [1511, 1468]),
   (64328, [1512, 1468]), (64329, [1513, 1468]), (64330, [1514, 1468]), (64331, [1493, 1465]),
   (64332, [1489, 1471]), (64333, [1499, 1471]), (64334, [1508, 1471]), (64335, [1488, 1500]),
   (64420, [1749, 1620]), (64421, [1749, 1620]), (64432, [1746, 1620]), (64433, [1746, 1620]),
   (64477, [1735, 1652]), (64490, [1610, 1620, 1575]), (64491, [1610, 1620, 1575]),
   (64492, [1610, 1620, 1749]), (64493, [1610, 1620, 1749]), (64494, [1610, 1620, 1608]),
   (64495, [1610, 1620, 1608]), (64496, [1610, 1620, 1735]), (64497, [1610, 1620, 1735]),
   (64498, [1610, 1620, 1734]), (64499, [1610, 1620, 1734]), (64500, [1610, 1620, 1736]),
   (64501, [1610, 1620, 1736]), (64502, [1610, 1620, 1744]), (64503, [1610, 1620, 1744]),
   (64504, [1610, 1620, 1744]), (64505, [1610, 1620, 1609]), (64506, [1610, 1620, 1609]),
   (64507, [1610, 1620, 1609]), (64512, [1610, 1620, 1580]), (64513, [1610, 1620, 1581]),
   (64514, [1610, 1620, 1605]), (64515, [1610, 1620, 1609]), (64516, [1610, 1620, 1610]),
   (64517, [1576, 1580]), (64518, [1576, 1581]), (64519, [1576, 1582]), (64520, [1576, 1605]),
   (64521, [1576, 1609]), (64522, [1576, 1610]), (64523, [1578, 1580]), (64524, [1578, 1581]),
   (64525, [1578, 1582]), (64526, [1578, 1605]), (64527, [1578, 1609]), (64528, [1578, 1610]),
   (64529, [1579, 1580]), (64530, [1579, 1605]), (64531, [1579, 1609]), (64532, [1579, 1610]),
   (64533, [1580, 1581]), (64534, [1580, 1605]), (64535, [1581, 1580]), (64536, [1581, 1605]),
   (64537, [1582, 1580]), (64538, [1582, 1581]), (64539, [1582, 1605]), (64540, [1587, 1580]),
   (64541, [1587, 1581]), (64542, [1587, 1582]), (64543, [1587, 1605]), (64544, [1589, 1581]),
   (64545, [1589, 1605]), (64546, [1590, 1580]), (64547, [1590, 1581]), (64548, [1590, 1582]),
   (64549, [1590, 1605]), (64550, [1591, 1581]), (64551, [1591, 1605]), (64552, [1592, 1605]),
   (64553, [1593, 1580]), (64554, [1593, 1605]), (64555, [1594, 1580]), (64556, [1594, 1605]),
   (64557, [1601, 1580]), (64558, [1601, 1581]), (64559, [1601, 1582]), (64560, [1601, 1605]),
   (64561, [1601, 1609]), (64562, [1601, 1610]), (64563, [1602, 1581]), (64564, [1602, 1605]),
   (64565, [1602, 1609]), (64566, [1602, 1610]), (64567, [1603, 1575]), (64568, [1603, 1580]),
   (64569, [1603, 1581]), (64570, [1603, 1582]), (64571, [1603, 1604]), (64572, [1603, 1605]),
   (64573, [1603, 1609]), (64574, [1603, 1610]), (64575, [1604, 1580]), (64576, [1604, 1581]),
   (64577, [1604, 1582]), (64578, [1604, 1605]), (64579, [1604, 1609]), (64580, [1604, 1610]),
   (64581, [1605, 1580]), (64582, [1605, 1581]), (64583, [1605, 1582]), (64584, [1605, 1605]),
   (64585, [1605, 1609]), (64586, [1605, 1610]), (64587, [1606, 1580]), (64588, [1606, 1581]),
   (64589, [1606, 1582]), (64590, [1606, 1605]), (64591, [1606, 1609]), (64592, [1606, 1610]),
   (64593, [1607, 1580]), (64594, [1607, 1605]), (64595, [1607, 1609]), (64596, [1607, 1610]),
   (64597, [1610, 1580]), (64598, [1610, 1581]), (64599, [1610, 1582]), (64600, [1610, 1605]),
   (64601, [1610, 1609]), (64602, [1610, 1610]), (64603, [1584, 1648]), (64604, [1585, 1648]),
   (64605, [1609, 1648]), (64612, [1610, 1620, 1585]), (64613, [1610, 1620, 1586]),
   (64614, [1610, 1620, 1605]), (64615, [1610, 1620, 1606]), (64616, [1610, 1620, 1609]),
   (64617, [1610, 1620, 1610]), (64618, [1576, 1585]), (64619, [1576, 1586]),
   (64620, [1576, 1605]), (64621, [1576, 1606]), (64622, [1576, 1609]), (64623, [1576, 1610]),
   (64624, [1578, 1585]), (64625, [1578, 1586]), (64626, [1578, 1605]), (64627, [1578, 1606]),
   (64628, [1578, 1609]), (64629, [1578, 1610]), (64630, [1579, 1585]), (64631, [1579, 1586]),
   (64632, [1579, 1605]), (64633, [1579, 1606]), (64634, [1579, 1609]), (64635, [1579, 1610]),
   (64636, [1601, 1609]), (64637, [1601, 1610]), (64638, [1602, 1609]), (64639, [1602, 1610]),
   (64640, [1603, 1575]), (64641, [1603, 1604]), (64642, [1603, 1605]), (64643, [1603, 1609]),
   (64644, [1603, 1610]), (64645, [1604, 1605]), (64646, [1604, 1609]), (64647, [1604, 1610]),
   (64648, [1605, 1575]), (64649, [1605, 1605]), (64650, [1606, 1585]), (64651, [1606, 1586]),
   (64652, [1606, 1605]), (64653, [1606, 1606]), (64654, [1606, 1609]), (64655, [1606, 1610]),
   (64656, [1609, 1648]), (64657, [1610, 1585]), (64658, [1610, 1586]), (64659, [1610, 1605]),
   (64660, [1610, 1606]), (64661, [1610, 1609]), (64662, [1610, 1610]),
   (64663, [1610, 1620, 1580]), (64664, [1610, 1620, 1581]), (64665, [1610, 1620, 1582]),
   (64666, [1610, 1620, 1605]), (64667, [1610, 1620, 1607]), (64668, [1576, 1580]),
   (64669, [1576, 1581]), (64670, [1576, 1582]), (64671, [1576, 1605]), (64672, [1576, 1607]),
   (64673, [1578, 1580]), (64674, [1578, 1581]), (64675, [1578, 1582]), (64676, [1578, 1605]),
   (64677, [1578, 1607]), (64678, [1579, 1605]), (64679, [1580, 1581]), (64680, [1580, 1605]),
   (64681, [1581, 1580]), (64682, [1581, 1605]), (64683, [1582, 1580]), (64684, [1582, 1605]),
   (64685, [1587, 1580]), (64686, [1587, 1581]), (64687, [1587, 1582]), (64688, [1587, 1605]),
   (64689, [1589, 1581]), (64690, [1589, 1582]), (64691, [1589, 1605]), (64692, [1590, 1580]),
   (64693, [1590, 1581]), (64694, [1590, 1582]), (64695, [1590, 1605]), (64696, [1591, 1581]),
   (64697, [1592, 1605]), (64698, [1593, 1580]), (64699, [1593, 1605]), (64700, [1594, 1580]),
   (64701, [1594, 1605]), (64702, [1601, 1580]), (64703, [1601, 1581]), (64704, [1601, 1582]),
   (64705, [1601, 1605]), (64706, [1602, 1581]), (64707, [1602, 1605]), (64708, [1603, 1580]),
   (64709, [1603, 1581]), (64710, [1603, 1582]), (64711, [1603, 1604]), (64712, [1603, 1605]),
   (64713, [1604, 1580]), (64714, [1604, 1581]), (64715, [1604, 1582]), (64716, [1604, 1605]),
   (64717, [1604, 1607]), (64718, [1605, 1580]), (64719, [1605, 1581]), (64720, [1605, 1582]),
   (64721, [1605, 1605]), (64722, [1606, 1580]), (64723, [1606, 1581]), (64724, [1606, 1582]),
   (64725, [1606, 1605]), (64726, [1606, 1607]), (64727, [1607, 1580]), (64728, [1607, 1605]),
   (64729, [1607, 1648]), (64730, [1610, 1580]), (64731, [1610, 1581]), (64732, [1610, 1582]),
   (64733, [1610, 1605]), (64734, [1610, 1607]), (64735, [1610, 1620, 1605]),
   (64736, [1610, 1620, 1607]), (64737, [1576, 1605]), (64738, [1576, 1607]),
   (64739, [1578, 1605]), (64740, [1578, 1607]), (64741, [1579, 1605]), (64742, [1579, 1607]),
   (64743, [1587, 1605]), (64744, [1587, 1607]), (64745, [1588, 1605]), (64746, [1588, 1607]),
   (64747, [1603, 1604]), (64748, [1603, 1605]), (64749, [1604, 1605]), (64750, [1606, 1605]),
   (64751, [1606, 1607]), (64752, [1610, 1605]), (64753, [1610, 1607]),
   (64754, [1600, 1614, 1617]), (64755, [1600, 1615, 1617]), (64756, [1600, 1616, 1617]),
   (64757, [1591, 1609]), (64758, [1591, 1610]), (64759, [1593, 1609]), (64760, [1593, 1610]),
   (64761, [1594, 1609]), (64762, [1594, 1610]), (64763, [1587, 1609]), (64764, [1587, 1610]),
   (64765, [1588, 1609]), (64766, [1588, 1610]), (64767, [1581, 1609]), (64768, [1581, 1610]),
   (64769, [1580, 1609]), (64770, [1580, 1610]), (64771, [1582, 1609]), (64772, [1582, 1610]),
   (64773, [1589, 1609]), (64774, [1589, 1610]), (64775, [1590, 1609]), (64776, [1590, 1610]),
   (64777, [1588, 1580]), (64778, [1588, 1581]), (64779, [1588, 1582]), (64780, [1588, 1605]),
   (64781, [1588, 1585]), (64782, [1587, 1585]), (64783, [1589, 1585]), (64784, [1590, 1585]),
   (64785, [1591, 1609]), (64786, [1591, 1610]), (64787, [1593, 1609]), (64788, [1593, 1610]),
   (64789, [1594, 1609]), (64790, [1594, 1610]), (64791, [1587, 1609]), (64792, [1587, 1610]),
   (64793, [1588, 1609]), (64794, [1588, 1610]), (64795, [1581, 1609]), (64796, [1581, 1610]),
   (64797, [1580, 1609]), (64798, [1580, 1610]), (64799, [1582, 1609]), (64800, [1582, 1610]),
   (64801, [1589, 1609]), (64802, [1589, 1610]), (64803, [1590, 1609]), (64804, [1590, 1610]),
   (64805, [1588, 1580]), (64806, [1588, 1581]), (64807, [1588, 1582]), (64808, [1588, 1605]),
   (64809, [1588, 1585]), (64810, [1587, 1585]), (64811, [1589, 1585]), (64812, [1590, 1585]),
   (64813, [1588, 1580]), (64814, [1588, 1581]), (64815, [1588, 1582]), (64816, [1588, 1605]),
   (64817, [1587, 1607]), (64818, [1588, 1607]), (64819, [1591, 1605]), (64820, [1587, 1580]),
   (64821, [1587, 1581]), (64822, [1587, 1582]), (64823, [1588, 1580]), (64824, [1588, 1581]),
   (64825, [1588, 1582]), (64826, [1591, 1605]), (64827, [1592, 1605]), (64828, [1575, 1611]),
   (64829, [1575, 1611]), (64848, [1578, 1580, 1605]), (64849, [1578, 1581, 1580]),
   (64850, [1578, 1581, 1580]), (64851, [1578, 1581, 1605]), (64852, [1578, 1582, 1605]),
   (64853, [1578, 1605, 1580]), (64854, [1578, 1605, 1581]), (64855, [1578, 1605, 1582]),
   (64856, [1580, 1605, 1581]), (64857, [1580, 1605, 1581]), (64858, [1581, 1605, 1610]),
   (64859, [1581, 1605, 1609]), (64860, [1587, 1581, 1580]), (64861, [1587, 1580, 1581]),
   (64862, [1587, 1580, 1609]), (64863, [1587, 1605, 1581]), (64864, [1587, 1605, 1581]),
   (64865, [1587, 1605, 1580]), (64866, [1587, 1605, 1605]), (64867, [1587, 1605, 1605]),
   (64868, [1589, 1581, 1581]), (64869, [1589, 1581, 1581]), (64870, [1589, 1605, 1605]),
   (64871, [1588, 1581, 1605]), (64872, [1588, 1581, 1605]), (64873, [1588, 1580, 1610]),
   (64874, [1588, 1605, 1582]), (64875, [1588, 1605, 1582]), (64876, [1588, 1605, 1605]),
   (64877, [1588, 1605, 1605]), (64878, [1590, 1581, 1609]), (64879, [1590, 1582, 1605]),
   (64880, [1590, 1582, 1605]), (64881, [1591, 1605, 1581]), (64882, [1591, 1605, 1581]),
   (64883, [1591, 1605, 1605]), (64884, [1591, 1605, 1610]), (64885, [1593, 1580, 1605]),
   (64886, [1593, 1605, 1605]), (64887, [1593, 1605, 1605]), (64888, [1593, 1605, 1609]),
   (64889, [1594, 1605, 1605]), (64890, [1594, 1605, 1610]), (64891, [1594, 1605, 1609]),
   (64892, [1601, 1582, 1605]), (64893, [1601, 1582, 1605]), (64894, [1602, 1605, 1581]),
   (64895, [1602, 1605, 1605]), (64896, [1604, 1581, 1605]), (64897, [1604, 1581, 1610]),
   (64898, [1604, 1581, 1609]), (64899, [1604, 1580, 1580]), (64900, [1604, 1580, 1580]),
   (64901, [1604, 1582, 1605]), (64902, [1604, 1582, 1605]), (64903, [1604, 1605, 1581]),
   (64904, [1604, 1605, 1581]), (64905, [1605, 1581, 1580]), (64906, [1605, 1581, 1605]),
   (64907, [1605, 1581, 1610]), (64908, [1605, 1580, 1581]), (64909, [1605, 1580, 1605]),
   (64910, [1605, 1582, 1580]), (64911, [1605, 1582, 1605]), (64914, [1605, 1580, 1582]),
   (64915, [1607, 1605, 1580]), (64916, [1607, 1605, 1605]), (64917, [1606, 1581, 1605]),
   (64918, [1606, 1581, 1609]), (64919, [1606, 1580, 1605]), (64920, [1606, 1580, 1605]),
   (64921, [1606, 1580, 1609]), (64922, [1606, 1605, 1610]), (64923, [1606, 1605, 1609]),
   (64924, [1610, 1605, 1605]), (64925, [1610, 1605, 1605]), (64926, [1576, 1582, 1610]),
   (64927, [1578, 1580, 1610]), (64928, [1578, 1580, 1609]), (64929, [1578, 1582, 1610]),
   (64930, [1578, 1582, 1609]), (64931, [1578, 1605, 1610]), (64932, [1578, 1605, 1609]),
   (64933, [1580, 1605, 1610]), (64934, [1580, 1581, 1609]), (64935, [1580, 1605, 1609]),
   (64936, [1587, 1582, 1609]), (64937, [1589, 1581, 1610]), (64938, [1588, 1581, 1610]),
   (64939, [1590, 1581, 1610]), (64940, [1604, 1580, 1610]), (64941, [1604, 1605, 1610]),
   (64942, [1610, 1581, 1610]), (64943, [1610, 1580, 1610]), (64944, [1610, 1605, 1610]),
   (64945, [1605, 1605, 1610]), (64946, [1602, 1605, 1610]), (64947, [1606, 1581, 1610]),
   (64948, [1602, 1605, 1581]), (64949, [1604, 1581, 1605]), (64950, [1593, 1605, 1610]),
   (64951, [1603, 1605, 1610]), (64952, [1606, 1580, 1581]), (64953, [1605, 1582, 1610]),
   (64954, [1604, 1580, 1605]), (64955, [1603, 1605, 1605]), (64956, [1604, 1580, 1605]),
   (64957, [1606, 1580, 1581]), (64958, [1580, 1581, 1610]), (64959, [1581, 1580, 1610]),
   (64960, [1605, 1580, 1610]), (64961, [1601, 1605, 1610]), (64962, [1576, 1581, 1610]),
   (64963, [1603, 1605, 1605]), (64964, [1593, 1580, 1605]), (64965, [1589, 1605, 1605]),
   (64966, [1587, 1582, 1610]), (64967, [1606, 1580, 1610]), (65008, [1589, 1604, 1746]),
   (65009, [1602, 1604, 1746]), (65010, [1575, 1604, 1604, 1607]),
   (65011, [1575, 1603, 1576, 1585]), (65012, [1605, 1581, 1605, 1583]),
   (65013, [1589, 1604, 1593, 1605]), (65014, [1585, 1587, 1608, 1604]),
   (65015, [1593, 1604, 1610, 1607]), (65016, [1608, 1587, 1604, 1605]),
   (65017, [1589, 1604, 1609]), (65137, [1600, 1611]), (65143, [1600, 1614]),
   (65145, [1600, 1615]), (65147, [1600, 1616]), (65149, [1600, 1617]), (65151, [1600, 1618]),
   (65153, [1575, 1619]), (65154, [1575, 1619]), (65155, [1575, 1620]), (65156, [1575, 1620]),
   (65157, [1608, 1620]), (65158, [1608, 1620]), (65159, [1575, 1621]), (65160, [1575, 1621]),
   (65161, [1610, 1620]), (65162, [1610, 1620]), (65163, [1610, 1620]), (65164, [1610, 1620]),
   (65269, [1604, 1575, 1619]), (65270, [1604, 1575, 1619]), (65271, [1604, 1575, 1620]),
   (65272, [1604, 1575, 1620]), (65273, [1604, 1575, 1621]), (65274, [1604, 1575, 1621]),
   (65275, [1604, 1575]), (65276, [1604, 1575])]

/-- By the mark: the letters before it and what each becomes with it. -/
def composites : List (Nat × List (Nat × Nat)) :=
  [(768,
    [(65, 192), (69, 200), (73, 204), (78, 504), (79, 210), (85, 217), (87, 7808), (89, 7922),
     (97, 224), (101, 232), (105, 236), (110, 505), (111, 242), (117, 249), (119, 7809),
     (121, 7923), (194, 7846), (202, 7872), (212, 7890), (220, 475), (226, 7847), (234, 7873),
     (244, 7891), (252, 476), (258, 7856), (259, 7857), (274, 7700), (275, 7701), (332, 7760),
     (333, 7761), (416, 7900), (417, 7901), (431, 7914), (432, 7915), (913, 8122), (917, 8136),
     (919, 8138), (921, 8154), (927, 8184), (933, 8170), (937, 8186), (945, 8048), (949, 8050),
     (951, 8052), (953, 8054), (959, 8056), (965, 8058), (969, 8060), (970, 8146), (971, 8162),
     (1045, 1024), (1048, 1037), (1077, 1104), (1080, 1117), (7936, 7938), (7937, 7939),
     (7944, 7946), (7945, 7947), (7952, 7954), (7953, 7955), (7960, 7962), (7961, 7963),
     (7968, 7970), (7969, 7971), (7976, 7978), (7977, 7979), (7984, 7986), (7985, 7987),
     (7992, 7994), (7993, 7995), (8000, 8002), (8001, 8003), (8008, 8010), (8009, 8011),
     (8016, 8018), (8017, 8019), (8025, 8027), (8032, 8034), (8033, 8035), (8040, 8042),
     (8041, 8043)]),
   (769,
    [(65, 193), (67, 262), (69, 201), (71, 500), (73, 205), (75, 7728), (76, 313), (77, 7742),
     (78, 323), (79, 211), (80, 7764), (82, 340), (83, 346), (85, 218), (87, 7810), (89, 221),
     (90, 377), (97, 225), (99, 263), (101, 233), (103, 501), (105, 237), (107, 7729), (108, 314),
     (109, 7743), (110, 324), (111, 243), (112, 7765), (114, 341), (115, 347), (117, 250),
     (119, 7811), (121, 253), (122, 378), (194, 7844), (197, 506), (198, 508), (199, 7688),
     (202, 7870), (207, 7726), (212, 7888), (213, 7756), (216, 510), (220, 471), (226, 7845),
     (229, 507), (230, 509), (231, 7689), (234, 7871), (239, 7727), (244, 7889), (245, 7757),
     (248, 511), (252, 472), (258, 7854), (259, 7855), (274, 7702), (275, 7703), (332, 7762),
     (333, 7763), (360, 7800), (361, 7801), (416, 7898), (417, 7899), (431, 7912), (432, 7913),
     (913, 902), (917, 904), (919, 905), (921, 906), (927, 908), (933, 910), (937, 911),
     (945, 940), (949, 941), (951, 942), (953, 943), (959, 972), (965, 973), (969, 974),
     (970, 912), (971, 944), (978, 979), (1043, 1027), (1050, 1036), (1075, 1107), (1082, 1116),
     (7936, 7940), (7937, 7941), (7944, 7948), (7945, 7949), (7952, 7956), (7953, 7957),
     (7960, 7964), (7961, 7965), (7968, 7972), (7969, 7973), (7976, 7980), (7977, 7981),
     (7984, 7988), (7985, 7989), (7992, 7996), (7993, 7997), (8000, 8004), (8001, 8005),
     (8008, 8012), (8009, 8013), (8016, 8020), (8017, 8021), (8025, 8029), (8032, 8036),
     (8033, 8037), (8040, 8044), (8041, 8045)]),
   (770,
    [(65, 194), (67, 264), (69, 202), (71, 284), (72, 292), (73, 206), (74, 308), (79, 212),
     (83, 348), (85, 219), (87, 372), (89, 374), (90, 7824), (97, 226), (99, 265), (101, 234),
     (103, 285), (104, 293), (105, 238), (106, 309), (111, 244), (115, 349), (117, 251),
     (119, 373), (121, 375), (122, 7825), (7840, 7852), (7841, 7853), (7864, 7878), (7865, 7879),
     (7884, 7896), (7885, 7897)]),
   (771,
    [(65, 195), (69, 7868), (73, 296), (78, 209), (79, 213), (85, 360), (86, 7804), (89, 7928),
     (97, 227), (101, 7869), (105, 297), (110, 241), (111, 245), (117, 361), (118, 7805),
     (121, 7929), (194, 7850), (202, 7876), (212, 7894), (226, 7851), (234, 7877), (244, 7895),
     (258, 7860), (259, 7861), (416, 7904), (417, 7905), (431, 7918), (432, 7919)]),
   (772,
    [(65, 256), (69, 274), (71, 7712), (73, 298), (79, 332), (85, 362), (89, 562), (97, 257),
     (101, 275), (103, 7713), (105, 299), (111, 333), (117, 363), (121, 563), (196, 478),
     (198, 482), (213, 556), (214, 554), (220, 469), (228, 479), (230, 483), (245, 557),
     (246, 555), (252, 470), (490, 492), (491, 493), (550, 480), (551, 481), (558, 560),
     (559, 561), (913, 8121), (921, 8153), (933, 8169), (945, 8113), (953, 8145), (965, 8161),
     (1048, 1250), (1059, 1262), (1080, 1251), (1091, 1263), (7734, 7736), (7735, 7737),
     (7770, 7772), (7771, 7773)]),
   (774,
    [(65, 258), (69, 276), (71, 286), (73, 300), (79, 334), (85, 364), (97, 259), (101, 277),
     (103, 287), (105, 301), (111, 335), (117, 365), (552, 7708), (553, 7709), (913, 8120),
     (921, 8152), (933, 8168), (945, 8112), (953, 8144), (965, 8160), (1040, 1232), (1045, 1238),
     (1046, 1217), (1048, 1049), (1059, 1038), (1072, 1233), (1077, 1239), (1078, 1218),
     (1080, 1081), (1091, 1118), (7840, 7862), (7841, 7863)]),
   (775,
    [(65, 550), (66, 7682), (67, 266), (68, 7690), (69, 278), (70, 7710), (71, 288), (72, 7714),
     (73, 304), (77, 7744), (78, 7748), (79, 558), (80, 7766), (82, 7768), (83, 7776), (84, 7786),
     (87, 7814), (88, 7818), (89, 7822), (90, 379), (97, 551), (98, 7683), (99, 267), (100, 7691),
     (101, 279), (102, 7711), (103, 289), (104, 7715), (109, 7745), (110, 7749), (111, 559),
     (112, 7767), (114, 7769), (115, 7777), (116, 7787), (119, 7815), (120, 7819), (121, 7823),
     (122, 380), (346, 7780), (347, 7781), (352, 7782), (353, 7783), (383, 7835), (7778, 7784),
     (7779, 7785)]),
   (776,
    [(65, 196), (69, 203), (72, 7718), (73, 207), (79, 214), (85, 220), (87, 7812), (88, 7820),
     (89, 376), (97, 228), (101, 235), (104, 7719), (105, 239), (111, 246), (116, 7831),
     (117, 252), (119, 7813), (120, 7821), (121, 255), (213, 7758), (245, 7759), (362, 7802),
     (363, 7803), (921, 938), (933, 939), (953, 970), (965, 971), (978, 980), (1030, 1031),
     (1040, 1234), (1045, 1025), (1046, 1244), (1047, 1246), (1048, 1252), (1054, 1254),
     (1059, 1264), (1063, 1268), (1067, 1272), (1069, 1260), (1072, 1235), (1077, 1105),
     (1078, 1245), (1079, 1247), (1080, 1253), (1086, 1255), (1091, 1265), (1095, 1269),
     (1099, 1273), (1101, 1261), (1110, 1111), (1240, 1242), (1241, 1243), (1256, 1258),
     (1257, 1259)]),
   (777,
    [(65, 7842), (69, 7866), (73, 7880), (79, 7886), (85, 7910), (89, 7926), (97, 7843),
     (101, 7867), (105, 7881), (111, 7887), (117, 7911), (121, 7927), (194, 7848), (202, 7874),
     (212, 7892), (226, 7849), (234, 7875), (244, 7893), (258, 7858), (259, 7859), (416, 7902),
     (417, 7903), (431, 7916), (432, 7917)]),
   (778,
    [(65, 197), (85, 366), (97, 229), (117, 367), (119, 7832), (121, 7833)]),
   (779,
    [(79, 336), (85, 368), (111, 337), (117, 369), (1059, 1266), (1091, 1267)]),
   (780,
    [(65, 461), (67, 268), (68, 270), (69, 282), (71, 486), (72, 542), (73, 463), (75, 488),
     (76, 317), (78, 327), (79, 465), (82, 344), (83, 352), (84, 356), (85, 467), (90, 381),
     (97, 462), (99, 269), (100, 271), (101, 283), (103, 487), (104, 543), (105, 464), (106, 496),
     (107, 489), (108, 318), (110, 328), (111, 466), (114, 345), (115, 353), (116, 357),
     (117, 468), (122, 382), (220, 473), (252, 474), (439, 494), (658, 495)]),
   (783,
    [(65, 512), (69, 516), (73, 520), (79, 524), (82, 528), (85, 532), (97, 513), (101, 517),
     (105, 521), (111, 525), (114, 529), (117, 533), (1140, 1142), (1141, 1143)]),
   (785,
    [(65, 514), (69, 518), (73, 522), (79, 526), (82, 530), (85, 534), (97, 515), (101, 519),
     (105, 523), (111, 527), (114, 531), (117, 535)]),
   (787,
    [(913, 7944), (917, 7960), (919, 7976), (921, 7992), (927, 8008), (937, 8040), (945, 7936),
     (949, 7952), (951, 7968), (953, 7984), (959, 8000), (961, 8164), (965, 8016), (969, 8032)]),
   (788,
    [(913, 7945), (917, 7961), (919, 7977), (921, 7993), (927, 8009), (929, 8172), (933, 8025),
     (937, 8041), (945, 7937), (949, 7953), (951, 7969), (953, 7985), (959, 8001), (961, 8165),
     (965, 8017), (969, 8033)]),
   (795,
    [(79, 416), (85, 431), (111, 417), (117, 432)]),
   (803,
    [(65, 7840), (66, 7684), (68, 7692), (69, 7864), (72, 7716), (73, 7882), (75, 7730),
     (76, 7734), (77, 7746), (78, 7750), (79, 7884), (82, 7770), (83, 7778), (84, 7788),
     (85, 7908), (86, 7806), (87, 7816), (89, 7924), (90, 7826), (97, 7841), (98, 7685),
     (100, 7693), (101, 7865), (104, 7717), (105, 7883), (107, 7731), (108, 7735), (109, 7747),
     (110, 7751), (111, 7885), (114, 7771), (115, 7779), (116, 7789), (117, 7909), (118, 7807),
     (119, 7817), (121, 7925), (122, 7827), (416, 7906), (417, 7907), (431, 7920), (432, 7921)]),
   (804,
    [(85, 7794), (117, 7795)]),
   (805,
    [(65, 7680), (97, 7681)]),
   (806,
    [(83, 536), (84, 538), (115, 537), (116, 539)]),
   (807,
    [(67, 199), (68, 7696), (69, 552), (71, 290), (72, 7720), (75, 310), (76, 315), (78, 325),
     (82, 342), (83, 350), (84, 354), (99, 231), (100, 7697), (101, 553), (103, 291), (104, 7721),
     (107, 311), (108, 316), (110, 326), (114, 343), (115, 351), (116, 355)]),
   (808,
    [(65, 260), (69, 280), (73, 302), (79, 490), (85, 370), (97, 261), (101, 281), (105, 303),
     (111, 491), (117, 371)]),
   (813,
    [(68, 7698), (69, 7704), (76, 7740), (78, 7754), (84, 7792), (85, 7798), (100, 7699),
     (101, 7705), (108, 7741), (110, 7755), (116, 7793), (117, 7799)]),
   (814,
    [(72, 7722), (104, 7723)]),
   (816,
    [(69, 7706), (73, 7724), (85, 7796), (101, 7707), (105, 7725), (117, 7797)]),
   (817,
    [(66, 7686), (68, 7694), (75, 7732), (76, 7738), (78, 7752), (82, 7774), (84, 7790),
     (90, 7828), (98, 7687), (100, 7695), (104, 7830), (107, 7733), (108, 7739), (110, 7753),
     (114, 7775), (116, 7791), (122, 7829)]),
   (834,
    [(945, 8118), (951, 8134), (953, 8150), (965, 8166), (969, 8182), (970, 8151), (971, 8167),
     (7936, 7942), (7937, 7943), (7944, 7950), (7945, 7951), (7968, 7974), (7969, 7975),
     (7976, 7982), (7977, 7983), (7984, 7990), (7985, 7991), (7992, 7998), (7993, 7999),
     (8016, 8022), (8017, 8023), (8025, 8031), (8032, 8038), (8033, 8039), (8040, 8046),
     (8041, 8047)]),
   (837,
    [(913, 8124), (919, 8140), (937, 8188), (940, 8116), (942, 8132), (945, 8115), (951, 8131),
     (969, 8179), (974, 8180), (7936, 8064), (7937, 8065), (7938, 8066), (7939, 8067),
     (7940, 8068), (7941, 8069), (7942, 8070), (7943, 8071), (7944, 8072), (7945, 8073),
     (7946, 8074), (7947, 8075), (7948, 8076), (7949, 8077), (7950, 8078), (7951, 8079),
     (7968, 8080), (7969, 8081), (7970, 8082), (7971, 8083), (7972, 8084), (7973, 8085),
     (7974, 8086), (7975, 8087), (7976, 8088), (7977, 8089), (7978, 8090), (7979, 8091),
     (7980, 8092), (7981, 8093), (7982, 8094), (7983, 8095), (8032, 8096), (8033, 8097),
     (8034, 8098), (8035, 8099), (8036, 8100), (8037, 8101), (8038, 8102), (8039, 8103),
     (8040, 8104), (8041, 8105), (8042, 8106), (8043, 8107), (8044, 8108), (8045, 8109),
     (8046, 8110), (8047, 8111), (8048, 8114), (8052, 8130), (8060, 8178), (8118, 8119),
     (8134, 8135), (8182, 8183)]),
   (1619,
    [(1575, 1570)]),
   (1620,
    [(1575, 1571), (1608, 1572), (1610, 1574), (1729, 1730), (1746, 1747), (1749, 1728)]),
   (1621,
    [(1575, 1573)]),
   (2364,
    [(2344, 2345), (2352, 2353), (2355, 2356)]),
   (2494,
    [(2503, 2507)]),
   (2519,
    [(2503, 2508)]),
   (2878,
    [(2887, 2891)]),
   (2902,
    [(2887, 2888)]),
   (2903,
    [(2887, 2892)]),
   (3006,
    [(3014, 3018), (3015, 3019)]),
   (3031,
    [(2962, 2964), (3014, 3020)]),
   (3158,
    [(3142, 3144)]),
   (3266,
    [(3270, 3274)]),
   (3285,
    [(3263, 3264), (3270, 3271), (3274, 3275)]),
   (3286,
    [(3270, 3272)]),
   (3390,
    [(3398, 3402), (3399, 3403)]),
   (3415,
    [(3398, 3404)]),
   (3530,
    [(3545, 3546), (3548, 3549)]),
   (3535,
    [(3545, 3548)]),
   (3551,
    [(3545, 3550)]),
   (4142,
    [(4133, 4134)]),
   (6965,
    [(6917, 6918), (6919, 6920), (6921, 6922), (6923, 6924), (6925, 6926), (6929, 6930),
     (6970, 6971), (6972, 6973), (6974, 6976), (6975, 6977), (6978, 6979)]),
   (12441,
    [(12358, 12436), (12363, 12364), (12365, 12366), (12367, 12368), (12369, 12370),
     (12371, 12372), (12373, 12374), (12375, 12376), (12377, 12378), (12379, 12380),
     (12381, 12382), (12383, 12384), (12385, 12386), (12388, 12389), (12390, 12391),
     (12392, 12393), (12399, 12400), (12402, 12403), (12405, 12406), (12408, 12409),
     (12411, 12412), (12445, 12446), (12454, 12532), (12459, 12460), (12461, 12462),
     (12463, 12464), (12465, 12466), (12467, 12468), (12469, 12470), (12471, 12472),
     (12473, 12474), (12475, 12476), (12477, 12478), (12479, 12480), (12481, 12482),
     (12484, 12485), (12486, 12487), (12488, 12489), (12495, 12496), (12498, 12499),
     (12501, 12502), (12504, 12505), (12507, 12508), (12527, 12535), (12528, 12536),
     (12529, 12537), (12530, 12538), (12541, 12542)]),
   (12442,
    [(12399, 12401), (12402, 12404), (12405, 12407), (12408, 12410), (12411, 12413),
     (12495, 12497), (12498, 12500), (12501, 12503), (12504, 12506), (12507, 12509)]),
   (69818,
    [(69785, 69786), (69787, 69788), (69797, 69803)]),
   (69927,
    [(69937, 69934), (69938, 69935)]),
   (70462,
    [(70471, 70475)]),
   (70487,
    [(70471, 70476)]),
   (70832,
    [(70841, 70844)]),
   (70842,
    [(70841, 70843)]),
   (70845,
    [(70841, 70846)]),
   (71087,
    [(71096, 71098), (71097, 71099)]),
   (71984,
    [(71989, 71992)])]

/-- Where marks stand after a letter: those of a lower class come first. -/
def markRuns : List (Nat × Nat × Nat) :=
  [(768, 788, 230), (789, 789, 232), (790, 793, 220), (794, 794, 232), (795, 795, 216),
   (796, 800, 220), (801, 802, 202), (803, 806, 220), (807, 808, 202), (809, 819, 220),
   (820, 824, 1), (825, 828, 220), (829, 836, 230), (837, 837, 240), (838, 838, 230),
   (839, 841, 220), (842, 844, 230), (845, 846, 220), (848, 850, 230), (851, 854, 220),
   (855, 855, 230), (856, 856, 232), (857, 858, 220), (859, 859, 230), (860, 860, 233),
   (861, 862, 234), (863, 863, 233), (864, 865, 234), (866, 866, 233), (867, 879, 230),
   (1155, 1159, 230), (1425, 1425, 220), (1426, 1429, 230), (1430, 1430, 220), (1431, 1433, 230),
   (1434, 1434, 222), (1435, 1435, 220), (1436, 1441, 230), (1442, 1447, 220), (1448, 1449, 230),
   (1450, 1450, 220), (1451, 1452, 230), (1453, 1453, 222), (1454, 1454, 228), (1455, 1455, 230),
   (1456, 1456, 10), (1457, 1457, 11), (1458, 1458, 12), (1459, 1459, 13), (1460, 1460, 14),
   (1461, 1461, 15), (1462, 1462, 16), (1463, 1463, 17), (1464, 1464, 18), (1465, 1466, 19),
   (1467, 1467, 20), (1468, 1468, 21), (1469, 1469, 22), (1471, 1471, 23), (1473, 1473, 24),
   (1474, 1474, 25), (1476, 1476, 230), (1477, 1477, 220), (1479, 1479, 18), (1552, 1559, 230),
   (1560, 1560, 30), (1561, 1561, 31), (1562, 1562, 32), (1611, 1611, 27), (1612, 1612, 28),
   (1613, 1613, 29), (1614, 1614, 30), (1615, 1615, 31), (1616, 1616, 32), (1617, 1617, 33),
   (1618, 1618, 34), (1619, 1620, 230), (1621, 1622, 220), (1623, 1627, 230), (1628, 1628, 220),
   (1629, 1630, 230), (1631, 1631, 220), (1648, 1648, 35), (1750, 1756, 230), (1759, 1762, 230),
   (1763, 1763, 220), (1764, 1764, 230), (1767, 1768, 230), (1770, 1770, 220), (1771, 1772, 230),
   (1773, 1773, 220), (1809, 1809, 36), (1840, 1840, 230), (1841, 1841, 220), (1842, 1843, 230),
   (1844, 1844, 220), (1845, 1846, 230), (1847, 1849, 220), (1850, 1850, 230), (1851, 1852, 220),
   (1853, 1853, 230), (1854, 1854, 220), (1855, 1857, 230), (1858, 1858, 220), (1859, 1859, 230),
   (1860, 1860, 220), (1861, 1861, 230), (1862, 1862, 220), (1863, 1863, 230), (1864, 1864, 220),
   (1865, 1866, 230), (2027, 2033, 230), (2034, 2034, 220), (2035, 2035, 230), (2045, 2045, 220),
   (2070, 2073, 230), (2075, 2083, 230), (2085, 2087, 230), (2089, 2093, 230), (2137, 2139, 220),
   (2200, 2200, 230), (2201, 2203, 220), (2204, 2207, 230), (2250, 2254, 230), (2255, 2259, 220),
   (2260, 2273, 230), (2275, 2275, 220), (2276, 2277, 230), (2278, 2278, 220), (2279, 2280, 230),
   (2281, 2281, 220), (2282, 2284, 230), (2285, 2287, 220), (2288, 2288, 27), (2289, 2289, 28),
   (2290, 2290, 29), (2291, 2293, 230), (2294, 2294, 220), (2295, 2296, 230), (2297, 2298, 220),
   (2299, 2303, 230), (2364, 2364, 7), (2381, 2381, 9), (2385, 2385, 230), (2386, 2386, 220),
   (2387, 2388, 230), (2492, 2492, 7), (2509, 2509, 9), (2558, 2558, 230), (2620, 2620, 7),
   (2637, 2637, 9), (2748, 2748, 7), (2765, 2765, 9), (2876, 2876, 7), (2893, 2893, 9),
   (3021, 3021, 9), (3132, 3132, 7), (3149, 3149, 9), (3157, 3157, 84), (3158, 3158, 91),
   (3260, 3260, 7), (3277, 3277, 9), (3387, 3388, 9), (3405, 3405, 9), (3530, 3530, 9),
   (3640, 3641, 103), (3642, 3642, 9), (3656, 3659, 107), (3768, 3769, 118), (3770, 3770, 9),
   (3784, 3787, 122), (3864, 3865, 220), (3893, 3893, 220), (3895, 3895, 220), (3897, 3897, 216),
   (3953, 3953, 129), (3954, 3954, 130), (3956, 3956, 132), (3962, 3965, 130), (3968, 3968, 130),
   (3970, 3971, 230), (3972, 3972, 9), (3974, 3975, 230), (4038, 4038, 220), (4151, 4151, 7),
   (4153, 4154, 9), (4237, 4237, 220), (4957, 4959, 230), (5908, 5909, 9), (5940, 5940, 9),
   (6098, 6098, 9), (6109, 6109, 230), (6313, 6313, 228), (6457, 6457, 222), (6458, 6458, 230),
   (6459, 6459, 220), (6679, 6679, 230), (6680, 6680, 220), (6752, 6752, 9), (6773, 6780, 230),
   (6783, 6783, 220), (6832, 6836, 230), (6837, 6842, 220), (6843, 6844, 230), (6845, 6845, 220),
   (6847, 6848, 220), (6849, 6850, 230), (6851, 6852, 220), (6853, 6857, 230), (6858, 6858, 220),
   (6859, 6862, 230), (6964, 6964, 7), (6980, 6980, 9), (7019, 7019, 230), (7020, 7020, 220),
   (7021, 7027, 230), (7082, 7083, 9), (7142, 7142, 7), (7154, 7155, 9), (7223, 7223, 7),
   (7376, 7378, 230), (7380, 7380, 1), (7381, 7385, 220), (7386, 7387, 230), (7388, 7391, 220),
   (7392, 7392, 230), (7394, 7400, 1), (7405, 7405, 220), (7412, 7412, 230), (7416, 7417, 230),
   (7616, 7617, 230), (7618, 7618, 220), (7619, 7625, 230), (7626, 7626, 220), (7627, 7628, 230),
   (7629, 7629, 234), (7630, 7630, 214), (7631, 7631, 220), (7632, 7632, 202), (7633, 7669, 230),
   (7670, 7670, 232), (7671, 7672, 228), (7673, 7673, 220), (7674, 7674, 218), (7675, 7675, 230),
   (7676, 7676, 233), (7677, 7677, 220), (7678, 7678, 230), (7679, 7679, 220), (8400, 8401, 230),
   (8402, 8403, 1), (8404, 8407, 230), (8408, 8410, 1), (8411, 8412, 230), (8417, 8417, 230),
   (8421, 8422, 1), (8423, 8423, 230), (8424, 8424, 220), (8425, 8425, 230), (8426, 8427, 1),
   (8428, 8431, 220), (8432, 8432, 230), (11503, 11505, 230), (11647, 11647, 9),
   (11744, 11775, 230), (12330, 12330, 218), (12331, 12331, 228), (12332, 12332, 232),
   (12333, 12333, 222), (12334, 12335, 224), (12441, 12442, 8), (42607, 42607, 230),
   (42612, 42621, 230), (42654, 42655, 230), (42736, 42737, 230), (43014, 43014, 9),
   (43052, 43052, 9), (43204, 43204, 9), (43232, 43249, 230), (43307, 43309, 220),
   (43347, 43347, 9), (43443, 43443, 7), (43456, 43456, 9), (43696, 43696, 230),
   (43698, 43699, 230), (43700, 43700, 220), (43703, 43704, 230), (43710, 43711, 230),
   (43713, 43713, 230), (43766, 43766, 9), (44013, 44013, 9), (64286, 64286, 26),
   (65056, 65062, 230), (65063, 65069, 220), (65070, 65071, 230), (66045, 66045, 220),
   (66272, 66272, 220), (66422, 66426, 230), (68109, 68109, 220), (68111, 68111, 230),
   (68152, 68152, 230), (68153, 68153, 1), (68154, 68154, 220), (68159, 68159, 9),
   (68325, 68325, 230), (68326, 68326, 220), (68900, 68903, 230), (69291, 69292, 230),
   (69446, 69447, 220), (69448, 69450, 230), (69451, 69451, 220), (69452, 69452, 230),
   (69453, 69456, 220), (69506, 69506, 230), (69507, 69507, 220), (69508, 69508, 230),
   (69509, 69509, 220), (69702, 69702, 9), (69744, 69744, 9), (69759, 69759, 9),
   (69817, 69817, 9), (69818, 69818, 7), (69888, 69890, 230), (69939, 69940, 9),
   (70003, 70003, 7), (70080, 70080, 9), (70090, 70090, 7), (70197, 70197, 9), (70198, 70198, 7),
   (70377, 70377, 7), (70378, 70378, 9), (70459, 70460, 7), (70477, 70477, 9),
   (70502, 70508, 230), (70512, 70516, 230), (70722, 70722, 9), (70726, 70726, 7),
   (70750, 70750, 230), (70850, 70850, 9), (70851, 70851, 7), (71103, 71103, 9),
   (71104, 71104, 7), (71231, 71231, 9), (71350, 71350, 9), (71351, 71351, 7), (71467, 71467, 9),
   (71737, 71737, 9), (71738, 71738, 7), (71997, 71998, 9), (72003, 72003, 7), (72160, 72160, 9),
   (72244, 72244, 9), (72263, 72263, 9), (72345, 72345, 9), (72767, 72767, 9), (73026, 73026, 7),
   (73028, 73029, 9), (73111, 73111, 9), (92912, 92916, 1), (92976, 92982, 230),
   (94192, 94193, 6), (113822, 113822, 1), (119141, 119142, 216), (119143, 119145, 1),
   (119149, 119149, 226), (119150, 119154, 216), (119163, 119170, 220), (119173, 119177, 230),
   (119178, 119179, 220), (119210, 119213, 230), (119362, 119364, 230), (122880, 122886, 230),
   (122888, 122904, 230), (122907, 122913, 230), (122915, 122916, 230), (122918, 122922, 230),
   (123184, 123190, 230), (123566, 123566, 230), (123628, 123631, 230), (125136, 125142, 220),
   (125252, 125257, 230), (125258, 125258, 7)]

def findRun : List (Nat × Nat × Nat) → Nat → Option (Nat × Nat)
  | [], _ => none
  | (first, last, entry) :: rest, n =>
    if n < first then none else if n ≤ last then some (n - first, entry) else findRun rest n

def markClass (n : Nat) : Nat := (findRun markRuns n).elim 0 (·.2)

def ideograph? : List (Nat × String) → Nat → Option Nat
  | [], _ => none
  | (first, images) :: rest, n =>
    if n < first then none
    else if n < first + images.length then (images.toList[n - first]?).map Char.toNat
    else ideograph? rest n

/-- A syllable of three letters, the last of which may be missing. -/
def syllable? (n : Nat) : Option (List Nat) :=
  if 0xAC00 ≤ n && n ≤ 0xD7A3 then
    let i := n - 0xAC00
    let end? := if i % 28 == 0 then [] else [0x11A7 + i % 28]
    some ([0x1100 + i / 588, 0x1161 + i % 588 / 28] ++ end?)
  else none

def pair? (n : Nat) : Option (List Nat) :=
  composites.findSome? fun (mark, letters) =>
    (letters.find? (·.2 == n)).map fun (letter, _) => [letter, mark]

def image? (n : Nat) : Option (List Nat) :=
  ((findRun formRuns n).map fun (i, first) => [first + i]).or <|
    ((ideograph? ideographRuns n).map fun m => [m]).or <|
      (expansions.lookup n).or <| (syllable? n).or (pair? n)

/-- A code point taken apart, and its parts in turn, at most `depth` times. -/
def takeApart : (depth : Nat) → Nat → List Nat
  | 0, n => [n]
  | depth + 1, n => ((image? n).getD []).flatMap (takeApart depth) ++ if (image? n).isNone then [n] else []

/-- Puts a mark before those of a higher class or of its own. -/
def insertMark (n : Nat) : List Nat → List Nat
  | [] => [n]
  | m :: ms => if markClass m != 0 && markClass m < markClass n then m :: insertMark n ms else n :: m :: ms

def orderMarks (ns : List Nat) : List Nat := ns.foldr insertMark []

def composite? (n m : Nat) : Option Nat :=
  if 0x1100 ≤ n && n ≤ 0x1112 && 0x1161 ≤ m && m ≤ 0x1175 then
    some (0xAC00 + (n - 0x1100) * 588 + (m - 0x1161) * 28)
  else if 0xAC00 ≤ n && n ≤ 0xD7A3 && (n - 0xAC00) % 28 == 0 && 0x11A8 ≤ m && m ≤ 0x11C2 then
    some (n + (m - 0x11A7))
  else (composites.lookup m).bind (·.lookup n)

/-- Puts marks together with the letter before them; `marks` are those that stay apart, the last one
first. A mark of the class of the last of these is cut off from the letter. -/
def composeAfter (letter : Nat) : (marks : List Nat) → List Nat → List Nat
  | marks, [] => letter :: marks.reverse
  | marks, n :: ns =>
    let isNext := marks.head?.all fun m => markClass m < markClass n
    match if isNext then composite? letter n else none with
    | some c => composeAfter c marks ns
    | none =>
      if markClass n == 0 then letter :: marks.reverse ++ composeAfter n [] ns
      else composeAfter letter (n :: marks) ns

def compose : List Nat → List Nat
  | [] => []
  | n :: ns => if markClass n == 0 then composeAfter n [] ns else n :: compose ns

/-- The form that names are compared in: what stands for their letters, with marks in order and put
together with letters (NFKC). -/
def normal (s : String) : String :=
  if s.toList.all (·.toNat < 128) then s
  else
    let apart := (s.toList.map Char.toNat).flatMap (takeApart 4)
    String.ofList ((compose (orderMarks apart)).map Char.ofNat)

end SmithyGen.Text
