import Lookout.Text.CharTable
/-!
# Lower-case counterparts of characters

The characters beyond ASCII that have a counterpart in lower case in Unicode 17.
-/

namespace Lookout.Text

/-- The lower case of characters. -/
def lowerTable : Array Run := runs "
  C0:E0,E1,E2,E3,E4,E5,E6,E7,E8,E9,EA,EB,EC,ED,EE,EF,F0,F1,F2,F3,F4,F5,F6,,F8,F9,FA
  DB:FB,FC,FD,FE
  100:101,,103,,105,,107,,109,,10B,,10D,,10F,,111,,113,,115,,117,,119,,11B,,11D,,11F
  120:121,,123,,125,,127,,129,,12B,,12D,,12F,,69.307,,133,,135,,137,,,13A,,13C,,13E
  13F:140,,142,,144,,146,,148,,,14B,,14D,,14F,,151,,153,,155,,157,,159,,15B,,15D,,15F
  160:161,,163,,165,,167,,169,,16B,,16D,,16F,,171,,173,,175,,177,,FF,17A,,17C,,17E
  181:253,183,,185,,254,188,,256,257,18C,,,1DD,259,25B,192,,260,263,,269,268,199
  19C:26F,272,,275,1A1,,1A3,,1A5,,280,1A8,,283,,,1AD,,288,1B0,,28A,28B,1B4,,1B6,,292
  1B8:1B9,,,,1BD
  1C4:1C6,1C6,,1C9,1C9,,1CC,1CC,,1CE,,1D0,,1D2,,1D4,,1D6,,1D8,,1DA,,1DC,,,1DF,,1E1
  1E2:1E3,,1E5,,1E7,,1E9,,1EB,,1ED,,1EF,,,1F3,1F3,,1F5,,195,1BF,1F9,,1FB,,1FD,,1FF
  200:201,,203,,205,,207,,209,,20B,,20D,,20F,,211,,213,,215,,217,,219,,21B,,21D,,21F
  220:19E,,223,,225,,227,,229,,22B,,22D,,22F,,231,,233
  23A:2C65,23C,,19A,2C66,,,242,,180,289,28C,247,,249,,24B,,24D,,24F 370:371,,373,,,,377 37F:3F3
  386:3AC,,3AD,3AE,3AF,,3CC,,3CD,3CE,,3B1,3B2,3B3,3B4,3B5,3B6,3B7,3B8,3B9,3BA,3BB,3BC
  39D:3BD,3BE,3BF,3C0,3C1,,3C3,3C4,3C5,3C6,3C7,3C8,3C9,3CA,3CB 3CF:3D7
  3D8:3D9,,3DB,,3DD,,3DF,,3E1,,3E3,,3E5,,3E7,,3E9,,3EB,,3ED,,3EF
  3F4:3B8,,,3F8,,3F2,3FB,,,37B,37C,37D,450,451,452,453,454,455,456,457,458,459,45A
  40B:45B,45C,45D,45E,45F,430,431,432,433,434,435,436,437,438,439,43A,43B,43C,43D,43E
  41F:43F,440,441,442,443,444,445,446,447,448,449,44A,44B,44C,44D,44E,44F
  460:461,,463,,465,,467,,469,,46B,,46D,,46F,,471,,473,,475,,477,,479,,47B,,47D,,47F 480:481
  48A:48B,,48D,,48F,,491,,493,,495,,497,,499,,49B,,49D,,49F,,4A1,,4A3,,4A5,,4A7,,4A9
  4AA:4AB,,4AD,,4AF,,4B1,,4B3,,4B5,,4B7,,4B9,,4BB,,4BD,,4BF,,4CF,4C2,,4C4,,4C6,,4C8
  4C9:4CA,,4CC,,4CE,,,4D1,,4D3,,4D5,,4D7,,4D9,,4DB,,4DD,,4DF,,4E1,,4E3,,4E5,,4E7,,4E9
  4EA:4EB,,4ED,,4EF,,4F1,,4F3,,4F5,,4F7,,4F9,,4FB,,4FD,,4FF,,501,,503,,505,,507,,509
  50A:50B,,50D,,50F,,511,,513,,515,,517,,519,,51B,,51D,,51F,,521,,523,,525,,527,,529
  52A:52B,,52D,,52F,,,561,562,563,564,565,566,567,568,569,56A,56B,56C,56D,56E,56F,570
  541:571,572,573,574,575,576,577,578,579,57A,57B,57C,57D,57E,57F,580,581,582,583,584
  555:585,586
  10A0:2D00,2D01,2D02,2D03,2D04,2D05,2D06,2D07,2D08,2D09,2D0A,2D0B,2D0C,2D0D,2D0E,2D0F
  10B0:2D10,2D11,2D12,2D13,2D14,2D15,2D16,2D17,2D18,2D19,2D1A,2D1B,2D1C,2D1D,2D1E,2D1F
  10C0:2D20,2D21,2D22,2D23,2D24,2D25,,2D27 10CD:2D2D
  13A0:AB70,AB71,AB72,AB73,AB74,AB75,AB76,AB77,AB78,AB79,AB7A,AB7B,AB7C,AB7D,AB7E,AB7F
  13B0:AB80,AB81,AB82,AB83,AB84,AB85,AB86,AB87,AB88,AB89,AB8A,AB8B,AB8C,AB8D,AB8E,AB8F
  13C0:AB90,AB91,AB92,AB93,AB94,AB95,AB96,AB97,AB98,AB99,AB9A,AB9B,AB9C,AB9D,AB9E,AB9F
  13D0:ABA0,ABA1,ABA2,ABA3,ABA4,ABA5,ABA6,ABA7,ABA8,ABA9,ABAA,ABAB,ABAC,ABAD,ABAE,ABAF
  13E0:ABB0,ABB1,ABB2,ABB3,ABB4,ABB5,ABB6,ABB7,ABB8,ABB9,ABBA,ABBB,ABBC,ABBD,ABBE,ABBF
  13F0:13F8,13F9,13FA,13FB,13FC,13FD 1C89:1C8A
  1C90:10D0,10D1,10D2,10D3,10D4,10D5,10D6,10D7,10D8,10D9,10DA,10DB,10DC,10DD,10DE,10DF
  1CA0:10E0,10E1,10E2,10E3,10E4,10E5,10E6,10E7,10E8,10E9,10EA,10EB,10EC,10ED,10EE,10EF
  1CB0:10F0,10F1,10F2,10F3,10F4,10F5,10F6,10F7,10F8,10F9,10FA,,,10FD,10FE,10FF
  1E00:1E01,,1E03,,1E05,,1E07,,1E09,,1E0B,,1E0D,,1E0F,,1E11,,1E13,,1E15,,1E17,,1E19
  1E1A:1E1B,,1E1D,,1E1F,,1E21,,1E23,,1E25,,1E27,,1E29,,1E2B,,1E2D,,1E2F,,1E31,,1E33
  1E34:1E35,,1E37,,1E39,,1E3B,,1E3D,,1E3F,,1E41,,1E43,,1E45,,1E47,,1E49,,1E4B,,1E4D
  1E4E:1E4F,,1E51,,1E53,,1E55,,1E57,,1E59,,1E5B,,1E5D,,1E5F,,1E61,,1E63,,1E65,,1E67
  1E68:1E69,,1E6B,,1E6D,,1E6F,,1E71,,1E73,,1E75,,1E77,,1E79,,1E7B,,1E7D,,1E7F,,1E81
  1E82:1E83,,1E85,,1E87,,1E89,,1E8B,,1E8D,,1E8F,,1E91,,1E93,,1E95
  1E9E:DF,,1EA1,,1EA3,,1EA5,,1EA7,,1EA9,,1EAB,,1EAD,,1EAF,,1EB1,,1EB3,,1EB5,,1EB7
  1EB8:1EB9,,1EBB,,1EBD,,1EBF,,1EC1,,1EC3,,1EC5,,1EC7,,1EC9,,1ECB,,1ECD,,1ECF,,1ED1
  1ED2:1ED3,,1ED5,,1ED7,,1ED9,,1EDB,,1EDD,,1EDF,,1EE1,,1EE3,,1EE5,,1EE7,,1EE9,,1EEB
  1EEC:1EED,,1EEF,,1EF1,,1EF3,,1EF5,,1EF7,,1EF9,,1EFB,,1EFD,,1EFF
  1F08:1F00,1F01,1F02,1F03,1F04,1F05,1F06,1F07 1F18:1F10,1F11,1F12,1F13,1F14,1F15
  1F28:1F20,1F21,1F22,1F23,1F24,1F25,1F26,1F27 1F38:1F30,1F31,1F32,1F33,1F34,1F35,1F36,1F37
  1F48:1F40,1F41,1F42,1F43,1F44,1F45 1F59:1F51,,1F53,,1F55,,1F57
  1F68:1F60,1F61,1F62,1F63,1F64,1F65,1F66,1F67 1F88:1F80,1F81,1F82,1F83,1F84,1F85,1F86,1F87
  1F98:1F90,1F91,1F92,1F93,1F94,1F95,1F96,1F97 1FA8:1FA0,1FA1,1FA2,1FA3,1FA4,1FA5,1FA6,1FA7
  1FB8:1FB0,1FB1,1F70,1F71,1FB3 1FC8:1F72,1F73,1F74,1F75,1FC3 1FD8:1FD0,1FD1,1F76,1F77
  1FE8:1FE0,1FE1,1F7A,1F7B,1FE5 1FF8:1F78,1F79,1F7C,1F7D,1FF3 2126:3C9,,,,6B,E5 2132:214E
  2160:2170,2171,2172,2173,2174,2175,2176,2177,2178,2179,217A,217B,217C,217D,217E,217F 2183:2184
  24B6:24D0,24D1,24D2,24D3,24D4,24D5,24D6,24D7,24D8,24D9,24DA,24DB,24DC,24DD,24DE,24DF
  24C6:24E0,24E1,24E2,24E3,24E4,24E5,24E6,24E7,24E8,24E9
  2C00:2C30,2C31,2C32,2C33,2C34,2C35,2C36,2C37,2C38,2C39,2C3A,2C3B,2C3C,2C3D,2C3E,2C3F
  2C10:2C40,2C41,2C42,2C43,2C44,2C45,2C46,2C47,2C48,2C49,2C4A,2C4B,2C4C,2C4D,2C4E,2C4F
  2C20:2C50,2C51,2C52,2C53,2C54,2C55,2C56,2C57,2C58,2C59,2C5A,2C5B,2C5C,2C5D,2C5E,2C5F
  2C60:2C61,,26B,1D7D,27D,,,2C68,,2C6A,,2C6C,,251,271,250,252,,2C73,,,2C76
  2C7E:23F,240,2C81,,2C83,,2C85,,2C87,,2C89,,2C8B,,2C8D,,2C8F,,2C91,,2C93,,2C95,,2C97
  2C98:2C99,,2C9B,,2C9D,,2C9F,,2CA1,,2CA3,,2CA5,,2CA7,,2CA9,,2CAB,,2CAD,,2CAF,,2CB1
  2CB2:2CB3,,2CB5,,2CB7,,2CB9,,2CBB,,2CBD,,2CBF,,2CC1,,2CC3,,2CC5,,2CC7,,2CC9,,2CCB
  2CCC:2CCD,,2CCF,,2CD1,,2CD3,,2CD5,,2CD7,,2CD9,,2CDB,,2CDD,,2CDF,,2CE1,,2CE3 2CEB:2CEC,,2CEE
  2CF2:2CF3 A640:A641,,A643,,A645,,A647,,A649,,A64B,,A64D,,A64F,,A651,,A653,,A655,,A657,,A659
  A65A:A65B,,A65D,,A65F,,A661,,A663,,A665,,A667,,A669,,A66B,,A66D
  A680:A681,,A683,,A685,,A687,,A689,,A68B,,A68D,,A68F,,A691,,A693,,A695,,A697,,A699 A69A:A69B
  A722:A723,,A725,,A727,,A729,,A72B,,A72D,,A72F,,,,A733,,A735,,A737,,A739,,A73B,,A73D
  A73E:A73F,,A741,,A743,,A745,,A747,,A749,,A74B,,A74D,,A74F,,A751,,A753,,A755,,A757
  A758:A759,,A75B,,A75D,,A75F,,A761,,A763,,A765,,A767,,A769,,A76B,,A76D,,A76F
  A779:A77A,,A77C,,1D79,A77F,,A781,,A783,,A785,,A787
  A78B:A78C,,265,,,A791,,A793,,,,A797,,A799,,A79B,,A79D,,A79F,,A7A1,,A7A3,,A7A5,,A7A7
  A7A8:A7A9,,266,25C,261,26C,26A,,29E,287,29D,AB53,A7B5,,A7B7,,A7B9,,A7BB,,A7BD,,A7BF
  A7C0:A7C1,,A7C3,,A794,282,1D8E,A7C8,,A7CA,,264,A7CD,,A7CF,,A7D1,,A7D3,,A7D5,,A7D7
  A7D8:A7D9,,A7DB,,19B A7F5:A7F6
  FF21:FF41,FF42,FF43,FF44,FF45,FF46,FF47,FF48,FF49,FF4A,FF4B,FF4C,FF4D,FF4E,FF4F,FF50
  FF31:FF51,FF52,FF53,FF54,FF55,FF56,FF57,FF58,FF59,FF5A
  10400:10428,10429,1042A,1042B,1042C,1042D,1042E,1042F,10430,10431,10432,10433,10434
  1040D:10435,10436,10437,10438,10439,1043A,1043B,1043C,1043D,1043E,1043F,10440,10441
  1041A:10442,10443,10444,10445,10446,10447,10448,10449,1044A,1044B,1044C,1044D,1044E
  10427:1044F
  104B0:104D8,104D9,104DA,104DB,104DC,104DD,104DE,104DF,104E0,104E1,104E2,104E3,104E4
  104BD:104E5,104E6,104E7,104E8,104E9,104EA,104EB,104EC,104ED,104EE,104EF,104F0,104F1
  104CA:104F2,104F3,104F4,104F5,104F6,104F7,104F8,104F9,104FA,104FB
  10570:10597,10598,10599,1059A,1059B,1059C,1059D,1059E,1059F,105A0,105A1,,105A3,105A4
  1057E:105A5,105A6,105A7,105A8,105A9,105AA,105AB,105AC,105AD,105AE,105AF,105B0,105B1
  1058C:105B3,105B4,105B5,105B6,105B7,105B8,105B9,,105BB,105BC
  10C80:10CC0,10CC1,10CC2,10CC3,10CC4,10CC5,10CC6,10CC7,10CC8,10CC9,10CCA,10CCB,10CCC
  10C8D:10CCD,10CCE,10CCF,10CD0,10CD1,10CD2,10CD3,10CD4,10CD5,10CD6,10CD7,10CD8,10CD9
  10C9A:10CDA,10CDB,10CDC,10CDD,10CDE,10CDF,10CE0,10CE1,10CE2,10CE3,10CE4,10CE5,10CE6
  10CA7:10CE7,10CE8,10CE9,10CEA,10CEB,10CEC,10CED,10CEE,10CEF,10CF0,10CF1,10CF2
  10D50:10D70,10D71,10D72,10D73,10D74,10D75,10D76,10D77,10D78,10D79,10D7A,10D7B,10D7C
  10D5D:10D7D,10D7E,10D7F,10D80,10D81,10D82,10D83,10D84,10D85
  118A0:118C0,118C1,118C2,118C3,118C4,118C5,118C6,118C7,118C8,118C9,118CA,118CB,118CC
  118AD:118CD,118CE,118CF,118D0,118D1,118D2,118D3,118D4,118D5,118D6,118D7,118D8,118D9
  118BA:118DA,118DB,118DC,118DD,118DE,118DF
  16E40:16E60,16E61,16E62,16E63,16E64,16E65,16E66,16E67,16E68,16E69,16E6A,16E6B,16E6C
  16E4D:16E6D,16E6E,16E6F,16E70,16E71,16E72,16E73,16E74,16E75,16E76,16E77,16E78,16E79
  16E5A:16E7A,16E7B,16E7C,16E7D,16E7E,16E7F
  16EA0:16EBB,16EBC,16EBD,16EBE,16EBF,16EC0,16EC1,16EC2,16EC3,16EC4,16EC5,16EC6,16EC7
  16EAD:16EC8,16EC9,16ECA,16ECB,16ECC,16ECD,16ECE,16ECF,16ED0,16ED1,16ED2,16ED3
  1E900:1E922,1E923,1E924,1E925,1E926,1E927,1E928,1E929,1E92A,1E92B,1E92C,1E92D,1E92E
  1E90D:1E92F,1E930,1E931,1E932,1E933,1E934,1E935,1E936,1E937,1E938,1E939,1E93A,1E93B
  1E91A:1E93C,1E93D,1E93E,1E93F,1E940,1E941,1E942,1E943"

end Lookout.Text
