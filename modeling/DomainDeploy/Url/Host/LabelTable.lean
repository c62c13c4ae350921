import DomainDeploy.Text.CodeTable

/-!
# What the labels of domain names are checked against

Marks, directions and joining types of the Unicode character database.  Directions are numbered: 1 R,
2 AL, 3 AN, 4 EN, 5 ES, 6 CS, 7 ET, 8 ON, 9 BN, 10 NSM, 11 any other than L.  Joining types are
numbered: 1 L, 2 R, 3 D, 4 T.
-/

namespace DomainDeploy.Url.Domain

/-- Marks, which combine with the character before them. -/
def markTable : Text.CodeTable := .ofText "
300-36F 483-489 591-5BD 5BF 5C1-5C2 5C4-5C5 5C7 610-61A 64B-65F 670 6D6-6DC 6DF-6E4 6E7-6E8
6EA-6ED 711 730-74A 7A6-7B0 7EB-7F3 7FD 816-819 81B-823 825-827 829-82D 859-85B 898-89F 8CA-8E1
8E3-903 93A-93C 93E-94F 951-957 962-963 981-983 9BC 9BE-9C4 9C7-9C8 9CB-9CD 9D7 9E2-9E3 9FE
A01-A03 A3C A3E-A42 A47-A48 A4B-A4D A51 A70-A71 A75 A81-A83 ABC ABE-AC5 AC7-AC9 ACB-ACD AE2-AE3
AFA-AFF B01-B03 B3C B3E-B44 B47-B48 B4B-B4D B55-B57 B62-B63 B82 BBE-BC2 BC6-BC8 BCA-BCD BD7
C00-C04 C3C C3E-C44 C46-C48 C4A-C4D C55-C56 C62-C63 C81-C83 CBC CBE-CC4 CC6-CC8 CCA-CCD CD5-CD6
CE2-CE3 D00-D03 D3B-D3C D3E-D44 D46-D48 D4A-D4D D57 D62-D63 D81-D83 DCA DCF-DD4 DD6 DD8-DDF
DF2-DF3 E31 E34-E3A E47-E4E EB1 EB4-EBC EC8-ECD F18-F19 F35 F37 F39 F3E-F3F F71-F84 F86-F87
F8D-F97 F99-FBC FC6 102B-103E 1056-1059 105E-1060 1062-1064 1067-106D 1071-1074 1082-108D 108F
109A-109D 135D-135F 1712-1715 1732-1734 1752-1753 1772-1773 17B4-17D3 17DD 180B-180D 180F
1885-1886 18A9 1920-192B 1930-193B 1A17-1A1B 1A55-1A5E 1A60-1A7C 1A7F 1AB0-1ACE 1B00-1B04
1B34-1B44 1B6B-1B73 1B80-1B82 1BA1-1BAD 1BE6-1BF3 1C24-1C37 1CD0-1CD2 1CD4-1CE8 1CED 1CF4
1CF7-1CF9 1DC0-1DFF 20D0-20F0 2CEF-2CF1 2D7F 2DE0-2DFF 302A-302F 3099-309A A66F-A672 A674-A67D
A69E-A69F A6F0-A6F1 A802 A806 A80B A823-A827 A82C A880-A881 A8B4-A8C5 A8E0-A8F1 A8FF A926-A92D
A947-A953 A980-A983 A9B3-A9C0 A9E5 AA29-AA36 AA43 AA4C-AA4D AA7B-AA7D AAB0 AAB2-AAB4 AAB7-AAB8
AABE-AABF AAC1 AAEB-AAEF AAF5-AAF6 ABE3-ABEA ABEC-ABED FB1E FE00-FE0F FE20-FE2F 101FD 102E0
10376-1037A 10A01-10A03 10A05-10A06 10A0C-10A0F 10A38-10A3A 10A3F 10AE5-10AE6 10D24-10D27
10EAB-10EAC 10F46-10F50 10F82-10F85 11000-11002 11038-11046 11070 11073-11074 1107F-11082
110B0-110BA 110C2 11100-11102 11127-11134 11145-11146 11173 11180-11182 111B3-111C0 111C9-111CC
111CE-111CF 1122C-11237 1123E 112DF-112EA 11300-11303 1133B-1133C 1133E-11344 11347-11348
1134B-1134D 11357 11362-11363 11366-1136C 11370-11374 11435-11446 1145E 114B0-114C3 115AF-115B5
115B8-115C0 115DC-115DD 11630-11640 116AB-116B7 1171D-1172B 1182C-1183A 11930-11935 11937-11938
1193B-1193E 11940 11942-11943 119D1-119D7 119DA-119E0 119E4 11A01-11A0A 11A33-11A39 11A3B-11A3E
11A47 11A51-11A5B 11A8A-11A99 11C2F-11C36 11C38-11C3F 11C92-11CA7 11CA9-11CB6 11D31-11D36 11D3A
11D3C-11D3D 11D3F-11D45 11D47 11D8A-11D8E 11D90-11D91 11D93-11D97 11EF3-11EF6 16AF0-16AF4
16B30-16B36 16F4F 16F51-16F87 16F8F-16F92 16FE4 16FF0-16FF1 1BC9D-1BC9E 1CF00-1CF2D 1CF30-1CF46
1D165-1D169 1D16D-1D172 1D17B-1D182 1D185-1D18B 1D1AA-1D1AD 1D242-1D244 1DA00-1DA36 1DA3B-1DA6C
1DA75 1DA84 1DA9B-1DA9F 1DAA1-1DAAF 1E000-1E006 1E008-1E018 1E01B-1E021 1E023-1E024 1E026-1E02A
1E130-1E136 1E2AE 1E2EC-1E2EF 1E8D0-1E8D6 1E944-1E94A E0100-E01EF"

/-- Directions other than from left to right. -/
def directionTable : Text.CodeTable := .ofText "
0-8>9 9-D>B E-1B>9 1C-20>B 21-22>8 23-25>7 26-2A>8 2B>5 2C>6 2D>5 2E-2F>6 30-39>4 3A>6 3B-40>8
5B-60>8 7B-7E>8 7F-84>9 85>B 86-9F>9 A0>6 A1>8 A2-A5>7 A6-A9>8 AB-AC>8 AD>9 AE-AF>8 B0-B1>7
B2-B3>4 B4>8 B6-B8>8 B9>4 BB-BF>8 D7>8 F7>8 2B9-2BA>8 2C2-2CF>8 2D2-2DF>8 2E5-2ED>8 2EF-2FF>8
300-36F>A 374-375>8 37E>8 384-385>8 387>8 3F6>8 483-489>A 58A>8 58D-58E>8 58F>7 591-5BD>A 5BE>1
5BF>A 5C0>1 5C1-5C2>A 5C3>1 5C4-5C5>A 5C6>1 5C7>A 5D0-5EA>1 5EF-5F4>1 600-605>3 606-607>8 608>2
609-60A>7 60B>2 60C>6 60D>2 60E-60F>8 610-61A>A 61B-64A>2 64B-65F>A 660-669>3 66A>7 66B-66C>3
66D-66F>2 670>A 671-6D5>2 6D6-6DC>A 6DD>3 6DE>8 6DF-6E4>A 6E5-6E6>2 6E7-6E8>A 6E9>8 6EA-6ED>A
6EE-6EF>2 6F0-6F9>4 6FA-70D>2 70F-710>2 711>A 712-72F>2 730-74A>A 74D-7A5>2 7A6-7B0>A 7B1>2
7C0-7EA>1 7EB-7F3>A 7F4-7F5>1 7F6-7F9>8 7FA>1 7FD>A 7FE-815>1 816-819>A 81A>1 81B-823>A 824>1
825-827>A 828>1 829-82D>A 830-83E>1 840-858>1 859-85B>A 85E>1 860-86A>2 870-88E>2 890-891>3
898-89F>A 8A0-8C9>2 8CA-8E1>A 8E2>3 8E3-902>A 93A>A 93C>A 941-948>A 94D>A 951-957>A 962-963>A
981>A 9BC>A 9C1-9C4>A 9CD>A 9E2-9E3>A 9F2-9F3>7 9FB>7 9FE>A A01-A02>A A3C>A A41-A42>A A47-A48>A
A4B-A4D>A A51>A A70-A71>A A75>A A81-A82>A ABC>A AC1-AC5>A AC7-AC8>A ACD>A AE2-AE3>A AF1>7
AFA-AFF>A B01>A B3C>A B3F>A B41-B44>A B4D>A B55-B56>A B62-B63>A B82>A BC0>A BCD>A BF3-BF8>8 BF9>7
BFA>8 C00>A C04>A C3C>A C3E-C40>A C46-C48>A C4A-C4D>A C55-C56>A C62-C63>A C78-C7E>8 C81>A CBC>A
CCC-CCD>A CE2-CE3>A D00-D01>A D3B-D3C>A D41-D44>A D4D>A D62-D63>A D81>A DCA>A DD2-DD4>A DD6>A
E31>A E34-E3A>A E3F>7 E47-E4E>A EB1>A EB4-EBC>A EC8-ECD>A F18-F19>A F35>A F37>A F39>A F3A-F3D>8
F71-F7E>A F80-F84>A F86-F87>A F8D-F97>A F99-FBC>A FC6>A 102D-1030>A 1032-1037>A 1039-103A>A
103D-103E>A 1058-1059>A 105E-1060>A 1071-1074>A 1082>A 1085-1086>A 108D>A 109D>A 135D-135F>A
1390-1399>8 1400>8 1680>B 169B-169C>8 1712-1714>A 1732-1733>A 1752-1753>A 1772-1773>A 17B4-17B5>A
17B7-17BD>A 17C6>A 17C9-17D3>A 17DB>7 17DD>A 17F0-17F9>8 1800-180A>8 180B-180D>A 180E>9 180F>A
1885-1886>A 18A9>A 1920-1922>A 1927-1928>A 1932>A 1939-193B>A 1940>8 1944-1945>8 19DE-19FF>8
1A17-1A18>A 1A1B>A 1A56>A 1A58-1A5E>A 1A60>A 1A62>A 1A65-1A6C>A 1A73-1A7C>A 1A7F>A 1AB0-1ACE>A
1B00-1B03>A 1B34>A 1B36-1B3A>A 1B3C>A 1B42>A 1B6B-1B73>A 1B80-1B81>A 1BA2-1BA5>A 1BA8-1BA9>A
1BAB-1BAD>A 1BE6>A 1BE8-1BE9>A 1BED>A 1BEF-1BF1>A 1C2C-1C33>A 1C36-1C37>A 1CD0-1CD2>A 1CD4-1CE0>A
1CE2-1CE8>A 1CED>A 1CF4>A 1CF8-1CF9>A 1DC0-1DFF>A 1FBD>8 1FBF-1FC1>8 1FCD-1FCF>8 1FDD-1FDF>8
1FED-1FEF>8 1FFD-1FFE>8 2000-200A>B 200B-200D>9 200F>1 2010-2027>8 2028-202E>B 202F>6 2030-2034>7
2035-2043>8 2044>6 2045-205E>8 205F>B 2060-2064>9 2066-2069>B 206A-206F>9 2070>4 2074-2079>4
207A-207B>5 207C-207E>8 2080-2089>4 208A-208B>5 208C-208E>8 20A0-20C0>7 20D0-20F0>A 2100-2101>8
2103-2106>8 2108-2109>8 2114>8 2116-2118>8 211E-2123>8 2125>8 2127>8 2129>8 212E>7 213A-213B>8
2140-2144>8 214A-214D>8 2150-215F>8 2189-218B>8 2190-2211>8 2212>5 2213>7 2214-2335>8 237B-2394>8
2396-2426>8 2440-244A>8 2460-2487>8 2488-249B>4 24EA-26AB>8 26AD-27FF>8 2900-2B73>8 2B76-2B95>8
2B97-2BFF>8 2CE5-2CEA>8 2CEF-2CF1>A 2CF9-2CFF>8 2D7F>A 2DE0-2DFF>A 2E00-2E5D>8 2E80-2E99>8
2E9B-2EF3>8 2F00-2FD5>8 2FF0-2FFB>8 3000>B 3001-3004>8 3008-3020>8 302A-302D>A 3030>8 3036-3037>8
303D-303F>8 3099-309A>A 309B-309C>8 30A0>8 30FB>8 31C0-31E3>8 321D-321E>8 3250-325F>8 327C-327E>8
32B1-32BF>8 32CC-32CF>8 3377-337A>8 33DE-33DF>8 33FF>8 4DC0-4DFF>8 A490-A4C6>8 A60D-A60F>8
A66F-A672>A A673>8 A674-A67D>A A67E-A67F>8 A69E-A69F>A A6F0-A6F1>A A700-A721>8 A788>8 A802>A
A806>A A80B>A A825-A826>A A828-A82B>8 A82C>A A838-A839>7 A874-A877>8 A8C4-A8C5>A A8E0-A8F1>A
A8FF>A A926-A92D>A A947-A951>A A980-A982>A A9B3>A A9B6-A9B9>A A9BC-A9BD>A A9E5>A AA29-AA2E>A
AA31-AA32>A AA35-AA36>A AA43>A AA4C>A AA7C>A AAB0>A AAB2-AAB4>A AAB7-AAB8>A AABE-AABF>A AAC1>A
AAEC-AAED>A AAF6>A AB6A-AB6B>8 ABE5>A ABE8>A ABED>A FB1D>1 FB1E>A FB1F-FB28>1 FB29>5 FB2A-FB36>1
FB38-FB3C>1 FB3E>1 FB40-FB41>1 FB43-FB44>1 FB46-FB4F>1 FB50-FBC2>2 FBD3-FD3D>2 FD3E-FD4F>8
FD50-FD8F>2 FD92-FDC7>2 FDCF>8 FDF0-FDFC>2 FDFD-FDFF>8 FE00-FE0F>A FE10-FE19>8 FE20-FE2F>A
FE30-FE4F>8 FE50>6 FE51>8 FE52>6 FE54>8 FE55>6 FE56-FE5E>8 FE5F>7 FE60-FE61>8 FE62-FE63>5
FE64-FE66>8 FE68>8 FE69-FE6A>7 FE6B>8 FE70-FE74>2 FE76-FEFC>2 FEFF>9 FF01-FF02>8 FF03-FF05>7
FF06-FF0A>8 FF0B>5 FF0C>6 FF0D>5 FF0E-FF0F>6 FF10-FF19>4 FF1A>6 FF1B-FF20>8 FF3B-FF40>8
FF5B-FF65>8 FFE0-FFE1>7 FFE2-FFE4>8 FFE5-FFE6>7 FFE8-FFEE>8 FFF9-FFFD>8 10101>8 10140-1018C>8
10190-1019C>8 101A0>8 101FD>A 102E0>A 102E1-102FB>4 10376-1037A>A 10800-10805>1 10808>1
1080A-10835>1 10837-10838>1 1083C>1 1083F-10855>1 10857-1089E>1 108A7-108AF>1 108E0-108F2>1
108F4-108F5>1 108FB-1091B>1 1091F>8 10920-10939>1 1093F>1 10980-109B7>1 109BC-109CF>1
109D2-10A00>1 10A01-10A03>A 10A05-10A06>A 10A0C-10A0F>A 10A10-10A13>1 10A15-10A17>1 10A19-10A35>1
10A38-10A3A>A 10A3F>A 10A40-10A48>1 10A50-10A58>1 10A60-10A9F>1 10AC0-10AE4>1 10AE5-10AE6>A
10AEB-10AF6>1 10B00-10B35>1 10B39-10B3F>8 10B40-10B55>1 10B58-10B72>1 10B78-10B91>1 10B99-10B9C>1
10BA9-10BAF>1 10C00-10C48>1 10C80-10CB2>1 10CC0-10CF2>1 10CFA-10CFF>1 10D00-10D23>2 10D24-10D27>A
10D30-10D39>3 10E60-10E7E>3 10E80-10EA9>1 10EAB-10EAC>A 10EAD>1 10EB0-10EB1>1 10F00-10F27>1
10F30-10F45>2 10F46-10F50>A 10F51-10F59>2 10F70-10F81>1 10F82-10F85>A 10F86-10F89>1 10FB0-10FCB>1
10FE0-10FF6>1 11001>A 11038-11046>A 11052-11065>8 11070>A 11073-11074>A 1107F-11081>A
110B3-110B6>A 110B9-110BA>A 110C2>A 11100-11102>A 11127-1112B>A 1112D-11134>A 11173>A
11180-11181>A 111B6-111BE>A 111C9-111CC>A 111CF>A 1122F-11231>A 11234>A 11236-11237>A 1123E>A
112DF>A 112E3-112EA>A 11300-11301>A 1133B-1133C>A 11340>A 11366-1136C>A 11370-11374>A
11438-1143F>A 11442-11444>A 11446>A 1145E>A 114B3-114B8>A 114BA>A 114BF-114C0>A 114C2-114C3>A
115B2-115B5>A 115BC-115BD>A 115BF-115C0>A 115DC-115DD>A 11633-1163A>A 1163D>A 1163F-11640>A
11660-1166C>8 116AB>A 116AD>A 116B0-116B5>A 116B7>A 1171D-1171F>A 11722-11725>A 11727-1172B>A
1182F-11837>A 11839-1183A>A 1193B-1193C>A 1193E>A 11943>A 119D4-119D7>A 119DA-119DB>A 119E0>A
11A01-11A06>A 11A09-11A0A>A 11A33-11A38>A 11A3B-11A3E>A 11A47>A 11A51-11A56>A 11A59-11A5B>A
11A8A-11A96>A 11A98-11A99>A 11C30-11C36>A 11C38-11C3D>A 11C92-11CA7>A 11CAA-11CB0>A 11CB2-11CB3>A
11CB5-11CB6>A 11D31-11D36>A 11D3A>A 11D3C-11D3D>A 11D3F-11D45>A 11D47>A 11D90-11D91>A 11D95>A
11D97>A 11EF3-11EF4>A 11FD5-11FDC>8 11FDD-11FE0>7 11FE1-11FF1>8 16AF0-16AF4>A 16B30-16B36>A
16F4F>A 16F8F-16F92>A 16FE2>8 16FE4>A 1BC9D-1BC9E>A 1BCA0-1BCA3>9 1CF00-1CF2D>A 1CF30-1CF46>A
1D167-1D169>A 1D173-1D17A>9 1D17B-1D182>A 1D185-1D18B>A 1D1AA-1D1AD>A 1D1E9-1D1EA>8 1D200-1D241>8
1D242-1D244>A 1D245>8 1D300-1D356>8 1D6DB>8 1D715>8 1D74F>8 1D789>8 1D7C3>8 1D7CE-1D7FF>4
1DA00-1DA36>A 1DA3B-1DA6C>A 1DA75>A 1DA84>A 1DA9B-1DA9F>A 1DAA1-1DAAF>A 1E000-1E006>A
1E008-1E018>A 1E01B-1E021>A 1E023-1E024>A 1E026-1E02A>A 1E130-1E136>A 1E2AE>A 1E2EC-1E2EF>A
1E2FF>7 1E800-1E8C4>1 1E8C7-1E8CF>1 1E8D0-1E8D6>A 1E900-1E943>1 1E944-1E94A>A 1E94B>1
1E950-1E959>1 1E95E-1E95F>1 1EC71-1ECB4>2 1ED01-1ED3D>2 1EE00-1EE03>2 1EE05-1EE1F>2 1EE21-1EE22>2
1EE24>2 1EE27>2 1EE29-1EE32>2 1EE34-1EE37>2 1EE39>2 1EE3B>2 1EE42>2 1EE47>2 1EE49>2 1EE4B>2
1EE4D-1EE4F>2 1EE51-1EE52>2 1EE54>2 1EE57>2 1EE59>2 1EE5B>2 1EE5D>2 1EE5F>2 1EE61-1EE62>2 1EE64>2
1EE67-1EE6A>2 1EE6C-1EE72>2 1EE74-1EE77>2 1EE79-1EE7C>2 1EE7E>2 1EE80-1EE89>2 1EE8B-1EE9B>2
1EEA1-1EEA3>2 1EEA5-1EEA9>2 1EEAB-1EEBB>2 1EEF0-1EEF1>8 1F000-1F02B>8 1F030-1F093>8 1F0A0-1F0AE>8
1F0B1-1F0BF>8 1F0C1-1F0CF>8 1F0D1-1F0F5>8 1F100-1F10A>4 1F10B-1F10F>8 1F12F>8 1F16A-1F16F>8
1F1AD>8 1F260-1F265>8 1F300-1F6D7>8 1F6DD-1F6EC>8 1F6F0-1F6FC>8 1F700-1F773>8 1F780-1F7D8>8
1F7E0-1F7EB>8 1F7F0>8 1F800-1F80B>8 1F810-1F847>8 1F850-1F859>8 1F860-1F887>8 1F890-1F8AD>8
1F8B0-1F8B1>8 1F900-1FA53>8 1FA60-1FA6D>8 1FA70-1FA74>8 1FA78-1FA7C>8 1FA80-1FA86>8 1FA90-1FAAC>8
1FAB0-1FABA>8 1FAC0-1FAC5>8 1FAD0-1FAD9>8 1FAE0-1FAE7>8 1FAF0-1FAF6>8 1FB00-1FB92>8 1FB94-1FBCA>8
1FBF0-1FBF9>4 E0001>9 E0020-E007F>9 E0100-E01EF>A"

/-- Joining types of the characters that join others. -/
def joiningTable : Text.CodeTable := .ofText "
AD>4 300-36F>4 483-489>4 591-5BD>4 5BF>4 5C1-5C2>4 5C4-5C5>4 5C7>4 610-61A>4 61C>4 620>3 622-625>2
626>3 627>2 628>3 629>2 62A-62E>3 62F-632>2 633-63F>3 641-647>3 648>2 649-64A>3 64B-65F>4
66E-66F>3 670>4 671-673>2 675-677>2 678-687>3 688-699>2 69A-6BF>3 6C0>2 6C1-6C2>3 6C3-6CB>2 6CC>3
6CD>2 6CE>3 6CF>2 6D0-6D1>3 6D2-6D3>2 6D5>2 6D6-6DC>4 6DF-6E4>4 6E7-6E8>4 6EA-6ED>4 6EE-6EF>2
6FA-6FC>3 6FF>3 70F>4 710>2 711>4 712-714>3 715-719>2 71A-71D>3 71E>2 71F-727>3 728>2 729>3 72A>2
72B>3 72C>2 72D-72E>3 72F>2 730-74A>4 74D>2 74E-758>3 759-75B>2 75C-76A>3 76B-76C>2 76D-770>3
771>2 772>3 773-774>2 775-777>3 778-779>2 77A-77F>3 7A6-7B0>4 7CA-7EA>3 7EB-7F3>4 7FD>4 816-819>4
81B-823>4 825-827>4 829-82D>4 840>2 841-845>3 846-847>2 848>3 849>2 84A-853>3 854>2 855>3
856-858>2 859-85B>4 860>3 862-865>3 867>2 868>3 869-86A>2 870-882>2 886>3 889-88D>3 88E>2 88F>3
897-89F>4 8A0-8A9>3 8AA-8AC>2 8AE>2 8AF-8B0>3 8B1-8B2>2 8B3-8B8>3 8B9>2 8BA-8C8>3 8CA-8E1>4
8E3-902>4 93A>4 93C>4 941-948>4 94D>4 951-957>4 962-963>4 981>4 9BC>4 9C1-9C4>4 9CD>4 9E2-9E3>4
9FE>4 A01-A02>4 A3C>4 A41-A42>4 A47-A48>4 A4B-A4D>4 A51>4 A70-A71>4 A75>4 A81-A82>4 ABC>4
AC1-AC5>4 AC7-AC8>4 ACD>4 AE2-AE3>4 AFA-AFF>4 B01>4 B3C>4 B3F>4 B41-B44>4 B4D>4 B55-B56>4
B62-B63>4 B82>4 BC0>4 BCD>4 C00>4 C04>4 C3C>4 C3E-C40>4 C46-C48>4 C4A-C4D>4 C55-C56>4 C62-C63>4
C81>4 CBC>4 CBF>4 CC6>4 CCC-CCD>4 CE2-CE3>4 D00-D01>4 D3B-D3C>4 D41-D44>4 D4D>4 D62-D63>4 D81>4
DCA>4 DD2-DD4>4 DD6>4 E31>4 E34-E3A>4 E47-E4E>4 EB1>4 EB4-EBC>4 EC8-ECE>4 F18-F19>4 F35>4 F37>4
F39>4 F71-F7E>4 F80-F84>4 F86-F87>4 F8D-F97>4 F99-FBC>4 FC6>4 102D-1030>4 1032-1037>4 1039-103A>4
103D-103E>4 1058-1059>4 105E-1060>4 1071-1074>4 1082>4 1085-1086>4 108D>4 109D>4 135D-135F>4
1712-1714>4 1732-1733>4 1752-1753>4 1772-1773>4 17B4-17B5>4 17B7-17BD>4 17C6>4 17C9-17D3>4 17DD>4
1807>3 180B-180D>4 180F>4 1820-1878>3 1885-1886>4 1887-18A8>3 18A9>4 18AA>3 1920-1922>4
1927-1928>4 1932>4 1939-193B>4 1A17-1A18>4 1A1B>4 1A56>4 1A58-1A5E>4 1A60>4 1A62>4 1A65-1A6C>4
1A73-1A7C>4 1A7F>4 1AB0-1ADD>4 1AE0-1AEB>4 1B00-1B03>4 1B34>4 1B36-1B3A>4 1B3C>4 1B42>4
1B6B-1B73>4 1B80-1B81>4 1BA2-1BA5>4 1BA8-1BA9>4 1BAB-1BAD>4 1BE6>4 1BE8-1BE9>4 1BED>4 1BEF-1BF1>4
1C2C-1C33>4 1C36-1C37>4 1CD0-1CD2>4 1CD4-1CE0>4 1CE2-1CE8>4 1CED>4 1CF4>4 1CF8-1CF9>4 1DC0-1DFF>4
200B>4 200E-200F>4 202A-202E>4 2060-2064>4 206A-206F>4 20D0-20F0>4 2CEF-2CF1>4 2D7F>4 2DE0-2DFF>4
302A-302D>4 3099-309A>4 A66F-A672>4 A674-A67D>4 A69E-A69F>4 A6F0-A6F1>4 A802>4 A806>4 A80B>4
A825-A826>4 A82C>4 A840-A871>3 A872>1 A8C4-A8C5>4 A8E0-A8F1>4 A8FF>4 A926-A92D>4 A947-A951>4
A980-A982>4 A9B3>4 A9B6-A9B9>4 A9BC-A9BD>4 A9E5>4 AA29-AA2E>4 AA31-AA32>4 AA35-AA36>4 AA43>4
AA4C>4 AA7C>4 AAB0>4 AAB2-AAB4>4 AAB7-AAB8>4 AABE-AABF>4 AAC1>4 AAEC-AAED>4 AAF6>4 ABE5>4 ABE8>4
ABED>4 FB1E>4 FE00-FE0F>4 FE20-FE2F>4 FEFF>4 FFF9-FFFB>4 101FD>4 102E0>4 10376-1037A>4
10A01-10A03>4 10A05-10A06>4 10A0C-10A0F>4 10A38-10A3A>4 10A3F>4 10AC0-10AC4>3 10AC5>2 10AC7>2
10AC9-10ACA>2 10ACD>1 10ACE-10AD2>2 10AD3-10AD6>3 10AD7>1 10AD8-10ADC>3 10ADD>2 10ADE-10AE0>3
10AE1>2 10AE4>2 10AE5-10AE6>4 10AEB-10AEE>3 10AEF>2 10B80>3 10B81>2 10B82>3 10B83-10B85>2
10B86-10B88>3 10B89>2 10B8A-10B8B>3 10B8C>2 10B8D>3 10B8E-10B8F>2 10B90>3 10B91>2 10BA9-10BAC>2
10BAD-10BAE>3 10D00>1 10D01-10D21>3 10D22>2 10D23>3 10D24-10D27>4 10D69-10D6D>4 10EAB-10EAC>4
10EC2>2 10EC3-10EC4>3 10EC6-10EC7>3 10EFA-10EFF>4 10F30-10F32>3 10F33>2 10F34-10F44>3
10F46-10F50>4 10F51-10F53>3 10F54>2 10F70-10F73>3 10F74-10F75>2 10F76-10F81>3 10F82-10F85>4
10FB0>3 10FB2-10FB3>3 10FB4-10FB6>2 10FB8>3 10FB9-10FBA>2 10FBB-10FBC>3 10FBD>2 10FBE-10FBF>3
10FC1>3 10FC2-10FC3>2 10FC4>3 10FC9>2 10FCA>3 10FCB>1 11001>4 11038-11046>4 11070>4 11073-11074>4
1107F-11081>4 110B3-110B6>4 110B9-110BA>4 110C2>4 11100-11102>4 11127-1112B>4 1112D-11134>4
11173>4 11180-11181>4 111B6-111BE>4 111C9-111CC>4 111CF>4 1122F-11231>4 11234>4 11236-11237>4
1123E>4 11241>4 112DF>4 112E3-112EA>4 11300-11301>4 1133B-1133C>4 11340>4 11366-1136C>4
11370-11374>4 113BB-113C0>4 113CE>4 113D0>4 113D2>4 113E1-113E2>4 11438-1143F>4 11442-11444>4
11446>4 1145E>4 114B3-114B8>4 114BA>4 114BF-114C0>4 114C2-114C3>4 115B2-115B5>4 115BC-115BD>4
115BF-115C0>4 115DC-115DD>4 11633-1163A>4 1163D>4 1163F-11640>4 116AB>4 116AD>4 116B0-116B5>4
116B7>4 1171D>4 1171F>4 11722-11725>4 11727-1172B>4 1182F-11837>4 11839-1183A>4 1193B-1193C>4
1193E>4 11943>4 119D4-119D7>4 119DA-119DB>4 119E0>4 11A01-11A0A>4 11A33-11A38>4 11A3B-11A3E>4
11A47>4 11A51-11A56>4 11A59-11A5B>4 11A8A-11A96>4 11A98-11A99>4 11B60>4 11B62-11B64>4 11B66>4
11C30-11C36>4 11C38-11C3D>4 11C3F>4 11C92-11CA7>4 11CAA-11CB0>4 11CB2-11CB3>4 11CB5-11CB6>4
11D31-11D36>4 11D3A>4 11D3C-11D3D>4 11D3F-11D45>4 11D47>4 11D90-11D91>4 11D95>4 11D97>4
11EF3-11EF4>4 11F00-11F01>4 11F36-11F3A>4 11F40>4 11F42>4 11F5A>4 13430-13440>4 13447-13455>4
1611E-16129>4 1612D-1612F>4 16AF0-16AF4>4 16B30-16B36>4 16F4F>4 16F8F-16F92>4 16FE4>4
1BC9D-1BC9E>4 1BCA0-1BCA3>4 1CF00-1CF2D>4 1CF30-1CF46>4 1D167-1D169>4 1D173-1D182>4 1D185-1D18B>4
1D1AA-1D1AD>4 1D242-1D244>4 1DA00-1DA36>4 1DA3B-1DA6C>4 1DA75>4 1DA84>4 1DA9B-1DA9F>4
1DAA1-1DAAF>4 1E000-1E006>4 1E008-1E018>4 1E01B-1E021>4 1E023-1E024>4 1E026-1E02A>4 1E08F>4
1E130-1E136>4 1E2AE>4 1E2EC-1E2EF>4 1E4EC-1E4EF>4 1E5EE-1E5EF>4 1E6E3>4 1E6E6>4 1E6EE-1E6EF>4
1E6F5>4 1E8D0-1E8D6>4 1E900-1E943>3 1E944-1E94B>4 E0001>4 E0020-E007F>4 E0100-E01EF>4"

end DomainDeploy.Url.Domain
