/-
This file holds the Unicode property Uppercase_Mapping, without the mappings for single languages.
-/

import SchemaInference.Unicode.Replacement

namespace SchemaInference.Unicode

def shiftedCapitals : Table Nat := .read readCode
  "61-7A:41 E0-F6:C0 F8-FE:D8 37B-37D:3FD 3AD-3AF:388 3B1-3C1:391 3C3-3CB:3A3 430-44F:410
   450-45F:400 561-586:531 10D0-10FA:1C90 10FD-10FF:1CBD 13F8-13FD:13F0 1F00-1F07:1F08
   1F10-1F15:1F18 1F20-1F27:1F28 1F30-1F37:1F38 1F40-1F45:1F48 1F60-1F67:1F68 1F72-1F75:1FC8
   2170-217F:2160 24D0-24E9:24B6 2C30-2C5F:2C00 2D00-2D25:10A0 AB70-ABBF:13A0 FF41-FF5A:FF21
   10428-1044F:10400 104D8-104FB:104B0 10597-105A1:10570 105A3-105B1:1057C 105B3-105B9:1058C
   10CC0-10CF2:10C80 10D70-10D85:10D50 118C0-118DF:118A0 16E60-16E7F:16E40 16EBB-16ED3:16EA0
   1E922-1E943:1E900"

def alternatingCapitals : Table Nat := .read readCode
  "101-12F:100 133-137:132 13A-148:139 14B-177:14A 17A-17E:179 183-185:182 1A1-1A5:1A0
   1B4-1B6:1B3 1CE-1DC:1CD 1DF-1EF:1DE 1F9-21F:1F8 223-233:222 247-24F:246 371-373:370
   3D9-3EF:3D8 461-481:460 48B-4BF:48A 4C2-4CE:4C1 4D1-52F:4D0 1E01-1E95:1E00 1EA1-1EFF:1EA0
   1F51-1F57:1F59 2C68-2C6C:2C67 2C81-2CE3:2C80 2CEC-2CEE:2CEB A641-A66D:A640 A681-A69B:A680
   A723-A72F:A722 A733-A76F:A732 A77A-A77C:A779 A77F-A787:A77E A791-A793:A790 A797-A7A9:A796
   A7B5-A7C3:A7B4 A7C8-A7CA:A7C7 A7CD-A7DB:A7CC"

def listedCapitals : Table (List (List Char)) := .readLists
  "B5:39C DF:53.53 FF:178 131:49 149:2BC.4E 17F:53,243 188:187 18C:18B 192:191 195:1F6
   199:198,23D,A7DC 19E:220 1A8:1A7 1AD:1AC 1B0:1AF 1B9:1B8 1BD:1BC 1BF:1F7 1C5:1C4,1C4
   1C8:1C7,1C7 1CB:1CA,1CA 1DD:18E 1F0:4A.30C 1F2:1F1,1F1 1F5:1F4 23C:23B 23F:2C7E,2C7F 242:241
   250:2C6F,2C6D,2C70,181,186 256:189,18A 259:18F 25B:190,A7AB 260:193,A7AC
   263:194,A7CB,A78D,A7AA 268:197,196,A7AE,2C62,A7AD 26F:19C 271:2C6E,19D 275:19F 27D:2C64
   280:1A6 282:A7C5,1A9 287:A7B1,1AE,244,1B1,1B2,245 292:1B7 29D:A7B2,A7B0 345:399 377:376
   390:399.308.301 3AC:386 3B0:3A5.308.301 3C2:3A3 3CC:38C,38E,38F 3D0:392,398 3D5:3A6,3A0,3CF
   3F0:39A,3A1,3F9,37F 3F5:395 3F8:3F7 3FB:3FA 4CF:4C0 587:535.552
   1C80:412,414,41E,421,422,422,42A,462,A64A 1C8A:1C89 1D79:A77D 1D7D:2C63 1D8E:A7C6
   1E96:48.331,54.308,57.30A,59.30A,41.2BE,1E60 1F50:3A5.313 1F52:3A5.313.300 1F54:3A5.313.301
   1F56:3A5.313.342 1F70:1FBA,1FBB 1F76:1FDA,1FDB,1FF8,1FF9,1FEA,1FEB,1FFA,1FFB
   1F80:1F08.399,1F09.399,1F0A.399,1F0B.399,1F0C.399,1F0D.399,1F0E.399,1F0F.399
   1F88:1F08.399,1F09.399,1F0A.399,1F0B.399,1F0C.399,1F0D.399,1F0E.399,1F0F.399
   1F90:1F28.399,1F29.399,1F2A.399,1F2B.399,1F2C.399,1F2D.399,1F2E.399,1F2F.399
   1F98:1F28.399,1F29.399,1F2A.399,1F2B.399,1F2C.399,1F2D.399,1F2E.399,1F2F.399
   1FA0:1F68.399,1F69.399,1F6A.399,1F6B.399,1F6C.399,1F6D.399,1F6E.399,1F6F.399
   1FA8:1F68.399,1F69.399,1F6A.399,1F6B.399,1F6C.399,1F6D.399,1F6E.399,1F6F.399
   1FB0:1FB8,1FB9,1FBA.399,391.399,386.399 1FB6:391.342,391.342.399 1FBC:391.399 1FBE:399
   1FC2:1FCA.399,397.399,389.399 1FC6:397.342,397.342.399 1FCC:397.399
   1FD0:1FD8,1FD9,399.308.300,399.308.301 1FD6:399.342,399.308.342
   1FE0:1FE8,1FE9,3A5.308.300,3A5.308.301,3A1.313,1FEC,3A5.342,3A5.308.342
   1FF2:1FFA.399,3A9.399,38F.399 1FF6:3A9.342,3A9.342.399 1FFC:3A9.399 214E:2132 2184:2183
   2C61:2C60 2C65:23A,23E 2C73:2C72 2C76:2C75 2CF3:2CF2 2D27:10C7 2D2D:10CD A78C:A78B A794:A7C4
   A7F6:A7F5 AB53:A7B3 FB00:46.46,46.49,46.4C,46.46.49,46.46.4C,53.54,53.54
   FB13:544.546,544.535,544.53B,54E.546,544.53D 105BB:10594,10595"

def capitals : Replacement :=
  ⟨shiftedCapitals, alternatingCapitals, listedCapitals⟩

/-- The capital of one letter may be several letters. -/
def uppercase (text : String) : String :=
  String.ofList (capitals.apply text.toList)

end SchemaInference.Unicode
