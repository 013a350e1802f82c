/-
This file holds the Unicode property Bidi_Class, as far as domain names depend on it.
-/

import SchemaInference.Unicode.Table

namespace SchemaInference.Unicode

/-- Right means one of the classes R and AL. Neutral means one of BN, CS, ES, ET and ON. -/
inductive Direction where
  | left
  | right
  | arabicNumber
  | europeanNumber
  | neutral
  | nonspacing
deriving DecidableEq

def Direction.ofLetter : List Char → Direction
  | ['R'] => right
  | ['A'] => arabicNumber
  | ['E'] => europeanNumber
  | ['O'] => neutral
  | ['M'] => nonspacing
  | _ => left

def directionTable : Table Direction := .read Direction.ofLetter
  "0-8:O E-1B:O 21-2F:O 30-39:E 3A-40:O 5B-60:O 7B-84:O 86-A9:O AB-B1:O B2-B3:E B4:O B6-B8:O
   B9:E BB-BF:O D7:O F7:O 2B9-2BA:O 2C2-2CF:O 2D2-2DF:O 2E5-2ED:O 2EF-2FF:O 300-36F:M 374-375:O
   37E:O 384-385:O 387:O 3F6:O 483-489:M 58A:O 58D-58F:O 590:R 591-5BD:M 5BE:R 5BF:M 5C0:R
   5C1-5C2:M 5C3:R 5C4-5C5:M 5C6:R 5C7-5C8:M 5C9-5FF:R 600-605:A 606-607:O 608:R 609-60A:O 60B:R
   60C:O 60D:R 60E-60F:O 610-61A:M 61B-64A:R 64B-65F:M 660-669:A 66A:O 66B-66C:A 66D-66F:R 670:M
   671-6D5:R 6D6-6DC:M 6DD:A 6DE:O 6DF-6E4:M 6E5-6E6:R 6E7-6E8:M 6E9:O 6EA-6ED:M 6EE-6EF:R
   6F0-6F9:E 6FA-710:R 711:M 712-72F:R 730-74A:M 74B-7A5:R 7A6-7B0:M 7B1-7EA:R 7EB-7F3:M
   7F4-7F5:R 7F6-7F9:O 7FA-7FC:R 7FD:M 7FE-815:R 816-819:M 81A:R 81B-823:M 824:R 825-827:M 828:R
   829-82D:M 82E-858:R 859-85B:M 85C-88F:R 890-891:A 892-896:R 897-89F:M 8A0-8C9:R 8CA-8E1:M
   8E2:A 8E3-902:M 93A:M 93C:M 941-948:M 94D:M 951-957:M 962-963:M 981:M 9BC:M 9C1-9C4:M 9CD:M
   9E2-9E3:M 9F2-9F3:O 9FB:O 9FE:M A01-A02:M A3C:M A41-A42:M A47-A48:M A4B-A4D:M A51:M A70-A71:M
   A75:M A81-A82:M ABC:M AC1-AC5:M AC7-AC8:M ACD:M AE2-AE3:M AF1:O AFA-AFF:M B01:M B3C:M B3F:M
   B41-B44:M B4D:M B53-B56:M B62-B63:M B82:M BC0:M BCD:M BF3-BFA:O C00:M C04:M C3C:M C3E-C40:M
   C46-C48:M C4A-C4D:M C55-C56:M C62-C63:M C78-C7E:O C81:M CBC:M CCC-CCD:M CE2-CE3:M D00-D01:M
   D3B-D3C:M D41-D44:M D4D:M D62-D63:M D81:M DCA:M DD2-DD4:M DD6:M E31:M E34-E3A:M E3F:O
   E47-E4E:M EB1:M EB4-EBC:M EC8-ECE:M F18-F19:M F35:M F37:M F39:M F3A-F3D:O F71-F7E:M F80-F84:M
   F86-F87:M F8D-F97:M F99-FBC:M FC6:M 102D-1030:M 1032-1037:M 1039-103A:M 103D-103E:M
   1058-1059:M 105E-1060:M 1071-1074:M 1082:M 1085-1086:M 108D:M 109D:M 135D-135F:M 1390-1399:O
   1400:O 169B-169C:O 1712-1714:M 1732-1733:M 1752-1753:M 1772-1773:M 17B4-17B5:M 17B7-17BD:M
   17C6:M 17C9-17D3:M 17DB:O 17DD:M 17F0-17F9:O 1800-180A:O 180B-180D:M 180E:O 180F:M
   1885-1886:M 18A9:M 1920-1922:M 1927-1928:M 1932:M 1939-193B:M 1940:O 1944-1945:O 19DE-19FF:O
   1A17-1A18:M 1A1B:M 1A56:M 1A58-1A5E:M 1A60:M 1A62:M 1A65-1A6C:M 1A73-1A7C:M 1A7F:M
   1AB0-1AEB:M 1B00-1B03:M 1B34:M 1B36-1B39:M 1B6B-1B73:M 1B80-1B81:M 1BA2-1BA5:M 1BA8-1BA9:M
   1BAB-1BAD:M 1BE6:M 1BE8-1BE9:M 1BED:M 1BEF-1BF1:M 1C2C-1C33:M 1C36-1C37:M 1CD0-1CD2:M
   1CD4-1CE0:M 1CE2-1CE8:M 1CED:M 1CF4:M 1CF8-1CF9:M 1DC0-1DFF:M 1FBD:O 1FBF-1FC1:O 1FCD-1FCF:O
   1FDD-1FDF:O 1FED-1FEF:O 1FFD-1FFE:O 200B-200D:O 200F:R 2010-2027:O 202F-205E:O 2060-2065:O
   206A-206F:O 2070:E 2074-2079:E 207A-207E:O 2080-2089:E 208A-208E:O 20A0-20CF:O 20D0-20F0:M
   2100-2101:O 2103-2106:O 2108-2109:O 2114:O 2116-2118:O 211E-2123:O 2125:O 2127:O 2129:O
   212E:O 213A-213B:O 2140-2144:O 214A-214D:O 2150-215F:O 2189-218B:O 2190-2335:O 237B-2394:O
   2396-2429:O 2440-244A:O 2460-2487:O 2488-249B:E 24EA-26AB:O 26AD-27FF:O 2900-2B73:O
   2B76-2BFF:O 2CE5-2CEA:O 2CEF-2CF1:M 2CF9-2CFF:O 2D7F:M 2DE0-2DFF:M 2E00-2E5D:O 2E80-2E99:O
   2E9B-2EF3:O 2F00-2FD5:O 2FF0-2FFF:O 3001-3004:O 3008-3020:O 302A-302D:M 3030:O 3036-3037:O
   303D-303F:O 3099-309A:M 309B-309C:O 30A0:O 30FB:O 31C0-31E5:O 31EF:O 321D-321E:O 3250-325F:O
   327C-327E:O 32B1-32BF:O 32CC-32CF:O 3377-337A:O 33DE-33DF:O 33FF:O 4DC0-4DFF:O A490-A4C6:O
   A60D-A60F:O A66F-A672:M A673:O A674-A67D:M A67E-A67F:O A69E-A69F:M A6F0-A6F1:M A700-A721:O
   A788:O A802:M A806:M A80B:M A825-A826:M A828-A82B:O A82C:M A838-A839:O A874-A877:O
   A8C4-A8C5:M A8E0-A8F1:M A8FF:M A926-A92D:M A947-A951:M A980-A982:M A9B3:M A9B6-A9B9:M
   A9BC-A9BD:M A9E5:M AA29-AA2E:M AA31-AA32:M AA35-AA36:M AA43:M AA4C:M AA7C:M AAB0:M
   AAB2-AAB4:M AAB7-AAB8:M AABE-AABF:M AAC1:M AAEC-AAED:M AAF6:M AB6A-AB6B:O ABE5:M ABE8:M
   ABED:M FB1D:R FB1E:M FB1F-FB28:R FB29:O FB2A-FBC2:R FBC3-FBD2:O FBD3-FD3D:R FD3E-FD4F:O
   FD50-FD8F:R FD90-FD91:O FD92-FDC7:R FDC8-FDEF:O FDF0-FDFC:R FDFD-FDFF:O FE00-FE0F:M
   FE10-FE19:O FE20-FE2F:M FE30-FE52:O FE54-FE66:O FE68-FE6B:O FE70-FEFE:R FEFF:O FF01-FF0F:O
   FF10-FF19:E FF1A-FF20:O FF3B-FF40:O FF5B-FF65:O FFE0-FFE6:O FFE8-FFEE:O FFF0-FFFF:O 10101:O
   10140-1018C:O 10190-1019C:O 101A0:O 101FD:M 102E0:M 102E1-102FB:E 10376-1037A:M 10800-1091E:R
   1091F:O 10920-10A00:R 10A01-10A03:M 10A04:R 10A05-10A06:M 10A07-10A0B:R 10A0C-10A0F:M
   10A10-10A37:R 10A38-10A3A:M 10A3B-10A3E:R 10A3F:M 10A40-10AE4:R 10AE5-10AE6:M 10AE7-10B38:R
   10B39-10B3F:O 10B40-10D23:R 10D24-10D27:M 10D28-10D2F:R 10D30-10D39:A 10D3A-10D3F:R
   10D40-10D49:A 10D4A-10D68:R 10D69-10D6D:M 10D6E:O 10D6F-10E5F:R 10E60-10E7E:A 10E7F-10EAA:R
   10EAB-10EAC:M 10EAD-10ECF:R 10ED0-10ED8:O 10ED9-10EF9:R 10EFA-10EFF:M 10F00-10F45:R
   10F46-10F50:M 10F51-10F81:R 10F82-10F85:M 10F86-10FFF:R 11001:M 11038-11046:M 11052-11065:O
   11070:M 11073-11074:M 1107F-11081:M 110B3-110B6:M 110B9-110BA:M 110C2:M 11100-11102:M
   11127-1112B:M 1112D-11134:M 11173:M 11180-11181:M 111B6-111BE:M 111C9-111CC:M 111CF:M
   1122F-11231:M 11234:M 11236-11237:M 1123E:M 11241:M 112DF:M 112E3-112EA:M 11300-11301:M
   1133B-1133C:M 11340:M 11366-1136C:M 11370-11374:M 113BB-113C0:M 113CE:M 113D0:M 113D2:M
   113E1-113E2:M 11438-1143F:M 11442-11444:M 11446:M 1145E:M 114B3-114B8:M 114BA:M 114BF-114C0:M
   114C2-114C3:M 115B2-115B5:M 115BC-115BD:M 115BF-115C0:M 115DC-115DD:M 11633-1163A:M 1163D:M
   1163F-11640:M 11660-1166C:O 116AB:M 116AD:M 116B0-116B5:M 116B7:M 1171D:M 1171F:M
   11722-11725:M 11727-1172B:M 1182F-11837:M 11839-1183A:M 1193B-1193C:M 1193E:M 11943:M
   119D4-119D7:M 119DA-119DB:M 119E0:M 11A01-11A06:M 11A09-11A0A:M 11A33-11A38:M 11A3B-11A3E:M
   11A47:M 11A51-11A56:M 11A59-11A5B:M 11A8A-11A96:M 11A98-11A99:M 11B60:M 11B62-11B64:M 11B66:M
   11C30-11C36:M 11C38-11C3D:M 11C92-11CA7:M 11CAA-11CB0:M 11CB2-11CB3:M 11CB5-11CB6:M
   11D31-11D36:M 11D3A:M 11D3C-11D3D:M 11D3F-11D45:M 11D47:M 11D90-11D91:M 11D95:M 11D97:M
   11EF3-11EF4:M 11F00-11F01:M 11F36-11F3A:M 11F40:M 11F42:M 11F5A:M 11FD5-11FF1:O 13440:M
   13447-13455:M 1611E-16129:M 1612D-1612F:M 16AF0-16AF4:M 16B30-16B36:M 16F4F:M 16F8F-16F92:M
   16FE2:O 16FE4:M 1BC9D-1BC9E:M 1BCA0-1BCA3:O 1CC00-1CCD5:O 1CCF0-1CCF9:E 1CCFA-1CCFC:O
   1CD00-1CEB3:O 1CEBA-1CED0:O 1CEE0-1CEF0:O 1CF00-1CF2D:M 1CF30-1CF46:M 1D167-1D169:M
   1D173-1D17A:O 1D17B-1D182:M 1D185-1D18B:M 1D1AA-1D1AD:M 1D1E9-1D1EA:O 1D200-1D241:O
   1D242-1D244:M 1D245:O 1D300-1D356:O 1D6C1:O 1D6DB:O 1D6FB:O 1D715:O 1D735:O 1D74F:O 1D76F:O
   1D789:O 1D7A9:O 1D7C3:O 1D7CE-1D7FF:E 1DA00-1DA36:M 1DA3B-1DA6C:M 1DA75:M 1DA84:M
   1DA9B-1DA9F:M 1DAA1-1DAAF:M 1DB00-1DBFF:O 1E000-1E006:M 1E008-1E018:M 1E01B-1E021:M
   1E023-1E024:M 1E026-1E02A:M 1E08F:M 1E130-1E136:M 1E2AE:M 1E2EC-1E2EF:M 1E2FF:O 1E4EC-1E4EF:M
   1E5EE-1E5EF:M 1E6E3:M 1E6E6:M 1E6EE-1E6EF:M 1E6F5:M 1E800-1E8CF:R 1E8D0-1E8D6:M 1E8D7-1E943:R
   1E944-1E94A:M 1E94B-1EEEF:R 1EEF0-1EEF1:O 1EEF2-1EFFF:R 1F000-1F02B:O 1F030-1F093:O
   1F0A0-1F0AE:O 1F0B1-1F0BF:O 1F0C1-1F0CF:O 1F0D1-1F0F5:O 1F100-1F10A:E 1F10B-1F10F:O 1F12F:O
   1F16A-1F16F:O 1F1AD:O 1F260-1F265:O 1F300-1F6D9:O 1F6DC-1F6EC:O 1F6F0-1F6FC:O 1F700-1F7D9:O
   1F7E0-1F7EB:O 1F7F0:O 1F800-1F80B:O 1F810-1F847:O 1F850-1F859:O 1F860-1F887:O 1F890-1F8AD:O
   1F8B0-1F8BB:O 1F8C0-1F8C1:O 1F8D0-1F8D8:O 1F900-1FA57:O 1FA60-1FA6D:O 1FA70-1FA7C:O
   1FA80-1FAC6:O 1FAC8:O 1FACC-1FADD:O 1FADF-1FAEB:O 1FAEF-1FAFA:O 1FB00-1FB92:O 1FB94-1FBEF:O
   1FBF0-1FBF9:E 1FBFA:O 1FFFE-1FFFF:O 2FFFE-2FFFF:O 3FFFE-3FFFF:O 4FFFE-4FFFF:O 5FFFE-5FFFF:O
   6FFFE-6FFFF:O 7FFFE-7FFFF:O 8FFFE-8FFFF:O 9FFFE-9FFFF:O AFFFE-AFFFF:O BFFFE-BFFFF:O
   CFFFE-CFFFF:O DFFFE-E00FF:O E0100-E01EF:M E01F0-E0FFF:O EFFFE-EFFFF:O FFFFE-FFFFF:O
   10FFFE-10FFFF:O"

/-- Characters outside the table run from left to right. -/
def direction (character : Char) : Direction :=
  (directionTable.get? character).getD .left

end SchemaInference.Unicode
