import AgentGraph.Text.Table

/-! Names in scripts that are written from right to left. A name that holds such a letter must be
readable in one way only: each of its labels keeps to one direction, begins with a letter of that
direction and ends with a letter or a digit that goes with it. -/
namespace AgentGraph.Host

set_option autoImplicit false
set_option maxRecDepth 10000

inductive Direction where
  | left
  | right
  | arabicLetter
  | arabicNumber
  | europeanNumber
  | europeanSeparator
  | europeanTerminator
  | commonSeparator
  | mark
  | boundary
  | neutral
  /-- Separators of paragraphs and the like, which fit nowhere. -/
  | outside
deriving DecidableEq, Repr

/-- The directions that the table tells apart; the others are `outside`. -/
def Direction.ofCode : Nat → Direction
  | 0 => .right
  | 1 => .arabicLetter
  | 2 => .arabicNumber
  | 3 => .europeanNumber
  | 4 => .europeanSeparator
  | 5 => .europeanTerminator
  | 6 => .commonSeparator
  | 7 => .mark
  | 8 => .boundary
  | 9 => .neutral
  | _ => .outside

/-- Runs of characters with the code of their direction. All others go from left to right. -/
def directionRuns : List Text.Entry := Text.tableOf
  ["0-8-8 9-D-A E-1B-8 1C-20-A 21-22-9 23-25-5 26-2A-9 2B-2B-4 2C-2C-6 2D-2D-4 2E-2F-6 30-39-3",
   "3A-3A-6 3B-40-9 5B-60-9 7B-7E-9 7F-84-8 85-85-A 86-9F-8 A0-A0-6 A1-A1-9 A2-A5-5 A6-A9-9",
   "AB-AC-9 AD-AD-8 AE-AF-9 B0-B1-5 B2-B3-3 B4-B4-9 B6-B8-9 B9-B9-3 BB-BF-9 D7-D7-9 F7-F7-9",
   "2B9-2BA-9 2C2-2CF-9 2D2-2DF-9 2E5-2ED-9 2EF-2FF-9 300-36F-7 374-375-9 37E-37E-9 384-385-9",
   "387-387-9 3F6-3F6-9 483-489-7 58A-58A-9 58D-58E-9 58F-58F-5 591-5BD-7 5BE-5BE-0 5BF-5BF-7",
   "5C0-5C0-0 5C1-5C2-7 5C3-5C3-0 5C4-5C5-7 5C6-5C6-0 5C7-5C7-7 5D0-5EA-0 5EF-5F4-0 600-605-2",
   "606-607-9 608-608-1 609-60A-5 60B-60B-1 60C-60C-6 60D-60D-1 60E-60F-9 610-61A-7 61B-64A-1",
   "64B-65F-7 660-669-2 66A-66A-5 66B-66C-2 66D-66F-1 670-670-7 671-6D5-1 6D6-6DC-7 6DD-6DD-2",
   "6DE-6DE-9 6DF-6E4-7 6E5-6E6-1 6E7-6E8-7 6E9-6E9-9 6EA-6ED-7 6EE-6EF-1 6F0-6F9-3 6FA-70D-1",
   "70F-710-1 711-711-7 712-72F-1 730-74A-7 74D-7A5-1 7A6-7B0-7 7B1-7B1-1 7C0-7EA-0 7EB-7F3-7",
   "7F4-7F5-0 7F6-7F9-9 7FA-7FA-0 7FD-7FD-7 7FE-815-0 816-819-7 81A-81A-0 81B-823-7 824-824-0",
   "825-827-7 828-828-0 829-82D-7 830-83E-0 840-858-0 859-85B-7 85E-85E-0 860-86A-1 870-88E-1",
   "890-891-2 898-89F-7 8A0-8C9-1 8CA-8E1-7 8E2-8E2-2 8E3-902-7 93A-93A-7 93C-93C-7 941-948-7",
   "94D-94D-7 951-957-7 962-963-7 981-981-7 9BC-9BC-7 9C1-9C4-7 9CD-9CD-7 9E2-9E3-7 9F2-9F3-5",
   "9FB-9FB-5 9FE-9FE-7 A01-A02-7 A3C-A3C-7 A41-A42-7 A47-A48-7 A4B-A4D-7 A51-A51-7 A70-A71-7",
   "A75-A75-7 A81-A82-7 ABC-ABC-7 AC1-AC5-7 AC7-AC8-7 ACD-ACD-7 AE2-AE3-7 AF1-AF1-5 AFA-AFF-7",
   "B01-B01-7 B3C-B3C-7 B3F-B3F-7 B41-B44-7 B4D-B4D-7 B55-B56-7 B62-B63-7 B82-B82-7 BC0-BC0-7",
   "BCD-BCD-7 BF3-BF8-9 BF9-BF9-5 BFA-BFA-9 C00-C00-7 C04-C04-7 C3C-C3C-7 C3E-C40-7 C46-C48-7",
   "C4A-C4D-7 C55-C56-7 C62-C63-7 C78-C7E-9 C81-C81-7 CBC-CBC-7 CCC-CCD-7 CE2-CE3-7 D00-D01-7",
   "D3B-D3C-7 D41-D44-7 D4D-D4D-7 D62-D63-7 D81-D81-7 DCA-DCA-7 DD2-DD4-7 DD6-DD6-7 E31-E31-7",
   "E34-E3A-7 E3F-E3F-5 E47-E4E-7 EB1-EB1-7 EB4-EBC-7 EC8-ECE-7 F18-F19-7 F35-F35-7 F37-F37-7",
   "F39-F39-7 F3A-F3D-9 F71-F7E-7 F80-F84-7 F86-F87-7 F8D-F97-7 F99-FBC-7 FC6-FC6-7 102D-1030-7",
   "1032-1037-7 1039-103A-7 103D-103E-7 1058-1059-7 105E-1060-7 1071-1074-7 1082-1082-7",
   "1085-1086-7 108D-108D-7 109D-109D-7 135D-135F-7 1390-1399-9 1400-1400-9 1680-1680-A",
   "169B-169C-9 1712-1714-7 1732-1733-7 1752-1753-7 1772-1773-7 17B4-17B5-7 17B7-17BD-7",
   "17C6-17C6-7 17C9-17D3-7 17DB-17DB-5 17DD-17DD-7 17F0-17F9-9 1800-180A-9 180B-180D-7",
   "180E-180E-8 180F-180F-7 1885-1886-7 18A9-18A9-7 1920-1922-7 1927-1928-7 1932-1932-7",
   "1939-193B-7 1940-1940-9 1944-1945-9 19DE-19FF-9 1A17-1A18-7 1A1B-1A1B-7 1A56-1A56-7",
   "1A58-1A5E-7 1A60-1A60-7 1A62-1A62-7 1A65-1A6C-7 1A73-1A7C-7 1A7F-1A7F-7 1AB0-1ACE-7",
   "1B00-1B03-7 1B34-1B34-7 1B36-1B3A-7 1B3C-1B3C-7 1B42-1B42-7 1B6B-1B73-7 1B80-1B81-7",
   "1BA2-1BA5-7 1BA8-1BA9-7 1BAB-1BAD-7 1BE6-1BE6-7 1BE8-1BE9-7 1BED-1BED-7 1BEF-1BF1-7",
   "1C2C-1C33-7 1C36-1C37-7 1CD0-1CD2-7 1CD4-1CE0-7 1CE2-1CE8-7 1CED-1CED-7 1CF4-1CF4-7",
   "1CF8-1CF9-7 1DC0-1DFF-7 1FBD-1FBD-9 1FBF-1FC1-9 1FCD-1FCF-9 1FDD-1FDF-9 1FED-1FEF-9",
   "1FFD-1FFE-9 2000-200A-A 200B-200D-8 200F-200F-0 2010-2027-9 2028-202E-A 202F-202F-6",
   "2030-2034-5 2035-2043-9 2044-2044-6 2045-205E-9 205F-205F-A 2060-2064-8 2066-2069-A",
   "206A-206F-8 2070-2070-3 2074-2079-3 207A-207B-4 207C-207E-9 2080-2089-3 208A-208B-4",
   "208C-208E-9 20A0-20C0-5 20D0-20F0-7 2100-2101-9 2103-2106-9 2108-2109-9 2114-2114-9",
   "2116-2118-9 211E-2123-9 2125-2125-9 2127-2127-9 2129-2129-9 212E-212E-5 213A-213B-9",
   "2140-2144-9 214A-214D-9 2150-215F-9 2189-218B-9 2190-2211-9 2212-2212-4 2213-2213-5",
   "2214-2335-9 237B-2394-9 2396-2426-9 2440-244A-9 2460-2487-9 2488-249B-3 24EA-26AB-9",
   "26AD-27FF-9 2900-2B73-9 2B76-2B95-9 2B97-2BFF-9 2CE5-2CEA-9 2CEF-2CF1-7 2CF9-2CFF-9",
   "2D7F-2D7F-7 2DE0-2DFF-7 2E00-2E5D-9 2E80-2E99-9 2E9B-2EF3-9 2F00-2FD5-9 2FF0-2FFB-9",
   "3000-3000-A 3001-3004-9 3008-3020-9 302A-302D-7 3030-3030-9 3036-3037-9 303D-303F-9",
   "3099-309A-7 309B-309C-9 30A0-30A0-9 30FB-30FB-9 31C0-31E3-9 321D-321E-9 3250-325F-9",
   "327C-327E-9 32B1-32BF-9 32CC-32CF-9 3377-337A-9 33DE-33DF-9 33FF-33FF-9 4DC0-4DFF-9",
   "A490-A4C6-9 A60D-A60F-9 A66F-A672-7 A673-A673-9 A674-A67D-7 A67E-A67F-9 A69E-A69F-7",
   "A6F0-A6F1-7 A700-A721-9 A788-A788-9 A802-A802-7 A806-A806-7 A80B-A80B-7 A825-A826-7",
   "A828-A82B-9 A82C-A82C-7 A838-A839-5 A874-A877-9 A8C4-A8C5-7 A8E0-A8F1-7 A8FF-A8FF-7",
   "A926-A92D-7 A947-A951-7 A980-A982-7 A9B3-A9B3-7 A9B6-A9B9-7 A9BC-A9BD-7 A9E5-A9E5-7",
   "AA29-AA2E-7 AA31-AA32-7 AA35-AA36-7 AA43-AA43-7 AA4C-AA4C-7 AA7C-AA7C-7 AAB0-AAB0-7",
   "AAB2-AAB4-7 AAB7-AAB8-7 AABE-AABF-7 AAC1-AAC1-7 AAEC-AAED-7 AAF6-AAF6-7 AB6A-AB6B-9",
   "ABE5-ABE5-7 ABE8-ABE8-7 ABED-ABED-7 FB1D-FB1D-0 FB1E-FB1E-7 FB1F-FB28-0 FB29-FB29-4",
   "FB2A-FB36-0 FB38-FB3C-0 FB3E-FB3E-0 FB40-FB41-0 FB43-FB44-0 FB46-FB4F-0 FB50-FBC2-1",
   "FBD3-FD3D-1 FD3E-FD4F-9 FD50-FD8F-1 FD92-FDC7-1 FDCF-FDCF-9 FDF0-FDFC-1 FDFD-FDFF-9",
   "FE00-FE0F-7 FE10-FE19-9 FE20-FE2F-7 FE30-FE4F-9 FE50-FE50-6 FE51-FE51-9 FE52-FE52-6",
   "FE54-FE54-9 FE55-FE55-6 FE56-FE5E-9 FE5F-FE5F-5 FE60-FE61-9 FE62-FE63-4 FE64-FE66-9",
   "FE68-FE68-9 FE69-FE6A-5 FE6B-FE6B-9 FE70-FE74-1 FE76-FEFC-1 FEFF-FEFF-8 FF01-FF02-9",
   "FF03-FF05-5 FF06-FF0A-9 FF0B-FF0B-4 FF0C-FF0C-6 FF0D-FF0D-4 FF0E-FF0F-6 FF10-FF19-3",
   "FF1A-FF1A-6 FF1B-FF20-9 FF3B-FF40-9 FF5B-FF65-9 FFE0-FFE1-5 FFE2-FFE4-9 FFE5-FFE6-5",
   "FFE8-FFEE-9 FFF9-FFFD-9 10101-10101-9 10140-1018C-9 10190-1019C-9 101A0-101A0-9",
   "101FD-101FD-7 102E0-102E0-7 102E1-102FB-3 10376-1037A-7 10800-10805-0 10808-10808-0",
   "1080A-10835-0 10837-10838-0 1083C-1083C-0 1083F-10855-0 10857-1089E-0 108A7-108AF-0",
   "108E0-108F2-0 108F4-108F5-0 108FB-1091B-0 1091F-1091F-9 10920-10939-0 1093F-1093F-0",
   "10980-109B7-0 109BC-109CF-0 109D2-10A00-0 10A01-10A03-7 10A05-10A06-7 10A0C-10A0F-7",
   "10A10-10A13-0 10A15-10A17-0 10A19-10A35-0 10A38-10A3A-7 10A3F-10A3F-7 10A40-10A48-0",
   "10A50-10A58-0 10A60-10A9F-0 10AC0-10AE4-0 10AE5-10AE6-7 10AEB-10AF6-0 10B00-10B35-0",
   "10B39-10B3F-9 10B40-10B55-0 10B58-10B72-0 10B78-10B91-0 10B99-10B9C-0 10BA9-10BAF-0",
   "10C00-10C48-0 10C80-10CB2-0 10CC0-10CF2-0 10CFA-10CFF-0 10D00-10D23-1 10D24-10D27-7",
   "10D30-10D39-2 10E60-10E7E-2 10E80-10EA9-0 10EAB-10EAC-7 10EAD-10EAD-0 10EB0-10EB1-0",
   "10EFD-10EFF-7 10F00-10F27-0 10F30-10F45-1 10F46-10F50-7 10F51-10F59-1 10F70-10F81-0",
   "10F82-10F85-7 10F86-10F89-0 10FB0-10FCB-0 10FE0-10FF6-0 11001-11001-7 11038-11046-7",
   "11052-11065-9 11070-11070-7 11073-11074-7 1107F-11081-7 110B3-110B6-7 110B9-110BA-7",
   "110C2-110C2-7 11100-11102-7 11127-1112B-7 1112D-11134-7 11173-11173-7 11180-11181-7",
   "111B6-111BE-7 111C9-111CC-7 111CF-111CF-7 1122F-11231-7 11234-11234-7 11236-11237-7",
   "1123E-1123E-7 11241-11241-7 112DF-112DF-7 112E3-112EA-7 11300-11301-7 1133B-1133C-7",
   "11340-11340-7 11366-1136C-7 11370-11374-7 11438-1143F-7 11442-11444-7 11446-11446-7",
   "1145E-1145E-7 114B3-114B8-7 114BA-114BA-7 114BF-114C0-7 114C2-114C3-7 115B2-115B5-7",
   "115BC-115BD-7 115BF-115C0-7 115DC-115DD-7 11633-1163A-7 1163D-1163D-7 1163F-11640-7",
   "11660-1166C-9 116AB-116AB-7 116AD-116AD-7 116B0-116B5-7 116B7-116B7-7 1171D-1171F-7",
   "11722-11725-7 11727-1172B-7 1182F-11837-7 11839-1183A-7 1193B-1193C-7 1193E-1193E-7",
   "11943-11943-7 119D4-119D7-7 119DA-119DB-7 119E0-119E0-7 11A01-11A06-7 11A09-11A0A-7",
   "11A33-11A38-7 11A3B-11A3E-7 11A47-11A47-7 11A51-11A56-7 11A59-11A5B-7 11A8A-11A96-7",
   "11A98-11A99-7 11C30-11C36-7 11C38-11C3D-7 11C92-11CA7-7 11CAA-11CB0-7 11CB2-11CB3-7",
   "11CB5-11CB6-7 11D31-11D36-7 11D3A-11D3A-7 11D3C-11D3D-7 11D3F-11D45-7 11D47-11D47-7",
   "11D90-11D91-7 11D95-11D95-7 11D97-11D97-7 11EF3-11EF4-7 11F00-11F01-7 11F36-11F3A-7",
   "11F40-11F40-7 11F42-11F42-7 11FD5-11FDC-9 11FDD-11FE0-5 11FE1-11FF1-9 13440-13440-7",
   "13447-13455-7 16AF0-16AF4-7 16B30-16B36-7 16F4F-16F4F-7 16F8F-16F92-7 16FE2-16FE2-9",
   "16FE4-16FE4-7 1BC9D-1BC9E-7 1BCA0-1BCA3-8 1CF00-1CF2D-7 1CF30-1CF46-7 1D167-1D169-7",
   "1D173-1D17A-8 1D17B-1D182-7 1D185-1D18B-7 1D1AA-1D1AD-7 1D1E9-1D1EA-9 1D200-1D241-9",
   "1D242-1D244-7 1D245-1D245-9 1D300-1D356-9 1D6DB-1D6DB-9 1D715-1D715-9 1D74F-1D74F-9",
   "1D789-1D789-9 1D7C3-1D7C3-9 1D7CE-1D7FF-3 1DA00-1DA36-7 1DA3B-1DA6C-7 1DA75-1DA75-7",
   "1DA84-1DA84-7 1DA9B-1DA9F-7 1DAA1-1DAAF-7 1E000-1E006-7 1E008-1E018-7 1E01B-1E021-7",
   "1E023-1E024-7 1E026-1E02A-7 1E08F-1E08F-7 1E130-1E136-7 1E2AE-1E2AE-7 1E2EC-1E2EF-7",
   "1E2FF-1E2FF-5 1E4EC-1E4EF-7 1E800-1E8C4-0 1E8C7-1E8CF-0 1E8D0-1E8D6-7 1E900-1E943-0",
   "1E944-1E94A-7 1E94B-1E94B-0 1E950-1E959-0 1E95E-1E95F-0 1EC71-1ECB4-1 1ED01-1ED3D-1",
   "1EE00-1EE03-1 1EE05-1EE1F-1 1EE21-1EE22-1 1EE24-1EE24-1 1EE27-1EE27-1 1EE29-1EE32-1",
   "1EE34-1EE37-1 1EE39-1EE39-1 1EE3B-1EE3B-1 1EE42-1EE42-1 1EE47-1EE47-1 1EE49-1EE49-1",
   "1EE4B-1EE4B-1 1EE4D-1EE4F-1 1EE51-1EE52-1 1EE54-1EE54-1 1EE57-1EE57-1 1EE59-1EE59-1",
   "1EE5B-1EE5B-1 1EE5D-1EE5D-1 1EE5F-1EE5F-1 1EE61-1EE62-1 1EE64-1EE64-1 1EE67-1EE6A-1",
   "1EE6C-1EE72-1 1EE74-1EE77-1 1EE79-1EE7C-1 1EE7E-1EE7E-1 1EE80-1EE89-1 1EE8B-1EE9B-1",
   "1EEA1-1EEA3-1 1EEA5-1EEA9-1 1EEAB-1EEBB-1 1EEF0-1EEF1-9 1F000-1F02B-9 1F030-1F093-9",
   "1F0A0-1F0AE-9 1F0B1-1F0BF-9 1F0C1-1F0CF-9 1F0D1-1F0F5-9 1F100-1F10A-3 1F10B-1F10F-9",
   "1F12F-1F12F-9 1F16A-1F16F-9 1F1AD-1F1AD-9 1F260-1F265-9 1F300-1F6D7-9 1F6DC-1F6EC-9",
   "1F6F0-1F6FC-9 1F700-1F776-9 1F77B-1F7D9-9 1F7E0-1F7EB-9 1F7F0-1F7F0-9 1F800-1F80B-9",
   "1F810-1F847-9 1F850-1F859-9 1F860-1F887-9 1F890-1F8AD-9 1F8B0-1F8B1-9 1F900-1FA53-9",
   "1FA60-1FA6D-9 1FA70-1FA7C-9 1FA80-1FA88-9 1FA90-1FABD-9 1FABF-1FAC5-9 1FACE-1FADB-9",
   "1FAE0-1FAE8-9 1FAF0-1FAF8-9 1FB00-1FB92-9 1FB94-1FBCA-9 1FBF0-1FBF9-3 E0001-E0001-8",
   "E0020-E007F-8 E0100-E01EF-7"]

def directionOf (c : Char) : Direction :=
  ((Text.runValue? directionRuns c.toNat).map Direction.ofCode).getD .left

/-- Runs from right to left, or makes what is around it do so. -/
def Direction.isRightward : Direction → Bool
  | .right | .arabicLetter | .arabicNumber => true
  | _ => false

/-- Fits into labels of both directions. -/
def Direction.isCommon : Direction → Bool
  | .europeanNumber | .europeanSeparator | .europeanTerminator | .commonSeparator | .mark
  | .boundary | .neutral => true
  | _ => false

/-- The last direction that is not the one of a mark. -/
def lastDirection? (ds : List Direction) : Option Direction :=
  (ds.reverse.dropWhile (· == .mark)).head?

/-- Whether the label keeps to one direction. -/
def isOneWay (label : List Char) : Bool :=
  let ds := label.map directionOf
  match ds.head? with
  | none => true
  | some .left =>
    ds.all (fun d => d == .left || d.isCommon) &&
      (match lastDirection? ds with
        | some .left | some .europeanNumber => true
        | _ => false)
  | some .right | some .arabicLetter =>
    ds.all (fun d => d.isRightward || d.isCommon) &&
      (match lastDirection? ds with
        | some d => d.isRightward || d == .europeanNumber
        | none => false) &&
      !(ds.contains .europeanNumber && ds.contains .arabicNumber)
  | some _ => false

/-- Names without any letter from right to left are not looked at. -/
def areReadable (labels : List (List Char)) : Bool :=
  !(labels.any fun label => label.any fun c => (directionOf c).isRightward) || labels.all isOneWay

end AgentGraph.Host
