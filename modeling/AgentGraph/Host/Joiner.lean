import AgentGraph.Text.Composition

/-! Characters without a shape of their own that join their neighbours or keep them apart. They may
stand in a name only where they make a difference: after a mark that takes the vowel away, and, for
the one that keeps apart, between letters that would be joined. -/
namespace AgentGraph.Host

set_option autoImplicit false
set_option maxRecDepth 10000

/-- How a letter joins its neighbours. -/
inductive Joint where
  /-- Only the letter after it. -/
  | next
  /-- Only the letter before it. -/
  | previous
  | both
  /-- Joining goes through it. -/
  | transparent
  | none
deriving DecidableEq, Repr

def Joint.ofCode : Nat → Joint
  | 0 => .next
  | 1 => .previous
  | 2 => .both
  | 3 => .transparent
  | _ => .none

/-- Runs of characters with the code of their joint. -/
def jointRuns : List Text.Entry := Text.tableOf
  ["AD-AD-3 300-36F-3 483-489-3 591-5BD-3 5BF-5BF-3 5C1-5C2-3 5C4-5C5-3 5C7-5C7-3 610-61A-3",
   "61C-61C-3 620-620-2 622-625-1 626-626-2 627-627-1 628-628-2 629-629-1 62A-62E-2 62F-632-1",
   "633-63F-2 640-640-4 641-647-2 648-648-1 649-64A-2 64B-65F-3 66E-66F-2 670-670-3 671-673-1",
   "675-677-1 678-687-2 688-699-1 69A-6BF-2 6C0-6C0-1 6C1-6C2-2 6C3-6CB-1 6CC-6CC-2 6CD-6CD-1",
   "6CE-6CE-2 6CF-6CF-1 6D0-6D1-2 6D2-6D3-1 6D5-6D5-1 6D6-6DC-3 6DF-6E4-3 6E7-6E8-3 6EA-6ED-3",
   "6EE-6EF-1 6FA-6FC-2 6FF-6FF-2 70F-70F-3 710-710-1 711-711-3 712-714-2 715-719-1 71A-71D-2",
   "71E-71E-1 71F-727-2 728-728-1 729-729-2 72A-72A-1 72B-72B-2 72C-72C-1 72D-72E-2 72F-72F-1",
   "730-74A-3 74D-74D-1 74E-758-2 759-75B-1 75C-76A-2 76B-76C-1 76D-770-2 771-771-1 772-772-2",
   "773-774-1 775-777-2 778-779-1 77A-77F-2 7A6-7B0-3 7CA-7EA-2 7EB-7F3-3 7FA-7FA-4 7FD-7FD-3",
   "816-819-3 81B-823-3 825-827-3 829-82D-3 840-840-1 841-845-2 846-847-1 848-848-2 849-849-1",
   "84A-853-2 854-854-1 855-855-2 856-858-1 859-85B-3 860-860-2 862-865-2 867-867-1 868-868-2",
   "869-86A-1 870-882-1 883-885-4 886-886-2 889-88D-2 88E-88E-1 898-89F-3 8A0-8A9-2 8AA-8AC-1",
   "8AE-8AE-1 8AF-8B0-2 8B1-8B2-1 8B3-8B8-2 8B9-8B9-1 8BA-8C8-2 8CA-8E1-3 8E3-902-3 93A-93A-3",
   "93C-93C-3 941-948-3 94D-94D-3 951-957-3 962-963-3 981-981-3 9BC-9BC-3 9C1-9C4-3 9CD-9CD-3",
   "9E2-9E3-3 9FE-9FE-3 A01-A02-3 A3C-A3C-3 A41-A42-3 A47-A48-3 A4B-A4D-3 A51-A51-3 A70-A71-3",
   "A75-A75-3 A81-A82-3 ABC-ABC-3 AC1-AC5-3 AC7-AC8-3 ACD-ACD-3 AE2-AE3-3 AFA-AFF-3 B01-B01-3",
   "B3C-B3C-3 B3F-B3F-3 B41-B44-3 B4D-B4D-3 B55-B56-3 B62-B63-3 B82-B82-3 BC0-BC0-3 BCD-BCD-3",
   "C00-C00-3 C04-C04-3 C3C-C3C-3 C3E-C40-3 C46-C48-3 C4A-C4D-3 C55-C56-3 C62-C63-3 C81-C81-3",
   "CBC-CBC-3 CBF-CBF-3 CC6-CC6-3 CCC-CCD-3 CE2-CE3-3 D00-D01-3 D3B-D3C-3 D41-D44-3 D4D-D4D-3",
   "D62-D63-3 D81-D81-3 DCA-DCA-3 DD2-DD4-3 DD6-DD6-3 E31-E31-3 E34-E3A-3 E47-E4E-3 EB1-EB1-3",
   "EB4-EBC-3 EC8-ECE-3 F18-F19-3 F35-F35-3 F37-F37-3 F39-F39-3 F71-F7E-3 F80-F84-3 F86-F87-3",
   "F8D-F97-3 F99-FBC-3 FC6-FC6-3 102D-1030-3 1032-1037-3 1039-103A-3 103D-103E-3 1058-1059-3",
   "105E-1060-3 1071-1074-3 1082-1082-3 1085-1086-3 108D-108D-3 109D-109D-3 135D-135F-3",
   "1712-1714-3 1732-1733-3 1752-1753-3 1772-1773-3 17B4-17B5-3 17B7-17BD-3 17C6-17C6-3",
   "17C9-17D3-3 17DD-17DD-3 1807-1807-2 180A-180A-4 180B-180D-3 180F-180F-3 1820-1878-2",
   "1885-1886-3 1887-18A8-2 18A9-18A9-3 18AA-18AA-2 1920-1922-3 1927-1928-3 1932-1932-3",
   "1939-193B-3 1A17-1A18-3 1A1B-1A1B-3 1A56-1A56-3 1A58-1A5E-3 1A60-1A60-3 1A62-1A62-3",
   "1A65-1A6C-3 1A73-1A7C-3 1A7F-1A7F-3 1AB0-1ACE-3 1B00-1B03-3 1B34-1B34-3 1B36-1B3A-3",
   "1B3C-1B3C-3 1B42-1B42-3 1B6B-1B73-3 1B80-1B81-3 1BA2-1BA5-3 1BA8-1BA9-3 1BAB-1BAD-3",
   "1BE6-1BE6-3 1BE8-1BE9-3 1BED-1BED-3 1BEF-1BF1-3 1C2C-1C33-3 1C36-1C37-3 1CD0-1CD2-3",
   "1CD4-1CE0-3 1CE2-1CE8-3 1CED-1CED-3 1CF4-1CF4-3 1CF8-1CF9-3 1DC0-1DFF-3 200B-200B-3",
   "200D-200D-4 200E-200F-3 202A-202E-3 2060-2064-3 206A-206F-3 20D0-20F0-3 2CEF-2CF1-3",
   "2D7F-2D7F-3 2DE0-2DFF-3 302A-302D-3 3099-309A-3 A66F-A672-3 A674-A67D-3 A69E-A69F-3",
   "A6F0-A6F1-3 A802-A802-3 A806-A806-3 A80B-A80B-3 A825-A826-3 A82C-A82C-3 A840-A871-2",
   "A872-A872-0 A8C4-A8C5-3 A8E0-A8F1-3 A8FF-A8FF-3 A926-A92D-3 A947-A951-3 A980-A982-3",
   "A9B3-A9B3-3 A9B6-A9B9-3 A9BC-A9BD-3 A9E5-A9E5-3 AA29-AA2E-3 AA31-AA32-3 AA35-AA36-3",
   "AA43-AA43-3 AA4C-AA4C-3 AA7C-AA7C-3 AAB0-AAB0-3 AAB2-AAB4-3 AAB7-AAB8-3 AABE-AABF-3",
   "AAC1-AAC1-3 AAEC-AAED-3 AAF6-AAF6-3 ABE5-ABE5-3 ABE8-ABE8-3 ABED-ABED-3 FB1E-FB1E-3",
   "FE00-FE0F-3 FE20-FE2F-3 FEFF-FEFF-3 FFF9-FFFB-3 101FD-101FD-3 102E0-102E0-3 10376-1037A-3",
   "10A01-10A03-3 10A05-10A06-3 10A0C-10A0F-3 10A38-10A3A-3 10A3F-10A3F-3 10AC0-10AC4-2",
   "10AC5-10AC5-1 10AC7-10AC7-1 10AC9-10ACA-1 10ACD-10ACD-0 10ACE-10AD2-1 10AD3-10AD6-2",
   "10AD7-10AD7-0 10AD8-10ADC-2 10ADD-10ADD-1 10ADE-10AE0-2 10AE1-10AE1-1 10AE4-10AE4-1",
   "10AE5-10AE6-3 10AEB-10AEE-2 10AEF-10AEF-1 10B80-10B80-2 10B81-10B81-1 10B82-10B82-2",
   "10B83-10B85-1 10B86-10B88-2 10B89-10B89-1 10B8A-10B8B-2 10B8C-10B8C-1 10B8D-10B8D-2",
   "10B8E-10B8F-1 10B90-10B90-2 10B91-10B91-1 10BA9-10BAC-1 10BAD-10BAE-2 10D00-10D00-0",
   "10D01-10D21-2 10D22-10D22-1 10D23-10D23-2 10D24-10D27-3 10EAB-10EAC-3 10EFD-10EFF-3",
   "10F30-10F32-2 10F33-10F33-1 10F34-10F44-2 10F46-10F50-3 10F51-10F53-2 10F54-10F54-1",
   "10F70-10F73-2 10F74-10F75-1 10F76-10F81-2 10F82-10F85-3 10FB0-10FB0-2 10FB2-10FB3-2",
   "10FB4-10FB6-1 10FB8-10FB8-2 10FB9-10FBA-1 10FBB-10FBC-2 10FBD-10FBD-1 10FBE-10FBF-2",
   "10FC1-10FC1-2 10FC2-10FC3-1 10FC4-10FC4-2 10FC9-10FC9-1 10FCA-10FCA-2 10FCB-10FCB-0",
   "11001-11001-3 11038-11046-3 11070-11070-3 11073-11074-3 1107F-11081-3 110B3-110B6-3",
   "110B9-110BA-3 110C2-110C2-3 11100-11102-3 11127-1112B-3 1112D-11134-3 11173-11173-3",
   "11180-11181-3 111B6-111BE-3 111C9-111CC-3 111CF-111CF-3 1122F-11231-3 11234-11234-3",
   "11236-11237-3 1123E-1123E-3 11241-11241-3 112DF-112DF-3 112E3-112EA-3 11300-11301-3",
   "1133B-1133C-3 11340-11340-3 11366-1136C-3 11370-11374-3 11438-1143F-3 11442-11444-3",
   "11446-11446-3 1145E-1145E-3 114B3-114B8-3 114BA-114BA-3 114BF-114C0-3 114C2-114C3-3",
   "115B2-115B5-3 115BC-115BD-3 115BF-115C0-3 115DC-115DD-3 11633-1163A-3 1163D-1163D-3",
   "1163F-11640-3 116AB-116AB-3 116AD-116AD-3 116B0-116B5-3 116B7-116B7-3 1171D-1171F-3",
   "11722-11725-3 11727-1172B-3 1182F-11837-3 11839-1183A-3 1193B-1193C-3 1193E-1193E-3",
   "11943-11943-3 119D4-119D7-3 119DA-119DB-3 119E0-119E0-3 11A01-11A0A-3 11A33-11A38-3",
   "11A3B-11A3E-3 11A47-11A47-3 11A51-11A56-3 11A59-11A5B-3 11A8A-11A96-3 11A98-11A99-3",
   "11C30-11C36-3 11C38-11C3D-3 11C3F-11C3F-3 11C92-11CA7-3 11CAA-11CB0-3 11CB2-11CB3-3",
   "11CB5-11CB6-3 11D31-11D36-3 11D3A-11D3A-3 11D3C-11D3D-3 11D3F-11D45-3 11D47-11D47-3",
   "11D90-11D91-3 11D95-11D95-3 11D97-11D97-3 11EF3-11EF4-3 11F00-11F01-3 11F36-11F3A-3",
   "11F40-11F40-3 11F42-11F42-3 13430-13440-3 13447-13455-3 16AF0-16AF4-3 16B30-16B36-3",
   "16F4F-16F4F-3 16F8F-16F92-3 16FE4-16FE4-3 1BC9D-1BC9E-3 1BCA0-1BCA3-3 1CF00-1CF2D-3",
   "1CF30-1CF46-3 1D167-1D169-3 1D173-1D182-3 1D185-1D18B-3 1D1AA-1D1AD-3 1D242-1D244-3",
   "1DA00-1DA36-3 1DA3B-1DA6C-3 1DA75-1DA75-3 1DA84-1DA84-3 1DA9B-1DA9F-3 1DAA1-1DAAF-3",
   "1E000-1E006-3 1E008-1E018-3 1E01B-1E021-3 1E023-1E024-3 1E026-1E02A-3 1E08F-1E08F-3",
   "1E130-1E136-3 1E2AE-1E2AE-3 1E2EC-1E2EF-3 1E4EC-1E4EF-3 1E8D0-1E8D6-3 1E900-1E943-2",
   "1E944-1E94B-3 E0001-E0001-3 E0020-E007F-3 E0100-E01EF-3"]

def jointOf (c : Char) : Joint :=
  ((Text.runValue? jointRuns c.toNat).map Joint.ofCode).getD .none

def keepsApart (c : Char) : Bool := c.toNat == 0x200C

def joins (c : Char) : Bool := c.toNat == 0x200D

/-- A mark that takes the vowel away from the letter before it. -/
def takesVowel (c : Char) : Bool := Text.markClass c == 9

/-- The joint of the first letter that is not passed through. -/
def firstJoint (cs : List Char) : Joint :=
  ((cs.map jointOf).dropWhile (· == .transparent)).head?.getD .none

/-- Whether the joiners among the characters are in their places; `before` holds what comes before
them, the last one first. -/
def joinersFit (before : List Char) : List Char → Bool
  | [] => true
  | c :: cs =>
    let afterVowelTaker := (before.head?.map takesVowel).getD false
    let between := (firstJoint before == .next || firstJoint before == .both) &&
      (firstJoint cs == .previous || firstJoint cs == .both)
    (if keepsApart c then afterVowelTaker || between
      else if joins c then afterVowelTaker
      else true) &&
      joinersFit (c :: before) cs

end AgentGraph.Host
