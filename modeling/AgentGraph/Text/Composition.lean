import AgentGraph.Text.Table

/-! Characters and the marks that belong to them, in composed form.

A text is taken apart into letters and marks, the marks of each letter are put in the order of their
classes, and what can be joined again is joined. Two texts that read the same then are the same. -/
namespace AgentGraph.Text

set_option autoImplicit false
set_option maxRecDepth 10000

/-- Runs of marks with their classes. Everything else has class 0. -/
def markClasses : List Entry := tableOf
  ["300-314-E6 315-315-E8 316-319-DC 31A-31A-E8 31B-31B-D8 31C-320-DC 321-322-CA 323-326-DC",
   "327-328-CA 329-333-DC 334-338-1 339-33C-DC 33D-344-E6 345-345-F0 346-346-E6 347-349-DC",
   "34A-34C-E6 34D-34E-DC 350-352-E6 353-356-DC 357-357-E6 358-358-E8 359-35A-DC 35B-35B-E6",
   "35C-35C-E9 35D-35E-EA 35F-35F-E9 360-361-EA 362-362-E9 363-36F-E6 483-487-E6 591-591-DC",
   "592-595-E6 596-596-DC 597-599-E6 59A-59A-DE 59B-59B-DC 59C-5A1-E6 5A2-5A7-DC 5A8-5A9-E6",
   "5AA-5AA-DC 5AB-5AC-E6 5AD-5AD-DE 5AE-5AE-E4 5AF-5AF-E6 5B0-5B0-A 5B1-5B1-B 5B2-5B2-C",
   "5B3-5B3-D 5B4-5B4-E 5B5-5B5-F 5B6-5B6-10 5B7-5B7-11 5B8-5B8-12 5B9-5BA-13 5BB-5BB-14",
   "5BC-5BC-15 5BD-5BD-16 5BF-5BF-17 5C1-5C1-18 5C2-5C2-19 5C4-5C4-E6 5C5-5C5-DC 5C7-5C7-12",
   "610-617-E6 618-618-1E 619-619-1F 61A-61A-20 64B-64B-1B 64C-64C-1C 64D-64D-1D 64E-64E-1E",
   "64F-64F-1F 650-650-20 651-651-21 652-652-22 653-654-E6 655-656-DC 657-65B-E6 65C-65C-DC",
   "65D-65E-E6 65F-65F-DC 670-670-23 6D6-6DC-E6 6DF-6E2-E6 6E3-6E3-DC 6E4-6E4-E6 6E7-6E8-E6",
   "6EA-6EA-DC 6EB-6EC-E6 6ED-6ED-DC 711-711-24 730-730-E6 731-731-DC 732-733-E6 734-734-DC",
   "735-736-E6 737-739-DC 73A-73A-E6 73B-73C-DC 73D-73D-E6 73E-73E-DC 73F-741-E6 742-742-DC",
   "743-743-E6 744-744-DC 745-745-E6 746-746-DC 747-747-E6 748-748-DC 749-74A-E6 7EB-7F1-E6",
   "7F2-7F2-DC 7F3-7F3-E6 7FD-7FD-DC 816-819-E6 81B-823-E6 825-827-E6 829-82D-E6 859-85B-DC",
   "898-898-E6 899-89B-DC 89C-89F-E6 8CA-8CE-E6 8CF-8D3-DC 8D4-8E1-E6 8E3-8E3-DC 8E4-8E5-E6",
   "8E6-8E6-DC 8E7-8E8-E6 8E9-8E9-DC 8EA-8EC-E6 8ED-8EF-DC 8F0-8F0-1B 8F1-8F1-1C 8F2-8F2-1D",
   "8F3-8F5-E6 8F6-8F6-DC 8F7-8F8-E6 8F9-8FA-DC 8FB-8FF-E6 93C-93C-7 94D-94D-9 951-951-E6",
   "952-952-DC 953-954-E6 9BC-9BC-7 9CD-9CD-9 9FE-9FE-E6 A3C-A3C-7 A4D-A4D-9 ABC-ABC-7 ACD-ACD-9",
   "B3C-B3C-7 B4D-B4D-9 BCD-BCD-9 C3C-C3C-7 C4D-C4D-9 C55-C55-54 C56-C56-5B CBC-CBC-7 CCD-CCD-9",
   "D3B-D3C-9 D4D-D4D-9 DCA-DCA-9 E38-E39-67 E3A-E3A-9 E48-E4B-6B EB8-EB9-76 EBA-EBA-9",
   "EC8-ECB-7A F18-F19-DC F35-F35-DC F37-F37-DC F39-F39-D8 F71-F71-81 F72-F72-82 F74-F74-84",
   "F7A-F7D-82 F80-F80-82 F82-F83-E6 F84-F84-9 F86-F87-E6 FC6-FC6-DC 1037-1037-7 1039-103A-9",
   "108D-108D-DC 135D-135F-E6 1714-1715-9 1734-1734-9 17D2-17D2-9 17DD-17DD-E6 18A9-18A9-E4",
   "1939-1939-DE 193A-193A-E6 193B-193B-DC 1A17-1A17-E6 1A18-1A18-DC 1A60-1A60-9 1A75-1A7C-E6",
   "1A7F-1A7F-DC 1AB0-1AB4-E6 1AB5-1ABA-DC 1ABB-1ABC-E6 1ABD-1ABD-DC 1ABF-1AC0-DC 1AC1-1AC2-E6",
   "1AC3-1AC4-DC 1AC5-1AC9-E6 1ACA-1ACA-DC 1ACB-1ACE-E6 1B34-1B34-7 1B44-1B44-9 1B6B-1B6B-E6",
   "1B6C-1B6C-DC 1B6D-1B73-E6 1BAA-1BAB-9 1BE6-1BE6-7 1BF2-1BF3-9 1C37-1C37-7 1CD0-1CD2-E6",
   "1CD4-1CD4-1 1CD5-1CD9-DC 1CDA-1CDB-E6 1CDC-1CDF-DC 1CE0-1CE0-E6 1CE2-1CE8-1 1CED-1CED-DC",
   "1CF4-1CF4-E6 1CF8-1CF9-E6 1DC0-1DC1-E6 1DC2-1DC2-DC 1DC3-1DC9-E6 1DCA-1DCA-DC 1DCB-1DCC-E6",
   "1DCD-1DCD-EA 1DCE-1DCE-D6 1DCF-1DCF-DC 1DD0-1DD0-CA 1DD1-1DF5-E6 1DF6-1DF6-E8 1DF7-1DF8-E4",
   "1DF9-1DF9-DC 1DFA-1DFA-DA 1DFB-1DFB-E6 1DFC-1DFC-E9 1DFD-1DFD-DC 1DFE-1DFE-E6 1DFF-1DFF-DC",
   "20D0-20D1-E6 20D2-20D3-1 20D4-20D7-E6 20D8-20DA-1 20DB-20DC-E6 20E1-20E1-E6 20E5-20E6-1",
   "20E7-20E7-E6 20E8-20E8-DC 20E9-20E9-E6 20EA-20EB-1 20EC-20EF-DC 20F0-20F0-E6 2CEF-2CF1-E6",
   "2D7F-2D7F-9 2DE0-2DFF-E6 302A-302A-DA 302B-302B-E4 302C-302C-E8 302D-302D-DE 302E-302F-E0",
   "3099-309A-8 A66F-A66F-E6 A674-A67D-E6 A69E-A69F-E6 A6F0-A6F1-E6 A806-A806-9 A82C-A82C-9",
   "A8C4-A8C4-9 A8E0-A8F1-E6 A92B-A92D-DC A953-A953-9 A9B3-A9B3-7 A9C0-A9C0-9 AAB0-AAB0-E6",
   "AAB2-AAB3-E6 AAB4-AAB4-DC AAB7-AAB8-E6 AABE-AABF-E6 AAC1-AAC1-E6 AAF6-AAF6-9 ABED-ABED-9",
   "FB1E-FB1E-1A FE20-FE26-E6 FE27-FE2D-DC FE2E-FE2F-E6 101FD-101FD-DC 102E0-102E0-DC",
   "10376-1037A-E6 10A0D-10A0D-DC 10A0F-10A0F-E6 10A38-10A38-E6 10A39-10A39-1 10A3A-10A3A-DC",
   "10A3F-10A3F-9 10AE5-10AE5-E6 10AE6-10AE6-DC 10D24-10D27-E6 10EAB-10EAC-E6 10EFD-10EFF-DC",
   "10F46-10F47-DC 10F48-10F4A-E6 10F4B-10F4B-DC 10F4C-10F4C-E6 10F4D-10F50-DC 10F82-10F82-E6",
   "10F83-10F83-DC 10F84-10F84-E6 10F85-10F85-DC 11046-11046-9 11070-11070-9 1107F-1107F-9",
   "110B9-110B9-9 110BA-110BA-7 11100-11102-E6 11133-11134-9 11173-11173-7 111C0-111C0-9",
   "111CA-111CA-7 11235-11235-9 11236-11236-7 112E9-112E9-7 112EA-112EA-9 1133B-1133C-7",
   "1134D-1134D-9 11366-1136C-E6 11370-11374-E6 11442-11442-9 11446-11446-7 1145E-1145E-E6",
   "114C2-114C2-9 114C3-114C3-7 115BF-115BF-9 115C0-115C0-7 1163F-1163F-9 116B6-116B6-9",
   "116B7-116B7-7 1172B-1172B-9 11839-11839-9 1183A-1183A-7 1193D-1193E-9 11943-11943-7",
   "119E0-119E0-9 11A34-11A34-9 11A47-11A47-9 11A99-11A99-9 11C3F-11C3F-9 11D42-11D42-7",
   "11D44-11D45-9 11D97-11D97-9 11F41-11F42-9 16AF0-16AF4-1 16B30-16B36-E6 16FF0-16FF1-6",
   "1BC9E-1BC9E-1 1D165-1D166-D8 1D167-1D169-1 1D16D-1D16D-E2 1D16E-1D172-D8 1D17B-1D182-DC",
   "1D185-1D189-E6 1D18A-1D18B-DC 1D1AA-1D1AD-E6 1D242-1D244-E6 1E000-1E006-E6 1E008-1E018-E6",
   "1E01B-1E021-E6 1E023-1E024-E6 1E026-1E02A-E6 1E08F-1E08F-E6 1E130-1E136-E6 1E2AE-1E2AE-E6",
   "1E2EC-1E2EF-E6 1E4EC-1E4ED-E8 1E4EE-1E4EE-DC 1E4EF-1E4EF-E6 1E8D0-1E8D6-DC 1E944-1E949-E6",
   "1E94A-1E94A-7"]

/-- A letter, the mark after it, and the one character that both make. -/
def compositions : List Entry := tableOf
  ["41-300-C0 41-301-C1 41-302-C2 41-303-C3 41-308-C4 41-30A-C5 43-327-C7 45-300-C8 45-301-C9",
   "45-302-CA 45-308-CB 49-300-CC 49-301-CD 49-302-CE 49-308-CF 4E-303-D1 4F-300-D2 4F-301-D3",
   "4F-302-D4 4F-303-D5 4F-308-D6 55-300-D9 55-301-DA 55-302-DB 55-308-DC 59-301-DD 61-300-E0",
   "61-301-E1 61-302-E2 61-303-E3 61-308-E4 61-30A-E5 63-327-E7 65-300-E8 65-301-E9 65-302-EA",
   "65-308-EB 69-300-EC 69-301-ED 69-302-EE 69-308-EF 6E-303-F1 6F-300-F2 6F-301-F3 6F-302-F4",
   "6F-303-F5 6F-308-F6 75-300-F9 75-301-FA 75-302-FB 75-308-FC 79-301-FD 79-308-FF 41-304-100",
   "61-304-101 41-306-102 61-306-103 41-328-104 61-328-105 43-301-106 63-301-107 43-302-108",
   "63-302-109 43-307-10A 63-307-10B 43-30C-10C 63-30C-10D 44-30C-10E 64-30C-10F 45-304-112",
   "65-304-113 45-306-114 65-306-115 45-307-116 65-307-117 45-328-118 65-328-119 45-30C-11A",
   "65-30C-11B 47-302-11C 67-302-11D 47-306-11E 67-306-11F 47-307-120 67-307-121 47-327-122",
   "67-327-123 48-302-124 68-302-125 49-303-128 69-303-129 49-304-12A 69-304-12B 49-306-12C",
   "69-306-12D 49-328-12E 69-328-12F 49-307-130 4A-302-134 6A-302-135 4B-327-136 6B-327-137",
   "4C-301-139 6C-301-13A 4C-327-13B 6C-327-13C 4C-30C-13D 6C-30C-13E 4E-301-143 6E-301-144",
   "4E-327-145 6E-327-146 4E-30C-147 6E-30C-148 4F-304-14C 6F-304-14D 4F-306-14E 6F-306-14F",
   "4F-30B-150 6F-30B-151 52-301-154 72-301-155 52-327-156 72-327-157 52-30C-158 72-30C-159",
   "53-301-15A 73-301-15B 53-302-15C 73-302-15D 53-327-15E 73-327-15F 53-30C-160 73-30C-161",
   "54-327-162 74-327-163 54-30C-164 74-30C-165 55-303-168 75-303-169 55-304-16A 75-304-16B",
   "55-306-16C 75-306-16D 55-30A-16E 75-30A-16F 55-30B-170 75-30B-171 55-328-172 75-328-173",
   "57-302-174 77-302-175 59-302-176 79-302-177 59-308-178 5A-301-179 7A-301-17A 5A-307-17B",
   "7A-307-17C 5A-30C-17D 7A-30C-17E 4F-31B-1A0 6F-31B-1A1 55-31B-1AF 75-31B-1B0 41-30C-1CD",
   "61-30C-1CE 49-30C-1CF 69-30C-1D0 4F-30C-1D1 6F-30C-1D2 55-30C-1D3 75-30C-1D4 DC-304-1D5",
   "FC-304-1D6 DC-301-1D7 FC-301-1D8 DC-30C-1D9 FC-30C-1DA DC-300-1DB FC-300-1DC C4-304-1DE",
   "E4-304-1DF 226-304-1E0 227-304-1E1 C6-304-1E2 E6-304-1E3 47-30C-1E6 67-30C-1E7 4B-30C-1E8",
   "6B-30C-1E9 4F-328-1EA 6F-328-1EB 1EA-304-1EC 1EB-304-1ED 1B7-30C-1EE 292-30C-1EF 6A-30C-1F0",
   "47-301-1F4 67-301-1F5 4E-300-1F8 6E-300-1F9 C5-301-1FA E5-301-1FB C6-301-1FC E6-301-1FD",
   "D8-301-1FE F8-301-1FF 41-30F-200 61-30F-201 41-311-202 61-311-203 45-30F-204 65-30F-205",
   "45-311-206 65-311-207 49-30F-208 69-30F-209 49-311-20A 69-311-20B 4F-30F-20C 6F-30F-20D",
   "4F-311-20E 6F-311-20F 52-30F-210 72-30F-211 52-311-212 72-311-213 55-30F-214 75-30F-215",
   "55-311-216 75-311-217 53-326-218 73-326-219 54-326-21A 74-326-21B 48-30C-21E 68-30C-21F",
   "41-307-226 61-307-227 45-327-228 65-327-229 D6-304-22A F6-304-22B D5-304-22C F5-304-22D",
   "4F-307-22E 6F-307-22F 22E-304-230 22F-304-231 59-304-232 79-304-233 A8-301-385 391-301-386",
   "395-301-388 397-301-389 399-301-38A 39F-301-38C 3A5-301-38E 3A9-301-38F 3CA-301-390",
   "399-308-3AA 3A5-308-3AB 3B1-301-3AC 3B5-301-3AD 3B7-301-3AE 3B9-301-3AF 3CB-301-3B0",
   "3B9-308-3CA 3C5-308-3CB 3BF-301-3CC 3C5-301-3CD 3C9-301-3CE 3D2-301-3D3 3D2-308-3D4",
   "415-300-400 415-308-401 413-301-403 406-308-407 41A-301-40C 418-300-40D 423-306-40E",
   "418-306-419 438-306-439 435-300-450 435-308-451 433-301-453 456-308-457 43A-301-45C",
   "438-300-45D 443-306-45E 474-30F-476 475-30F-477 416-306-4C1 436-306-4C2 410-306-4D0",
   "430-306-4D1 410-308-4D2 430-308-4D3 415-306-4D6 435-306-4D7 4D8-308-4DA 4D9-308-4DB",
   "416-308-4DC 436-308-4DD 417-308-4DE 437-308-4DF 418-304-4E2 438-304-4E3 418-308-4E4",
   "438-308-4E5 41E-308-4E6 43E-308-4E7 4E8-308-4EA 4E9-308-4EB 42D-308-4EC 44D-308-4ED",
   "423-304-4EE 443-304-4EF 423-308-4F0 443-308-4F1 423-30B-4F2 443-30B-4F3 427-308-4F4",
   "447-308-4F5 42B-308-4F8 44B-308-4F9 627-653-622 627-654-623 648-654-624 627-655-625",
   "64A-654-626 6D5-654-6C0 6C1-654-6C2 6D2-654-6D3 928-93C-929 930-93C-931 933-93C-934",
   "9C7-9BE-9CB 9C7-9D7-9CC B47-B56-B48 B47-B3E-B4B B47-B57-B4C B92-BD7-B94 BC6-BBE-BCA",
   "BC7-BBE-BCB BC6-BD7-BCC C46-C56-C48 CBF-CD5-CC0 CC6-CD5-CC7 CC6-CD6-CC8 CC6-CC2-CCA",
   "CCA-CD5-CCB D46-D3E-D4A D47-D3E-D4B D46-D57-D4C DD9-DCA-DDA DD9-DCF-DDC DDC-DCA-DDD",
   "DD9-DDF-DDE 1025-102E-1026 1B05-1B35-1B06 1B07-1B35-1B08 1B09-1B35-1B0A 1B0B-1B35-1B0C",
   "1B0D-1B35-1B0E 1B11-1B35-1B12 1B3A-1B35-1B3B 1B3C-1B35-1B3D 1B3E-1B35-1B40 1B3F-1B35-1B41",
   "1B42-1B35-1B43 41-325-1E00 61-325-1E01 42-307-1E02 62-307-1E03 42-323-1E04 62-323-1E05",
   "42-331-1E06 62-331-1E07 C7-301-1E08 E7-301-1E09 44-307-1E0A 64-307-1E0B 44-323-1E0C",
   "64-323-1E0D 44-331-1E0E 64-331-1E0F 44-327-1E10 64-327-1E11 44-32D-1E12 64-32D-1E13",
   "112-300-1E14 113-300-1E15 112-301-1E16 113-301-1E17 45-32D-1E18 65-32D-1E19 45-330-1E1A",
   "65-330-1E1B 228-306-1E1C 229-306-1E1D 46-307-1E1E 66-307-1E1F 47-304-1E20 67-304-1E21",
   "48-307-1E22 68-307-1E23 48-323-1E24 68-323-1E25 48-308-1E26 68-308-1E27 48-327-1E28",
   "68-327-1E29 48-32E-1E2A 68-32E-1E2B 49-330-1E2C 69-330-1E2D CF-301-1E2E EF-301-1E2F",
   "4B-301-1E30 6B-301-1E31 4B-323-1E32 6B-323-1E33 4B-331-1E34 6B-331-1E35 4C-323-1E36",
   "6C-323-1E37 1E36-304-1E38 1E37-304-1E39 4C-331-1E3A 6C-331-1E3B 4C-32D-1E3C 6C-32D-1E3D",
   "4D-301-1E3E 6D-301-1E3F 4D-307-1E40 6D-307-1E41 4D-323-1E42 6D-323-1E43 4E-307-1E44",
   "6E-307-1E45 4E-323-1E46 6E-323-1E47 4E-331-1E48 6E-331-1E49 4E-32D-1E4A 6E-32D-1E4B",
   "D5-301-1E4C F5-301-1E4D D5-308-1E4E F5-308-1E4F 14C-300-1E50 14D-300-1E51 14C-301-1E52",
   "14D-301-1E53 50-301-1E54 70-301-1E55 50-307-1E56 70-307-1E57 52-307-1E58 72-307-1E59",
   "52-323-1E5A 72-323-1E5B 1E5A-304-1E5C 1E5B-304-1E5D 52-331-1E5E 72-331-1E5F 53-307-1E60",
   "73-307-1E61 53-323-1E62 73-323-1E63 15A-307-1E64 15B-307-1E65 160-307-1E66 161-307-1E67",
   "1E62-307-1E68 1E63-307-1E69 54-307-1E6A 74-307-1E6B 54-323-1E6C 74-323-1E6D 54-331-1E6E",
   "74-331-1E6F 54-32D-1E70 74-32D-1E71 55-324-1E72 75-324-1E73 55-330-1E74 75-330-1E75",
   "55-32D-1E76 75-32D-1E77 168-301-1E78 169-301-1E79 16A-308-1E7A 16B-308-1E7B 56-303-1E7C",
   "76-303-1E7D 56-323-1E7E 76-323-1E7F 57-300-1E80 77-300-1E81 57-301-1E82 77-301-1E83",
   "57-308-1E84 77-308-1E85 57-307-1E86 77-307-1E87 57-323-1E88 77-323-1E89 58-307-1E8A",
   "78-307-1E8B 58-308-1E8C 78-308-1E8D 59-307-1E8E 79-307-1E8F 5A-302-1E90 7A-302-1E91",
   "5A-323-1E92 7A-323-1E93 5A-331-1E94 7A-331-1E95 68-331-1E96 74-308-1E97 77-30A-1E98",
   "79-30A-1E99 17F-307-1E9B 41-323-1EA0 61-323-1EA1 41-309-1EA2 61-309-1EA3 C2-301-1EA4",
   "E2-301-1EA5 C2-300-1EA6 E2-300-1EA7 C2-309-1EA8 E2-309-1EA9 C2-303-1EAA E2-303-1EAB",
   "1EA0-302-1EAC 1EA1-302-1EAD 102-301-1EAE 103-301-1EAF 102-300-1EB0 103-300-1EB1 102-309-1EB2",
   "103-309-1EB3 102-303-1EB4 103-303-1EB5 1EA0-306-1EB6 1EA1-306-1EB7 45-323-1EB8 65-323-1EB9",
   "45-309-1EBA 65-309-1EBB 45-303-1EBC 65-303-1EBD CA-301-1EBE EA-301-1EBF CA-300-1EC0",
   "EA-300-1EC1 CA-309-1EC2 EA-309-1EC3 CA-303-1EC4 EA-303-1EC5 1EB8-302-1EC6 1EB9-302-1EC7",
   "49-309-1EC8 69-309-1EC9 49-323-1ECA 69-323-1ECB 4F-323-1ECC 6F-323-1ECD 4F-309-1ECE",
   "6F-309-1ECF D4-301-1ED0 F4-301-1ED1 D4-300-1ED2 F4-300-1ED3 D4-309-1ED4 F4-309-1ED5",
   "D4-303-1ED6 F4-303-1ED7 1ECC-302-1ED8 1ECD-302-1ED9 1A0-301-1EDA 1A1-301-1EDB 1A0-300-1EDC",
   "1A1-300-1EDD 1A0-309-1EDE 1A1-309-1EDF 1A0-303-1EE0 1A1-303-1EE1 1A0-323-1EE2 1A1-323-1EE3",
   "55-323-1EE4 75-323-1EE5 55-309-1EE6 75-309-1EE7 1AF-301-1EE8 1B0-301-1EE9 1AF-300-1EEA",
   "1B0-300-1EEB 1AF-309-1EEC 1B0-309-1EED 1AF-303-1EEE 1B0-303-1EEF 1AF-323-1EF0 1B0-323-1EF1",
   "59-300-1EF2 79-300-1EF3 59-323-1EF4 79-323-1EF5 59-309-1EF6 79-309-1EF7 59-303-1EF8",
   "79-303-1EF9 3B1-313-1F00 3B1-314-1F01 1F00-300-1F02 1F01-300-1F03 1F00-301-1F04",
   "1F01-301-1F05 1F00-342-1F06 1F01-342-1F07 391-313-1F08 391-314-1F09 1F08-300-1F0A",
   "1F09-300-1F0B 1F08-301-1F0C 1F09-301-1F0D 1F08-342-1F0E 1F09-342-1F0F 3B5-313-1F10",
   "3B5-314-1F11 1F10-300-1F12 1F11-300-1F13 1F10-301-1F14 1F11-301-1F15 395-313-1F18",
   "395-314-1F19 1F18-300-1F1A 1F19-300-1F1B 1F18-301-1F1C 1F19-301-1F1D 3B7-313-1F20",
   "3B7-314-1F21 1F20-300-1F22 1F21-300-1F23 1F20-301-1F24 1F21-301-1F25 1F20-342-1F26",
   "1F21-342-1F27 397-313-1F28 397-314-1F29 1F28-300-1F2A 1F29-300-1F2B 1F28-301-1F2C",
   "1F29-301-1F2D 1F28-342-1F2E 1F29-342-1F2F 3B9-313-1F30 3B9-314-1F31 1F30-300-1F32",
   "1F31-300-1F33 1F30-301-1F34 1F31-301-1F35 1F30-342-1F36 1F31-342-1F37 399-313-1F38",
   "399-314-1F39 1F38-300-1F3A 1F39-300-1F3B 1F38-301-1F3C 1F39-301-1F3D 1F38-342-1F3E",
   "1F39-342-1F3F 3BF-313-1F40 3BF-314-1F41 1F40-300-1F42 1F41-300-1F43 1F40-301-1F44",
   "1F41-301-1F45 39F-313-1F48 39F-314-1F49 1F48-300-1F4A 1F49-300-1F4B 1F48-301-1F4C",
   "1F49-301-1F4D 3C5-313-1F50 3C5-314-1F51 1F50-300-1F52 1F51-300-1F53 1F50-301-1F54",
   "1F51-301-1F55 1F50-342-1F56 1F51-342-1F57 3A5-314-1F59 1F59-300-1F5B 1F59-301-1F5D",
   "1F59-342-1F5F 3C9-313-1F60 3C9-314-1F61 1F60-300-1F62 1F61-300-1F63 1F60-301-1F64",
   "1F61-301-1F65 1F60-342-1F66 1F61-342-1F67 3A9-313-1F68 3A9-314-1F69 1F68-300-1F6A",
   "1F69-300-1F6B 1F68-301-1F6C 1F69-301-1F6D 1F68-342-1F6E 1F69-342-1F6F 3B1-300-1F70",
   "3B5-300-1F72 3B7-300-1F74 3B9-300-1F76 3BF-300-1F78 3C5-300-1F7A 3C9-300-1F7C 1F00-345-1F80",
   "1F01-345-1F81 1F02-345-1F82 1F03-345-1F83 1F04-345-1F84 1F05-345-1F85 1F06-345-1F86",
   "1F07-345-1F87 1F08-345-1F88 1F09-345-1F89 1F0A-345-1F8A 1F0B-345-1F8B 1F0C-345-1F8C",
   "1F0D-345-1F8D 1F0E-345-1F8E 1F0F-345-1F8F 1F20-345-1F90 1F21-345-1F91 1F22-345-1F92",
   "1F23-345-1F93 1F24-345-1F94 1F25-345-1F95 1F26-345-1F96 1F27-345-1F97 1F28-345-1F98",
   "1F29-345-1F99 1F2A-345-1F9A 1F2B-345-1F9B 1F2C-345-1F9C 1F2D-345-1F9D 1F2E-345-1F9E",
   "1F2F-345-1F9F 1F60-345-1FA0 1F61-345-1FA1 1F62-345-1FA2 1F63-345-1FA3 1F64-345-1FA4",
   "1F65-345-1FA5 1F66-345-1FA6 1F67-345-1FA7 1F68-345-1FA8 1F69-345-1FA9 1F6A-345-1FAA",
   "1F6B-345-1FAB 1F6C-345-1FAC 1F6D-345-1FAD 1F6E-345-1FAE 1F6F-345-1FAF 3B1-306-1FB0",
   "3B1-304-1FB1 1F70-345-1FB2 3B1-345-1FB3 3AC-345-1FB4 3B1-342-1FB6 1FB6-345-1FB7 391-306-1FB8",
   "391-304-1FB9 391-300-1FBA 391-345-1FBC A8-342-1FC1 1F74-345-1FC2 3B7-345-1FC3 3AE-345-1FC4",
   "3B7-342-1FC6 1FC6-345-1FC7 395-300-1FC8 397-300-1FCA 397-345-1FCC 1FBF-300-1FCD",
   "1FBF-301-1FCE 1FBF-342-1FCF 3B9-306-1FD0 3B9-304-1FD1 3CA-300-1FD2 3B9-342-1FD6 3CA-342-1FD7",
   "399-306-1FD8 399-304-1FD9 399-300-1FDA 1FFE-300-1FDD 1FFE-301-1FDE 1FFE-342-1FDF",
   "3C5-306-1FE0 3C5-304-1FE1 3CB-300-1FE2 3C1-313-1FE4 3C1-314-1FE5 3C5-342-1FE6 3CB-342-1FE7",
   "3A5-306-1FE8 3A5-304-1FE9 3A5-300-1FEA 3A1-314-1FEC A8-300-1FED 1F7C-345-1FF2 3C9-345-1FF3",
   "3CE-345-1FF4 3C9-342-1FF6 1FF6-345-1FF7 39F-300-1FF8 3A9-300-1FFA 3A9-345-1FFC 2190-338-219A",
   "2192-338-219B 2194-338-21AE 21D0-338-21CD 21D4-338-21CE 21D2-338-21CF 2203-338-2204",
   "2208-338-2209 220B-338-220C 2223-338-2224 2225-338-2226 223C-338-2241 2243-338-2244",
   "2245-338-2247 2248-338-2249 3D-338-2260 2261-338-2262 224D-338-226D 3C-338-226E 3E-338-226F",
   "2264-338-2270 2265-338-2271 2272-338-2274 2273-338-2275 2276-338-2278 2277-338-2279",
   "227A-338-2280 227B-338-2281 2282-338-2284 2283-338-2285 2286-338-2288 2287-338-2289",
   "22A2-338-22AC 22A8-338-22AD 22A9-338-22AE 22AB-338-22AF 227C-338-22E0 227D-338-22E1",
   "2291-338-22E2 2292-338-22E3 22B2-338-22EA 22B3-338-22EB 22B4-338-22EC 22B5-338-22ED",
   "304B-3099-304C 304D-3099-304E 304F-3099-3050 3051-3099-3052 3053-3099-3054 3055-3099-3056",
   "3057-3099-3058 3059-3099-305A 305B-3099-305C 305D-3099-305E 305F-3099-3060 3061-3099-3062",
   "3064-3099-3065 3066-3099-3067 3068-3099-3069 306F-3099-3070 306F-309A-3071 3072-3099-3073",
   "3072-309A-3074 3075-3099-3076 3075-309A-3077 3078-3099-3079 3078-309A-307A 307B-3099-307C",
   "307B-309A-307D 3046-3099-3094 309D-3099-309E 30AB-3099-30AC 30AD-3099-30AE 30AF-3099-30B0",
   "30B1-3099-30B2 30B3-3099-30B4 30B5-3099-30B6 30B7-3099-30B8 30B9-3099-30BA 30BB-3099-30BC",
   "30BD-3099-30BE 30BF-3099-30C0 30C1-3099-30C2 30C4-3099-30C5 30C6-3099-30C7 30C8-3099-30C9",
   "30CF-3099-30D0 30CF-309A-30D1 30D2-3099-30D3 30D2-309A-30D4 30D5-3099-30D6 30D5-309A-30D7",
   "30D8-3099-30D9 30D8-309A-30DA 30DB-3099-30DC 30DB-309A-30DD 30A6-3099-30F4 30EF-3099-30F7",
   "30F0-3099-30F8 30F1-3099-30F9 30F2-3099-30FA 30FD-3099-30FE 105D2-307-105C9 105DA-307-105E4",
   "11099-110BA-1109A 1109B-110BA-1109C 110A5-110BA-110AB 11131-11127-1112E 11132-11127-1112F",
   "11347-1133E-1134B 11347-11357-1134C 11382-113C9-11383 11384-113BB-11385 1138B-113C2-1138E",
   "11390-113C9-11391 113C2-113C2-113C5 113C2-113B8-113C7 113C2-113C9-113C8 114B9-114BA-114BB",
   "114B9-114B0-114BC 114B9-114BD-114BE 115B8-115AF-115BA 115B9-115AF-115BB 11935-11930-11938",
   "1611E-1611E-16121 1611E-16129-16122 1611E-1611F-16123 16129-1611F-16124 1611E-16120-16125",
   "16121-1611F-16126 16122-1611F-16127 16121-16120-16128 16D67-16D67-16D68 16D63-16D67-16D69",
   "16D69-16D67-16D6A"]

def markClass (c : Char) : Nat := (runValue? markClasses c.toNat).getD 0

/-! ## Syllables

Korean syllables are composed by counting: a leading consonant, a vowel and perhaps a trailing
consonant. -/

def firstSyllable : Nat := 0xAC00

def syllableCount : Nat := 11172

def vowelCount : Nat := 21

/-- The ways a syllable can end, ending with its vowel being the first. -/
def endingCount : Nat := 28

def splitSyllable? (n : Nat) : Option (Nat × Nat) :=
  let place := n - firstSyllable
  if n < firstSyllable || syllableCount ≤ place then none
  else if place % endingCount = 0 then
    let beginning := place / endingCount
    some (0x1100 + beginning / vowelCount, 0x1161 + beginning % vowelCount)
  else some (n - place % endingCount, 0x11A7 + place % endingCount)

def joinSyllable? (a b : Nat) : Option Nat :=
  if 0x1100 ≤ a && a < 0x1113 && 0x1161 ≤ b && b < 0x1161 + vowelCount then
    some (firstSyllable + ((a - 0x1100) * vowelCount + (b - 0x1161)) * endingCount)
  else if firstSyllable ≤ a && a < firstSyllable + syllableCount &&
      (a - firstSyllable) % endingCount = 0 && 0x11A7 < b && b < 0x11A7 + endingCount then
    some (a + (b - 0x11A7))
  else none

/-! ## Taking apart -/

def split? (c : Char) : Option (Char × Char) :=
  match splitSyllable? c.toNat with
  | some (a, b) => some (Char.ofNat a, Char.ofNat b)
  | none =>
    compositions.findSome? fun e =>
      match e with
      | [a, b, whole] => if whole = c.toNat then some (Char.ofNat a, Char.ofNat b) else none
      | _ => none

/-- Takes a character apart, and its first part again, at most so often. -/
def splitUp : Nat → Char → List Char
  | 0, c => [c]
  | depth + 1, c =>
    match split? c with
    | none => [c]
    | some (a, b) => splitUp depth a ++ [b]

/-- No character has more than three marks in it. -/
def decomposed (cs : List Char) : List Char := cs.flatMap (splitUp 4)

/-! ## Ordering -/

/-- Adds a character to a text whose last character comes first; a mark goes before the marks of
higher classes. -/
def placeMark (c : Char) : List Char → List Char
  | [] => [c]
  | d :: before =>
    if markClass c ≠ 0 && markClass c < markClass d then d :: placeMark c before
    else c :: d :: before

def ordered (cs : List Char) : List Char :=
  (cs.foldl (fun before c => placeMark c before) []).reverse

/-! ## Joining -/

def join? (a b : Char) : Option Char :=
  match joinSyllable? a.toNat b.toNat with
  | some n => some (Char.ofNat n)
  | none =>
    compositions.findSome? fun e =>
      match e with
      | [first, second, whole] =>
        if first = a.toNat && second = b.toNat then some (Char.ofNat whole) else none
      | _ => none

/-- A text that is being joined: what is done, the letter that may still take marks, and the marks
after it that it did not take. The last character comes first in both lists. -/
structure Joining where
  done : List Char
  letter : Option Char
  marks : List Char

def Joining.text (j : Joining) : List Char := j.marks ++ (j.letter.toList ++ j.done)

/-- A mark after a mark of its own class or a higher one does not reach the letter. -/
def Joining.reach (j : Joining) (c : Char) : Option Char :=
  match j.marks with
  | [] => j.letter.bind (join? · c)
  | last :: _ => if markClass c ≤ markClass last then none else j.letter.bind (join? · c)

def Joining.push (j : Joining) (c : Char) : Joining :=
  match j.reach c with
  | some whole => { j with letter := some whole }
  | none =>
    if markClass c = 0 then ⟨j.text, some c, []⟩
    else if j.letter.isNone then { j with done := c :: j.done }
    else { j with marks := c :: j.marks }

def joined (cs : List Char) : List Char := (cs.foldl Joining.push ⟨[], none, []⟩).text.reverse

/-- The composed form of a text. -/
def composed (cs : List Char) : List Char := joined (ordered (decomposed cs))

end AgentGraph.Text
