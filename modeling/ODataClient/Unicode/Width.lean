import ODataClient.Unicode.Property

/-!
# Widths of characters

How many columns a character takes where all columns have the same width. Ideographs take two, and
marks that are drawn with the character before them take none. What is kept free for pictographs
counts as wide.
-/

namespace ODataClient.Unicode

/-- Characters of two columns. -/
def wideRuns : List Run := Run.ofTriples [
    (0x1100, 0x115F, 1), (0x17A4, 0x17A4, 1), (0x231A, 0x231B, 1), (0x2329, 0x232A, 1),
    (0x23E9, 0x23EC, 1), (0x23F0, 0x23F0, 1), (0x23F3, 0x23F3, 1), (0x25FD, 0x25FE, 1),
    (0x2614, 0x2615, 1), (0x2630, 0x2637, 1), (0x2648, 0x2653, 1), (0x267F, 0x267F, 1),
    (0x268A, 0x268F, 1), (0x2693, 0x2693, 1), (0x26A1, 0x26A1, 1), (0x26AA, 0x26AB, 1),
    (0x26BD, 0x26BE, 1), (0x26C4, 0x26C5, 1), (0x26CE, 0x26CE, 1), (0x26D4, 0x26D4, 1),
    (0x26EA, 0x26EA, 1), (0x26F2, 0x26F3, 1), (0x26F5, 0x26F5, 1), (0x26FA, 0x26FA, 1),
    (0x26FD, 0x26FD, 1), (0x2705, 0x2705, 1), (0x270A, 0x270B, 1), (0x2728, 0x2728, 1),
    (0x274C, 0x274C, 1), (0x274E, 0x274E, 1), (0x2753, 0x2755, 1), (0x2757, 0x2757, 1),
    (0x2795, 0x2797, 1), (0x27B0, 0x27B0, 1), (0x27BF, 0x27BF, 1), (0x2B1B, 0x2B1C, 1),
    (0x2B50, 0x2B50, 1), (0x2B55, 0x2B55, 1), (0x2E80, 0x2E99, 1), (0x2E9B, 0x2EF3, 1),
    (0x2F00, 0x2FD5, 1), (0x2FF0, 0x303E, 1), (0x3041, 0x3096, 1), (0x309B, 0x30FF, 1),
    (0x3105, 0x312F, 1), (0x3131, 0x318E, 1), (0x3190, 0x31E5, 1), (0x31EF, 0x321E, 1),
    (0x3220, 0x3247, 1), (0x3250, 0xA48C, 1), (0xA490, 0xA4C6, 1), (0xA960, 0xA97C, 1),
    (0xAC00, 0xD7A3, 1), (0xF900, 0xFAFF, 1), (0xFE10, 0xFE19, 1), (0xFE30, 0xFE52, 1),
    (0xFE54, 0xFE66, 1), (0xFE68, 0xFE6B, 1), (0xFF01, 0xFF60, 1), (0xFFE0, 0xFFE6, 1),
    (0x16FE0, 0x16FE3, 1), (0x16FF2, 0x16FF6, 1), (0x17000, 0x18D1E, 1), (0x18D80, 0x18DF2, 1),
    (0x1AFF0, 0x1AFF3, 1), (0x1AFF5, 0x1AFFB, 1), (0x1AFFD, 0x1AFFE, 1), (0x1B000, 0x1B132, 1),
    (0x1B150, 0x1B152, 1), (0x1B155, 0x1B155, 1), (0x1B164, 0x1B167, 1), (0x1B170, 0x1B2FB, 1),
    (0x1D300, 0x1D356, 1), (0x1D360, 0x1D376, 1), (0x1F004, 0x1F004, 1), (0x1F02C, 0x1F02F, 1),
    (0x1F094, 0x1F09F, 1), (0x1F0AF, 0x1F0B0, 1), (0x1F0C0, 0x1F0C0, 1), (0x1F0CF, 0x1F0D0, 1),
    (0x1F0F6, 0x1F0FF, 1), (0x1F18E, 0x1F18E, 1), (0x1F191, 0x1F19A, 1), (0x1F1AE, 0x1F1E5, 1),
    (0x1F200, 0x1F320, 1), (0x1F32D, 0x1F335, 1), (0x1F337, 0x1F37C, 1), (0x1F37E, 0x1F393, 1),
    (0x1F3A0, 0x1F3CA, 1), (0x1F3CF, 0x1F3D3, 1), (0x1F3E0, 0x1F3F0, 1), (0x1F3F4, 0x1F3F4, 1),
    (0x1F3F8, 0x1F43E, 1), (0x1F440, 0x1F440, 1), (0x1F442, 0x1F4FC, 1), (0x1F4FF, 0x1F53D, 1),
    (0x1F54B, 0x1F54E, 1), (0x1F550, 0x1F567, 1), (0x1F57A, 0x1F57A, 1), (0x1F595, 0x1F596, 1),
    (0x1F5A4, 0x1F5A4, 1), (0x1F5FB, 0x1F64F, 1), (0x1F680, 0x1F6C5, 1), (0x1F6CC, 0x1F6CC, 1),
    (0x1F6D0, 0x1F6D2, 1), (0x1F6D5, 0x1F6DF, 1), (0x1F6EB, 0x1F6EF, 1), (0x1F6F4, 0x1F6FF, 1),
    (0x1F7DA, 0x1F7FF, 1), (0x1F80C, 0x1F80F, 1), (0x1F848, 0x1F84F, 1), (0x1F85A, 0x1F85F, 1),
    (0x1F888, 0x1F88F, 1), (0x1F8AE, 0x1F8AF, 1), (0x1F8BC, 0x1F8BF, 1), (0x1F8C2, 0x1F8CF, 1),
    (0x1F8D9, 0x1F8FF, 1), (0x1F90C, 0x1F93A, 1), (0x1F93C, 0x1F945, 1), (0x1F947, 0x1F9FF, 1),
    (0x1FA58, 0x1FA5F, 1), (0x1FA6E, 0x1FAFF, 1), (0x1FC00, 0x1FFFD, 1), (0x20000, 0x2FFFD, 1),
    (0x30000, 0x3FFFD, 1)]

/-- Characters of no columns. -/
def zeroWidthRuns : List Run := Run.ofTriples [
    (0xAD, 0xAD, 1), (0x300, 0x36F, 1), (0x483, 0x489, 1), (0x591, 0x5BD, 1), (0x5BF, 0x5BF, 1),
    (0x5C1, 0x5C2, 1), (0x5C4, 0x5C5, 1), (0x5C7, 0x5C9, 1), (0x605, 0x605, 1), (0x610, 0x61A, 1),
    (0x61C, 0x61C, 1), (0x64B, 0x65F, 1), (0x670, 0x670, 1), (0x6D6, 0x6DC, 1), (0x6DF, 0x6E4, 1),
    (0x6E7, 0x6E8, 1), (0x6EA, 0x6ED, 1), (0x70F, 0x70F, 1), (0x711, 0x711, 1), (0x730, 0x74A, 1),
    (0x7A6, 0x7B0, 1), (0x7EB, 0x7F3, 1), (0x7FD, 0x7FD, 1), (0x816, 0x819, 1), (0x81B, 0x823, 1),
    (0x825, 0x827, 1), (0x829, 0x82D, 1), (0x859, 0x85B, 1), (0x890, 0x891, 1), (0x897, 0x89F, 1),
    (0x8CA, 0x902, 1), (0x93A, 0x93A, 1), (0x93C, 0x93C, 1), (0x941, 0x948, 1), (0x94D, 0x94D, 1),
    (0x951, 0x957, 1), (0x962, 0x963, 1), (0x981, 0x981, 1), (0x9BC, 0x9BC, 1), (0x9BE, 0x9BE, 1),
    (0x9C1, 0x9C4, 1), (0x9CD, 0x9CD, 1), (0x9D7, 0x9D7, 1), (0x9E2, 0x9E3, 1), (0x9FE, 0x9FE, 1),
    (0xA01, 0xA02, 1), (0xA3C, 0xA3C, 1), (0xA41, 0xA42, 1), (0xA47, 0xA48, 1), (0xA4B, 0xA4D, 1),
    (0xA51, 0xA51, 1), (0xA70, 0xA71, 1), (0xA75, 0xA75, 1), (0xA81, 0xA82, 1), (0xABC, 0xABC, 1),
    (0xAC1, 0xAC5, 1), (0xAC7, 0xAC8, 1), (0xACD, 0xACD, 1), (0xAE2, 0xAE3, 1), (0xAFA, 0xAFF, 1),
    (0xB01, 0xB01, 1), (0xB3C, 0xB3C, 1), (0xB3E, 0xB3F, 1), (0xB41, 0xB44, 1), (0xB4D, 0xB4D, 1),
    (0xB53, 0xB57, 1), (0xB62, 0xB63, 1), (0xB82, 0xB82, 1), (0xBBE, 0xBBE, 1), (0xBC0, 0xBC0, 1),
    (0xBCD, 0xBCD, 1), (0xBD7, 0xBD7, 1), (0xC00, 0xC00, 1), (0xC04, 0xC04, 1), (0xC3C, 0xC3C, 1),
    (0xC3E, 0xC40, 1), (0xC46, 0xC48, 1), (0xC4A, 0xC4D, 1), (0xC55, 0xC56, 1), (0xC62, 0xC63, 1),
    (0xC81, 0xC81, 1), (0xCBC, 0xCBC, 1), (0xCBF, 0xCC0, 1), (0xCC2, 0xCC2, 1), (0xCC6, 0xCC8, 1),
    (0xCCA, 0xCCD, 1), (0xCD5, 0xCD6, 1), (0xCE2, 0xCE3, 1), (0xD00, 0xD01, 1), (0xD3B, 0xD3C, 1),
    (0xD3E, 0xD3E, 1), (0xD41, 0xD44, 1), (0xD4D, 0xD4E, 1), (0xD57, 0xD57, 1), (0xD62, 0xD63, 1),
    (0xD81, 0xD81, 1), (0xDCA, 0xDCA, 1), (0xDCF, 0xDCF, 1), (0xDD2, 0xDD4, 1), (0xDD6, 0xDD6, 1),
    (0xDDF, 0xDDF, 1), (0xE31, 0xE31, 1), (0xE34, 0xE3A, 1), (0xE47, 0xE4E, 1), (0xEB1, 0xEB1, 1),
    (0xEB4, 0xEBC, 1), (0xEC8, 0xECE, 1), (0xF18, 0xF19, 1), (0xF35, 0xF39, 2), (0xF71, 0xF7E, 1),
    (0xF80, 0xF84, 1), (0xF86, 0xF87, 1), (0xF8D, 0xF97, 1), (0xF99, 0xFBC, 1), (0xFC6, 0xFC6, 1),
    (0x102D, 0x1030, 1), (0x1032, 0x1037, 1), (0x1039, 0x103A, 1), (0x103D, 0x103E, 1),
    (0x1058, 0x1059, 1), (0x105E, 0x1060, 1), (0x1071, 0x1074, 1), (0x1082, 0x1082, 1),
    (0x1085, 0x1086, 1), (0x108D, 0x108D, 1), (0x109D, 0x109D, 1), (0x1160, 0x11FF, 1),
    (0x135D, 0x135F, 1), (0x1712, 0x1715, 1), (0x1732, 0x1734, 1), (0x1752, 0x1753, 1),
    (0x1772, 0x1773, 1), (0x17B4, 0x17B5, 1), (0x17B7, 0x17BD, 1), (0x17C6, 0x17C6, 1),
    (0x17C9, 0x17D3, 1), (0x17DD, 0x17DD, 1), (0x180B, 0x180F, 1), (0x1885, 0x1886, 1),
    (0x18A9, 0x18A9, 1), (0x1920, 0x1922, 1), (0x1927, 0x1928, 1), (0x1932, 0x1932, 1),
    (0x1939, 0x193B, 1), (0x1A17, 0x1A18, 1), (0x1A1B, 0x1A1B, 1), (0x1A56, 0x1A56, 1),
    (0x1A58, 0x1A5E, 1), (0x1A60, 0x1A60, 1), (0x1A62, 0x1A62, 1), (0x1A65, 0x1A6C, 1),
    (0x1A73, 0x1A7C, 1), (0x1A7F, 0x1A7F, 1), (0x1AB0, 0x1AEB, 1), (0x1B00, 0x1B03, 1),
    (0x1B34, 0x1B3D, 1), (0x1B42, 0x1B44, 1), (0x1B6B, 0x1B73, 1), (0x1B80, 0x1B81, 1),
    (0x1BA2, 0x1BA5, 1), (0x1BA8, 0x1BAD, 1), (0x1BE6, 0x1BE6, 1), (0x1BE8, 0x1BE9, 1),
    (0x1BED, 0x1BED, 1), (0x1BEF, 0x1BF3, 1), (0x1C2C, 0x1C33, 1), (0x1C36, 0x1C37, 1),
    (0x1CD0, 0x1CD2, 1), (0x1CD4, 0x1CE0, 1), (0x1CE2, 0x1CE8, 1), (0x1CED, 0x1CED, 1),
    (0x1CF4, 0x1CF4, 1), (0x1CF8, 0x1CF9, 1), (0x1DC0, 0x1DFF, 1), (0x200B, 0x200F, 1),
    (0x202A, 0x202E, 1), (0x2060, 0x206F, 1), (0x20D0, 0x20F0, 1), (0x2CEF, 0x2CF1, 1),
    (0x2DE0, 0x2DFF, 1), (0x302A, 0x302F, 1), (0x3099, 0x309A, 1), (0x3164, 0x3164, 1),
    (0xA66F, 0xA672, 1), (0xA674, 0xA67D, 1), (0xA69E, 0xA69F, 1), (0xA6F0, 0xA6F1, 1),
    (0xA802, 0xA802, 1), (0xA806, 0xA806, 1), (0xA80B, 0xA80B, 1), (0xA825, 0xA826, 1),
    (0xA82C, 0xA82C, 1), (0xA8C4, 0xA8C5, 1), (0xA8E0, 0xA8F1, 1), (0xA8FA, 0xA8FA, 1),
    (0xA8FF, 0xA8FF, 1), (0xA926, 0xA92D, 1), (0xA947, 0xA951, 1), (0xA953, 0xA953, 1),
    (0xA980, 0xA982, 1), (0xA9B3, 0xA9B3, 1), (0xA9B6, 0xA9B9, 1), (0xA9BC, 0xA9BD, 1),
    (0xA9C0, 0xA9C0, 1), (0xA9E5, 0xA9E5, 1), (0xAA29, 0xAA2E, 1), (0xAA31, 0xAA32, 1),
    (0xAA35, 0xAA36, 1), (0xAA43, 0xAA43, 1), (0xAA4C, 0xAA4C, 1), (0xAA7C, 0xAA7C, 1),
    (0xAAB0, 0xAAB0, 1), (0xAAB2, 0xAAB4, 1), (0xAAB7, 0xAAB8, 1), (0xAABE, 0xAABF, 1),
    (0xAAC1, 0xAAC1, 1), (0xAAEC, 0xAAED, 1), (0xAAF6, 0xAAF6, 1), (0xABE5, 0xABE5, 1),
    (0xABE8, 0xABE8, 1), (0xABED, 0xABED, 1), (0xD7B0, 0xD7C6, 1), (0xD7CB, 0xD7FB, 1),
    (0xFB1E, 0xFB1E, 1), (0xFE00, 0xFE0F, 1), (0xFE20, 0xFE2F, 1), (0xFEFF, 0xFEFF, 1),
    (0xFFA0, 0xFFA0, 1), (0xFFF0, 0xFFF8, 1), (0x101FD, 0x101FD, 1), (0x102E0, 0x102E0, 1),
    (0x10376, 0x1037A, 1), (0x10A01, 0x10A03, 1), (0x10A05, 0x10A06, 1), (0x10A0C, 0x10A0F, 1),
    (0x10A38, 0x10A3A, 1), (0x10A3F, 0x10A3F, 1), (0x10AE5, 0x10AE6, 1), (0x10D24, 0x10D27, 1),
    (0x10D69, 0x10D6D, 1), (0x10EAB, 0x10EAC, 1), (0x10EFA, 0x10EFF, 1), (0x10F46, 0x10F50, 1),
    (0x10F82, 0x10F85, 1), (0x11001, 0x11001, 1), (0x11038, 0x11046, 1), (0x11070, 0x11070, 1),
    (0x11073, 0x11074, 1), (0x1107F, 0x11081, 1), (0x110B3, 0x110B6, 1), (0x110B9, 0x110BA, 1),
    (0x110C2, 0x110C2, 1), (0x11100, 0x11102, 1), (0x11127, 0x1112B, 1), (0x1112D, 0x11134, 1),
    (0x11173, 0x11173, 1), (0x11180, 0x11181, 1), (0x111B6, 0x111BE, 1), (0x111C0, 0x111C0, 1),
    (0x111C2, 0x111C3, 1), (0x111C9, 0x111CC, 1), (0x111CF, 0x111CF, 1), (0x1122F, 0x11231, 1),
    (0x11234, 0x11237, 1), (0x1123E, 0x1123E, 1), (0x11241, 0x11241, 1), (0x112DF, 0x112DF, 1),
    (0x112E3, 0x112EA, 1), (0x11300, 0x11301, 1), (0x1133B, 0x1133C, 1), (0x1133E, 0x1133E, 1),
    (0x11340, 0x11340, 1), (0x1134D, 0x1134D, 1), (0x11357, 0x11357, 1), (0x11366, 0x1136C, 1),
    (0x11370, 0x11374, 1), (0x113B8, 0x113B8, 1), (0x113BB, 0x113C0, 1), (0x113C2, 0x113C2, 1),
    (0x113C5, 0x113C5, 1), (0x113C7, 0x113C9, 1), (0x113CE, 0x113D2, 1), (0x113E1, 0x113E2, 1),
    (0x11438, 0x1143F, 1), (0x11442, 0x11444, 1), (0x11446, 0x11446, 1), (0x1145E, 0x1145E, 1),
    (0x114B0, 0x114B0, 1), (0x114B3, 0x114B8, 1), (0x114BA, 0x114BA, 1), (0x114BD, 0x114BD, 1),
    (0x114BF, 0x114C0, 1), (0x114C2, 0x114C3, 1), (0x115AF, 0x115AF, 1), (0x115B2, 0x115B5, 1),
    (0x115BC, 0x115BD, 1), (0x115BF, 0x115C0, 1), (0x115DC, 0x115DD, 1), (0x11633, 0x1163A, 1),
    (0x1163D, 0x1163D, 1), (0x1163F, 0x11640, 1), (0x116AB, 0x116AB, 1), (0x116AD, 0x116AD, 1),
    (0x116B0, 0x116B7, 1), (0x1171D, 0x1171D, 1), (0x1171F, 0x1171F, 1), (0x11722, 0x11725, 1),
    (0x11727, 0x1172B, 1), (0x1182F, 0x11837, 1), (0x11839, 0x1183A, 1), (0x11930, 0x11930, 1),
    (0x1193B, 0x1193F, 1), (0x11941, 0x11941, 1), (0x11943, 0x11943, 1), (0x119D4, 0x119D7, 1),
    (0x119DA, 0x119DB, 1), (0x119E0, 0x119E0, 1), (0x11A01, 0x11A0A, 1), (0x11A33, 0x11A38, 1),
    (0x11A3B, 0x11A3E, 1), (0x11A47, 0x11A47, 1), (0x11A51, 0x11A56, 1), (0x11A59, 0x11A5B, 1),
    (0x11A84, 0x11A96, 1), (0x11A98, 0x11A99, 1), (0x11B60, 0x11B60, 1), (0x11B62, 0x11B64, 1),
    (0x11B66, 0x11B66, 1), (0x11C30, 0x11C36, 1), (0x11C38, 0x11C3D, 1), (0x11C3F, 0x11C3F, 1),
    (0x11C92, 0x11CA7, 1), (0x11CAA, 0x11CB0, 1), (0x11CB2, 0x11CB3, 1), (0x11CB5, 0x11CB6, 1),
    (0x11D31, 0x11D36, 1), (0x11D3A, 0x11D3A, 1), (0x11D3C, 0x11D3D, 1), (0x11D3F, 0x11D47, 1),
    (0x11D90, 0x11D91, 1), (0x11D95, 0x11D95, 1), (0x11D97, 0x11D97, 1), (0x11EF3, 0x11EF4, 1),
    (0x11F00, 0x11F02, 1), (0x11F36, 0x11F3A, 1), (0x11F40, 0x11F42, 1), (0x11F5A, 0x11F5A, 1),
    (0x13440, 0x13440, 1), (0x13447, 0x13455, 1), (0x1611E, 0x16129, 1), (0x1612D, 0x1612F, 1),
    (0x16AF0, 0x16AF4, 1), (0x16B30, 0x16B36, 1), (0x16F4F, 0x16F4F, 1), (0x16F8F, 0x16F92, 1),
    (0x16FE4, 0x16FE4, 1), (0x16FF0, 0x16FF1, 1), (0x1BC9D, 0x1BC9E, 1), (0x1BCA0, 0x1BCA3, 1),
    (0x1CF00, 0x1CF2D, 1), (0x1CF30, 0x1CF46, 1), (0x1D165, 0x1D169, 1), (0x1D16D, 0x1D182, 1),
    (0x1D185, 0x1D18B, 1), (0x1D1AA, 0x1D1AD, 1), (0x1D242, 0x1D244, 1), (0x1DA00, 0x1DA36, 1),
    (0x1DA3B, 0x1DA6C, 1), (0x1DA75, 0x1DA75, 1), (0x1DA84, 0x1DA84, 1), (0x1DA9B, 0x1DA9F, 1),
    (0x1DAA1, 0x1DAAF, 1), (0x1E000, 0x1E006, 1), (0x1E008, 0x1E018, 1), (0x1E01B, 0x1E021, 1),
    (0x1E023, 0x1E024, 1), (0x1E026, 0x1E02A, 1), (0x1E08F, 0x1E08F, 1), (0x1E130, 0x1E136, 1),
    (0x1E2AE, 0x1E2AE, 1), (0x1E2EC, 0x1E2EF, 1), (0x1E4EC, 0x1E4EF, 1), (0x1E5EE, 0x1E5EF, 1),
    (0x1E6E3, 0x1E6E3, 1), (0x1E6E6, 0x1E6E6, 1), (0x1E6EE, 0x1E6EF, 1), (0x1E6F5, 0x1E6F5, 1),
    (0x1E8D0, 0x1E8D6, 1), (0x1E944, 0x1E94A, 1), (0xE0000, 0xE0FFF, 1)]

/-- The Khmer sign for *and so on*, the only character of three columns. -/
def beyyal : Nat := 0x17D8

def isControl (code : Nat) : Bool := code < 0x20 || (0x7F ≤ code && code < 0xA0)

/-- The number of columns that a character takes. -/
def width (c : Char) : Nat :=
  let code := c.toNat
  if isControl code then 0
  else if code < 0x7F then 1
  else if zeroWidthRuns.any (·.contains code) then 0
  else if code = beyyal then 3
  else if wideRuns.any (·.contains code) then 2
  else 1

end ODataClient.Unicode
