import ODataClient.Unicode.Property

/-!
# Line breaking classes

What kind of character a character is where lines are broken. Most letters and symbols are
alphabetic; for the other classes there are runs of code points.
-/

namespace ODataClient.Unicode

/-- The classes of characters between which lines are broken or not. -/
inductive LineBreakClass where
  /-- A letter, a symbol, or any character of no other class. -/
  | alphabetic
  /-- A line always ends behind it. -/
  | mandatory
  | carriageReturn
  | lineFeed
  | nextLine
  | space
  /-- A line may end behind it, though nothing is seen. -/
  | zeroWidthSpace
  | zeroWidthJoiner
  /-- It keeps what is on both sides of it together. -/
  | wordJoiner
  /-- A space or other character behind which no line ends. -/
  | glue
  | combiningMark
  /-- A line may end behind it. -/
  | opportunityAfter
  /-- A line may end in front of it. -/
  | opportunityBefore
  /-- A line may end on both sides of it. -/
  | opportunityAround
  | hyphen
  /-- What stands for an object. -/
  | contingent
  | closing
  | closingParenthesis
  | exclamation
  /-- A leader of dots. -/
  | inseparable
  /-- No line starts with it. -/
  | nonstarter
  | opening
  /-- An opening bracket as wide as an ideograph. -/
  | wideOpening
  /-- A quotation mark that mostly begins a quotation. -/
  | initialQuotation
  /-- A quotation mark that mostly ends a quotation. -/
  | finalQuotation
  /-- Any other quotation mark. -/
  | quotation
  /-- A point, comma or colon in a number. -/
  | separator
  | digit
  /-- A unit behind a number. -/
  | behindNumber
  /-- A unit in front of a number. -/
  | beforeNumber
  | solidus
  | hebrewLetter
  /-- A letter of a script that is written in syllables, each of which stays in one line. -/
  | aksara
  /-- Such a letter that no virama joins to the one before it. -/
  | aksaraStart
  /-- A sign in front of such a letter, to which it belongs. -/
  | aksaraPrebase
  /-- A sign that may join such a letter to the next one. -/
  | virama
  /-- A sign that takes the vowel from such a letter at the end of a syllable. -/
  | viramaFinal
  /-- What stands for any letter under a mark. -/
  | dottedCircle
  | ideograph
  /-- A code point that is kept free for pictographs. -/
  | reservedPictograph
  | emojiBase
  | emojiModifier
  | regionalIndicator
  | leadingJamo
  | vowelJamo
  | trailingJamo
  /-- A Korean syllable that ends in a vowel. -/
  | openSyllable
  /-- A Korean syllable that ends in a consonant. -/
  | closedSyllable
deriving DecidableEq, Repr

/-- Characters that keep what is on both sides together. -/
def glueRuns : List Run := Run.ofTriples [
    (0xA0, 0xA0, 1), (0x34F, 0x34F, 1), (0x35C, 0x362, 1), (0xF08, 0xF08, 1), (0xF0C, 0xF0C, 1),
    (0xF12, 0xF12, 1), (0xFD9, 0xFDA, 1), (0x180E, 0x180E, 1), (0x1DCD, 0x1DCD, 1),
    (0x1DFC, 0x1DFC, 1), (0x2007, 0x2007, 1), (0x2011, 0x2011, 1), (0x202F, 0x202F, 1),
    (0x1107F, 0x1107F, 1), (0x13430, 0x13436, 1), (0x13439, 0x1343B, 1), (0x16FE4, 0x16FE4, 1)]

/-- Marks that combine with the character before them. -/
def combiningMarkRuns : List Run := Run.ofTriples [
    (0x0, 0x8, 1), (0xE, 0x1F, 1), (0x7F, 0x84, 1), (0x86, 0x9F, 1), (0x300, 0x34E, 1),
    (0x350, 0x35B, 1), (0x363, 0x36F, 1), (0x483, 0x489, 1), (0x591, 0x5BD, 1), (0x5BF, 0x5BF, 1),
    (0x5C1, 0x5C2, 1), (0x5C4, 0x5C5, 1), (0x5C7, 0x5C7, 1), (0x610, 0x61A, 1), (0x61C, 0x61C, 1),
    (0x64B, 0x65F, 1), (0x670, 0x670, 1), (0x6D6, 0x6DC, 1), (0x6DF, 0x6E4, 1), (0x6E7, 0x6E8, 1),
    (0x6EA, 0x6ED, 1), (0x711, 0x711, 1), (0x730, 0x74A, 1), (0x7A6, 0x7B0, 1), (0x7EB, 0x7F3, 1),
    (0x7FD, 0x7FD, 1), (0x816, 0x819, 1), (0x81B, 0x823, 1), (0x825, 0x827, 1), (0x829, 0x82D, 1),
    (0x859, 0x85B, 1), (0x898, 0x89F, 1), (0x8CA, 0x8E1, 1), (0x8E3, 0x903, 1), (0x93A, 0x93C, 1),
    (0x93E, 0x94F, 1), (0x951, 0x957, 1), (0x962, 0x963, 1), (0x981, 0x983, 1), (0x9BC, 0x9BC, 1),
    (0x9BE, 0x9C4, 1), (0x9C7, 0x9C8, 1), (0x9CB, 0x9CD, 1), (0x9D7, 0x9D7, 1), (0x9E2, 0x9E3, 1),
    (0x9FE, 0x9FE, 1), (0xA01, 0xA03, 1), (0xA3C, 0xA3C, 1), (0xA3E, 0xA42, 1), (0xA47, 0xA48, 1),
    (0xA4B, 0xA4D, 1), (0xA51, 0xA51, 1), (0xA70, 0xA71, 1), (0xA75, 0xA75, 1), (0xA81, 0xA83, 1),
    (0xABC, 0xABC, 1), (0xABE, 0xAC5, 1), (0xAC7, 0xAC9, 1), (0xACB, 0xACD, 1), (0xAE2, 0xAE3, 1),
    (0xAFA, 0xAFF, 1), (0xB01, 0xB03, 1), (0xB3C, 0xB3C, 1), (0xB3E, 0xB44, 1), (0xB47, 0xB48, 1),
    (0xB4B, 0xB4D, 1), (0xB55, 0xB57, 1), (0xB62, 0xB63, 1), (0xB82, 0xB82, 1), (0xBBE, 0xBC2, 1),
    (0xBC6, 0xBC8, 1), (0xBCA, 0xBCD, 1), (0xBD7, 0xBD7, 1), (0xC00, 0xC04, 1), (0xC3C, 0xC3C, 1),
    (0xC3E, 0xC44, 1), (0xC46, 0xC48, 1), (0xC4A, 0xC4D, 1), (0xC55, 0xC56, 1), (0xC62, 0xC63, 1),
    (0xC81, 0xC83, 1), (0xCBC, 0xCBC, 1), (0xCBE, 0xCC4, 1), (0xCC6, 0xCC8, 1), (0xCCA, 0xCCD, 1),
    (0xCD5, 0xCD6, 1), (0xCE2, 0xCE3, 1), (0xCF3, 0xCF3, 1), (0xD00, 0xD03, 1), (0xD3B, 0xD3C, 1),
    (0xD3E, 0xD44, 1), (0xD46, 0xD48, 1), (0xD4A, 0xD4D, 1), (0xD57, 0xD57, 1), (0xD62, 0xD63, 1),
    (0xD81, 0xD83, 1), (0xDCA, 0xDCA, 1), (0xDCF, 0xDD4, 1), (0xDD6, 0xDD6, 1), (0xDD8, 0xDDF, 1),
    (0xDF2, 0xDF3, 1), (0xF18, 0xF19, 1), (0xF35, 0xF39, 2), (0xF3E, 0xF3F, 1), (0xF71, 0xF7E, 1),
    (0xF80, 0xF84, 1), (0xF86, 0xF87, 1), (0xF8D, 0xF97, 1), (0xF99, 0xFBC, 1), (0xFC6, 0xFC6, 1),
    (0x135D, 0x135F, 1), (0x1712, 0x1715, 1), (0x1732, 0x1734, 1), (0x1752, 0x1753, 1),
    (0x1772, 0x1773, 1), (0x180B, 0x180D, 1), (0x180F, 0x180F, 1), (0x1885, 0x1886, 1),
    (0x18A9, 0x18A9, 1), (0x1920, 0x192B, 1), (0x1930, 0x193B, 1), (0x1A17, 0x1A1B, 1),
    (0x1A7F, 0x1A7F, 1), (0x1AB0, 0x1ACE, 1), (0x1B00, 0x1B04, 1), (0x1B34, 0x1B43, 1),
    (0x1B6B, 0x1B73, 1), (0x1B80, 0x1B82, 1), (0x1BA1, 0x1BAD, 1), (0x1BE6, 0x1BF1, 1),
    (0x1C24, 0x1C37, 1), (0x1CD0, 0x1CD2, 1), (0x1CD4, 0x1CE8, 1), (0x1CED, 0x1CED, 1),
    (0x1CF4, 0x1CF4, 1), (0x1CF7, 0x1CF9, 1), (0x1DC0, 0x1DCC, 1), (0x1DCE, 0x1DFB, 1),
    (0x1DFD, 0x1DFF, 1), (0x200C, 0x200C, 1), (0x200E, 0x200F, 1), (0x202A, 0x202E, 1),
    (0x2066, 0x206F, 1), (0x20D0, 0x20F0, 1), (0x2CEF, 0x2CF1, 1), (0x2D7F, 0x2D7F, 1),
    (0x2DE0, 0x2DFF, 1), (0x302A, 0x302F, 1), (0x3035, 0x3035, 1), (0x3099, 0x309A, 1),
    (0xA66F, 0xA672, 1), (0xA674, 0xA67D, 1), (0xA69E, 0xA69F, 1), (0xA6F0, 0xA6F1, 1),
    (0xA802, 0xA802, 1), (0xA806, 0xA806, 1), (0xA80B, 0xA80B, 1), (0xA823, 0xA827, 1),
    (0xA82C, 0xA82C, 1), (0xA880, 0xA881, 1), (0xA8B4, 0xA8C5, 1), (0xA8E0, 0xA8F1, 1),
    (0xA8FF, 0xA8FF, 1), (0xA926, 0xA92D, 1), (0xA947, 0xA953, 1), (0xA980, 0xA983, 1),
    (0xA9B3, 0xA9BF, 1), (0xAA29, 0xAA36, 1), (0xAA43, 0xAA43, 1), (0xAA4C, 0xAA4D, 1),
    (0xAAEB, 0xAAEF, 1), (0xAAF5, 0xAAF6, 1), (0xABE3, 0xABEA, 1), (0xABEC, 0xABED, 1),
    (0xFB1E, 0xFB1E, 1), (0xFE00, 0xFE0F, 1), (0xFE20, 0xFE2F, 1), (0xFFF9, 0xFFFB, 1),
    (0x101FD, 0x101FD, 1), (0x102E0, 0x102E0, 1), (0x10376, 0x1037A, 1), (0x10A01, 0x10A03, 1),
    (0x10A05, 0x10A06, 1), (0x10A0C, 0x10A0F, 1), (0x10A38, 0x10A3A, 1), (0x10A3F, 0x10A3F, 1),
    (0x10AE5, 0x10AE6, 1), (0x10D24, 0x10D27, 1), (0x10EAB, 0x10EAC, 1), (0x10EFD, 0x10EFF, 1),
    (0x10F46, 0x10F50, 1), (0x10F82, 0x10F85, 1), (0x11000, 0x11002, 1), (0x11038, 0x11045, 1),
    (0x11070, 0x11070, 1), (0x11073, 0x11074, 1), (0x11080, 0x11082, 1), (0x110B0, 0x110BA, 1),
    (0x110C2, 0x110C2, 1), (0x11100, 0x11102, 1), (0x11127, 0x11134, 1), (0x11145, 0x11146, 1),
    (0x11173, 0x11173, 1), (0x11180, 0x11182, 1), (0x111B3, 0x111C0, 1), (0x111C9, 0x111CC, 1),
    (0x111CE, 0x111CF, 1), (0x1122C, 0x11237, 1), (0x1123E, 0x1123E, 1), (0x11241, 0x11241, 1),
    (0x112DF, 0x112EA, 1), (0x11300, 0x11303, 1), (0x1133B, 0x1133C, 1), (0x1133E, 0x11344, 1),
    (0x11347, 0x11348, 1), (0x1134B, 0x1134C, 1), (0x11357, 0x11357, 1), (0x11362, 0x11363, 1),
    (0x11366, 0x1136C, 1), (0x11370, 0x11374, 1), (0x11435, 0x11446, 1), (0x1145E, 0x1145E, 1),
    (0x114B0, 0x114C3, 1), (0x115AF, 0x115B5, 1), (0x115B8, 0x115C0, 1), (0x115DC, 0x115DD, 1),
    (0x11630, 0x11640, 1), (0x116AB, 0x116B7, 1), (0x1182C, 0x1183A, 1), (0x11930, 0x11935, 1),
    (0x11937, 0x11938, 1), (0x1193B, 0x1193D, 1), (0x11940, 0x11940, 1), (0x11942, 0x11943, 1),
    (0x119D1, 0x119D7, 1), (0x119DA, 0x119E0, 1), (0x119E4, 0x119E4, 1), (0x11A01, 0x11A0A, 1),
    (0x11A33, 0x11A39, 1), (0x11A3B, 0x11A3E, 1), (0x11A47, 0x11A47, 1), (0x11A51, 0x11A5B, 1),
    (0x11A8A, 0x11A99, 1), (0x11C2F, 0x11C36, 1), (0x11C38, 0x11C3F, 1), (0x11C92, 0x11CA7, 1),
    (0x11CA9, 0x11CB6, 1), (0x11D31, 0x11D36, 1), (0x11D3A, 0x11D3A, 1), (0x11D3C, 0x11D3D, 1),
    (0x11D3F, 0x11D45, 1), (0x11D47, 0x11D47, 1), (0x11D8A, 0x11D8E, 1), (0x11D90, 0x11D91, 1),
    (0x11D93, 0x11D97, 1), (0x11EF3, 0x11EF6, 1), (0x11F00, 0x11F01, 1), (0x11F03, 0x11F03, 1),
    (0x11F34, 0x11F3A, 1), (0x11F3E, 0x11F41, 1), (0x13440, 0x13440, 1), (0x13447, 0x13455, 1),
    (0x16AF0, 0x16AF4, 1), (0x16B30, 0x16B36, 1), (0x16F4F, 0x16F4F, 1), (0x16F51, 0x16F87, 1),
    (0x16F8F, 0x16F92, 1), (0x16FF0, 0x16FF1, 1), (0x1BC9D, 0x1BC9E, 1), (0x1BCA0, 0x1BCA3, 1),
    (0x1CF00, 0x1CF2D, 1), (0x1CF30, 0x1CF46, 1), (0x1D165, 0x1D169, 1), (0x1D16D, 0x1D182, 1),
    (0x1D185, 0x1D18B, 1), (0x1D1AA, 0x1D1AD, 1), (0x1D242, 0x1D244, 1), (0x1DA00, 0x1DA36, 1),
    (0x1DA3B, 0x1DA6C, 1), (0x1DA75, 0x1DA75, 1), (0x1DA84, 0x1DA84, 1), (0x1DA9B, 0x1DA9F, 1),
    (0x1DAA1, 0x1DAAF, 1), (0x1E000, 0x1E006, 1), (0x1E008, 0x1E018, 1), (0x1E01B, 0x1E021, 1),
    (0x1E023, 0x1E024, 1), (0x1E026, 0x1E02A, 1), (0x1E08F, 0x1E08F, 1), (0x1E130, 0x1E136, 1),
    (0x1E2AE, 0x1E2AE, 1), (0x1E2EC, 0x1E2EF, 1), (0x1E4EC, 0x1E4EF, 1), (0x1E8D0, 0x1E8D6, 1),
    (0x1E944, 0x1E94A, 1), (0xE0001, 0xE0001, 1), (0xE0020, 0xE007F, 1), (0xE0100, 0xE01EF, 1)]

/-- Characters behind which a line may end. -/
def opportunityAfterRuns : List Run := Run.ofTriples [
    (0x9, 0x9, 1), (0x7C, 0x7C, 1), (0xAD, 0xAD, 1), (0x58A, 0x58A, 1), (0x5BE, 0x5BE, 1),
    (0x964, 0x965, 1), (0xE5A, 0xE5B, 1), (0xF0B, 0xF0B, 1), (0xF34, 0xF34, 1), (0xF7F, 0xF7F, 1),
    (0xF85, 0xF85, 1), (0xFBE, 0xFBF, 1), (0xFD2, 0xFD2, 1), (0x104A, 0x104B, 1),
    (0x1361, 0x1361, 1), (0x1400, 0x1400, 1), (0x1680, 0x1680, 1), (0x16EB, 0x16ED, 1),
    (0x1735, 0x1736, 1), (0x17D4, 0x17D5, 1), (0x17D8, 0x17D8, 1), (0x17DA, 0x17DA, 1),
    (0x1804, 0x1805, 1), (0x1B5A, 0x1B5B, 1), (0x1B5D, 0x1B60, 1), (0x1B7D, 0x1B7E, 1),
    (0x1C3B, 0x1C3F, 1), (0x1C7E, 0x1C7F, 1), (0x2000, 0x2006, 1), (0x2008, 0x200A, 1),
    (0x2010, 0x2010, 1), (0x2012, 0x2013, 1), (0x2027, 0x2027, 1), (0x2056, 0x2056, 1),
    (0x2058, 0x205B, 1), (0x205D, 0x205F, 1), (0x2CFA, 0x2CFC, 1), (0x2CFF, 0x2CFF, 1),
    (0x2D70, 0x2D70, 1), (0x2E0E, 0x2E15, 1), (0x2E17, 0x2E17, 1), (0x2E19, 0x2E19, 1),
    (0x2E2A, 0x2E2D, 1), (0x2E30, 0x2E31, 1), (0x2E33, 0x2E34, 1), (0x2E3C, 0x2E3E, 1),
    (0x2E40, 0x2E41, 1), (0x2E43, 0x2E4A, 1), (0x2E4C, 0x2E4C, 1), (0x2E4E, 0x2E4F, 1),
    (0x2E5D, 0x2E5D, 1), (0x3000, 0x3000, 1), (0xA4FE, 0xA4FF, 1), (0xA60D, 0xA60D, 1),
    (0xA60F, 0xA60F, 1), (0xA6F3, 0xA6F7, 1), (0xA8CE, 0xA8CF, 1), (0xA92E, 0xA92F, 1),
    (0xA9C7, 0xA9C9, 1), (0xA9CF, 0xA9CF, 1), (0xAA40, 0xAA42, 1), (0xAA44, 0xAA4B, 1),
    (0xAA5D, 0xAA5F, 1), (0xAAF0, 0xAAF1, 1), (0xABEB, 0xABEB, 1), (0x10100, 0x10102, 1),
    (0x1039F, 0x1039F, 1), (0x103D0, 0x103D0, 1), (0x10857, 0x10857, 1), (0x1091F, 0x1091F, 1),
    (0x10A50, 0x10A57, 1), (0x10AF0, 0x10AF5, 1), (0x10B39, 0x10B3F, 1), (0x10EAD, 0x10EAD, 1),
    (0x11047, 0x11048, 1), (0x110BE, 0x110C1, 1), (0x11140, 0x11143, 1), (0x111C5, 0x111C6, 1),
    (0x111C8, 0x111C8, 1), (0x111DD, 0x111DF, 1), (0x11238, 0x11239, 1), (0x1123B, 0x1123C, 1),
    (0x112A9, 0x112A9, 1), (0x1133D, 0x1133D, 1), (0x1135D, 0x1135D, 1), (0x1144B, 0x1144E, 1),
    (0x1145A, 0x1145B, 1), (0x115C2, 0x115C3, 1), (0x115C9, 0x115D7, 1), (0x11641, 0x11642, 1),
    (0x1173C, 0x1173E, 1), (0x11944, 0x11946, 1), (0x11A41, 0x11A44, 1), (0x11A9A, 0x11A9C, 1),
    (0x11AA1, 0x11AA2, 1), (0x11C41, 0x11C45, 1), (0x11EF2, 0x11EF2, 1), (0x11EF7, 0x11EF8, 1),
    (0x11F43, 0x11F44, 1), (0x11FFF, 0x11FFF, 1), (0x12470, 0x12474, 1), (0x16A6E, 0x16A6F, 1),
    (0x16AF5, 0x16AF5, 1), (0x16B37, 0x16B39, 1), (0x16B44, 0x16B44, 1), (0x16E97, 0x16E98, 1),
    (0x1BC9F, 0x1BC9F, 1), (0x1DA87, 0x1DA8A, 1)]

/-- Characters in front of which a line may end. -/
def opportunityBeforeRuns : List Run := Run.ofTriples [
    (0xB4, 0xB4, 1), (0x2C8, 0x2C8, 1), (0x2CC, 0x2CC, 1), (0x2DF, 0x2DF, 1), (0xC77, 0xC77, 1),
    (0xC84, 0xC84, 1), (0xF01, 0xF04, 1), (0xF06, 0xF07, 1), (0xF09, 0xF0A, 1), (0xFD0, 0xFD1, 1),
    (0xFD3, 0xFD3, 1), (0x1806, 0x1806, 1), (0x1FFD, 0x1FFD, 1), (0xA874, 0xA875, 1),
    (0xA8FC, 0xA8FC, 1), (0x11175, 0x11175, 1), (0x111DB, 0x111DB, 1), (0x115C1, 0x115C1, 1),
    (0x11660, 0x1166C, 1), (0x119E2, 0x119E2, 1), (0x11A3F, 0x11A3F, 1), (0x11A45, 0x11A45, 1),
    (0x11A9E, 0x11AA0, 1), (0x11B00, 0x11B09, 1), (0x11C70, 0x11C70, 1)]

/-- Closing brackets, and marks that end a clause. -/
def closingRuns : List Run := Run.ofTriples [
    (0x7D, 0x7D, 1), (0xF3B, 0xF3B, 1), (0xF3D, 0xF3D, 1), (0x169C, 0x169C, 1), (0x2046, 0x2046, 1),
    (0x207E, 0x207E, 1), (0x208E, 0x208E, 1), (0x2309, 0x2309, 1), (0x230B, 0x230B, 1),
    (0x232A, 0x232A, 1), (0x2769, 0x2775, 2), (0x27C6, 0x27C6, 1), (0x27E7, 0x27EF, 2),
    (0x2984, 0x2998, 2), (0x29D9, 0x29D9, 1), (0x29DB, 0x29DB, 1), (0x29FD, 0x29FD, 1),
    (0x2E23, 0x2E29, 2), (0x2E56, 0x2E5C, 2), (0x3001, 0x3002, 1), (0x3009, 0x3011, 2),
    (0x3015, 0x301B, 2), (0x301E, 0x301F, 1), (0xFD3E, 0xFD3E, 1), (0xFE11, 0xFE12, 1),
    (0xFE18, 0xFE18, 1), (0xFE36, 0xFE44, 2), (0xFE48, 0xFE48, 1), (0xFE50, 0xFE50, 1),
    (0xFE52, 0xFE52, 1), (0xFE5A, 0xFE5E, 2), (0xFF09, 0xFF09, 1), (0xFF0C, 0xFF0C, 1),
    (0xFF0E, 0xFF0E, 1), (0xFF3D, 0xFF3D, 1), (0xFF5D, 0xFF5D, 1), (0xFF60, 0xFF61, 1),
    (0xFF63, 0xFF64, 1), (0x1325B, 0x1325D, 1), (0x13282, 0x13282, 1), (0x13287, 0x13287, 1),
    (0x13289, 0x13289, 1), (0x1337A, 0x1337B, 1), (0x13438, 0x13438, 1), (0x1343D, 0x1343D, 1),
    (0x1343F, 0x1343F, 1), (0x145CF, 0x145CF, 1)]

/-- Marks that end a sentence. -/
def exclamationRuns : List Run := Run.ofTriples [
    (0x21, 0x21, 1), (0x3F, 0x3F, 1), (0x5C6, 0x5C6, 1), (0x61B, 0x61B, 1), (0x61D, 0x61F, 1),
    (0x6D4, 0x6D4, 1), (0x7F9, 0x7F9, 1), (0xF0D, 0xF11, 1), (0xF14, 0xF14, 1), (0x1802, 0x1803, 1),
    (0x1808, 0x1809, 1), (0x1944, 0x1945, 1), (0x2762, 0x2763, 1), (0x2CF9, 0x2CF9, 1),
    (0x2CFE, 0x2CFE, 1), (0x2E2E, 0x2E2E, 1), (0x2E53, 0x2E54, 1), (0xA60E, 0xA60E, 1),
    (0xA876, 0xA877, 1), (0xFE15, 0xFE16, 1), (0xFE56, 0xFE57, 1), (0xFF01, 0xFF01, 1),
    (0xFF1F, 0xFF1F, 1), (0x115C4, 0x115C5, 1), (0x11C71, 0x11C71, 1)]

/-- Characters that start no line. -/
def nonstarterRuns : List Run := Run.ofTriples [
    (0x17D6, 0x17D6, 1), (0x203C, 0x203D, 1), (0x2047, 0x2049, 1), (0x3005, 0x3005, 1),
    (0x301C, 0x301C, 1), (0x303B, 0x303C, 1), (0x3041, 0x3049, 2), (0x3063, 0x3063, 1),
    (0x3083, 0x3087, 2), (0x308E, 0x308E, 1), (0x3095, 0x3096, 1), (0x309B, 0x309E, 1),
    (0x30A0, 0x30A1, 1), (0x30A3, 0x30A9, 2), (0x30C3, 0x30C3, 1), (0x30E3, 0x30E7, 2),
    (0x30EE, 0x30EE, 1), (0x30F5, 0x30F6, 1), (0x30FB, 0x30FE, 1), (0x31F0, 0x31FF, 1),
    (0xA015, 0xA015, 1), (0xFE54, 0xFE55, 1), (0xFF1A, 0xFF1B, 1), (0xFF65, 0xFF65, 1),
    (0xFF67, 0xFF70, 1), (0xFF9E, 0xFF9F, 1), (0x16FE0, 0x16FE3, 1), (0x1B132, 0x1B132, 1),
    (0x1B150, 0x1B152, 1), (0x1B155, 0x1B155, 1), (0x1B164, 0x1B167, 1), (0x1F679, 0x1F67B, 1)]

def openingRuns : List Run := Run.ofTriples [
    (0x28, 0x28, 1), (0x5B, 0x5B, 1), (0x7B, 0x7B, 1), (0xA1, 0xA1, 1), (0xBF, 0xBF, 1),
    (0xF3A, 0xF3A, 1), (0xF3C, 0xF3C, 1), (0x169B, 0x169B, 1), (0x201A, 0x201A, 1),
    (0x201E, 0x201E, 1), (0x2045, 0x2045, 1), (0x207D, 0x207D, 1), (0x208D, 0x208D, 1),
    (0x2308, 0x2308, 1), (0x230A, 0x230A, 1), (0x2768, 0x2774, 2), (0x27C5, 0x27C5, 1),
    (0x27E6, 0x27EE, 2), (0x2983, 0x2997, 2), (0x29D8, 0x29D8, 1), (0x29DA, 0x29DA, 1),
    (0x29FC, 0x29FC, 1), (0x2E18, 0x2E18, 1), (0x2E22, 0x2E28, 2), (0x2E42, 0x2E42, 1),
    (0x2E55, 0x2E5B, 2), (0xFD3F, 0xFD3F, 1), (0x13258, 0x1325A, 1), (0x13286, 0x13286, 1),
    (0x13288, 0x13288, 1), (0x13379, 0x13379, 1), (0x13437, 0x13437, 1), (0x1343C, 0x1343C, 1),
    (0x1343E, 0x1343E, 1), (0x145CE, 0x145CE, 1), (0x1E95E, 0x1E95F, 1)]

/-- Opening brackets as wide as an ideograph. -/
def wideOpeningRuns : List Run := Run.ofTriples [
    (0x2329, 0x2329, 1), (0x3008, 0x3010, 2), (0x3014, 0x301A, 2), (0x301D, 0x301D, 1),
    (0xFE17, 0xFE17, 1), (0xFE35, 0xFE43, 2), (0xFE47, 0xFE47, 1), (0xFE59, 0xFE5D, 2),
    (0xFF08, 0xFF08, 1), (0xFF3B, 0xFF3B, 1), (0xFF5B, 0xFF5B, 1), (0xFF5F, 0xFF5F, 1),
    (0xFF62, 0xFF62, 1)]

/-- Quotation marks that mostly begin a quotation. -/
def initialQuotationRuns : List Run := Run.ofTriples [
    (0xAB, 0xAB, 1), (0x2018, 0x2018, 1), (0x201B, 0x201C, 1), (0x201F, 0x201F, 1),
    (0x2039, 0x2039, 1), (0x2E02, 0x2E02, 1), (0x2E04, 0x2E04, 1), (0x2E09, 0x2E09, 1),
    (0x2E0C, 0x2E0C, 1), (0x2E1C, 0x2E1C, 1), (0x2E20, 0x2E20, 1)]

/-- Quotation marks that mostly end a quotation. -/
def finalQuotationRuns : List Run := Run.ofTriples [
    (0xBB, 0xBB, 1), (0x2019, 0x2019, 1), (0x201D, 0x201D, 1), (0x203A, 0x203A, 1),
    (0x2E03, 0x2E03, 1), (0x2E05, 0x2E05, 1), (0x2E0A, 0x2E0A, 1), (0x2E0D, 0x2E0D, 1),
    (0x2E1D, 0x2E1D, 1), (0x2E21, 0x2E21, 1)]

def separatorRuns : List Run := Run.ofTriples [
    (0x2C, 0x2C, 1), (0x2E, 0x2E, 1), (0x3A, 0x3B, 1), (0x37E, 0x37E, 1), (0x589, 0x589, 1),
    (0x60C, 0x60D, 1), (0x7F8, 0x7F8, 1), (0x2044, 0x2044, 1), (0xFE10, 0xFE10, 1),
    (0xFE13, 0xFE14, 1)]

def digitRuns : List Run := Run.ofTriples [
    (0x30, 0x39, 1), (0x600, 0x605, 1), (0x660, 0x669, 1), (0x66B, 0x66C, 1), (0x6DD, 0x6DD, 1),
    (0x6F0, 0x6F9, 1), (0x7C0, 0x7C9, 1), (0x890, 0x891, 1), (0x8E2, 0x8E2, 1), (0x966, 0x96F, 1),
    (0x9E6, 0x9EF, 1), (0xA66, 0xA6F, 1), (0xAE6, 0xAEF, 1), (0xB66, 0xB6F, 1), (0xBE6, 0xBEF, 1),
    (0xC66, 0xC6F, 1), (0xCE6, 0xCEF, 1), (0xD66, 0xD6F, 1), (0xDE6, 0xDEF, 1), (0xE50, 0xE59, 1),
    (0xED0, 0xED9, 1), (0xF20, 0xF29, 1), (0x1040, 0x1049, 1), (0x1090, 0x1099, 1),
    (0x17E0, 0x17E9, 1), (0x1810, 0x1819, 1), (0x1946, 0x194F, 1), (0x19D0, 0x19D9, 1),
    (0x1A80, 0x1A89, 1), (0x1A90, 0x1A99, 1), (0x1BB0, 0x1BB9, 1), (0x1C40, 0x1C49, 1),
    (0x1C50, 0x1C59, 1), (0xA620, 0xA629, 1), (0xA8D0, 0xA8D9, 1), (0xA900, 0xA909, 1),
    (0xA9F0, 0xA9F9, 1), (0xABF0, 0xABF9, 1), (0x104A0, 0x104A9, 1), (0x10D30, 0x10D39, 1),
    (0x110BD, 0x110BD, 1), (0x110CD, 0x110CD, 1), (0x110F0, 0x110F9, 1), (0x11136, 0x1113F, 1),
    (0x111D0, 0x111D9, 1), (0x112F0, 0x112F9, 1), (0x11450, 0x11459, 1), (0x114D0, 0x114D9, 1),
    (0x11650, 0x11659, 1), (0x116C0, 0x116C9, 1), (0x11730, 0x11739, 1), (0x118E0, 0x118E9, 1),
    (0x11C50, 0x11C59, 1), (0x11D50, 0x11D59, 1), (0x11DA0, 0x11DA9, 1), (0x16A60, 0x16A69, 1),
    (0x16AC0, 0x16AC9, 1), (0x16B50, 0x16B59, 1), (0x1D7CE, 0x1D7FF, 1), (0x1E140, 0x1E149, 1),
    (0x1E2F0, 0x1E2F9, 1), (0x1E4F0, 0x1E4F9, 1), (0x1E950, 0x1E959, 1), (0x1FBF0, 0x1FBF9, 1)]

/-- Units behind a number. -/
def behindNumberRuns : List Run := Run.ofTriples [
    (0x25, 0x25, 1), (0xA2, 0xA2, 1), (0xB0, 0xB0, 1), (0x609, 0x60B, 1), (0x66A, 0x66A, 1),
    (0x9F2, 0x9F3, 1), (0x9F9, 0x9F9, 1), (0xD79, 0xD79, 1), (0x2030, 0x2037, 1),
    (0x2057, 0x2057, 1), (0x20A7, 0x20A7, 1), (0x20B6, 0x20B6, 1), (0x20BB, 0x20BB, 1),
    (0x20BE, 0x20BE, 1), (0x20C0, 0x20C0, 1), (0x2103, 0x2103, 1), (0x2109, 0x2109, 1),
    (0xA838, 0xA838, 1), (0xFDFC, 0xFDFC, 1), (0xFE6A, 0xFE6A, 1), (0xFF05, 0xFF05, 1),
    (0xFFE0, 0xFFE0, 1), (0x11FDD, 0x11FE0, 1), (0x1ECAC, 0x1ECAC, 1), (0x1ECB0, 0x1ECB0, 1)]

/-- Units in front of a number. -/
def beforeNumberRuns : List Run := Run.ofTriples [
    (0x24, 0x24, 1), (0x2B, 0x2B, 1), (0x5C, 0x5C, 1), (0xA3, 0xA5, 1), (0xB1, 0xB1, 1),
    (0x58F, 0x58F, 1), (0x7FE, 0x7FF, 1), (0x9FB, 0x9FB, 1), (0xAF1, 0xAF1, 1), (0xBF9, 0xBF9, 1),
    (0xE3F, 0xE3F, 1), (0x17DB, 0x17DB, 1), (0x20A0, 0x20A6, 1), (0x20A8, 0x20B5, 1),
    (0x20B7, 0x20BA, 1), (0x20BC, 0x20BD, 1), (0x20BF, 0x20BF, 1), (0x20C1, 0x20CF, 1),
    (0x2116, 0x2116, 1), (0x2212, 0x2213, 1), (0xFE69, 0xFE69, 1), (0xFF04, 0xFF04, 1),
    (0xFFE1, 0xFFE1, 1), (0xFFE5, 0xFFE6, 1), (0x1E2FF, 0x1E2FF, 1)]

def hebrewLetterRuns : List Run := Run.ofTriples [
    (0x5D0, 0x5EA, 1), (0x5EF, 0x5F2, 1), (0xFB1D, 0xFB1D, 1), (0xFB1F, 0xFB28, 1),
    (0xFB2A, 0xFB36, 1), (0xFB38, 0xFB3C, 1), (0xFB3E, 0xFB3E, 1), (0xFB40, 0xFB41, 1),
    (0xFB43, 0xFB44, 1), (0xFB46, 0xFB4F, 1)]

/-- Letters of scripts that are written in syllables. -/
def aksaraRuns : List Run := Run.ofTriples [
    (0x1B05, 0x1B33, 1), (0x1B45, 0x1B4C, 1), (0xA984, 0xA9B2, 1), (0x11005, 0x11037, 1),
    (0x11071, 0x11072, 1), (0x11075, 0x11075, 1), (0x11305, 0x1130C, 1), (0x1130F, 0x11310, 1),
    (0x11313, 0x11328, 1), (0x1132A, 0x11330, 1), (0x11332, 0x11333, 1), (0x11335, 0x11339, 1),
    (0x11360, 0x11361, 1), (0x11900, 0x11906, 1), (0x11909, 0x11909, 1), (0x1190C, 0x11913, 1),
    (0x11915, 0x11916, 1), (0x11918, 0x1192F, 1), (0x11F04, 0x11F10, 1), (0x11F12, 0x11F33, 1)]

/-- Such letters that no virama joins to the one before. -/
def aksaraStartRuns : List Run := Run.ofTriples [
    (0x1B50, 0x1B59, 1), (0x1BC0, 0x1BE5, 1), (0xA9D0, 0xA9D9, 1), (0xAA00, 0xAA28, 1),
    (0xAA50, 0xAA59, 1), (0x11066, 0x1106F, 1), (0x11350, 0x11350, 1), (0x1135E, 0x1135F, 1),
    (0x11950, 0x11959, 1), (0x11EE0, 0x11EF1, 1), (0x11F50, 0x11F59, 1)]

/-- Ideographs, and pictographs that behave like them. -/
def ideographRuns : List Run := Run.ofTriples [
    (0x1B5C, 0x1B5C, 1), (0x1B61, 0x1B6A, 1), (0x1B74, 0x1B7C, 1), (0x231A, 0x231B, 1),
    (0x23F0, 0x23F3, 1), (0x2600, 0x2603, 1), (0x2614, 0x2615, 1), (0x2618, 0x2618, 1),
    (0x261A, 0x261C, 1), (0x261E, 0x261F, 1), (0x2639, 0x263B, 1), (0x2668, 0x2668, 1),
    (0x267F, 0x267F, 1), (0x26BD, 0x26C8, 1), (0x26CD, 0x26CD, 1), (0x26CF, 0x26D1, 1),
    (0x26D3, 0x26D4, 1), (0x26D8, 0x26D9, 1), (0x26DC, 0x26DC, 1), (0x26DF, 0x26E1, 1),
    (0x26EA, 0x26EA, 1), (0x26F1, 0x26F5, 1), (0x26F7, 0x26F8, 1), (0x26FA, 0x26FA, 1),
    (0x26FD, 0x2704, 1), (0x2708, 0x2709, 1), (0x2764, 0x2764, 1), (0x2E80, 0x2E99, 1),
    (0x2E9B, 0x2EF3, 1), (0x2F00, 0x2FD5, 1), (0x2FF0, 0x2FFF, 1), (0x3003, 0x3004, 1),
    (0x3006, 0x3007, 1), (0x3012, 0x3013, 1), (0x3020, 0x3029, 1), (0x3030, 0x3034, 1),
    (0x3036, 0x303A, 1), (0x303D, 0x303F, 1), (0x3042, 0x3048, 2), (0x304A, 0x3062, 1),
    (0x3064, 0x3082, 1), (0x3084, 0x3084, 1), (0x3086, 0x3086, 1), (0x3088, 0x308D, 1),
    (0x308F, 0x3094, 1), (0x309F, 0x309F, 1), (0x30A2, 0x30A8, 2), (0x30AA, 0x30C2, 1),
    (0x30C4, 0x30E2, 1), (0x30E4, 0x30E4, 1), (0x30E6, 0x30E6, 1), (0x30E8, 0x30ED, 1),
    (0x30EF, 0x30F4, 1), (0x30F7, 0x30FA, 1), (0x30FF, 0x30FF, 1), (0x3105, 0x312F, 1),
    (0x3131, 0x318E, 1), (0x3190, 0x31E3, 1), (0x31EF, 0x31EF, 1), (0x3200, 0x321E, 1),
    (0x3220, 0x3247, 1), (0x3250, 0x4DBF, 1), (0x4E00, 0xA014, 1), (0xA016, 0xA48C, 1),
    (0xA490, 0xA4C6, 1), (0xA9C1, 0xA9C6, 1), (0xA9CA, 0xA9CD, 1), (0xA9DE, 0xA9DF, 1),
    (0xAA5C, 0xAA5C, 1), (0xF900, 0xFAFF, 1), (0xFE30, 0xFE34, 1), (0xFE45, 0xFE46, 1),
    (0xFE49, 0xFE4F, 1), (0xFE51, 0xFE51, 1), (0xFE58, 0xFE58, 1), (0xFE5F, 0xFE66, 1),
    (0xFE68, 0xFE68, 1), (0xFE6B, 0xFE6B, 1), (0xFF02, 0xFF03, 1), (0xFF06, 0xFF07, 1),
    (0xFF0A, 0xFF0B, 1), (0xFF0D, 0xFF0D, 1), (0xFF0F, 0xFF19, 1), (0xFF1C, 0xFF1E, 1),
    (0xFF20, 0xFF3A, 1), (0xFF3C, 0xFF3C, 1), (0xFF3E, 0xFF5A, 1), (0xFF5C, 0xFF5C, 1),
    (0xFF5E, 0xFF5E, 1), (0xFF66, 0xFF66, 1), (0xFF71, 0xFF9D, 1), (0xFFA0, 0xFFBE, 1),
    (0xFFC2, 0xFFC7, 1), (0xFFCA, 0xFFCF, 1), (0xFFD2, 0xFFD7, 1), (0xFFDA, 0xFFDC, 1),
    (0xFFE2, 0xFFE4, 1), (0x11049, 0x1104D, 1), (0x11052, 0x11065, 1), (0x11F45, 0x11F4F, 1),
    (0x17000, 0x187F7, 1), (0x18800, 0x18AFF, 1), (0x18D00, 0x18D08, 1), (0x1B000, 0x1B122, 1),
    (0x1B170, 0x1B2FB, 1), (0x1F000, 0x1F02B, 1), (0x1F030, 0x1F093, 1), (0x1F0A0, 0x1F0AE, 1),
    (0x1F0B1, 0x1F0BF, 1), (0x1F0C1, 0x1F0CF, 1), (0x1F0D1, 0x1F0F5, 1), (0x1F10D, 0x1F10F, 1),
    (0x1F16D, 0x1F16F, 1), (0x1F1AD, 0x1F1AD, 1), (0x1F200, 0x1F202, 1), (0x1F210, 0x1F23B, 1),
    (0x1F240, 0x1F248, 1), (0x1F250, 0x1F251, 1), (0x1F260, 0x1F265, 1), (0x1F300, 0x1F384, 1),
    (0x1F386, 0x1F39B, 1), (0x1F39E, 0x1F3B4, 1), (0x1F3B7, 0x1F3BB, 1), (0x1F3BD, 0x1F3C1, 1),
    (0x1F3C5, 0x1F3C6, 1), (0x1F3C8, 0x1F3C9, 1), (0x1F3CD, 0x1F3FA, 1), (0x1F400, 0x1F441, 1),
    (0x1F444, 0x1F445, 1), (0x1F451, 0x1F465, 1), (0x1F479, 0x1F47B, 1), (0x1F47D, 0x1F480, 1),
    (0x1F484, 0x1F484, 1), (0x1F488, 0x1F48E, 1), (0x1F490, 0x1F490, 1), (0x1F492, 0x1F49F, 1),
    (0x1F4A1, 0x1F4A1, 1), (0x1F4A3, 0x1F4A3, 1), (0x1F4A5, 0x1F4A9, 1), (0x1F4AB, 0x1F4AE, 1),
    (0x1F4B0, 0x1F4B0, 1), (0x1F4B3, 0x1F4FF, 1), (0x1F507, 0x1F516, 1), (0x1F525, 0x1F531, 1),
    (0x1F54A, 0x1F573, 1), (0x1F576, 0x1F579, 1), (0x1F57B, 0x1F58F, 1), (0x1F591, 0x1F594, 1),
    (0x1F597, 0x1F5D3, 1), (0x1F5DC, 0x1F5F3, 1), (0x1F5FA, 0x1F644, 1), (0x1F648, 0x1F64A, 1),
    (0x1F680, 0x1F6A2, 1), (0x1F6A4, 0x1F6B3, 1), (0x1F6B7, 0x1F6BF, 1), (0x1F6C1, 0x1F6CB, 1),
    (0x1F6CD, 0x1F6D7, 1), (0x1F6DC, 0x1F6EC, 1), (0x1F6F0, 0x1F6FC, 1), (0x1F774, 0x1F776, 1),
    (0x1F77B, 0x1F77F, 1), (0x1F7D5, 0x1F7D9, 1), (0x1F7E0, 0x1F7EB, 1), (0x1F7F0, 0x1F7F0, 1),
    (0x1F8B0, 0x1F8B1, 1), (0x1F90D, 0x1F90E, 1), (0x1F910, 0x1F917, 1), (0x1F920, 0x1F925, 1),
    (0x1F927, 0x1F92F, 1), (0x1F93A, 0x1F93B, 1), (0x1F93F, 0x1F976, 1), (0x1F978, 0x1F9B4, 1),
    (0x1F9B7, 0x1F9B7, 1), (0x1F9BA, 0x1F9BA, 1), (0x1F9BC, 0x1F9CC, 1), (0x1F9D0, 0x1F9D0, 1),
    (0x1F9DE, 0x1F9FF, 1), (0x1FA60, 0x1FA6D, 1), (0x1FA70, 0x1FA7C, 1), (0x1FA80, 0x1FA88, 1),
    (0x1FA90, 0x1FABD, 1), (0x1FABF, 0x1FAC2, 1), (0x1FACE, 0x1FADB, 1), (0x1FAE0, 0x1FAE8, 1),
    (0x20000, 0x2FFFD, 1), (0x30000, 0x3FFFD, 1)]

/-- Code points that are kept free for pictographs. -/
def reservedPictographRuns : List Run := Run.ofTriples [
    (0x1F02C, 0x1F02F, 1), (0x1F094, 0x1F09F, 1), (0x1F0AF, 0x1F0B0, 1), (0x1F0C0, 0x1F0C0, 1),
    (0x1F0D0, 0x1F0D0, 1), (0x1F0F6, 0x1F0FF, 1), (0x1F1AE, 0x1F1E5, 1), (0x1F203, 0x1F20F, 1),
    (0x1F23C, 0x1F23F, 1), (0x1F249, 0x1F24F, 1), (0x1F252, 0x1F25F, 1), (0x1F266, 0x1F2FF, 1),
    (0x1F6D8, 0x1F6DB, 1), (0x1F6ED, 0x1F6EF, 1), (0x1F6FD, 0x1F6FF, 1), (0x1F777, 0x1F77A, 1),
    (0x1F7DA, 0x1F7DF, 1), (0x1F7EC, 0x1F7EF, 1), (0x1F7F1, 0x1F7FF, 1), (0x1F80C, 0x1F80F, 1),
    (0x1F848, 0x1F84F, 1), (0x1F85A, 0x1F85F, 1), (0x1F888, 0x1F88F, 1), (0x1F8AE, 0x1F8AF, 1),
    (0x1F8B2, 0x1F8FF, 1), (0x1FA54, 0x1FA5F, 1), (0x1FA6E, 0x1FA6F, 1), (0x1FA7D, 0x1FA7F, 1),
    (0x1FA89, 0x1FA8F, 1), (0x1FABE, 0x1FABE, 1), (0x1FAC6, 0x1FACD, 1), (0x1FADC, 0x1FADF, 1),
    (0x1FAE9, 0x1FAEF, 1), (0x1FAF9, 0x1FAFF, 1), (0x1FC00, 0x1FFFD, 1)]

/-- Pictographs of people, which may have a colour of skin. -/
def emojiBaseRuns : List Run := Run.ofTriples [
    (0x261D, 0x261D, 1), (0x26F9, 0x26F9, 1), (0x270A, 0x270D, 1), (0x1F385, 0x1F385, 1),
    (0x1F3C2, 0x1F3C4, 1), (0x1F3C7, 0x1F3C7, 1), (0x1F3CA, 0x1F3CC, 1), (0x1F442, 0x1F443, 1),
    (0x1F446, 0x1F450, 1), (0x1F466, 0x1F478, 1), (0x1F47C, 0x1F47C, 1), (0x1F481, 0x1F483, 1),
    (0x1F485, 0x1F487, 1), (0x1F48F, 0x1F48F, 1), (0x1F491, 0x1F491, 1), (0x1F4AA, 0x1F4AA, 1),
    (0x1F574, 0x1F575, 1), (0x1F57A, 0x1F57A, 1), (0x1F590, 0x1F590, 1), (0x1F595, 0x1F596, 1),
    (0x1F645, 0x1F647, 1), (0x1F64B, 0x1F64F, 1), (0x1F6A3, 0x1F6A3, 1), (0x1F6B4, 0x1F6B6, 1),
    (0x1F6C0, 0x1F6C0, 1), (0x1F6CC, 0x1F6CC, 1), (0x1F90C, 0x1F90C, 1), (0x1F90F, 0x1F90F, 1),
    (0x1F918, 0x1F91F, 1), (0x1F926, 0x1F926, 1), (0x1F930, 0x1F939, 1), (0x1F93C, 0x1F93E, 1),
    (0x1F977, 0x1F977, 1), (0x1F9B5, 0x1F9B6, 1), (0x1F9B8, 0x1F9B9, 1), (0x1F9BB, 0x1F9BB, 1),
    (0x1F9CD, 0x1F9CF, 1), (0x1F9D1, 0x1F9DD, 1), (0x1FAC3, 0x1FAC5, 1), (0x1FAF0, 0x1FAF8, 1)]

/-- The code points of all classes but that of letters and those of Korean syllables. -/
def lineBreakRuns : List (LineBreakClass × List Run) := [
    (.mandatory, Run.ofTriples [(0xB, 0xC, 1), (0x2028, 0x2029, 1)]),
    (.carriageReturn, Run.ofTriples [(0xD, 0xD, 1)]),
    (.lineFeed, Run.ofTriples [(0xA, 0xA, 1)]),
    (.nextLine, Run.ofTriples [(0x85, 0x85, 1)]),
    (.space, Run.ofTriples [(0x20, 0x20, 1)]),
    (.zeroWidthSpace, Run.ofTriples [(0x200B, 0x200B, 1)]),
    (.zeroWidthJoiner, Run.ofTriples [(0x200D, 0x200D, 1)]),
    (.wordJoiner, Run.ofTriples [(0x2060, 0x2060, 1), (0xFEFF, 0xFEFF, 1)]),
    (.glue, glueRuns),
    (.combiningMark, combiningMarkRuns),
    (.opportunityAfter, opportunityAfterRuns),
    (.opportunityBefore, opportunityBeforeRuns),
    (.opportunityAround, Run.ofTriples [(0x2014, 0x2014, 1), (0x2E3A, 0x2E3B, 1)]),
    (.hyphen, Run.ofTriples [(0x2D, 0x2D, 1)]),
    (.contingent, Run.ofTriples [(0xFFFC, 0xFFFC, 1)]),
    (.closing, closingRuns),
    (.closingParenthesis, Run.ofTriples [(0x29, 0x29, 1), (0x5D, 0x5D, 1)]),
    (.exclamation, exclamationRuns),
    (.inseparable, Run.ofTriples [
      (0x2024, 0x2026, 1), (0x22EF, 0x22EF, 1), (0xFE19, 0xFE19, 1), (0x10AF6, 0x10AF6, 1)]),
    (.nonstarter, nonstarterRuns),
    (.opening, openingRuns),
    (.wideOpening, wideOpeningRuns),
    (.initialQuotation, initialQuotationRuns),
    (.finalQuotation, finalQuotationRuns),
    (.quotation, Run.ofTriples [
      (0x22, 0x22, 1), (0x27, 0x27, 1), (0x275B, 0x2760, 1), (0x2E00, 0x2E01, 1),
      (0x2E06, 0x2E08, 1), (0x2E0B, 0x2E0B, 1), (0x1F676, 0x1F678, 1)]),
    (.separator, separatorRuns),
    (.digit, digitRuns),
    (.behindNumber, behindNumberRuns),
    (.beforeNumber, beforeNumberRuns),
    (.solidus, Run.ofTriples [(0x2F, 0x2F, 1)]),
    (.hebrewLetter, hebrewLetterRuns),
    (.aksara, aksaraRuns),
    (.aksaraStart, aksaraStartRuns),
    (.aksaraPrebase, Run.ofTriples [
      (0x11003, 0x11004, 1), (0x1193F, 0x1193F, 1), (0x11941, 0x11941, 1), (0x11F02, 0x11F02, 1)]),
    (.virama, Run.ofTriples [
      (0x1B44, 0x1B44, 1), (0xA9C0, 0xA9C0, 1), (0x11046, 0x11046, 1), (0x1134D, 0x1134D, 1),
      (0x1193E, 0x1193E, 1), (0x11F42, 0x11F42, 1)]),
    (.viramaFinal, Run.ofTriples [(0x1BF2, 0x1BF3, 1)]),
    (.dottedCircle, Run.ofTriples [(0x25CC, 0x25CC, 1)]),
    (.ideograph, ideographRuns),
    (.reservedPictograph, reservedPictographRuns),
    (.emojiBase, emojiBaseRuns),
    (.emojiModifier, Run.ofTriples [(0x1F3FB, 0x1F3FF, 1)]),
    (.regionalIndicator, Run.ofTriples [(0x1F1E6, 0x1F1FF, 1)]),
    (.leadingJamo, Run.ofTriples [(0x1100, 0x115F, 1), (0xA960, 0xA97C, 1)]),
    (.vowelJamo, Run.ofTriples [(0x1160, 0x11A7, 1), (0xD7B0, 0xD7C6, 1)]),
    (.trailingJamo, Run.ofTriples [(0x11A8, 0x11FF, 1), (0xD7CB, 0xD7FB, 1)])]

def firstSyllable : Nat := 0xAC00

def lastSyllable : Nat := 0xD7A3

/-- The number of syllables that differ in their last consonant only, of which the first has
none. -/
def syllablesPerVowel : Nat := 28

def lineBreakClass (c : Char) : LineBreakClass :=
  let code := c.toNat
  if c.isAlpha then .alphabetic
  else if firstSyllable ≤ code && code ≤ lastSyllable then
    if (code - firstSyllable) % syllablesPerVowel = 0 then .openSyllable else .closedSyllable
  else
    match lineBreakRuns.find? fun (_, runs) => runs.any (·.contains code) with
    | some (found, _) => found
    | none => .alphabetic

end ODataClient.Unicode
