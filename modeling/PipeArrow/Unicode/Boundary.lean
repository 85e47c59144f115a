import PipeArrow.Unicode.Property
import PipeArrow.Unicode.Script

namespace PipeArrow.Unicode

def zeroWidthJoiner : Char := '\u200d'

/-- Signs in front of a number, which belong to it. -/
def numberSign (c : Char) : Bool :=
  Listed.prependedConcatenationMark.has c && c.toNat ≠ 0x70F

namespace GraphemeBreak

def extend (c : Char) : Bool := graphemeExtend c || Listed.emojiModifier.has c

def control (c : Char) : Bool :=
  (hasCategory [.lineSeparator, .paragraphSeparator, .control, .format] c ||
    generalCategory c = .unassigned && defaultIgnorable c) &&
  !(c = '\r' || c = '\n' || c = zeroWidthJoiner || graphemeExtend c ||
    Listed.prependedConcatenationMark.has c)

/-- Letters that join the letter behind them. -/
def prefixedLetter : CodeSet := .ofLines [
  "D4E D4F 111C2 111C4 113D1 113D2 1193F 11940 11941 11942 11A3A 11A3B 11A84 11A8A 11D46 11D47",
  "11F02 11F03"]

def prepend (c : Char) : Bool :=
  Listed.prependedConcatenationMark.has c || prefixedLetter.has c

/-- Spacing marks that stand apart from the letter before them. -/
def detachedMark : CodeSet := .ofLines [
  "102B 102D 1038 1039 1062 1065 1067 106E 1083 1084 1087 108D 108F 1090 109A 109D 1A61 1A62 1A63",
  "1A65 AA7B AA7C AA7D AA7E 11720 11722"]

def spacingMark (c : Char) : Bool :=
  (generalCategory c = .spacingMark || c.toNat = 0xE33 || c.toNat = 0xEB3) &&
  !(graphemeExtend c || detachedMark.has c)

def leadingConsonant (c : Char) : Bool :=
  let n := c.toNat
  (0x1100 ≤ n && n ≤ 0x115F) || (0xA960 ≤ n && n ≤ 0xA97C)

def vowel (c : Char) : Bool :=
  let n := c.toNat
  (0x1160 ≤ n && n ≤ 0x11A7) || (0xD7B0 ≤ n && n ≤ 0xD7C6) || n = 0x16D63 ||
  (0x16D67 ≤ n && n ≤ 0x16D6A)

def trailingConsonant (c : Char) : Bool :=
  let n := c.toNat
  (0x11A8 ≤ n && n ≤ 0x11FF) || (0xD7CB ≤ n && n ≤ 0xD7FB)

/-- Syllables stand in groups of 28, by the consonant that closes them; the first of a group has
none. -/
def syllable (c : Char) : Bool := 0xAC00 ≤ c.toNat && c.toNat ≤ 0xD7A3

def openSyllable (c : Char) : Bool := syllable c && (c.toNat - 0xAC00) % 28 = 0

def closedSyllable (c : Char) : Bool := syllable c && (c.toNat - 0xAC00) % 28 ≠ 0

end GraphemeBreak

namespace WordBreak

def extend (c : Char) : Bool :=
  graphemeExtend c || generalCategory c = .spacingMark || Listed.emojiModifier.has c

def format (c : Char) : Bool :=
  generalCategory c = .format && c.toNat ≠ 0x200B && c ≠ zeroWidthJoiner && !graphemeExtend c &&
  !Listed.prependedConcatenationMark.has c

def kanaMark : CodeSet := .ofLines ["3031 3036 309B 309D 30A0 30A1 30FC 30FD FF70 FF71"]

def katakana (c : Char) : Bool := script c = "Kana" || kanaMark.has c

def hebrewLetter (c : Char) : Bool := script c = "Hebr" && generalCategory c = .otherLetter

/-- Signs that stand in words and are not alphabetic. -/
def letterSign : CodeSet := .ofLines [
  "B8 B9 2C2 2C6 2D2 2D8 2DE 2E0 2E5 2EC 2ED 2EE 2EF 300 55A 55D 55E 55F 58A 58B 5F3 5F4 70F 710",
  "A708 A717 A720 A722 A789 A78B AB5B AB5C"]

/-- Letters of words. Scripts without spaces between words have none. -/
def letter (c : Char) : Bool :=
  letterSign.has c ||
  alphabetic c && script c ≠ "Hira" &&
    !(Listed.ideographic.has c || Listed.complexContext.has c || katakana c || extend c ||
      hebrewLetter c)

def numeric (c : Char) : Bool :=
  decimalDigit c || numberSign c || c.toNat = 0x66B || c.toNat = 0x19DA

def connector (c : Char) : Bool := generalCategory c = .connectorPunctuation || c.toNat = 0x202F

def midLetter : CodeSet := .ofLines [
  "3A 3B B7 B8 387 388 55F 560 5F4 5F5 2027 2028 FE13 FE14 FE55 FE56 FF1A FF1B"]

def midNumber : CodeSet := .ofLines [
  "2C 2D 3B 3C 37E 37F 589 58A 60C 60E 66C 66D 7F8 7F9 2044 2045 FE50 FE51 FE54 FE55 FF0C FF0D",
  "FF1B FF1C"]

/-- Signs that stand inside words as well as inside numbers. -/
def midEither : CodeSet := .ofLines ["2E 2F 2018 201A 2024 2025 FE52 FE53 FF07 FF08 FF0E FF0F"]

def newline (c : Char) : Bool :=
  let n := c.toNat
  n = 0xB || n = 0xC || n = 0x85 || n = 0x2028 || n = 0x2029

/-- Spaces that a line may end at. -/
def space (c : Char) : Bool :=
  generalCategory c = .spaceSeparator && !([0xA0, 0x2007, 0x202F].contains c.toNat)

end WordBreak

namespace SentenceBreak

def extend (c : Char) : Bool :=
  graphemeExtend c || generalCategory c = .spacingMark || c = zeroWidthJoiner

def separator (c : Char) : Bool :=
  let n := c.toNat
  n = 0x85 || n = 0x2028 || n = 0x2029

def space (c : Char) : Bool := whiteSpace c && !(c = '\r' || c = '\n' || separator c)

def format (c : Char) : Bool := generalCategory c = .format && !(extend c || numberSign c)

/-- Georgian letters, whose case says nothing about sentences. -/
def caseless : CodeSet := .ofLines ["10D0 10FB 10FD 1100 1C90 1CBB 1CBD 1CC0"]

def lower (c : Char) : Bool := lowercase c && !(graphemeExtend c || caseless.has c)

def upper (c : Char) : Bool :=
  (uppercase c || generalCategory c = .titlecaseLetter) && !caseless.has c

def otherLetter (c : Char) : Bool :=
  (alphabetic c || c.toNat = 0x5F3) && !(lower c || upper c || extend c)

def numeric (c : Char) : Bool := WordBreak.numeric c || c.toNat = 0x66C

/-- Full stops, which may also end an abbreviation or stand in a number. -/
def fullStop : CodeSet := .ofLines ["2E 2F 2024 2025 FE52 FE53 FF0E FF0F"]

def terminator (c : Char) : Bool := Listed.sentenceTerminal.has c && !fullStop.has c

/-- Signs behind which a sentence goes on. -/
def continues : CodeSet := .ofLines [
  "2C 2E 3A 3C 37E 37F 55D 55E 60C 60E 7F8 7F9 1802 1803 1808 1809 2013 2015 3001 3002 FE10 FE12",
  "FE13 FE15 FE31 FE33 FE50 FE52 FE54 FE56 FE58 FE59 FE63 FE64 FF0C FF0E FF1A FF1C FF64 FF65"]

/-- Quotation marks without a side. -/
def plainQuote : CodeSet := .ofLines [
  "22 23 27 28 275B 2761 2E00 2E02 2E06 2E09 2E0B 2E0C 1F676 1F679"]

def close (c : Char) : Bool :=
  hasCategory [.openPunctuation, .closePunctuation, .initialPunctuation, .finalPunctuation] c ||
  plainQuote.has c

end SentenceBreak

end PipeArrow.Unicode
