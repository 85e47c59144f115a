import PipeArrow.Unicode.GeneralCategory
import PipeArrow.Unicode.Listed
import PipeArrow.Unicode.Script

namespace PipeArrow.Unicode

abbrev Property := Char → Bool

def hasCategory (categories : List GeneralCategory) : Property :=
  fun c => categories.contains (generalCategory c)

/-- Characters that show as blank space or end a line. -/
def whiteSpace (c : Char) : Bool :=
  let n := c.toNat
  (9 ≤ n && n ≤ 13) || n == 0x20 || n == 0x85 || n == 0xA0 || n == 0x1680 ||
  (0x2000 ≤ n && n ≤ 0x200A) || n == 0x2028 || n == 0x2029 || n == 0x202F || n == 0x205F ||
  n == 0x3000

def lowercase (c : Char) : Bool :=
  generalCategory c = .lowercaseLetter || Listed.otherLowercase.has c

def uppercase (c : Char) : Bool :=
  generalCategory c = .uppercaseLetter || Listed.otherUppercase.has c

def cased (c : Char) : Bool := lowercase c || uppercase c || generalCategory c = .titlecaseLetter

def alphabetic (c : Char) : Bool :=
  cased c || hasCategory [.modifierLetter, .otherLetter, .letterNumber] c ||
  Listed.otherAlphabetic.has c

def decimalDigit (c : Char) : Bool := generalCategory c = .decimalNumber

def numeric (c : Char) : Bool := hasCategory [.decimalNumber, .letterNumber, .otherNumber] c

def mark (c : Char) : Bool := hasCategory [.nonspacingMark, .spacingMark, .enclosingMark] c

/-- The characters of words. -/
def wordCharacter (c : Char) : Bool :=
  alphabetic c || mark c || hasCategory [.decimalNumber, .connectorPunctuation] c ||
  Listed.joinControl.has c

def graphemeExtend (c : Char) : Bool :=
  hasCategory [.enclosingMark, .nonspacingMark] c || Listed.otherGraphemeExtend.has c

def graphemeBase (c : Char) : Bool :=
  !hasCategory [.control, .format, .surrogate, .privateUse, .unassigned, .lineSeparator,
    .paragraphSeparator] c && !graphemeExtend c

def pattern (c : Char) : Bool := Listed.patternSyntax.has c || Listed.patternWhiteSpace.has c

def letter (c : Char) : Bool :=
  hasCategory [.uppercaseLetter, .lowercaseLetter, .titlecaseLetter, .modifierLetter,
    .otherLetter] c

def idStart (c : Char) : Bool :=
  (letter c || generalCategory c = .letterNumber || Listed.otherIDStart.has c) && !pattern c

def idContinue (c : Char) : Bool :=
  idStart c ||
  (hasCategory [.nonspacingMark, .spacingMark, .decimalNumber, .connectorPunctuation] c ||
    Listed.otherIDContinue.has c) && !pattern c

def xidStart (c : Char) : Bool := idStart c && !Listed.compatibilityStart.has c

def xidContinue (c : Char) : Bool := idContinue c && !Listed.compatibilityContinue.has c

def caseIgnorable (c : Char) : Bool :=
  hasCategory [.nonspacingMark, .enclosingMark, .format, .modifierLetter, .modifierSymbol] c ||
  Listed.midWord.has c

def changesWhenLowercased (c : Char) : Bool :=
  Listed.changesWhenCasemapped.has c && (uppercase c || generalCategory c = .titlecaseLetter)

def changesWhenUppercased (c : Char) : Bool :=
  Listed.changesWhenCasemapped.has c && (lowercase c || generalCategory c = .titlecaseLetter)

def changesWhenTitlecased (c : Char) : Bool :=
  changesWhenUppercased c ^^ Listed.titlecaseStable.has c

def changesWhenCasefolded (c : Char) : Bool :=
  changesWhenLowercased c ^^ Listed.foldedVariants.has c

def math (c : Char) : Bool := generalCategory c = .mathSymbol || Listed.otherMath.has c

/-- Characters that leave no trace when a font lacks them. -/
def defaultIgnorable (c : Char) : Bool :=
  (Listed.otherDefaultIgnorableCodePoint.has c || generalCategory c = .format ||
    Listed.variationSelector.has c) &&
  !(Listed.prependedConcatenationMark.has c || (0xFFF9 ≤ c.toNat && c.toNat ≤ 0xFFFB) ||
    (0x13430 ≤ c.toNat && c.toNat ≤ 0x1343F))

end PipeArrow.Unicode
