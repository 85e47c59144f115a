import PipeArrow.Unicode.Age
import PipeArrow.Unicode.Boundary
import PipeArrow.Unicode.Script

namespace PipeArrow.Unicode

abbrev PropertyTable := List (List String × Property)

def PropertyTable.named? (table : PropertyTable) (name : String) : Option Property :=
  (table.find? (·.1.contains name)).map (·.2)

def binaryProperties : PropertyTable := [
  (["asciihexdigit", "ahex"], Listed.asciiHexDigit.has),
  (["alphabetic", "alpha"], alphabetic),
  (["bidicontrol", "bidic"], Listed.bidiControl.has),
  (["bidimirrored", "bidim"], Listed.bidiMirrored.has),
  (["caseignorable", "ci"], caseIgnorable),
  (["cased"], cased),
  (["changeswhencasefolded", "cwcf"], changesWhenCasefolded),
  (["changeswhencasemapped", "cwcm"], Listed.changesWhenCasemapped.has),
  (["changeswhenlowercased", "cwl"], changesWhenLowercased),
  (["changeswhentitlecased", "cwt"], changesWhenTitlecased),
  (["changeswhenuppercased", "cwu"], changesWhenUppercased),
  (["dash"], Listed.dash.has),
  (["defaultignorablecodepoint", "di"], defaultIgnorable),
  (["deprecated", "dep"], Listed.deprecated.has),
  (["diacritic", "dia"], Listed.diacritic.has),
  (["emoji"], Listed.emoji.has),
  (["emojicomponent", "ecomp"], Listed.emojiComponent.has),
  (["emojimodifier", "emod"], Listed.emojiModifier.has),
  (["emojimodifierbase", "ebase"], Listed.emojiModifierBase.has),
  (["emojipresentation", "epres"], Listed.emojiPresentation.has),
  (["extendedpictographic", "extpict"], Listed.extendedPictographic.has),
  (["extender", "ext"], Listed.extender.has),
  (["graphemebase", "grbase"], graphemeBase),
  (["graphemeextend", "grext"], graphemeExtend),
  (["graphemelink", "grlink"], Listed.graphemeLink.has),
  (["hexdigit", "hex"], Listed.hexDigit.has),
  (["hyphen"], Listed.hyphen.has),
  (["idsbinaryoperator", "idsb"], Listed.idsBinaryOperator.has),
  (["idstrinaryoperator", "idst"], Listed.idsTrinaryOperator.has),
  (["idsunaryoperator", "idsu"], Listed.idsUnaryOperator.has),
  (["idcompatmathcontinue"], Listed.idCompatMathContinue.has),
  (["idcompatmathstart"], Listed.idCompatMathStart.has),
  (["idcontinue", "idc"], idContinue),
  (["idstart", "ids"], idStart),
  (["ideographic", "ideo"], Listed.ideographic.has),
  (["joincontrol", "joinc"], Listed.joinControl.has),
  (["logicalorderexception", "loe"], Listed.logicalOrderException.has),
  (["lowercase", "lower"], lowercase),
  (["math"], math),
  (["modifiercombiningmark", "mcm"], Listed.modifierCombiningMark.has),
  (["noncharactercodepoint", "nchar"], Listed.noncharacterCodePoint.has),
  (["otheralphabetic", "oalpha"], Listed.otherAlphabetic.has),
  (["otherdefaultignorablecodepoint", "odi"], Listed.otherDefaultIgnorableCodePoint.has),
  (["othergraphemeextend", "ogrext"], Listed.otherGraphemeExtend.has),
  (["otheridcontinue", "oidc"], Listed.otherIDContinue.has),
  (["otheridstart", "oids"], Listed.otherIDStart.has),
  (["otherlowercase", "olower"], Listed.otherLowercase.has),
  (["othermath", "omath"], Listed.otherMath.has),
  (["otheruppercase", "oupper"], Listed.otherUppercase.has),
  (["patternsyntax", "patsyn"], Listed.patternSyntax.has),
  (["patternwhitespace", "patws"], Listed.patternWhiteSpace.has),
  (["prependedconcatenationmark", "pcm"], Listed.prependedConcatenationMark.has),
  (["quotationmark", "qmark"], Listed.quotationMark.has),
  (["radical"], Listed.radical.has),
  (["regionalindicator", "ri"], Listed.regionalIndicator.has),
  (["sentenceterminal", "sterm"], Listed.sentenceTerminal.has),
  (["softdotted", "sd"], Listed.softDotted.has),
  (["terminalpunctuation", "term"], Listed.terminalPunctuation.has),
  (["unifiedideograph", "uideo"], Listed.unifiedIdeograph.has),
  (["uppercase", "upper"], uppercase),
  (["variationselector", "vs"], Listed.variationSelector.has),
  (["whitespace", "wspace", "space"], whiteSpace),
  (["xidcontinue", "xidc"], xidContinue),
  (["xidstart", "xids"], xidStart)]

/-- What a character does between grapheme clusters. All other characters have no name. -/
def graphemeBreaks : PropertyTable := [
  (["control", "cn"], GraphemeBreak.control),
  (["cr"], (· = '\r')),
  (["extend", "ex"], GraphemeBreak.extend),
  (["l"], GraphemeBreak.leadingConsonant),
  (["lf"], (· = '\n')),
  (["lv"], GraphemeBreak.openSyllable),
  (["lvt"], GraphemeBreak.closedSyllable),
  (["prepend", "pp"], GraphemeBreak.prepend),
  (["regionalindicator", "ri"], Listed.regionalIndicator.has),
  (["spacingmark", "sm"], GraphemeBreak.spacingMark),
  (["t"], GraphemeBreak.trailingConsonant),
  (["v"], GraphemeBreak.vowel),
  (["zwj"], (· = zeroWidthJoiner))]

def wordBreaks : PropertyTable := [
  (["aletter", "le"], WordBreak.letter),
  (["cr"], (· = '\r')),
  (["doublequote", "dq"], (· = '"')),
  (["extend"], WordBreak.extend),
  (["extendnumlet", "ex"], WordBreak.connector),
  (["format", "fo"], WordBreak.format),
  (["hebrewletter", "hl"], WordBreak.hebrewLetter),
  (["katakana", "ka"], WordBreak.katakana),
  (["lf"], (· = '\n')),
  (["midletter", "ml"], WordBreak.midLetter.has),
  (["midnum", "mn"], WordBreak.midNumber.has),
  (["midnumlet", "mb"], WordBreak.midEither.has),
  (["newline", "nl"], WordBreak.newline),
  (["numeric", "nu"], WordBreak.numeric),
  (["regionalindicator", "ri"], Listed.regionalIndicator.has),
  (["singlequote", "sq"], (· = '\'')),
  (["wsegspace"], WordBreak.space),
  (["zwj"], (· = zeroWidthJoiner))]

def sentenceBreaks : PropertyTable := [
  (["aterm", "at"], SentenceBreak.fullStop.has),
  (["close", "cl"], SentenceBreak.close),
  (["cr"], (· = '\r')),
  (["extend", "ex"], SentenceBreak.extend),
  (["format", "fo"], SentenceBreak.format),
  (["lf"], (· = '\n')),
  (["lower", "lo"], SentenceBreak.lower),
  (["numeric", "nu"], SentenceBreak.numeric),
  (["oletter", "le"], SentenceBreak.otherLetter),
  (["scontinue", "sc"], SentenceBreak.continues.has),
  (["sep", "se"], SentenceBreak.separator),
  (["sp"], SentenceBreak.space),
  (["sterm", "st"], SentenceBreak.terminator),
  (["upper", "up"], SentenceBreak.upper)]

/-- The general categories and the unions of them that have names. Surrogates are no characters, so
their category has none. -/
def categoryNames : List (List String × List GeneralCategory) := [
  (["lu", "uppercaseletter"], [.uppercaseLetter]),
  (["ll", "lowercaseletter"], [.lowercaseLetter]),
  (["lt", "titlecaseletter"], [.titlecaseLetter]),
  (["lc", "casedletter"], [.uppercaseLetter, .lowercaseLetter, .titlecaseLetter]),
  (["lm", "modifierletter"], [.modifierLetter]),
  (["lo", "otherletter"], [.otherLetter]),
  (["l", "letter"],
    [.uppercaseLetter, .lowercaseLetter, .titlecaseLetter, .modifierLetter, .otherLetter]),
  (["mn", "nonspacingmark"], [.nonspacingMark]),
  (["mc", "spacingmark"], [.spacingMark]),
  (["me", "enclosingmark"], [.enclosingMark]),
  (["m", "mark", "combiningmark"], [.nonspacingMark, .spacingMark, .enclosingMark]),
  (["nd", "decimalnumber", "digit"], [.decimalNumber]),
  (["nl", "letternumber"], [.letterNumber]),
  (["no", "othernumber"], [.otherNumber]),
  (["n", "number"], [.decimalNumber, .letterNumber, .otherNumber]),
  (["pc", "connectorpunctuation"], [.connectorPunctuation]),
  (["pd", "dashpunctuation"], [.dashPunctuation]),
  (["ps", "openpunctuation"], [.openPunctuation]),
  (["pe", "closepunctuation"], [.closePunctuation]),
  (["pi", "initialpunctuation"], [.initialPunctuation]),
  (["pf", "finalpunctuation"], [.finalPunctuation]),
  (["po", "otherpunctuation"], [.otherPunctuation]),
  (["p", "punctuation", "punct"],
    [.connectorPunctuation, .dashPunctuation, .openPunctuation, .closePunctuation,
      .initialPunctuation, .finalPunctuation, .otherPunctuation]),
  (["sm", "mathsymbol"], [.mathSymbol]),
  (["sc", "currencysymbol"], [.currencySymbol]),
  (["sk", "modifiersymbol"], [.modifierSymbol]),
  (["so", "othersymbol"], [.otherSymbol]),
  (["s", "symbol"], [.mathSymbol, .currencySymbol, .modifierSymbol, .otherSymbol]),
  (["zs", "spaceseparator"], [.spaceSeparator]),
  (["zl", "lineseparator"], [.lineSeparator]),
  (["zp", "paragraphseparator"], [.paragraphSeparator]),
  (["z", "separator"], [.spaceSeparator, .lineSeparator, .paragraphSeparator]),
  (["cc", "control", "cntrl"], [.control]),
  (["cf", "format"], [.format]),
  (["co", "privateuse"], [.privateUse]),
  (["cn", "unassigned"], [.unassigned]),
  (["c", "other"], [.control, .format, .surrogate, .privateUse, .unassigned])]

/-- A name in lower case, without blanks, hyphens, underscores, characters beyond ASCII and a
leading `is`; only `isc` keeps it, as it would name another property without it. -/
def looseName (name : String) : String :=
  let loose (cs : List Char) :=
    ((cs.filter fun c => c.toNat < 128 ∧ c ∉ [' ', '_', '-']).map Char.toLower)
  let cs := name.toList
  if (cs.take 2).map Char.toLower = ['i', 's'] then
    let rest := loose (cs.drop 2)
    String.ofList (if rest = ['c'] then ['i', 's', 'c'] else rest)
  else String.ofList (loose cs)

def categoryNamed? (name : String) : Option Property :=
  match name with
  | "any" => some fun _ => true
  | "assigned" => some fun c => generalCategory c ≠ .unassigned
  | "ascii" => some fun c => c.toNat < 128
  | _ => (categoryNames.find? (·.1.contains name)).map fun entry => hasCategory entry.2

def scriptNamed? (name : String) : Option String :=
  (Script.names.find? (·.any (looseName · = name))).bind List.head?

def hasScript (code : String) : Property := fun c => script c = code

/-- The property that a name alone stands for: a binary property, a category or a script. -/
def propertyNamed? (name : String) : Option Property :=
  let name := looseName name
  binaryProperties.named? name <|> categoryNamed? name <|> (scriptNamed? name).map hasScript

/-- The property that a name and a value stand for. An age stands for all characters that have been
there since that version or longer. -/
def propertyValued? (name value : String) : Option Property :=
  let value := looseName value
  match looseName name with
  | "generalcategory" | "gc" => categoryNamed? value
  | "script" | "sc" => (scriptNamed? value).map hasScript
  | "scriptextensions" | "scx" =>
    (scriptNamed? value).map fun code c => (scriptExtensions c).contains code
  | "age" => (Age.named? value).map fun version c => age c ≤ version
  | "graphemeclusterbreak" | "gcb" => graphemeBreaks.named? value
  | "wordbreak" | "wb" => wordBreaks.named? value
  | "sentencebreak" | "sb" => sentenceBreaks.named? value
  | _ => none

end PipeArrow.Unicode
