import StepPipeline.Unicode.Binary
import StepPipeline.Unicode.Category

/-!
# Derived binary properties

Properties of Unicode 16 that follow from the categories and from listed properties, and the names
of all binary properties.
-/

namespace StepPipeline.Unicode.Binary

open Category

def lowercase : Ranges := ll ∪ otherLowercase

def uppercase : Ranges := lu ∪ otherUppercase

def cased : Ranges := Ranges.unions [lowercase, uppercase, lt]

def alphabetic : Ranges := Ranges.unions [lowercase, uppercase, lt, lm, lo, nl, otherAlphabetic]

def math : Ranges := sm ∪ otherMath

/-- What may not stand in an identifier, whatever its category. -/
def pattern : Ranges := patternSyntax ∪ patternWhiteSpace

def idStart : Ranges := Ranges.unions [letter, nl, otherIdStart] \ pattern

def idContinue : Ranges := Ranges.unions [idStart, mn, mc, nd, pc, otherIdContinue] \ pattern

/-- Characters whose compatibility forms hold what no identifier may hold. -/
def unstable : Ranges := Ranges.read [
  "37A 309B-309C FC5E-FC63 FDFA-FDFB FE70 FE72 FE74 FE76 FE78 FE7A FE7C FE7E"]

/-- Characters whose compatibility forms begin with what may only continue an identifier. -/
def unstableStart : Ranges := Ranges.read ["E33 EB3 FF9E-FF9F"]

def xidStart : Ranges := (idStart \ unstable) \ unstableStart

def xidContinue : Ranges := idContinue \ unstable

/-- The property `Default_Ignorable_Code_Point`. Notes between lines and the controls of
hieroglyphs are formats that show. -/
def defaultIgnorable : Ranges :=
  Ranges.unions [otherDefaultIgnorable, cf, variationSelector]
    \ Ranges.unions [whiteSpace, prependedConcatenationMark, Ranges.read ["FFF9-FFFB 13430-13440"]]

def graphemeExtend : Ranges := Ranges.unions [me, mn, otherGraphemeExtend]

def graphemeBase : Ranges :=
  assigned \ Ranges.unions [cc, cf, cs, co, zl, zp, graphemeExtend]

def changesWhenCasemapped : Ranges :=
  Ranges.unions [changesWhenLowercased, changesWhenUppercased, changesWhenTitlecased]

/-- Marks that join two parts of a word but no two words: the middle dot, the apostrophe. -/
def midWord : Ranges := Ranges.read ["27 2E 3A B7 387 55F 5F4 2018-2019 2024 2027",
  "FE13 FE52 FE55 FF07 FF0E FF1A"]

def caseIgnorable : Ranges := Ranges.unions [mn, me, cf, lm, sk, midWord]

/-- All binary properties, each with the names it goes by. -/
def all : List (List String × Ranges) := [
  (["alphabetic", "alpha"], alphabetic),
  (["asciihexdigit", "ahex"], asciiHexDigit),
  (["bidicontrol", "bidic"], bidiControl),
  (["bidimirrored", "bidim"], bidiMirrored),
  (["caseignorable", "ci"], caseIgnorable),
  (["cased"], cased),
  (["changeswhencasefolded", "cwcf"], changesWhenCasefolded),
  (["changeswhencasemapped", "cwcm"], changesWhenCasemapped),
  (["changeswhenlowercased", "cwl"], changesWhenLowercased),
  (["changeswhentitlecased", "cwt"], changesWhenTitlecased),
  (["changeswhenuppercased", "cwu"], changesWhenUppercased),
  (["dash"], dash),
  (["defaultignorablecodepoint", "di"], defaultIgnorable),
  (["deprecated", "dep"], deprecatedCharacter),
  (["diacritic", "dia"], diacritic),
  (["emoji"], emoji),
  (["emojicomponent", "ecomp"], emojiComponent),
  (["emojimodifier", "emod"], emojiModifier),
  (["emojimodifierbase", "ebase"], emojiModifierBase),
  (["emojipresentation", "epres"], emojiPresentation),
  (["extendedpictographic", "extpict"], extendedPictographic),
  (["extender", "ext"], extender),
  (["graphemebase", "grbase"], graphemeBase),
  (["graphemeextend", "grext"], graphemeExtend),
  (["graphemelink", "grlink"], graphemeLink),
  (["hexdigit", "hex"], hexDigit),
  (["hyphen"], hyphen),
  (["idcompatmathcontinue"], idCompatMathContinue),
  (["idcompatmathstart"], idCompatMathStart),
  (["idcontinue", "idc"], idContinue),
  (["idstart", "ids"], idStart),
  (["ideographic", "ideo"], ideographic),
  (["idsbinaryoperator", "idsb"], idsBinaryOperator),
  (["idstrinaryoperator", "idst"], idsTrinaryOperator),
  (["idsunaryoperator", "idsu"], idsUnaryOperator),
  (["joincontrol", "joinc"], joinControl),
  (["logicalorderexception", "loe"], logicalOrderException),
  (["lowercase", "lower"], lowercase),
  (["math"], math),
  (["modifiercombiningmark", "mcm"], modifierCombiningMark),
  (["noncharactercodepoint", "nchar"], noncharacter),
  (["otheralphabetic", "oalpha"], otherAlphabetic),
  (["otherdefaultignorablecodepoint", "odi"], otherDefaultIgnorable),
  (["othergraphemeextend", "ogrext"], otherGraphemeExtend),
  (["otheridcontinue", "oidc"], otherIdContinue),
  (["otheridstart", "oids"], otherIdStart),
  (["otherlowercase", "olower"], otherLowercase),
  (["othermath", "omath"], otherMath),
  (["otheruppercase", "oupper"], otherUppercase),
  (["patternsyntax", "patsyn"], patternSyntax),
  (["patternwhitespace", "patws"], patternWhiteSpace),
  (["prependedconcatenationmark", "pcm"], prependedConcatenationMark),
  (["quotationmark", "qmark"], quotationMark),
  (["radical"], radical),
  (["regionalindicator", "ri"], regionalIndicator),
  (["sentenceterminal", "sterm"], sentenceTerminal),
  (["softdotted", "sd"], softDotted),
  (["terminalpunctuation", "term"], terminalPunctuation),
  (["unifiedideograph", "uideo"], unifiedIdeograph),
  (["uppercase", "upper"], uppercase),
  (["variationselector", "vs"], variationSelector),
  (["whitespace", "wspace", "space"], whiteSpace),
  (["xidcontinue", "xidc"], xidContinue),
  (["xidstart", "xids"], xidStart)]

end StepPipeline.Unicode.Binary
