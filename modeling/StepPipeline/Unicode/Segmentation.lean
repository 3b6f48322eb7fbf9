import StepPipeline.Unicode.Derived
import StepPipeline.Unicode.Script

/-!
# Segmentation

The properties of Unicode 16 that tell where a text may be cut: between the characters that a
reader sees, between words, and between sentences. Each property gives a character at most one of
its values; most values follow from the categories and a short list.
-/

namespace StepPipeline.Unicode

open Category Binary

/-- The modifiers of skin colour and all that extends the character before it. -/
def extending : Ranges := graphemeExtend ∪ emojiModifier

/-! ### Characters that a reader sees -/

namespace GraphemeBreak

def prepend : Ranges := Ranges.read [
  "600-605 6DD 70F 890-891 8E2 D4E 110BD 110CD 111C2-111C3 113D1 1193F 11941 11A84-11A89 11D46",
  "11F02"]

def control : Ranges :=
  Ranges.unions [zl, zp, cc, cf, cn ∩ defaultIgnorable]
    \ Ranges.unions [Ranges.read ["A D 200C-200D"], prependedConcatenationMark, graphemeExtend]

/-- Spacing marks that do not extend the character before them. -/
def looseMark : Ranges := Ranges.read [
  "102B-102C 1038 1062-1064 1067-106D 1083 1087-108C 108F 109A-109C 1A61 1A63-1A64 AA7B AA7D",
  "11720-11721"]

def spacingMark : Ranges :=
  (mc ∪ Ranges.read ["E33 EB3"]) \ (graphemeExtend ∪ looseMark)

/-- The Hangul syllables: 399 groups of 28, the first of each without a trailing consonant. -/
def syllables : List Nat := (List.range 399).map fun k => 0xAC00 + 28 * k

/-- The values of the property, each with its names. -/
def all : List (List String × Ranges) := [
  (["cr"], Ranges.read ["D"]),
  (["lf"], Ranges.read ["A"]),
  (["control", "cn"], control),
  (["extend", "ex"], extending),
  (["prepend", "pp"], prepend),
  (["spacingmark", "sm"], spacingMark),
  (["regionalindicator", "ri"], regionalIndicator),
  (["l"], Ranges.read ["1100-115F A960-A97C"]),
  (["v"], Ranges.read ["1160-11A7 D7B0-D7C6 16D63 16D67-16D6A"]),
  (["t"], Ranges.read ["11A8-11FF D7CB-D7FB"]),
  (["lv"], Ranges.ofList (syllables.map fun n => (n, n))),
  (["lvt"], Ranges.ofList (syllables.map fun n => (n + 1, n + 27))),
  (["zwj"], Ranges.read ["200D"])]

end GraphemeBreak

/-! ### Words -/

namespace WordBreak

def newline : Ranges := Ranges.read ["B-C 85 2028-2029"]

def numeric : Ranges := nd ∪ Ranges.read ["600-605 66B 6DD 890-891 8E2 19DA 110BD 110CD"]

def extend : Ranges := extending ∪ mc

def format : Ranges := Ranges.read [
  "AD 61C 180E 200E-200F 202A-202E 2060-2064 2066-206F FEFF FFF9-FFFB 13430-1343F 1BCA0-1BCA3",
  "1D173-1D17A E0001"]

def katakana : Ranges := Script.kana ∪ Ranges.read ["3031-3035 309B-309C 30A0 30FC FF70"]

def hebrewLetter : Ranges := Script.hebr ∩ lo

def extendNumLet : Ranges := Ranges.read ["5F 202F 203F-2040 2054 FE33-FE34 FE4D-FE4F FF3F"]

/-- Signs that count as letters. -/
def letterSign : Ranges := Ranges.read [
  "B8 2C2-2C5 2D2-2D7 2DE-2DF 2E5-2EB 2ED 2EF-2FF 55A-55C 55E 58A 5F3 70F A708-A716 A720-A721",
  "A789-A78A AB5B"]

/-- Letters of scripts that write no space between words. -/
def unspacedLetter : Ranges := Ranges.read [
  "E01-E30 E32-E33 E40-E46 E81-E82 E84 E86-E8A E8C-EA3 EA5 EA7-EB0 EB2-EB3 EBD EC0-EC4 EC6",
  "EDC-EDF 1000-102A 103F 1050-1055 105A-105D 1061 1065-1066 106E-1070 1075-1081 108E 1780-17B3",
  "17D7 17DC 1950-196D 1970-1974 1980-19AB 19B0-19C9 1A20-1A54 1AA7 3041-3096 309D-309F",
  "A9E0-A9E4 A9E6-A9EF A9FA-A9FE AA60-AA76 AA7A AA7E-AAAF AAB1 AAB5-AAB6 AAB9-AABD AAC0 AAC2",
  "AADB-AADD 11700-1171A 11740-11746 1B001-1B11F 1B132 1B150-1B152"]

def aLetter : Ranges :=
  (alphabetic ∪ letterSign)
    \ Ranges.unions [ideographic, extend, katakana, hebrewLetter, unspacedLetter]

/-- The values of the property, each with its names. -/
def all : List (List String × Ranges) := [
  (["cr"], Ranges.read ["D"]),
  (["lf"], Ranges.read ["A"]),
  (["newline", "nl"], newline),
  (["extend"], extend),
  (["format", "fo"], format),
  (["katakana", "ka"], katakana),
  (["aletter", "le"], aLetter),
  (["hebrewletter", "hl"], hebrewLetter),
  (["midletter", "ml"], Ranges.read ["3A B7 387 55F 5F4 2027 FE13 FE55 FF1A"]),
  (["midnum", "mn"], Ranges.read ["2C 3B 37E 589 60C-60D 66C 7F8 2044 FE50 FE54 FF0C FF1B"]),
  (["midnumlet", "mb"], Ranges.read ["2E 2018-2019 2024 FE52 FF07 FF0E"]),
  (["numeric", "nu"], numeric),
  (["extendnumlet", "ex"], extendNumLet),
  (["regionalindicator", "ri"], regionalIndicator),
  (["doublequote", "dq"], Ranges.read ["22"]),
  (["singlequote", "sq"], Ranges.read ["27"]),
  (["wsegspace"], Ranges.read ["20 1680 2000-2006 2008-200A 205F 3000"]),
  (["zwj"], Ranges.read ["200D"])]

end WordBreak

/-! ### Sentences -/

namespace SentenceBreak

def extend : Ranges := Ranges.unions [graphemeExtend, mc, Ranges.read ["200D"]]

/-- The value `Upper`; the capitals of Georgian are an ornament. -/
def upper : Ranges := (uppercase ∪ lt) \ Ranges.read ["1C90-1CBF"]

def lower : Ranges := lowercase \ (graphemeExtend ∪ Ranges.read ["10D0-10FA 10FD-10FF"])

def oLetter : Ranges :=
  (alphabetic ∪ Ranges.read ["5F3"]) \ Ranges.unions [upper, lower, extend]

def aTerm : Ranges := Ranges.read ["2E 2024 FE52 FF0E"]

def sep : Ranges := Ranges.read ["85 2028-2029"]

def sp : Ranges := whiteSpace \ (sep ∪ Ranges.read ["A D"])

/-- Quotation marks that open or close as the text has it, and no punctuation. -/
def ornament : Ranges := Ranges.read ["275B-2760 1F676-1F678"]

/-- Marks that stand for something left out or put in its place. -/
def editorial : Ranges := Ranges.read ["2E00-2E01 2E06-2E08 2E0B"]

def close : Ranges :=
  Ranges.unions [ps, pe, pi, pf, ornament, editorial, Ranges.read ["22 27"]]

def sContinue : Ranges := Ranges.read [
  "2C-2D 3A-3B 37E 55D 60C-60D 7F8 1802 1808 2013-2014 3001 FE10-FE11 FE13-FE14 FE31-FE32",
  "FE50-FE51 FE54-FE55 FE58 FE63 FF0C-FF0D FF1A-FF1B FF64"]

/-- The values of the property, each with its names. -/
def all : List (List String × Ranges) := [
  (["cr"], Ranges.read ["D"]),
  (["lf"], Ranges.read ["A"]),
  (["sep", "se"], sep),
  (["extend", "ex"], extend),
  (["format", "fo"], WordBreak.format ∪ Ranges.read ["70F 200B"]),
  (["sp"], sp),
  (["lower", "lo"], lower),
  (["upper", "up"], upper),
  (["oletter", "le"], oLetter),
  (["numeric", "nu"], WordBreak.numeric ∪ Ranges.read ["66C"]),
  (["aterm", "at"], aTerm),
  (["sterm", "st"], sentenceTerminal \ aTerm),
  (["close", "cl"], close),
  (["scontinue", "sc"], sContinue)]

end SentenceBreak
end StepPipeline.Unicode
