import CodecGen.Text.Property.Alphabet
import CodecGen.Text.Property.Case
import CodecGen.Text.Property.Emoji
import CodecGen.Text.Property.Grapheme
import CodecGen.Text.Property.Symbol
import CodecGen.Text.Script

/-!
# Where text may be broken

The classes of characters by which text is cut into graphemes, words and sentences. Each of the
three namespaces gives a class by either of its names, in lower case, without blanks, hyphens and
underscores.
-/

namespace CodecGen.Text

/-- The format controls that stand for parts of flags. -/
private def tagText : String :=
  "E0020-E007F"

/-- The marks that span the digits after them, but for the Syriac abbreviation mark, which spans
letters. -/
private def numberMarks : RangeSet :=
  (RangeSet.ofText prependedConcatenationMarks).diff (.singleton 0x70F)

/-- The marks that stand beside or around the character before them. -/
private def extendingMarks : RangeSet :=
  graphemeExtend.union (Category.unionOf [.spacingMark])

/-! ## Graphemes -/

namespace GraphemeBreak

/-- The controls, among them characters without a meaning yet that are to be ignored. -/
def controls : RangeSet :=
  (RangeSet.unionAll
    [Category.unionOf [.control, .format, .lineSeparator, .paragraphSeparator],
      defaultIgnorable.inter (Category.ranges .unassigned)]).diff
    (RangeSet.unionAll
      [RangeSet.ofText "A D 200C-200D", RangeSet.ofText tagText,
        RangeSet.ofText prependedConcatenationMarks])

/-- The marks that take a place of their own and belong to the character before them. -/
def spacingMarks : RangeSet :=
  ((Category.unionOf [.spacingMark]).union (RangeSet.ofText "E33 EB3")).diff
    (graphemeExtend.union
      (RangeSet.ofText
        "102B-102C 1038 1062-1064 1067-106D 1083 1087-108C 108F 109A-109C 1A61 1A63-1A64 AA7B AA7D
        11720-11721"))

/-- The Hangul syllables without a final consonant, which is every twenty-eighth. -/
def openSyllables : RangeSet :=
  RangeSet.ofText "AC00-D788/1C"

/-- The class with the given name. -/
def ranges? (name : String) : Option RangeSet :=
  match name with
  | "cr" => some (.singleton 0xD)
  | "lf" => some (.singleton 0xA)
  | "control" | "cn" => some controls
  | "extend" | "ex" => some (graphemeExtend.union (RangeSet.ofText emojiModifiers))
  | "zwj" => some (.singleton 0x200D)
  | "regionalindicator" | "ri" => some (RangeSet.ofText regionalIndicators)
  | "prepend" | "pp" =>
    some ((RangeSet.ofText prependedConcatenationMarks).union
      (RangeSet.ofText
        "D4E 111C2-111C3 113D1 1193F 11941 11A3A 11A84-11A89 11D46 11F02"))
  | "spacingmark" | "sm" => some spacingMarks
  | "l" => some (RangeSet.ofText "1100-115F A960-A97C")
  | "v" => some (RangeSet.ofText "1160-11A7 D7B0-D7C6 16D63 16D67-16D6A")
  | "t" => some (RangeSet.ofText "11A8-11FF D7CB-D7FB")
  | "lv" => some openSyllables
  | "lvt" => some ((RangeSet.ofText "AC00-D7A3").diff openSyllables)
  | _ => none

end GraphemeBreak

/-! ## Words -/

namespace WordBreak

/-- The Hebrew letters. -/
def hebrewLetters : RangeSet :=
  RangeSet.ofText
    "5D0-5EA 5EF-5F2 FB1D FB1F-FB28 FB2A-FB36 FB38-FB3C FB3E FB40-FB41 FB43-FB44 FB46-FB4F"

/-- The characters of Katakana words. -/
def katakana : RangeSet :=
  RangeSet.ofText
    "3031-3035 309B-309C 30A0-30FA 30FC-30FF 31F0-31FF 32D0-32FE 3300-3357 FF66-FF9D
    1AFF0-1AFF3 1AFF5-1AFFB 1AFFD-1AFFE 1B000 1B120-1B122 1B155 1B164-1B167"

/-- The characters that extend the one before them. -/
def extenders : RangeSet :=
  extendingMarks.union (RangeSet.ofText emojiModifiers)

/-- The scripts whose words are not told by their letters. -/
private def unspacedScripts : List String :=
  ["hira", "thai", "laoo", "khmr", "mymr", "tale", "talu", "lana", "tavt", "ahom"]

/-- The letters that words are told by. -/
def letters : RangeSet :=
  (alphabetic.union
    (RangeSet.ofText
      "2C2-2C5 2D2-2D7 2DE-2DF 2E5-2EB 2ED 2EF-2FF 55A-55C 55E 58A 5F3 70F A708-A716
      A720-A721 A789-A78A AB5B")).diff
    (RangeSet.unionAll
      (hebrewLetters :: katakana :: extenders ::
        RangeSet.ofText ideographs ::
        (unspacedScripts.filterMap Script.ofName?).map Script.ranges))

/-- The class with the given name. -/
def ranges? (name : String) : Option RangeSet :=
  match name with
  | "cr" => some (.singleton 0xD)
  | "lf" => some (.singleton 0xA)
  | "newline" | "nl" => some (RangeSet.ofText "B-C 85 2028-2029")
  | "extend" => some extenders
  | "zwj" => some (.singleton 0x200D)
  | "format" | "fo" =>
    some ((Category.unionOf [.format]).diff
      (RangeSet.unionAll
        [RangeSet.ofText prependedConcatenationMarks, RangeSet.ofText "200B-200D",
          RangeSet.ofText tagText]))
  | "katakana" | "ka" => some katakana
  | "hebrewletter" | "hl" => some hebrewLetters
  | "aletter" | "le" => some letters
  | "singlequote" | "sq" => some (.singleton 0x27)
  | "doublequote" | "dq" => some (.singleton 0x22)
  | "midnumlet" | "mb" => some (RangeSet.ofText "2E 2018-2019 2024 FE52 FF07 FF0E")
  | "midletter" | "ml" =>
    some (RangeSet.ofText "3A B7 387 55F 5F4 2027 FE13 FE55 FF1A")
  | "midnum" | "mn" =>
    some (RangeSet.ofText "2C 3B 37E 589 60C-60D 66C 7F8 2044 FE50 FE54 FF0C FF1B")
  | "numeric" | "nu" =>
    some (RangeSet.unionAll
      [Category.unionOf [.decimalNumber], numberMarks, RangeSet.ofText "66B 19DA"])
  | "extendnumlet" | "ex" =>
    some (RangeSet.ofText "5F 202F 203F-2040 2054 FE33-FE34 FE4D-FE4F FF3F")
  | "regionalindicator" | "ri" => some (RangeSet.ofText regionalIndicators)
  | "wsegspace" =>
    some (RangeSet.ofText "20 1680 2000-2006 2008-200A 205F 3000")
  | _ => none

end WordBreak

/-! ## Sentences -/

namespace SentenceBreak

/-- The full stops, which need not end a sentence. -/
private def stopText : String :=
  "2E 2024 FE52 FF0E"

/-- The characters that extend the one before them. -/
def extenders : RangeSet :=
  extendingMarks.union (.singleton 0x200D)

/-- The lower case characters. The Georgian letters have no case here. -/
def lower : RangeSet :=
  lowercase.diff (RangeSet.ofText "345 10D0-10FA 10FD-10FF")

/-- The upper and title case characters. -/
def upper : RangeSet :=
  (uppercase.union titlecase).diff (RangeSet.ofText "1C90-1CBA 1CBD-1CBF")

/-- The characters that open, close or quote. -/
def closers : RangeSet :=
  (RangeSet.unionAll
    [Category.unionOf [.openPunctuation, .closePunctuation, .initialPunctuation,
      .finalPunctuation], RangeSet.ofText quotationMarks,
      RangeSet.ofText "275B-2760 2E00-2E01 2E06-2E08 2E0B 1F676-1F678"]).diff
    (RangeSet.ofText "FF02 FF07")

/-- The class with the given name. -/
def ranges? (name : String) : Option RangeSet :=
  match name with
  | "cr" => some (.singleton 0xD)
  | "lf" => some (.singleton 0xA)
  | "sep" | "se" => some (RangeSet.ofText "85 2028-2029")
  | "extend" | "ex" => some extenders
  | "format" | "fo" =>
    some ((Category.unionOf [.format]).diff
      (RangeSet.unionAll
        [numberMarks, RangeSet.ofText "200C-200D", RangeSet.ofText tagText]))
  | "sp" => some (RangeSet.ofText "9 B-C 20 A0 1680 2000-200A 202F 205F 3000")
  | "lower" | "lo" => some lower
  | "upper" | "up" => some upper
  | "oletter" | "le" =>
    some ((alphabetic.union (.singleton 0x5F3)).diff (RangeSet.unionAll [lower, upper, extenders]))
  | "numeric" | "nu" =>
    some (RangeSet.unionAll
      [Category.unionOf [.decimalNumber], numberMarks, RangeSet.ofText "66B-66C 19DA"])
  | "aterm" | "at" => some (RangeSet.ofText stopText)
  | "sterm" | "st" =>
    some ((RangeSet.ofText sentenceTerminals).diff (RangeSet.ofText stopText))
  | "scontinue" | "sc" =>
    some (RangeSet.ofText
      "2C-2D 3A-3B 37E 55D 60C-60D 7F8 1802 1808 2013-2014 3001 FE10-FE11 FE13-FE14
      FE31-FE32 FE50-FE51 FE54-FE55 FE58 FE63 FF0C-FF0D FF1A-FF1B FF64")
  | "close" | "cl" => some closers
  | _ => none

end SentenceBreak

end CodecGen.Text
