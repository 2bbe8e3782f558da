import CodecGen.Text.Category

/-!
# Properties of the parts of a grapheme

What extends the character before it, what stands on its own, what joins or selects a form, and what
may be ignored where it cannot be shown.
-/

namespace CodecGen.Text

/-- The characters that extend the one before them without being nonspacing or enclosing marks. -/
def otherGraphemeExtend : String :=
  "9BE 9D7 B3E B57 BBE BD7 CC0 CC2 CC7-CC8 CCA-CCB CD5-CD6 D3E D57 DCF DDF 1715 1734 1B35
  1B3B 1B3D 1B43-1B44 1BAA 1BF2-1BF3 200C 302E-302F A953 A9C0 FF9E-FF9F 111C0 11235 1133E 1134D
  11357 113B8 113C2 113C5 113C7-113C9 113CF 114B0 114BD 115AF 116B6 11930 1193D 11F41 16FF0-16FF1
  1D165-1D166 1D16D-1D172 E0020-E007F"

/-- The marks that span the digits after them. -/
def prependedConcatenationMarks : String :=
  "600-605 6DD 70F 890-891 8E2 110BD 110CD"

/-- The characters that select a variant of the character before them. -/
def variationSelectors : String :=
  "180B-180D 180F FE00-FE0F E0100-E01EF"

/-- The characters to be ignored that neither format nor select a variant. -/
def otherDefaultIgnorable : String :=
  "34F 115F-1160 17B4-17B5 2065 3164 FFA0 FFF0-FFF8 E0000 E0002-E001F E0080-E00FF
  E01F0-E0FFF"

/-- The characters that extend the one before them. -/
def graphemeExtend : RangeSet :=
  (Category.unionOf [.nonspacingMark, .enclosingMark]).union (RangeSet.ofText otherGraphemeExtend)

/-- The characters that stand on their own: all but controls, separators of lines and paragraphs,
characters without a standard meaning, and those that extend others. -/
def graphemeBase : RangeSet :=
  (RangeSet.unionAll
    [Category.unionOf [.control, .format, .surrogate, .privateUse, .lineSeparator,
      .paragraphSeparator], Category.ranges .unassigned, graphemeExtend]).complement

/-- The characters to be ignored where they cannot be shown. The format controls of annotations and
of hieroglyphs are shown. -/
def defaultIgnorable : RangeSet :=
  (RangeSet.unionAll
    [Category.unionOf [.format], RangeSet.ofText variationSelectors,
      RangeSet.ofText otherDefaultIgnorable]).diff
    ((RangeSet.ofText prependedConcatenationMarks).union
      (RangeSet.ofText "FFF9-FFFB 13430-13440"))

/-- The tables of properties of the parts of a grapheme. -/
def graphemeText? (name : String) : Option String :=
  match name with
  | "othergraphemeextend" | "ogrext" => some otherGraphemeExtend
  | "prependedconcatenationmark" | "pcm" => some prependedConcatenationMarks
  | "variationselector" | "vs" => some variationSelectors
  | "otherdefaultignorablecodepoint" | "odi" => some otherDefaultIgnorable
  | "graphemelink" | "grlink" =>
    some "94D 9CD A4D ACD B4D BCD C4D CCD D3B-D3C D4D DCA E3A EBA F84 1039-103A 1714-1715 1734
    17D2 1A60 1B44 1BAA-1BAB 1BF2-1BF3 2D7F A806 A82C A8C4 A953 A9C0 AAF6 ABED 10A3F 11046 11070
    1107F 110B9 11133-11134 111C0 11235 112EA 1134D 113CE-113D0 11442 114C2 115BF 1163F 116B6
    1172B 11839 1193D-1193E 119E0 11A34 11A47 11A99 11C3F 11D44-11D45 11D97 11F41-11F42 1612F"
  | "joincontrol" | "joinc" =>
    some "200C-200D"
  | "modifiercombiningmark" | "mcm" =>
    some "654-655 658 6DC 6E3 6E7-6E8 8CA-8CB 8CD-8CF 8D3 8F3"
  | "noncharactercodepoint" | "nchar" =>
    some "FDD0-FDEF FFFE-FFFF 1FFFE-1FFFF 2FFFE-2FFFF 3FFFE-3FFFF 4FFFE-4FFFF 5FFFE-5FFFF
    6FFFE-6FFFF 7FFFE-7FFFF 8FFFE-8FFFF 9FFFE-9FFFF AFFFE-AFFFF BFFFE-BFFFF CFFFE-CFFFF
    DFFFE-DFFFF EFFFE-EFFFF FFFFE-FFFFF 10FFFE-10FFFF"
  | _ => none

/-- The property of the parts of a grapheme with the given name. -/
def graphemeProperty? (name : String) : Option RangeSet :=
  match name with
  | "graphemeextend" | "grext" => some graphemeExtend
  | "graphemebase" | "grbase" => some graphemeBase
  | "defaultignorablecodepoint" | "di" => some defaultIgnorable
  | _ => (graphemeText? name).map RangeSet.ofText

end CodecGen.Text
