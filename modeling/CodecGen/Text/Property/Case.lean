import CodecGen.Text.CaseFold
import CodecGen.Text.Category

/-!
# Properties of case

Lower, upper and title case, the characters that do not count for the case of the text around them,
and those that a change of case alters.
-/

namespace CodecGen.Text

/-- The characters that count as lower case without being lower case letters. -/
def otherLowercase : String :=
  "AA BA 2B0-2B8 2C0-2C1 2E0-2E4 345 37A 10FC 1D2C-1D6A 1D78 1D9B-1DBF 2071 207F 2090-209C
  2170-217F 24D0-24E9 2C7C-2C7D A69C-A69D A770 A7F2-A7F4 A7F8-A7F9 AB5C-AB5F AB69 10780
  10783-10785 10787-107B0 107B2-107BA 1E030-1E06D"

/-- The characters that count as upper case without being upper case letters. -/
def otherUppercase : String :=
  "2160-216F 24B6-24CF 1F130-1F149 1F150-1F169 1F170-1F189"

/-- The lower case characters. -/
def lowercase : RangeSet :=
  (Category.unionOf [.lowercaseLetter]).union (RangeSet.ofText otherLowercase)

/-- The upper case characters. -/
def uppercase : RangeSet :=
  (Category.unionOf [.uppercaseLetter]).union (RangeSet.ofText otherUppercase)

/-- The title case characters. -/
def titlecase : RangeSet :=
  Category.unionOf [.titlecaseLetter]

/-- The characters in lower, upper or title case. -/
def cased : RangeSet :=
  RangeSet.unionAll [lowercase, uppercase, titlecase]

/-- The characters that do not count for the case of the text around them: marks, format controls,
modifiers, and the punctuation that stands inside words. -/
def caseIgnorable : RangeSet :=
  (Category.unionOf [.nonspacingMark, .enclosingMark, .format, .modifierLetter,
    .modifierSymbol]).union
    (RangeSet.ofText
      "27 2E 3A B7 387 55F 5F4 2018-2019 2024 2027 FE13 FE52 FE55 FF07 FF0E FF1A")

/-! ## Changes of case -/

/-- The characters that are altered by some change of case though they differ from no single other
character in case only. -/
def caseExpandingText : String :=
  "130-131 149 1F0 587 1E96-1E9A 1F50-1F56/2 1FB2 1FB4 1FB6-1FB7 1FC2 1FC4 1FC6-1FC7 1FD2
  1FD6-1FD7 1FE2 1FE4 1FE6-1FE7 1FF2 1FF4 1FF6-1FF7 FB00-FB04 FB13-FB17"

/-- The characters that some change of case alters. -/
def caseMapped : RangeSet :=
  foldedCharacters.union (RangeSet.ofText caseExpandingText)

/-- The characters that have another lower case form in the edition of the standard which the
properties are taken from; the table of lower case forms is of the edition after it. -/
def lowercased : RangeSet :=
  lowerCaseSources.diff (RangeSet.ofText "A7CE A7D2-A7D4/2 16EA0-16EB8")

/-- The characters that have another upper case form. -/
def uppercased : RangeSet :=
  (caseMapped.diff lowercased).union titlecase

/-- The characters that have another title case form. Title case letters have none; neither do the
Georgian letters, which begin no word in upper case. -/
def titlecased : RangeSet :=
  (uppercased.diff (titlecase.union (RangeSet.ofText "10D0-10FA 10FD-10FF"))).union
    (RangeSet.ofText "1C4 1C7 1CA 1F1")

/-- The characters that are altered where case is folded away. Most are folded to lower case, but
Cherokee letters to upper case. -/
def casefolded : RangeSet :=
  (lowercased.diff (RangeSet.ofText "13A0-13F5")).union
    (RangeSet.ofText
      "B5 DF 149 17F 345 3C2 3D0-3D1 3D5-3D6 3F0-3F1 3F5 587 13F8-13FD 1C80-1C88 1E9A-1E9B
      1F80-1F87 1F90-1F97 1FA0-1FA7 1FB2-1FB4 1FB7 1FC2-1FC4 1FC7 1FF2-1FF4 1FF7 AB70-ABBF
      FB00-FB06 FB13-FB17")

/-! ## By name -/

/-- The property of case with the given name. -/
def caseProperty? (name : String) : Option RangeSet :=
  match name with
  | "lowercase" | "lower" => some lowercase
  | "uppercase" | "upper" => some uppercase
  | "cased" => some cased
  | "caseignorable" | "ci" => some caseIgnorable
  | "changeswhenlowercased" | "cwl" => some lowercased
  | "changeswhenuppercased" | "cwu" => some uppercased
  | "changeswhentitlecased" | "cwt" => some titlecased
  | "changeswhencasefolded" | "cwcf" => some casefolded
  | "changeswhencasemapped" | "cwcm" => some caseMapped
  | "otherlowercase" | "olower" => some (RangeSet.ofText otherLowercase)
  | "otheruppercase" | "oupper" => some (RangeSet.ofText otherUppercase)
  | "softdotted" | "sd" =>
    some (RangeSet.ofText
      "69-6A 12F 249 268 29D 2B2 3F3 456 458 1D62 1D96 1DA4 1DA8 1E2D 1ECB 2071 2148-2149
      2C7C 1D422-1D423 1D456-1D457 1D48A-1D48B 1D4BE-1D4BF 1D4F2-1D4F3 1D526-1D527 1D55A-1D55B
      1D58E-1D58F 1D5C2-1D5C3 1D5F6-1D5F7 1D62A-1D62B 1D65E-1D65F 1D692-1D693 1DF1A 1E04C-1E04D
      1E068")
  | _ => none

end CodecGen.Text
