import CodecGen.Text.Property.Alphabet

/-!
# Properties of identifiers

The characters that identifiers begin and go on with, those that stay so when text is brought to a
compatible form, and the characters that are set aside for the text of patterns.
-/

namespace CodecGen.Text

/-- The characters that begin identifiers without being letters or letter numbers. -/
def otherIdentifierStart : String :=
  "1885-1886 2118 212E 309B-309C"

/-- The further characters that identifiers go on with. -/
def otherIdentifierContinue : String :=
  "B7 387 1369-1371 19DA 200C-200D 30FB FF65"

/-- The characters set aside for the syntax of patterns. -/
def patternSyntax : String :=
  "21-2F 3A-40 5B-5E 60 7B-7E A1-A7 A9 AB-AC AE B0-B1 B6 BB BF D7 F7 2010-2027 2030-203E
  2041-2053 2055-205E 2190-245F 2500-2775 2794-2BFF 2E00-2E7F 3001-3003 3008-3020 3030 FD3E-FD3F
  FE45-FE46"

/-- The characters set aside as blanks of patterns. -/
def patternBlanks : String :=
  "9-D 20 85 200E-200F 2028-2029"

/-- The characters set aside for patterns, which identifiers do not hold. -/
private def setAside : RangeSet :=
  (RangeSet.ofText patternSyntax).union (RangeSet.ofText patternBlanks)

/-- The characters that identifiers begin with. -/
def identifierStart : RangeSet :=
  (unionWith (.letterNumber :: letterCategories) otherIdentifierStart).diff setAside

/-- The characters that identifiers go on with. -/
def identifierContinue : RangeSet :=
  (identifierStart.union
    (unionWith [.nonspacingMark, .spacingMark, .decimalNumber, .connectorPunctuation]
      otherIdentifierContinue)).diff setAside

/-- The characters that identifiers go on with, but whose compatible form is no part of one. -/
private def incompatibleText : String :=
  "37A 309B-309C FC5E-FC63 FDFA-FDFB FE70-FE7E/2"

/-- The tables of properties of identifiers. -/
def identifierText? (name : String) : Option String :=
  match name with
  | "otheridstart" | "oids" => some otherIdentifierStart
  | "otheridcontinue" | "oidc" => some otherIdentifierContinue
  | "patternsyntax" | "patsyn" => some patternSyntax
  | "patternwhitespace" | "patws" => some patternBlanks
  | "idcompatmathstart" =>
    some "2202 2207 221E 1D6C1 1D6DB 1D6FB 1D715 1D735 1D74F 1D76F 1D789 1D7A9 1D7C3"
  | "idcompatmathcontinue" =>
    some "B2-B3 B9 2070 2074-207E 2080-208E 2202 2207 221E 1D6C1 1D6DB 1D6FB 1D715 1D735 1D74F
    1D76F 1D789 1D7A9 1D7C3"
  | _ => none

/-- The property of identifiers with the given name. -/
def identifierProperty? (name : String) : Option RangeSet :=
  match name with
  | "idstart" | "ids" => some identifierStart
  | "idcontinue" | "idc" => some identifierContinue
  | "xidstart" | "xids" =>
    some (identifierStart.diff
      (RangeSet.ofText (incompatibleText ++ " E33 EB3 FF9E-FF9F")))
  | "xidcontinue" | "xidc" => some (identifierContinue.diff (RangeSet.ofText incompatibleText))
  | _ => (identifierText? name).map RangeSet.ofText

end CodecGen.Text
