import CodecGen.Journal
import CodecGen.Tag.Pairs
import CodecGen.Text.LowerCase

/-!
# What a tag decides

A field's tag decides whether the field is encoded and decoded, under which key, whether empty
values are left out, and how times are laid out. Two pairs of the tag count: one with the key of the
naming rules and one with the key of the time layout. A tag that cannot be read decides nothing.
-/

namespace CodecGen

/-- The two directions of conversion. -/
inductive Direction where
  /-- From a value to text. -/
  | marshal
  /-- From text to a value. -/
  | unmarshal
  deriving DecidableEq, Repr, Inhabited

/-- The word for a direction. -/
def Direction.label : Direction → String
  | marshal => "marshal"
  | unmarshal => "unmarshal"

/-- What is decided for one field. -/
structure Policy where
  /-- The field is not encoded. -/
  hideMarshal : Bool
  /-- The field is not decoded. -/
  hideUnmarshal : Bool
  /-- Empty values are not encoded. -/
  omitEmpty : Bool
  /-- The name given in the tag; empty where none is given. -/
  keyName : String
  /-- The expression for the layout of times. -/
  layout : String
  deriving DecidableEq, Repr, Inhabited

namespace Policy

/-- What holds for a field without a tag. -/
def plain (layout : String) : Policy :=
  ⟨false, false, false, "", layout⟩

/-- The field is left out in a direction. -/
def hides (p : Policy) : Direction → Bool
  | .marshal => p.hideMarshal
  | .unmarshal => p.hideUnmarshal

/-- What the names of encoder methods end in. -/
def omitEmptySuffix (p : Policy) : String :=
  if p.omitEmpty then "OmitEmpty" else ""

/-- A name with its first letter in lower case. -/
def uncapitalize (name : String) : String :=
  match name.toList with
  | [] => ""
  | c :: cs => String.ofList (Text.lowerCase c ++ cs)

/-- The key of a field: the name given in the tag, or else the field's own, uncapitalized. -/
def keyFor (p : Policy) (field : String) : String :=
  if p.keyName.isEmpty then uncapitalize field else p.keyName

end Policy

namespace Tag

/-- Why a tag literal cannot be read. -/
inductive ReadFault where
  /-- It is no string literal. -/
  | literal
  /-- Its text is malformed. -/
  | text (e : Fault)
  deriving DecidableEq, Repr, Inhabited

/-- The pairs in a tag literal. -/
def read (literal : String) : Except ReadFault (List Pair) :=
  match content? literal with
  | none => .error .literal
  | some text => (parse text).mapError .text

/-- The name that hides a field in both directions. -/
def hideName : String := "-"

/-- The name or option that hides a field from decoding. -/
def hideUnmarshalName : String := "-u"

/-- The name or option that hides a field from encoding. -/
def hideMarshalName : String := "-m"

/-- The name or option that leaves out empty values. -/
def omitEmptyName : String := "omitempty"

/-- The pair says a word as its name or as an option. -/
def Pair.says (p : Pair) (word : String) : Bool :=
  p.name = word || p.hasOption word

/-- The pair's name is a word for hiding. -/
def Pair.namesHiding (p : Pair) : Bool :=
  p.name = hideName || p.name = hideMarshalName || p.name = hideUnmarshalName

/-- What the pair with the naming rules decides. -/
def Pair.policy (p : Pair) (layout : String) : Policy where
  hideMarshal := p.name = hideName || p.says hideMarshalName
  hideUnmarshal := p.name = hideName || p.says hideUnmarshalName
  omitEmpty := p.says omitEmptyName
  keyName := if p.namesHiding then "" else p.name
  layout := layout

end Tag

/-- Which pairs of a tag count, and the layout where the tag gives none. -/
structure TagRules where
  /-- The key of the pair with the naming rules. -/
  namingKey : String
  /-- The key of the pair with the time layout. -/
  layoutKey : String
  /-- The layout of fields without such a pair. -/
  defaultLayout : String
  deriving DecidableEq, Repr, Inhabited

namespace TagRules

/-- What the pairs of a tag decide. -/
def policyOf (r : TagRules) (pairs : List Tag.Pair) : Policy :=
  let layout := ((Tag.get? pairs r.layoutKey).map Tag.Pair.name).getD r.defaultLayout
  match Tag.get? pairs r.namingKey with
  | none => .plain layout
  | some p => p.policy layout

/-- What a field's tag literal decides. -/
def policy (r : TagRules) (literal : Option String) : Policy :=
  match literal.map Tag.read with
  | some (.ok pairs) => r.policyOf pairs
  | _ => .plain r.defaultLayout

/-- The notes left by reading a field's tag literal. -/
def notes (r : TagRules) (literal : Option String) : List Note :=
  match literal with
  | none => []
  | some raw =>
    match Tag.read raw with
    | .error .literal => [⟨.warn, "ignoring malformed tag literal " ++ raw⟩]
    | .error (.text e) => [⟨.warn, "ignoring malformed tag " ++ raw ++ ": " ++ e.message⟩]
    | .ok pairs =>
      if (Tag.get? pairs r.namingKey).isSome then []
      else [⟨.trace, "tag " ++ raw ++ " has no \x60" ++ r.namingKey ++ "\x60 key"⟩]

end TagRules

end CodecGen
