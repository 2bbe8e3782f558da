import CodecGen.Emit.Basic

/-!
# Code for arrays and maps

The elements of an array and the values of a map are all converted alike, by the entry of their
type. Where the type has none, the methods are written without a body.
-/

namespace CodecGen

/-- What the templates for elements and values are filled from. -/
def containerInput (s : Setting) (slot : Slot) (owner : String) (resolved : Resolved) :
    MemberInput where
  slot := slot
  owner := owner
  field := ""
  key := ""
  omitEmpty := ""
  layout := s.rules.defaultLayout
  concrete := resolved.concrete

/-- The code that converts elements or values in a direction. -/
def containerConversion (s : Setting) (slot : Slot) (owner : String) (resolved : Resolved)
    (d : Direction) : Fragment :=
  .member resolved.key d (containerInput s slot owner resolved)

/-- Write the code that converts elements or values; none where their type has no entry. -/
def writeContained (s : Setting) (slot : Slot) (owner : String) (resolved : Option Resolved)
    (d : Direction) : Drive Unit :=
  match resolved with
  | none => pure ()
  | some r => Drive.write (containerConversion s slot owner r d)

/-- The entry of a type by its signature, noted when there is none. -/
def lookUp (s : Setting) (signature : Signature) (what : String) : Drive (Option Resolved) := do
  Drive.leave (signature.resolveNotes s.table)
  match signature.resolve? s.table with
  | none =>
    Drive.note .debug (what ++ signature.text)
    pure none
  | some resolved => pure (some resolved)

/-- Write the code for an array. One key is reported for it where its elements have an entry. -/
def emitArray (s : Setting) (owner : String) (elem : GoType) : Drive Nat := do
  let signature ← Drive.ofExcept (Signature.ofArrayElement elem)
  let resolved ← lookUp s signature ("array " ++ owner ++ ": no template for element ")
  Drive.frame .arrayUnmarshal owner
  writeContained s .element owner resolved .unmarshal
  Drive.frame .unmarshalClose owner
  Drive.frame .arrayMarshal owner
  writeContained s .element owner resolved .marshal
  Drive.frame .marshalClose owner
  Drive.frame .arrayIsNil owner
  pure (if resolved.isSome then 1 else 0)

/-- Note that keys of a type are decoded as text all the same, unless they are text. -/
def noteKeyType (owner : String) : GoType → Drive Unit
  | .ident "string" => pure ()
  | key =>
    Drive.note .warn ("map " ++ owner ++ ": JSON object keys decode as string, key type is " ++
      key.shape)

/-- Write the code for a map. The keys are encoded as text, so that any other type of key is
noted. -/
def emitMap (s : Setting) (owner : String) (key value : GoType) : Drive Nat := do
  noteKeyType owner key
  let signature ← Drive.ofExcept (Signature.ofMapValue value)
  let resolved ← lookUp s signature ("map " ++ owner ++ ": no template for value ")
  Drive.frame .mapUnmarshal owner
  writeContained s .entry owner resolved .unmarshal
  Drive.frame .unmarshalClose owner
  Drive.frame .mapNKeys owner
  Drive.frame .mapMarshal owner
  writeContained s .entry owner resolved .marshal
  Drive.frame .marshalClose owner
  Drive.frame .mapIsNil owner
  pure 0

end CodecGen
