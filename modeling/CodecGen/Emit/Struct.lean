import CodecGen.Emit.Basic

/-!
# Code for structs

A struct is encoded and decoded field by field, in two passes over its named fields. When decoding,
each key goes to the first field that takes it, because the cases of the generated switch must
differ: a field that is hidden, repeats a key or has no entry takes none.
-/

namespace CodecGen

/-- One field of a struct, as the passes over the fields meet it. -/
inductive FieldVisit where
  /-- An embedded field. -/
  | embedded (type : GoType)
  /-- One of the names of a field line. -/
  | named (name : String) (field : Field)
  deriving Repr, Inhabited

/-- The fields of a struct, name by name. -/
def fieldVisits (fields : List Field) : List FieldVisit :=
  fields.flatMap fun f =>
    if f.isEmbedded then [.embedded f.type] else f.names.map fun name => .named name f

/-- A field that is converted. -/
structure FieldMember where
  /-- Its name. -/
  name : String
  /-- The key it is converted under. -/
  key : String
  /-- What its tag decides. -/
  policy : Policy
  /-- The entry of its type. -/
  resolved : Resolved
  deriving DecidableEq, Repr, Inhabited

namespace FieldMember

/-- What the templates for a field are filled from. -/
def input (m : FieldMember) (owner : String) : MemberInput where
  slot := .field
  owner := owner
  field := m.name
  key := m.key
  omitEmpty := m.policy.omitEmptySuffix
  layout := m.policy.layout
  concrete := m.resolved.concrete

/-- The case label that a field is decoded under. -/
def label (m : FieldMember) (owner : String) : Fragment :=
  .frame .case [(.typeName, .text owner), (.key, .text m.key)]

/-- The code that converts a field in a direction. -/
def conversion (m : FieldMember) (owner : String) (d : Direction) : Fragment :=
  .member m.resolved.key d (m.input owner)

end FieldMember

/-- Write the code for a field in a direction, after its case label when decoding. False where its
type has no entry, so that nothing is written. -/
def writeField (s : Setting) (owner name : String) (field : Field) (policy : Policy)
    (d : Direction) : Drive Bool := do
  let signature ← Drive.ofExcept (Signature.ofField field.type)
  Drive.leave (signature.resolveNotes s.table)
  match signature.resolve? s.table with
  | none =>
    Drive.note .debug (owner ++ "." ++ name ++ ": no template for " ++ signature.text)
    pure false
  | some resolved =>
    let m : FieldMember := ⟨name, policy.keyFor name, policy, resolved⟩
    if d = .unmarshal then Drive.write (m.label owner)
    Drive.write (m.conversion owner d)
    pure true

/-- Write the cases that decode fields, and count them. `taken` holds the keys that have cases
already. -/
def decodeFields (s : Setting) (owner : String) (taken : List String) :
    List FieldVisit → Drive Nat
  | [] => pure 0
  | .embedded type :: rest => do
    Drive.note .debug ("skipping embedded field of type " ++ type.shape)
    decodeFields s owner taken rest
  | .named name field :: rest => do
    let policy := s.rules.policy field.tag
    let key := policy.keyFor name
    let title := owner ++ "." ++ name
    Drive.leave (s.rules.notes field.tag)
    if policy.hideUnmarshal then
      Drive.note .debug (title ++ ": hidden from " ++ Direction.unmarshal.label)
      decodeFields s owner taken rest
    else if key ∈ taken then
      Drive.note .warn
        (title ++ ": key \"" ++ key ++ "\" already decoded by another field, not decoded")
      decodeFields s owner taken rest
    else if ← writeField s owner name field policy .unmarshal then
      let keys ← decodeFields s owner (key :: taken) rest
      pure (keys + 1)
    else decodeFields s owner taken rest

/-- Write the statements that encode fields, and count them. -/
def encodeFields (s : Setting) (owner : String) : List FieldVisit → Drive Nat
  | [] => pure 0
  | .embedded type :: rest => do
    Drive.note .debug ("skipping embedded field of type " ++ type.shape)
    encodeFields s owner rest
  | .named name field :: rest => do
    let policy := s.rules.policy field.tag
    Drive.leave (s.rules.notes field.tag)
    if policy.hideMarshal then
      Drive.note .debug (owner ++ "." ++ name ++ ": hidden from " ++ Direction.marshal.label)
      encodeFields s owner rest
    else if ← writeField s owner name field policy .marshal then
      let keys ← encodeFields s owner rest
      pure (keys + 1)
    else encodeFields s owner rest

/-- Write the switch over the keys of a struct, and count its cases. A struct without fields has no
switch. -/
def decodeSwitch (s : Setting) (owner : String) (fields : List Field) : Drive Nat :=
  if fields.isEmpty then pure 0
  else do
    Drive.frame .switchOpen owner
    let keys ← decodeFields s owner [] (fieldVisits fields)
    Drive.frame .switchClose owner
    pure keys

/-- Write the method that decodes a struct, and count the keys that it knows. -/
def decodeStruct (s : Setting) (owner : String) (fields : List Field) : Drive Nat := do
  Drive.frame .structUnmarshal owner
  let keys ← decodeSwitch s owner fields
  Drive.frame .unmarshalClose owner
  pure keys

/-- Write the method that encodes a struct, and count the fields that it encodes. -/
def encodeStruct (s : Setting) (owner : String) (fields : List Field) : Drive Nat := do
  Drive.frame .structMarshal owner
  let keys ← encodeFields s owner (fieldVisits fields)
  Drive.frame .marshalClose owner
  pure keys

/-- The fragment for the method that counts the keys of a struct. -/
def keyCount (owner : String) (keys : Nat) : Fragment :=
  .frame .structNKeys [(.typeName, .text owner), (.nKeys, .number keys)]

/-- Write the code for a struct. The number of keys that are decoded is reported for it. -/
def emitStruct (s : Setting) (owner : String) (fields : List Field) : Drive Nat := do
  let keys ← decodeStruct s owner fields
  Drive.write (keyCount owner keys)
  let encoded ← encodeStruct s owner fields
  Drive.frame .structIsNil owner
  Drive.note .debug ("struct " ++ owner ++ ": " ++ toString keys ++ " keys decoded, " ++
    toString encoded ++ " encoded")
  pure keys

end CodecGen
