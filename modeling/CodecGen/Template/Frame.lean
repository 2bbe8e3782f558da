import CodecGen.Template.Basic

/-!
# Frames

The fixed text around the code for members: the header of a file, and the heads and tails of methods
for structs, arrays and maps.
-/

namespace CodecGen

/-- A piece of fixed text around the code for members. -/
inductive Frame where
  | header
  | structUnmarshal
  | switchOpen
  | case
  | switchClose
  | unmarshalClose
  | structNKeys
  | structMarshal
  | marshalClose
  | structIsNil
  | arrayUnmarshal
  | arrayMarshal
  | arrayIsNil
  | mapUnmarshal
  | mapNKeys
  | mapMarshal
  | mapIsNil
  deriving DecidableEq, Repr, Inhabited

namespace Frame

open Template (text hole)

/-- All frames. -/
def all : List Frame :=
  [header, structUnmarshal, switchOpen, case, switchClose, unmarshalClose, structNKeys,
    structMarshal, marshalClose, structIsNil, arrayUnmarshal, arrayMarshal, arrayIsNil,
    mapUnmarshal, mapNKeys, mapMarshal, mapIsNil]

/-- The name of a frame. -/
def name : Frame → String
  | header => "frame.header"
  | structUnmarshal => "frame.struct.unmarshal"
  | switchOpen => "frame.switch.open"
  | case => "frame.case"
  | switchClose => "frame.switch.close"
  | unmarshalClose => "frame.unmarshal.close"
  | structNKeys => "frame.struct.nkeys"
  | structMarshal => "frame.struct.marshal"
  | marshalClose => "frame.marshal.close"
  | structIsNil => "frame.struct.isnil"
  | arrayUnmarshal => "frame.array.unmarshal"
  | arrayMarshal => "frame.array.marshal"
  | arrayIsNil => "frame.array.isnil"
  | mapUnmarshal => "frame.map.unmarshal"
  | mapNKeys => "frame.map.nkeys"
  | mapMarshal => "frame.map.marshal"
  | mapIsNil => "frame.map.isnil"

/-- The frame with a name. -/
def ofName? (name : String) : Option Frame :=
  all.find? fun f => f.name = name

/-- The line by which a file that this tool wrote is known. -/
def markerLine : String :=
  "// Code generated by gojay-gen. DO NOT EDIT.\n"

/-- The head of a method: a comment, the receiver, and the method's name with its signature. -/
def methodHead (comment receiver signature : String) : Template :=
  text ("\n// " ++ comment ++ "\nfunc (v " ++ receiver) ++ hole .typeName ++
    text (") " ++ signature)

/-- The comment on decoding methods of structs and maps. -/
def unmarshalObjectComment : String :=
  "UnmarshalJSONObject implements gojay's UnmarshalerJSONObject"

/-- The comment on encoding methods of structs and maps. -/
def marshalObjectComment : String :=
  "MarshalJSONObject implements gojay's MarshalerJSONObject"

/-- The comment on methods that count keys. -/
def nKeysComment : String :=
  "NKeys returns the number of keys to unmarshal"

/-- The comment on the nil tests of structs and maps. -/
def isNilComment : String :=
  "IsNil returns wether the structure is nil value or not"

/-- The head of the decoding method of structs and maps. -/
def unmarshalObject : String :=
  "UnmarshalJSONObject(dec *gojay.Decoder, k string) error \x7b\n"

/-- The head of the encoding method of structs and maps. -/
def marshalObject : String :=
  "MarshalJSONObject(enc *gojay.Encoder) \x7b\n"

/-- The text of a frame. -/
def template : Frame → Template
  | header =>
    text (markerLine ++ "\npackage ") ++ hole .package ++ text "\n\nimport (\n" ++
      [.importLines .imports] ++ text "\t\"" ++ hole .importPath ++ text "\"\n)\n"
  | structUnmarshal => methodHead unmarshalObjectComment "*" unmarshalObject
  | switchOpen => text "\tswitch k \x7b\n"
  | case => text "\tcase \"" ++ hole .key ++ text "\":\n"
  | switchClose => text "\t\x7d\n"
  | unmarshalClose => text "\treturn nil\n\x7d\n"
  | structNKeys =>
    methodHead nKeysComment "*" "NKeys() int \x7b return " ++ hole .nKeys ++
      text " \x7d\n"
  | structMarshal => methodHead marshalObjectComment "*" marshalObject
  | marshalClose => text "\x7d\n"
  | structIsNil => methodHead isNilComment "*" "IsNil() bool \x7b return v == nil \x7d\n"
  | arrayUnmarshal =>
    methodHead "UnmarshalJSONArray decodes JSON array elements into slice" "*"
      "UnmarshalJSONArray(dec *gojay.Decoder) error \x7b\n"
  | arrayMarshal =>
    methodHead "MarshalJSONArray encodes arrays into JSON" "*"
      "MarshalJSONArray(enc *gojay.Encoder) \x7b\n"
  | arrayIsNil =>
    methodHead "IsNil implements MarshalerJSONArray" "*"
      "IsNil() bool \x7b\n\treturn *v == nil || len(*v) == 0\n\x7d\n"
  | mapUnmarshal => methodHead unmarshalObjectComment "" unmarshalObject
  | mapNKeys => methodHead nKeysComment "" "NKeys() int \x7b return 0 \x7d\n"
  | mapMarshal => methodHead marshalObjectComment "" marshalObject
  | mapIsNil =>
    methodHead isNilComment "" "IsNil() bool \x7b return v == nil || len(v) == 0 \x7d\n"

end Frame

end CodecGen
