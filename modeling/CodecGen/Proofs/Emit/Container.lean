import CodecGen.Proofs.Emit.Render

/-!
# What is written for arrays and maps

The code for an array or a map depends only on the entry found for its elements or values: both of
its methods have a body where there is an entry, and none has where there is not.
-/

namespace CodecGen

open Drive
open Fragment (textOf)

/-! ## The parts -/

/-- Noting what is missing does not write anything. -/
theorem lookUp_returns (s : Setting) (signature : Signature) (what : String) :
    Returns (lookUp s signature what) (signature.resolve? s.table) [] := by
  unfold lookUp
  refine Returns.bind_nil (returns_leave _) ?_
  cases signature.resolve? s.table with
  | none => exact Returns.bind_nil (returns_note _ _) (returns_pure _)
  | some r => exact returns_pure _

/-- What is noted about the type of keys does not write anything. -/
theorem noteKeyType_returns (owner : String) (key : GoType) :
    Returns (noteKeyType owner key) () [] := by
  unfold noteKeyType
  split
  · exact returns_pure ()
  · exact returns_note _ _

/-- The fragments between the head and the tail of a method of an array or a map. -/
def containerBody (s : Setting) (slot : Slot) (owner : String) (resolved : Option Resolved)
    (d : Direction) : List Fragment :=
  (resolved.map fun r => containerConversion s slot owner r d).toList

/-- The text of such a body; none without an entry. -/
def bodyText (resolved : Option Resolved) (text : Resolved → String) : String :=
  (resolved.map text).getD ""

section

variable (s : Setting) (owner : String)

/-- What encodes the elements of an array is their loop, with the default layout. -/
theorem render_arrayEncoding (r : Resolved) :
    (containerConversion s .element owner r .marshal).render =
      .ok (r.key.elementEncoding s.rules.defaultLayout) :=
  r.key.render_elementEncoding rfl

/-- What decodes an element of an array is written for its type, with the default layout. -/
theorem render_arrayDecoding (r : Resolved) :
    (containerConversion s .element owner r .unmarshal).render =
      .ok (r.key.elementDecoding (r.concrete.getD owner) s.rules.defaultLayout) :=
  r.key.render_elementDecoding rfl

/-- What encodes the values of a map is their loop, with the default layout. -/
theorem render_mapEncoding (r : Resolved) :
    (containerConversion s .entry owner r .marshal).render =
      .ok (r.key.entryEncoding s.rules.defaultLayout) :=
  r.key.render_entryEncoding rfl

/-- What decodes a value of a map is written for its type, with the default layout. -/
theorem render_mapDecoding (r : Resolved) :
    (containerConversion s .entry owner r .unmarshal).render =
      .ok (r.key.entryDecoding (r.concrete.getD owner) s.rules.defaultLayout) :=
  r.key.render_entryDecoding rfl

variable {s owner} {slot : Slot} {d : Direction} {text : Resolved → String}

/-- A body is written where there is an entry for it. -/
theorem writeContained_returns
    (h : ∀ r, (containerConversion s slot owner r d).render = .ok (text r))
    (resolved : Option Resolved) :
    Returns (writeContained s slot owner resolved d) ()
      (containerBody s slot owner resolved d) := by
  cases resolved with
  | none => exact returns_pure ()
  | some r => exact returns_write (h r)

/-- The text of a body is that of its one conversion, or nothing. -/
theorem textOf_containerBody
    (h : ∀ r, (containerConversion s slot owner r d).render = .ok (text r))
    (resolved : Option Resolved) :
    textOf (containerBody s slot owner resolved d) = bodyText resolved text := by
  cases resolved with
  | none => rfl
  | some r =>
    show textOf [containerConversion s slot owner r d] = text r
    rw [Fragment.textOf_cons, Fragment.textOf_nil, String.append_empty,
      Fragment.text_of_render (h r)]

end

/-! ## Arrays -/

/-- The code for an array whose elements have the given entry. -/
def arrayCode (s : Setting) (owner : String) (resolved : Option Resolved) : List Fragment :=
  .named .arrayUnmarshal owner :: (containerBody s .element owner resolved .unmarshal ++
    .named .unmarshalClose owner :: .named .arrayMarshal owner ::
      (containerBody s .element owner resolved .marshal ++
        [.named .marshalClose owner, .named .arrayIsNil owner]))

/-- The methods of an array with the given bodies. -/
def arrayText (owner decoding encoding : String) : String :=
  headText "UnmarshalJSONArray decodes JSON array elements into slice" "*"
      "UnmarshalJSONArray(dec *gojay.Decoder) error \x7b\n" owner ++
    decoding ++ "\treturn nil\n\x7d\n" ++
    headText "MarshalJSONArray encodes arrays into JSON" "*"
      "MarshalJSONArray(enc *gojay.Encoder) \x7b\n" owner ++
    encoding ++ "\x7d\n" ++
    headText "IsNil implements MarshalerJSONArray" "*"
      "IsNil() bool \x7b\n\treturn *v == nil || len(*v) == 0\n\x7d\n" owner

/-- An array is generated where its elements have a signature. -/
theorem emitArray_returns {s : Setting} {elem : GoType} {signature : Signature}
    (h : Signature.ofArrayElement elem = .ok signature) (owner : String) :
    Returns (emitArray s owner elem) (if (signature.resolve? s.table).isSome then 1 else 0)
      (arrayCode s owner (signature.resolve? s.table)) := by
  refine Returns.bind_nil (returns_ofExcept h) ?_
  refine Returns.bind_nil (lookUp_returns s signature _) ?_
  refine Returns.after_write (Fragment.render_named_head rfl owner) ?_
  refine Returns.bind (writeContained_returns (render_arrayDecoding s owner) _) ?_
  refine Returns.after_write (Fragment.render_named_fixed rfl owner) ?_
  refine Returns.after_write (Fragment.render_named_head rfl owner) ?_
  refine Returns.bind (writeContained_returns (render_arrayEncoding s owner) _) ?_
  refine Returns.after_write (Fragment.render_named_fixed rfl owner) ?_
  exact Returns.after_write (Fragment.render_named_head rfl owner) (returns_pure _)

/-- An array whose elements have no signature is not written at all. -/
theorem emitArray_fails {elem : GoType} {e : GenError}
    (h : Signature.ofArrayElement elem = .error e) (s : Setting) (owner : String) :
    (emitArray s owner elem).result = .error e ∧ (emitArray s owner elem).code = [] := by
  unfold emitArray
  rw [h]
  exact ⟨rfl, rfl⟩

/-- The code for an array is its methods, with the bodies for its entry. -/
theorem textOf_arrayCode (s : Setting) (owner : String) (resolved : Option Resolved) :
    textOf (arrayCode s owner resolved) =
      arrayText owner
        (bodyText resolved fun r =>
          r.key.elementDecoding (r.concrete.getD owner) s.rules.defaultLayout)
        (bodyText resolved fun r => r.key.elementEncoding s.rules.defaultLayout) := by
  unfold arrayCode arrayText
  have hdecode := Fragment.text_of_render
    (Fragment.render_named_head (f := .arrayUnmarshal) rfl owner)
  have hdecoded := Fragment.text_of_render
    (Fragment.render_named_fixed (f := .unmarshalClose) rfl owner)
  have hencode := Fragment.text_of_render
    (Fragment.render_named_head (f := .arrayMarshal) rfl owner)
  have hencoded := Fragment.text_of_render
    (Fragment.render_named_fixed (f := .marshalClose) rfl owner)
  have hnil := Fragment.text_of_render (Fragment.render_named_head (f := .arrayIsNil) rfl owner)
  simp only [Fragment.textOf_append, Fragment.textOf_cons, Fragment.textOf_nil,
    String.append_empty, String.append_assoc, hdecode, hdecoded, hencode, hencoded, hnil,
    textOf_containerBody (render_arrayDecoding s owner),
    textOf_containerBody (render_arrayEncoding s owner)]

/-! ## Maps -/

/-- The code for a map whose values have the given entry. -/
def mapCode (s : Setting) (owner : String) (resolved : Option Resolved) : List Fragment :=
  .named .mapUnmarshal owner :: (containerBody s .entry owner resolved .unmarshal ++
    .named .unmarshalClose owner :: .named .mapNKeys owner :: .named .mapMarshal owner ::
      (containerBody s .entry owner resolved .marshal ++
        [.named .marshalClose owner, .named .mapIsNil owner]))

/-- The methods of a map with the given bodies. -/
def mapText (owner decoding encoding : String) : String :=
  headText Frame.unmarshalObjectComment "" Frame.unmarshalObject owner ++
    decoding ++ "\treturn nil\n\x7d\n" ++
    headText Frame.nKeysComment "" "NKeys() int \x7b return 0 \x7d\n" owner ++
    headText Frame.marshalObjectComment "" Frame.marshalObject owner ++
    encoding ++ "\x7d\n" ++
    headText Frame.isNilComment "" "IsNil() bool \x7b return v == nil || len(v) == 0 \x7d\n" owner

/-- A map is generated where its values have a signature. -/
theorem emitMap_returns {s : Setting} {value : GoType} {signature : Signature}
    (h : Signature.ofMapValue value = .ok signature) (owner : String) (key : GoType) :
    Returns (emitMap s owner key value) 0 (mapCode s owner (signature.resolve? s.table)) := by
  unfold emitMap
  refine Returns.bind_nil (noteKeyType_returns owner key) ?_
  refine Returns.bind_nil (returns_ofExcept h) ?_
  refine Returns.bind_nil (lookUp_returns s signature _) ?_
  refine Returns.after_write (Fragment.render_named_head rfl owner) ?_
  refine Returns.bind (writeContained_returns (render_mapDecoding s owner) _) ?_
  refine Returns.after_write (Fragment.render_named_fixed rfl owner) ?_
  refine Returns.after_write (Fragment.render_named_head rfl owner) ?_
  refine Returns.after_write (Fragment.render_named_head rfl owner) ?_
  refine Returns.bind (writeContained_returns (render_mapEncoding s owner) _) ?_
  refine Returns.after_write (Fragment.render_named_fixed rfl owner) ?_
  exact Returns.after_write (Fragment.render_named_head rfl owner) (returns_pure _)

/-- A map whose values have no signature is not written at all. -/
theorem emitMap_fails {value : GoType} {e : GenError} (h : Signature.ofMapValue value = .error e)
    (s : Setting) (owner : String) (key : GoType) :
    (emitMap s owner key value).result = .error e ∧ (emitMap s owner key value).code = [] := by
  unfold emitMap noteKeyType
  rw [h]
  split <;> exact ⟨rfl, rfl⟩

/-- The code for a map is its methods, with the bodies for its entry. -/
theorem textOf_mapCode (s : Setting) (owner : String) (resolved : Option Resolved) :
    textOf (mapCode s owner resolved) =
      mapText owner
        (bodyText resolved fun r =>
          r.key.entryDecoding (r.concrete.getD owner) s.rules.defaultLayout)
        (bodyText resolved fun r => r.key.entryEncoding s.rules.defaultLayout) := by
  unfold mapCode mapText
  have hdecode := Fragment.text_of_render
    (Fragment.render_named_head (f := .mapUnmarshal) rfl owner)
  have hdecoded := Fragment.text_of_render
    (Fragment.render_named_fixed (f := .unmarshalClose) rfl owner)
  have hcount := Fragment.text_of_render (Fragment.render_named_head (f := .mapNKeys) rfl owner)
  have hencode := Fragment.text_of_render (Fragment.render_named_head (f := .mapMarshal) rfl owner)
  have hencoded := Fragment.text_of_render
    (Fragment.render_named_fixed (f := .marshalClose) rfl owner)
  have hnil := Fragment.text_of_render (Fragment.render_named_head (f := .mapIsNil) rfl owner)
  simp only [Fragment.textOf_append, Fragment.textOf_cons, Fragment.textOf_nil,
    String.append_empty, String.append_assoc, hdecode, hdecoded, hcount, hencode, hencoded, hnil,
    textOf_containerBody (render_mapDecoding s owner),
    textOf_containerBody (render_mapEncoding s owner)]

end CodecGen
