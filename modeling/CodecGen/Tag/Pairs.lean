import CodecGen.Tag.Literal
import CodecGen.Text.Basic

/-!
# Pairs of a tag

A tag is a row of pairs, each a key, a colon and an interpreted literal, with blanks before them.
The value of a pair is a name and options, with commas between them. `Tag.parse` reads a tag; what
it finds wrong it reports with the number of bytes before that place.
-/

namespace CodecGen.Tag

open CodecGen.Text

/-- One pair of a tag. -/
structure Pair where
  /-- The key. -/
  key : String
  /-- The first part of the value. -/
  name : String
  /-- The other parts of the value. -/
  options : List String
  deriving DecidableEq, Repr, Inhabited

/-- The parts of a pair that can be malformed. -/
inductive Part where
  | pair
  | key
  | value
  deriving DecidableEq, Repr, Inhabited

/-- The word for a part of a pair. -/
def Part.label : Part → String
  | pair => "pair"
  | key => "key"
  | value => "value"

/-- A malformed part of a tag. -/
structure Fault where
  /-- What is malformed. -/
  part : Part
  /-- The number of bytes before it. -/
  offset : Nat
  deriving DecidableEq, Repr, Inhabited

/-- The message for a malformed tag. -/
def Fault.message (e : Fault) : String :=
  "bad syntax for struct tag " ++ e.part.label ++ " at byte " ++ toString e.offset

/-- The pair of a key and a decoded value. -/
def Pair.ofValue (key value : List Char) : Pair :=
  let parts := (split ',' value).map String.ofList
  ⟨String.ofList key, parts.headD "", parts.tail⟩

/-- The pair has an option. -/
def Pair.hasOption (p : Pair) (option : String) : Bool :=
  p.options.contains option

/-- The characters of keys. -/
def isKeyChar (c : Char) : Bool :=
  ' ' < c && c != ':' && c != '"' && c != '\x7f'

/-- Cut after the closing quote of a literal, from the character after its opening quote on. A
character after a backslash does not count. -/
def closing? : List Char → Option (List Char × List Char)
  | [] => none
  | ['\\'] => none
  | '\\' :: c :: rest => (closing? rest).map fun p => ('\\' :: c :: p.1, p.2)
  | c :: rest =>
    if c = '"' then some ([c], rest) else (closing? rest).map fun p => (c :: p.1, p.2)

/-- The pair that a tag begins with, the text it was read from, and the rest. `offset` counts the
bytes before the pair. -/
def front (offset : Nat) (cs : List Char) : Except Fault (Pair × List Char × List Char) :=
  let key := cs.takeWhile isKeyChar
  if key = [] then .error ⟨.key, offset⟩
  else
    match cs.dropWhile isKeyChar with
    | ':' :: '"' :: rest =>
      match closing? rest with
      | none => .error ⟨.value, offset + byteLength key + 1⟩
      | some (body, rest) =>
        match unquote? ('"' :: body) with
        | none => .error ⟨.value, offset + byteLength key + 1⟩
        | some value => .ok (.ofValue key value, key ++ ':' :: '"' :: body, rest)
    | _ => .error ⟨.pair, offset + byteLength key⟩

/-- A literal that is cut off and what follows it are the text again. -/
theorem closing?_append {cs body rest : List Char} (h : closing? cs = some (body, rest)) :
    body ++ rest = cs := by
  fun_induction closing? cs generalizing body rest with
  | case1 => simp at h
  | case2 => simp at h
  | case3 c cs ih =>
    obtain ⟨⟨b, r⟩, hb, heq⟩ := Option.map_eq_some_iff.1 h
    cases heq
    simp [ih hb]
  | case4 cs =>
    cases h
    rfl
  | case5 c cs _ _ _ ih =>
    obtain ⟨⟨b, r⟩, hb, heq⟩ := Option.map_eq_some_iff.1 h
    cases heq
    simp [ih hb]

/-- The text of a pair and the rest are the tag, and a pair has some text. -/
theorem front_split {offset : Nat} {cs text rest : List Char} {p : Pair}
    (h : front offset cs = .ok (p, text, rest)) : text ++ rest = cs ∧ text ≠ [] := by
  unfold front at h
  simp only at h
  split at h
  · simp at h
  · rename_i hkey
    split at h
    · rename_i after hdrop
      split at h
      · simp at h
      · rename_i body rest' hclose
        split at h
        · simp at h
        · simp only [Except.ok.injEq, Prod.mk.injEq] at h
          obtain ⟨_, rfl, rfl⟩ := h
          refine ⟨?_, by simp⟩
          have happ := List.takeWhile_append_dropWhile (p := isKeyChar) (l := cs)
          rw [hdrop, ← closing?_append hclose] at happ
          simpa using happ
    · simp at h

/-- What follows a pair is shorter than the text, so that reading one pair after another ends. -/
theorem length_lt_of_front {offset : Nat} {cs text rest : List Char} {p : Pair}
    (h : front offset cs = .ok (p, text, rest)) : rest.length < cs.length := by
  obtain ⟨rfl, ht⟩ := front_split h
  have := List.length_pos_iff.mpr ht
  simp only [List.length_append]
  omega

/-- The pairs of a tag from some point on; `offset` counts the bytes before it. -/
def parseFrom (offset : Nat) (cs : List Char) : Except Fault (List Pair) :=
  match cs with
  | [] => .ok []
  | ' ' :: rest => parseFrom (offset + 1) rest
  | c :: rest =>
    match h : front offset (c :: rest) with
    | .error e => .error e
    | .ok (p, text, rest') =>
      have := length_lt_of_front h
      (parseFrom (offset + byteLength text) rest').map (p :: ·)
termination_by cs.length
decreasing_by all_goals simp only [List.length_cons] at *; omega

/-- The pairs of a tag, in order. -/
def parse (text : String) : Except Fault (List Pair) :=
  parseFrom 0 text.toList

/-- The first pair with a key. -/
def get? (pairs : List Pair) (key : String) : Option Pair :=
  pairs.find? fun p => p.key = key

end CodecGen.Tag
