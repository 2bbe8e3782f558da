import CodecGen.Entry.Key
import CodecGen.Template.Basic

/-!
# How a type is converted

A `Style` is all that the code for a member depends on: the stem of the codec methods, the spelling
of the type, and how values are handed to encoders and set up for decoders. `EntryKey.style` gives
the style of each entry; the six templates of an entry are written from it.
-/

namespace CodecGen

/-- How a value that is at hand is handed to an encoder. -/
inductive Passing where
  | asIs
  /-- What the value points to. -/
  | target
  /-- A pointer to the value. -/
  | address
  deriving DecidableEq, Repr, Inhabited

/-- The operator written before a value that is handed over. -/
def Passing.mark : Passing → String
  | asIs => ""
  | target => "*"
  | address => "&"

/-- How a value is set up for a decoder to fill. -/
inductive Creation where
  /-- By its type alone, as the zero value. -/
  | zero
  /-- By a literal without elements. -/
  | literal
  /-- By a pointer to a literal without elements. -/
  | pointer
  /-- By `make`, without elements. -/
  | make
  deriving DecidableEq, Repr, Inhabited

/-- How members of a type are converted. -/
structure Style where
  /-- The stem of the names of codec methods. -/
  stem : String
  /-- The spelling of the type, pointers apart. -/
  type : Template
  /-- The members are pointers. -/
  pointer : Bool
  /-- The name that the code has for one value. -/
  letter : String
  /-- What encoder methods are given. -/
  passing : Passing
  /-- What code for a loop over a map encodes is a copy of the value in the map. -/
  copies : Bool
  /-- Loops over an array go by index. -/
  byIndex : Bool
  /-- How decoded values of maps and arrays are set up. -/
  creation : Creation
  /-- How a missing target of a field is set up. -/
  target : Creation
  /-- The encoder has a method that leaves out empty values. -/
  omits : Bool
  /-- What codec methods are given after the value. -/
  extra : Template
  deriving Repr, Inhabited

namespace Style

/-- Types that are handed over by value. -/
def scalar (p : Primitive) (pointer : Bool) : Style where
  stem := p.method
  type := .text p.spelling
  pointer := pointer
  letter := "e"
  passing := if pointer then .target else .asIs
  copies := false
  byIndex := false
  creation := .zero
  target := .zero
  omits := true
  extra := []

/-- Types that wrap a value which may be missing. -/
def nullable (p : Primitive) (pointer : Bool) : Style where
  stem := p.method
  type := .text p.spelling
  pointer := pointer
  letter := "e"
  passing := if pointer then .asIs else .address
  copies := !pointer
  byIndex := !pointer
  creation := .zero
  target := .pointer
  omits := true
  extra := []

/-- Times, whose methods are given a layout too. -/
def time (pointer : Bool) : Style where
  stem := Primitive.time.method
  type := .text Primitive.time.spelling
  pointer := pointer
  letter := "t"
  passing := if pointer then .asIs else .address
  copies := false
  byIndex := !pointer
  creation := .zero
  target := .pointer
  omits := true
  extra := .text ", " ++ .hole .format

/-- Declared structs. -/
def object (pointer : Bool) : Style where
  stem := "Object"
  type := .hole .typeName
  pointer := pointer
  letter := "s"
  passing := if pointer then .asIs else .address
  copies := !pointer
  byIndex := !pointer
  creation := if pointer then .pointer else .literal
  target := .pointer
  omits := true
  extra := []

/-- Declared arrays. -/
def array (pointer : Bool) : Style where
  stem := "Array"
  type := .hole .typeName
  pointer := pointer
  letter := "a"
  passing := if pointer then .asIs else .address
  copies := !pointer
  byIndex := !pointer
  creation := if pointer then .make else .literal
  target := .make
  omits := true
  extra := []

/-- Declared types of any other kind. -/
def any (pointer : Bool) : Style where
  stem := "Any"
  type := .hole .typeName
  pointer := pointer
  letter := "a"
  passing := if pointer then .target else .asIs
  copies := false
  byIndex := false
  creation := .zero
  target := .zero
  omits := false
  extra := []

end Style

/-- How the members are converted that an entry is for. -/
def EntryKey.style (k : EntryKey) : Style :=
  match k.base with
  | .primitive p =>
    if p = .time then .time k.pointer
    else if p.isNullable then .nullable p k.pointer
    else .scalar p k.pointer
  | .wildcard .struct => .object k.pointer
  | .wildcard .array => .array k.pointer
  | .wildcard .any => .any k.pointer

end CodecGen
